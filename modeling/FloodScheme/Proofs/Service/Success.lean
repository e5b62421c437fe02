import FloodScheme.Proofs.Saving.Success
import FloodScheme.Proofs.Service.Window

/-! Requests that validate, and the same requests to save. A request that validates is saved if its
values fit their columns; the tables of which this is true are those that requests leave. -/
namespace FloodScheme
open Outcome

namespace Service

variable {s : Service} {r : Request} {now : String}

theorem faults_of_ok (mode : s.mode = .ok) (tables : s.tablesExist = true) :
    s.faults = s.engine.faults := by
  funext op
  have quiet : s.mode.faults s.tablesExist op = none := by
    rw [mode, tables, DatabaseMode.faults]
    cases op.statement? with
    | none => rfl
    | some kind =>
      cases kind with
      | ping => rfl
      | catalogue => rfl
      | read => rfl
      | insert => rfl
      | update => rfl
  rw [faults, quiet, Option.none_or]

theorem answer_faults (s : Service) (r : Request) (now : String) :
    (s.answer r now).2.faults = s.faults := by
  cases found : Endpoint.find r.method r.path with
  | error response =>
    rw [answer, found]
  | ok e =>
    rw [answer_eq found]
    cases e with
    | upsert =>
      dsimp only [answerAt]
      rcases answerUpsert_cases s r now with ⟨-, same⟩ | ⟨p, q, saved, -, -, -, answered⟩
      · rw [same]
      · rw [answered]
        rfl
    | areas =>
      dsimp only [answerAt]
      unfold answerAreas
      split
      · rfl
      · split
        · rfl
        · rfl
    | root => rfl
    | health => rfl
    | ready => rfl
    | live => rfl
    | validate => rfl
    | checkName => rfl
    | project reference => rfl
    | area id => rfl

theorem after_faults (s : Service) (visits : List (Request × String)) :
    (s.after visits).faults = s.faults := by
  induction visits using List.reverseRecOn with
  | nil => rfl
  | append_singleton visits v ih => rw [after_concat, answer_faults, ih]

theorem answer_sound (sound : s.tables.Sound) (minted : Upsert.Minted s.tables) :
    (s.answer r now).2.tables.Sound ∧ Upsert.Minted (s.answer r now).2.tables := by
  rcases answer_tables s r now with same | ⟨u, p, q, -, -, -, ⟨x, new⟩ | ⟨x, x', again⟩⟩
  · rw [same]
    exact ⟨sound, minted⟩
  · obtain ⟨a, w, code, -, -, -, -, -, creates⟩ := new.creates
    exact ⟨creates.sound sound, creates.minted_after minted⟩
  · obtain ⟨w, -, -, updates⟩ := again.updates
    exact ⟨updates.sound sound, updates.minted_after minted⟩

theorem after_sound (visits : List (Request × String)) (sound : s.tables.Sound)
    (minted : Upsert.Minted s.tables) :
    (s.after visits).tables.Sound ∧ Upsert.Minted (s.after visits).tables := by
  induction visits using List.reverseRecOn with
  | nil => exact ⟨sound, minted⟩
  | append_singleton visits v ih =>
    rw [after_concat]
    exact answer_sound ih.1 ih.2

/-- The service before any scheme was made and any reference number was given out. -/
def blank (s : Service) : Service :=
  { s with tables :=
    { s.tables with projects := [], states := [], links := [], counters := [] } }

theorem blank_sound (s : Service) : s.blank.tables.Sound where
  indexed _ mem := absurd mem List.not_mem_nil
  single _ mem := absurd mem List.not_mem_nil
  first _ mem := absurd mem List.not_mem_nil

theorem blank_after (s : Service) (visits : List (Request × String)) :
    (s.blank.after visits).tables.Sound ∧ (s.blank.after visits).tables.Ahead := by
  have after := after_sound visits s.blank_sound (Upsert.Minted.start s.blank.tables)
  exact ⟨after.1, after.2.ahead⟩

theorem answerValidate_eq {p : Principal} {q : Proposal}
    (judged : s.withCaller r Request.proposal = .ok (p, q)) :
    s.answerValidate r =
      match q.vet s.database p with
      | .ok a => .ok (acceptanceBody a)
      | .error e => ofRejection e := by
  unfold answerValidate
  rw [judged]
  change merge (match q.vet s.database p with | .ok a => _ | .error e => _) = _
  cases q.vet s.database p with
  | error e => rfl
  | ok a => rfl

theorem vetted_of_answer (post : r.method = "POST") (path : r.path = "/api/v1/project/validate")
    (accepted : (s.answer r now).1.status < 400) :
    ∃ p q a, s.withCaller r Request.proposal = .ok (p, q) ∧ q.vet s.database p = .ok a := by
  have found : Endpoint.find r.method r.path = .ok .validate := by
    rw [post, path, find_validate]
  have taken : ¬ (s.answerValidate r).Refuses := by
    intro refused
    rw [answer_eq found, post] at accepted
    exact absurd accepted (Nat.not_lt.mpr (Response.refuses_written refused))
  cases judged : s.withCaller r Request.proposal with
  | error response =>
    refine absurd ?_ taken
    rw [answerValidate, judged]
    exact refuses_withCaller judged
  | ok both =>
    obtain ⟨p, q⟩ := both
    rw [answerValidate_eq judged] at taken
    cases vetted : q.vet s.database p with
    | error e =>
      rw [vetted] at taken
      exact absurd (refuses_ofRejection e) taken
    | ok a => exact ⟨p, q, a, rfl, vetted⟩

theorem answerUpsert_saved {p : Principal} {q : Proposal} {saved : Saved}
    (judged : s.withCaller r Request.proposal = .ok (p, q))
    (saves : (q.save s.database p now).1 = .ok saved) :
    (s.answerUpsert r now).1 = ⟨savedStatus saved, some (savedBody saved)⟩ := by
  unfold answerUpsert
  rw [judged]
  rcases hsave : q.save s.database p now with ⟨result, tables⟩
  rw [hsave] at saves
  obtain rfl : result = .ok saved := saves
  dsimp only
  rw [hsave]

/-- If `POST /api/v1/project/validate` answers 200, then `POST /api/v1/project/upsert` answers 200
or 201, provided that the engine stores every value within the declarations of the columns
(`Faithful`), the tables satisfy their constraints, the counters are ahead of the stored reference
numbers and the values fit the declared columns. The checks of the fields admit values that do not
fit: texts for truth values, texts and numbers wider than declared, texts of numbers that do not
read as doubles, and padded names of other schemes. -/
theorem saved_of_validated (faithful : s.faults.Faithful) (sound : s.tables.Sound)
    (ahead : s.tables.Ahead) (fits : ∀ q, r.Proposes q → q.Fits s.tables) (later : String) :
    let validate : Request := { r with method := "POST", path := "/api/v1/project/validate" }
    let upsert : Request := { r with method := "POST", path := "/api/v1/project/upsert" }
    (s.answer validate now).1.status = 200 →
      (s.answer upsert later).1.status = 200 ∨ (s.answer upsert later).1.status = 201 := by
  intro validate upsert valid
  obtain ⟨p, q, a, judged, vetted⟩ :=
    vetted_of_answer (r := validate) rfl rfl (by rw [valid]; decide)
  have same : s.withCaller upsert Request.proposal = .ok (p, q) := judged
  obtain ⟨called, sent, hsent, proposed⟩ := withCaller_eq_ok same
  obtain ⟨id, -, found⟩ := caller_eq_ok called
  obtain ⟨u, known, rights⟩ := principal_eq_ok found
  have user : ∃ w ∈ s.tables.users, p.userId.key? = some w.id :=
    ⟨u, Tables.mem_of_user? known, by rw [rights.userId, rights.key]⟩
  obtain ⟨saved, saves⟩ : ∃ saved, (q.save s.database p later).1 = .ok saved :=
    Proposal.save_succeeds faithful sound ahead (fits q ⟨sent, hsent, proposed⟩) user vetted
  have named : ∀ x ∈ s.tables.projects, ∃ name, x.name = .text name := fun x mem =>
    Upsert.name_of_indexes (sound.indexed x mem)
  obtain ⟨name, hname⟩ := name_of_saved named saves
  rw [answer_eq (r := upsert) find_upsert]
  dsimp only [answerAt]
  rw [answerUpsert_saved same saves, written_saved hname]
  change savedStatus saved = 200 ∨ savedStatus saved = 201
  unfold savedStatus
  split
  · exact .inr rfl
  · exact .inl rfl

/-- A service with an engine, after it has saved one scheme. -/
def norfolkSaved (e : Engine) : Service :=
  ({ norfolk with engine := e }).blank.after [(.toSave "1" (firstSave (.int 2024) (.int 2025)), "")]

theorem norfolkSaved_faithful {e : Engine} (faithful : e.faults.Faithful) :
    (norfolkSaved e).faults.Faithful := by
  rw [norfolkSaved, after, List.foldl_cons, List.foldl_nil, answer_faults, faults_of_ok rfl rfl]
  exact faithful

theorem norfolkSaved_sound (e : Engine) :
    (norfolkSaved e).tables.Sound ∧ (norfolkSaved e).tables.Ahead :=
  blank_after { norfolk with engine := e } _

theorem saved_of_validated_dyke :
    let s := norfolkSaved .declared
    let q := dykeStep "COULD_START_EARLY" [("couldStartEarly", .bool true)]
    let r := Request.toSave "1" q
    let validate : Request := { r with method := "POST", path := "/api/v1/project/validate" }
    let upsert : Request := { r with method := "POST", path := "/api/v1/project/upsert" }
    s.faults.Faithful ∧ s.tables.Sound ∧ s.tables.Ahead ∧ r.Proposes q ∧ q.Fits s.tables ∧
      (s.answer validate "").1.status = 200 ∧
      ((s.answer upsert "").1.status = 200 ∨ (s.answer upsert "").1.status = 201) := by
  intro s q r validate upsert
  have sent : r.Proposes q := Request.proposes_toSave "1" q
  have fits : ∀ q', r.Proposes q' → q'.Fits s.tables := by
    intro q' sent'
    obtain rfl := sent.eq sent'
    refine ⟨by decide, fun name named => ?_, fun a found => ?_, fun level => ?_⟩
    · have unnamed : (q.kept.get? "name").isNone = true := by decide
      rw [named] at unnamed
      cases unnamed
    · have unplaced : (q.payload.get "areaId").key? = none := by decide
      rw [Tables.area?, unplaced] at found
      cases found
    · exact absurd level (by decide)
  have valid : (s.answer validate "").1.status = 200 := by decide
  have faithful := norfolkSaved_faithful Engine.declared_faithful
  obtain ⟨sound, ahead⟩ := norfolkSaved_sound .declared
  exact ⟨faithful, sound, ahead, sent, fits q sent, valid,
    saved_of_validated faithful sound ahead fits "" valid⟩

/-- A request validates and is not saved. -/
def Unsaved (s : Service) (q : Proposal) : Prop :=
  let r := Request.toSave "1" q
  (s.answer { r with path := "/api/v1/project/validate" } "").1.status = 200 ∧
    (s.answer { r with path := "/api/v1/project/upsert" } "").1.status = 500

theorem validated_unsaved :
    let early := dykeStep "COULD_START_EARLY" [("couldStartEarly", .text "yes")]
    let affected := dykeStep "PROPERTY_AFFECTED_FLOODING"
      [("noPropertiesAtRisk", .bool false), ("maintainingExistingAssets", .int 3000000000)]
    (∀ e ∈ [Engine.words, .declared], (norfolkSaved e).faults.Faithful ∧
        (norfolkSaved e).tables.Sound ∧ (norfolkSaved e).tables.Ahead ∧
        (norfolkSaved e).Unsaved early) ∧
      (norfolkSaved .declared).Unsaved affected := by
  intro early affected
  have state {e : Engine} (faithful : e.faults.Faithful) :
      (norfolkSaved e).faults.Faithful ∧ (norfolkSaved e).tables.Sound ∧
        (norfolkSaved e).tables.Ahead :=
    ⟨norfolkSaved_faithful faithful, norfolkSaved_sound e⟩
  have words : (norfolkSaved .words).Unsaved early := ⟨by decide, by decide⟩
  have declared : (norfolkSaved .declared).Unsaved early := ⟨by decide, by decide⟩
  have wide : (norfolkSaved .declared).Unsaved affected := ⟨by decide, by decide⟩
  have ofWords := state Engine.words_faithful
  have ofDeclared := state Engine.declared_faithful
  exact ⟨List.forall_mem_cons.mpr ⟨⟨ofWords.1, ofWords.2.1, ofWords.2.2, words⟩,
    List.forall_mem_singleton.mpr ⟨ofDeclared.1, ofDeclared.2.1, ofDeclared.2.2, declared⟩⟩, wide⟩

end Service
end FloodScheme
