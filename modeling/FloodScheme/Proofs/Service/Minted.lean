import FloodScheme.Proofs.Saving.EarlyStart
import FloodScheme.Proofs.Service.Success

/-! Reference numbers of the schemes that requests create. A number that matches the pattern of its
rule is accepted at every later level, and its creator can update the scheme; a number that does not
pass the rule is accepted at none. -/
namespace FloodScheme
open Outcome Decision

namespace Service

variable {s s' : Service}

theorem area_congr (faults : s'.faults = s.faults) (areas : s'.tables.areas = s.tables.areas) :
    s'.database.area = s.database.area := by
  funext id
  simp only [Database.area, Database.attempt, database, faults, areas]

theorem principal_congr (faults : s'.faults = s.faults)
    (areas : s'.tables.areas = s.tables.areas) (users : s'.tables.users = s.tables.users)
    (memberships : s'.tables.memberships = s.tables.memberships) :
    s'.database.principal = s.database.principal := by
  funext id
  simp only [Database.principal, Database.attempt, database, faults, areas, users, memberships]

end Service

theorem Database.withParents_int {db : Database} {id : Value} {i : Int} {w : AreaWithParents}
    (key : id.key? = some i) (found : Hierarchy.withParents db.area id = .ok (some w)) :
    Hierarchy.withParents db.area (.int i) = .ok (some w) ∧ w.area.id = i := by
  have same : db.area (.int i) = db.area id := by
    rw [Database.area, Database.area, key, Value.key?_int_of_key? key]
  constructor
  · rw [← found]
    unfold Hierarchy.withParents
    rw [same]
  · rcases Hierarchy.withParents_sameOrStops (Hierarchy.area_sameOrStops db) id with
      agreed | ⟨-, f, -, stopped⟩
    · rw [found, Hierarchy.withParents_look] at agreed
      have resolves := Tables.resolves_of_withParents (Except.ok.inj agreed).symm
      have row := resolves.area
      rw [Tables.area?, key] at row
      simpa using List.find?_some row
    · rw [found] at stopped
      cases stopped

theorem Tables.Entitles.belongsTo_int {t : Tables} {u : UserRow} {p : Principal}
    (h : t.Entitles u p) {v : Value} {i : Int} (belongs : p.belongsTo v = true)
    (key : v.key? = some i) : p.belongsTo (.int i) = true := by
  rw [Principal.belongsTo, Bool.and_eq_true] at belongs
  obtain ⟨m, mem, same⟩ := List.any_eq_true.mp belongs.2
  obtain ⟨j, areaId, -⟩ := h.member_of_mem mem
  rw [areaId] at same
  obtain rfl := sameArea_key? same key
  refine List.any_eq_true.mpr ⟨m, mem, ?_⟩
  simp [areaId, sameArea, Value.isNull]

theorem Decision.area_of_accepted {db : Database} {payload : Fields} {p : Principal}
    {level : Value} {a : Acceptance} (unnamed : payload.get "referenceNumber" = .null)
    (accepted : decideProposal db.reads payload p level = .ok a) :
    ∃ w, Hierarchy.withParents db.area (payload.get "areaId") = .ok (some w) := by
  unfold decideProposal at accepted
  rw [unnamed] at accepted
  obtain ⟨_, -, named⟩ := bind_eq_ok.mp (show create db.reads payload p = .ok a from accepted)
  obtain ⟨_, -, ordered⟩ := bind_eq_ok.mp named
  obtain ⟨_, -, placed⟩ := bind_eq_ok.mp ordered
  obtain ⟨_, resolved, -⟩ := bind_eq_ok.mp placed
  obtain ⟨found, read, resolved⟩ := bind_eq_ok.mp resolved
  cases found with
  | none => cases resolved
  | some w =>
    rw [reads_area] at read
    exact ⟨w, mapError_eq_ok.mp read⟩

namespace Service

variable {s : Service} {r : Request} {now : String}

theorem created_of_answer (post : r.method = "POST") (path : r.path = "/api/v1/project/upsert")
    (created : (s.answer r now).1.status = 201) :
    ∃ id u p q x a, r.user = some id ∧ id ≠ "" ∧ s.database.principal (.text id) = .ok (some p) ∧
      s.tables.Entitles u p ∧ q.vet s.database p = .ok a ∧
      Proposal.SavesNew q s.tables p x (s.answer r now).2.tables := by
  obtain ⟨p, q, saved, called, -, saves, tables, answered⟩ :=
    response_of_answer post path (by rw [created]; decide)
  obtain ⟨id, named, found⟩ := caller_eq_ok called
  obtain ⟨user, some⟩ := Option.filter_eq_some_iff.mp named
  obtain ⟨u, -, rights⟩ := principal_eq_ok found
  obtain ⟨a, -, vetted, -⟩ := Proposal.save_eq_ok saves
  have made : saved.created = true := by
    rw [answered] at created
    unfold Response.written at created
    split at created
    · cases hc : saved.created with
      | true => rfl
      | false => simp [savedStatus, hc] at created
    · cases created
  rw [tables]
  rcases Proposal.save_cases saves with ⟨-, new⟩ | ⟨again, -⟩
  · exact ⟨id, u, p, q, saved.project, a, user, by simpa using some, found, rights, vetted, new⟩
  · rw [made] at again
    cases again

theorem project?_of_minted {t : Tables} {x : Project} (sound : t.Sound) (minted : Upsert.Minted t)
    (mem : x ∈ t.projects) : t.project? x.reference = some x := by
  have version := sound.first x mem
  have found : (t.project? x.reference).isSome = true :=
    List.find?_isSome.mpr ⟨x, mem, by simp [version]⟩
  obtain ⟨y, hit⟩ := Option.isSome_iff_exists.mp found
  obtain ⟨own, -⟩ := Upsert.own_of_project? hit
  rw [hit, List.inj_on_of_nodup_map minted.nodup (Upsert.mem_of_project? hit) mem own]

theorem withCaller_toSave (reachable : s.faults .ping = none) {id : String} (some : id ≠ "")
    {p : Principal} (known : s.database.principal (.text id) = .ok (.some p)) (q : Proposal) :
    s.withCaller (.toSave id q) Request.proposal = .ok (p, q) := by
  obtain ⟨sent, read, proposed⟩ := Request.proposes_toSave id q
  have reached : s.reach = .ok () := by
    rw [reach, reachable]
  have user : (Request.toSave id q).user.filter (· != "") = .some id :=
    Option.filter_eq_some_iff.mpr ⟨rfl, by simpa using some⟩
  have called : s.caller (.toSave id q) = .ok p := by
    unfold caller
    rw [user]
    dsimp only
    rw [known]
  exact bind_eq_ok.mpr ⟨sent, read, bind_eq_ok.mpr ⟨(), reached, bind_eq_ok.mpr ⟨p, called,
    bind_eq_ok.mpr ⟨q, mapError_eq_ok.mpr proposed, rfl⟩⟩⟩⟩

theorem earlyStart_answered (faithful : s.faults.Faithful) (sound : s.tables.Sound)
    (minted : Upsert.Minted s.tables) {id : String} (some : id ≠ "") {p : Principal}
    (known : s.database.principal (.text id) = .ok (.some p)) {x : Project}
    (mem : x ∈ s.tables.projects)
    (checked : Catalogue.referenceNumber.check (.text x.reference) = none) {l : LinkRow}
    (link : s.tables.ownerLink? x.id = .some l) {w : AreaWithParents}
    (area : Hierarchy.withParents s.database.area (.int l.areaId) = .ok (.some w))
    (member : p.belongsTo (.int w.area.id) = true) (early : Bool) (later : String) :
    (s.answer (.toSave id (.earlyStart x.reference early)) later).1.status = 200 := by
  have said : x.reference ≠ "" := by
    intro empty
    rw [empty] at checked
    cases checked
  have judged := withCaller_toSave (faithful .ping rfl) some known (.earlyStart x.reference early)
  have vetted : (Proposal.earlyStart x.reference early).vet s.database p = _ :=
    Proposal.earlyStart_vetted faithful said (project?_of_minted sound minted mem) link area member
      checked
  obtain ⟨u, found, rights⟩ := principal_eq_ok known
  have user : ∃ w ∈ s.tables.users, p.userId.key? = .some w.id :=
    ⟨u, Tables.mem_of_user? found, by rw [rights.userId, rights.key]⟩
  obtain ⟨saved, saves⟩ :
      ∃ saved, ((Proposal.earlyStart x.reference early).save s.database p later).1 = .ok saved :=
    Proposal.save_succeeds faithful sound minted.ahead
      (Proposal.earlyStart_fits s.tables checked) user vetted
  have named : ∀ y ∈ s.tables.projects, ∃ name, y.name = .text name := fun y stored =>
    Upsert.name_of_indexes (sound.indexed y stored)
  obtain ⟨name, hname⟩ := name_of_saved named saves
  obtain ⟨a, -, again, -, -, created⟩ := Proposal.save_eq_ok saves
  obtain rfl := Except.ok.inj (vetted.symm.trans again)
  rw [answer_eq (r := .toSave id (.earlyStart x.reference early)) find_upsert]
  dsimp only [answerAt]
  rw [answerUpsert_saved judged saves, written_saved hname]
  change savedStatus saved = 200
  rw [savedStatus, created]
  rfl

theorem blank_owned (s : Service) : s.blank.tables.Owned :=
  ⟨List.nodup_nil, rfl, fun _ h => absurd h List.not_mem_nil⟩

theorem made_of_answer (faithful : s.faults.Faithful) (sound : s.tables.Sound)
    (minted : Upsert.Minted s.tables) (owned : s.tables.Owned) (post : r.method = "POST")
    (path : r.path = "/api/v1/project/upsert") (created : (s.answer r now).1.status = 201) :
    ∃ (x : Project) (code : String) (n : Nat),
      (s.answer r now).2.tables.projects = s.tables.projects ++ [x] ∧
      Upsert.Numbered s.tables code n ∧ x.reference = Reference.format code (.nth (n + 1)) ∧
      (Catalogue.referenceNumber.check (.text x.reference) = none → ∀ id, r.user = some id →
        ∀ early later, ((s.answer r now).2.answer
          (.toSave id (.earlyStart x.reference early)) later).1.status = 200) := by
  obtain ⟨id, u, p, q, x, a, user, some, known, rights, vetted, new⟩ :=
    created_of_answer post path created
  have faults := answer_faults s r now
  have standing : (s.answer r now).2.tables.Sound ∧ Upsert.Minted (s.answer r now).2.tables :=
    answer_sound sound minted
  obtain ⟨b, code, w, -, -, key, area, -, -, creates⟩ := new.area
  obtain ⟨n, own⟩ := minted.numbered code
  have projects := new.projects
  refine ⟨x, code, n, projects, own, creates.reference_eq own,
    fun checked id' same early later => ?_⟩
  obtain rfl := Option.some.inj (user.symm.trans same)
  -- the caller and the area were found once and are found again: neither faults nor tables moved
  obtain ⟨areas, users, memberships⟩ := answer_others s r now
  have callers := principal_congr faults areas users memberships
  have places := area_congr faults areas
  obtain ⟨v, found⟩ := area_of_accepted new.unnamed (Proposal.vet_eq_ok vetted).2
  obtain ⟨above, number⟩ := Database.withParents_int key found
  have belongs : isMember p (q.payload.get "areaId") = true :=
    new.allowed _ (List.mem_cons_of_mem _ List.mem_cons_self)
  have member : p.belongsTo (.int b.id) = true := by
    rw [← belongsTo_eq] at belongs
    exact rights.belongsTo_int belongs key
  have link := Proposal.ownerLink_new owned creates area
  refine earlyStart_answered (p := p) (w := v) ?_ standing.1 standing.2 some ?_ ?_
    checked link ?_ ?_ early later
  · rw [faults]
    exact faithful
  · rw [callers]
    exact known
  · rw [projects]
    exact List.mem_append_right _ List.mem_cons_self
  · rw [places]
    exact above
  · rw [number]
    exact member

/-- After any requests to a service without schemes and counters, a request that creates a scheme
gives it the next reference number of its code. The number matches the pattern if and only if the
code is two capitals and fewer than 999000 numbers have been given out for it. If the rule of the
reference number admits the number, no later level reports it and its creator can save an update at
the level of early starts; otherwise every later level reports it. -/
theorem minted_usable (s : Service) (visits : List (Request × String))
    (faithful : s.faults.Faithful) (post : r.method = "POST")
    (path : r.path = "/api/v1/project/upsert")
    (created : ((s.blank.after visits).answer r now).1.status = 201) :
    let before := s.blank.after visits
    let after := (before.answer r now).2
    ∃ (x : Project) (code : String) (n : Nat),
      after.tables.projects = before.tables.projects ++ [x] ∧
      Upsert.Numbered before.tables code n ∧
      x.reference = Reference.format code (.nth (n + 1)) ∧
      (Text.matchesPattern Catalogue.referencePattern x.reference = true ↔
        Reference.TwoCapitals code ∧ n < 999000) ∧
      (Text.matchesPattern Catalogue.referencePattern x.reference = true →
        Catalogue.referenceNumber.check (.text x.reference) = none) ∧
      (∀ name l, Catalogue.registry.find? name = some l → name ≠ "INITIAL_SAVE" →
        ∀ payload : Fields, payload.get? "referenceNumber" = some (.text x.reference) →
          ((∀ f ∈ levelFailures l.rules payload, f.field ≠ some "referenceNumber") ↔
            Catalogue.referenceNumber.check (.text x.reference) = none)) ∧
      (Catalogue.referenceNumber.check (.text x.reference) = none → ∀ id, r.user = some id →
        ∀ early later,
          (after.answer (.toSave id (.earlyStart x.reference early)) later).1.status = 200) := by
  intro before after
  have faults : before.faults = s.faults := after_faults s.blank visits
  have standing : before.tables.Sound ∧ Upsert.Minted before.tables :=
    after_sound visits s.blank_sound (Upsert.Minted.start s.blank.tables)
  have owned : before.tables.Owned := after_owned visits s.blank_owned
  obtain ⟨x, code, n, projects, numbered, reference, usable⟩ :=
    made_of_answer (by rw [faults]; exact faithful) standing.1 standing.2 owned post path created
  refine ⟨x, code, n, projects, numbered, reference, ?_, Reference.check_of_matches,
    fun name l found later payload sent => Catalogue.reference_unreported_iff found later sent,
    usable⟩
  rw [reference]
  exact Reference.matches_format_nth

theorem norfolk_faithful : norfolk.faults.Faithful := by
  rw [faults_of_ok rfl rfl]
  exact Engine.words_faithful

theorem minted_usable_dyke :
    let request := Request.toSave "1" (firstSave (.int 2024) (.int 2025))
    let after := ((norfolk.blank.after []).answer request "").2
    norfolk.faults.Faithful ∧ request.method = "POST" ∧
      request.path = "/api/v1/project/upsert" ∧
      ((norfolk.blank.after []).answer request "").1.status = 201 ∧
      ∃ x, after.tables.projects = [x] ∧ x.reference = "ANC501E/000A/001A" ∧
        ∀ early later,
          (after.answer (.toSave "1" (.earlyStart x.reference early)) later).1.status = 200 := by
  intro request after
  have created : ((norfolk.blank.after []).answer request "").1.status = 201 := by decide
  obtain ⟨x, code, n, projects, -, -, matching, checked, -, usable⟩ :=
    minted_usable norfolk [] norfolk_faithful rfl rfl created
  have references : after.tables.projects.map Project.reference = ["ANC501E/000A/001A"] := by
    decide
  have alone : after.tables.projects = [x] := projects
  have reference : x.reference = "ANC501E/000A/001A" := by
    rw [alone] at references
    exact List.singleton_inj.mp references
  refine ⟨norfolk_faithful, rfl, rfl, created, x, alone, reference, usable (checked ?_) "1" rfl⟩
  rw [reference]
  decide

def anglian : Service :=
  { norfolk with tables := { norfolk.tables with areas :=
      [{ id := 1, name := "Anglian PSO North", type := "PSO Area", subType := some "ANG" },
        { id := 2, name := "Norfolk County Council", type := "RMA", parentId := some 1 }] } }

theorem minted_unusable :
    let made := (anglian.blank.after []).answer
      (.toSave "1" (firstSave (.int 2024) (.int 2025))) ""
    made.1.status = 201 ∧
      made.2.tables.projects.map Project.reference = ["ANGC501E/000A/001A"] ∧
      Text.matchesPattern Catalogue.referencePattern "ANGC501E/000A/001A" = false ∧
      Catalogue.referenceNumber.check (.text "ANGC501E/000A/001A") ≠ none ∧
      (made.2.answer (.toSave "1" (.earlyStart "ANGC501E/000A/001A" true)) "").1.status = 400 := by
  decide

end Service
end FloodScheme
