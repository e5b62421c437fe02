import FloodScheme.Proofs.Saving
import FloodScheme.Proofs.Service.Refusal
import FloodScheme.Proofs.Store.Effect

/-! A request to save: a new scheme, a changed one, or a refusal that leaves everything as it
was. -/
namespace FloodScheme
open Outcome

namespace Request

def Proposes (r : Request) (q : Proposal) : Prop :=
  ∃ sent, r.sent = .ok sent ∧ Request.proposal sent = .ok q

def toSave (user : String) (q : Proposal) : Request where
  method := "POST"
  path := "/api/v1/project/upsert"
  user := some user
  body := .value (.object [("level", .text q.level), ("payload", .object q.payload)])

theorem Proposes.eq {r : Request} {q q' : Proposal} (h : r.Proposes q) (h' : r.Proposes q') :
    q' = q := by
  obtain ⟨sent, hsent, proposed⟩ := h
  obtain ⟨sent', hsent', proposed'⟩ := h'
  rw [hsent] at hsent'
  cases hsent'
  rw [proposed] at proposed'
  exact (Except.ok.inj proposed').symm

theorem proposes_toSave (user : String) (q : Proposal) : (toSave user q).Proposes q := by
  have json : isJson "application/json" = true := by decide
  refine ⟨.value (.object [("level", .text q.level), ("payload", .object q.payload)]), ?_, rfl⟩
  change Except.ok (if isJson "application/json" then Sent.value _ else .unread) = _
  rw [if_pos json]

end Request

namespace Service

/-- Outcome of a request to save: created, changed or refused. -/
inductive SaveOutcome (s : Service) (r : Request) (response : Response) (s' : Service) : Prop
  | created (q : Proposal) (p : Project) (code : String) (areaId : Int)
    (status : response.status = 201) (sent : r.Proposes q) (level : q.level = "INITIAL_SAVE")
    (adds : s.tables.Adds p code areaId s'.tables) (rest : s' = { s with tables := s'.tables })
  | changed (q : Proposal) (reference : String) (p p' : Project)
    (status : response.status = 200) (sent : r.Proposes q)
    (level : q.level ≠ "INITIAL_SAVE" ∧ q.level ∈ Catalogue.registry.names)
    (named : q.payload.get "referenceNumber" = .text reference)
    (found : s.tables.project? reference = some p)
    (changes : s.tables.Changes p p' s'.tables) (rest : s' = { s with tables := s'.tables })
  | refused (status : 400 ≤ response.status) (same : s' = s)

theorem withCaller_eq_ok {α : Type} {s : Service} {r : Request}
    {judge : Sent → Except (List Response.Complaint) α} {p : Principal} {a : α}
    (h : s.withCaller r judge = .ok (p, a)) :
    s.caller r = .ok p ∧ ∃ sent, r.sent = .ok sent ∧ judge sent = .ok a := by
  unfold withCaller at h
  obtain ⟨sent, hsent, h⟩ := bind_eq_ok.mp h
  obtain ⟨_, _, h⟩ := bind_eq_ok.mp h
  obtain ⟨p', hcaller, h⟩ := bind_eq_ok.mp h
  obtain ⟨a', hjudge, h⟩ := bind_eq_ok.mp h
  have both := Prod.mk.inj (pure_eq_ok.mp h)
  obtain ⟨rfl, rfl⟩ := both
  exact ⟨hcaller, sent, hsent, mapError_eq_ok.mp hjudge⟩

theorem caller_eq_ok {s : Service} {r : Request} {p : Principal} (h : s.caller r = .ok p) :
    ∃ id, r.user.filter (· != "") = some id ∧
      s.database.principal (.text id) = .ok (some p) := by
  unfold caller at h
  split at h
  · cases h
  · next id named =>
    split at h
    · cases h
    · cases h
    · next found => exact ⟨id, named, Except.ok.inj h ▸ found⟩

theorem readable_of_caller {s : Service} {r : Request} {p : Principal}
    (h : s.caller r = .ok p) : s.database.faults .readBack = none := by
  obtain ⟨id, -, found⟩ := caller_eq_ok h
  unfold Database.principal at found
  split at found
  · cases found
  · next key _ =>
    obtain ⟨_, read, _⟩ := bind_eq_ok.mp found
    have quiet : s.faults (.readUser key) = none := attempt_eq_ok.mp read
    have working : s.mode.faults s.tablesExist (.readUser key) = none :=
      (Option.or_eq_none_iff.mp quiet).1
    have alike : s.mode.faults s.tablesExist .readBack =
      s.mode.faults s.tablesExist (.readUser key) := rfl
    exact Option.or_eq_none_iff.mpr ⟨alike.trans working, rfl⟩

theorem answerUpsert_cases (s : Service) (r : Request) (now : String) :
    ((s.answerUpsert r now).1.Refuses ∧ (s.answerUpsert r now).2 = s) ∨
      ∃ p q saved, s.caller r = .ok p ∧ r.Proposes q ∧
        (q.save s.database p now).1 = .ok saved ∧
        s.answerUpsert r now = (⟨savedStatus saved, some (savedBody saved)⟩,
          { s with tables := (q.save s.database p now).2 }) := by
  unfold answerUpsert
  cases judged : s.withCaller r Request.proposal with
  | error response => exact .inl ⟨refuses_withCaller judged, rfl⟩
  | ok both =>
    obtain ⟨p, q⟩ := both
    obtain ⟨called, sent, hsent, proposed⟩ := withCaller_eq_ok judged
    rcases hsave : q.save s.database p now with ⟨result, tables⟩
    dsimp only
    rw [hsave]
    cases result with
    | ok saved =>
      refine .inr ⟨p, q, saved, called, ⟨sent, hsent, proposed⟩, ?_, ?_⟩
      · rw [hsave]
      · rw [hsave]
    | error e =>
      have same : (q.save s.database p now).2 = s.tables :=
        Proposal.save_of_error (readable_of_caller called) (by rw [hsave])
      rw [hsave] at same
      have tables_eq : tables = s.tables := same
      exact .inl ⟨refuses_ofRejection e, by rw [tables_eq]⟩

theorem written_saved {saved : Saved} {name : String} (named : saved.project.name = .text name) :
    (⟨savedStatus saved, some (savedBody saved)⟩ : Response).written =
      ⟨savedStatus saved, some (savedBody saved)⟩ := by
  have writable : (savedBody saved).isWritable = true := by
    rw [savedBody, named]
    rfl
  rw [Response.written, Option.all_some, writable]
  rfl

theorem find_upsert : Endpoint.find "POST" "/api/v1/project/upsert" = .ok .upsert := rfl

theorem find_validate : Endpoint.find "POST" "/api/v1/project/validate" = .ok .validate := rfl

theorem name_of_saved {db : Database} {p : Principal} {q : Proposal} {saved : Saved}
    {now : String} (named : ∀ x ∈ db.tables.projects, ∃ name, x.name = .text name)
    (h : (q.save db p now).1 = .ok saved) : ∃ name, saved.project.name = .text name := by
  rcases Proposal.save_cases h with ⟨-, saves⟩ | ⟨-, x, saves⟩
  · obtain ⟨a, u, code, -, -, -, -, -, creates⟩ := saves.creates
    exact creates.named
  · obtain ⟨u, -, -, updates⟩ := saves.updates
    exact updates.change.named (named x updates.mem)

theorem outcome_of_saved {s : Service} {r : Request} {p : Principal} {q : Proposal}
    {saved : Saved} {now : String} (named : ∀ x ∈ s.tables.projects, ∃ name, x.name = .text name)
    (sent : r.Proposes q) (h : (q.save s.database p now).1 = .ok saved) :
    SaveOutcome s r (⟨savedStatus saved, some (savedBody saved)⟩ : Response).written
      { s with tables := (q.save s.database p now).2 } := by
  obtain ⟨name, hname⟩ := name_of_saved named h
  rw [written_saved hname]
  rcases Proposal.save_cases h with ⟨made, saves⟩ | ⟨made, x, saves⟩
  · obtain ⟨a, u, code, -, -, area, -, -, creates⟩ := saves.creates
    refine .created q saved.project code a.area.id ?_ sent saves.level (creates.adds area) rfl
    rw [savedStatus, made]
    rfl
  · obtain ⟨u, -, -, updates⟩ := saves.updates
    obtain ⟨reference, -, sentReference, found⟩ := saves.named
    obtain ⟨l, level⟩ := Option.isSome_iff_exists.mp saves.level.2
    refine .changed q reference x saved.project ?_ sent ⟨saves.level.1, ?_⟩ sentReference found
      updates.changes rfl
    · rw [savedStatus, made]
      rfl
    · have found : Catalogue.levels.find? (fun l => l.name == q.level) = some l := level
      have same : l.name = q.level := by simpa using List.find?_some found
      exact same ▸ List.mem_map_of_mem (List.mem_of_find?_eq_some found)

theorem named_of_saved {db : Database} {p : Principal} {q : Proposal} {saved : Saved}
    {now : String} (named : ∀ x ∈ db.tables.projects, ∃ name, x.name = .text name)
    (h : (q.save db p now).1 = .ok saved) :
    ∀ x ∈ (q.save db p now).2.projects, ∃ name, x.name = .text name := by
  rcases Proposal.save_cases h with ⟨-, saves⟩ | ⟨-, y, saves⟩
  · obtain ⟨a, u, code, -, -, area, -, -, creates⟩ := saves.creates
    rw [(creates.adds area).projects]
    exact List.forall_mem_append.mpr ⟨named, by simpa using creates.named⟩
  · obtain ⟨u, -, -, updates⟩ := saves.updates
    exact updates.change.named_rows named updates.mem

theorem answer_eq {s : Service} {r : Request} {now : String} {e : Endpoint}
    (found : Endpoint.find r.method r.path = .ok e) :
    s.answer r now =
      ((s.answerAt e r now).1.written.sentFor r.method, (s.answerAt e r now).2) := by
  rw [answer, found]

theorem sentFor_post (r : Response) : r.sentFor "POST" = r := rfl

theorem outcome_of_upsert {s : Service} {r : Request} {now : String} (post : r.method = "POST")
    (path : r.path = "/api/v1/project/upsert")
    (named : ∀ p ∈ s.tables.projects, ∃ name, p.name = .text name) :
    SaveOutcome s r (s.answer r now).1 (s.answer r now).2 ∧
      ∀ p ∈ (s.answer r now).2.tables.projects, ∃ name, p.name = .text name := by
  have found : Endpoint.find r.method r.path = .ok .upsert := by
    rw [post, path, find_upsert]
  rw [answer_eq found, post]
  dsimp only [answerAt]
  rw [sentFor_post]
  rcases answerUpsert_cases s r now with ⟨refused, same⟩ | ⟨p, q, saved, -, sent, saves, answered⟩
  · refine ⟨.refused (Response.refuses_written refused) same, ?_⟩
    rw [same]
    exact named
  · rw [answered]
    exact ⟨outcome_of_saved named sent saves, named_of_saved named saves⟩

theorem response_of_answer {s : Service} {r : Request} {now : String} (post : r.method = "POST")
    (path : r.path = "/api/v1/project/upsert") (accepted : (s.answer r now).1.status < 400) :
    ∃ p q saved, s.caller r = .ok p ∧ r.Proposes q ∧ (q.save s.database p now).1 = .ok saved ∧
      (s.answer r now).2.tables = (q.save s.database p now).2 ∧
      (s.answer r now).1 = (⟨savedStatus saved, some (savedBody saved)⟩ : Response).written := by
  have found : Endpoint.find r.method r.path = .ok .upsert := by
    rw [post, path, find_upsert]
  rw [answer_eq found, post] at accepted ⊢
  dsimp only [answerAt] at accepted ⊢
  rw [sentFor_post] at accepted ⊢
  rcases answerUpsert_cases s r now with ⟨refused, -⟩ | ⟨p, q, saved, called, sent, saves, answered⟩
  · exact absurd accepted (Nat.not_lt.mpr (Response.refuses_written refused))
  · rw [answered]
    exact ⟨p, q, saved, called, sent, saves, rfl, rfl⟩

theorem saved_of_answer {s : Service} {r : Request} {now : String} (post : r.method = "POST")
    (path : r.path = "/api/v1/project/upsert") (accepted : (s.answer r now).1.status < 400) :
    ∃ p q saved, s.caller r = .ok p ∧ r.Proposes q ∧ (q.save s.database p now).1 = .ok saved ∧
      (s.answer r now).2.tables = (q.save s.database p now).2 := by
  obtain ⟨p, q, saved, called, sent, saves, tables, -⟩ := response_of_answer post path accepted
  exact ⟨p, q, saved, called, sent, saves, tables⟩

theorem savesAgain_of_answer {s : Service} {r : Request} {now : String} {q : Proposal}
    {reference : String} {x : Project} (post : r.method = "POST")
    (path : r.path = "/api/v1/project/upsert") (sent : r.Proposes q)
    (named : q.payload.get "referenceNumber" = .text reference)
    (stored : s.tables.project? reference = some x)
    (accepted : (s.answer r now).1.status < 400) :
    ∃ p x', q.SavesAgain s.tables p x x' (s.answer r now).2.tables := by
  obtain ⟨p, q', saved, -, sent', saves, tables⟩ := saved_of_answer post path accepted
  obtain rfl := sent.eq sent'
  rw [tables]
  rcases Proposal.save_cases saves with ⟨-, new⟩ | ⟨-, y, again⟩
  · have unnamed := new.unnamed
    rw [named] at unnamed
    cases unnamed
  · obtain ⟨reference', -, named', found⟩ := again.named
    rw [named] at named'
    cases named'
    obtain rfl := Option.some.inj (stored.symm.trans found)
    exact ⟨p, saved.project, again⟩

theorem answer_validate {s : Service} {r : Request} {now : String} (post : r.method = "POST")
    (path : r.path = "/api/v1/project/validate") : (s.answer r now).2 = s := by
  have found : Endpoint.find r.method r.path = .ok .validate := by
    rw [post, path, find_validate]
  rw [answer_eq found]
  rfl

def norfolk : Service where
  tables :=
    { areas := [{ id := 1, name := "Anglian PSO North", type := "PSO Area", subType := some "AN" },
        { id := 2, name := "Norfolk County Council", type := "RMA", parentId := some 1 }]
      users := [⟨1, false⟩]
      memberships := [⟨1, 2, true⟩] }

def firstSave (first last : Value) : Proposal where
  level := "INITIAL_SAVE"
  payload := [("name", .text "Dyke"), ("areaId", .int 2), ("projectType", .text "HCR"),
    ("financialStartYear", first), ("financialEndYear", last)]

def dykeStep (level : String) (fields : Fields) : Proposal :=
  ⟨level, ("referenceNumber", .text "ANC501E/000A/001A") :: fields⟩

/-- `POST /api/v1/project/upsert` answers 201 and adds a scheme at the first level, answers 200 and
changes one scheme at another level, or answers with a refusal and leaves the tables as they were;
`POST /api/v1/project/validate` changes nothing. The names of stored schemes remain texts. -/
theorem answer_upsert (s : Service) (r : Request) (now : String)
    (named : ∀ p ∈ s.tables.projects, ∃ name, p.name = .text name) :
    let upsert : Request := { r with method := "POST", path := "/api/v1/project/upsert" }
    let validate : Request := { r with method := "POST", path := "/api/v1/project/validate" }
    SaveOutcome s upsert (s.answer upsert now).1 (s.answer upsert now).2 ∧
      (∀ p ∈ (s.answer upsert now).2.tables.projects, ∃ name, p.name = .text name) ∧
      (s.answer validate now).2 = s := by
  intro upsert validate
  have saving := @outcome_of_upsert s upsert now rfl rfl named
  exact ⟨saving.1, saving.2, answer_validate rfl rfl⟩

theorem answer_upsert_dyke :
    let create := Request.toSave "1" (firstSave (.int 2024) (.int 2025))
    let change := Request.toSave "1" (dykeStep "FINANCIAL_END_YEAR" [("financialEndYear", .int 2027)])
    let made := (norfolk.answer create "").2
    (∀ p ∈ norfolk.tables.projects, ∃ name, p.name = .text name) ∧
      (norfolk.answer create "").1.status = 201 ∧
      SaveOutcome norfolk create (norfolk.answer create "").1 made ∧
      (∀ p ∈ made.tables.projects, ∃ name, p.name = .text name) ∧
      (made.answer change "").1.status = 200 ∧
      SaveOutcome made change (made.answer change "").1 (made.answer change "").2 := by
  intro create change made
  have created : (norfolk.answer create "").1.status = 201 := by decide
  have changed : (made.answer change "").1.status = 200 := by decide
  have unnamed : ∀ p ∈ norfolk.tables.projects, ∃ name, p.name = .text name := nofun
  have createSent : ({ create with
      method := "POST", path := "/api/v1/project/upsert" } : Request) = create := rfl
  have changeSent : ({ change with
      method := "POST", path := "/api/v1/project/upsert" } : Request) = change := rfl
  have left : (norfolk.answer create "").2 = made := rfl
  -- the answers are computed only once
  clear_value made create change
  have first := answer_upsert norfolk create "" unnamed
  dsimp only at first
  rw [createSent, left] at first
  have second := answer_upsert made change "" first.2.1
  dsimp only at second
  rw [changeSent] at second
  exact ⟨unnamed, created, first.1, first.2.1, changed, second.1⟩

end Service
end FloodScheme
