import FloodScheme.Proofs.Decision.Agreement
import FloodScheme.Proofs.Level.Single
import FloodScheme.Proofs.Store.Write
import FloodScheme.Saving

/-! Saving a step. The level, the decision and the write agree on whether a scheme is created or
changed, and a save that is refused leaves the tables as they were. -/
namespace FloodScheme.Proposal
open Outcome Decision Requirement

/-- What a write is given of an accepted payload. -/
structure Sends (q : Proposal) (u : Upsert) : Prop where
  accepted : Catalogue.registry.validate (.text q.level) q.payload = .ok []
  stripped : Catalogue.registry.strip (.text q.level) q.payload = .ok u.payload

/-- A save that makes a scheme. -/
structure SavesNew (q : Proposal) (t : Tables) (p : Principal) (x : Project) (t' : Tables) :
    Prop where
  level : q.level = "INITIAL_SAVE"
  unnamed : q.payload.get "referenceNumber" = .null
  allowed : ∀ r ∈ createRequirements t q.payload p, r.holds = true
  creates : ∃ a u code, t.withParents (q.payload.get "areaId") = some a ∧ a.rfccCode = some code ∧
    u.area = some a.area ∧ u.userId = p.userId ∧ q.Sends u ∧ Upsert.Creates t u code x t'

/-- A save that changes the scheme `x` into `x'`. -/
structure SavesAgain (q : Proposal) (t : Tables) (p : Principal) (x x' : Project) (t' : Tables) :
    Prop where
  level : q.level ≠ "INITIAL_SAVE" ∧ (Catalogue.registry.find? q.level).isSome
  named : ∃ reference, reference ≠ "" ∧
    q.payload.get "referenceNumber" = .text reference ∧ t.project? reference = some x
  allowed : ∀ r ∈ updateRequirements t q.payload p (.text q.level) (t.record x), r.holds = true
  updates : ∃ u, u.area = (if movesArea q.payload (t.record x) then
      t.withParents (q.payload.get "areaId") else none).map AreaWithParents.area ∧
    q.Sends u ∧ Upsert.Updates t u x x' t'

theorem vet_eq_ok {q : Proposal} {db : Database} {p : Principal} {a : Acceptance}
    (h : q.vet db p = .ok a) :
    Catalogue.registry.validate (.text q.level) q.payload = .ok [] ∧
      decideProposal db.reads q.payload p (.text q.level) = .ok a := by
  unfold vet at h
  split at h
  · cases h
  · next clean => exact ⟨clean, mapError_eq_ok.mp h⟩
  · cases h

theorem upsert_eq_ok {q : Proposal} {p : Principal} {a : Acceptance} {now : String} {u : Upsert}
    (h : q.upsert p a now = .ok u) :
    Catalogue.registry.strip (.text q.level) q.payload = .ok u.payload ∧ u.userId = p.userId ∧
      u.code = a.code ∧ u.area = a.area.map AreaWithParents.area := by
  unfold upsert at h
  obtain ⟨stripped, strip, h⟩ := bind_eq_ok.mp h
  obtain rfl := pure_eq_ok.mp h
  exact ⟨strip, rfl, rfl, rfl⟩

theorem reference_cases {name : String} {payload stripped : Fields}
    (accepted : Catalogue.registry.validate (.text name) payload = .ok [])
    (strip : Catalogue.registry.strip (.text name) payload = .ok stripped) :
    (name = "INITIAL_SAVE" ∧ payload.get "referenceNumber" = .null ∧
        stripped.get "referenceNumber" = .null) ∨
      ((name ≠ "INITIAL_SAVE" ∧ (Catalogue.registry.find? name).isSome) ∧
        ∃ s, s ≠ "" ∧ payload.get "referenceNumber" = .text s ∧
          stripped.get "referenceNumber" = .text s) := by
  obtain ⟨l, found, clean⟩ := Catalogue.validate_eq_ok accepted
  have kept := Catalogue.strip_eq_ok found strip
  rcases Catalogue.find?_cases found with ⟨rfl, first⟩ | ⟨later, rest, rules⟩
  · have missing := Catalogue.get?_of_undeclared clean Catalogue.initialSave_declares
    refine .inl ⟨first, ?_, ?_⟩
    · rw [Fields.get, missing]
      rfl
    · rw [kept, Fields.get, get?_keepActive, missing]
      split
      · rfl
      · rfl
  · rw [rules] at clean
    obtain ⟨s, some, sent⟩ := Catalogue.reference_of_accepted clean
    refine .inr ⟨⟨later, by rw [found]; rfl⟩, s, some, ?_, ?_⟩
    · rw [Fields.get, sent]
      rfl
    · have active : ((l.rules.find? (·.name == "referenceNumber")).any
          (·.isActive payload)) = true := by
        rw [rules]
        rfl
      rw [kept, Fields.get, get?_keepActive, if_pos active, sent]
      rfl

theorem accepted_new {db : Database} {payload : Fields} {p : Principal} {level : Value}
    {a : Acceptance} (unnamed : payload.get "referenceNumber" = .null)
    (accepted : decideProposal db.reads payload p level = .ok a) :
    (∀ r ∈ createRequirements db.tables payload p, r.holds = true) ∧
      a = acceptance (db.tables.withParents (payload.get "areaId")) none := by
  rcases expected_eq_ok (expected_of_accepted accepted) with ⟨-, met⟩ | ⟨said, -⟩
  · exact met
  · rw [unnamed] at said
    cases said

theorem accepted_again {db : Database} {payload : Fields} {p : Principal} {level : Value}
    {a : Acceptance} {s : String} (some : s ≠ "")
    (named : payload.get "referenceNumber" = .text s)
    (accepted : decideProposal db.reads payload p level = .ok a) :
    ∃ x, db.tables.project? s = .some x ∧
      (∀ r ∈ updateRequirements db.tables payload p level (db.tables.record x),
        r.holds = true) ∧
      a = acceptance (if movesArea payload (db.tables.record x) then
        db.tables.withParents (payload.get "areaId") else none) (.some (db.tables.record x)) := by
  rcases expected_eq_ok (expected_of_accepted accepted) with ⟨blank, -⟩ | ⟨-, x, found, met⟩
  · have said : (Value.text s).truthy = true := by simpa [Value.truthy] using some
    rw [named, said] at blank
    cases blank
  · rw [named] at found
    exact ⟨x, found, met⟩

theorem saves_new {q : Proposal} {db : Database} {p : Principal} {a : Acceptance} {u : Upsert}
    {x : Project} {t' : Tables} (unnamed : q.payload.get "referenceNumber" = .null)
    (stripped : u.payload.get "referenceNumber" = .null) (level : q.level = "INITIAL_SAVE")
    (accepted : decideProposal db.reads q.payload p (.text q.level) = .ok a)
    (userId : u.userId = p.userId) (code : u.code = a.code)
    (area : u.area = a.area.map AreaWithParents.area) (sends : q.Sends u)
    (written : Upsert.write db u = .ok (t', x)) :
    a.existing = none ∧ q.SavesNew db.tables p x t' := by
  obtain ⟨allowed, rfl⟩ := accepted_new unnamed accepted
  have resolved := area_of_requirements fun r hr => allowed r (List.mem_append_right _ hr)
  obtain ⟨b, found, -, -, -, c, -, -, -, -, coded⟩ := resolved
  refine ⟨rfl, level, unnamed, allowed, b, u, c, found, coded, ?_, userId, sends, ?_⟩
  · rw [area, acceptance, found]
    rfl
  · rcases Upsert.write_cases written with ⟨minted, created⟩ | ⟨x₀, updated⟩
    · have same : some minted = some c := by
        rw [← created.minted, code, acceptance, found, ← coded]
        rfl
      exact Option.some.inj same ▸ created
    · have asked := updated.asked
      rw [stripped] at asked
      cases asked

theorem updates_of_named {db : Database} {u : Upsert} {x x' : Project} {t' : Tables} {s : String}
    (some : s ≠ "") (named : u.payload.get "referenceNumber" = .text s)
    (found : db.tables.project? s = .some x) (written : Upsert.write db u = .ok (t', x')) :
    Upsert.Updates db.tables u x x' t' := by
  rcases Upsert.write_cases written with ⟨minted, created⟩ | ⟨y, updated⟩
  · have asked := created.asked
    rw [named] at asked
    exact absurd (by simpa [Value.truthy] using asked) some
  · obtain ⟨reference, search, same⟩ := updated.found
    rw [named] at search
    cases search
    rw [found] at same
    exact Option.some.inj same ▸ updated

theorem saves_again {q : Proposal} {db : Database} {p : Principal} {a : Acceptance} {u : Upsert}
    {x' : Project} {t' : Tables} {s : String} (some : s ≠ "")
    (named : q.payload.get "referenceNumber" = .text s)
    (stripped : u.payload.get "referenceNumber" = .text s)
    (level : q.level ≠ "INITIAL_SAVE" ∧ (Catalogue.registry.find? q.level).isSome)
    (accepted : decideProposal db.reads q.payload p (.text q.level) = .ok a)
    (area : u.area = a.area.map AreaWithParents.area) (sends : q.Sends u)
    (written : Upsert.write db u = .ok (t', x')) :
    a.existing.isSome ∧ ∃ x, q.SavesAgain db.tables p x x' t' := by
  obtain ⟨x, found, allowed, rfl⟩ := accepted_again some named accepted
  exact ⟨rfl, x, level, ⟨s, some, named, found⟩, allowed, u, area, sends,
    updates_of_named some stripped found written⟩

theorem saves_of_written {q : Proposal} {db : Database} {p : Principal} {a : Acceptance}
    {now : String} {u : Upsert} {x' : Project} {t' : Tables} (vetted : q.vet db p = .ok a)
    (upserted : q.upsert p a now = .ok u) (written : Upsert.write db u = .ok (t', x')) :
    (a.existing = none ∧ q.SavesNew db.tables p x' t') ∨
      (a.existing.isSome ∧ ∃ x, q.SavesAgain db.tables p x x' t') := by
  obtain ⟨clean, accepted⟩ := vet_eq_ok vetted
  obtain ⟨strip, userId, code, area⟩ := upsert_eq_ok upserted
  rcases reference_cases clean strip with ⟨level, unnamed, stripped⟩ |
    ⟨level, s, some, named, stripped⟩
  · exact .inl
      (saves_new unnamed stripped level accepted userId code area ⟨clean, strip⟩ written)
  · exact .inr
      (saves_again some named stripped level accepted area ⟨clean, strip⟩ written)

theorem save_eq_ok {q : Proposal} {db : Database} {p : Principal} {now : String} {saved : Saved}
    (h : (q.save db p now).1 = .ok saved) :
    ∃ a u, q.vet db p = .ok a ∧ q.upsert p a now = .ok u ∧
      Upsert.write db u = .ok ((q.save db p now).2, saved.project) ∧
      saved.created = a.existing.isNone := by
  unfold save at h ⊢
  cases vetted : q.vet db p with
  | error e =>
    rw [vetted] at h
    cases h
  | ok a =>
    cases upserted : q.upsert p a now with
    | error f =>
      simp only [vetted, upserted] at h
      cases h
    | ok u =>
      simp only [vetted, upserted] at h ⊢
      rcases hrun : u.run db with ⟨result, tables⟩
      have runs := Upsert.run_cases db u
      simp only [hrun] at h runs ⊢
      cases result with
      | error f => cases h
      | ok x =>
        obtain rfl := Except.ok.inj h
        refine ⟨a, u, rfl, upserted, ?_, rfl⟩
        rcases runs with ⟨-, f, failed⟩ | ⟨y, written, back⟩
        · cases failed
        · cases hback : db.attempt .readBack with
          | error f =>
            rw [hback] at back
            cases back
          | ok _ =>
            rw [hback] at back
            exact Except.ok.inj back ▸ written

theorem save_of_error {q : Proposal} {db : Database} {p : Principal} {now : String}
    {e : Rejection} (readable : db.faults .readBack = none)
    (h : (q.save db p now).1 = .error e) : (q.save db p now).2 = db.tables := by
  unfold save at h ⊢
  cases vetted : q.vet db p with
  | error e => rfl
  | ok a =>
    cases upserted : q.upsert p a now with
    | error f =>
      simp only [upserted]
    | ok u =>
      simp only [vetted, upserted] at h ⊢
      rcases hrun : u.run db with ⟨result, tables⟩
      have same := @Upsert.tables_of_error db u
      simp only [hrun] at h same ⊢
      cases result with
      | error f => exact same rfl readable
      | ok x => cases h

theorem save_cases {q : Proposal} {db : Database} {p : Principal} {now : String} {saved : Saved}
    (h : (q.save db p now).1 = .ok saved) :
    (saved.created = true ∧ q.SavesNew db.tables p saved.project (q.save db p now).2) ∨
      (saved.created = false ∧
        ∃ x, q.SavesAgain db.tables p x saved.project (q.save db p now).2) := by
  obtain ⟨a, u, vetted, upserted, written, made⟩ := save_eq_ok h
  rcases saves_of_written vetted upserted written with ⟨new, saves⟩ | ⟨again, x, saves⟩
  · exact .inl ⟨by rw [made, new]; rfl, saves⟩
  · refine .inr ⟨?_, x, saves⟩
    obtain ⟨existing, found⟩ := Option.isSome_iff_exists.mp again
    rw [made, found]
    rfl

theorem save_run {q : Proposal} {db : Database} {p : Principal} {a : Acceptance} {now : String}
    {u : Upsert} (vetted : q.vet db p = .ok a) (upserted : q.upsert p a now = .ok u) :
    (q.save db p now).2 = (u.run db).2 := by
  unfold save
  simp only [vetted, upserted]
  rcases u.run db with ⟨result, tables⟩
  cases result with
  | error f => rfl
  | ok x => rfl

theorem save_tables (q : Proposal) (db : Database) (p : Principal) (now : String) :
    (q.save db p now).2 = db.tables ∨
      (∃ x, q.SavesNew db.tables p x (q.save db p now).2) ∨
        ∃ x x', q.SavesAgain db.tables p x x' (q.save db p now).2 := by
  cases vetted : q.vet db p with
  | error e =>
    left
    unfold save
    rw [vetted]
  | ok a =>
    cases upserted : q.upsert p a now with
    | error f =>
      left
      unfold save
      simp only [vetted, upserted]
    | ok u =>
      rw [save_run vetted upserted]
      rcases Upsert.run_cases db u with ⟨same, -⟩ | ⟨x', written, -⟩
      · exact .inl same
      · refine .inr ?_
        rcases saves_of_written vetted upserted written with ⟨-, new⟩ | ⟨-, x, again⟩
        · exact .inl ⟨x', new⟩
        · exact .inr ⟨x, x', again⟩

end FloodScheme.Proposal
