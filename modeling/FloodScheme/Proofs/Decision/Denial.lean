import FloodScheme.Proofs.Decision.Rights

/-! Denials. `decideProposal` checks permission before the rest of the payload, so a denial is the
same for all payloads that name one scheme or one area, and for all stores in which the scheme has
the same area. -/
namespace FloodScheme
open Decision Outcome

/-- The failures of `refuseCreate?` and `refuseUpdate?`. -/
def Failure.IsDenial (f : Failure) : Prop :=
  (∃ r, f = createRefused r) ∨ ∃ r, f = updateRefused r

theorem Failure.IsDenial.status {f : Failure} (h : f.IsDenial) : f.status = 403 := by
  rcases h with ⟨r, rfl⟩ | ⟨r, rfl⟩
  · rfl
  · rfl

theorem Failure.not_isDenial_areaChange : ¬ areaChangeRefused.IsDenial := by
  rintro (⟨r, same⟩ | ⟨r, same⟩)
  · have code : areaChangeRefused.code = "NOT_ALLOWED_TO_CREATE" := congrArg Failure.code same
    exact absurd code (by decide)
  · have message : areaChangeRefused.message = r.message := congrArg Failure.message same
    cases r with
    | onlyRma => exact absurd message (by decide)
    | noAccessToArea => exact absurd message (by decide)
    | areaUnknown => exact absurd message (by decide)
    | noAccessToScheme => exact absurd message (by decide)

namespace Decision

variable {α β : Type} {reads reads' : Reads} {payload payload' : Fields} {p : Principal}
  {f : Failure}

/-- The check of the caller's rights refuses the proposal. -/
inductive Denies (reads : Reads) (payload : Fields) (p : Principal) : Failure → Prop
  | create {r : Refusal} (unnamed : (payload.get "referenceNumber").truthy = false)
      (refused : refuseCreate? p (payload.get "areaId") = some r) :
      Denies reads payload p (createRefused r)
  | update {existing : ProjectRecord} {current : Option AreaWithParents} {r : Refusal}
      (named : (payload.get "referenceNumber").truthy = true)
      (found : reads.project (payload.get "referenceNumber") = .ok (some existing))
      (area : currentArea reads existing = .ok current)
      (refused : refuseUpdate? p current = some r) : Denies reads payload p (updateRefused r)

theorem decideProposal_create (unnamed : (payload.get "referenceNumber").truthy = false)
    (level : Value) : decideProposal reads payload p level = create reads payload p := by
  simp [decideProposal, unnamed]

theorem decideProposal_update (named : (payload.get "referenceNumber").truthy = true)
    (level : Value) : decideProposal reads payload p level =
      update reads payload p level (payload.get "referenceNumber") := by
  simp [decideProposal, named]

theorem Denies.decided (h : Denies reads payload p f) (level : Value) :
    decideProposal reads payload p level = .error (.failure f) := by
  cases h with
  | create unnamed refused =>
    rw [decideProposal_create unnamed, Decision.create, refused]
    rfl
  | update named found area refused =>
    rw [decideProposal_update named, Decision.update, found]
    refine bind_eq_error.mpr (.inr ⟨_, rfl, bind_eq_error.mpr (.inr ⟨_, area, ?_⟩)⟩)
    rw [refused]
    rfl

theorem kind_of_window {level start stop : Value} :
    ∀ r ∈ windowRequirements payload level start stop, r.failure.kind = .invalid := by
  unfold windowRequirements
  split
  · simp
  · split
    · simp [dateRequirements, Failure.invalid]
    · simp

theorem kind_of_checkPayload {level start stop : Value}
    (checked : Timeline.checkPayload payload level start stop = .ok (some f)) :
    f.kind = .invalid := by
  have gives : Gives False (Timeline.checkPayload payload level start stop)
      (Requirement.unmet? (windowRequirements payload level start stop)) :=
    checkPayload_gives False.elim False.elim False.elim
  rcases gives with agreed | ⟨-, e, stopped⟩
  · obtain ⟨r, first, rfl⟩ := Option.map_eq_some_iff.mp (Except.ok.inj (agreed.symm.trans checked))
    exact kind_of_window r (List.mem_of_find?_eq_some first)
  · cases stopped.symm.trans checked

/-- A step returns no denial. -/
def Silent (x : Except Halt α) : Prop := ∀ f, x = .error (.failure f) → ¬ f.IsDenial

namespace Silent

theorem pure (a : α) : Silent (Pure.pure a) := nofun

theorem lift (r : Except Fault α) : Silent (Decision.lift r) := by
  intro f failed
  obtain ⟨fault, -, other⟩ := mapError_eq_error.mp failed
  cases other

theorem reject (other : ¬ f.IsDenial) : Silent (reject f : Except Halt α) := by
  intro f' failed
  cases failed
  exact other

theorem reject_of_kind (kind : f.kind ≠ .forbidden) : Silent (Decision.reject f : Except Halt α) :=
  reject (by rintro (⟨r, rfl⟩ | ⟨r, rfl⟩) <;> exact kind rfl)

theorem bind {x : Except Halt α} {g : α → Except Halt β} (h : Silent x)
    (then_ : ∀ a, x = .ok a → Silent (g a)) : Silent (x >>= g) := by
  intro f failed
  rcases bind_eq_error.mp failed with first | ⟨a, passed, rest⟩
  · exact h f first
  · exact then_ a passed f rest

theorem map {x : Except Halt α} (h : Silent x) (g : α → β) : Silent (x.map g) := by
  cases x with
  | error e =>
    intro f failed
    exact h f (congrArg Except.error (Except.error.inj failed))
  | ok a => exact nofun

end Silent

theorem rejectSome_silent {failed : Option Failure} (kind : ∀ f ∈ failed, f.kind ≠ .forbidden) :
    Silent (rejectSome failed) := by
  cases failed with
  | none => exact .pure ()
  | some f => exact .reject_of_kind (kind f rfl)

theorem checkName_silent (existing : Option ProjectRecord) :
    Silent (checkName reads payload existing) := by
  unfold checkName
  split
  · refine .bind (.lift _) fun taken _ => ?_
    split
    · exact .reject_of_kind nofun
    · exact .pure ()
  · exact .pure ()

theorem checkYears_silent (existing : Option ProjectRecord) :
    Silent (checkYears payload existing) := by
  unfold checkYears
  dsimp only
  split
  · exact .pure ()
  · refine .bind (.lift _) fun start _ => .bind (.lift _) fun stop _ => ?_
    split
    · split
      · exact .pure ()
      · split
        · exact nofun
        · split
          · exact .reject_of_kind nofun
          · exact .reject_of_kind nofun
    · exact .pure ()

theorem resolveArea_silent (id : Value) : Silent (resolveArea reads id) := by
  unfold resolveArea
  refine .bind (.lift _) fun found _ => ?_
  cases found with
  | none => exact .reject_of_kind nofun
  | some a =>
    dsimp only
    split
    · exact .reject_of_kind nofun
    · split
      · exact .reject_of_kind nofun
      · exact .pure a

theorem checkAreaChange_silent (existing : ProjectRecord) :
    Silent (checkAreaChange reads payload p existing) := by
  unfold checkAreaChange
  dsimp only
  split
  · split
    · exact .reject Failure.not_isDenial_areaChange
    · exact (resolveArea_silent _).map some
  · exact .pure none

theorem currentArea_silent (existing : ProjectRecord) : Silent (currentArea reads existing) := by
  unfold currentArea
  split
  · exact .pure none
  · exact .lift _

theorem denies_of_rejectSome {x : Option Refusal} {g : Refusal → Failure}
    (refused : rejectSome (x.map g) = .error (.failure f)) : ∃ r, x = some r ∧ f = g r := by
  cases x with
  | none => cases refused
  | some r =>
    cases refused
    exact ⟨r, rfl, rfl⟩

theorem denies_iff (denial : f.IsDenial) (level : Value) :
    decideProposal reads payload p level = .error (.failure f) ↔ Denies reads payload p f := by
  refine ⟨fun refused => ?_, fun h => h.decided level⟩
  cases named : (payload.get "referenceNumber").truthy with
  | false =>
    rw [decideProposal_create named, create] at refused
    rcases bind_eq_error.mp refused with rights | ⟨-, -, rest⟩
    · obtain ⟨r, own, rfl⟩ := denies_of_rejectSome rights
      exact .create named own
    · refine absurd denial (Silent.bind (checkName_silent none) (fun _ _ => ?_) f rest)
      refine .bind (checkYears_silent none) fun _ _ => .bind (resolveArea_silent _) fun _ _ => ?_
      exact .pure _
  | true =>
    rw [decideProposal_update named, update] at refused
    rcases bind_eq_error.mp refused with read | ⟨found, read, refused⟩
    · exact absurd denial (Silent.lift _ f read)
    cases found with
    | none =>
      have other : projectUnknown.kind ≠ .forbidden := by decide
      exact absurd denial (Silent.reject_of_kind other f refused)
    | some existing =>
      rcases bind_eq_error.mp refused with area | ⟨current, area, refused⟩
      · exact absurd denial (currentArea_silent existing f area)
      rcases bind_eq_error.mp refused with rights | ⟨-, -, rest⟩
      · obtain ⟨r, own, rfl⟩ := denies_of_rejectSome rights
        exact .update named (mapError_eq_ok.mp read) area own
      · refine absurd denial (Silent.bind (checkName_silent _) (fun _ _ => ?_) f rest)
        refine .bind (checkYears_silent _) fun _ _ => .bind (checkAreaChange_silent _) fun _ _ => ?_
        refine .bind (.lift _) fun failed checked => .bind (rejectSome_silent ?_) fun _ _ => .pure _
        rintro f rfl
        simp [kind_of_checkPayload (mapError_eq_ok.mp checked)]

/-- Stores that agree on areas, and on the area of the scheme that is asked about where the first
one has it. -/
structure Concur (reads reads' : Reads) (reference : Value) : Prop where
  area : reads.area = reads'.area
  project : ∀ existing, reads.project reference = .ok (some existing) →
    ∃ existing', reads'.project reference = .ok (some existing') ∧
      existing'.areaId = existing.areaId

theorem currentArea_congr (area : reads.area = reads'.area) {existing existing' : ProjectRecord}
    (same : existing'.areaId = existing.areaId) :
    currentArea reads' existing' = currentArea reads existing := by
  unfold currentArea
  rw [same, area]

theorem Denies.transfer (h : Denies reads payload p f)
    (reference : payload'.get "referenceNumber" = payload.get "referenceNumber")
    (area : (payload.get "referenceNumber").truthy = false →
      payload'.get "areaId" = payload.get "areaId")
    (stores : (payload.get "referenceNumber").truthy = true →
      Concur reads reads' (payload.get "referenceNumber")) : Denies reads' payload' p f := by
  cases h with
  | create unnamed refused =>
    exact .create (by rw [reference, unnamed]) (by rw [area unnamed, refused])
  | update named found current refused =>
    obtain ⟨existing', found', same⟩ := (stores named).project _ found
    refine .update (by rw [reference, named]) (by rw [reference, found']) ?_ refused
    rw [currentArea_congr (stores named).area same, current]

end Decision

namespace Database

variable {db db' : Database} {reference : Value}

theorem project_eq_some {existing : ProjectRecord} :
    db.project reference = .ok (some existing) ↔
      (∀ op ∈ schemeReads, db.faults op = none) ∧
        ∃ x, db.tables.named? reference = some x ∧ db.tables.record x = existing := by
  constructor
  · intro h
    obtain ⟨x?, found, h⟩ := bind_eq_ok.mp h
    obtain ⟨_, reached, -⟩ := bind_eq_ok.mp found
    cases x? with
    | none => cases h
    | some x =>
      obtain ⟨_, owner, h⟩ := bind_eq_ok.mp h
      obtain ⟨_, state, h⟩ := bind_eq_ok.mp h
      refine ⟨?_, x, ?_, Option.some.inj (pure_eq_ok.mp h)⟩
      · simp [schemeReads, attempt_eq_ok.mp reached, attempt_eq_ok.mp owner, attempt_eq_ok.mp state]
      · obtain ⟨key, searched, stored⟩ := Upsert.findProject_eq_ok found
        simp [Tables.named?, searched, stored, Except.toOption]
  · rintro ⟨quiet, x, named, rfl⟩
    obtain ⟨key, searched, found⟩ := named?_eq_some named
    have goes : ∀ op ∈ schemeReads, db.attempt op = .ok () := fun op mem =>
      attempt_eq_ok.mpr (quiet op mem)
    simp only [schemeReads, List.forall_mem_cons] at goes
    simp [project, findProject, goes, searched, found, Tables.record, bind, Except.bind, pure,
      Except.pure]

/-- Two stores with the same areas, in which a value names a scheme of the same area or no scheme,
and reading that goes the same way. -/
structure SameTarget (db db' : Database) (reference : Value) : Prop where
  areas : db'.tables.areas = db.tables.areas
  target : (db'.tables.named? reference).map (fun x => (db'.tables.record x).areaId) =
    (db.tables.named? reference).map fun x => (db.tables.record x).areaId
  areaFaults : ∀ i, db'.faults (.readArea i) = db.faults (.readArea i)
  schemeFaults : ∀ op ∈ schemeReads, db'.faults op = db.faults op

theorem SameTarget.concur (h : db.SameTarget db' reference) :
    Decision.Concur db.reads db'.reads reference where
  area := by
    rw [Decision.reads_area, Decision.reads_area]
    funext id
    simp only [Database.area, attempt, Faults.attempt, h.areas, h.areaFaults]
  project existing found := by
    obtain ⟨quiet, x, named, rfl⟩ := project_eq_some.mp found
    have target := h.target
    rw [named] at target
    obtain ⟨x', named', area⟩ := Option.map_eq_some_iff.mp target
    refine ⟨db'.tables.record x', project_eq_some.mpr ⟨fun op mem => ?_, x', named', rfl⟩, area⟩
    rw [h.schemeFaults op mem, quiet op mem]

end Database

/-- If `decideProposal` denies permission (403) in one run, then it returns the same failure in
every other run by the same caller for the same stored scheme, or for a new scheme in the same area.
The rest of the payload, the level and the rest of the store may differ. -/
theorem denial_reveals_nothing {db db' : Database} {payload payload' : Fields} {p : Principal}
    {level : Value} (level' : Value) {f : Failure}
    (reference : payload'.get "referenceNumber" = payload.get "referenceNumber")
    (area : (payload.get "referenceNumber").truthy = false →
      payload'.get "areaId" = payload.get "areaId")
    (stores : (payload.get "referenceNumber").truthy = true →
      db.SameTarget db' (payload.get "referenceNumber"))
    (denial : f.IsDenial)
    (denied : decideProposal db.reads payload p level = .error (.failure f)) :
    f.status = 403 ∧ decideProposal db'.reads payload' p level' = .error (.failure f) := by
  have refused := (denies_iff denial level).mp denied
  have refused' := refused.transfer reference area fun named => (stores named).concur
  exact ⟨denial.status, refused'.decided level'⟩

open Service in
theorem denial_reveals_nothing_dyke :
    let p : Principal := ⟨.int 7, false, true, [{ areaId := .int 9 }]⟩
    let wall : Project := { dyke [] with
      id := 2, reference := "ANC501E/000A/002A", columns := [("name", .text "Wall")] }
    let db : Database := ⟨(norfolkWith (dyke [])).tables, Faults.none⟩
    let db' : Database :=
      ⟨{ db.tables with projects := [{ dyke [] with columns := [] }, wall] }, Faults.none⟩
    let q := dykeStep "PROJECT_NAME" [("name", .text "Sluice")]
    let q' := dykeStep "FINANCIAL_START_YEAR"
      [("name", .text "wall"), ("financialStartYear", .int 2040), ("areaId", .int 99)]
    (db'.nameTaken (.text "wall") (.text "ANC501E/000A/001A")).toOption = some true ∧
      decideProposal db.reads q.payload p (.text q.level) =
        .error (.failure (updateRefused .noAccessToScheme)) ∧
      (updateRefused .noAccessToScheme).status = 403 ∧
      decideProposal db'.reads q'.payload p (.text q'.level) =
        .error (.failure (updateRefused .noAccessToScheme)) := by
  intro p wall db db' q q'
  have denied : decideProposal db.reads q.payload p (.text q.level) =
      .error (.failure (updateRefused .noAccessToScheme)) := rfl
  have reference : q'.payload.get "referenceNumber" = q.payload.get "referenceNumber" := rfl
  have stores : db.SameTarget db' (.text "ANC501E/000A/001A") :=
    ⟨rfl, rfl, fun _ => rfl, fun _ _ => rfl⟩
  have denial : (updateRefused .noAccessToScheme).IsDenial := .inr ⟨.noAccessToScheme, rfl⟩
  exact ⟨by decide, denied,
    denial_reveals_nothing (.text q'.level) reference nofun (fun _ => stores) denial denied⟩

end FloodScheme
