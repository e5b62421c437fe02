import FloodScheme.Decision
import FloodScheme.Proofs.Area.Parents

/-! The decision on a proposal as a list of requirements on the tables. They stand in the order in
which they are looked at, and the first one that is not met is reported. -/
namespace FloodScheme

/-- A condition, and the failure that is returned if it is false. -/
structure Requirement where
  holds : Bool
  failure : Failure

namespace Requirement

variable {α : Type}

/-- Failure of the first requirement whose condition is false. -/
def unmet? (rs : List Requirement) : Option Failure :=
  (rs.find? (!·.holds)).map Requirement.failure

/-- The first requirement that is not met decides. -/
def judge (rs : List Requirement) (a : α) : Except Failure α :=
  match unmet? rs with
  | some f => .error f
  | none => .ok a

theorem judge_nil (a : α) : judge [] a = .ok a := rfl

theorem judge_cons (r : Requirement) (rs : List Requirement) (a : α) :
    judge (r :: rs) a = if r.holds then judge rs a else .error r.failure := by
  cases hr : r.holds with
  | true => simp [judge, unmet?, hr]
  | false => simp [judge, unmet?, hr]

theorem eq_of_judge_eq_ok {rs : List Requirement} {a b : α} (h : judge rs a = .ok b) :
    b = a := by
  unfold judge at h
  split at h
  · cases h
  · exact (Except.ok.inj h).symm

theorem holds_of_judge_eq_ok {rs : List Requirement} {a b : α} (h : judge rs a = .ok b) :
    ∀ r ∈ rs, r.holds = true := by
  induction rs with
  | nil => simp
  | cons r rs ih =>
    rw [judge_cons] at h
    split at h
    · next met => exact List.forall_mem_cons.mpr ⟨met, ih h⟩
    · cases h

theorem judge_append {β : Type} (rs rs' : List Requirement) (a : α) (b : β) :
    judge (rs ++ rs') a = judge rs b >>= fun _ => judge rs' a := by
  induction rs with
  | nil => rfl
  | cons r rs ih =>
    rw [List.cons_append, judge_cons, judge_cons, ih]
    split
    · rfl
    · rfl

end Requirement

/-- The whole number that a value reads as. -/
def Value.whole? (v : Value) : Option Int := v.wholePart.toOption.join

def Tables.record (t : Tables) (q : Project) : ProjectRecord where
  id := q.id
  reference := q.reference
  name := q.name
  areaId := (t.ownerLink? q.id).map LinkRow.areaId
  startYear := q.column "earliest_start_year"
  endYear := q.column "project_end_financial_year"
  state := (t.state? q.id).map StateRow.state

/-- The project that a value names. -/
def Tables.named? (t : Tables) (reference : Value) : Option Project :=
  (searchText reference).toOption.join.bind t.project?

namespace Decision

def isMember (p : Principal) (id : Value) : Bool := p.areas.any (sameArea ·.areaId id)

/-- None of the projects that count has the name. -/
def nameIsFree (t : Tables) (name : Value) (counts : Project → Bool) : Bool :=
  match name with
  | .text s =>
    Text.allBlank s ||
      !t.projects.any fun q => counts q && q.nameKey? == some (Database.searchedName s)
  | _ => true

/-- The year that was sent, or else the stored one. -/
def comparedYear (payload : Fields) (field : String) (stored : Value) : Option Int :=
  (if isPresent payload field then payload.get field else stored).whole?

/-- Where a year is sent and both are known, the first one does not come after the last one. -/
def yearRequirement (payload : Fields) (storedStart storedEnd : Value) : Requirement :=
  let start := comparedYear payload "financialStartYear" storedStart
  let stop := comparedYear payload "financialEndYear" storedEnd
  let startSent := isPresent payload "financialStartYear"
  let endSent := isPresent payload "financialEndYear"
  { holds := !(startSent || endSent) || start.all fun s => stop.all fun e => s ≤ e
    failure :=
      if startSent then startAfterEnd (start.getD 0) (stop.getD 0)
      else endBeforeStart (start.getD 0) (stop.getD 0) }

/-- The identifier names an RMA whose parent is a PSO Area with a sub type. -/
def areaRequirements (t : Tables) (id : Value) : List Requirement :=
  let area := t.area? id
  let code := (area.bind (t.parent? · Area.psoType)).bind Area.subType
  [⟨area.isSome, areaUnknown⟩,
    ⟨area.any Area.isRma, notAnRma (area.elim "" Area.type)⟩,
    ⟨code.any (· != ""), codeUnknown⟩]

def createRequirements (t : Tables) (payload : Fields) (p : Principal) : List Requirement :=
  [⟨p.isRma, createRefused .onlyRma⟩,
    ⟨isMember p (payload.get "areaId"), createRefused .noAccessToArea⟩,
    ⟨nameIsFree t (payload.get "name") fun _ => true, nameDuplicate⟩,
    yearRequirement payload .null .null] ++
  areaRequirements t (payload.get "areaId")

/-- The payload names another area than the owner's. -/
def movesArea (payload : Fields) (existing : ProjectRecord) : Bool :=
  isPresent payload "areaId" &&
    !sameArea (payload.get "areaId") (existing.areaId.elim .null .int)

/-- Earlier than April of a year. -/
def beforeApril (month year boundary : Int) : Bool :=
  year < boundary ∨ year = boundary ∧ month < 4

/-- Month or year of a date; a truth value is none. -/
def datePart? (v : Value) : Option Int :=
  match v with
  | .bool _ => none
  | v => v.whole?

def milestoneOf? (level : Value) : Option Milestone :=
  match level with
  | .text name => Timeline.milestones.find? (·.level == name)
  | _ => none

/-- A date of a milestone lies from April of the first financial year up to March of the last one
or, where it has to be early, before the first one. -/
def dateRequirements (m : Milestone) (month year : Int) (start stop : Option Int) :
    List Requirement :=
  let failure (b : Timeline.Breach) : Failure :=
    .invalid b.code (m.label ++ b.demand) m.monthField
  [⟨!m.early || start.all (beforeApril month year),
      failure (.tooLateForStart (start.getD 0))⟩,
    ⟨m.early || start.all fun s => !beforeApril month year s, failure (.tooEarly (start.getD 0))⟩,
    ⟨m.early || stop.all (beforeApril month year), failure (.tooLate (stop.getD 0))⟩]

def windowRequirements (payload : Fields) (level start stop : Value) : List Requirement :=
  match milestoneOf? level with
  | none => []
  | some m =>
    match datePart? (payload.get m.monthField), datePart? (payload.get m.yearField) with
    | some month, some year => dateRequirements m month year (datePart? start) (datePart? stop)
    | _, _ => []

def updateRequirements (t : Tables) (payload : Fields) (p : Principal) (level : Value)
    (existing : ProjectRecord) : List Requirement :=
  let area := existing.areaId.bind fun i => t.withParents (.int i)
  [⟨p.isAdmin || area.isSome, updateRefused .areaUnknown⟩,
    ⟨p.isAdmin || area.any fun a =>
        isMember p (.int a.area.id) || a.pso.any fun pso => isMember p (.int pso.id),
      updateRefused .noAccessToScheme⟩,
    ⟨nameIsFree t (payload.get "name") fun q => q.reference != existing.reference, nameDuplicate⟩,
    yearRequirement payload existing.startYear existing.endYear] ++
  (if movesArea payload existing then
    ⟨p.isAdmin, areaChangeRefused⟩ :: areaRequirements t (payload.get "areaId")
  else []) ++
  windowRequirements payload level existing.startYear existing.endYear

/-- The area with its parents and its coordination code, for a project that is there or not. -/
def acceptance (area : Option AreaWithParents) (existing : Option ProjectRecord) : Acceptance where
  area
  code := area.bind AreaWithParents.rfccCode
  existing

theorem acceptance_area (area : Option AreaWithParents) (existing : Option ProjectRecord) :
    (acceptance area existing).area = area := rfl

/-- The decision on a proposal, read off the tables. -/
def expected (t : Tables) (payload : Fields) (p : Principal) (level : Value) :
    Except Failure Acceptance :=
  let reference := payload.get "referenceNumber"
  let area := t.withParents (payload.get "areaId")
  if !reference.truthy then
    Requirement.judge (createRequirements t payload p) (acceptance area none)
  else
    match t.named? reference with
    | none => .error projectUnknown
    | some q =>
      let existing := t.record q
      Requirement.judge (updateRequirements t payload p level existing)
        (acceptance (if movesArea payload existing then area else none) existing)

section
variable {t : Tables} {payload : Fields} {p : Principal} {level : Value}

theorem expected_named {q : Project}
    (said : (payload.get "referenceNumber").truthy = true)
    (found : t.named? (payload.get "referenceNumber") = some q) :
    expected t payload p level =
      Requirement.judge (updateRequirements t payload p level (t.record q))
        (acceptance (if movesArea payload (t.record q) then
          t.withParents (payload.get "areaId") else none) (some (t.record q))) := by
  simp only [expected, said, found, Bool.not_true, Bool.false_eq_true, if_false]

theorem expected_eq_ok {a : Acceptance} (h : expected t payload p level = .ok a) :
    (payload.get "referenceNumber").truthy = false ∧
        (∀ r ∈ createRequirements t payload p, r.holds = true) ∧
        a = acceptance (t.withParents (payload.get "areaId")) none ∨
      (payload.get "referenceNumber").truthy = true ∧
        ∃ q, t.named? (payload.get "referenceNumber") = some q ∧
          (∀ r ∈ updateRequirements t payload p level (t.record q), r.holds = true) ∧
          a = acceptance (if movesArea payload (t.record q) then
            t.withParents (payload.get "areaId") else none) (some (t.record q)) := by
  cases said : (payload.get "referenceNumber").truthy with
  | false =>
    simp only [expected, said, Bool.not_false, if_true] at h
    exact .inl ⟨rfl, Requirement.holds_of_judge_eq_ok h, Requirement.eq_of_judge_eq_ok h⟩
  | true =>
    cases found : t.named? (payload.get "referenceNumber") with
    | none =>
      simp only [expected, said, found, Bool.not_true, Bool.false_eq_true, if_false] at h
      cases h
    | some q =>
      rw [expected_named said found] at h
      exact .inr ⟨rfl, q, rfl, Requirement.holds_of_judge_eq_ok h,
        Requirement.eq_of_judge_eq_ok h⟩

end

theorem area_of_requirements {t : Tables} {id : Value}
    (met : ∀ r ∈ areaRequirements t id, r.holds = true) :
    ∃ a, t.withParents id = some a ∧ t.area? id = some a.area ∧ a.area.isRma = true ∧
      ∃ pso code, a.pso = some pso ∧ t.parent? a.area Area.psoType = some pso ∧
        pso.subType = some code ∧ code ≠ "" ∧ a.rfccCode = some code := by
  simp only [areaRequirements, List.forall_mem_cons, Option.isSome_iff_exists,
    Option.any_eq_true, Option.bind_eq_some_iff, bne_iff_ne] at met
  obtain ⟨⟨a, area⟩, ⟨b, same, rma⟩, ⟨code, ⟨pso, ⟨c, same', parent⟩, coded⟩, some⟩, -⟩ := met
  obtain rfl := Option.some.inj (area.symm.trans same)
  obtain rfl := Option.some.inj (area.symm.trans same')
  have above : t.pso? a = .some pso := (t.pso?_of_isRma rma).trans parent
  refine ⟨⟨a, .some pso, t.parent? pso Area.eaType⟩, ?_, area, rma, pso, code, rfl, parent, coded,
    some, ?_⟩
  · rw [Tables.withParents, area, Option.map_some, above]
    rfl
  · simp [AreaWithParents.rfccCode, coded, some, Option.filter_some]

end Decision
end FloodScheme
