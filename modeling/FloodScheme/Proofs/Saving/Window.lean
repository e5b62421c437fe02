import FloodScheme.Proofs.Level.Dates
import FloodScheme.Proofs.Store.Columns
import Mathlib.Data.Prod.Lex

/-! Dates of milestones against the financial years of a scheme. A save checks the date of its own
level against the stored years; a date that it does not write stays as it is, while the years may
change. -/
namespace FloodScheme
open Decision Outcome

def Value.int? : Value → Option Int
  | int i => some i
  | _ => none

/-- The first and the last financial year, where they are known. -/
structure Window where
  first : Option Int
  last : Option Int

/-- The month in which a financial year starts. Dates are ordered by year and month. -/
def april (year : Int) : Int ×ₗ Int := toLex (year, Timeline.startMonth)

namespace Milestone

/-- A date lies from April of the first financial year on and before April of the last one or,
where it has to be early, before April of the first one. -/
def Within (m : Milestone) (w : Window) (date : Int ×ₗ Int) : Prop :=
  if m.early then ∀ y ∈ w.first, date < april y
  else (∀ y ∈ w.first, april y ≤ date) ∧ ∀ y ∈ w.last, date < april y

instance (m : Milestone) (w : Window) (date : Int ×ₗ Int) : Decidable (m.Within w date) :=
  inferInstanceAs (Decidable (if m.early = true then ∀ y ∈ w.first, date < april y
    else (∀ y ∈ w.first, april y ≤ date) ∧ ∀ y ∈ w.last, date < april y))

/-- A year that bounds the date has moved towards it, or was not known before. -/
def Narrowed (m : Milestone) (w w' : Window) : Prop :=
  if m.early then ∃ y' ∈ w'.first, ∀ y ∈ w.first, y' < y
  else (∃ y' ∈ w'.first, ∀ y ∈ w.first, y < y') ∨ ∃ y' ∈ w'.last, ∀ y ∈ w.last, y' < y

end Milestone

namespace Project

def window (p : Project) : Window :=
  ⟨(p.column "earliest_start_year").int?, (p.column "project_end_financial_year").int?⟩

def stored (p : Project) (wire : String) : Value :=
  (Field.writable.find? (·.wire == wire)).elim .null fun f => p.column f.column

def date? (p : Project) (m : Milestone) : Option (Int ×ₗ Int) :=
  match p.stored m.yearField, p.stored m.monthField with
  | .int year, .int month => some (toLex (year, month))
  | _, _ => none

/-- All stored dates lie where they have to. -/
def InWindow (p : Project) : Prop :=
  ∀ m ∈ Timeline.milestones, ∀ d ∈ p.date? m, m.Within p.window d

instance (p : Project) : Decidable p.InWindow :=
  inferInstanceAs (Decidable (∀ m ∈ Timeline.milestones, ∀ d ∈ p.date? m, m.Within p.window d))

end Project

namespace Proposal

/-- Both fields of the date are written. -/
def writes (q : Proposal) (m : Milestone) : Bool :=
  q.kept.has m.monthField && q.kept.has m.yearField

end Proposal

theorem april_le_april {y y' : Int} (h : y ≤ y') : april y ≤ april y' := by
  rw [april, april, Prod.Lex.toLex_le_toLex]
  rcases Int.lt_or_eq_of_le h with earlier | rfl
  · exact .inl earlier
  · exact .inr ⟨rfl, Int.le_refl _⟩

theorem beforeApril_iff {month year boundary : Int} :
    beforeApril month year boundary = true ↔ toLex (year, month) < april boundary := by
  rw [april, Prod.Lex.toLex_lt_toLex]
  simp [beforeApril, Timeline.startMonth]

theorem Milestone.Within.of_not_narrowed {m : Milestone} {w w' : Window} {d : Int ×ₗ Int}
    (h : m.Within w d) (wide : ¬ m.Narrowed w w') : m.Within w' d := by
  unfold Within at h ⊢
  unfold Narrowed at wide
  split
  · next early =>
    rw [if_pos early] at h wide
    intro y' known'
    simp only [not_exists, not_and, not_forall, Int.not_lt] at wide
    obtain ⟨y, known, le⟩ := wide y' known'
    exact lt_of_lt_of_le (h y known) (april_le_april le)
  · next regular =>
    rw [if_neg regular] at h wide
    simp only [not_or, not_exists, not_and, not_forall, Int.not_lt] at wide
    constructor
    · intro y' known'
      obtain ⟨y, known, le⟩ := wide.1 y' known'
      exact le_trans (april_le_april le) (h.1 y known)
    · intro y' known'
      obtain ⟨y, known, le⟩ := wide.2 y' known'
      exact lt_of_lt_of_le (h.2 y known) (april_le_april le)

theorem datePart?_of_int? {v : Value} {y : Int} (h : y ∈ v.int?) : datePart? v = some y := by
  cases v with
  | int i => exact h
  | null => cases h
  | bool b => cases h
  | float x => cases h
  | decimal d => cases h
  | text s => cases h
  | list items => cases h
  | object members => cases h

theorem within_of_dateRequirements {m : Milestone} {month year : Int} {x : Project}
    (met : ∀ r ∈ dateRequirements m month year (datePart? (x.column "earliest_start_year"))
      (datePart? (x.column "project_end_financial_year")), r.holds = true) :
    m.Within x.window (toLex (year, month)) := by
  simp only [dateRequirements, List.forall_mem_cons] at met
  obtain ⟨early, start, stop, -⟩ := met
  unfold Milestone.Within
  split
  · next isEarly =>
    intro y known
    rw [datePart?_of_int? known] at early
    exact beforeApril_iff.mp (by simpa [isEarly] using early)
  · next regular =>
    constructor
    · intro y known
      rw [datePart?_of_int? known] at start
      have after : beforeApril month year y = false := by simpa [regular] using start
      exact not_lt.mp fun before => by simp [beforeApril_iff.mpr before] at after
    · intro y known
      rw [datePart?_of_int? known] at stop
      exact beforeApril_iff.mp (by simpa [regular] using stop)

theorem milestoneOf?_own : ∀ m ∈ Timeline.milestones, milestoneOf? (.text m.level) = some m := by
  decide

namespace Proposal

variable {q : Proposal} {u : Upsert} {t t' : Tables} {p : Principal} {x x' : Project}
  {m : Milestone}

theorem Sends.takenAt (h : q.Sends u) (known : m ∈ Timeline.milestones)
    (written : q.writes m = true) : m.TakenAt q.level := by
  obtain ⟨l, level, named, accepts⟩ := h.level
  rw [writes, h.kept_eq, Bool.and_eq_true] at written
  exact named ▸ (accepts.date_whole level known).2 written.1

theorem SavesAgain.within (h : q.SavesAgain t p x x' t') (known : m ∈ Timeline.milestones)
    (own : m.level = q.level) {month year : Int}
    (sentMonth : q.payload.get? m.monthField = some (.int month))
    (sentYear : q.payload.get? m.yearField = some (.int year)) :
    m.Within x.window (toLex (year, month)) := by
  refine within_of_dateRequirements fun r mem => h.allowed r (List.mem_append_right _ ?_)
  have level : milestoneOf? (.text q.level) = some m := own ▸ milestoneOf?_own m known
  have date : datePart? (q.payload.get m.monthField) = some month ∧
      datePart? (q.payload.get m.yearField) = some year := by
    rw [Fields.get, Fields.get, sentMonth, sentYear]
    exact ⟨rfl, rfl⟩
  unfold windowRequirements
  simp only [level, date.1, date.2]
  exact mem

theorem rma_name_wire : ∀ f ∈ Field.writable, f.column = "rma_name" → f.wire = "rmaName" := by
  decide

theorem Sends.stored_eq (h : q.Sends u)
    (leaves : ∀ c, Upsert.Leaves c (x.column c) (x'.column c) (u.data.get? c)) {wire : String}
    (other : wire ≠ "rmaName") (unwritten : q.kept.has wire = false) :
    x'.stored wire = x.stored wire := by
  unfold Project.stored
  cases column : Field.writable.find? (·.wire == wire) with
  | none => rfl
  | some f =>
    have named : f.wire = wire := by simpa using List.find?_some column
    have mem := List.mem_of_find?_eq_some column
    have leaves := leaves f.column
    have missing : u.payload.get? f.wire = none := by
      rw [h.kept_eq] at unwritten
      rw [named]
      simpa [Fields.has] using unwritten
    rw [Upsert.get?_data u mem fun same => other (named ▸ rma_name_wire f mem same),
      missing] at leaves
    exact leaves

theorem SavesAgain.stored_eq (h : q.SavesAgain t p x x' t') {wire : String}
    (other : wire ≠ "rmaName") (unwritten : q.kept.has wire = false) :
    x'.stored wire = x.stored wire := by
  obtain ⟨u, -, sends, updates⟩ := h.updates
  exact sends.stored_eq updates.change.column other unwritten

theorem date_fields_other : ∀ m ∈ Timeline.milestones,
    m.monthField ≠ "rmaName" ∧ m.yearField ≠ "rmaName" := by decide

theorem SavesAgain.date?_eq (h : q.SavesAgain t p x x' t') (known : m ∈ Timeline.milestones)
    (unwritten : q.writes m = false) : x'.date? m = x.date? m := by
  obtain ⟨u, -, sends, -⟩ := h.updates
  obtain ⟨l, level, -, accepts⟩ := sends.level
  have whole := (accepts.date_whole level known).1
  rw [← sends.kept_eq] at whole
  rw [writes, whole, Bool.and_self] at unwritten
  obtain ⟨month, year⟩ := date_fields_other m known
  rw [Project.date?, Project.date?, h.stored_eq year unwritten,
    h.stored_eq month (whole.trans unwritten)]

/-- Levels of schemes that exist and that take one of the financial years. -/
def yearLevels : List String := ["FINANCIAL_START_YEAR", "FINANCIAL_END_YEAR"]

theorem year_levels : ∀ l ∈ Catalogue.levels,
    (declares l.rules "financialStartYear" || declares l.rules "financialEndYear") = true →
      l.name = "INITIAL_SAVE" ∨ l.name ∈ yearLevels := by decide

theorem SavesAgain.window_eq (h : q.SavesAgain t p x x' t') (other : q.level ∉ yearLevels) :
    x'.window = x.window := by
  obtain ⟨u, -, sends, -⟩ := h.updates
  obtain ⟨l, level, named, accepts⟩ := sends.level
  have undeclared : declares l.rules "financialStartYear" = false ∧
      declares l.rules "financialEndYear" = false := by
    rw [← Bool.or_eq_false_iff]
    refine Bool.eq_false_iff.mpr fun declared => ?_
    rcases year_levels l level declared with first | year
    · exact h.level.1 (named ▸ first)
    · exact other (named ▸ year)
  have unwritten {wire : String} (undeclared : declares l.rules wire = false) :
      q.kept.has wire = false := by
    rw [sends.kept_eq, Fields.has]
    cases found : u.payload.get? wire with
    | none => rfl
    | some v =>
      obtain ⟨r, mem, rfl, -⟩ := accepts.rule_of_kept found
      simp [declares, List.any_eq_false] at undeclared
      exact absurd rfl (undeclared r mem)
  have first := h.stored_eq (by decide) (unwritten undeclared.1)
  have last := h.stored_eq (by decide) (unwritten undeclared.2)
  have columns (y : Project) : y.window =
      ⟨(y.stored "financialStartYear").int?, (y.stored "financialEndYear").int?⟩ := rfl
  rw [columns, columns, first, last]

theorem SavesAgain.keeps (h : q.SavesAgain t p x x' t') (known : m ∈ Timeline.milestones)
    (unwritten : q.writes m = false) (before : ∀ d ∈ x.date? m, m.Within x.window d) :
    (∀ d ∈ x'.date? m, m.Within x'.window d) ∨
      q.level ∈ yearLevels ∧ m.Narrowed x.window x'.window := by
  rw [h.date?_eq known unwritten]
  by_cases narrowed : m.Narrowed x.window x'.window
  · by_cases year : q.level ∈ yearLevels
    · exact .inr ⟨year, narrowed⟩
    · rw [h.window_eq year]
      exact .inl before
  · exact .inl fun d stored => (before d stored).of_not_narrowed narrowed

end Proposal
end FloodScheme
