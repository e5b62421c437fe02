import FloodScheme.Proofs.Level.Accepted
import FloodScheme.Timeline

/-! Dates of milestones at the levels of the catalogue. The level of a milestone asks for its date
and for the date of the milestone before it; no other level takes a date, and none takes half of
one. -/
namespace FloodScheme

namespace Milestone

/-- When the date of a milestone is asked for. -/
def condition? (m : Milestone) : Option Condition :=
  if m.early then some Catalogue.startsEarly else none

/-- The rules of the two fields of a date. -/
def rules (m : Milestone) : List Rule :=
  [Catalogue.month m.monthField m.condition?, Catalogue.year m.yearField "YEAR" m.condition?]

def hasField (m : Milestone) (name : String) : Bool := name == m.monthField || name == m.yearField

/-- The milestone comes right before another one, between the same two years. -/
def Precedes (m own : Milestone) : Prop :=
  own.early = false ∧ [m, own] <:+: Timeline.milestones

instance (m own : Milestone) : Decidable (m.Precedes own) :=
  inferInstanceAs (Decidable (_ ∧ _))

/-- The level asks for the date: it is the milestone's own, or that of the one after it. -/
def TakenAt (m : Milestone) (level : String) : Prop :=
  m.level = level ∨ ∃ own ∈ Timeline.milestones, own.level = level ∧ m.Precedes own

instance (m : Milestone) (level : String) : Decidable (m.TakenAt level) :=
  inferInstanceAs (Decidable (_ ∨ _))

end Milestone

namespace Catalogue

set_option maxRecDepth 10000 in
theorem dateRules_table :
    (levels.map fun l => Timeline.milestones.map fun m =>
      l.rules.filter fun r => m.hasField r.name) =
    levels.map fun l => Timeline.milestones.map fun m =>
      if m.TakenAt l.name then m.rules else [] := rfl

theorem dateRules_eq {l : Level} {m : Milestone} (level : l ∈ levels)
    (known : m ∈ Timeline.milestones) :
    (l.rules.filter fun r => m.hasField r.name) =
      if m.TakenAt l.name then m.rules else [] := by
  have row := List.map_inj_left.mp dateRules_table l level
  exact List.map_inj_left.mp row m known

end Catalogue

namespace Level.Accepts
open Catalogue

variable {l : Level} {payload kept : Fields} {m : Milestone}

theorem has_of_not_takenAt (h : l.Accepts payload kept) (level : l ∈ levels)
    (known : m ∈ Timeline.milestones) (other : ¬ m.TakenAt l.name) {name : String}
    (field : m.hasField name = true) : kept.has name = false := by
  have none := dateRules_eq level known
  rw [if_neg other, List.filter_eq_nil_iff] at none
  cases found : kept.get? name with
  | none => rw [Fields.has, found]; rfl
  | some v =>
    obtain ⟨r, mem, rfl, -⟩ := h.rule_of_kept found
    exact absurd field (none r mem)

theorem has_of_takenAt (h : l.Accepts payload kept) (level : l ∈ levels)
    (known : m ∈ Timeline.milestones) (taken : m.TakenAt l.name) {name : String}
    (field : m.hasField name = true) :
    kept.has name = m.condition?.all fun c => c.holds payload := by
  have both := dateRules_eq level known
  rw [if_pos taken] at both
  obtain ⟨r, mem, named, required, condition⟩ :
      ∃ r ∈ l.rules, r.name = name ∧ r.required = true ∧ r.condition = m.condition? := by
    have inside {r : Rule} (mem : r ∈ m.rules) : r ∈ l.rules :=
      (List.mem_filter.mp (both ▸ mem)).1
    rcases Bool.or_eq_true_iff.mp field with month | year
    · exact ⟨_, inside (List.mem_cons_self), (beq_iff_eq.mp month).symm, rfl, rfl⟩
    · exact ⟨_, inside (List.mem_cons_of_mem _ List.mem_cons_self),
        (beq_iff_eq.mp year).symm, rfl, rfl⟩
  subst named
  rw [← condition]
  change _ = r.isActive payload
  cases active : r.isActive payload with
  | true =>
    obtain ⟨v, found, -⟩ := h.kept_of_required mem required active
    rw [Fields.has, found]
    rfl
  | false =>
    rw [Fields.has, h.get?_kept mem, active]
    rfl

theorem date_whole (h : l.Accepts payload kept) (level : l ∈ levels)
    (known : m ∈ Timeline.milestones) :
    kept.has m.monthField = kept.has m.yearField ∧
      (kept.has m.monthField = true → m.TakenAt l.name) := by
  have month : m.hasField m.monthField = true := by simp [Milestone.hasField]
  have year : m.hasField m.yearField = true := by simp [Milestone.hasField]
  by_cases taken : m.TakenAt l.name
  · rw [h.has_of_takenAt level known taken month, h.has_of_takenAt level known taken year]
    exact ⟨rfl, fun _ => taken⟩
  · rw [h.has_of_not_takenAt level known taken month, h.has_of_not_takenAt level known taken year]
    exact ⟨rfl, fun h => by cases h⟩

end Level.Accepts
end FloodScheme
