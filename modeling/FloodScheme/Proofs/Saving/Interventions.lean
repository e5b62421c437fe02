import FloodScheme.Proofs.Field.Kind
import FloodScheme.Proofs.Rule.Admits
import FloodScheme.Proofs.Saving.Conditions

/-! The types of the interventions of a scheme, and the main one. A level that takes one of the two
fields takes both, under one condition, so that a save writes both or neither; the main type is
one of the others, and it is still among them once they are joined by commas. -/
namespace FloodScheme
open Catalogue

namespace Project

def mainType (p : Project) : Value := p.column "main_intervention_type"

def MainSelected (p : Project) : Prop :=
  ∃ main types, p.mainType = .text main ∧ p.column "project_intervention_types" = .text types ∧
    main.toList ∈ splitCommas types.toList

end Project

namespace Catalogue

def isInterventionField (name : String) : Bool :=
  name == "projectInterventionTypes" || name == "mainInterventionType"

set_option maxRecDepth 4000 in
theorem interventionRules_table :
    (levels.map fun l => l.rules.filter fun r => isInterventionField r.name) =
    levels.map fun l => if l.name = "INITIAL_SAVE" ∨ l.name = "PROJECT_TYPE" then
      [projectInterventionTypes, mainInterventionType] else [] := rfl

theorem interventionRules_both {l : Level} {r : Rule} (level : l ∈ levels) (mem : r ∈ l.rules)
    (field : isInterventionField r.name = true) :
    projectInterventionTypes ∈ l.rules ∧ mainInterventionType ∈ l.rules ∧
      r.condition = some isIntervention := by
  have row := List.map_inj_left.mp interventionRules_table l level
  have found : r ∈ l.rules.filter fun r => isInterventionField r.name :=
    List.mem_filter.mpr ⟨mem, field⟩
  have inside {r : Rule} (h : r ∈ l.rules.filter fun r => isInterventionField r.name) :
      r ∈ l.rules := (List.mem_filter.mp h).1
  rw [row] at found inside
  split at found
  · next asked =>
    rw [if_pos asked] at inside
    refine ⟨inside List.mem_cons_self, inside (List.mem_cons_of_mem _ List.mem_cons_self), ?_⟩
    rcases List.mem_pair.mp found with rfl | rfl
    · rfl
    · rfl
  · cases found

theorem interventionTypes_plain :
    ∀ s ∈ interventionTypes, Text.allBlank s = false ∧ ',' ∉ s.toList := by decide

theorem mainType_of_check {v : Value} (checked : mainInterventionType.check v = none) :
    ∃ main ∈ interventionTypes, v = .text main := by
  obtain ⟨main, rfl, chosen, -⟩ := Rule.check_eq_none_iff.mp checked
  exact ⟨main, mem_distinct.mp (chosen _ rfl), rfl⟩

theorem types_of_check {v : Value} (checked : projectInterventionTypes.check v = none) :
    ∃ types : List String, types ⊆ interventionTypes ∧ v = .list (types.map .text) := by
  obtain ⟨types, rfl, chosen, -⟩ := Rule.check_eq_none_iff.mp checked
  exact ⟨types, fun s mem => mem_distinct.mp (chosen s mem _ rfl), rfl⟩

end Catalogue

theorem Value.mem_of_isIn_texts {main : String} {types : List String}
    (found : (Value.text main).isIn (types.map .text) = true) : main ∈ types := by
  rw [Value.isIn_eq_any (Value.signalsIn_of_isKey rfl (by simp [Value.isKey])),
    List.any_map, List.any_eq_true] at found
  obtain ⟨s, mem, equal⟩ := found
  exact Value.text.inj (Value.eq_text_of_equal equal) ▸ mem

theorem mem_of_mainTypeFailures {rules : List Rule} {payload : Fields} {main : String}
    {types : List String} (clean : mainTypeFailures rules payload = [])
    (declared : declares rules "mainInterventionType" = true)
    (selected : payload.get "projectInterventionTypes" = .list (types.map .text))
    (chosen : payload.get "mainInterventionType" = .text main)
    (said : Text.allBlank main = false) : main ∈ types := by
  refine Value.mem_of_isIn_texts ?_
  unfold mainTypeFailures mainTypeSelection? at clean
  by_contra missing
  simp [selected, chosen, declared, Value.isBlank, said, missing] at clean

/-- Both fields are written, and the main type is one of the others. -/
def WritesSelected (kept : Fields) : Prop :=
  ∃ main types, kept.get? "mainInterventionType" = some (.text main) ∧
    kept.get? "projectInterventionTypes" = some (.list (types.map .text)) ∧
    main ∈ types ∧ types ⊆ interventionTypes

theorem Level.Accepts.writesSelected {l : Level} {payload kept : Fields} {name : String} {v : Value}
    (h : l.Accepts payload kept) (level : l ∈ levels) (field : isInterventionField name = true)
    (found : kept.get? name = some v) : WritesSelected kept := by
  obtain ⟨r, mem, rfl, active, -⟩ := h.rule_of_kept found
  obtain ⟨types, main, condition⟩ := interventionRules_both level mem field
  rw [Rule.isActive, condition] at active
  obtain ⟨v, writtenTypes, checkedTypes⟩ := h.kept_of_required types rfl active
  obtain ⟨w, writtenMain, checkedMain⟩ := h.kept_of_required main rfl active
  obtain ⟨selected, choices, rfl⟩ := types_of_check checkedTypes
  obtain ⟨chosen, choice, rfl⟩ := mainType_of_check checkedMain
  have sent {name : String} {v : Value} (found : kept.get? name = some v) :
      payload.get name = v := by rw [Fields.get, h.sent_of_kept found]; rfl
  exact ⟨chosen, selected, writtenMain, writtenTypes,
    mem_of_mainTypeFailures (levelFailures_eq_nil.mp h.clean).2.2
      (declares_iff.mpr ⟨_, main, rfl⟩) (sent writtenTypes) (sent writtenMain)
      (interventionTypes_plain chosen choice).1, choices⟩

theorem Level.Accepts.interventions {l : Level} {payload kept : Fields}
    (h : l.Accepts payload kept) (level : l ∈ levels) :
    (kept.get? "mainInterventionType" = none ∧ kept.get? "projectInterventionTypes" = none) ∨
      WritesSelected kept := by
  cases main : kept.get? "mainInterventionType" with
  | some v => exact .inr (h.writesSelected level rfl main)
  | none =>
    cases types : kept.get? "projectInterventionTypes" with
    | none => exact .inl ⟨rfl, rfl⟩
    | some v => exact .inr (h.writesSelected level rfl types)

namespace Catalogue

def mainField : Field := ⟨"mainInterventionType", "main_intervention_type", .copied⟩

def typesField : Field := ⟨"projectInterventionTypes", "project_intervention_types", .array⟩

theorem interventionFields : mainField ∈ Field.writable ∧ typesField ∈ Field.writable ∧
    ColumnType.ofColumn mainField.column = .text ∧
    ColumnType.ofColumn typesField.column = .text := by decide

end Catalogue

theorem FieldKind.mem_splitCommas_joinItems {types : List String} {s : String} (mem : s ∈ types)
    (plain : ∀ t ∈ types, ',' ∉ t.toList) :
    s.toList ∈ splitCommas (joinItems (types.map .text)).toList := by
  rw [joinItems_texts, String.toList_ofList, splitCommas_eq_splitOn,
    List.splitOn_intercalate ',' (by simpa using plain)
      (by simpa using List.ne_nil_of_mem mem)]
  exact List.mem_map_of_mem mem

namespace Proposal
open Upsert

variable {q : Proposal} {u : Upsert} {t t' : Tables} {p : Principal} {x x' : Project}

theorem Sends.interventions (h : q.Sends u)
    (leaves : ∀ c, Leaves c (x.column c) (x'.column c) (u.data.get? c)) :
    x'.MainSelected ∨ x'.mainType = x.mainType ∧
      x'.column typesField.column = x.column typesField.column := by
  obtain ⟨main, types, mainText, typesText⟩ := interventionFields
  obtain ⟨l, level, -, accepts⟩ := h.level
  have mainLeft := leaves mainField.column
  have typesLeft := leaves typesField.column
  rw [get?_data u main (by decide)] at mainLeft
  rw [get?_data u types (by decide)] at typesLeft
  change Leaves _ _ _ ((u.payload.get? "mainInterventionType").map _) at mainLeft
  change Leaves _ _ _ ((u.payload.get? "projectInterventionTypes").map _) at typesLeft
  rcases accepts.interventions level with ⟨none, none'⟩ | ⟨chosen, selected, some, some', mem, known⟩
  · rw [none] at mainLeft
    rw [none'] at typesLeft
    exact .inr ⟨mainLeft, typesLeft⟩
  · rw [some] at mainLeft
    rw [some'] at typesLeft
    exact .inl ⟨chosen, _, mainLeft.text mainText, typesLeft.text typesText,
      FieldKind.mem_splitCommas_joinItems mem fun t ht => (interventionTypes_plain t (known ht)).2⟩

theorem SavesNew.mainSelected (h : q.SavesNew t p x t') (some : x.mainType ≠ .null) :
    x.MainSelected := by
  obtain ⟨a, u, code, -, -, -, -, sends, creates⟩ := h.creates
  rcases sends.interventions (x := x.bare) creates.column with selected | ⟨same, -⟩
  · exact selected
  · exact absurd same some

theorem SavesAgain.mainSelected (h : q.SavesAgain t p x x' t')
    (before : x.mainType ≠ .null → x.MainSelected) (some : x'.mainType ≠ .null) :
    x'.MainSelected := by
  obtain ⟨u, -, sends, updates⟩ := h.updates
  rcases sends.interventions updates.change.column with selected | ⟨same, types⟩
  · exact selected
  · obtain ⟨main, stored, chosen, joined, mem⟩ := before (same ▸ some)
    exact ⟨main, stored, same.trans chosen, types.trans joined, mem⟩

end Proposal
end FloodScheme
