import FloodScheme.Proofs.Level.Merged

/-! Payloads without the fields of inactive rules. Where the fields that conditions look at are
declared without a condition themselves, none of them is dropped: all rules are as active as they
were, and a payload that was accepted is accepted as it is left. -/
namespace FloodScheme
open Outcome

/-- Each condition looks at a field whose rule has no condition. -/
def Grounded (rules : List Rule) : Prop :=
  ∀ m ∈ rules, ∀ c ∈ m.condition, ∃ g, rules.find? (·.name == c.field) = some g ∧
    g.condition = none

theorem get_keepActive (rules : List Rule) (payload : Fields) (name : String) :
    (keepActive rules payload).get name = payload.get name ∨
      (keepActive rules payload).get name = .null := by
  rw [Fields.get, get?_keepActive]
  split
  · exact .inl rfl
  · exact .inr rfl

theorem mainTypeSelection?_keepActive (rules : List Rule) (payload : Fields) :
    mainTypeSelection? rules (keepActive rules payload) = mainTypeSelection? rules payload ∨
      mainTypeSelection? rules (keepActive rules payload) = none := by
  unfold mainTypeSelection?
  rcases get_keepActive rules payload "projectInterventionTypes" with types | types
  · rw [types]
    rcases get_keepActive rules payload "mainInterventionType" with main | main
    · rw [main]
      exact .inl rfl
    · rw [main]
      refine .inr ?_
      cases payload.get "projectInterventionTypes" with
      | list selected => simp [Value.isBlank]
      | null => rfl
      | bool b => rfl
      | int i => rfl
      | float x => rfl
      | decimal d => rfl
      | text s => rfl
      | object members => rfl
  · rw [types]
    exact .inr rfl

namespace Grounded

variable {rules : List Rule} {payload : Fields} {m : Rule}

theorem get_gate (h : Grounded rules) (mem : m ∈ rules) {c : Condition} (own : c ∈ m.condition) :
    (keepActive rules payload).get c.field = payload.get c.field := by
  obtain ⟨g, found, unconditional⟩ := h m mem c own
  have active : g.isActive payload = true := by rw [Rule.isActive, unconditional]; rfl
  rw [Fields.get, get?_keepActive, found, Option.any_some, if_pos active]
  rfl

theorem isActive (h : Grounded rules) (mem : m ∈ rules) :
    m.isActive (keepActive rules payload) = m.isActive payload := by
  unfold Rule.isActive
  cases own : m.condition with
  | none => rfl
  | some c =>
    rw [Option.all_some, Option.all_some, Condition.holds, Condition.holds, h.get_gate mem own]

theorem signals (h : Grounded rules) (mem : m ∈ rules) :
    m.signals (keepActive rules payload) = m.signals payload := by
  unfold Rule.signals
  cases own : m.condition with
  | none => rfl
  | some c =>
    rw [Option.any_some, Option.any_some, Condition.signals, Condition.signals,
      h.get_gate mem own]

theorem filter_isActive (h : Grounded rules) :
    (rules.filter (·.isActive (keepActive rules payload))) =
      rules.filter (·.isActive payload) := List.filter_congr fun _ mem => h.isActive mem

theorem signalsTesting (h : Grounded rules) (calm : signalsTesting rules payload = false) :
    signalsTesting rules (keepActive rules payload) = false :=
  List.any_eq_false.mpr fun m mem => by
    rw [h.signals mem]
    exact List.any_eq_false.mp calm m mem

theorem keepActive_keepActive (h : Grounded rules) :
    keepActive rules (keepActive rules payload) = keepActive rules payload := by
  refine List.filter_eq_self.mpr fun member mem => ?_
  obtain ⟨-, active⟩ := List.mem_filter.mp mem
  obtain ⟨m, found, active⟩ := (Option.any_eq_true _ _).mp active
  rw [← h.isActive (List.mem_of_find?_eq_some found)] at active
  exact (Option.any_eq_true _ _).mpr ⟨m, found, active⟩

theorem canPrepare (h : Grounded rules) :
    canPrepare rules (keepActive rules payload) = canPrepare rules payload := by
  rw [FloodScheme.canPrepare, h.filter_isActive]
  rfl

section
variable [Library]

theorem passes (h : Grounded rules) (apart : (rules.map Rule.name).Nodup) (mem : m ∈ rules)
    (passes : m.Passes payload) : m.Passes (keepActive rules payload) := by
  have own := get?_keepActive_of_mem payload apart mem
  unfold Rule.Passes at passes ⊢
  rw [h.isActive mem]
  split
  · next active =>
    rw [if_pos active] at passes own
    rw [Rule.failure?, own]
    exact passes
  · next inactive =>
    rw [if_neg inactive] at own
    rw [Fields.get, own]
    exact fun _ => rfl

theorem levelFailures (h : Grounded rules) (apart : (rules.map Rule.name).Nodup)
    (clean : levelFailures rules payload = []) :
    levelFailures rules (keepActive rules payload) = [] := by
  obtain ⟨passes, declared, main⟩ := levelFailures_eq_nil.mp clean
  refine levelFailures_eq_nil.mpr ⟨fun m mem => h.passes apart mem (passes m mem),
    fun name sent => ?_, ?_⟩
  · obtain ⟨member, kept, rfl⟩ := List.mem_map.mp sent
    exact declared _ (List.mem_map.mpr ⟨member, (List.mem_filter.mp kept).1, rfl⟩)
  · unfold mainTypeFailures at main ⊢
    rcases mainTypeSelection?_keepActive rules payload with same | gone
    · rw [same]
      exact main
    · rw [gone]

theorem modelRefusal? (h : Grounded rules) :
    modelRefusal? rules (keepActive rules payload) = modelRefusal? rules payload := by
  rw [FloodScheme.modelRefusal?, h.filter_isActive]
  rfl

theorem clashesChecking (h : Grounded rules) (apart : (rules.map Rule.name).Nodup)
    (calm : clashesChecking rules payload = false) :
    clashesChecking rules (keepActive rules payload) = false := by
  unfold FloodScheme.clashesChecking at calm ⊢
  rw [Bool.or_eq_false_iff] at calm ⊢
  refine ⟨?_, ?_⟩
  · rw [h.filter_isActive]
    refine List.any_eq_false.mpr fun m listed => ?_
    obtain ⟨mem, active⟩ := List.mem_filter.mp listed
    rw [get?_keepActive_of_mem payload apart mem, if_pos active]
    exact List.any_eq_false.mp calm.1 m listed
  · rcases mainTypeSelection?_keepActive rules payload with same | gone
    · rw [same]
      exact calm.2
    · rw [gone]
      rfl

end
end Grounded

namespace Registry

variable {r : Registry} {levels : Value} {rules : List Rule} {payload : Fields}

/-- Every level declares the fields that its conditions look at, without a condition. -/
def Gated (r : Registry) : Prop :=
  ∀ l ∈ r.levels, ∀ d ∈ l.rules, ∀ c ∈ d.condition,
    ∃ g ∈ l.rules, g.name = c.field ∧ g.condition = none

theorem Gated.grounded (h : r.Gated) (merged : r.merge levels = .ok rules) : Grounded rules := by
  obtain ⟨ls, selected, -, rfl⟩ := merge_eq_ok merged
  intro m mem c own
  have joined : Rule.joined? ((ls.flatMap Level.rules).filter (·.name == m.name)) = some m := by
    rw [← find?_mergeRules, find?_of_mem (nodup_mergeRules _) mem]
  obtain ⟨d, declared, condition⟩ : ∃ d ∈ (ls.flatMap Level.rules).filter (·.name == m.name),
      m.condition = d.condition := (Rule.condition_of_joined joined).resolve_left fun none => by
    rw [none] at own
    cases own
  obtain ⟨l, inside, declared⟩ := List.mem_flatMap.mp (List.mem_filter.mp declared).1
  obtain ⟨g, gate, named, unconditional⟩ :=
    h l (mem_of_select selected l inside) d declared c (condition ▸ own)
  have given : g ∈ (ls.flatMap Level.rules).filter (·.name == c.field) :=
    List.mem_filter.mpr ⟨List.mem_flatMap.mpr ⟨l, inside, gate⟩, by simpa using named⟩
  rw [find?_mergeRules]
  cases found : Rule.joined? ((ls.flatMap Level.rules).filter (·.name == c.field)) with
  | none =>
    generalize (ls.flatMap Level.rules).filter (·.name == c.field) = ds at found given
    cases ds with
    | nil => cases given
    | cons first rest => cases found
  | some merged => exact ⟨merged, rfl, Rule.condition_of_unconditional found given unconditional⟩

theorem Gated.strip_settles [Library] (h : r.Gated) (accepted : r.validate levels payload = .ok []) :
    ∃ kept, r.strip levels payload = .ok kept ∧ kept.Sublist payload ∧
      (∀ name, kept.get? name = payload.get? name ∨ kept.get? name = none) ∧
      r.validate levels kept = .ok [] ∧ r.strip levels kept = .ok kept := by
  obtain ⟨rules, merged, calm, keys, built, checking, clean⟩ := validate_eq_ok.mp accepted
  have grounded := h.grounded merged
  obtain ⟨ls, -, -, rfl⟩ := merge_eq_ok merged
  have apart := nodup_mergeRules (ls.flatMap Level.rules)
  have calm' := grounded.signalsTesting calm
  refine ⟨_, strip_eq_ok.mpr ⟨_, merged, signalsStripping_of_testing calm, rfl⟩,
    List.filter_sublist, fun name => ?_, ?_, ?_⟩
  · rw [get?_keepActive]
    split
    · exact .inl rfl
    · exact .inr rfl
  · exact validate_eq_ok.mpr ⟨_, merged, calm', grounded.canPrepare.trans keys,
      grounded.modelRefusal?.trans built, grounded.clashesChecking apart checking,
      grounded.levelFailures apart clean⟩
  · exact strip_eq_ok.mpr ⟨_, merged, signalsStripping_of_testing calm',
      grounded.keepActive_keepActive⟩

end Registry

namespace Catalogue

theorem gates : ∀ l ∈ levels, ∀ r ∈ l.rules, ∀ c ∈ r.condition, ∃ g ∈ l.rules,
    g.name = c.field ∧ g.required = true ∧ g.condition.isNone = true ∧
      (g.kind = .text ∨ g.kind = .boolean) := by decide

theorem gated : registry.Gated := by
  intro l level d mem c own
  obtain ⟨g, gate, named, -, none, -⟩ := gates l level d mem c own
  exact ⟨g, gate, named, Option.isNone_iff_eq_none.mp none⟩

end Catalogue
end FloodScheme
