import FloodScheme.Level.Validation
import FloodScheme.Proofs.Fields
import Mathlib.Data.List.Nodup

/-! The failures of merged rules, in all and for one field. -/
namespace FloodScheme
open Outcome

namespace Registry

variable {r : Registry} {levels : Value} {payload kept : Fields} {fs : List Failure}

theorem validate_eq_ok [Library] : r.validate levels payload = .ok fs ↔
    ∃ rules, r.merge levels = .ok rules ∧ signalsTesting rules payload = false ∧
      canPrepare rules payload = true ∧ modelRefusal? rules payload = none ∧
      clashesChecking rules payload = false ∧ levelFailures rules payload = fs := by
  unfold validate
  rw [bind_eq_ok]
  refine exists_congr fun rules => and_congr_right fun _ => ?_
  cases signalsTesting rules payload with
  | true => simp
  | false =>
    cases canPrepare rules payload with
    | false => simp
    | true =>
      cases modelRefusal? rules payload with
      | some f => simp
      | none =>
        cases clashesChecking rules payload with
        | true => simp
        | false => simp [pure_eq_ok]

theorem strip_eq_ok : r.strip levels payload = .ok kept ↔ ∃ rules, r.merge levels = .ok rules ∧
    signalsStripping rules payload = false ∧ keepActive rules payload = kept := by
  unfold strip
  rw [bind_eq_ok]
  refine exists_congr fun rules => and_congr_right fun _ => ?_
  cases signalsStripping rules payload with
  | true => simp
  | false => simp [pure_eq_ok]

theorem find?_of_mem {rules : List Rule} {r : Rule} (apart : (rules.map Rule.name).Nodup)
    (mem : r ∈ rules) : rules.find? (·.name == r.name) = some r := by
  have some : (rules.find? (·.name == r.name)).isSome = true :=
    List.find?_isSome.mpr ⟨r, mem, by simp⟩
  obtain ⟨r', found⟩ := Option.isSome_iff_exists.mp some
  have named : r'.name = r.name := by simpa using List.find?_some found
  rw [found, List.inj_on_of_nodup_map apart (List.mem_of_find?_eq_some found) mem named]

end Registry

theorem signalsStripping_of_testing {rules : List Rule} {payload : Fields}
    (calm : signalsTesting rules payload = false) : signalsStripping rules payload = false := by
  refine List.any_eq_false.mpr fun name _ signals => ?_
  obtain ⟨m, found, signals⟩ := (Option.any_eq_true _ _).mp signals
  exact List.any_eq_false.mp calm m (List.mem_of_find?_eq_some found) signals

theorem Registry.strip_of_validate [Library] {r : Registry} {levels : Value} {payload : Fields}
    {fs : List Failure} (validated : r.validate levels payload = .ok fs) :
    ∃ kept, r.strip levels payload = .ok kept := by
  obtain ⟨rules, merged, calm, -⟩ := validate_eq_ok.mp validated
  exact ⟨_, strip_eq_ok.mpr ⟨rules, merged, signalsStripping_of_testing calm, rfl⟩⟩

theorem get?_keepActive (rules : List Rule) (payload : Fields) (name : String) :
    (keepActive rules payload).get? name =
      if (rules.find? (·.name == name)).any (·.isActive payload) then payload.get? name
      else none := by
  have kept := Fields.get?_filter
    (fun n => (rules.find? fun r : Rule => r.name == n).any fun r => r.isActive payload)
    payload name
  exact kept

theorem get?_keepActive_of_mem {rules : List Rule} {r : Rule} (payload : Fields)
    (apart : (rules.map Rule.name).Nodup) (mem : r ∈ rules) :
    (keepActive rules payload).get? r.name =
      if r.isActive payload then payload.get? r.name else none := by
  rw [get?_keepActive, Registry.find?_of_mem apart mem]
  rfl

/-- The rule reports no failure: it is active and does not fail, or it is inactive and its field is
blank where the rule forbids it. -/
def Rule.Passes [Library] (r : Rule) (payload : Fields) : Prop :=
  if r.isActive payload then r.failure? payload = none
  else r.forbiddenOtherwise = true → (payload.get r.name).isBlank = true

variable {rules : List Rule} {payload : Fields} {r : Rule} {f : Failure}

theorem field_of_failure? [Library] (h : r.failure? payload = some f) : f.field = some r.name := by
  unfold Rule.failure? at h
  dsimp only at h
  split at h
  · cases h
  · split at h
    · split at h
      · cases h
        rfl
      · cases h
    · split at h
      · cases h
      · obtain ⟨p, -, rfl⟩ := Option.map_eq_some_iff.mp h
        split
        · rfl
        · rfl

theorem mem_forbiddenFailures : f ∈ forbiddenFailures rules payload ↔
    ∃ r ∈ rules, (r.isActive payload = false ∧ r.forbiddenOtherwise = true ∧
      (payload.get r.name).isBlank = false) ∧
      Failure.invalid (r.code ++ "_NOT_ALLOWED")
        (r.name ++ " should not be provided for this selection") r.name = f := by
  simp [forbiddenFailures, List.mem_filterMap, and_assoc]

theorem mem_undeclaredFailures : f ∈ undeclaredFailures rules payload ↔
    ∃ name ∈ payload.names, declares rules name = false ∧
      Failure.invalid (codeOfName name ++ "_NOT_ALLOWED")
        (name ++ " is not allowed at this level") name = f := by
  simp [undeclaredFailures, List.mem_filterMap]

theorem mem_activeFailures [Library] : f ∈ activeFailures rules payload ↔
    ∃ r ∈ rules, r.isActive payload = true ∧ r.failure? payload = some f := by
  simp [activeFailures, List.mem_filterMap, and_assoc]

theorem field_of_mainTypeFailures (h : f ∈ mainTypeFailures rules payload) :
    f.field = some "mainInterventionType" := by
  unfold mainTypeFailures at h
  split at h
  · split at h
    · cases h
    · cases List.mem_singleton.mp h
      rfl
  · cases h

theorem declares_iff {name : String} :
    declares rules name = true ↔ ∃ r ∈ rules, r.name = name := by
  simp [declares]

theorem mainTypeFailures_congr {rules' : List Rule}
    (same : declares rules "mainInterventionType" = declares rules' "mainInterventionType") :
    mainTypeFailures rules payload = mainTypeFailures rules' payload := by
  unfold mainTypeFailures mainTypeSelection?
  rw [same]

section
variable [Library]

theorem passes_of_unreported (mem : r ∈ rules)
    (clean : ∀ f ∈ forbiddenFailures rules payload ++ undeclaredFailures rules payload ++
      activeFailures rules payload, f.field ≠ some r.name) : r.Passes payload := by
  unfold Rule.Passes
  split
  · next active =>
    cases failed : r.failure? payload with
    | none => rfl
    | some f =>
      have reported := mem_activeFailures.mpr ⟨r, mem, active, failed⟩
      exact absurd (field_of_failure? failed) (clean f (List.mem_append_right _ reported))
  · next inactive =>
    intro forbidden
    by_contra given
    have reported := mem_forbiddenFailures.mpr
      ⟨r, mem, ⟨by simpa using inactive, forbidden, by simpa using given⟩, rfl⟩
    exact clean _ (List.mem_append_left _ (List.mem_append_left _ reported)) rfl

theorem Rule.Passes.not_forbidden (passes : r.Passes payload) :
    ¬ (r.isActive payload = false ∧ r.forbiddenOtherwise = true ∧
      (payload.get r.name).isBlank = false) := by
  rintro ⟨inactive, closed, given⟩
  rw [Rule.Passes, if_neg (by simp [inactive])] at passes
  rw [passes closed] at given
  cases given

theorem Rule.Passes.not_failed (passes : r.Passes payload) (active : r.isActive payload = true) :
    r.failure? payload ≠ some f := by
  rw [Rule.Passes, if_pos active] at passes
  rw [passes]
  exact nofun

theorem unreported_iff (apart : (rules.map Rule.name).Nodup) (mem : r ∈ rules) :
    (∀ f ∈ levelFailures rules payload, f.field ≠ some r.name) ↔ r.Passes payload ∧
      (r.name = "mainInterventionType" → mainTypeFailures rules payload = []) := by
  unfold levelFailures
  dsimp only
  constructor
  · intro clean
    refine ⟨passes_of_unreported mem fun f reported => clean f (List.mem_append_left _ reported),
      fun main => ?_⟩
    refine List.eq_nil_iff_forall_not_mem.mpr fun f failed => ?_
    have field := field_of_mainTypeFailures failed
    refine clean f (List.mem_append_right _ (List.mem_filter.mpr ⟨failed, ?_⟩)) (main ▸ field)
    rw [Bool.not_eq_true', List.any_eq_false]
    intro g reported same
    rw [beq_iff_eq, field, ← main] at same
    exact clean g (List.mem_append_left _ reported) same
  · rintro ⟨passes, main⟩ f failed field
    rcases List.mem_append.mp failed with reported | selection
    · rcases List.mem_append.mp reported with reported | active
      · rcases List.mem_append.mp reported with forbidden | undeclared
        · obtain ⟨r', mem', closed, rfl⟩ := mem_forbiddenFailures.mp forbidden
          obtain rfl := List.inj_on_of_nodup_map apart mem' mem (Option.some.inj field)
          exact passes.not_forbidden closed
        · obtain ⟨name, -, missing, rfl⟩ := mem_undeclaredFailures.mp undeclared
          cases Option.some.inj field
          rw [declares_iff.mpr ⟨r, mem, rfl⟩] at missing
          cases missing
      · obtain ⟨r', mem', on, failed⟩ := mem_activeFailures.mp active
        have same := (field_of_failure? failed).symm.trans field
        obtain rfl := List.inj_on_of_nodup_map apart mem' mem (Option.some.inj same)
        exact passes.not_failed on failed
    · obtain ⟨selected, -⟩ := List.mem_filter.mp selection
      have same := (field_of_mainTypeFailures selected).symm.trans field
      rw [main (Option.some.inj same).symm] at selected
      cases selected

theorem levelFailures_eq_nil : levelFailures rules payload = [] ↔
    (∀ r ∈ rules, r.Passes payload) ∧ (∀ name ∈ payload.names, declares rules name = true) ∧
      mainTypeFailures rules payload = [] := by
  unfold levelFailures
  dsimp only
  constructor
  · intro clean
    obtain ⟨reported, main⟩ := List.append_eq_nil_iff.mp clean
    rw [reported] at main
    refine ⟨fun r mem => passes_of_unreported mem (by simp [reported]), fun name sent => ?_, ?_⟩
    · by_contra missing
      have undeclared := mem_undeclaredFailures.mpr ⟨name, sent, by simpa using missing, rfl⟩
      have found := List.mem_append_left (activeFailures rules payload)
        (List.mem_append_right (forbiddenFailures rules payload) undeclared)
      rw [reported] at found
      cases found
    · simpa using main
  · rintro ⟨passes, declared, main⟩
    refine List.eq_nil_iff_forall_not_mem.mpr fun f failed => ?_
    rcases List.mem_append.mp failed with reported | selection
    · rcases List.mem_append.mp reported with reported | active
      · rcases List.mem_append.mp reported with forbidden | undeclared
        · obtain ⟨r, mem, closed, -⟩ := mem_forbiddenFailures.mp forbidden
          exact (passes r mem).not_forbidden closed
        · obtain ⟨name, sent, missing, -⟩ := mem_undeclaredFailures.mp undeclared
          rw [declared name sent] at missing
          cases missing
      · obtain ⟨r, mem, on, failed⟩ := mem_activeFailures.mp active
        exact (passes r mem).not_failed on failed
    · rw [main] at selection
      cases selection

end
end FloodScheme
