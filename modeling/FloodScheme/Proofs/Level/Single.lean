import FloodScheme.Level.Catalogue
import FloodScheme.Proofs.Level.Failures

/-! A single level of the catalogue. Its rules are merged into themselves, and they tell a scheme
that is to be created from one that exists: all levels but the first ask for a reference number,
which the first one does not take. -/
namespace FloodScheme
open Outcome

namespace Registry

theorem addRule_eq {gathered : List Rule} {r : Rule} (new : r.name ∉ gathered.map Rule.name) :
    addRule gathered r = gathered ++ [r] := by
  induction gathered with
  | nil => rfl
  | cons m rest ih =>
    simp only [List.map_cons, List.mem_cons, not_or] at new
    rw [addRule, if_neg fun equal => new.1 equal.symm, ih new.2]
    rfl

theorem gather_eq {gathered rules : List Rule}
    (names : ((gathered ++ rules).map Rule.name).Nodup) :
    rules.foldl addRule gathered = gathered ++ rules ∧ clashes gathered rules = false := by
  induction rules generalizing gathered with
  | nil => exact ⟨(List.append_nil _).symm, rfl⟩
  | cons r rest ih =>
    have new : r.name ∉ gathered.map Rule.name := by
      rw [List.map_append, List.map_cons] at names
      intro mem
      exact (List.nodup_append.mp names).2.2 _ mem _ (by simp) rfl
    have step := addRule_eq new
    have rest_names : (((gathered ++ [r]) ++ rest).map Rule.name).Nodup := by
      simpa using names
    obtain ⟨merged, calm⟩ := ih rest_names
    have apart : (gathered.any fun m => m.name == r.name && m.clashes r) = false := by
      refine List.any_eq_false.mpr fun m hm both => new ?_
      simp only [Bool.and_eq_true, beq_iff_eq] at both
      exact both.1 ▸ List.mem_map_of_mem hm
    constructor
    · rw [List.foldl_cons, step, merged, List.append_assoc]
      rfl
    · rw [clashes, step, apart, calm]
      rfl

theorem merge_of_calm {r : Registry} {levels : Value} {ls : List Level}
    (selected : r.select levels = .ok ls) (calm : clashes [] (ls.flatMap Level.rules) = false) :
    r.merge levels = .ok (mergeRules (ls.flatMap Level.rules)) := by
  unfold merge
  rw [selected]
  change (if clashes [] (ls.flatMap Level.rules) then _ else _) = _
  rw [calm]
  rfl

theorem merge_text {r : Registry} {name : String} {l : Level} (found : r.find? name = some l)
    (names : (l.rules.map Rule.name).Nodup) : r.merge (.text name) = .ok l.rules := by
  have got : [Value.text name].mapM r.get = .ok [l] := by
    rw [List.mapM_cons, get, found]
    rfl
  have selected : r.select (.text name) = .ok [l] := by
    change ([Value.text name].mapM r.get >>= fun _ => _) = _
    rw [got]
    rfl
  obtain ⟨merged, calm⟩ : _ ∧ clashes [] l.rules = false := gather_eq names
  have flat : [l].flatMap Level.rules = l.rules := by simp
  rw [merge_of_calm selected (by rw [flat, calm]), flat, mergeRules, merged]
  rfl

theorem merge_text_none {r : Registry} {name : String} (missing : r.find? name = none) :
    r.merge (.text name) = .error (.unknownLevel (.text name)) := by
  have got : [Value.text name].mapM r.get = .error (.unknownLevel (.text name)) := by
    rw [List.mapM_cons, get, missing]
    rfl
  change (([Value.text name].mapM r.get >>= fun _ => _) >>= fun _ => _) = _
  rw [got]
  rfl

end Registry

namespace Catalogue
open Registry

theorem rules_nodup : ∀ l ∈ levels, (l.rules.map Rule.name).Nodup := by decide

theorem rules_fields : ∀ l ∈ levels, ∀ r ∈ l.rules, Library.hasField r.name = true := by decide

theorem initialSave_declares : declares initialSave.rules "referenceNumber" = false := by decide

theorem levels_tail_head : (levels.tail.map fun l => l.rules.head?) =
    List.replicate levels.tail.length (some referenceNumber) := rfl

theorem levels_tail_names : ∀ l ∈ levels.tail, l.name ≠ initialSave.name := by decide

theorem eq_initialSave {l : Level} (mem : l ∈ levels) (named : l.name = "INITIAL_SAVE") :
    l = initialSave := by
  rcases List.mem_cons.mp mem with same | later
  · exact same
  · exact absurd named (levels_tail_names l later)

theorem find?_cases {name : String} {l : Level} (found : registry.find? name = some l) :
    l = initialSave ∧ name = "INITIAL_SAVE" ∨
      name ≠ "INITIAL_SAVE" ∧ ∃ rest, l.rules = referenceNumber :: rest := by
  have first : levels.find? (fun l => l.name == name) = some l := found
  have named : l.name = name := by simpa using List.find?_some first
  have mem : l ∈ initialSave :: levels.tail := List.mem_of_find?_eq_some first
  rcases List.mem_cons.mp mem with rfl | mem
  · exact .inl ⟨rfl, named.symm⟩
  · refine .inr ⟨named ▸ levels_tail_names l mem, ?_⟩
    have head : l.rules.head? ∈ levels.tail.map fun l => l.rules.head? :=
      List.mem_map_of_mem mem
    rw [levels_tail_head] at head
    exact List.head?_eq_some_iff.mp (List.eq_of_mem_replicate head)

theorem merge_of_find? {name : String} {l : Level} (found : registry.find? name = some l) :
    registry.merge (.text name) = .ok l.rules :=
  merge_text found (rules_nodup l (List.mem_of_find?_eq_some found))

theorem validate_eq_ok {name : String} {payload : Fields}
    (h : registry.validate (.text name) payload = .ok []) :
    ∃ l, registry.find? name = some l ∧ levelFailures l.rules payload = [] := by
  obtain ⟨rules, merged, -, -, -, -, clean⟩ := Registry.validate_eq_ok.mp h
  cases found : registry.find? name with
  | none =>
    rw [merge_text_none found] at merged
    cases merged
  | some l =>
    rw [merge_of_find? found] at merged
    cases merged
    exact ⟨l, rfl, clean⟩

theorem strip_eq_ok {name : String} {payload stripped : Fields} {l : Level}
    (found : registry.find? name = some l)
    (h : registry.strip (.text name) payload = .ok stripped) :
    stripped = keepActive l.rules payload := by
  obtain ⟨rules, merged, -, kept⟩ := Registry.strip_eq_ok.mp h
  rw [merge_of_find? found] at merged
  cases merged
  exact kept.symm

theorem get?_of_undeclared [Library] {rules : List Rule} {payload : Fields} {name : String}
    (accepted : levelFailures rules payload = []) (undeclared : declares rules name = false) :
    payload.get? name = none := by
  refine Fields.get?_eq_none fun sent => ?_
  rw [(levelFailures_eq_nil.mp accepted).2.1 name sent] at undeclared
  cases undeclared

theorem referenceNumber_check (v : Value) :
    referenceNumber.check v = problemOf (checkText referenceNumber) (Reading.text v) := rfl

theorem checked_of_required [Library] {r : Rule} {payload : Fields}
    (field : Library.hasField r.name = true) (required : r.required = true)
    (clean : r.failure? payload = none) :
    ∃ v, payload.get? r.name = some v ∧ r.check v = none := by
  unfold Rule.failure? at clean
  cases found : payload.get? r.name with
  | none => simp [found, required, field] at clean
  | some v =>
    simp only [found, required, field, Bool.not_true, Bool.false_and, Bool.false_eq_true, if_false]
      at clean
    exact ⟨v, rfl, Option.map_eq_none_iff.mp clean⟩

theorem reference_of_accepted {rest : List Rule} {payload : Fields}
    (accepted : levelFailures (referenceNumber :: rest) payload = []) :
    ∃ s, s ≠ "" ∧ payload.get? "referenceNumber" = some (.text s) := by
  have clean : referenceNumber.failure? payload = none :=
    (levelFailures_eq_nil.mp accepted).1 referenceNumber List.mem_cons_self
  obtain ⟨v, found, checked⟩ := checked_of_required (by decide) rfl clean
  rw [referenceNumber_check] at checked
  cases v with
  | text s =>
    refine ⟨s, ?_, found⟩
    rintro rfl
    cases checked
  | null => cases checked
  | bool b => cases checked
  | int i => cases checked
  | float x => cases checked
  | decimal d => cases checked
  | list items => cases checked
  | object members => cases checked

end Catalogue
end FloodScheme
