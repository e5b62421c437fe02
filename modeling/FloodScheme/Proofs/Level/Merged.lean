import FloodScheme.Proofs.Level.Single
import FloodScheme.Proofs.Rule.Merge
import Mathlib.Data.List.Dedup

/-! Several levels as one. A level that is named twice counts once; the merged rule for a field
depends on the declarations of that field only, and occurs once. -/
namespace FloodScheme
open Outcome

namespace Registry

theorem find?_addRule (gathered : List Rule) (r : Rule) (field : String) :
    (addRule gathered r).find? (·.name == field) =
      if r.name = field then
        some ((gathered.find? (·.name == field)).elim r fun m => m.merge r)
      else gathered.find? (·.name == field) := by
  induction gathered with
  | nil =>
    rw [addRule, List.find?_cons]
    by_cases own : r.name = field
    · simp [own]
    · simp [own, beq_false_of_ne own]
  | cons m rest ih =>
    rw [addRule]
    by_cases same : m.name = r.name
    · rw [if_pos same, List.find?_cons, (Rule.merge_identity m r).1, List.find?_cons, same]
      by_cases own : r.name = field
      · simp [own]
      · simp [own, beq_false_of_ne own]
    · rw [if_neg same, List.find?_cons, List.find?_cons, ih]
      by_cases own : m.name = field
      · have other : r.name ≠ field := fun h => same (own.trans h.symm)
        simp [own, other]
      · simp [beq_false_of_ne own]

theorem names_addRule (gathered : List Rule) (r : Rule) :
    (addRule gathered r).map Rule.name = if r.name ∈ gathered.map Rule.name
      then gathered.map Rule.name else gathered.map Rule.name ++ [r.name] := by
  induction gathered with
  | nil => rfl
  | cons m rest ih =>
    rw [addRule]
    by_cases same : m.name = r.name
    · simp [same, (Rule.merge_identity m r).1]
    · have other : r.name ≠ m.name := fun h => same h.symm
      rw [if_neg same, List.map_cons, ih]
      simp only [List.map_cons, List.mem_cons, other, false_or]
      split
      · rfl
      · rfl

theorem nodup_addRule {gathered : List Rule} (r : Rule) (apart : (gathered.map Rule.name).Nodup) :
    ((addRule gathered r).map Rule.name).Nodup := by
  rw [names_addRule]
  split
  · exact apart
  · next new => simpa using apart.concat new

theorem nodup_gather {gathered : List Rule} (rules : List Rule)
    (apart : (gathered.map Rule.name).Nodup) :
    ((rules.foldl addRule gathered).map Rule.name).Nodup := by
  induction rules generalizing gathered with
  | nil => exact apart
  | cons r rest ih => exact ih (nodup_addRule r apart)

theorem nodup_mergeRules (rules : List Rule) : ((mergeRules rules).map Rule.name).Nodup :=
  nodup_gather rules List.nodup_nil

theorem find?_gather (gathered rules : List Rule) (field : String) :
    (rules.foldl addRule gathered).find? (·.name == field) =
      match gathered.find? (·.name == field) with
      | some m => some ((rules.filter (·.name == field)).foldl Rule.merge m)
      | none => Rule.joined? (rules.filter (·.name == field)) := by
  induction rules generalizing gathered with
  | nil =>
    rw [List.foldl_nil]
    cases gathered.find? (·.name == field) with
    | none => rfl
    | some m => rfl
  | cons r rest ih =>
    rw [List.foldl_cons, ih, find?_addRule]
    by_cases own : r.name = field
    · rw [if_pos own, List.filter_cons_of_pos (by simpa using own)]
      cases gathered.find? (·.name == field) with
      | none => rfl
      | some m => rfl
    · rw [if_neg own, List.filter_cons_of_neg (by simpa using own)]

theorem find?_mergeRules (rules : List Rule) (field : String) :
    (mergeRules rules).find? (·.name == field) =
      Rule.joined? (rules.filter (·.name == field)) := find?_gather [] rules field

theorem clashes_eq_false_iff {gathered rules : List Rule}
    (apart : (gathered.map Rule.name).Nodup) : clashes gathered rules = false ↔
      ∀ field, Rule.calmAfter (gathered.find? (·.name == field))
        (rules.filter (·.name == field)) = true := by
  induction rules generalizing gathered with
  | nil =>
    refine iff_of_true rfl fun field => ?_
    cases gathered.find? (·.name == field) with
    | none => rfl
    | some m => rfl
  | cons r rest ih =>
    rw [clashes, Bool.or_eq_false_iff, ih (nodup_addRule r apart)]
    simp only [find?_addRule]
    constructor
    · rintro ⟨first, later⟩ field
      have later := later field
      by_cases own : r.name = field
      · rw [List.filter_cons_of_pos (by simpa using own), Rule.calmAfter_cons, Bool.and_eq_true]
        rw [if_pos own] at later
        refine ⟨?_, later⟩
        cases found : gathered.find? (·.name == field) with
        | none => rfl
        | some m =>
          have named : m.name = field := by simpa using List.find?_some found
          have clash := List.any_eq_false.mp first m (List.mem_of_find?_eq_some found)
          simpa [named, own] using clash
      · rw [if_neg own] at later
        rw [List.filter_cons_of_neg (by simpa using own)]
        exact later
    · intro all
      refine ⟨List.any_eq_false.mpr fun m mem => ?_, fun field => ?_⟩
      · have own := all r.name
        rw [List.filter_cons_of_pos (by simp), Rule.calmAfter_cons, Bool.and_eq_true] at own
        intro clash
        rw [Bool.and_eq_true, beq_iff_eq] at clash
        rw [← clash.1, find?_of_mem apart mem] at own
        simp [clash.2] at own
      · have each := all field
        by_cases own : r.name = field
        · rw [List.filter_cons_of_pos (by simpa using own), Rule.calmAfter_cons,
            Bool.and_eq_true] at each
          rw [if_pos own]
          exact each.2
        · rw [List.filter_cons_of_neg (by simpa using own)] at each
          rw [if_neg own]
          exact each

/-- The levels that some names mention, each of them once. -/
def mentioned (r : Registry) (names : List String) : List Level := names.dedup.filterMap r.find?

/-- The rules that the mentioned levels have for a field. -/
def declarations (r : Registry) (names : List String) (field : String) : List Rule :=
  ((r.mentioned names).flatMap Level.rules).filter (·.name == field)

variable {r : Registry} {names : List String}

theorem find?_eq_some {name : String} {l : Level} (found : r.find? name = some l) :
    l ∈ r.levels ∧ l.name = name := by
  unfold find? at found
  exact ⟨List.mem_of_find?_eq_some found, by simpa using List.find?_some found⟩

theorem mem_mentioned {l : Level} :
    l ∈ r.mentioned names ↔ ∃ n ∈ names, r.find? n = some l := by
  simp [mentioned, List.mem_filterMap]

theorem mapM_get (known : ∀ n ∈ names, (r.find? n).isSome = true) :
    (names.map Value.text).mapM r.get = .ok (names.filterMap r.find?) := by
  induction names with
  | nil => rfl
  | cons n rest ih =>
    obtain ⟨first, rest_known⟩ := List.forall_mem_cons.mp known
    obtain ⟨l, found⟩ := Option.isSome_iff_exists.mp first
    rw [List.map_cons, List.mapM_cons, ih rest_known, get, found, List.filterMap_cons, found]
    rfl

theorem mapM_get_eq_ok {found : List Level} (h : (names.map Value.text).mapM r.get = .ok found) :
    found = names.filterMap r.find? := by
  induction names generalizing found with
  | nil =>
    cases h
    rfl
  | cons n rest ih =>
    rw [List.map_cons, List.mapM_cons] at h
    obtain ⟨l, first, h⟩ := bind_eq_ok.mp h
    obtain ⟨ls, others, h⟩ := bind_eq_ok.mp h
    obtain rfl := pure_eq_ok.mp h
    rw [get] at first
    cases known : r.find? n with
    | none =>
      rw [known] at first
      cases first
    | some l' =>
      rw [known] at first
      cases first
      rw [List.filterMap_cons, known, ih others]

theorem select_names (given : names ≠ []) (known : ∀ n ∈ names, (r.find? n).isSome = true) :
    r.select (.list (names.map .text)) = .ok ((names.filterMap r.find?).foldl addLevel []) := by
  have some : (names.filterMap r.find?).isEmpty = false := by
    cases names with
    | nil => exact absurd rfl given
    | cons n rest =>
      obtain ⟨l, found⟩ := Option.isSome_iff_exists.mp (known n List.mem_cons_self)
      rw [List.filterMap_cons, found]
      rfl
  change ((names.map Value.text).mapM r.get >>= fun _ => _) = _
  rw [mapM_get known]
  change (if (names.filterMap r.find?).isEmpty then _ else _) = _
  rw [some]
  rfl

theorem select_eq_ok {ls : List Level} (h : r.select (.list (names.map .text)) = .ok ls) :
    ls = (names.filterMap r.find?).foldl addLevel [] := by
  change ((names.map Value.text).mapM r.get >>= fun _ => _) = _ at h
  obtain ⟨found, got, h⟩ := bind_eq_ok.mp h
  rw [mapM_get_eq_ok got] at h
  split at h
  · cases h
  · exact (pure_eq_ok.mp h).symm

theorem foldl_addLevel (levels added : List Level)
    (apart : (added.map Level.name).Nodup) :
    ((levels.foldl addLevel added).map Level.name).Nodup ∧
      (∀ l ∈ levels.foldl addLevel added, l ∈ added ∨ l ∈ levels) ∧
      ∀ l, l ∈ added ∨ l ∈ levels → ∃ l' ∈ levels.foldl addLevel added, l'.name = l.name := by
  induction levels generalizing added with
  | nil => exact ⟨apart, fun l mem => .inl mem, fun l mem => ⟨l, by simpa using mem, rfl⟩⟩
  | cons l rest ih =>
    rw [List.foldl_cons, addLevel]
    split
    · next known =>
      obtain ⟨nodup, source, covers⟩ := ih added apart
      refine ⟨nodup, fun x mem => (source x mem).imp_right (List.mem_cons_of_mem _), ?_⟩
      rintro x (old | mem)
      · exact covers x (.inl old)
      · rcases List.mem_cons.mp mem with rfl | later
        · obtain ⟨y, hy, same⟩ := List.any_eq_true.mp known
          obtain ⟨z, hz, named⟩ := covers y (.inl hy)
          exact ⟨z, hz, named.trans (by simpa using same)⟩
        · exact covers x (.inr later)
    · next new =>
      have fresh : l.name ∉ added.map Level.name := by
        intro mem
        obtain ⟨y, hy, same⟩ := List.mem_map.mp mem
        exact new (List.any_eq_true.mpr ⟨y, hy, by simpa using same⟩)
      have more : ((added ++ [l]).map Level.name).Nodup := by simpa using apart.concat fresh
      obtain ⟨nodup, source, covers⟩ := ih _ more
      refine ⟨nodup, fun x mem => ?_, fun x mem => covers x ?_⟩
      · have source := source x mem
        simp only [List.mem_append, List.mem_singleton] at source
        simpa [or_assoc] using source
      · simpa [or_assoc] using mem

theorem mem_of_select {levels : Value} {ls : List Level} (selected : r.select levels = .ok ls) :
    ∀ l ∈ ls, l ∈ r.levels := by
  unfold select at selected
  obtain ⟨items, -, selected⟩ := bind_eq_ok.mp selected
  obtain ⟨found, got, selected⟩ := bind_eq_ok.mp selected
  split at selected
  · cases selected
  · obtain rfl := pure_eq_ok.mp selected
    intro l mem
    have source := (foldl_addLevel found [] List.nodup_nil).2.1 l mem
    obtain ⟨level, -, known⟩ := mem_of_mapM got l (source.resolve_left List.not_mem_nil)
    unfold get at known
    split at known
    · split at known
      · next own =>
        cases known
        exact (find?_eq_some own).1
      · cases known
    · cases known

theorem selected_perm (r : Registry) (names : List String) :
    ((names.filterMap r.find?).foldl addLevel []).Perm (r.mentioned names) := by
  obtain ⟨nodup, source, covers⟩ := foldl_addLevel (names.filterMap r.find?) [] List.nodup_nil
  have own {n : String} {l : Level} (found : r.find? n = some l) : r.find? l.name = some l :=
    (find?_eq_some found).2 ▸ found
  have distinct : (r.mentioned names).Nodup := by
    refine List.Nodup.filterMap (fun n m l first second => ?_) (List.nodup_dedup names)
    exact (find?_eq_some first).2.symm.trans (find?_eq_some second).2
  refine (List.perm_ext_iff_of_nodup (List.Nodup.of_map _ nodup) distinct).mpr fun l => ?_
  rw [mem_mentioned, ← List.mem_filterMap]
  constructor
  · intro mem
    exact (source l mem).resolve_left List.not_mem_nil
  · intro mem
    obtain ⟨l', selected, same⟩ := covers l (.inr mem)
    obtain ⟨n, -, found⟩ := List.mem_filterMap.mp mem
    obtain ⟨n', -, found'⟩ :=
      List.mem_filterMap.mp ((source l' selected).resolve_left List.not_mem_nil)
    have equal : some l' = some l := by rw [← own found, ← own found', same]
    exact Option.some.inj equal ▸ selected

theorem merge_eq_ok {levels : Value} {rules : List Rule} (h : r.merge levels = .ok rules) :
    ∃ ls, r.select levels = .ok ls ∧ clashes [] (ls.flatMap Level.rules) = false ∧
      rules = mergeRules (ls.flatMap Level.rules) := by
  unfold merge at h
  obtain ⟨ls, selected, h⟩ := bind_eq_ok.mp h
  refine ⟨ls, selected, ?_⟩
  dsimp only at h
  split at h
  · cases h
  · next calm => exact ⟨by simpa using calm, (pure_eq_ok.mp h).symm⟩

theorem merge_names_eq_ok {rules : List Rule}
    (h : r.merge (.list (names.map .text)) = .ok rules) (field : String) :
    (rules.map Rule.name).Nodup ∧ ∃ ds, ds.Perm (r.declarations names field) ∧
      rules.find? (·.name == field) = Rule.joined? ds ∧ Rule.calmAfter none ds = true := by
  obtain ⟨ls, selected, calm, rfl⟩ := merge_eq_ok h
  obtain rfl := select_eq_ok selected
  have nothing : (([] : List Rule).map Rule.name).Nodup := List.nodup_nil
  refine ⟨nodup_mergeRules _, _, ?_, find?_mergeRules _ field,
    (clashes_eq_false_iff nothing).mp calm field⟩
  exact ((selected_perm r names).flatMap_right Level.rules).filter _

theorem joined_of_mem {rules : List Rule} {m : Rule}
    (merged : r.merge (.list (names.map .text)) = .ok rules) (mem : m ∈ rules) :
    ∃ ds, ds.Perm (r.declarations names m.name) ∧ Rule.joined? ds = some m := by
  obtain ⟨apart, ds, same, found, -⟩ := merge_names_eq_ok merged m.name
  exact ⟨ds, same, found.symm.trans (find?_of_mem apart mem)⟩

theorem mem_declarations {d : Rule} {field : String} : d ∈ r.declarations names field ↔
    ∃ n ∈ names, ∃ l, r.find? n = some l ∧ d ∈ l.rules ∧ d.name = field := by
  simp only [declarations, List.mem_filter, List.mem_flatMap, mem_mentioned, beq_iff_eq]
  constructor
  · rintro ⟨⟨l, ⟨n, named, found⟩, mem⟩, own⟩
    exact ⟨n, named, l, found, mem, own⟩
  · rintro ⟨n, named, l, found, mem, own⟩
    exact ⟨⟨l, ⟨n, named, found⟩, mem⟩, own⟩

theorem merged_combines {rules : List Rule} {field : String}
    (merged : r.merge (.list (names.map .text)) = .ok rules)
    (declared : r.declarations names field ≠ [])
    (alike : ∀ a ∈ r.declarations names field, ∀ b ∈ r.declarations names field,
      a.kind = b.kind ∧ a.code = b.code)
    (all : ∀ d rest, (d :: rest).Perm (r.declarations names field) →
      rest.all d.agrees = true → Rule.Unanimous (d :: rest)) :
    ∃ m ∈ rules, m.name = field ∧ m.Combines (r.declarations names field) := by
  obtain ⟨-, ds, same, found, calm⟩ := merge_names_eq_ok merged field
  cases joined : Rule.joined? ds with
  | none =>
    cases ds with
    | nil => exact absurd same.symm.eq_nil declared
    | cons d rest => cases joined
  | some m =>
    rw [joined] at found
    refine ⟨m, List.mem_of_find?_eq_some found, by simpa using List.find?_some found, ?_⟩
    refine Rule.Combines.perm same (Rule.combines_of_joined joined (fun a ha b hb => ?_) calm ?_)
    · have first := same.mem_iff.mp ha
      have second := same.mem_iff.mp hb
      obtain ⟨-, -, -, -, -, named⟩ := mem_declarations.mp first
      obtain ⟨-, -, -, -, -, named'⟩ := mem_declarations.mp second
      exact ⟨named.trans named'.symm, alike a first b second⟩
    · rintro d rest rfl agreed
      exact all d rest same agreed

end Registry
end FloodScheme
