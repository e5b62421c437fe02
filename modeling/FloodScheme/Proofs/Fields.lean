import FloodScheme.Proofs.Outcome
import FloodScheme.Value

/-! Members by name: what is left of them once some are dropped, set or replaced. -/
namespace FloodScheme.Fields
open Outcome

theorem mem_of_get? {fields : Fields} {name : String} {v : Value}
    (h : get? fields name = some v) : (name, v) ∈ fields := by
  induction fields with
  | nil => cases h
  | cons m rest ih =>
    obtain ⟨n, w⟩ := m
    rw [get?_cons] at h
    split at h
    · next same =>
      cases h
      rw [same]
      exact List.mem_cons_self
    · exact List.mem_cons_of_mem _ (ih h)

theorem get?_eq_none {fields : Fields} {name : String} (h : name ∉ fields.names) :
    get? fields name = none := by
  cases found : get? fields name with
  | none => rfl
  | some v => exact absurd (List.mem_map_of_mem (f := Prod.fst) (mem_of_get? found)) h

theorem get?_append (first rest : Fields) (name : String) :
    get? (first ++ rest) name = (get? first name).or (get? rest name) := List.lookup_append

theorem get?_of_mem {fields : Fields} (apart : fields.names.Nodup) {name : String} {v : Value}
    (mem : (name, v) ∈ fields) : get? fields name = some v := by
  induction fields with
  | nil => cases mem
  | cons m rest ih =>
    obtain ⟨n, w⟩ := m
    obtain ⟨new, apart⟩ := List.nodup_cons.mp apart
    rw [get?_cons]
    rcases List.mem_cons.mp mem with same | later
    · cases same
      rw [if_pos rfl]
    · have other : name ≠ n := by
        rintro rfl
        exact new (List.mem_map.mpr ⟨_, later, rfl⟩)
      rw [if_neg other, ih apart later]

theorem get?_filter (keep : String → Bool) (fields : Fields) (name : String) :
    get? (fields.filter fun m => keep m.1) name =
      if keep name then get? fields name else none := by
  induction fields with
  | nil => simp [get?_nil]
  | cons m rest ih =>
    obtain ⟨n, v⟩ := m
    by_cases same : name = n
    · subst same
      cases hk : keep name with
      | true => simp [hk, get?_cons]
      | false =>
        simp only [hk, Bool.false_eq_true, if_false] at ih ⊢
        simp [hk, ih]
    · cases hk : keep n with
      | true => simp [hk, get?_cons, same, ih]
      | false => simp [hk, get?_cons, same, ih]

theorem get?_filter_pairs (keep : String × Value → Bool) {fields : Fields}
    (apart : fields.names.Nodup) (name : String) :
    get? (fields.filter keep) name = (get? fields name).filter fun v => keep (name, v) := by
  induction fields with
  | nil => rfl
  | cons m rest ih =>
    obtain ⟨n, w⟩ := m
    obtain ⟨new, apart⟩ := List.nodup_cons.mp apart
    have ih := ih apart
    rw [List.filter_cons, get?_cons]
    by_cases same : name = n
    · subst same
      rw [if_pos rfl, Option.filter_some]
      split
      · rw [get?_cons, if_pos rfl]
      · rw [ih, get?_eq_none new]
        rfl
    · rw [if_neg same, ← ih]
      split
      · rw [get?_cons, if_neg same]
      · rfl

theorem names_set (fields : Fields) (name : String) (value : Value) :
    (set fields name value).names =
      if name ∈ fields.names then fields.names else fields.names ++ [name] := by
  induction fields with
  | nil => rfl
  | cons m rest ih =>
    obtain ⟨n, w⟩ := m
    by_cases same : n = name
    · simp [set, names, same]
    · have step : (set ((n, w) :: rest) name value).names = n :: (set rest name value).names := by
        rw [set, if_neg same]
        rfl
      have other : name ≠ n := fun h => same h.symm
      have known : name ∈ names ((n, w) :: rest) ↔ name ∈ names rest := by
        rw [names, List.map_cons, List.mem_cons]
        exact or_iff_right other
      rw [step, ih]
      simp only [known]
      split
      · rfl
      · rfl

theorem nodup_set {fields : Fields} (name : String) (value : Value)
    (apart : fields.names.Nodup) : (set fields name value).names.Nodup := by
  rw [names_set]
  split
  · exact apart
  · next new =>
    refine List.nodup_append.mpr ⟨apart, by simp, fun n hn m hm => ?_⟩
    rw [List.mem_singleton] at hm
    rintro rfl
    exact new (hm ▸ hn)

theorem get?_mapM {ε : Type} {step : String × Value → Except ε (String × Value)}
    {f : String → Value → Except ε Value}
    (named : ∀ m, step m = (f m.1 m.2).map fun w => (m.1, w)) {fields after : Fields}
    (h : fields.mapM step = .ok after) :
    after.names = fields.names ∧
      ∀ name, match get? fields name with
        | none => get? after name = none
        | some v => ∃ w, f name v = .ok w ∧ get? after name = some w := by
  induction fields generalizing after with
  | nil =>
    cases h
    exact ⟨rfl, fun _ => rfl⟩
  | cons m rest ih =>
    obtain ⟨n, v⟩ := m
    rw [List.mapM_cons] at h
    obtain ⟨m', first, h⟩ := bind_eq_ok.mp h
    obtain ⟨others, mapped, h⟩ := bind_eq_ok.mp h
    obtain rfl := pure_eq_ok.mp h
    rw [named] at first
    obtain ⟨w, value, rfl⟩ := map_eq_ok.mp first
    obtain ⟨same, each⟩ := ih mapped
    refine ⟨congrArg (n :: ·) same, fun name => ?_⟩
    rw [get?_cons, get?_cons]
    by_cases own : name = n
    · subst own
      rw [if_pos rfl, if_pos rfl]
      exact ⟨w, value, rfl⟩
    · rw [if_neg own, if_neg own]
      exact each name

end FloodScheme.Fields
