import FloodScheme.Proofs.Fields
import FloodScheme.Proofs.Number.Order
import FloodScheme.Value.Equal
import Mathlib.Data.List.Forall2
import Mathlib.Data.List.Perm.Subperm

/-! Equality of values as a relation. What is equal to an equal value is equal, and on values
without signalling NaN, whose objects name each member once, equality is decided and goes both
ways. -/
namespace FloodScheme.Value
open Number

variable {x y z : Value}

/-- Two values are equal. -/
def Same (x y : Value) : Prop := x.equal? y = some true

theorem equal_eq_true : x.equal y = true ↔ x.Same y := by
  rw [equal, beq_iff_eq]
  rfl

theorem eq_text_of_equal {v : Value} {s : String} (h : v.equal (.text s) = true) :
    v = .text s := by
  cases v with
  | text s' =>
    have same : s' = s := by simpa [equal, equal?] using h
    rw [same]
  | null => cases h
  | bool b => cases h
  | int i => cases h
  | float x => cases h
  | decimal d => cases h
  | list items => cases h
  | object members => cases h

theorem andThen_eq_true {a b : Option Bool} :
    andThen a b = some true ↔ a = some true ∧ b = some true := by
  match a with
  | none => simp [andThen]
  | some true => simp [andThen]
  | some false => simp [andThen]

theorem isSome_andThen {a b : Option Bool} (ha : a.isSome = true) (hb : b.isSome = true) :
    (andThen a b).isSome = true := by
  match a with
  | none => cases ha
  | some true => exact hb
  | some false => rfl

theorem isSignalling_of_number? {d : Decimal} (number : x.number? = some d) :
    d.isSignalling = x.isSignalling := by
  cases x with
  | null => cases number
  | text s => cases number
  | list items => cases number
  | object members => cases number
  | bool b => cases number; rfl
  | int i => cases number; rfl
  | decimal d => cases number; rfl
  | float x =>
    cases number
    cases x with
    | nan => rfl
    | infinity negative => rfl
    | finite negative m e =>
      unfold Decimal.ofDouble
      dsimp only
      split
      · rfl
      · rfl

theorem isSignalling_of_not_isNaN {a : Decimal} (number : a.isNaN = false) :
    a.isSignalling = false := by
  cases a with
  | finite negative c e => rfl
  | infinity negative => rfl
  | nan negative signalling payload => cases number

theorem equalNumbers?_eq_true {a b : Decimal} :
    equalNumbers? a b = some true ↔ a.equal b = true := by
  unfold equalNumbers?
  split
  · next signals =>
    constructor
    · intro h
      cases h
    · intro equal
      obtain ⟨first, second⟩ := Decimal.isNaN_of_equal equal
      rw [isSignalling_of_not_isNaN first, isSignalling_of_not_isNaN second] at signals
      cases signals
  · rw [Option.some.injEq]

theorem equalItems?_eq_true {xs ys : List Value} :
    equalItems? xs ys = some true ↔ List.Forall₂ Same xs ys := by
  induction xs generalizing ys with
  | nil =>
    cases ys with
    | nil => simp [equalItems?]
    | cons y ys => simp [equalItems?]
  | cons x xs ih =>
    cases ys with
    | nil => simp [equalItems?]
    | cons y ys =>
      rw [equalItems?, andThen_eq_true, ih, List.forall₂_cons]
      rfl

theorem equalMembers?_eq_true {xs ys : Fields} :
    equalMembers? xs ys = some true ↔
      ∀ m ∈ xs, ∃ y, Fields.get? ys m.1 = some y ∧ m.2.Same y := by
  induction xs with
  | nil => simp [equalMembers?]
  | cons m xs ih =>
    obtain ⟨n, x⟩ := m
    rw [equalMembers?, andThen_eq_true, ih, List.forall_mem_cons]
    refine and_congr_left fun _ => ?_
    change _ ↔ ∃ y, List.lookup n ys = some y ∧ x.Same y
    cases List.lookup n ys with
    | none => simp
    | some y => simp [Same]

/-- How two values can be equal. -/
inductive Alike : Value → Value → Prop
  | null : Alike .null .null
  | text (s : String) : Alike (.text s) (.text s)
  | list {xs ys : List Value} (items : List.Forall₂ Same xs ys) : Alike (.list xs) (.list ys)
  | object {xs ys : Fields} (length : xs.length = ys.length)
      (members : ∀ m ∈ xs, ∃ y, Fields.get? ys m.1 = some y ∧ m.2.Same y) :
      Alike (.object xs) (.object ys)
  | number {x y : Value} {a b : Decimal} (first : x.number? = some a) (second : y.number? = some b)
      (equal : a.equal b = true) : Alike x y

theorem same_iff : x.Same y ↔ Alike x y := by
  constructor
  · intro h
    unfold Same at h
    unfold equal? at h
    split at h
    · exact .null
    · next s t =>
      obtain rfl : s = t := by simpa using h
      exact .text s
    · split at h
      · exact .list (equalItems?_eq_true.mp h)
      · cases h
    · split at h
      · next length => exact .object (by simpa using length) (equalMembers?_eq_true.mp h)
      · cases h
    · split at h
      · next a b first second => exact .number first second (equalNumbers?_eq_true.mp h)
      · cases h
  · intro h
    cases h with
    | null => rfl
    | text s => simp [Same, equal?]
    | list items =>
      have length := items.length_eq
      simp only [Same, equal?, length, beq_self_eq_true, if_true]
      exact equalItems?_eq_true.mpr items
    | object length members =>
      simp only [Same, equal?, length, beq_self_eq_true, if_true]
      exact equalMembers?_eq_true.mpr members
    | number first second equal =>
      have numbers := equalNumbers?_eq_true.mpr equal
      cases x with
      | null => cases first
      | text s => cases first
      | list items => cases first
      | object members => cases first
      | bool b =>
        unfold Same equal?
        simp only [first, second]
        exact numbers
      | int i =>
        unfold Same equal?
        simp only [first, second]
        exact numbers
      | float d =>
        unfold Same equal?
        simp only [first, second]
        exact numbers
      | decimal d =>
        unfold Same equal?
        simp only [first, second]
        exact numbers

theorem nested {motive : Value → Prop}
    (list : ∀ items, (∀ v ∈ items, motive v) → motive (.list items))
    (object : ∀ members : Fields, (∀ m ∈ members, motive m.2) → motive (.object members))
    (single : ∀ v, (∀ items, v ≠ .list items) → (∀ members, v ≠ .object members) → motive v) :
    ∀ v, motive v
  | .list items => list items fun v _ => nested list object single v
  | .object members => object members fun m mem =>
    have smaller : sizeOf m.2 < sizeOf members := by
      have whole := List.sizeOf_lt_of_mem mem
      have part : sizeOf m = 1 + sizeOf m.1 + sizeOf m.2 := rfl
      omega
    nested list object single m.2
  | .null => single _ nofun nofun
  | .bool _ => single _ nofun nofun
  | .int _ => single _ nofun nofun
  | .float _ => single _ nofun nofun
  | .decimal _ => single _ nofun nofun
  | .text _ => single _ nofun nofun

theorem forall₂_trans {xs ys zs : List Value}
    (step : ∀ x ∈ xs, ∀ {y z}, x.Same y → y.Same z → x.Same z)
    (h : List.Forall₂ Same xs ys) (h' : List.Forall₂ Same ys zs) : List.Forall₂ Same xs zs := by
  induction h generalizing zs with
  | nil => exact h'
  | cons first rest ih =>
    obtain ⟨z, zs, first', rest', rfl⟩ := List.forall₂_cons_left_iff.mp h'
    exact .cons (step _ List.mem_cons_self first first')
      (ih (fun x mem => step x (List.mem_cons_of_mem _ mem)) rest')

theorem Same.trans (h : x.Same y) (h' : y.Same z) : x.Same z := by
  induction x using nested generalizing y z with
  | list items ih =>
    cases same_iff.mp h with
    | list first =>
      cases same_iff.mp h' with
      | list second =>
        exact same_iff.mpr (.list (forall₂_trans (fun x mem => ih x mem) first second))
      | number number _ _ => cases number
    | number number _ _ => cases number
  | object members ih =>
    cases same_iff.mp h with
    | object length first =>
      cases same_iff.mp h' with
      | object length' second =>
        refine same_iff.mpr (.object (length.trans length') fun m mem => ?_)
        obtain ⟨y, found, same⟩ := first m mem
        obtain ⟨z, found', same'⟩ := second (m.1, y) (Fields.mem_of_get? found)
        exact ⟨z, found', ih m mem same same'⟩
      | number number _ _ => cases number
    | number number _ _ => cases number
  | single v notList notObject =>
    cases same_iff.mp h with
    | null => exact h'
    | text s => exact h'
    | list items => exact absurd rfl (notList _)
    | object length members => exact absurd rfl (notObject _)
    | number first second equal =>
      cases same_iff.mp h' with
      | null => cases second
      | text s => cases second
      | list items => cases second
      | object length members => cases second
      | number second' third equal' =>
        cases second.symm.trans second'
        exact same_iff.mpr (.number first third (Decimal.equal_trans equal equal'))

mutual

/-- No object, at any depth, names a member twice. -/
def namesOnce : Value → Bool
  | list items => allNameOnce items
  | object members => decide (Fields.names members).Nodup && membersNameOnce members
  | _ => true

def allNameOnce : List Value → Bool
  | [] => true
  | v :: rest => namesOnce v && allNameOnce rest

def membersNameOnce : List (String × Value) → Bool
  | [] => true
  | (_, v) :: rest => namesOnce v && membersNameOnce rest

end

theorem allNameOnce_iff {items : List Value} :
    allNameOnce items = true ↔ ∀ v ∈ items, v.namesOnce = true := by
  induction items with
  | nil => simp [allNameOnce]
  | cons v rest ih => rw [allNameOnce, Bool.and_eq_true, ih, List.forall_mem_cons]

theorem membersNameOnce_iff {members : Fields} :
    membersNameOnce members = true ↔ ∀ m ∈ members, m.2.namesOnce = true := by
  induction members with
  | nil => simp [membersNameOnce]
  | cons m rest ih => rw [membersNameOnce, Bool.and_eq_true, ih, List.forall_mem_cons]

theorem members_symm {xs ys : Fields} (apartX : xs.names.Nodup) (apartY : ys.names.Nodup)
    (length : xs.length = ys.length)
    (members : ∀ m ∈ xs, ∃ y, Fields.get? ys m.1 = some y ∧ m.2.Same y) :
    ∀ m ∈ ys, ∃ x, (m.1, x) ∈ xs ∧ Fields.get? xs m.1 = some x ∧ x.Same m.2 := by
  have known : xs.names ⊆ ys.names := by
    intro name mem
    obtain ⟨m, own, rfl⟩ := List.mem_map.mp mem
    obtain ⟨y, found, -⟩ := members m own
    exact List.mem_map.mpr ⟨_, Fields.mem_of_get? found, rfl⟩
  have same : xs.names.Perm ys.names :=
    (List.subperm_of_subset apartX known).perm_of_length_le (by simp [Fields.names, length])
  intro m mem
  have name : m.1 ∈ xs.names := same.mem_iff.mpr (List.mem_map_of_mem mem)
  obtain ⟨own, mem', named⟩ := List.mem_map.mp name
  obtain ⟨n, x⟩ := own
  dsimp only at named
  subst named
  obtain ⟨y, found, equal⟩ := members _ mem'
  rw [Fields.get?_of_mem apartY mem] at found
  cases found
  exact ⟨x, mem', Fields.get?_of_mem apartX mem', equal⟩

theorem forall₂_symm {xs ys : List Value}
    (step : ∀ x ∈ xs, ∀ y ∈ ys, x.Same y → y.Same x) (h : List.Forall₂ Same xs ys) :
    List.Forall₂ Same ys xs := by
  induction h with
  | nil => exact .nil
  | cons first rest ih =>
    exact .cons (step _ List.mem_cons_self _ List.mem_cons_self first)
      (ih fun x hx y hy => step x (List.mem_cons_of_mem _ hx) y (List.mem_cons_of_mem _ hy))

theorem Same.symm (hx : x.namesOnce = true) (hy : y.namesOnce = true) (h : x.Same y) :
    y.Same x := by
  induction x using nested generalizing y with
  | list items ih =>
    cases same_iff.mp h with
    | list pairs =>
      rw [namesOnce, allNameOnce_iff] at hx hy
      exact same_iff.mpr (.list (forall₂_symm
        (fun x memX y memY => ih x memX (hx x memX) (hy y memY)) pairs))
    | number number _ _ => cases number
  | object members ih =>
    cases same_iff.mp h with
    | object length pairs =>
      rw [namesOnce, Bool.and_eq_true, decide_eq_true_eq, membersNameOnce_iff] at hx hy
      refine same_iff.mpr (.object length.symm fun m mem => ?_)
      obtain ⟨x, mem', found, same⟩ := members_symm hx.1 hy.1 length pairs m mem
      exact ⟨x, found, ih (m.1, x) mem' (hx.2 _ mem') (hy.2 m mem) same⟩
    | number number _ _ => cases number
  | single v notList notObject =>
    cases same_iff.mp h with
    | null => exact h
    | text s => exact h
    | list items => exact absurd rfl (notList _)
    | object length members => exact absurd rfl (notObject _)
    | number first second equal =>
      exact same_iff.mpr (.number second first (Decimal.equal_symm equal))

mutual

/-- No signalling NaN at any depth. -/
def isQuiet : Value → Bool
  | decimal d => !d.isSignalling
  | list items => allQuiet items
  | object members => membersQuiet members
  | _ => true

def allQuiet : List Value → Bool
  | [] => true
  | v :: rest => isQuiet v && allQuiet rest

def membersQuiet : List (String × Value) → Bool
  | [] => true
  | (_, v) :: rest => isQuiet v && membersQuiet rest

end

theorem allQuiet_iff {items : List Value} :
    allQuiet items = true ↔ ∀ v ∈ items, v.isQuiet = true := by
  induction items with
  | nil => simp [allQuiet]
  | cons v rest ih => rw [allQuiet, Bool.and_eq_true, ih, List.forall_mem_cons]

theorem membersQuiet_iff {members : Fields} :
    membersQuiet members = true ↔ ∀ m ∈ members, m.2.isQuiet = true := by
  induction members with
  | nil => simp [membersQuiet]
  | cons m rest ih => rw [membersQuiet, Bool.and_eq_true, ih, List.forall_mem_cons]

theorem isSignalling_of_isQuiet (quiet : x.isQuiet = true) : x.isSignalling = false := by
  cases x with
  | decimal d => simpa [isQuiet, isSignalling] using quiet
  | null => rfl
  | bool b => rfl
  | int i => rfl
  | float d => rfl
  | text s => rfl
  | list items => rfl
  | object members => rfl

theorem equalItems?_isSome {xs ys : List Value}
    (each : ∀ x ∈ xs, ∀ y ∈ ys, (x.equal? y).isSome = true) :
    (equalItems? xs ys).isSome = true := by
  induction xs generalizing ys with
  | nil =>
    cases ys with
    | nil => rfl
    | cons y ys => rfl
  | cons x xs ih =>
    cases ys with
    | nil => rfl
    | cons y ys =>
      rw [equalItems?]
      exact isSome_andThen (each x List.mem_cons_self y List.mem_cons_self)
        (ih fun x hx y hy => each x (List.mem_cons_of_mem _ hx) y (List.mem_cons_of_mem _ hy))

theorem equalMembers?_isSome {xs ys : Fields}
    (each : ∀ m ∈ xs, ∀ n ∈ ys, (m.2.equal? n.2).isSome = true) :
    (equalMembers? xs ys).isSome = true := by
  induction xs with
  | nil => rfl
  | cons m rest ih =>
    obtain ⟨first, each⟩ := List.forall_mem_cons.mp each
    rw [equalMembers?]
    refine isSome_andThen ?_ (ih each)
    cases found : List.lookup m.1 ys with
    | none => rfl
    | some y => exact first (m.1, y) (Fields.mem_of_get? found)

theorem equalNumbers?_isSome {a b : Decimal} (hx : x.isQuiet = true) (hy : y.isQuiet = true)
    (first : x.number? = some a) (second : y.number? = some b) :
    (equalNumbers? a b).isSome = true := by
  rw [equalNumbers?, isSignalling_of_number? first, isSignalling_of_number? second,
    isSignalling_of_isQuiet hx, isSignalling_of_isQuiet hy]
  rfl

theorem equal?_isSome_of_isQuiet (hx : x.isQuiet = true) (hy : y.isQuiet = true) :
    (x.equal? y).isSome = true := by
  induction x using nested generalizing y with
  | list xs ih =>
    unfold equal?
    split
    · rfl
    · rfl
    · next ys same =>
      cases same
      split
      · exact equalItems?_isSome fun x mem y mem' =>
          ih x mem (allQuiet_iff.mp hx x mem) (allQuiet_iff.mp hy y mem')
      · rfl
    · next same => cases same
    · split
      · next first second => exact equalNumbers?_isSome hx hy first second
      · rfl
  | object members ih =>
    unfold equal?
    split
    · rfl
    · rfl
    · next same => cases same
    · next others same =>
      cases same
      split
      · exact equalMembers?_isSome fun m mem n mem' =>
          ih m mem (membersQuiet_iff.mp hx m mem) (membersQuiet_iff.mp hy n mem')
      · rfl
    · split
      · next first second => exact equalNumbers?_isSome hx hy first second
      · rfl
  | single v notList notObject =>
    unfold equal?
    split
    · rfl
    · rfl
    · exact absurd rfl (notList _)
    · exact absurd rfl (notObject _)
    · split
      · next first second => exact equalNumbers?_isSome hx hy first second
      · rfl

theorem signalsIn_of_isQuiet {values : List Value} (quiet : x.isQuiet = true)
    (all : ∀ v ∈ values, v.isQuiet = true) : x.signalsIn values = false := by
  induction values with
  | nil => rfl
  | cons v rest ih =>
    obtain ⟨first, all⟩ := List.forall_mem_cons.mp all
    have compared := equal?_isSome_of_isQuiet first quiet
    rw [signalsIn, isIn?]
    cases found : v.equal? x with
    | none => simp [found] at compared
    | some equal =>
      cases equal with
      | true => rfl
      | false => exact ih all

theorem isQuiet_of_isKey (single : x.isKey = true) : x.isQuiet = true := by
  cases x with
  | decimal d => exact single
  | list items => cases single
  | object members => cases single
  | null => rfl
  | bool b => rfl
  | int i => rfl
  | float d => rfl
  | text s => rfl

theorem equal?_isSome (hx : x.isKey = true) (hy : y.isKey = true) :
    (x.equal? y).isSome = true :=
  equal?_isSome_of_isQuiet (isQuiet_of_isKey hx) (isQuiet_of_isKey hy)

theorem signalsIn_of_isKey {values : List Value} (single : x.isKey = true)
    (singles : ∀ v ∈ values, v.isKey = true) : x.signalsIn values = false :=
  signalsIn_of_isQuiet (isQuiet_of_isKey single) fun v mem => isQuiet_of_isKey (singles v mem)

theorem isKey_of_number {d : Decimal} (number : x.number? = some d) (some : d.isNaN = false) :
    x.isKey = true := by
  have quiet := (isSignalling_of_number? number).symm.trans (isSignalling_of_not_isNaN some)
  cases x with
  | decimal d => simpa [isKey, isSignalling] using quiet
  | null => cases number
  | bool b => rfl
  | int i => rfl
  | float d => rfl
  | text s => cases number
  | list items => cases number
  | object members => cases number

theorem isKey_of_same (h : x.Same y) : x.isKey = y.isKey := by
  cases same_iff.mp h with
  | null => rfl
  | text s => rfl
  | list items => rfl
  | object length members => rfl
  | number first second equal =>
    obtain ⟨some, some'⟩ := Decimal.isNaN_of_equal equal
    rw [isKey_of_number first some, isKey_of_number second some']

theorem Same.symm_of_isKey (single : x.isKey = true) (h : x.Same y) : y.Same x := by
  cases same_iff.mp h with
  | null => exact h
  | text s => exact h
  | list items => cases single
  | object length members => cases single
  | number first second equal =>
    exact same_iff.mpr (.number second first (Decimal.equal_symm equal))

theorem isIn_congr {values : List Value} (there : x.Same y) (back : y.Same x)
    (calm : x.signalsIn values = false) (calm' : y.signalsIn values = false) :
    x.isIn values = y.isIn values := by
  have same (v : Value) : v.equal x = v.equal y := by
    rw [Bool.eq_iff_iff, equal_eq_true, equal_eq_true]
    exact ⟨fun h => Same.trans h there, fun h => Same.trans h back⟩
  rw [isIn_eq_any calm, isIn_eq_any calm', funext same]

theorem any_equal_of_forall₂ {vs ws : List Value} (back : List.Forall₂ Same ws vs)
    (found : vs.any (·.equal x) = true) : ws.any (·.equal x) = true := by
  induction back with
  | nil => cases found
  | cons first rest ih =>
    rw [List.any_cons, Bool.or_eq_true] at found ⊢
    rcases found with found | found
    · exact .inl (equal_eq_true.mpr (Same.trans first (equal_eq_true.mp found)))
    · exact .inr (ih found)

theorem isIn_of_forall₂ {vs ws : List Value} (there : List.Forall₂ Same vs ws)
    (back : List.Forall₂ Same ws vs) (calm : x.signalsIn vs = false)
    (calm' : x.signalsIn ws = false) : x.isIn vs = x.isIn ws := by
  rw [isIn_eq_any calm, isIn_eq_any calm', Bool.eq_iff_iff]
  exact ⟨any_equal_of_forall₂ back, any_equal_of_forall₂ there⟩

end FloodScheme.Value
