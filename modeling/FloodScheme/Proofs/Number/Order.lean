import FloodScheme.Proofs.Number.Written
import Mathlib.Algebra.Order.Field.Rat
import Mathlib.Algebra.Order.Field.Power
import Mathlib.Order.Compare
import Mathlib.Order.WithBot
import Mathlib.Tactic.Linarith
import Mathlib.Tactic.Ring

/-! The order of decimals. `compare?` orders decimals as rational numbers and the two infinities,
whatever their coefficients and powers of ten are. -/
namespace FloodScheme.Number.Decimal

/-- Where the magnitude `c * 10 ^ e` lies. -/
def magnitude (c : Nat) (e : Int) : ℚ := (c : ℚ) * (10 : ℚ) ^ e

/-- Where a decimal lies; NaN lies nowhere. -/
def place : Decimal → Option (WithBot (WithTop ℚ))
  | nan .. => none
  | infinity negative => some (if negative then ⊥ else ((⊤ : WithTop ℚ) : WithBot (WithTop ℚ)))
  | finite negative c e =>
    some (((if negative then -magnitude c e else magnitude c e : ℚ) : WithTop ℚ) :
      WithBot (WithTop ℚ))

theorem tenth_pos (e : Int) : (0 : ℚ) < (10 : ℚ) ^ e := zpow_pos (by norm_num) e

theorem magnitude_zero (e : Int) : magnitude 0 e = 0 := by simp [magnitude]

theorem magnitude_nonneg (c : Nat) (e : Int) : 0 ≤ magnitude c e :=
  mul_nonneg (Nat.cast_nonneg c) (tenth_pos e).le

theorem magnitude_pos {c : Nat} (some : c ≠ 0) (e : Int) : 0 < magnitude c e :=
  mul_pos (Nat.cast_pos.mpr (Nat.pos_of_ne_zero some)) (tenth_pos e)

theorem magnitude_bounds {c : Nat} (some : c ≠ 0) (e : Int) :
    (10 : ℚ) ^ adjusted c e ≤ magnitude c e ∧ magnitude c e < (10 : ℚ) ^ (adjusted c e + 1) := by
  have positive : 0 < (digits c).length := List.length_pos_iff.mpr (digits_ne_nil c)
  have upper : c < 10 ^ (digits c).length :=
    (Nat.length_toDigits_le_iff (by decide) positive).mp (Nat.le_refl _)
  have lower : 10 ^ ((digits c).length - 1) ≤ c := by
    by_contra less
    have fewer : c < 10 ^ ((digits c).length - 1) := Nat.lt_of_not_le less
    rcases Nat.eq_zero_or_pos ((digits c).length - 1) with none | more
    · rw [none] at fewer
      exact some (by simpa using fewer)
    · have short : (digits c).length ≤ (digits c).length - 1 :=
        (Nat.length_toDigits_le_iff (by decide) more).mpr fewer
      omega
  have split (n : Nat) : (10 : ℚ) ^ ((n : Int) + e) = ((10 ^ n : Nat) : ℚ) * (10 : ℚ) ^ e := by
    rw [zpow_add₀ (by norm_num), zpow_natCast]
    push_cast
    rfl
  constructor
  · have first : adjusted c e = (((digits c).length - 1 : Nat) : Int) + e := by
      rw [adjusted]
      omega
    rw [first, split, magnitude]
    exact mul_le_mul_of_nonneg_right (Nat.cast_le.mpr lower) (tenth_pos e).le
  · have next : adjusted c e + 1 = ((digits c).length : Int) + e := by
      rw [adjusted]
      omega
    rw [next, split, magnitude]
    exact mul_lt_mul_of_pos_right (Nat.cast_lt.mpr upper) (tenth_pos e)

theorem magnitude_lt_of_adjusted {c₁ c₂ : Nat} {e₁ e₂ : Int} (some₁ : c₁ ≠ 0) (some₂ : c₂ ≠ 0)
    (earlier : adjusted c₁ e₁ < adjusted c₂ e₂) : magnitude c₁ e₁ < magnitude c₂ e₂ :=
  calc magnitude c₁ e₁ < (10 : ℚ) ^ (adjusted c₁ e₁ + 1) := (magnitude_bounds some₁ e₁).2
    _ ≤ (10 : ℚ) ^ adjusted c₂ e₂ := zpow_le_zpow_right₀ (by norm_num) earlier
    _ ≤ magnitude c₂ e₂ := (magnitude_bounds some₂ e₂).1

theorem magnitude_shift (c : Nat) {e₁ e₂ : Int} (lower : e₁ ≤ e₂) :
    magnitude c e₂ = magnitude (c * 10 ^ (e₂ - e₁).natAbs) e₁ := by
  have up : e₂ = ((e₂ - e₁).natAbs : Int) + e₁ := by omega
  rw [magnitude, magnitude]
  conv_lhs => rw [up, zpow_add₀ (by norm_num), zpow_natCast]
  push_cast
  ring

theorem magnitude_strictMono (e : Int) : StrictMono fun c => magnitude c e := fun _ _ less =>
  mul_lt_mul_of_pos_right (Nat.cast_lt.mpr less) (tenth_pos e)

theorem compare_map {α β : Type} [LinearOrder α] [LinearOrder β] {f : α → β} (up : StrictMono f)
    (x y : α) : compare (f x) (f y) = compare x y := by
  rw [← cmp_eq_compare, ← cmp_eq_compare, up.cmp_map_eq]

theorem compareMagnitude_eq (c₁ : Nat) (e₁ : Int) (c₂ : Nat) (e₂ : Int) :
    compareMagnitude c₁ e₁ c₂ e₂ = compare (magnitude c₁ e₁) (magnitude c₂ e₂) := by
  unfold compareMagnitude
  dsimp only
  split
  · next none =>
    subst none
    rw [magnitude_zero]
    split
    · next none =>
      subst none
      rw [magnitude_zero, compare_eq_iff_eq.mpr rfl]
    · next some => exact (compare_lt_iff_lt.mpr (magnitude_pos some e₂)).symm
  · next some₁ =>
    split
    · next none =>
      subst none
      rw [magnitude_zero]
      exact (compare_gt_iff_gt.mpr (magnitude_pos some₁ e₁)).symm
    · next some₂ =>
      split
      · next before =>
        exact (compare_lt_iff_lt.mpr (magnitude_lt_of_adjusted some₁ some₂ before)).symm
      · split
        · next after =>
          exact (compare_gt_iff_gt.mpr (magnitude_lt_of_adjusted some₂ some₁ after)).symm
        · split
          · next lower => rw [magnitude_shift c₂ lower.le, compare_map (magnitude_strictMono e₁)]
          · next higher =>
            rw [magnitude_shift c₁ (Int.not_lt.mp higher), compare_map (magnitude_strictMono e₂)]

theorem finite_strictMono :
    StrictMono fun x : ℚ => ((x : WithTop ℚ) : WithBot (WithTop ℚ)) := fun _ _ less =>
  WithBot.coe_lt_coe.mpr (WithTop.coe_lt_coe.mpr less)

theorem compare?_finite (n₁ : Bool) (c₁ : Nat) (e₁ : Int) (n₂ : Bool) (c₂ : Nat) (e₂ : Int) :
    compare? (finite n₁ c₁ e₁) (finite n₂ c₂ e₂) =
      some (compare (if n₁ then -magnitude c₁ e₁ else magnitude c₁ e₁)
        (if n₂ then -magnitude c₂ e₂ else magnitude c₂ e₂)) := by
  unfold compare?
  dsimp only
  split
  · next none => simp [none.1, none.2, magnitude_zero]
  · next some =>
    have first := magnitude_nonneg c₁ e₁
    have second := magnitude_nonneg c₂ e₂
    have positive : 0 < magnitude c₁ e₁ ∨ 0 < magnitude c₂ e₂ := by
      rcases not_and_or.mp some with some₁ | some₂
      · exact .inl (magnitude_pos some₁ e₁)
      · exact .inr (magnitude_pos some₂ e₂)
    have apart : 0 < magnitude c₁ e₁ + magnitude c₂ e₂ := by
      rcases positive with positive | positive
      · exact add_pos_of_pos_of_nonneg positive second
      · exact add_pos_of_nonneg_of_pos first positive
    cases n₁ with
    | false =>
      cases n₂ with
      | false => exact congrArg Option.some (compareMagnitude_eq c₁ e₁ c₂ e₂)
      | true => exact congrArg Option.some (compare_gt_iff_gt.mpr (by simp; linarith)).symm
    | true =>
      cases n₂ with
      | false => exact congrArg Option.some (compare_lt_iff_lt.mpr (by simp; linarith)).symm
      | true =>
        have down : StrictAnti fun x : ℚ => -x := fun _ _ less => neg_lt_neg less
        have opposite := down.cmp_map_eq (magnitude c₁ e₁) (magnitude c₂ e₂)
        rw [cmp_eq_compare, cmp_eq_compare] at opposite
        exact congrArg Option.some ((compareMagnitude_eq c₂ e₂ c₁ e₁).trans opposite.symm)

theorem compare?_eq (a b : Decimal) :
    compare? a b = a.place.bind fun x => b.place.map (compare x) := by
  match a, b with
  | nan .., _ => rfl
  | infinity _, nan .. => rfl
  | finite .., nan .. => rfl
  | infinity m, infinity n => cases m <;> cases n <;> rfl
  | infinity true, finite .. =>
    exact congrArg some (compare_lt_iff_lt.mpr (WithBot.bot_lt_coe _)).symm
  | infinity false, finite .. =>
    exact congrArg some
      (compare_gt_iff_gt.mpr (WithBot.coe_lt_coe.mpr (WithTop.coe_lt_top _))).symm
  | finite .., infinity true =>
    exact congrArg some (compare_gt_iff_gt.mpr (WithBot.bot_lt_coe _)).symm
  | finite .., infinity false =>
    exact congrArg some
      (compare_lt_iff_lt.mpr (WithBot.coe_lt_coe.mpr (WithTop.coe_lt_top _))).symm
  | finite n₁ c₁ e₁, finite n₂ c₂ e₂ =>
    rw [compare?_finite, ← compare_map finite_strictMono]
    rfl

theorem place_eq_none {a : Decimal} : a.place = none ↔ a.isNaN = true := by
  cases a with
  | finite negative c e => simp [place, isNaN]
  | infinity negative => simp [place, isNaN]
  | nan negative signalling payload => simp [place, isNaN]

variable {a b c : Decimal}

theorem place_of_not_isNaN (number : a.isNaN = false) : ∃ x, a.place = some x := by
  cases found : a.place with
  | none =>
    rw [place_eq_none.mp found] at number
    cases number
  | some x => exact ⟨x, rfl⟩

theorem equal_iff : a.equal b = true ↔ ∃ x, a.place = some x ∧ b.place = some x := by
  rw [equal, beq_iff_eq, compare?_eq, Option.bind_eq_some_iff]
  constructor
  · rintro ⟨x, first, second⟩
    obtain ⟨y, second, same⟩ := Option.map_eq_some_iff.mp second
    obtain rfl := compare_eq_iff_eq.mp same
    exact ⟨x, first, second⟩
  · rintro ⟨x, first, second⟩
    exact ⟨x, first, by rw [second, Option.map_some, compare_eq_iff_eq.mpr rfl]⟩

theorem le_iff :
    a.le b = true ↔ ∃ x y, a.place = some x ∧ b.place = some y ∧ x ≤ y := by
  rw [le, Option.any_eq_true, compare?_eq]
  constructor
  · rintro ⟨o, compared, order⟩
    obtain ⟨x, first, compared⟩ := Option.bind_eq_some_iff.mp compared
    obtain ⟨y, second, rfl⟩ := Option.map_eq_some_iff.mp compared
    exact ⟨x, y, first, second, compare_le_iff_le.mp (by simpa using order)⟩
  · rintro ⟨x, y, first, second, order⟩
    rw [first, second]
    exact ⟨compare x y, rfl, by simpa using compare_le_iff_le.mpr order⟩

theorem compare?_eq_lt :
    compare? a b = some .lt ↔ ∃ x y, a.place = some x ∧ b.place = some y ∧ x < y := by
  rw [compare?_eq, Option.bind_eq_some_iff]
  constructor
  · rintro ⟨x, first, second⟩
    obtain ⟨y, second, order⟩ := Option.map_eq_some_iff.mp second
    exact ⟨x, y, first, second, compare_lt_iff_lt.mp order⟩
  · rintro ⟨x, y, first, second, order⟩
    exact ⟨x, first, by rw [second, Option.map_some, compare_lt_iff_lt.mpr order]⟩

theorem equal_symm (h : a.equal b = true) : b.equal a = true := by
  obtain ⟨x, first, second⟩ := equal_iff.mp h
  exact equal_iff.mpr ⟨x, second, first⟩

theorem equal_trans (h : a.equal b = true) (h' : b.equal c = true) : a.equal c = true := by
  obtain ⟨x, first, second⟩ := equal_iff.mp h
  obtain ⟨y, second', third⟩ := equal_iff.mp h'
  cases second.symm.trans second'
  exact equal_iff.mpr ⟨x, first, third⟩

theorem le_trans (h : a.le b = true) (h' : b.le c = true) : a.le c = true := by
  obtain ⟨x, y, first, second, order⟩ := le_iff.mp h
  obtain ⟨y', z, second', third, order'⟩ := le_iff.mp h'
  cases second.symm.trans second'
  exact le_iff.mpr ⟨x, z, first, third, order.trans order'⟩

theorem isNaN_of_equal (h : a.equal b = true) : a.isNaN = false ∧ b.isNaN = false := by
  obtain ⟨x, first, second⟩ := equal_iff.mp h
  constructor
  · exact Bool.eq_false_iff.mpr fun nan => by
      rw [place_eq_none.mpr nan] at first
      cases first
  · exact Bool.eq_false_iff.mpr fun nan => by
      rw [place_eq_none.mpr nan] at second
      cases second

theorem place_ofInt (i : Int) :
    (ofInt i).place = some (((i : ℚ) : WithTop ℚ) : WithBot (WithTop ℚ)) := by
  have own : (if decide (i < 0) = true then -magnitude i.natAbs 0 else magnitude i.natAbs 0) =
      (i : ℚ) := by
    unfold magnitude
    rw [zpow_zero, mul_one, Nat.cast_natAbs]
    by_cases negative : i < 0
    · rw [if_pos (decide_eq_true negative), abs_of_neg negative, Int.cast_neg, neg_neg]
    · rw [if_neg (by simpa using negative), abs_of_nonneg (Int.not_lt.mp negative)]
  rw [ofInt, place, own]

theorem ofInt_le_ofInt {i j : Int} : (ofInt i).le (ofInt j) = true ↔ i ≤ j := by
  simp [le_iff, place_ofInt]

end FloodScheme.Number.Decimal
