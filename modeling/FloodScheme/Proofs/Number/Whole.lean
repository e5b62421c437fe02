import FloodScheme.Proofs.Number.Written
import FloodScheme.Value.Equal

/-! Whole parts of numbers. Equal numbers have one whole part, whatever they are written as, and a
whole double equals the number that it is. -/
namespace FloodScheme.Number

/-- Whole part of a magnitude `c * 10 ^ e`. -/
def wholeOf (c : Nat) (e : Int) : Nat :=
  if 0 ≤ e then c * 10 ^ e.natAbs else c / 10 ^ e.natAbs

theorem wholeOf_zero (e : Int) : wholeOf 0 e = 0 := by
  unfold wholeOf
  split
  · exact Nat.zero_mul _
  · exact Nat.zero_div _

theorem wholeOf_shift (c k : Nat) (e : Int) : wholeOf (c * 10 ^ k) e = wholeOf c (e + k) := by
  unfold wholeOf
  by_cases he : 0 ≤ e
  · have sum : (e + k).natAbs = k + e.natAbs := by omega
    rw [if_pos he, if_pos (by omega), sum, Nat.mul_assoc, ← Nat.pow_add]
  · by_cases hk : 0 ≤ e + k
    · have split : k = (e + k).natAbs + e.natAbs := by omega
      rw [if_neg he, if_pos hk]
      conv_lhs => rw [split, Nat.pow_add, ← Nat.mul_assoc]
      exact Nat.mul_div_cancel _ (Nat.pow_pos (by decide))
    · have split : e.natAbs = (e + k).natAbs + k := by omega
      rw [if_neg he, if_neg hk, split, Nat.pow_add]
      exact Nat.mul_div_mul_right _ _ (Nat.pow_pos (by decide))

theorem signed_zero (negative : Bool) : signed negative 0 = 0 := by
  cases negative with
  | true => rfl
  | false => rfl

theorem length_digits_mul_pow {c : Nat} (positive : 0 < c) (n : Nat) :
    (digits (c * 10 ^ n)).length = (digits c).length + n := by
  have size {m k : Nat} (hk : 0 < k) : (digits m).length ≤ k ↔ m < 10 ^ k :=
    Nat.length_toDigits_le_iff (by decide) hk
  have some (m : Nat) : 0 < (digits m).length := List.length_pos_iff.mpr (digits_ne_nil m)
  have tens : 0 < 10 ^ n := Nat.pow_pos (by decide)
  apply Nat.le_antisymm
  · rw [size (Nat.lt_of_lt_of_le (some c) (Nat.le_add_right _ _)), Nat.pow_add]
    exact Nat.mul_lt_mul_of_pos_right ((size (some c)).mp (Nat.le_refl _)) tens
  · by_contra short
    obtain ⟨k, length⟩ := Nat.exists_eq_succ_of_ne_zero (Nat.ne_of_gt (some c))
    have least : 10 ^ k ≤ c := by
      by_contra less
      cases k with
      | zero => simp at less; omega
      | succ k =>
        have fewer := (size (Nat.succ_pos k)).mpr (Nat.lt_of_not_le less)
        omega
    have below : (digits (c * 10 ^ n)).length ≤ k + n := by omega
    have room : 0 < k + n := Nat.lt_of_lt_of_le (some _) below
    have small := (size room).mp below
    rw [Nat.pow_add] at small
    exact absurd (Nat.lt_of_mul_lt_mul_right small) (by omega)

namespace Decimal

theorem truncate?_finite (negative : Bool) (c : Nat) (e : Int) :
    (finite negative c e).truncate? = some (signed negative (wholeOf c e)) := by
  unfold truncate?
  dsimp only
  split
  · next zero => rw [zero, wholeOf_zero, signed_zero]
  · next some =>
    unfold wholeOf
    split
    · rfl
    · split
      · next short =>
        have positive : 0 < e.natAbs := by omega
        have small : c < 10 ^ e.natAbs := by
          rw [digits, Nat.length_toDigits_le_iff (by decide) positive] at short
          exact short
        rw [Nat.div_eq_of_lt small, signed_zero]
      · rfl

theorem wholeOf_of_compareMagnitude {c₁ c₂ : Nat} {e₁ e₂ : Int}
    (h : compareMagnitude c₁ e₁ c₂ e₂ = .eq) : wholeOf c₁ e₁ = wholeOf c₂ e₂ := by
  unfold compareMagnitude at h
  dsimp only at h
  split at h
  · next zero =>
    split at h
    · next zero' => rw [zero, zero', wholeOf_zero, wholeOf_zero]
    · cases h
  · split at h
    · cases h
    · split at h
      · cases h
      · split at h
        · cases h
        · split at h
          · have same := Nat.compare_eq_eq.mp h
            have exponent : e₁ + (e₂ - e₁).natAbs = e₂ := by omega
            rw [same, wholeOf_shift, exponent]
          · have same := Nat.compare_eq_eq.mp h
            have exponent : e₂ + (e₁ - e₂).natAbs = e₁ := by omega
            rw [← same, wholeOf_shift, exponent]

theorem truncate?_of_equal {a b : Decimal} (h : a.equal b = true) :
    a.truncate? = b.truncate? := by
  have equal : compare? a b = some .eq := by simpa [Decimal.equal] using h
  match a, b with
  | nan .., _ => cases equal
  | infinity _, nan .. => cases equal
  | finite .., nan .. => cases equal
  | infinity _, infinity _ => rfl
  | infinity n, finite .. => cases n <;> cases equal
  | finite .., infinity n => cases n <;> cases equal
  | finite n₁ c₁ e₁, finite n₂ c₂ e₂ =>
    rw [truncate?_finite, truncate?_finite]
    simp only [compare?] at equal
    split at equal
    · next zero => rw [zero.1, zero.2, wholeOf_zero, wholeOf_zero, signed_zero, signed_zero]
    · cases n₁ with
      | false =>
        cases n₂ with
        | false => rw [wholeOf_of_compareMagnitude (Option.some.inj equal)]
        | true => cases equal
      | true =>
        cases n₂ with
        | false => cases equal
        | true => rw [wholeOf_of_compareMagnitude (Option.some.inj equal)]

theorem truncate?_ofInt (i : Int) : (ofInt i).truncate? = some i := by
  rw [ofInt, truncate?_finite, wholeOf]
  simp [signed_natAbs]

theorem truncate?_ofDouble (x : Double) : (ofDouble x).truncate? = x.truncate? := by
  cases x with
  | nan => rfl
  | infinity negative => rfl
  | finite negative m e =>
    unfold ofDouble Double.truncate? Double.magnitude
    dsimp only
    split
    · next low =>
      have ten : (10 : Nat) ^ e.natAbs = 5 ^ e.natAbs * 2 ^ e.natAbs := Nat.mul_pow 5 2 _
      rw [truncate?_finite, wholeOf, if_neg (by omega), ten, Nat.mul_comm m,
        Nat.mul_div_mul_left _ _ (Nat.pow_pos (by decide))]
    · rw [truncate?_finite, wholeOf]
      simp

theorem mul_pow_ne_zero {c : Nat} (some : c ≠ 0) (n : Nat) : c * 10 ^ n ≠ 0 :=
  Nat.mul_ne_zero some (Nat.ne_of_gt (Nat.pow_pos (by decide)))

theorem compareMagnitude_shift {c : Nat} (positive : 0 < c) (n : Nat) :
    compareMagnitude (c * 10 ^ n) (-n) c 0 = .eq ∧
      compareMagnitude c 0 (c * 10 ^ n) (-n) = .eq := by
  have whole : c ≠ 0 := by omega
  have shifted := mul_pow_ne_zero whole n
  have same : adjusted (c * 10 ^ n) (-n) = adjusted c 0 := by
    rw [adjusted, adjusted, length_digits_mul_pow positive]
    omega
  unfold compareMagnitude
  simp only [if_neg shifted, if_neg whole, same, Int.lt_irrefl, if_false]
  constructor
  · split
    · simp
    · have none : n = 0 := by omega
      simp [none]
  · rw [if_neg (by omega)]
    simp

theorem equal_shift (negative : Bool) (k n : Nat) :
    (finite negative (k * 10 ^ n) (-n)).equal (ofInt (signed negative k)) = true := by
  unfold Decimal.equal ofInt
  by_cases zero : k = 0
  · subst zero
    simp [signed_zero, compare?]
  · have positive : 0 < k := by omega
    have shifted := mul_pow_ne_zero zero n
    obtain ⟨down, up⟩ := compareMagnitude_shift positive n
    cases negative with
    | false =>
      have sign : decide ((k : Int) < 0) = false := by simp
      simp [signed, compare?, zero, down, sign]
    | true => simp [signed, compare?, zero, up, positive]

theorem equal_ofInt {x : Double} {i : Int} (h : x.whole? = some i) :
    (ofDouble x).equal (ofInt i) = true := by
  cases x with
  | nan => cases h
  | infinity negative => cases h
  | finite negative m e =>
    unfold ofDouble
    dsimp only
    by_cases low : e < 0
    · have magnitude : Double.magnitude m e = (m, 2 ^ e.natAbs) := if_pos low
      simp only [Double.whole?, magnitude] at h
      split at h
      · next even =>
        have back : m / 2 ^ e.natAbs * 2 ^ e.natAbs = m :=
          Nat.div_mul_cancel (Nat.dvd_of_mod_eq_zero even)
        have ten : (10 : Nat) ^ e.natAbs = 5 ^ e.natAbs * 2 ^ e.natAbs := Nat.mul_pow 5 2 _
        have shifted : m * 5 ^ e.natAbs = m / 2 ^ e.natAbs * 10 ^ e.natAbs := by
          rw [ten, ← Nat.mul_assoc, Nat.mul_right_comm, back]
        have exponent : e = -(e.natAbs : Int) := by omega
        have number := equal_shift negative (m / 2 ^ e.natAbs) e.natAbs
        rw [Option.some.inj h] at number
        rw [if_pos low, shifted]
        rwa [← exponent] at number
      · cases h
    · have magnitude : Double.magnitude m e = (m * 2 ^ e.natAbs, 1) := if_neg low
      simp only [Double.whole?, magnitude, Nat.mod_one, if_true, Nat.div_one] at h
      have number := equal_shift negative (m * 2 ^ e.natAbs) 0
      rw [Option.some.inj h] at number
      rw [if_neg low]
      simpa using number

end Decimal

namespace Double

theorem unitFor_one_le (n : Nat) : unitFor n 1 ≤ Nat.log2 n := by
  have one : Nat.log2 1 = 0 := by decide
  unfold unitFor leastExponent
  rw [one]
  dsimp only
  split
  · omega
  · split
    · omega
    · omega

theorem nearest_ne_infinity {n : Nat} (small : n < 2 ^ 128) (negative sign : Bool) :
    nearest negative n 1 ≠ infinity sign := by
  unfold nearest
  split
  · exact nofun
  · next some =>
    have log : Nat.log2 n < 128 := (Nat.log2_lt some).mpr small
    have unit := unitFor_one_le n
    have range (m : Nat) {e : Int} (low : e ≤ 129) :
        (if greatestExponent < e then infinity negative else finite negative m e) ≠
          infinity sign := by
      rw [if_neg (by unfold greatestExponent; omega)]
      exact nofun
    dsimp only
    split
    · exact range _ (by dsimp only; omega)
    · exact range _ (by dsimp only; omega)

theorem ofInt?_isSome {i : Int} (small : i.natAbs < 2 ^ 128) : (ofInt? i).isSome = true := by
  unfold ofInt?
  split
  · next sign infinite => exact absurd infinite (nearest_ne_infinity small _ _)
  · rfl

end Double
end FloodScheme.Number

namespace FloodScheme.Value
open Number

theorem wholePart_of_equal_int {i : Int} {v : Value} (h : (int i).equal v = true) :
    v.wholePart = .ok (some i) := by
  have number {d : Decimal} (found : v.number? = some d)
      (other : (int i).equal? v = equalNumbers? (Decimal.ofInt i) d) : d.truncate? = some i := by
    rw [equal, other, equalNumbers?] at h
    split at h
    · cases h
    · have same : (Decimal.ofInt i).equal d = true := by simpa using h
      rw [← Decimal.truncate?_of_equal same, Decimal.truncate?_ofInt]
  cases v with
  | null => cases h
  | text s => cases h
  | list items => cases h
  | object members => cases h
  | bool b =>
    have whole := number rfl rfl
    rw [Decimal.truncate?_ofInt] at whole
    exact congrArg Except.ok whole
  | int j =>
    have whole := number rfl rfl
    rw [Decimal.truncate?_ofInt] at whole
    exact congrArg Except.ok whole
  | float x =>
    have whole := number rfl rfl
    rw [Decimal.truncate?_ofDouble] at whole
    cases x with
    | infinity negative => cases whole
    | nan => cases whole
    | finite negative m e => exact congrArg Except.ok whole
  | decimal d =>
    have whole := number rfl rfl
    cases d with
    | infinity negative => cases whole
    | nan negative signalling payload => cases whole
    | finite negative c e => exact congrArg Except.ok whole

end FloodScheme.Value
