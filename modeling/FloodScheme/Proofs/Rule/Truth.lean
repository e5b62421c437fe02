import FloodScheme.Proofs.Number.Whole
import FloodScheme.Proofs.Value.Equal
import FloodScheme.Rule.Check

/-! Truth values read and compared. Whatever is equal to true reads as true. Of the values that
read as true, numbers are equal to it unless they have been rounded for the reading, and no text
is. -/
namespace FloodScheme
open Number

namespace Number

theorem Double.nearest_self (negative : Bool) {n : Nat} (positive : 0 < n) :
    Double.nearest negative n n = .finite negative (2 ^ 52) (-52) := by
  have whole (k : Nat) : n * 2 ^ k / n = 2 ^ k := Nat.mul_div_cancel_left _ positive
  have even (k : Nat) : n * 2 ^ k % n = 0 := Nat.mul_mod_right n _
  have guess : Double.inUnits n n (-53) = (n * 2 ^ 53, n) := rfl
  have unit : Double.unitFor n n = -52 := by
    simp only [Double.unitFor, sub_self, zero_sub, guess, whole]
    rfl
  have rounded : Double.roundHalfEven (n * 2 ^ 52) n = 2 ^ 52 := by
    simp only [Double.roundHalfEven, whole, even]
    simp [positive]
  have units : Double.inUnits n n (-52) = (n * 2 ^ 52, n) := rfl
  unfold Double.nearest
  rw [if_neg (Nat.ne_of_gt positive)]
  simp only [unit, units, rounded]
  rfl

namespace Decimal

theorem eq_pow_of_equal_one {negative : Bool} {c : Nat} {e : Int}
    (one : (finite negative c e).equal (ofInt 1) = true) :
    negative = false ∧ ∃ k : Nat, c = 10 ^ k ∧ e = -k := by
  obtain ⟨x, first, second⟩ := equal_iff.mp one
  have place : (ofInt 1).place = (finite negative c e).place := second.trans first.symm
  have value : (if negative then -magnitude c e else magnitude c e) = 1 := by
    have own : (ofInt 1).place = some (((1 : ℚ) : WithTop ℚ) : WithBot (WithTop ℚ)) := by
      simp [ofInt, Decimal.place, magnitude]
    rw [own] at place
    have inside := WithTop.coe_injective (WithBot.coe_injective (Option.some.inj place))
    exact inside.symm
  cases negative with
  | true =>
    have below := magnitude_nonneg c e
    simp only [if_true] at value
    linarith
  | false =>
    refine ⟨rfl, ?_⟩
    simp only [Bool.false_eq_true, if_false, magnitude] at value
    obtain ⟨k, rfl | rfl⟩ := e.eq_nat_or_neg
    · rw [zpow_natCast] at value
      have product : c * 10 ^ k = 1 := by exact_mod_cast value
      have power : 10 ^ k = 1 := Nat.eq_one_of_mul_eq_one_left product
      have none : k = 0 := by
        by_contra some
        exact absurd power (Nat.one_lt_pow some (by decide)).ne'
      exact ⟨0, Nat.eq_one_of_mul_eq_one_right product, by rw [none]; rfl⟩
    · refine ⟨k, ?_, rfl⟩
      rw [zpow_neg, zpow_natCast, ← div_eq_mul_inv,
        div_eq_one_iff_eq (by positivity)] at value
      exact_mod_cast value

theorem toDouble_of_equal_one {d : Decimal} (one : d.equal (ofInt 1) = true) :
    d.toDouble = .finite false (2 ^ 52) (-52) := by
  cases d with
  | nan negative signalling payload => cases one
  | infinity negative => cases negative <;> cases one
  | finite negative c e =>
    obtain ⟨rfl, k, rfl, rfl⟩ := eq_pow_of_equal_one one
    have length : ((digits (10 ^ k)).length : Int) + -k = 1 := by
      have size := length_digits_mul_pow (by decide : 0 < 1) k
      rw [Nat.one_mul] at size
      rw [size]
      have single : (digits 1).length = 1 := rfl
      omega
    have positive : 0 < 10 ^ k := Nat.pow_pos (by decide)
    rw [toDouble, Double.ofDecimal, if_neg (Nat.ne_of_gt positive)]
    simp only [length]
    rw [if_neg (by decide), if_neg (by decide)]
    split
    · rw [Int.natAbs_neg, Int.natAbs_natCast]
      exact Double.nearest_self false positive
    · next least =>
      have none : k = 0 := by omega
      subst none
      exact Double.nearest_self false Nat.one_pos

theorem eq_one_of_equal_one {i : Int} (one : (ofInt i).equal (ofInt 1) = true) : i = 1 := by
  have same := truncate?_of_equal one
  rw [truncate?_ofInt, truncate?_ofInt] at same
  exact Option.some.inj same

theorem whole?_of_equal_one {x : Double} (one : (ofDouble x).equal (ofInt 1) = true) :
    x.whole? = some 1 := by
  cases x with
  | nan => cases one
  | infinity negative => cases negative <;> cases one
  | finite negative m e =>
    unfold ofDouble at one
    dsimp only at one
    split at one
    · next low =>
      obtain ⟨rfl, k, coefficient, exponent⟩ := eq_pow_of_equal_one one
      have size : e.natAbs = k := by omega
      have power : m = 2 ^ k := by
        rw [size, show 10 = 2 * 5 from rfl, Nat.mul_pow] at coefficient
        exact Nat.eq_of_mul_eq_mul_right (Nat.pow_pos (by decide)) coefficient
      have magnitude : Double.magnitude m e = (2 ^ k, 2 ^ k) := by
        rw [Double.magnitude, if_pos low, size, power]
      have positive : 0 < 2 ^ k := Nat.pow_pos (by decide)
      simp [Double.whole?, magnitude, Nat.div_self positive, signed]
    · next high =>
      obtain ⟨rfl, k, coefficient, exponent⟩ := eq_pow_of_equal_one one
      have none : k = 0 := by omega
      have magnitude : Double.magnitude m e = (1, 1) := by
        rw [Double.magnitude, if_neg high, coefficient, none]
      simp only [Double.whole?, magnitude]
      rfl

end Decimal
end Number

namespace Reading

theorem booleanOfInt_eq_true {i : Int} (read : booleanOfInt i = .ok true) : i = 1 := by
  unfold booleanOfInt at read
  split at read
  · cases read
  · split at read
    · next one => exact one
    · cases read

theorem boolean_of_same_true {v : Value} (same : v.Same (.bool true)) :
    boolean v = .ok true := by
  have number {d : Decimal} (found : v.number? = some d) : d.equal (.ofInt 1) = true := by
    cases Value.same_iff.mp same with
    | number first second equal =>
      cases first.symm.trans found
      cases second
      exact equal
  cases v with
  | bool b =>
    cases b with
    | true => rfl
    | false => exact absurd (number rfl) (by decide)
  | int i =>
    obtain rfl := Decimal.eq_one_of_equal_one (number rfl)
    rfl
  | float x =>
    rw [boolean, booleanOfDouble, Decimal.whole?_of_equal_one (number rfl)]
    rfl
  | decimal d =>
    rw [boolean, Decimal.toDouble_of_equal_one (number rfl)]
    rfl
  | null => cases same
  | text s => cases same
  | list items => cases same
  | object members => cases same

theorem same_true_of_boolean {v : Value} (read : boolean v = .ok true) :
    v.Same (.bool true) ∨ (∃ s, v = .text s) ∨ ∃ d, v = .decimal d := by
  cases v with
  | bool b =>
    cases read
    exact .inl rfl
  | int i =>
    simp only [boolean] at read
    split at read
    · obtain rfl := booleanOfInt_eq_true read
      exact .inl rfl
    · cases read
  | float x =>
    simp only [boolean, booleanOfDouble] at read
    split at read
    · next i whole =>
      split at read
      · obtain rfl := booleanOfInt_eq_true read
        exact .inl (Value.same_iff.mpr (.number rfl rfl (Decimal.equal_ofInt whole)))
      · cases read
    · cases read
  | text s => exact .inr (.inl ⟨s, rfl⟩)
  | decimal d => exact .inr (.inr ⟨d, rfl⟩)
  | null => cases read
  | list items => cases read
  | object members => cases read

end Reading
end FloodScheme
