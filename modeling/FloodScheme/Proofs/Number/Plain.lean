import FloodScheme.Number.Decimal
import FloodScheme.Proofs.Number.Written
import Mathlib.Data.Nat.Digits.Lemmas

/-! Decimals in full: no exponent, no zeros in front, as many places as the decimal keeps. A decimal
that is written so is read back with its sign, its coefficient and its places, and a text of this
form is written again as it was read. -/
namespace FloodScheme.Number
open Text

def rowValue (cs : List Char) : Nat := valueOf (cs.map fun c => c.toNat - 48)

theorem valueOf_eq_ofDigits (ds : List Nat) : valueOf ds = Nat.ofDigits 10 ds.reverse := by
  rw [valueOf, Nat.ofDigits_eq_foldr, List.foldr_reverse]
  exact List.foldl_ext _ _ 0 fun n d _ => Nat.add_comm _ _

theorem code_lt_ten {cs : List Char} (row : ∀ c ∈ cs, c.isDigit = true) :
    ∀ d ∈ (cs.map fun c => c.toNat - 48).reverse, d < 10 := by
  intro d mem
  obtain ⟨c, hc, rfl⟩ := List.mem_map.mp (List.mem_reverse.mp mem)
  have bounds := isDigit_iff.mp (row c hc)
  omega

theorem eq_of_rowValue_eq {xs ys : List Char} (hx : ∀ c ∈ xs, c.isDigit = true)
    (hy : ∀ c ∈ ys, c.isDigit = true) (length : xs.length = ys.length)
    (value : rowValue xs = rowValue ys) : xs = ys := by
  rw [rowValue, rowValue, valueOf_eq_ofDigits, valueOf_eq_ofDigits] at value
  have codes := Nat.ofDigits_inj_of_len_eq (by decide) (by simpa using length)
    (code_lt_ten hx) (code_lt_ten hy) value
  have same := List.reverse_injective codes
  -- a digit is known by its code
  refine List.ext_getElem length fun i hi hi' => ?_
  have code : xs[i].toNat - 48 = ys[i].toNat - 48 := by
    have item := congrArg (·[i]?) same
    simpa [hi, hi'] using item
  have low := isDigit_iff.mp (hx _ (List.getElem_mem hi))
  have low' := isDigit_iff.mp (hy _ (List.getElem_mem hi'))
  exact Char.toNat_inj.mp (by omega)

theorem rowValue_lt {cs : List Char} (row : ∀ c ∈ cs, c.isDigit = true) :
    rowValue cs < 10 ^ cs.length := by
  have bound := Nat.ofDigits_lt_base_pow_length (b := 10) (by decide) (code_lt_ten row)
  rw [← valueOf_eq_ofDigits] at bound
  simpa [rowValue] using bound

theorem rowValue_cons (c : Char) (cs : List Char) :
    rowValue (c :: cs) = (c.toNat - 48) * 10 ^ cs.length + rowValue cs := by
  rw [rowValue, rowValue, valueOf_eq_ofDigits, valueOf_eq_ofDigits, List.map_cons,
    List.reverse_cons, Nat.ofDigits_append, Nat.ofDigits_singleton]
  simp [Nat.add_comm, Nat.mul_comm]

theorem rowValue_digits (n : Nat) : rowValue (digits n) = n := valueOf_digits n

theorem rowValue_zeros (k : Nat) (cs : List Char) :
    rowValue (List.replicate k '0' ++ cs) = rowValue cs := by
  induction k with
  | zero => rfl
  | succ k ih =>
    rw [List.replicate_succ, List.cons_append, rowValue_cons, ih]
    simp

theorem length_digits_rowValue {c : Char} {cs : List Char} (first : c ≠ '0')
    (row : ∀ d ∈ c :: cs, d.isDigit = true) :
    (digits (rowValue (c :: cs))).length = (c :: cs).length := by
  have size {n k : Nat} (hk : 0 < k) : (digits n).length ≤ k ↔ n < 10 ^ k :=
    Nat.length_toDigits_le_iff (by decide) hk
  have some : 0 < (digits (rowValue (c :: cs))).length :=
    List.length_pos_iff.mpr (digits_ne_nil _)
  have most := (size (Nat.succ_pos cs.length)).mpr (rowValue_lt row)
  have code : 0 < c.toNat - 48 := by
    have bounds := isDigit_iff.mp (row c List.mem_cons_self)
    have other : c.toNat ≠ '0'.toNat := fun same => first (Char.toNat_inj.mp same)
    have zero : '0'.toNat = 48 := rfl
    omega
  have least : 10 ^ cs.length ≤ rowValue (c :: cs) := by
    rw [rowValue_cons]
    exact Nat.le_trans (Nat.le_mul_of_pos_left _ code) (Nat.le_add_right _ _)
  refine Nat.le_antisymm most (Nat.lt_of_not_le fun fewer => ?_)
  have below := (size (Nat.lt_of_lt_of_le some fewer)).mp fewer
  omega

/-- Sign, whole part, and the places behind the point, if there are any. -/
def plainChars (negative : Bool) (whole fraction : List Char) : List Char :=
  Decimal.signText negative ++ whole ++ if fraction = [] then [] else '.' :: fraction

/-- A decimal in full, without a zero in front of other digits of the whole part. -/
def IsPlain (s : String) : Prop :=
  ∃ (negative : Bool) (whole fraction : List Char),
    s.toList = plainChars negative whole fraction ∧
      (whole = ['0'] ∨ ∃ c cs, whole = c :: cs ∧ c ≠ '0') ∧
      ∀ c ∈ whole ++ fraction, c.isDigit = true

/-- Characters of a decimal in full are left alone by a reader. -/
def isPlainChar (c : Char) : Bool := isNumeralChar c || c == '.'

theorem isPlainChar_of_mem {negative : Bool} {whole fraction : List Char}
    (row : ∀ c ∈ whole ++ fraction, c.isDigit = true) :
    ∀ c ∈ plainChars negative whole fraction, isPlainChar c = true := by
  have digit {c : Char} (mem : c ∈ whole ++ fraction) : isPlainChar c = true := by
    simp [isPlainChar, isNumeralChar, row c mem]
  intro c mem
  rw [plainChars, List.append_assoc, List.mem_append, List.mem_append] at mem
  rcases mem with sign | own | places
  · cases negative with
    | true => exact List.mem_singleton.mp sign ▸ rfl
    | false => cases sign
  · exact digit (List.mem_append_left _ own)
  · split at places
    · cases places
    · rcases List.mem_cons.mp places with rfl | own
      · rfl
      · exact digit (List.mem_append_right _ own)

theorem isBlank_of_isPlainChar {c : Char} (h : isPlainChar c = true) : isBlank c = false := by
  rcases Bool.or_eq_true_iff.mp h with numeral | point
  · exact isBlank_eq_false numeral
  · rw [beq_iff_eq.mp point]
    rfl

theorem plain_of_isPlainChar {c : Char} (h : isPlainChar c = true) :
    ((digit? c).map fun d => Char.ofNat (48 + d)).getD c = c := by
  rcases Bool.or_eq_true_iff.mp h with numeral | point
  · exact plain_digit numeral
  · rw [beq_iff_eq.mp point]
    rfl

theorem ne_underscore_of_isPlainChar {c : Char} (h : isPlainChar c = true) : c ≠ '_' := by
  rintro rfl
  cases h

theorem tidy_plainChars {cs : List Char} (plain : ∀ c ∈ cs, isPlainChar c = true) :
    (plainDigits (trimBy isBlank cs)).filter (· != '_') = cs := by
  have trimmed : trimBy isBlank cs = cs :=
    trimBy_eq fun c hc => isBlank_of_isPlainChar (plain c hc)
  have ascii : plainDigits cs = cs := by
    calc
      plainDigits cs = cs.map id :=
        List.map_congr_left fun c hc => plain_of_isPlainChar (plain c hc)
      _ = cs := List.map_id cs
  rw [trimmed, ascii, List.filter_eq_self]
  exact fun c hc => bne_iff_ne.mpr (ne_underscore_of_isPlainChar (plain c hc))

theorem takeDigits_row {cs rest : List Char} (row : ∀ c ∈ cs, c.isDigit = true)
    (stop : rest.head?.all (!·.isDigit) = true) :
    takeDigits (cs ++ rest) = (cs.map fun c => c.toNat - 48, rest) := by
  have none : rest.takeWhile Char.isDigit = [] ∧ rest.dropWhile Char.isDigit = rest := by
    cases rest with
    | nil => exact ⟨rfl, rfl⟩
    | cons c rest =>
      have other : c.isDigit = false := by simpa using stop
      simp [other]
  rw [takeDigits, List.takeWhile_append_of_pos row, List.dropWhile_append_of_pos row, none.1,
    none.2, List.append_nil]

theorem takeSign_plainChars {negative : Bool} {whole rest : List Char} (some : whole ≠ [])
    (row : ∀ c ∈ whole, c.isDigit = true) :
    takeSign (Decimal.signText negative ++ whole ++ rest) = (negative, whole ++ rest) := by
  cases negative with
  | true => rfl
  | false =>
    cases whole with
    | nil => exact absurd rfl some
    | cons c cs =>
      have digit : c.isDigit = true := row c List.mem_cons_self
      change takeSign (c :: (cs ++ rest)) = _
      unfold takeSign
      split
      · next same => cases same; cases digit
      · next same => cases same; cases digit
      · rfl

theorem readNumeral_plainChars {negative : Bool} {whole fraction : List Char} (some : whole ≠ [])
    (row : ∀ c ∈ whole ++ fraction, c.isDigit = true) :
    Numeral.read? (plainChars negative whole fraction) =
      .some ⟨negative, rowValue (whole ++ fraction), -fraction.length⟩ := by
  obtain ⟨left, right⟩ := List.forall_mem_append.mp row
  have codes : (whole.map fun c => c.toNat - 48).isEmpty = false := by simpa using some
  rw [Numeral.read?, plainChars, takeSign_plainChars some left]
  dsimp only
  by_cases bare : fraction = []
  · subst bare
    rw [if_pos rfl, takeDigits_row left rfl]
    simp [codes, readExponent, rowValue]
  · have places : takeDigits fraction = (fraction.map fun c => c.toNat - 48, []) := by
      have stop : ([] : List Char).head?.all (!·.isDigit) = true := rfl
      simpa using takeDigits_row right stop
    rw [if_neg bare, takeDigits_row left rfl]
    simp [codes, places, readExponent, rowValue]

/-- Digits of a coefficient, with zeros in front so that one digit at least stands before `places`
others. -/
def paddedDigits (c places : Nat) : List Char :=
  List.replicate (places + 1 - (digits c).length) '0' ++ digits c

theorem length_paddedDigits (c places : Nat) :
    (paddedDigits c places).length = max (places + 1) (digits c).length := by
  rw [paddedDigits, List.length_append, List.length_replicate]
  omega

theorem isDigit_of_mem_paddedDigits {c places : Nat} {d : Char}
    (mem : d ∈ paddedDigits c places) : d.isDigit = true := by
  rcases List.mem_append.mp mem with zero | digit
  · rw [List.eq_of_mem_replicate zero]
    rfl
  · exact isDigit_of_mem_digits digit

theorem rowValue_paddedDigits (c places : Nat) : rowValue (paddedDigits c places) = c := by
  rw [paddedDigits, rowValue_zeros, rowValue_digits]

namespace Decimal

theorem pointed_eq (negative : Bool) {c places : Nat} {whole fraction : List Char}
    (split : whole ++ fraction = paddedDigits c places) (length : fraction.length = places) :
    signText negative ++ pointed (digits c) places = plainChars negative whole fraction := by
  have parts : whole.length = (paddedDigits c places).length - places := by
    rw [← split, List.length_append, length]
    exact (Nat.add_sub_cancel _ _).symm
  rw [plainChars, List.append_assoc]
  congr 1
  by_cases bare : places = 0
  · subst bare
    have none : fraction = [] := List.length_eq_zero_iff.mp length
    have some : 0 < (digits c).length := List.length_pos_iff.mpr (digits_ne_nil c)
    have full : paddedDigits c 0 = digits c := by
      rw [paddedDigits, Nat.sub_eq_zero_of_le (by omega), List.replicate_zero, List.nil_append]
    rw [none, List.append_nil, full] at split
    rw [pointed, if_pos rfl, if_pos none, split, List.append_nil]
  · have some : fraction ≠ [] := by
      rintro rfl
      exact bare length.symm
    rw [pointed, if_neg bare, if_neg some]
    change (paddedDigits c places).take ((paddedDigits c places).length - places) ++
      '.' :: (paddedDigits c places).drop ((paddedDigits c places).length - places) = _
    rw [← parts, ← split, List.take_left, List.drop_left]

theorem plainText_eq (negative : Bool) {c : Nat} {e : Int} {whole fraction : List Char}
    (fine : e ≤ 0) (split : whole ++ fraction = paddedDigits c e.natAbs)
    (length : fraction.length = e.natAbs) :
    (finite negative c e).plainText = String.ofList (plainChars negative whole fraction) := by
  rw [plainText, if_neg (Int.not_lt.mpr fine), pointed_eq negative split length]

/-- The decimals there are: neither the first digit nor the last place is out of bounds. -/
def Valid : Decimal → Prop
  | finite _ c e => adjusted c e ≤ greatestAdjusted ∧ leastExponent ≤ e
  | _ => True

theorem read?_plainChars {negative : Bool} {whole fraction : List Char} (some : whole ≠ [])
    (row : ∀ c ∈ whole ++ fraction, c.isDigit = true) {s : String}
    (text : s.toList = plainChars negative whole fraction) :
    read? s =
      if greatestAdjusted < adjusted (rowValue (whole ++ fraction)) (-fraction.length) ∨
          -(fraction.length : Int) < leastExponent then none
      else .some (finite negative (rowValue (whole ++ fraction)) (-fraction.length)) := by
  rw [read?, text, tidy_plainChars (isPlainChar_of_mem row), readNumeral_plainChars some row]

theorem read?_plainText {negative : Bool} {c : Nat} {e : Int} (fine : e ≤ 0)
    (valid : (finite negative c e).Valid) :
    read? (finite negative c e).plainText = some (finite negative c e) := by
  obtain ⟨first, last⟩ := valid
  let start := (paddedDigits c e.natAbs).length - e.natAbs
  have size := length_paddedDigits c e.natAbs
  have split : (paddedDigits c e.natAbs).take start ++ (paddedDigits c e.natAbs).drop start =
      paddedDigits c e.natAbs := List.take_append_drop _ _
  have length : ((paddedDigits c e.natAbs).drop start).length = e.natAbs := by
    rw [List.length_drop]
    omega
  have some : (paddedDigits c e.natAbs).take start ≠ [] := by
    intro none
    have zero := congrArg List.length none
    rw [List.length_take, List.length_nil] at zero
    omega
  have exponent : -(e.natAbs : Int) = e := by omega
  rw [read?_plainChars some (fun d mem => isDigit_of_mem_paddedDigits (split ▸ mem))
    (by rw [plainText_eq negative fine split length, String.toList_ofList]), split,
    rowValue_paddedDigits, length, exponent, if_neg (by omega)]

theorem plainText_of_read? {s : String} {d : Decimal} (plain : IsPlain s)
    (read : read? s = some d) : d.plainText = s := by
  obtain ⟨negative, whole, fraction, text, first, row⟩ := plain
  have some : whole ≠ [] := by
    rcases first with rfl | ⟨c, cs, rfl, -⟩
    · exact List.cons_ne_nil _ _
    · exact List.cons_ne_nil _ _
  rw [read?_plainChars some row text] at read
  split at read
  · cases read
  · cases read
    have places : (-(fraction.length : Int)).natAbs = fraction.length := by omega
    -- the row is as long as the padded digits of its value
    have length : (whole ++ fraction).length =
        (paddedDigits (rowValue (whole ++ fraction)) fraction.length).length := by
      rw [length_paddedDigits]
      rcases first with rfl | ⟨c, cs, rfl, other⟩
      · have same : rowValue (['0'] ++ fraction) = rowValue fraction := rowValue_zeros 1 fraction
        have less := rowValue_lt (List.forall_mem_append.mp row).2
        have short : (digits (rowValue fraction)).length ≤ fraction.length + 1 :=
          length_digits_le (Nat.succ_pos _)
            (Nat.lt_trans less (Nat.pow_lt_pow_right (by decide) (Nat.lt_succ_self _)))
        rw [same, List.length_append, List.length_singleton]
        omega
      · have full : (digits (rowValue (c :: cs ++ fraction))).length =
            (c :: cs ++ fraction).length := length_digits_rowValue other row
        rw [full, List.length_append, List.length_cons]
        omega
    have split : whole ++ fraction =
        paddedDigits (rowValue (whole ++ fraction)) fraction.length :=
      eq_of_rowValue_eq row (fun d mem => isDigit_of_mem_paddedDigits mem) length
        (rowValue_paddedDigits _ _).symm
    rw [plainText_eq negative (by omega) (places.symm ▸ split) places.symm, ← text,
      String.ofList_toList]

end Decimal
end FloodScheme.Number
