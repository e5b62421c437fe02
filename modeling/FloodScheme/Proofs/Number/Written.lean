import FloodScheme.Value.Integer
import Mathlib.Tactic.Common

/-! Whole numbers as they are written, and read back. A written number is read as itself unless
it has more than 4300 digits, so that no two numbers have one text. -/
namespace FloodScheme.Number
open Text

theorem isDigit_of_mem_digits {n : Nat} {c : Char} (h : c ∈ digits n) : c.isDigit = true :=
  Nat.isDigit_of_mem_toDigits (by decide) (by decide) h

theorem digits_ne_nil (n : Nat) : digits n ≠ [] := Nat.toDigits_ne_nil

theorem ofDigitChars_digits (n : Nat) : Nat.ofDigitChars 10 (digits n) 0 = n :=
  Nat.ofDigitChars_ten_toDigits

theorem digits_injective {m n : Nat} (h : digits m = digits n) : m = n := by
  rw [← ofDigitChars_digits m, h, ofDigitChars_digits]

def isNumeralChar (c : Char) : Bool := c.isDigit || c == '-'

theorem isDigit_iff {c : Char} : c.isDigit = true ↔ 48 ≤ c.toNat ∧ c.toNat ≤ 57 := by
  simp only [Char.isDigit, Bool.and_eq_true, decide_eq_true_eq]
  exact Iff.rfl

theorem toNat_of_isNumeralChar {c : Char} (h : isNumeralChar c = true) :
    (48 ≤ c.toNat ∧ c.toNat ≤ 57) ∨ c = '-' := by
  simpa [isNumeralChar, isDigit_iff] using h

theorem isBlank_eq_false {c : Char} (h : isNumeralChar c = true) : isBlank c = false := by
  have code : 45 ≤ c.toNat ∧ c.toNat ≤ 57 := by
    rcases toNat_of_isNumeralChar h with digit | rfl
    · omega
    · decide
  simp only [isBlank, isSpace, Bool.or_eq_false_iff, Bool.and_eq_false_iff, beq_eq_false_iff_ne,
    decide_eq_false_iff_not]
  omega

theorem isSpace_eq_false {c : Char} (h : isNumeralChar c = true) : isSpace c = false := by
  have blank := isBlank_eq_false h
  simp only [isBlank, Bool.or_eq_false_iff] at blank
  exact blank.1

theorem asciiDigit?_of_isDigit {c : Char} (h : c.isDigit = true) :
    asciiDigit? c = some (c.toNat - 48) := by
  rw [asciiDigit?, if_pos (isDigit_iff.mp h)]

theorem plain_digit {c : Char} (h : isNumeralChar c = true) :
    ((digit? c).map fun d => Char.ofNat (48 + d)).getD c = c := by
  rcases toNat_of_isNumeralChar h with digit | rfl
  · have low : c.toNat < 128 := by omega
    have back : 48 + (c.toNat - 48) = c.toNat := by omega
    simp [digit?, low, asciiDigit?, digit, back]
  · decide

theorem plainDigits_eq {cs : List Char} (h : ∀ c ∈ cs, isNumeralChar c = true) :
    plainDigits cs = cs := by
  calc
    plainDigits cs = cs.map id := List.map_congr_left fun c hc => plain_digit (h c hc)
    _ = cs := List.map_id cs

theorem trimBy_eq {p : Char → Bool} {cs : List Char} (h : ∀ c ∈ cs, p c = false) :
    trimBy p cs = cs := by
  have kept : ∀ ds : List Char, (∀ c ∈ ds, p c = false) → ds.dropWhile p = ds := by
    intro ds hd
    cases ds with
    | nil => rfl
    | cons d ds => simp [hd d]
  rw [trimBy, kept cs h, kept cs.reverse (by simpa using h), List.reverse_reverse]

def integerChars (i : Int) : List Char :=
  if i < 0 then '-' :: digits i.natAbs else digits i.natAbs

theorem toList_integerText (i : Int) : (integerText i).toList = integerChars i := by
  unfold integerText integerChars
  split <;> simp

theorem isNumeralChar_of_mem {i : Int} {c : Char} (h : c ∈ integerChars i) :
    isNumeralChar c = true := by
  have ofDigits : c ∈ digits i.natAbs → isNumeralChar c = true := fun hd => by
    simp [isNumeralChar, isDigit_of_mem_digits hd]
  unfold integerChars at h
  split at h
  · rcases List.mem_cons.mp h with rfl | hd
    · rfl
    · exact ofDigits hd
  · exact ofDigits h

theorem trim_integerText (i : Int) : trim (integerText i) = integerText i := by
  have kept : trimBy isBlank (integerChars i) = integerChars i :=
    trimBy_eq fun c hc => isBlank_eq_false (isNumeralChar_of_mem hc)
  rw [trim, toList_integerText, kept, ← toList_integerText, String.ofList_toList]

theorem takeSign_digits (n : Nat) : takeSign (digits n) = (false, digits n) := by
  cases hd : digits n with
  | nil => exact absurd hd (digits_ne_nil n)
  | cons c cs =>
    have digit : c.isDigit = true := isDigit_of_mem_digits (n := n) (by simp [hd])
    unfold takeSign
    split
    · next h => cases h; contradiction
    · next h => cases h; contradiction
    · rfl

theorem takeSign_integerChars (i : Int) :
    takeSign (integerChars i) = (decide (i < 0), digits i.natAbs) := by
  unfold integerChars
  split
  · next negative => simp [takeSign, negative]
  · next positive => simp [takeSign_digits, positive]

theorem groupedDigits_eq {cs : List Char} (some : cs ≠ []) (h : ∀ c ∈ cs, c.isDigit = true) :
    groupedDigits cs = .some (cs.map fun c => c.toNat - 48) := by
  induction cs with
  | nil => exact absurd rfl some
  | cons c cs ih =>
    have first := asciiDigit?_of_isDigit (h c (by simp))
    have others : ∀ d ∈ cs, d.isDigit = true := fun d hd => h d (by simp [hd])
    cases cs with
    | nil => simp [groupedDigits, first]
    | cons d ds =>
      have next : d ≠ '_' := by
        rintro rfl
        exact absurd (others '_' (by simp)) (by decide)
      have rest := ih (by simp) others
      rw [groupedDigits, first, rest]
      · rfl
      · simp
      · intro _ equal
        exact next (List.cons.inj equal).1

theorem valueOf_digits (n : Nat) : valueOf ((digits n).map fun c => c.toNat - 48) = n := by
  have folded := ofDigitChars_digits n
  rw [Nat.ofDigitChars_eq_foldl] at folded
  rw [valueOf, List.foldl_map]
  exact folded

theorem signed_natAbs (i : Int) : signed (decide (i < 0)) i.natAbs = i := by
  unfold signed
  split
  · next negative => simp only [decide_eq_true_eq] at negative; omega
  · next positive => simp only [decide_eq_true_eq] at positive; omega

theorem readInteger?_integerText (i : Int) :
    readInteger? (integerText i) =
      if (digits i.natAbs).length ≤ longestNumeral then some i else none := by
  have spaces : trimBy isSpace (integerChars i) = integerChars i :=
    trimBy_eq fun c hc => isSpace_eq_false (isNumeralChar_of_mem hc)
  have plain : plainDigits (integerChars i) = integerChars i :=
    plainDigits_eq fun c hc => isNumeralChar_of_mem hc
  have grouped := groupedDigits_eq (digits_ne_nil i.natAbs) fun c hc => isDigit_of_mem_digits hc
  simp only [readInteger?, toList_integerText, spaces, plain, takeSign_integerChars, grouped,
    Option.bind_eq_bind, Option.bind_some, List.length_map, valueOf_digits, signed_natAbs]
  rfl

theorem eq_of_readInteger?_integerText {i j : Int}
    (h : readInteger? (integerText i) = some j) : i = j := by
  rw [readInteger?_integerText] at h
  split at h
  · exact Option.some.inj h
  · exact absurd h (by simp)

theorem integerText_injective {i j : Int} (h : integerText i = integerText j) : i = j := by
  have chars : integerChars i = integerChars j := by
    rw [← toList_integerText, ← toList_integerText, h]
  have signs := congrArg takeSign chars
  rw [takeSign_integerChars, takeSign_integerChars, Prod.mk.injEq] at signs
  have sizes := digits_injective signs.2
  have sign := signs.1
  simp only [decide_eq_decide] at sign
  omega

theorem length_digits_le {n k : Nat} (hk : 0 < k) (h : n < 10 ^ k) : (digits n).length ≤ k := by
  rw [digits, Nat.length_toDigits_le_iff (by decide) hk]
  exact h

end FloodScheme.Number

namespace FloodScheme.Value
open Number

theorem shown_int (i : Int) : (int i).shown = integerText i := by
  have inside : inner (int i) = (integerText i).toList := rfl
  rw [shown, inside, String.ofList_toList]
  · intro _ h
    cases h
  · intro _ h
    cases h

theorem key?_int (i : Int) :
    (int i).key? = if (digits i.natAbs).length ≤ longestNumeral then some i else none := by
  rw [key?, shown_int, trim_integerText, readInteger?_integerText]

theorem eq_of_key?_int {i j : Int} (h : (int i).key? = some j) : i = j := by
  rw [key?, shown_int, trim_integerText] at h
  exact eq_of_readInteger?_integerText h

end FloodScheme.Value
