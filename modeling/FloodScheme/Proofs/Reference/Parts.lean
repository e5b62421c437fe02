import FloodScheme.Proofs.Number.Written
import FloodScheme.Reference
import Mathlib.Data.Prod.Lex

/-! The parts of a reference number. The code in front may hold anything, slashes and digits
included, so a number is read from its end: two counters, the fixed part, and the rest is the
code. Numbers of one code follow each other in the order of their counters. -/
namespace FloodScheme

namespace Counters

/-- Counters of the `n`-th number of a code; the first number is number one. -/
def nth (n : Nat) : Counters := ⟨((n - 1) / 999 : Nat), ((n - 1) % 999 + 1 : Nat)⟩

/-- Counters that a code is left with after `n` numbers. -/
def left : Nat → Option Counters
  | 0 => none
  | n + 1 => some (nth (n + 1))

theorem next_nth {n : Nat} (h : 0 < n) : (nth n).next = nth (n + 1) := by
  obtain ⟨m, rfl⟩ : ∃ m, n = m + 1 := ⟨n - 1, by omega⟩
  simp only [nth, next, greatestLow, Nat.add_sub_cancel]
  split
  · next full =>
    have high : (m + 1) / 999 = m / 999 + 1 := by omega
    have low : (m + 1) % 999 = 0 := by omega
    simp [high, low]
  · next room =>
    have high : (m + 1) / 999 = m / 999 := by omega
    have low : (m + 1) % 999 = m % 999 + 1 := by omega
    simp [high, low]

theorem next_left (n : Nat) : ((left n).elim (next ⟨0, 0⟩) next) = nth (n + 1) := by
  cases n with
  | zero => rfl
  | succ n => exact next_nth (Nat.succ_pos n)

theorem after_left (n : Nat) : after (left n) = nth (n + 1) := by
  rw [← next_left]
  cases n with
  | zero => rfl
  | succ n => rfl

theorem run_left (m n : Nat) : run m (left n) = (List.range m).map fun i => nth (n + i + 1) := by
  induction m generalizing n with
  | zero => rfl
  | succ m ih =>
    have later : run m (left (n + 1)) = (List.range m).map fun i => nth (n + (i + 1) + 1) := by
      rw [ih]
      refine List.map_congr_left fun i _ => ?_
      rw [Nat.add_right_comm n 1 i, Nat.add_assoc n i 1]
    rw [run, after_left, List.range_succ_eq_map, List.map_cons, List.map_map]
    exact congrArg _ later

theorem lt_next (c : Counters) : toLex (c.high, c.low) < toLex (c.next.high, c.next.low) := by
  rw [Prod.Lex.toLex_lt_toLex, next]
  split
  · exact Or.inl (Int.lt_succ c.high)
  · exact Or.inr ⟨rfl, Int.lt_succ c.low⟩

theorem nth_injective {m n : Nat} (hm : 0 < m) (hn : 0 < n) (h : nth m = nth n) : m = n := by
  have high := congrArg Counters.high h
  have low := congrArg Counters.low h
  simp only [nth] at high low
  omega

theorem nth_nonneg (n : Nat) : 0 ≤ (nth n).high ∧ 0 ≤ (nth n).low := by
  constructor
  · exact Int.natCast_nonneg _
  · exact Int.natCast_nonneg _

end Counters

namespace Reference
open Number

/-- A counter at the end of a text, and what stands before the slash in front of it. The text is
reversed. -/
def takeCounter : List Char → Option (Nat × List Char)
  | 'A' :: cs =>
    match cs.dropWhile Char.isDigit with
    | '/' :: rest => some (Nat.ofDigitChars 10 (cs.takeWhile Char.isDigit).reverse 0, rest)
    | _ => none
  | _ => none

/-- The code and the counters of a reference number. -/
def parts? (reference : String) : Option (String × Counters) := do
  let (low, rest) ← takeCounter reference.toList.reverse
  let (high, rest) ← takeCounter rest
  match rest with
  | 'E' :: '1' :: '0' :: '5' :: 'C' :: code => some (String.ofList code.reverse, ⟨high, low⟩)
  | _ => none

/-- The code that a reference number was minted for. -/
def code? (reference : String) : Option String := (parts? reference).map Prod.fst

def counterChars (n : Nat) : List Char :=
  List.replicate (3 - (digits n).length) '0' ++ digits n

theorem toList_counterText {i : Int} (h : 0 ≤ i) :
    (counterText i).toList = counterChars i.natAbs ++ ['A'] := by
  have positive : ¬ i < 0 := by omega
  simp [counterText, paddedText, positive, counterChars]

theorem isDigit_of_mem_counterChars {n : Nat} {c : Char} (h : c ∈ counterChars n) :
    c.isDigit = true := by
  rcases List.mem_append.mp h with zero | digit
  · rw [List.eq_of_mem_replicate zero]
    rfl
  · exact isDigit_of_mem_digits digit

theorem ofDigitChars_counterChars (n : Nat) : Nat.ofDigitChars 10 (counterChars n) 0 = n := by
  rw [counterChars, Nat.ofDigitChars_append, Nat.ofDigitChars_replicate_zero, Nat.mul_zero,
    ofDigitChars_digits]

theorem takeCounter_counterChars (n : Nat) (rest : List Char) :
    takeCounter ('A' :: ((counterChars n).reverse ++ '/' :: rest)) = some (n, rest) := by
  have ds : ∀ c ∈ (counterChars n).reverse, c.isDigit = true := fun c hc =>
    isDigit_of_mem_counterChars (List.mem_reverse.mp hc)
  have taken : ((counterChars n).reverse ++ '/' :: rest).takeWhile Char.isDigit =
      (counterChars n).reverse := by
    rw [List.takeWhile_append_of_pos ds]
    simp
  have dropped : ((counterChars n).reverse ++ '/' :: rest).dropWhile Char.isDigit =
      '/' :: rest := by
    rw [List.dropWhile_append_of_pos ds]
    simp
  simp only [takeCounter, taken, dropped, List.reverse_reverse, ofDigitChars_counterChars]

theorem reverse_format (code : String) {c : Counters} (high : 0 ≤ c.high) (low : 0 ≤ c.low) :
    (format code c).toList.reverse =
      'A' :: ((counterChars c.low.natAbs).reverse ++ '/' ::
        ('A' :: ((counterChars c.high.natAbs).reverse ++ '/' ::
          'E' :: '1' :: '0' :: '5' :: 'C' :: code.toList.reverse))) := by
  simp only [format, String.toList_append, toList_counterText high, toList_counterText low]
  simp [middle]

theorem parts?_format (code : String) {c : Counters} (high : 0 ≤ c.high) (low : 0 ≤ c.low) :
    parts? (format code c) = some (code, c) := by
  have sizes : (⟨(c.high.natAbs : Int), (c.low.natAbs : Int)⟩ : Counters) = c := by
    rw [Int.natAbs_of_nonneg high, Int.natAbs_of_nonneg low]
  rw [parts?, reverse_format code high low, takeCounter_counterChars]
  simp only [Option.bind_eq_bind, Option.bind_some, takeCounter_counterChars,
    List.reverse_reverse, String.ofList_toList, sizes]

theorem format_injective {code code' : String} {c c' : Counters} (high : 0 ≤ c.high)
    (low : 0 ≤ c.low) (high' : 0 ≤ c'.high) (low' : 0 ≤ c'.low)
    (h : format code c = format code' c') : code = code' ∧ c = c' := by
  have read := congrArg parts? h
  rw [parts?_format code high low, parts?_format code' high' low'] at read
  exact Prod.mk.inj (Option.some.inj read)

theorem code?_format_nth (code : String) (n : Nat) :
    code? (format code (.nth n)) = some code := by
  rw [code?, parts?_format code (Counters.nth_nonneg n).1 (Counters.nth_nonneg n).2]
  rfl

theorem format_nth_injective {code code' : String} {m n : Nat} (hm : 0 < m) (hn : 0 < n)
    (h : format code (.nth m) = format code' (.nth n)) : code = code' ∧ m = n := by
  obtain ⟨high, low⟩ := Counters.nth_nonneg m
  obtain ⟨high', low'⟩ := Counters.nth_nonneg n
  obtain ⟨codes, counters⟩ := format_injective high low high' low' h
  exact ⟨codes, Counters.nth_injective hm hn counters⟩

end Reference
end FloodScheme
