import FloodScheme.Proofs.Reference.Parts
import FloodScheme.Proofs.Text.Case
import Mathlib.Data.List.Basic

/-! Slugs of reference numbers. A slug has small letters and dashes where its number has capitals
and slashes, so a dash may also be the sign of a counter. Behind a code of capitals the first five
ends the code and every small `a` ends a counter, so the number is got back from the left. -/
namespace FloodScheme.Reference
open Number Text

/-- All letters of a code are capitals. -/
def Capitals (code : String) : Prop := ∀ c ∈ code.toList, c.isUpper = true

instance (code : String) : Decidable (Capitals code) :=
  decidable_of_iff (code.toList.all Char.isUpper = true) List.all_eq_true

/-- What stands in the slug for a plain character. -/
def slugChar (c : Char) : Char := if asciiLower c = '/' then '-' else asciiLower c

/-- Characters of a counter with its sign, without the letter behind it. -/
def paddedChars (i : Int) : List Char := (paddedText 3 i).toList

theorem toList_slug {s : String} (plain : ∀ c ∈ s.toList, c.toNat < 128) :
    (slug s).toList = s.toList.map slugChar := by
  rw [slug, lower_eq_foldAscii plain, foldAscii, String.toList_ofList, String.toList_ofList,
    List.map_map]
  rfl

theorem slugChar_of_isUpper {c : Char} (h : c.isUpper = true) : slugChar c = asciiLower c := by
  have letter : asciiLower c ≠ '/' := by
    intro slash
    have code := toNat_asciiLower h
    rw [slash] at code
    have bounds := isUpper_iff.mp h
    simp at code
    omega
  rw [slugChar, if_neg letter]

theorem isNumeralChar_of_mem_paddedChars {i : Int} {c : Char} (h : c ∈ paddedChars i) :
    isNumeralChar c = true := by
  simp only [paddedChars, paddedText, String.toList_ofList, List.mem_append] at h
  rcases h with (sign | zero) | digit
  · split at sign
    · rw [List.mem_singleton.mp sign]
      rfl
    · cases sign
  · rw [List.eq_of_mem_replicate zero]
    rfl
  · simp [isNumeralChar, isDigit_of_mem_digits digit]

theorem numeralChar_lt {c : Char} (h : isNumeralChar c = true) : c.toNat < 65 := by
  rcases toNat_of_isNumeralChar h with digit | rfl
  · omega
  · decide

theorem slugChar_of_isNumeralChar {c : Char} (h : isNumeralChar c = true) : slugChar c = c := by
  have other : c ≠ '/' := by
    rintro rfl
    exact absurd h (by decide)
  rw [slugChar, asciiLower_of_lt (numeralChar_lt h), if_neg other]

theorem map_slugChar_paddedChars (i : Int) : (paddedChars i).map slugChar = paddedChars i :=
  (List.map_congr_left fun _ mem =>
    slugChar_of_isNumeralChar (isNumeralChar_of_mem_paddedChars mem)).trans (List.map_id _)

theorem toList_format_signed (code : String) (c : Counters) : (format code c).toList =
    code.toList ++ ("C501E/".toList ++ (paddedChars c.high ++ ("A/".toList ++
      (paddedChars c.low ++ "A".toList)))) := by
  simp [format, middle, counterText, paddedChars]

theorem format_plain {code : String} (capitals : Capitals code) (c : Counters) :
    ∀ ch ∈ (format code c).toList, ch.toNat < 128 := by
  have numerals : ∀ i, ∀ ch ∈ paddedChars i, ch.toNat < 128 := fun i ch mem => by
    have low := numeralChar_lt (isNumeralChar_of_mem_paddedChars mem)
    omega
  have letters : ∀ ch ∈ code.toList, ch.toNat < 128 := fun ch mem => by
    have bounds := isUpper_iff.mp (capitals ch mem)
    omega
  have fixed : ∀ s ∈ ["C501E/", "A/", "A"], ∀ ch ∈ s.toList, ch.toNat < 128 := by
    have all : ∀ s ∈ ["C501E/", "A/", "A"], s.toList.all (·.toNat < 128) = true := by decide
    exact fun s part ch mem => of_decide_eq_true (List.all_eq_true.mp (all s part) ch mem)
  intro ch mem
  simp only [toList_format_signed, List.mem_append] at mem
  rcases mem with code | middle | high | between | low | last
  · exact letters ch code
  · exact fixed "C501E/" (by decide) ch middle
  · exact numerals c.high ch high
  · exact fixed "A/" (by decide) ch between
  · exact numerals c.low ch low
  · exact fixed "A" (by decide) ch last

theorem toList_slug_format {code : String} (capitals : Capitals code) (c : Counters) :
    (slug (format code c)).toList = (code.toList.map asciiLower ++ ['c']) ++
      '5' :: ("01e-".toList ++ (paddedChars c.high ++
        'a' :: ('-' :: (paddedChars c.low ++ ['a'])))) := by
  have letters : code.toList.map slugChar = code.toList.map asciiLower :=
    List.map_congr_left fun ch mem => slugChar_of_isUpper (capitals ch mem)
  have fixed : "C501E/".toList.map slugChar = 'c' :: '5' :: "01e-".toList ∧
      "A/".toList.map slugChar = ['a', '-'] ∧ "A".toList.map slugChar = ['a'] := by decide
  rw [toList_slug (format_plain capitals c), toList_format_signed]
  simp only [List.map_append, letters, map_slugChar_paddedChars, fixed]
  simp

theorem eq_of_append_cons {a : Char} {xs ys rest rest' : List Char} (hx : a ∉ xs) (hy : a ∉ ys)
    (h : xs ++ a :: rest = ys ++ a :: rest') : xs = ys ∧ rest = rest' := by
  have length : xs.length = ys.length := by
    have first := congrArg (List.idxOf a) h
    rwa [List.idxOf_append_of_notMem hx, List.idxOf_append_of_notMem hy, List.idxOf_cons_self,
      List.idxOf_cons_self] at first
  obtain ⟨before, behind⟩ := List.append_inj h length
  exact ⟨before, (List.cons.inj behind).2⟩

theorem five_not_mem {code : String} (capitals : Capitals code) :
    '5' ∉ code.toList.map asciiLower ++ ['c'] := by
  intro mem
  rcases List.mem_append.mp mem with letter | last
  · obtain ⟨ch, mem, five⟩ := List.mem_map.mp letter
    have code := toNat_asciiLower (capitals ch mem)
    have bounds := isUpper_iff.mp (capitals ch mem)
    rw [five] at code
    simp at code
    omega
  · exact absurd last (by decide)

theorem a_not_mem (i : Int) : 'a' ∉ paddedChars i := fun mem =>
  absurd (isNumeralChar_of_mem_paddedChars mem) (by decide)

theorem format_eq_of_slug {code code' : String} {c c' : Counters} (capitals : Capitals code)
    (capitals' : Capitals code') (h : slug (format code c) = slug (format code' c')) :
    format code c = format code' c' := by
  have chars := congrArg String.toList h
  rw [toList_slug_format capitals, toList_slug_format capitals'] at chars
  -- The first five ends the code, the first small `a` behind it the high counter.
  obtain ⟨codes, chars⟩ := eq_of_append_cons (five_not_mem capitals) (five_not_mem capitals') chars
  obtain ⟨highs, chars⟩ :=
    eq_of_append_cons (a_not_mem c.high) (a_not_mem c'.high) (List.append_cancel_left chars)
  have lows : paddedChars c.low = paddedChars c'.low :=
    List.append_cancel_right (List.cons.inj chars).2
  have letters : code.toList = code'.toList :=
    map_asciiLower_injective capitals capitals' (List.append_cancel_right codes)
  refine String.toList_injective ?_
  rw [toList_format_signed, toList_format_signed, letters, highs, lows]

/-- `Counters.run` gives out `(n - 1) / 999` and `(n - 1) % 999 + 1` as the `n`-th counters, and
`Counters.after` returns greater counters than it is given. `format` is injective on codes and
counters that are not negative, for any text as a code; `slug` is injective on formatted numbers
whose codes consist of capitals. -/
theorem numbers_told_apart :
    (∀ m n : Nat, 1 ≤ n → n ≤ m → (Counters.run m none)[n - 1]? =
      some ⟨((n - 1) / 999 : Nat), ((n - 1) % 999 + 1 : Nat)⟩) ∧
    (∀ c : Counters, let next := Counters.after (some c)
      toLex (c.high, c.low) < toLex (next.high, next.low)) ∧
    (∀ (code code' : String) (c c' : Counters), 0 ≤ c.high → 0 ≤ c.low → 0 ≤ c'.high →
      0 ≤ c'.low → format code c = format code' c' → code = code' ∧ c = c') ∧
    (∀ (code code' : String) (c c' : Counters), Capitals code → Capitals code' →
      slug (format code c) = slug (format code' c') → format code c = format code' c') := by
  refine ⟨fun m n some most => ?_, Counters.lt_next, ?_, ?_⟩
  · have place : n - 1 < m := by omega
    have number : 0 + (n - 1) + 1 = n := by omega
    have given := Counters.run_left m 0
    rw [Counters.left] at given
    rw [given, List.getElem?_map, List.getElem?_range place, Option.map_some, number]
    rfl
  · intro code code' c c' high low high' low' same
    exact format_injective high low high' low' same
  · intro code code' c c' capitals capitals' same
    exact format_eq_of_slug capitals capitals' same

theorem numbers_told_apart_thousandth :
    (Counters.run 1000 none)[999]? = some ⟨1, 1⟩ ∧
    (toLex ((0, 999) : Int × Int) < toLex ((1, 1) : Int × Int)) ∧
    ("ANC501E/000A" = "ANC501E/000A" ∧ (⟨0, 1⟩ : Counters) = Counters.after none) ∧
    format "AN" ⟨0, 1⟩ = format "AN" (Counters.after none) :=
  ⟨numbers_told_apart.1 1000 1000 (by decide) (by decide), numbers_told_apart.2.1 ⟨0, 999⟩,
    numbers_told_apart.2.2.1 "ANC501E/000A" "ANC501E/000A" ⟨0, 1⟩ (Counters.after none) (by decide)
      (by decide) (by decide) (by decide) rfl,
    numbers_told_apart.2.2.2 "AN" "AN" ⟨0, 1⟩ (Counters.after none) (by decide) (by decide) rfl⟩

end FloodScheme.Reference
