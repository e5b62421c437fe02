import FloodScheme.Number.Digits
import Mathlib.Data.List.DropRight

/-! Blanks around whole numbers. A text that reads as a whole number has nothing but white space
around it, so that it reads the same once every blank is trimmed. -/
namespace FloodScheme.Text

/-- Ends that do not belong to a set of characters. -/
def EndsOutside (p : Char → Bool) (cs : List Char) : Prop :=
  (∃ c, cs.head? = some c ∧ p c = false) ∧ ∃ c, cs.getLast? = some c ∧ p c = false

theorem trimBy_parts (p : Char → Bool) (cs : List Char) :
    ∃ before behind, cs = before ++ trimBy p cs ++ behind ∧
      (∀ c ∈ before, p c = true) ∧ ∀ c ∈ behind, p c = true := by
  refine ⟨cs.takeWhile p, (cs.dropWhile p).rtakeWhile p, ?_, ?_, ?_⟩
  · have back : trimBy p cs ++ (cs.dropWhile p).rtakeWhile p = cs.dropWhile p :=
      List.rdropWhile_append_rtakeWhile
    rw [List.append_assoc, back, List.takeWhile_append_dropWhile]
  · exact fun c hc => List.mem_takeWhile_imp hc
  · exact fun c hc => List.mem_rtakeWhile_imp hc

theorem trimBy_append {p : Char → Bool} {before cs behind : List Char}
    (first : ∀ c ∈ before, p c = true) (ends : EndsOutside p cs)
    (last : ∀ c ∈ behind, p c = true) : trimBy p (before ++ cs ++ behind) = cs := by
  obtain ⟨⟨c, head, out⟩, d, final, out'⟩ := ends
  have front : (before ++ cs ++ behind).dropWhile p = cs ++ behind := by
    obtain ⟨rest, rfl⟩ := List.head?_eq_some_iff.mp head
    rw [List.append_assoc, List.dropWhile_append_of_pos first, List.cons_append,
      List.dropWhile_cons_of_neg (by simp [out])]
  have back : (behind.reverse ++ cs.reverse).dropWhile p = cs.reverse := by
    obtain ⟨start, rfl⟩ := List.getLast?_eq_some_iff.mp final
    rw [List.dropWhile_append_of_pos (by simpa using last), List.reverse_append,
      List.reverse_singleton, List.singleton_append, List.dropWhile_cons_of_neg (by simp [out'])]
  rw [trimBy, front, List.reverse_append, back, List.reverse_reverse]

theorem EndsOutside.trimBy {p : Char → Bool} {cs : List Char} (ends : EndsOutside p cs) :
    trimBy p cs = cs := by
  have bare : Text.trimBy p ([] ++ cs ++ []) = cs := trimBy_append (by simp) ends (by simp)
  simpa using bare

theorem EndsOutside.mono {p q : Char → Bool} {cs : List Char} (ends : EndsOutside q cs)
    (inside : ∀ c, p c = true → q c = true) : EndsOutside p cs := by
  have outside : ∀ c, q c = false → p c = false := fun c out =>
    Bool.eq_false_iff.mpr fun h => by simp [inside c h] at out
  obtain ⟨⟨c, head, out⟩, d, final, out'⟩ := ends
  exact ⟨⟨c, head, outside c out⟩, d, final, outside d out'⟩

theorem allBlank_eq_false {s : String} (h : trim s ≠ "") : allBlank s = false := by
  refine Bool.eq_false_iff.mpr fun blank => h ?_
  have nothing : s.toList.dropWhile isBlank = [] :=
    List.dropWhile_eq_nil_iff.mpr (List.all_eq_true.mp blank)
  rw [trim, FloodScheme.Text.trimBy, nothing]
  rfl

theorem zeroDigits_apart : ∀ z ∈ zeroDigits,
    z = 48 ∨ 1632 ≤ z ∧ z + 10 ≤ 5760 ∨ 5761 ≤ z ∧ z + 10 ≤ 8192 ∨ 12289 ≤ z := by decide

theorem isBlank_of_digit? {c : Char} {d : Nat} (h : digit? c = some d) : isBlank c = false := by
  have code : 48 ≤ c.toNat ∧ c.toNat ≤ 57 ∨ 1632 ≤ c.toNat ∧ c.toNat < 5760 ∨
      5761 ≤ c.toNat ∧ c.toNat < 8192 ∨ 12289 ≤ c.toNat := by
    unfold digit? at h
    split at h
    · unfold asciiDigit? at h
      split at h
      · next ascii => exact .inl ascii
      · cases h
    · next high =>
      obtain ⟨z, found, -⟩ := Option.map_eq_some_iff.mp h
      have near := List.find?_some found
      simp only [Bool.and_eq_true, decide_eq_true_eq] at near
      have place := zeroDigits_apart z (List.mem_of_find?_eq_some found)
      omega
  simp only [isBlank, isSpace, Bool.or_eq_false_iff, Bool.and_eq_false_iff, beq_eq_false_iff_ne,
    decide_eq_false_iff_not]
  omega

end FloodScheme.Text

namespace FloodScheme.Number
open Text

theorem ends_of_groupedDigits {cs : List Char} {ds : List Nat}
    (h : groupedDigits cs = some ds) : EndsOutside isBlank cs := by
  have digit {c : Char} {d : Nat} (h : asciiDigit? c = some d) : isBlank c = false := by
    refine isBlank_of_digit? (d := d) ?_
    have low : c.toNat < 128 := by
      unfold asciiDigit? at h
      split at h
      · next ascii => omega
      · cases h
    rw [digit?, if_pos low, h]
  have longer (before : List Char) {c : Char} {rest : List Char} (out : isBlank c = false)
      (ends : EndsOutside isBlank rest) : EndsOutside isBlank (c :: before ++ rest) := by
    obtain ⟨-, d, final, out'⟩ := ends
    refine ⟨⟨c, rfl, out⟩, d, ?_, out'⟩
    rw [List.getLast?_append, final]
    rfl
  induction cs using groupedDigits.induct generalizing ds with
  | case1 => cases h
  | case2 c =>
    obtain ⟨d, found, -⟩ := Option.map_eq_some_iff.mp h
    exact ⟨⟨c, rfl, digit found⟩, c, rfl, digit found⟩
  | case3 c rest ih =>
    rw [groupedDigits] at h
    obtain ⟨d, found, h⟩ := Option.bind_eq_some_iff.mp h
    obtain ⟨ds', others, -⟩ := Option.bind_eq_some_iff.mp h
    exact longer ['_'] (digit found) (ih others)
  | case4 c rest single grouped ih =>
    rw [groupedDigits] at h
    · obtain ⟨d, found, h⟩ := Option.bind_eq_some_iff.mp h
      obtain ⟨ds', others, -⟩ := Option.bind_eq_some_iff.mp h
      exact longer [] (digit found) (ih others)
    · exact single
    · exact grouped

theorem ends_of_takeSign {cs : List Char}
    (ends : EndsOutside isBlank (takeSign cs).2) : EndsOutside isBlank cs := by
  have signed {c : Char} {rest : List Char} (out : isBlank c = false)
      (ends : EndsOutside isBlank rest) : EndsOutside isBlank (c :: rest) := by
    obtain ⟨⟨b, head, -⟩, d, final, out'⟩ := ends
    refine ⟨⟨c, rfl, out⟩, d, ?_, out'⟩
    obtain ⟨others, rfl⟩ := List.head?_eq_some_iff.mp head
    rw [List.getLast?_cons_cons, final]
  unfold takeSign at ends
  split at ends
  · exact signed (by decide) ends
  · exact signed (by decide) ends
  · exact ends

theorem ends_of_plainDigits {cs : List Char} (ends : EndsOutside isBlank (plainDigits cs)) :
    EndsOutside isBlank cs := by
  have plain {c : Char}
      (out : isBlank (((digit? c).map fun d => Char.ofNat (48 + d)).getD c) = false) :
      isBlank c = false := by
    cases found : digit? c with
    | none => simpa [found] using out
    | some d => exact isBlank_of_digit? found
  obtain ⟨⟨c, head, out⟩, d, final, out'⟩ := ends
  rw [plainDigits, List.head?_map] at head
  rw [plainDigits, List.getLast?_map] at final
  obtain ⟨c', head', rfl⟩ := Option.map_eq_some_iff.mp head
  obtain ⟨d', final', rfl⟩ := Option.map_eq_some_iff.mp final
  exact ⟨⟨c', head', plain out⟩, d', final', plain out'⟩

theorem readInteger?_trim {s : String} {i : Int} (h : readInteger? s = some i) :
    readInteger? (trim s) = some i ∧ trim s ≠ "" := by
  have ends : EndsOutside isBlank (trimBy isSpace s.toList) := by
    obtain ⟨ds, grouped, -⟩ := Option.bind_eq_some_iff.mp h
    exact ends_of_plainDigits (ends_of_takeSign (ends_of_groupedDigits grouped))
  obtain ⟨before, behind, parts, first, last⟩ := trimBy_parts isSpace s.toList
  have trimmed : (trim s).toList = trimBy isSpace s.toList := by
    conv_lhs => rw [trim, String.toList_ofList, parts]
    exact trimBy_append (fun c hc => isBlank_of_isSpace (first c hc)) ends
      fun c hc => isBlank_of_isSpace (last c hc)
  constructor
  · rw [← h, readInteger?, readInteger?, trimmed,
      (ends.mono fun _ => isBlank_of_isSpace).trimBy]
  · intro empty
    rw [empty] at trimmed
    obtain ⟨⟨c, head, -⟩, -⟩ := ends
    rw [← trimmed] at head
    cases head

end FloodScheme.Number
