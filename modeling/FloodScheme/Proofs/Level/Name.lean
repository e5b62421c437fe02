import FloodScheme.Proofs.Level.Accepted
import FloodScheme.Proofs.Number.Trimmed
import FloodScheme.Proofs.Text.Case
import FloodScheme.Store.Lookup

/-! Names that pass their check. They are made of plain characters, so that the search for a name
and the index on names read one without white space around it alike. -/
namespace FloodScheme

namespace Text

theorem admits_of_matchesRun {k : CharClass} {least : Nat} {most : Option Nat} {cs : List Char}
    (h : matchesRun k (matchesHere true []) least most cs = true) :
    ∀ c ∈ cs, k.admits c = true := by
  induction cs generalizing least most with
  | nil => simp
  | cons c rest ih =>
    rw [matchesRun, Bool.or_eq_true, Bool.and_eq_true, Bool.and_eq_true] at h
    rcases h with ⟨⟨-, first⟩, others⟩ | stop
    · exact List.forall_mem_cons.mpr ⟨first, ih others⟩
    · simp [matchesHere] at stop

/-- Letters and digits, blanks, underscores and dashes. -/
def nameChars : CharClass :=
  ⟨[('A', 'Z'), ('a', 'z'), ('0', '9'), (' ', ' '), ('_', '_'), ('-', '-')], false⟩

theorem read?_namePattern :
    Pattern.read? Catalogue.namePattern = some ⟨[⟨nameChars, 1, none⟩], true, true⟩ := by
  decide

theorem nameChars_plain {c : Char} (h : nameChars.admits c = true) :
    c.toNat < 128 ∧ isBlank c = isSpace c := by
  have code : 65 ≤ c.toNat ∧ c.toNat ≤ 90 ∨ 97 ≤ c.toNat ∧ c.toNat ≤ 122 ∨
      48 ≤ c.toNat ∧ c.toNat ≤ 57 ∨ c.toNat = 32 ∨ c.toNat = 95 ∨ c.toNat = 45 := by
    simp [nameChars, CharClass.admits] at h
    omega
  refine ⟨by omega, ?_⟩
  have apart : (0x1C ≤ c.toNat && c.toNat ≤ 0x1F) = false := by
    simp only [Bool.and_eq_false_iff, decide_eq_false_iff_not]
    omega
  rw [isBlank, apart, Bool.or_false]

theorem dropWhile_congr {p q : Char → Bool} {cs : List Char} (same : ∀ c ∈ cs, p c = q c) :
    cs.dropWhile p = cs.dropWhile q := by
  induction cs with
  | nil => rfl
  | cons c rest ih =>
    obtain ⟨first, others⟩ := List.forall_mem_cons.mp same
    rw [List.dropWhile_cons, List.dropWhile_cons, first, ih others]

theorem trimBy_congr {p q : Char → Bool} {cs : List Char} (same : ∀ c ∈ cs, p c = q c) :
    trimBy p cs = trimBy q cs := by
  have back : ∀ c ∈ (cs.dropWhile q).reverse, p c = q c := fun c hc =>
    same c ((List.dropWhile_sublist q).subset (List.mem_reverse.mp hc))
  rw [trimBy, trimBy, dropWhile_congr same, dropWhile_congr back]

end Text

open Text

theorem name_check (v : Value) :
    Catalogue.name.check v = problemOf (checkText Catalogue.name) (Reading.text v) := rfl

theorem searchedName_of_check {s : String} (checked : Catalogue.name.check (.text s) = none)
    (bare : trimSpace s = s) :
    allBlank s = false ∧ Database.searchedName s = foldAscii s := by
  rw [name_check] at checked
  obtain ⟨_, read, text⟩ := problemOf_eq_none.mp checked
  cases read
  obtain ⟨long, -, matched⟩ := checkText_eq_none.mp text
  have said : trimSpace s ≠ "" := by
    intro empty
    rw [empty] at long
    exact absurd long (by decide)
  have matched : matchesPattern Catalogue.namePattern (trimSpace s) = true := matched _ rfl
  rw [bare] at said matched
  rw [matchesPattern, read?_namePattern] at matched
  have chars : ∀ c ∈ s.toList, nameChars.admits c = true := admits_of_matchesRun matched
  have trimmed : trim s = s := by
    rw [trim, trimBy_congr fun c hc => (nameChars_plain (chars c hc)).2]
    exact bare
  constructor
  · exact allBlank_eq_false (by rw [trimmed]; exact said)
  · rw [Database.searchedName, trimmed]
    exact lower_eq_foldAscii fun c hc => (nameChars_plain (chars c hc)).1

end FloodScheme
