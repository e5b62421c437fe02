import FloodScheme.Level.Catalogue
import FloodScheme.Proofs.Number.Trimmed
import FloodScheme.Proofs.Reference.Parts
import FloodScheme.Proofs.Rule.Admits

/-! Reference numbers against the pattern of their rule. The pattern has a fixed length, so a text
is compared with it character by character; the code and the counters may be longer than the pattern
allows. -/
namespace FloodScheme
open Number

namespace Text

def Belongs (k : CharClass) (c : Char) : Prop := k.admits c = true

instance (k : CharClass) (c : Char) : Decidable (Belongs k c) :=
  inferInstanceAs (Decidable (k.admits c = true))

theorem belongs_iff {k : CharClass} (plain : k.negated = false) {c : Char} :
    Belongs k c ↔ ∃ r ∈ k.ranges, r.1.toNat ≤ c.toNat ∧ c.toNat ≤ r.2.toNat := by
  simp [Belongs, CharClass.admits, plain]

/-- The class of each character in turn. -/
def classes (ps : List Piece) : List CharClass :=
  ps.flatMap fun p => List.replicate p.least p.letters

theorem matchesRun_exact {k : CharClass} {next : List Char → Bool} {ks : List CharClass}
    (then_ : ∀ cs, next cs = true ↔ List.Forall₂ Belongs ks cs) (n : Nat) (cs : List Char) :
    matchesRun k next n (some n) cs = true ↔
      List.Forall₂ Belongs (List.replicate n k ++ ks) cs := by
  induction n generalizing cs with
  | zero =>
    have direct : matchesRun k next 0 (some 0) cs = next cs := by
      cases cs with
      | nil => simp [matchesRun]
      | cons c rest => simp [matchesRun]
    rw [direct, then_]
    rfl
  | succ n ih =>
    cases cs with
    | nil => simp [matchesRun, List.replicate_succ]
    | cons c rest =>
      rw [List.replicate_succ, List.cons_append, List.forall₂_cons, ← ih rest]
      simp [matchesRun, Belongs]

theorem matchesHere_exact {ps : List Piece} (exact : ∀ p ∈ ps, p.most = some p.least)
    (cs : List Char) :
    matchesHere true ps cs = true ↔ List.Forall₂ Belongs (classes ps) cs := by
  induction ps generalizing cs with
  | nil => simp [matchesHere, classes]
  | cons p ps ih =>
    obtain ⟨own, others⟩ := List.forall_mem_cons.mp exact
    rw [matchesHere, own]
    exact matchesRun_exact (ih others) p.least cs

end Text

namespace Reference
open Text

def capital : CharClass := ⟨[('A', 'Z')], false⟩

def digit : CharClass := ⟨[('0', '9')], false⟩

def pieces : List Piece :=
  [⟨capital, 2, some 2⟩, ⟨.one 'C', 1, some 1⟩, ⟨.one '5', 1, some 1⟩, ⟨.one '0', 1, some 1⟩,
    ⟨.one '1', 1, some 1⟩, ⟨.one 'E', 1, some 1⟩, ⟨.one '/', 1, some 1⟩, ⟨digit, 3, some 3⟩,
    ⟨.one 'A', 1, some 1⟩, ⟨.one '/', 1, some 1⟩, ⟨digit, 3, some 3⟩, ⟨.one 'A', 1, some 1⟩]

theorem read?_referencePattern :
    Pattern.read? Catalogue.referencePattern = some ⟨pieces, true, true⟩ := by decide

theorem matchesPattern_iff {s : String} : matchesPattern Catalogue.referencePattern s = true ↔
    List.Forall₂ Belongs (classes pieces) s.toList := by
  rw [matchesPattern, read?_referencePattern]
  exact matchesHere_exact (by decide) s.toList

/-- Two capitals, as the pattern asks of a code. -/
def TwoCapitals (code : String) : Prop :=
  ∃ a b : Char, code.toList = [a, b] ∧ Belongs capital a ∧ Belongs capital b

theorem toList_format (code : String) {c : Counters} (high : 0 ≤ c.high) (low : 0 ≤ c.low) :
    (format code c).toList = code.toList ++ (['C', '5', '0', '1', 'E', '/'] ++
      (counterChars c.high.natAbs ++ (['A', '/'] ++ (counterChars c.low.natAbs ++ ['A'])))) := by
  simp only [format, String.toList_append, toList_counterText high, toList_counterText low]
  simp [middle]

theorem belongs_digit {c : Char} (h : c.isDigit = true) : Belongs digit c := by
  simp only [Char.isDigit, Bool.and_eq_true, decide_eq_true_eq] at h
  exact (belongs_iff rfl).mpr ⟨('0', '9'), List.mem_singleton_self _,
    UInt32.le_iff_toNat_le.mp h.1, UInt32.le_iff_toNat_le.mp h.2⟩

theorem length_counterChars_le {n : Nat} : (counterChars n).length = 3 ↔ n < 1000 := by
  have short := Nat.length_toDigits_le_iff (b := 10) (n := n) (k := 3) (by decide) (by decide)
  rw [counterChars, List.length_append, List.length_replicate, digits]
  omega

theorem counterChars_eq {n : Nat} (small : n < 1000) :
    ∃ x y z, counterChars n = [x, y, z] ∧ Belongs digit x ∧ Belongs digit y ∧ Belongs digit z := by
  obtain ⟨x, y, z, same⟩ := List.length_eq_three.mp (length_counterChars_le.mpr small)
  have own : ∀ c ∈ [x, y, z], Belongs digit c := fun c mem =>
    belongs_digit (isDigit_of_mem_counterChars (same ▸ mem))
  exact ⟨x, y, z, same, by simpa using own⟩

theorem length_counterChars (n : Nat) : 3 ≤ (counterChars n).length := by
  rw [counterChars, List.length_append, List.length_replicate]
  omega

theorem twoCapitals_of_matches {code : String} {high low : List Char} (first : 3 ≤ high.length)
    (last : low.length = 3)
    (h : List.Forall₂ Belongs (classes pieces) (code.toList ++ (['C', '5', '0', '1', 'E', '/'] ++
      (high ++ (['A', '/'] ++ (low ++ ['A'])))))) :
    TwoCapitals code ∧ high.length = 3 := by
  have sizes : 17 = _ := h.length_eq
  simp only [List.length_append, List.length_cons, List.length_nil] at sizes
  change List.Forall₂ Belongs (capital :: capital :: CharClass.one 'C' :: _) _ at h
  match letters : code.toList with
  | [] =>
    rw [letters] at h
    exact absurd (List.forall₂_cons.mp (List.forall₂_cons.mp h).2).1 (by decide)
  | [a] =>
    rw [letters] at h
    have third := (List.forall₂_cons.mp (List.forall₂_cons.mp (List.forall₂_cons.mp h).2).2).1
    exact absurd third (by decide)
  | a :: b :: rest =>
    rw [letters] at h sizes
    simp only [List.length_cons] at sizes
    obtain rfl : rest = [] := List.eq_nil_of_length_eq_zero (by omega)
    obtain ⟨ha, h⟩ := List.forall₂_cons.mp h
    exact ⟨⟨a, b, letters, ha, (List.forall₂_cons.mp h).1⟩, by simp at sizes; omega⟩

theorem matches_of_twoCapitals {code : String} {high low : Nat} (plain : TwoCapitals code)
    (first : high < 1000) (last : low < 1000) :
    List.Forall₂ Belongs (classes pieces) (code.toList ++ (['C', '5', '0', '1', 'E', '/'] ++
      (counterChars high ++ (['A', '/'] ++ (counterChars low ++ ['A']))))) := by
  obtain ⟨a, b, letters, ha, hb⟩ := plain
  obtain ⟨x, y, z, highs, hx, hy, hz⟩ := counterChars_eq first
  obtain ⟨u, v, w, lows, hu, hv, hw⟩ := counterChars_eq last
  have one (c : Char) : Belongs (.one c) c := by simp [Belongs, CharClass.one, CharClass.admits]
  rw [letters, highs, lows]
  exact .cons ha <| .cons hb <| .cons (one _) <| .cons (one _) <| .cons (one _) <|
    .cons (one _) <| .cons (one _) <| .cons (one _) <| .cons hx <| .cons hy <| .cons hz <|
    .cons (one _) <| .cons (one _) <| .cons hu <| .cons hv <| .cons hw <| .cons (one _) .nil

theorem matches_format_nth {code : String} {n : Nat} :
    matchesPattern Catalogue.referencePattern (format code (.nth (n + 1))) = true ↔
      TwoCapitals code ∧ n < 999000 := by
  obtain ⟨high, low⟩ := Counters.nth_nonneg (n + 1)
  have highs : (Counters.nth (n + 1)).high.natAbs = n / 999 := rfl
  have lows : (Counters.nth (n + 1)).low.natAbs = n % 999 + 1 := rfl
  have short : n % 999 + 1 < 1000 := by omega
  rw [matchesPattern_iff, toList_format code high low, highs, lows]
  constructor
  · intro h
    obtain ⟨plain, three⟩ := twoCapitals_of_matches (length_counterChars _)
      (length_counterChars_le.mpr short) h
    have few := length_counterChars_le.mp three
    exact ⟨plain, by omega⟩
  · rintro ⟨plain, few⟩
    exact matches_of_twoCapitals plain (by omega) short

theorem isSpace_of_belongs {k : CharClass} (known : k ∈ classes pieces) {c : Char}
    (h : Belongs k c) : isSpace c = false := by
  have bounds : ∀ k ∈ classes pieces, k.negated = false ∧
      ∀ r ∈ k.ranges, 47 ≤ r.1.toNat ∧ r.2.toNat ≤ 90 := by decide
  obtain ⟨plain, ranges⟩ := bounds k known
  obtain ⟨r, mem, low, high⟩ := (belongs_iff plain).mp h
  have := ranges r mem
  simp [isSpace]
  omega

theorem ends_of_matches {cs : List Char} (h : List.Forall₂ Belongs (classes pieces) cs) :
    EndsOutside isSpace cs := by
  have letters : ∀ c ∈ cs, isSpace c = false := by
    intro c mem
    obtain ⟨i, hi, rfl⟩ := List.mem_iff_getElem.mp mem
    have size := h.length_eq
    exact isSpace_of_belongs (List.getElem_mem (by omega)) (h.get (by omega) hi)
  have some : cs ≠ [] := by
    rintro rfl
    exact absurd h.length_eq (by decide)
  exact ⟨⟨cs.head some, List.head?_eq_some_head some, letters _ (List.head_mem some)⟩,
    cs.getLast some, List.getLast?_eq_some_getLast some, letters _ (List.getLast_mem some)⟩

theorem check_of_matches {s : String} (h : matchesPattern Catalogue.referencePattern s = true) :
    Catalogue.referenceNumber.check (.text s) = none := by
  have letters := matchesPattern_iff.mp h
  have bare : trimSpace s = s := by
    rw [trimSpace, (ends_of_matches letters).trimBy, String.ofList_toList]
  refine Rule.check_eq_none_iff.mpr ⟨s, rfl, ?_, fun _ => ?_⟩
  · intro choices chosen
    cases chosen
  · rw [Rule.FitsText, bare]
    refine ⟨?_, ?_, ?_⟩
    · have size : 17 = s.length := letters.length_eq
      omega
    · intro n limited
      cases limited
    · rintro p ⟨⟩
      exact h

end Reference
end FloodScheme
