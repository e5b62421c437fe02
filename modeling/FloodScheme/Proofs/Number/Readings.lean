import FloodScheme.Number.IntegerText
import FloodScheme.Proofs.Number.Plain
import FloodScheme.Proofs.Number.Trimmed

/-! The two readers of whole numbers in texts. The check of a field takes zeros of a fraction and
drops underscores wherever they stand; the plain reader takes the digits of every script. A text
that both can read is one number to both. -/
namespace FloodScheme.Number
open Text

def isNumberChar (c : Char) : Bool := isPlainChar c || c == '+' || c == '_'

theorem isNumberChar_of_isDigit {c : Char} (h : c.isDigit = true) : isNumberChar c = true := by
  simp [isNumberChar, isPlainChar, isNumeralChar, h]

theorem isNumberChar_cases {c : Char} (h : isNumberChar c = true) :
    isPlainChar c = true ∨ c = '+' ∨ c = '_' := by
  simpa [isNumberChar, or_assoc] using h

theorem isBlank_of_isNumberChar {c : Char} (h : isNumberChar c = true) : isBlank c = false := by
  rcases isNumberChar_cases h with plain | rfl | rfl
  · exact isBlank_of_isPlainChar plain
  · rfl
  · rfl

theorem isSpace_of_isNumberChar {c : Char} (h : isNumberChar c = true) : isSpace c = false :=
  (Bool.or_eq_false_iff.mp (isBlank_of_isNumberChar h)).1

theorem plainDigits_number {cs : List Char} (h : ∀ c ∈ cs, isNumberChar c = true) :
    plainDigits cs = cs := by
  have same : ∀ c ∈ cs, ((digit? c).map fun d => Char.ofNat (48 + d)).getD c = c := by
    intro c mem
    rcases isNumberChar_cases (h c mem) with plain | rfl | rfl
    · exact plain_of_isPlainChar plain
    · rfl
    · rfl
  exact (List.map_congr_left same).trans (List.map_id' cs)

/-- Value of a row of digits without its underscores. -/
def groupedValue (cs : List Char) : Nat := rowValue (cs.filter (· != '_'))

theorem groupedValue_of_digits {cs : List Char} (h : ∀ c ∈ cs, c.isDigit = true) :
    groupedValue cs = rowValue cs := by
  have kept : cs.filter (· != '_') = cs := by
    refine List.filter_eq_self.mpr fun c mem => bne_iff_ne.mpr ?_
    rintro rfl
    cases h _ mem
  rw [groupedValue, kept]

theorem groupedValue_cons {c : Char} (h : c = '0' ∨ c = '_') (cs : List Char) :
    groupedValue (c :: cs) = groupedValue cs := by
  rcases h with rfl | rfl
  · rw [groupedValue, List.filter_cons_of_pos (by decide), rowValue_cons]
    simp [groupedValue]
  · rw [groupedValue, List.filter_cons_of_neg (by decide), groupedValue]

theorem groupedValue_filter (cs : List Char) :
    groupedValue (cs.filter (· != '_')) = groupedValue cs := by
  rw [groupedValue, List.filter_filter]
  simp [groupedValue]

theorem asciiDigit?_eq_some {c : Char} {d : Nat} (h : asciiDigit? c = some d) :
    c.isDigit = true ∧ c.toNat - 48 = d ∧ c ≠ '_' := by
  unfold asciiDigit? at h
  split at h
  · next bounds =>
    refine ⟨isDigit_iff.mpr bounds, Option.some.inj h, ?_⟩
    rintro rfl
    exact absurd bounds (by decide)
  · cases h

theorem digit_of_grouped {c : Char} {rest : List Char} {ds : List Nat}
    (h : (do
      let d ← asciiDigit? c
      let ds ← groupedDigits rest
      pure (d :: ds)) = some ds) :
    c.isDigit = true ∧ c ≠ '_' ∧ ∃ ds', groupedDigits rest = some ds' ∧
      ds = (c.toNat - 48) :: ds' := by
  obtain ⟨d, found, h⟩ := Option.bind_eq_some_iff.mp h
  obtain ⟨ds', others, h⟩ := Option.bind_eq_some_iff.mp h
  obtain ⟨isDigit, rfl, other⟩ := asciiDigit?_eq_some found
  exact ⟨isDigit, other, ds', others, (Option.some.inj h).symm⟩

theorem codes_of_groupedDigits {cs : List Char} {ds : List Nat}
    (h : groupedDigits cs = some ds) :
    (∀ c ∈ cs, c.isDigit = true ∨ c = '_') ∧
      ds = (cs.filter (· != '_')).map fun c => c.toNat - 48 := by
  induction cs using groupedDigits.induct generalizing ds with
  | case1 => cases h
  | case2 c =>
    obtain ⟨d, found, rfl⟩ := Option.map_eq_some_iff.mp h
    obtain ⟨isDigit, rfl, other⟩ := asciiDigit?_eq_some found
    exact ⟨by simpa using .inl isDigit, by simp [other]⟩
  | case3 c rest ih =>
    rw [groupedDigits] at h
    obtain ⟨isDigit, other, ds', others, rfl⟩ := digit_of_grouped h
    obtain ⟨chars, rfl⟩ := ih others
    refine ⟨?_, by simp [other]⟩
    simpa using ⟨.inl isDigit, chars⟩
  | case4 c rest single grouped ih =>
    rw [groupedDigits] at h
    · obtain ⟨isDigit, other, ds', others, rfl⟩ := digit_of_grouped h
      obtain ⟨chars, rfl⟩ := ih others
      refine ⟨?_, by simp [other]⟩
      simpa using ⟨.inl isDigit, chars⟩
    · exact single
    · exact grouped

theorem groupedDigits_eq_some {cs : List Char} {ds : List Nat} (h : groupedDigits cs = some ds) :
    (∀ c ∈ cs, c.isDigit = true ∨ c = '_') ∧ valueOf ds = groupedValue cs := by
  obtain ⟨chars, rfl⟩ := codes_of_groupedDigits h
  exact ⟨chars, rfl⟩

theorem valueOf_lt_of_groupedDigits {cs : List Char} {ds : List Nat}
    (h : groupedDigits cs = some ds) : valueOf ds < 10 ^ ds.length := by
  obtain ⟨chars, rfl⟩ := codes_of_groupedDigits h
  have row : ∀ c ∈ cs.filter (· != '_'), c.isDigit = true := by
    intro c mem
    obtain ⟨inside, other⟩ := List.mem_filter.mp mem
    exact (chars c inside).resolve_right (by simpa using other)
  have bound := rowValue_lt row
  rwa [rowValue, ← List.length_map fun c : Char => c.toNat - 48] at bound

theorem length_of_readInteger? {s : String} {i : Int} (h : readInteger? s = some i) :
    (digits i.natAbs).length ≤ longestNumeral := by
  obtain ⟨ds, grouped, h⟩ := Option.bind_eq_some_iff.mp h
  split at h
  · next short =>
    obtain rfl := Option.some.inj h
    have magnitude (negative : Bool) (n : Nat) : (signed negative n).natAbs = n := by
      cases negative with
      | true => exact (Int.natAbs_neg _).trans (Int.natAbs_natCast n)
      | false => exact Int.natAbs_natCast n
    rw [magnitude]
    refine length_digits_le (by decide) ((valueOf_lt_of_groupedDigits grouped).trans_le ?_)
    exact Nat.pow_le_pow_right (by decide) short
  · cases h

namespace IntegerReading

theorem ofDigits_eq_value {negative : Bool} {cs : List Char} {n : Int}
    (h : ofDigits negative cs = value n) :
    cs ≠ [] ∧ (∀ c ∈ cs, c.isDigit = true) ∧ n = signed negative (rowValue cs) := by
  have whole : cs.dropWhile Char.isDigit = [] → cs.takeWhile Char.isDigit = cs ∧
      ∀ c ∈ cs, c.isDigit = true := by
    intro nothing
    have parts := List.takeWhile_append_dropWhile (p := Char.isDigit) (l := cs)
    rw [nothing, List.append_nil] at parts
    exact ⟨parts, fun c mem => List.mem_takeWhile_imp (parts.symm ▸ mem)⟩
  unfold ofDigits takeDigits at h
  split at h
  · cases h
  · next ds rest parts =>
    obtain ⟨codes, rfl⟩ := Prod.mk.inj parts
    split at h
    · next alone =>
      simp only [Bool.and_eq_true, List.isEmpty_iff] at alone
      obtain ⟨same, row⟩ := whole alone.2
      rw [same, alone.1] at codes
      cases h
      refine ⟨?_, row, ?_⟩
      · rintro rfl
        cases codes
      · rw [rowValue, codes]
        cases negative with
        | true => rfl
        | false => rfl
    · cases h
  · next ds rest some first parts =>
    obtain ⟨codes, rfl⟩ := Prod.mk.inj parts
    split at h
    · cases h
    · split at h
      · next last =>
        obtain ⟨same, row⟩ := whole (List.isEmpty_iff.mp last)
        rw [same] at codes
        cases h
        refine ⟨?_, row, by rw [rowValue, codes]⟩
        rintro rfl
        exact some codes.symm
      · cases h

theorem plain_eq_value {cs : List Char} {n : Int} (h : plain cs = value n) :
    ∃ negative ds, takeSign cs = (negative, ds) ∧ ds ≠ [] ∧ (∀ c ∈ ds, c.isDigit = true) ∧
      n = signed negative (rowValue ds) := by
  unfold plain at h
  split at h
  · next ds =>
    exact ⟨true, ds, rfl, ofDigits_eq_value h⟩
  · next unsigned =>
    obtain ⟨some, row, number⟩ := ofDigits_eq_value h
    refine ⟨false, cs, ?_, some, row, number⟩
    unfold takeSign
    split
    · next rest => exact absurd rfl (unsigned rest)
    · cases row '+' List.mem_cons_self
    · rfl

theorem dropZeros_spec {before : Char} {cs ds : List Char} (zero : before = '0' ∨ before = '_')
    (h : dropZeros before cs = some ds) :
    (∀ c ∈ before :: cs, c ∈ ds ∨ c = '0' ∨ c = '_') ∧ ds ⊆ before :: cs ∧
      groupedValue ds = groupedValue (before :: cs) := by
  induction cs generalizing before with
  | nil =>
    cases h
    exact ⟨fun c mem => .inl mem, List.Subset.refl _, rfl⟩
  | cons c rest ih =>
    rw [dropZeros] at h
    split at h
    · next more =>
      obtain ⟨chars, kept, value⟩ := ih more h
      refine ⟨?_, List.subset_cons_of_subset _ kept, ?_⟩
      · exact List.forall_mem_cons.mpr ⟨.inr zero, chars⟩
      · rw [value, groupedValue_cons zero]
    · split at h
      · cases h
        refine ⟨?_, List.subset_cons_self _ _, (groupedValue_cons zero _).symm⟩
        exact List.forall_mem_cons.mpr ⟨.inr zero, fun c mem => .inl mem⟩
      · split at h
        · cases h
          exact ⟨fun c mem => .inl mem, List.Subset.refl _, rfl⟩
        · cases h

theorem dropLeadingZeros_spec {cs ds : List Char} (h : dropLeadingZeros cs = some ds) :
    (∀ c ∈ cs, c ∈ ds ∨ c = '0' ∨ c = '_') ∧ ds ⊆ cs ∧ groupedValue ds = groupedValue cs := by
  cases cs with
  | nil => cases h
  | cons c rest =>
    rw [dropLeadingZeros] at h
    split at h
    · next zero =>
      subst zero
      exact dropZeros_spec (.inl rfl) h
    · split at h
      · cases h
        exact ⟨fun c mem => .inl mem, List.Subset.refl _, rfl⟩
      · cases h

theorem dropZeroFraction_chars (cs : List Char) :
    ∀ c ∈ cs, c ∈ dropZeroFraction cs ∨ c = '.' ∨ c = '0' := by
  unfold dropZeroFraction
  have parts := List.takeWhile_append_dropWhile (p := (· != '.')) (l := cs)
  split
  · next p d zeros behind =>
    split
    · next zero =>
      intro c mem
      rw [← parts, List.mem_append, behind] at mem
      rcases mem with front | back
      · exact .inl front
      · have point : (p != '.') = false := by
          have first := List.head?_dropWhile_not (· != '.') cs
          rw [behind] at first
          simpa using first
        rcases List.mem_cons.mp back with rfl | last
        · exact .inr (.inl (by simpa using point))
        · exact .inr (.inr (by simpa using List.all_eq_true.mp zero c last))
    · exact fun c mem => .inl mem
  · exact fun c mem => .inl mem

theorem dropZeroFraction_of_no_point {cs : List Char} (h : '.' ∉ cs) :
    dropZeroFraction cs = cs := by
  have nothing : cs.dropWhile (· != '.') = [] := by
    refine List.dropWhile_eq_nil_iff.mpr fun c mem => bne_iff_ne.mpr ?_
    rintro rfl
    exact h mem
  unfold dropZeroFraction
  rw [nothing]

theorem dropUnderscores_spec (cs : List Char) :
    (∀ c ∈ cs, c ∈ dropUnderscores cs ∨ c = '_') ∧ dropUnderscores cs ⊆ cs ∧
      groupedValue (dropUnderscores cs) = groupedValue cs := by
  unfold dropUnderscores
  split
  · exact ⟨fun c mem => .inl mem, List.Subset.refl _, rfl⟩
  · refine ⟨fun c mem => ?_, List.filter_sublist.subset, groupedValue_filter cs⟩
    by_cases line : c = '_'
    · exact .inr line
    · exact .inl (List.mem_filter.mpr ⟨mem, bne_iff_ne.mpr line⟩)

theorem takeSign_chars (cs : List Char) :
    ∀ c ∈ cs, c ∈ (takeSign cs).2 ∨ c = '-' ∨ c = '+' := by
  unfold takeSign
  split
  · exact List.forall_mem_cons.mpr ⟨.inr (.inl rfl), fun c mem => .inl mem⟩
  · exact List.forall_mem_cons.mpr ⟨.inr (.inr rfl), fun c mem => .inl mem⟩
  · exact fun c mem => .inl mem

theorem isNumberChar_of_signed {cs ds : List Char} {negative : Bool}
    (sign : takeSign cs = (negative, ds)) (row : ∀ c ∈ ds, c.isDigit = true) :
    ∀ c ∈ cs, isNumberChar c = true := by
  intro c mem
  rcases takeSign_chars cs c mem with own | rfl | rfl
  · rw [sign] at own
    exact isNumberChar_of_isDigit (row c own)
  · rfl
  · rfl

/-- A text that passes for the number `n` is made of the characters of numbers, and whatever digits
stand behind its sign are those of `n`. -/
structure Passes (cs : List Char) (n : Int) : Prop where
  nonempty : cs ≠ []
  chars : ∀ c ∈ cs, isNumberChar c = true
  number : ∀ ds, groupedDigits (takeSign cs).2 = some ds →
    n = signed (takeSign cs).1 (valueOf ds)

theorem passes_of_plain {cs : List Char} {n : Int} (h : plain cs = value n) :
    Passes (trimBy isSpace cs) n := by
  obtain ⟨negative, ds, sign, nonempty, row, rfl⟩ := plain_eq_value h
  have chars := isNumberChar_of_signed sign row
  have bare : trimBy isSpace cs = cs :=
    trimBy_eq fun c mem => isSpace_of_isNumberChar (chars c mem)
  rw [bare]
  refine ⟨?_, chars, fun codes grouped => ?_⟩
  · rintro rfl
    exact nonempty (Prod.mk.inj sign).2.symm
  · rw [sign] at grouped ⊢
    rw [(groupedDigits_eq_some grouped).2, groupedValue_of_digits row]

/-- What is left of a text behind its sign. -/
def tidyNumber (ds : List Char) : List Char := dropUnderscores (dropZeroFraction ds)

theorem tidied?_eq (cs : List Char) : tidied? cs =
    (dropLeadingZeros (takeSign (trimBy isSpace cs)).2).map fun ds =>
      if (takeSign (trimBy isSpace cs)).1 then '-' :: tidyNumber ds else tidyNumber ds := by
  unfold tidied?
  generalize takeSign (trimBy isSpace cs) = parts
  obtain ⟨negative, rest⟩ := parts
  cases dropped : dropLeadingZeros rest with
  | none => simp only [dropped]; rfl
  | some ds => simp only [dropped]; rfl

theorem tidyNumber_chars {rest ds : List Char} (dropped : dropLeadingZeros rest = some ds) :
    ∀ c ∈ rest, c ∈ tidyNumber ds ∨ c = '0' ∨ c = '_' ∨ c = '.' := by
  intro c mem
  rcases (dropLeadingZeros_spec dropped).1 c mem with inside | zero | line
  · rcases dropZeroFraction_chars ds c inside with inside | point | zero
    · rcases (dropUnderscores_spec (dropZeroFraction ds)).1 c inside with inside | line
      · exact .inl inside
      · exact .inr (.inr (.inl line))
    · exact .inr (.inr (.inr point))
    · exact .inr (.inl zero)
  · exact .inr (.inl zero)
  · exact .inr (.inr (.inl line))

theorem tidyNumber_of_grouped {rest ds : List Char} (dropped : dropLeadingZeros rest = some ds)
    {codes : List Nat} (grouped : groupedDigits rest = some codes) :
    takeSign (tidyNumber ds) = (false, tidyNumber ds) ∧
      groupedValue (tidyNumber ds) = valueOf codes := by
  obtain ⟨-, inside, value⟩ := dropLeadingZeros_spec dropped
  obtain ⟨row, codesValue⟩ := groupedDigits_eq_some grouped
  have whole : dropZeroFraction ds = ds := dropZeroFraction_of_no_point fun point => by
    rcases row '.' (inside point) with digit | line
    · cases digit
    · cases line
  obtain ⟨-, inside', value'⟩ := dropUnderscores_spec ds
  rw [tidyNumber, whole]
  refine ⟨?_, by rw [value', value, codesValue]⟩
  have first : ∀ c ∈ dropUnderscores ds, c.isDigit = true ∨ c = '_' := fun c mem =>
    row c (inside (inside' mem))
  unfold takeSign
  split
  · next same => rcases first '-' (same ▸ List.mem_cons_self) with digit | line <;> contradiction
  · next same => rcases first '+' (same ▸ List.mem_cons_self) with digit | line <;> contradiction
  · rfl

theorem passes_of_tidied {cs tidy : List Char} {n : Int} (tidied : tidied? cs = some tidy)
    (h : plain tidy = value n) : Passes (trimBy isSpace cs) n := by
  rw [tidied?_eq] at tidied
  obtain ⟨ds, dropped, rfl⟩ := Option.map_eq_some_iff.mp tidied
  generalize trimBy isSpace cs = body at dropped h ⊢
  obtain ⟨negative, row, sign, -, digits, rfl⟩ := plain_eq_value h
  -- the sign that was taken off is put back, or a minus sign stood behind zeros
  have parts : (takeSign body).1 = true ∧ negative = true ∧ row = tidyNumber ds ∨
      (takeSign body).1 = false ∧ takeSign (tidyNumber ds) = (negative, row) := by
    cases taken : (takeSign body).1 with
    | true =>
      rw [taken] at sign
      obtain ⟨rfl, rfl⟩ := Prod.mk.inj sign
      exact .inl ⟨rfl, rfl, rfl⟩
    | false =>
      rw [taken] at sign
      exact .inr ⟨rfl, sign⟩
  have number : ∀ c ∈ tidyNumber ds, isNumberChar c = true := by
    rcases parts with ⟨-, -, rfl⟩ | ⟨-, same⟩
    · exact fun c mem => isNumberChar_of_isDigit (digits c mem)
    · exact isNumberChar_of_signed same digits
  refine ⟨?_, fun c mem => ?_, fun codes grouped => ?_⟩
  · rintro rfl
    cases dropped
  · rcases takeSign_chars body c mem with inside | rfl | rfl
    · rcases tidyNumber_chars dropped c inside with inside | rfl | rfl | rfl
      · exact number c inside
      · rfl
      · rfl
      · rfl
    · rfl
    · rfl
  · obtain ⟨unsigned, value⟩ := tidyNumber_of_grouped dropped grouped
    rcases parts with ⟨taken, rfl, rfl⟩ | ⟨taken, same⟩
    · rw [taken, ← value, groupedValue_of_digits digits]
    · obtain ⟨rfl, rfl⟩ := Prod.mk.inj (unsigned.symm.trans same)
      rw [taken, ← value, groupedValue_of_digits digits]

theorem passes_of_read {cs : List Char} {n : Int} (h : read cs = value n) :
    Passes (trimBy isSpace cs) n := by
  unfold read at h
  split at h
  · next tidied =>
    obtain ⟨tidy, same, number⟩ := Option.map_eq_some_iff.mp tidied
    cases h
    exact passes_of_tidied same number
  · cases h
  · exact passes_of_plain h

end IntegerReading

variable {s : String} {n m : Int}

theorem eq_of_readInteger? (read : IntegerReading.read s.toList = .value n)
    (plain : readInteger? s = some m) : m = n := by
  have passes := IntegerReading.passes_of_read read
  unfold readInteger? at plain
  rw [plainDigits_number passes.chars] at plain
  obtain ⟨ds, grouped, number⟩ := Option.bind_eq_some_iff.mp plain
  rw [passes.number ds grouped]
  split at number
  · exact (Option.some.inj number).symm
  · cases number

theorem trim_of_read (read : IntegerReading.read s.toList = .value n) :
    (trim s).toList = trimBy isSpace s.toList := by
  obtain ⟨nonempty, chars, -⟩ := IntegerReading.passes_of_read read
  obtain ⟨before, behind, parts, first, last⟩ := trimBy_parts isSpace s.toList
  have ends : EndsOutside isBlank (trimBy isSpace s.toList) := by
    refine ⟨⟨_, List.head?_eq_some_head nonempty, ?_⟩,
      _, List.getLast?_eq_some_getLast nonempty, ?_⟩
    · exact isBlank_of_isNumberChar (chars _ (List.head_mem nonempty))
    · exact isBlank_of_isNumberChar (chars _ (List.getLast_mem nonempty))
  conv_lhs => rw [trim, String.toList_ofList, parts]
  exact trimBy_append (fun c mem => isBlank_of_isSpace (first c mem)) ends
    fun c mem => isBlank_of_isSpace (last c mem)

theorem readInteger?_trim_of_read (read : IntegerReading.read s.toList = .value n) :
    readInteger? (trim s) = readInteger? s := by
  have chars := (IntegerReading.passes_of_read read).chars
  have bare : trimBy isSpace (trimBy isSpace s.toList) = trimBy isSpace s.toList :=
    trimBy_eq fun c mem => isSpace_of_isNumberChar (chars c mem)
  rw [readInteger?, readInteger?, trim_of_read read, bare]

end FloodScheme.Number

namespace FloodScheme.Value
open Number

theorem key?_int_of_key? {v : Value} {i : Int} (h : v.key? = some i) : (int i).key? = some i := by
  rw [key?_int, if_pos (length_of_readInteger? h)]

end FloodScheme.Value
