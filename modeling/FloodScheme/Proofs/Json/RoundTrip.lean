import FloodScheme.Json
import FloodScheme.Json.Write
import FloodScheme.Proofs.Number.Plain

/-! JSON that is written is read back, for values without fractions. -/
namespace FloodScheme.Json
open Number

attribute [local simp] readText readValue readItems readMembers
attribute [local simp] written writtenItems writtenMembers

theorem hexDigit?_digitChar : ∀ n < 16, hexDigit? (Nat.digitChar n) = some n := by decide

theorem hexCode?_escapedUnit {n : Nat} (h : n < 0x10000) :
    hexCode? (Nat.digitChar (n / 4096 % 16)) (Nat.digitChar (n / 256 % 16))
      (Nat.digitChar (n / 16 % 16)) (Nat.digitChar (n % 16)) = some n := by
  simp only [hexCode?, hexDigit?_digitChar _ (Nat.mod_lt _ (by decide : 0 < 16)),
    Option.bind_eq_bind, Option.bind_some, Option.pure_def]
  congr 1
  omega

variable {opened fuel : Nat} {acc rest : List Char}

theorem readText_plain {c : Char} (quote : c ≠ '"') (slash : c ≠ '\\') (visible : 32 ≤ c.toNat) :
    readText opened (fuel + 1) acc (c :: rest) = readText opened fuel (c :: acc) rest := by
  rw [readText]
  · simp [Nat.not_lt.mpr visible]
  all_goals simp_all

theorem readText_escape {c e : Char} (known : escaped? c = some e) :
    readText opened (fuel + 1) acc ('\\' :: c :: rest) = readText opened fuel (e :: acc) rest := by
  have other : c ≠ 'u' := by
    rintro rfl
    cases known
  rw [readText]
  · simp [known]
  all_goals simp_all

theorem readText_unit {n : Nat} (small : n < 0x10000) (whole : isHighHalf n = false)
    (whole' : isLowHalf n = false) (more : rest ≠ []) :
    readText opened (fuel + 1) acc (escapedUnit n ++ rest) =
      readText opened fuel (Char.ofNat n :: acc) rest := by
  obtain ⟨c, rest, rfl⟩ := List.exists_cons_of_ne_nil more
  simp only [escapedUnit, List.cons_append, List.nil_append]
  rw [readText]
  simp [hexCode?_escapedUnit small, whole, whole', codePoint]

theorem readText_pair {high low : Nat} (first : isHighHalf high = true)
    (second : isLowHalf low = true) (more : rest ≠ []) :
    readText opened (fuel + 1) acc (escapedUnit high ++ (escapedUnit low ++ rest)) =
      readText opened fuel
        (Char.ofNat (0x10000 + 0x400 * (high - 0xD800) + (low - 0xDC00)) :: acc) rest := by
  obtain ⟨c, rest, rfl⟩ := List.exists_cons_of_ne_nil more
  have smallHigh : high < 0x10000 := by
    simp [isHighHalf] at first
    omega
  have smallLow : low < 0x10000 := by
    simp [isLowHalf] at second
    omega
  simp only [escapedUnit, List.cons_append, List.nil_append]
  rw [readText]
  simp [hexCode?_escapedUnit smallHigh, hexCode?_escapedUnit smallLow, first, second]

theorem not_half (c : Char) : c.toNat < 0xD800 ∨ 0xE000 ≤ c.toNat ∧ c.toNat < 0x110000 := by
  rcases c.valid with low | ⟨high, most⟩
  · exact .inl low
  · exact .inr ⟨high, most⟩

theorem readText_escaped (c : Char) (more : rest ≠ []) :
    readText opened (fuel + 1) acc (escaped c ++ rest) = readText opened fuel (c :: acc) rest := by
  by_cases quote : c = '"'
  · subst quote
    exact readText_escape rfl
  by_cases slash : c = '\\'
  · subst slash
    exact readText_escape rfl
  by_cases feed : c = '\n'
  · subst feed
    exact readText_escape rfl
  by_cases back : c = '\r'
  · subst back
    exact readText_escape rfl
  by_cases tab : c = '\t'
  · subst tab
    exact readText_escape rfl
  by_cases page : c = '\x0c'
  · subst page
    exact readText_escape rfl
  by_cases delete : c = '\x08'
  · subst delete
    exact readText_escape rfl
  simp only [escaped, quote, slash, feed, back, tab, page, delete, or_self, if_false]
  by_cases ascii : 32 ≤ c.toNat ∧ c.toNat < 127
  · rw [if_pos ascii]
    exact readText_plain quote slash ascii.1
  rw [if_neg ascii]
  have valid := not_half c
  by_cases small : c.toNat < 0x10000
  · have whole : isHighHalf c.toNat = false ∧ isLowHalf c.toNat = false := by
      simp only [isHighHalf, isLowHalf, Bool.and_eq_false_iff, decide_eq_false_iff_not]
      omega
    rw [if_pos small, readText_unit small whole.1 whole.2 more, Char.ofNat_toNat]
  · have first : isHighHalf (0xD800 + (c.toNat - 0x10000) / 0x400) = true := by
      simp only [isHighHalf, Bool.and_eq_true, decide_eq_true_eq]
      omega
    have second : isLowHalf (0xDC00 + (c.toNat - 0x10000) % 0x400) = true := by
      simp only [isLowHalf, Bool.and_eq_true, decide_eq_true_eq]
      omega
    have whole : 0x10000 + 0x400 * (0xD800 + (c.toNat - 0x10000) / 0x400 - 0xD800) +
        (0xDC00 + (c.toNat - 0x10000) % 0x400 - 0xDC00) = c.toNat := by omega
    rw [if_neg small, List.append_assoc, readText_pair first second more, whole, Char.ofNat_toNat]

theorem readText_written (opened : Nat) {cs : List Char} (acc rest : List Char) {fuel : Nat}
    (enough : cs.length < fuel) :
    readText opened fuel acc (cs.flatMap escaped ++ '"' :: rest) =
      .ok (acc.reverse ++ cs, rest) := by
  induction cs generalizing acc fuel with
  | nil =>
    obtain ⟨fuel, rfl⟩ := Nat.exists_eq_succ_of_ne_zero (Nat.ne_of_gt enough)
    simp
  | cons c cs ih =>
    obtain ⟨fuel, rfl⟩ := Nat.exists_eq_succ_of_ne_zero (Nat.ne_of_gt (Nat.zero_lt_of_lt enough))
    rw [List.flatMap_cons, List.append_assoc, readText_escaped c (by simp),
      ih _ (by simpa using enough)]
    simp

theorem length_le_flatMap (cs : List Char) : cs.length ≤ (cs.flatMap escaped).length := by
  have some (c : Char) : 1 ≤ (escaped c).length := by
    unfold escaped escapedUnit
    split_ifs <;> simp
  induction cs with
  | nil => simp
  | cons c cs ih =>
    have := some c
    simp only [List.flatMap_cons, List.length_append, List.length_cons]
    omega

theorem readText_quoted (opened : Nat) (s : String) (rest : List Char) :
    let behind := s.toList.flatMap escaped ++ '"' :: rest
    readText opened (behind.length + 1) [] behind = .ok (s.toList, rest) := by
  have enough := length_le_flatMap s.toList
  have fuel : s.toList.length < (s.toList.flatMap escaped ++ '"' :: rest).length + 1 := by
    simp only [List.length_append]
    omega
  simpa using readText_written opened [] rest fuel

/-- What may follow a value inside another one. -/
def Ends (rest : List Char) : Prop := ∀ c ∈ rest.head?, c = ',' ∨ c = ']' ∨ c = '\x7d'

theorem Ends.cases (h : Ends rest) :
    rest = [] ∨ ∃ tail, rest = ',' :: tail ∨ rest = ']' :: tail ∨ rest = '\x7d' :: tail := by
  cases rest with
  | nil => exact .inl rfl
  | cons c tail =>
    refine .inr ⟨tail, ?_⟩
    rcases h c rfl with rfl | rfl | rfl
    · exact .inl rfl
    · exact .inr (.inl rfl)
    · exact .inr (.inr rfl)

theorem Ends.stops (h : Ends rest) : rest.head?.all (!·.isDigit) = true := by
  rcases h.cases with rfl | ⟨tail, rfl | rfl | rfl⟩ <;> rfl

theorem takeFraction_of_ends (h : Ends rest) : takeFraction rest = none := by
  rcases h.cases with rfl | ⟨tail, rfl | rfl | rfl⟩ <;> rfl

theorem takeExponent_of_ends (h : Ends rest) : takeExponent rest = none := by
  rcases h.cases with rfl | ⟨tail, rfl | rfl | rfl⟩ <;> rfl

theorem eq_nil_of_digits_zero {n : Nat} {cs : List Char} (h : digits n = '0' :: cs) : cs = [] := by
  by_contra some
  have small : n < 10 ^ cs.length := by
    have row : ∀ c ∈ cs, c.isDigit = true := fun c mem =>
      isDigit_of_mem_digits (n := n) (by simp [h, mem])
    have value := rowValue_digits n
    rw [h, rowValue_cons] at value
    simpa [value.symm] using rowValue_lt row
  have short := length_digits_le (List.length_pos_iff.mpr some) small
  rw [h, List.length_cons] at short
  omega

theorem takeWhole_digits (n : Nat) (h : Ends rest) :
    takeWhole (digits n ++ rest) = some ((digits n).map fun c => c.toNat - 48, rest) := by
  have row := takeDigits_row (fun c mem => isDigit_of_mem_digits (n := n) mem) h.stops
  cases first : digits n with
  | nil => exact absurd first (digits_ne_nil n)
  | cons c cs =>
    by_cases zero : c = '0'
    · subst zero
      obtain rfl := eq_nil_of_digits_zero first
      rfl
    · rw [first] at row
      have other : ∀ tail, c :: cs ++ rest ≠ '0' :: tail :=
        fun _ same => zero (List.cons.inj same).1
      rw [takeWhole.eq_2 _ other, row]
      rfl

theorem readNumber_written {i : Int} (short : isWritable i = true) (h : Ends rest) :
    readNumber ((integerText i).toList ++ rest) = .ok (.int i, rest) := by
  have size : ¬ longestNumeral < ((digits i.natAbs).map fun c => c.toNat - 48).length := by
    rw [List.length_map]
    exact Nat.not_lt.mpr (length_digits_le (by decide) (by simpa [isWritable] using short))
  have value := signed_natAbs i
  rw [toList_integerText, integerChars]
  split
  · next negative =>
    simp only [negative, decide_true] at value
    simp only [readNumber, List.cons_append, takeWhole_digits _ h, takeFraction_of_ends h,
      Option.elim_none, takeExponent_of_ends h, size, if_false, valueOf_digits, value]
  · next positive =>
    simp only [positive, decide_false] at value
    have unsigned : ∀ tail, digits i.natAbs ++ rest ≠ '-' :: tail := by
      intro tail same
      cases first : digits i.natAbs with
      | nil => exact digits_ne_nil _ first
      | cons c cs =>
        have digit : c.isDigit = true := isDigit_of_mem_digits (n := i.natAbs) (by simp [first])
        rw [first, List.cons_append] at same
        rw [(List.cons.inj same).1] at digit
        cases digit
    rw [readNumber]
    · simp only [takeWhole_digits _ h, takeFraction_of_ends h, Option.elim_none,
        takeExponent_of_ends h, size, if_false, valueOf_digits, value]
    · exact unsigned

/-- Values without a fraction and without an object that names a member twice, with so many lists
and objects inside one another at most. -/
inductive Plain : Nat → Value → Prop
  | null (n : Nat) : Plain n .null
  | bool (n : Nat) (b : Bool) : Plain n (.bool b)
  | int (n : Nat) {i : Int} (short : isWritable i = true) : Plain n (.int i)
  | text (n : Nat) (s : String) : Plain n (.text s)
  | list {n : Nat} {items : List Value} (each : ∀ v ∈ items, Plain n v) :
    Plain (n + 1) (.list items)
  | object {n : Nat} {members : Fields} (once : members.names.Nodup)
    (each : ∀ m ∈ members, Plain n m.2) : Plain (n + 1) (.object members)

theorem skipGap_cons {c : Char} (some : isGap c = false) (cs : List Char) :
    skipGap (c :: cs) = c :: cs := by
  simp [skipGap, some]

/-- A value is read back, with fuel for its characters and room for what it holds. -/
def Returns (n : Nat) (v : Value) : Prop :=
  ∀ fuel room rest, 2 * (written v).length ≤ fuel + 1 → n ≤ room → Ends rest →
    readValue (fuel + 1) room (written v ++ rest) = .ok (v, rest)

theorem returns_null (n : Nat) : Returns n .null := by
  intro fuel room rest _ _ _
  simp

theorem returns_bool (n : Nat) (b : Bool) : Returns n (.bool b) := by
  intro fuel room rest _ _ _
  cases b with
  | true => simp
  | false => simp

theorem returns_text (n : Nat) (s : String) : Returns n (.text s) := by
  intro fuel room rest _ _ _
  have text := readText_quoted ((quoted s ++ rest).length) s rest
  simp only [written, quoted, List.cons_append, List.append_assoc, List.nil_append] at text ⊢
  rw [readValue, text]
  simp [bind, Except.bind, pure, Except.pure]

theorem readValue_digit {c : Char} (digit : c.isDigit = true) (fuel room : Nat) (cs : List Char) :
    readValue (fuel + 1) room (c :: cs) = readNumber (c :: cs) := by
  rw [readValue]
  all_goals
    intro _ same
    cases same
    cases digit

theorem readValue_minus {c : Char} (digit : c.isDigit = true) (fuel room : Nat) (cs : List Char) :
    readValue (fuel + 1) room ('-' :: c :: cs) = readNumber ('-' :: c :: cs) := by
  rw [readValue]
  all_goals
    intro _ same
    cases same
  cases digit

theorem integerChars_cases (i : Int) :
    ∃ c cs, c.isDigit = true ∧ (integerChars i = c :: cs ∨ integerChars i = '-' :: c :: cs) := by
  obtain ⟨c, cs, own⟩ := List.exists_cons_of_ne_nil (digits_ne_nil i.natAbs)
  refine ⟨c, cs, isDigit_of_mem_digits (n := i.natAbs) (by simp [own]), ?_⟩
  unfold integerChars
  split
  · exact .inr (by rw [own])
  · exact .inl own

theorem returns_int (n : Nat) {i : Int} (short : isWritable i = true) : Returns n (.int i) := by
  intro fuel room rest _ _ ends
  have number := readNumber_written short ends
  rw [written]
  rw [toList_integerText] at number ⊢
  obtain ⟨c, cs, digit, first | first⟩ := integerChars_cases i
  · rw [first] at number ⊢
    exact (readValue_digit digit fuel room _).trans number
  · rw [first] at number ⊢
    exact (readValue_minus digit fuel room _).trans number

theorem written_head {n : Nat} {v : Value} (h : Plain n v) :
    ∃ c cs, written v = c :: cs ∧ isGap c = false ∧ c ≠ ']' := by
  cases h with
  | null => exact ⟨'n', _, rfl, rfl, by decide⟩
  | bool n b =>
    cases b with
    | true => exact ⟨'t', _, rfl, rfl, by decide⟩
    | false => exact ⟨'f', _, rfl, rfl, by decide⟩
  | @int n i short =>
    obtain ⟨c, cs, digit, first⟩ := integerChars_cases i
    rw [written, toList_integerText]
    rcases first with first | first
    · refine ⟨c, cs, first, ?_, ?_⟩
      · by_contra gap
        simp only [isGap, Bool.or_eq_true, beq_iff_eq, Bool.not_eq_false] at gap
        rcases gap with ((rfl | rfl) | rfl) | rfl <;> cases digit
      · rintro rfl
        cases digit
    · exact ⟨'-', _, first, rfl, by decide⟩
  | text n s => exact ⟨'"', _, rfl, rfl, by decide⟩
  | list each => exact ⟨'[', _, rfl, rfl, by decide⟩
  | object once each => exact ⟨'\x7b', _, rfl, rfl, by decide⟩

theorem skipGap_written {n : Nat} {v : Value} (h : Plain n v) (rest : List Char) :
    skipGap (written v ++ rest) = written v ++ rest := by
  obtain ⟨c, cs, first, some, -⟩ := written_head h
  rw [first, List.cons_append, skipGap_cons some]

theorem written_ne_nil {n : Nat} {v : Value} (h : Plain n v) : 0 < (written v).length := by
  obtain ⟨c, cs, first, -⟩ := written_head h
  simp [first]

theorem skipGap_space (cs : List Char) : skipGap (' ' :: cs) = skipGap cs := rfl

theorem writtenItems_cons (v : Value) (items : List Value) :
    ∃ tail, writtenItems (v :: items) = written v ++ tail := by
  cases items with
  | nil => exact ⟨[], by rw [writtenItems, List.append_nil]⟩
  | cons w items => exact ⟨',' :: ' ' :: writtenItems (w :: items), by simp⟩

theorem skipGap_writtenItems {n : Nat} {v : Value} (h : Plain n v) (items : List Value)
    (rest : List Char) :
    skipGap (writtenItems (v :: items) ++ rest) = writtenItems (v :: items) ++ rest := by
  obtain ⟨tail, parts⟩ := writtenItems_cons v items
  rw [parts, List.append_assoc, skipGap_written h]

theorem readItems_written {n : Nat} {items : List Value} (some : items ≠ [])
    (each : ∀ v ∈ items, Plain n v ∧ Returns n v) (fuel : Nat) {room : Nat}
    (enough : 2 * (writtenItems items).length ≤ fuel) (wide : n ≤ room) (rest : List Char) :
    readItems (fuel + 1) room (writtenItems items ++ ']' :: rest) = .ok (items, rest) := by
  induction items generalizing fuel with
  | nil => exact absurd rfl some
  | cons v items ih =>
    obtain ⟨⟨plain, returns⟩, each⟩ := List.forall_mem_cons.mp each
    have long := written_ne_nil plain
    cases items with
    | nil =>
      rw [writtenItems] at enough ⊢
      obtain ⟨fuel, rfl⟩ := Nat.exists_eq_succ_of_ne_zero (by omega : fuel ≠ 0)
      have first := returns fuel room (']' :: rest) enough wide (by simp [Ends])
      rw [readItems, first]
      rfl
    | cons w items =>
      have parts : writtenItems (v :: w :: items) =
          written v ++ ',' :: ' ' :: writtenItems (w :: items) := by simp
      rw [parts] at enough ⊢
      simp only [List.length_append, List.length_cons] at enough
      obtain ⟨fuel, rfl⟩ := Nat.exists_eq_succ_of_ne_zero (by omega : fuel ≠ 0)
      have first := returns fuel room (',' :: ' ' :: (writtenItems (w :: items) ++ ']' :: rest))
        (by omega) wide (by simp [Ends])
      have others := ih (by simp) each fuel (by omega)
      have next := skipGap_writtenItems (each w List.mem_cons_self).1 items (']' :: rest)
      rw [List.append_assoc, List.cons_append, List.cons_append, readItems, first]
      simp only [bind, Except.bind, skipGap_cons (c := ',') rfl, skipGap_space, next, others]
      rfl

theorem readValue_list {fuel room : Nat} {c : Char} {cs tail rest : List Char}
    {items : List Value} (first : skipGap cs = c :: tail) (other : c ≠ ']')
    (inside : readItems fuel room (c :: tail) = .ok (items, rest)) :
    readValue (fuel + 1) (room + 1) ('[' :: cs) = .ok (.list items, rest) := by
  rw [readValue]
  simp only [Nat.add_one_ne_zero, if_false, first, Nat.add_sub_cancel]
  split
  · next same => exact absurd (List.cons.inj same).1 other
  · rw [inside]
    rfl

theorem returns_list {n : Nat} {items : List Value}
    (each : ∀ v ∈ items, Plain n v ∧ Returns n v) : Returns (n + 1) (.list items) := by
  intro fuel room rest enough wide _
  obtain ⟨room, rfl⟩ := Nat.exists_eq_succ_of_ne_zero (by omega : room ≠ 0)
  have parts : written (.list items) ++ rest = '[' :: (writtenItems items ++ ']' :: rest) := by
    simp
  have length : (written (.list items)).length = (writtenItems items).length + 2 := by
    simp
  rw [parts]
  cases items with
  | nil => simp [skipGap, isGap]
  | cons v items =>
    obtain ⟨fuel, rfl⟩ := Nat.exists_eq_succ_of_ne_zero (by omega : fuel ≠ 0)
    have inside := readItems_written (List.cons_ne_nil v items) each fuel (by omega)
      (Nat.le_of_succ_le_succ wide) rest
    have plain := (each v List.mem_cons_self).1
    have gap := skipGap_writtenItems plain items (']' :: rest)
    obtain ⟨c, cs, head, -, other⟩ := written_head plain
    obtain ⟨tail, front⟩ := writtenItems_cons v items
    rw [front, head, List.cons_append, List.cons_append] at gap inside ⊢
    exact readValue_list gap other inside

theorem set_of_not_mem {fields : Fields} {name : String} (new : name ∉ fields.names) (v : Value) :
    fields.set name v = fields ++ [(name, v)] := by
  induction fields with
  | nil => rfl
  | cons m rest ih =>
    simp only [Fields.names, List.map_cons, List.mem_cons, not_or] at new
    have other : ¬ m.1 = name := fun same => new.1 same.symm
    simp only [Fields.set, other, if_false, ih new.2, List.cons_append]

theorem writtenMembers_cons (m : String × Value) (members : Fields) :
    ∃ tail, writtenMembers (m :: members) = '"' :: tail := by
  obtain ⟨name, v⟩ := m
  cases members with
  | nil =>
    rw [writtenMembers, quoted]
    exact ⟨_, by simp only [List.cons_append]; rfl⟩
  | cons m' members =>
    rw [writtenMembers, quoted]
    · exact ⟨_, by simp only [List.cons_append]; rfl⟩
    · exact List.cons_ne_nil m' members

theorem skipGap_writtenMembers (m : String × Value) (members : Fields) (rest : List Char) :
    skipGap (writtenMembers (m :: members) ++ rest) = writtenMembers (m :: members) ++ rest := by
  obtain ⟨tail, front⟩ := writtenMembers_cons m members
  rw [front, List.cons_append, skipGap_cons rfl]

theorem readMembers_member {fuel room : Nat} {acc : Fields} {name : String} {v : Value}
    {rest : List Char} (plain : skipGap (written v ++ rest) = written v ++ rest)
    (inside : readValue fuel room (written v ++ rest) = .ok (v, rest)) :
    readMembers (fuel + 1) room acc (quoted name ++ ':' :: ' ' :: (written v ++ rest)) =
      match skipGap rest with
      | '\x7d' :: rest => .ok (acc.set name v, rest)
      | ',' :: rest => readMembers fuel room (acc.set name v) (skipGap rest)
      | rest => .error (.stopped rest.length) := by
  have text := readText_quoted ((quoted name ++ ':' :: ' ' :: (written v ++ rest)).length) name
    (':' :: ' ' :: (written v ++ rest))
  simp only [quoted, List.cons_append, List.append_assoc, List.nil_append] at text ⊢
  rw [readMembers, text]
  simp only [bind, Except.bind, skipGap_cons (c := ':') rfl, skipGap_space, plain, inside,
    String.ofList_toList]
  rfl

theorem readMembers_written {n : Nat} {members : Fields} (some : members ≠ [])
    (each : ∀ m ∈ members, Plain n m.2 ∧ Returns n m.2) (acc : Fields) (fuel : Nat) {room : Nat}
    (once : (acc ++ members).names.Nodup) (enough : 2 * (writtenMembers members).length ≤ fuel)
    (wide : n ≤ room) (rest : List Char) :
    readMembers (fuel + 1) room acc (writtenMembers members ++ '\x7d' :: rest) =
      .ok (acc ++ members, rest) := by
  induction members generalizing acc fuel with
  | nil => exact absurd rfl some
  | cons m members ih =>
    obtain ⟨name, v⟩ := m
    obtain ⟨own, each⟩ := List.forall_mem_cons.mp each
    obtain ⟨plain, returns⟩ : Plain n v ∧ Returns n v := own
    have long := written_ne_nil plain
    have new : name ∉ acc.names := by
      simp only [Fields.names, List.map_append, List.map_cons, List.nodup_append] at once
      exact fun mem => once.2.2 name mem name List.mem_cons_self rfl
    cases members with
    | nil =>
      have parts : writtenMembers [(name, v)] ++ '\x7d' :: rest =
          quoted name ++ ':' :: ' ' :: (written v ++ '\x7d' :: rest) := by simp
      rw [parts]
      simp only [writtenMembers, List.length_append, List.length_cons] at enough
      obtain ⟨fuel, rfl⟩ := Nat.exists_eq_succ_of_ne_zero (by omega : fuel ≠ 0)
      have first := returns fuel room ('\x7d' :: rest) (by omega) wide (by simp [Ends])
      rw [readMembers_member (skipGap_written plain _) first, skipGap_cons rfl,
        set_of_not_mem new]
      rfl
    | cons m' members =>
      have parts : writtenMembers ((name, v) :: m' :: members) ++ '\x7d' :: rest =
          quoted name ++ ':' :: ' ' :: (written v ++
            ',' :: ' ' :: (writtenMembers (m' :: members) ++ '\x7d' :: rest)) := by
        simp
      rw [parts]
      simp only [writtenMembers, List.length_append, List.length_cons] at enough
      obtain ⟨fuel, rfl⟩ := Nat.exists_eq_succ_of_ne_zero (by omega : fuel ≠ 0)
      have first := returns fuel room
        (',' :: ' ' :: (writtenMembers (m' :: members) ++ '\x7d' :: rest)) (by omega) wide
        (by simp [Ends])
      have others := ih (by simp) each (acc ++ [(name, v)]) fuel (by simpa using once) (by omega)
      rw [readMembers_member (skipGap_written plain _) first, skipGap_cons rfl,
        set_of_not_mem new]
      simp only [skipGap_space, skipGap_writtenMembers, others]
      simp

theorem readValue_object {fuel room : Nat} {cs tail rest : List Char} {members : Fields}
    (first : skipGap cs = '"' :: tail)
    (inside : readMembers fuel room [] ('"' :: tail) = .ok (members, rest)) :
    readValue (fuel + 1) (room + 1) ('\x7b' :: cs) = .ok (.object members, rest) := by
  rw [readValue]
  simp only [Nat.add_one_ne_zero, if_false, first, Nat.add_sub_cancel]
  change (readMembers fuel room [] ('"' :: tail) >>= fun found =>
    pure (Value.object found.1, found.2)) = _
  rw [inside]
  rfl

theorem returns_object {n : Nat} {members : Fields} (once : members.names.Nodup)
    (each : ∀ m ∈ members, Plain n m.2 ∧ Returns n m.2) :
    Returns (n + 1) (.object members) := by
  intro fuel room rest enough wide _
  obtain ⟨room, rfl⟩ := Nat.exists_eq_succ_of_ne_zero (by omega : room ≠ 0)
  have parts : written (.object members) ++ rest =
      '\x7b' :: (writtenMembers members ++ '\x7d' :: rest) := by simp
  have length : (written (.object members)).length = (writtenMembers members).length + 2 := by
    simp
  rw [parts]
  cases members with
  | nil => simp [skipGap, isGap]
  | cons m members =>
    obtain ⟨fuel, rfl⟩ := Nat.exists_eq_succ_of_ne_zero (by omega : fuel ≠ 0)
    have inside := readMembers_written (List.cons_ne_nil m members) each [] fuel once (by omega)
      (Nat.le_of_succ_le_succ wide) rest
    have gap := skipGap_writtenMembers m members ('\x7d' :: rest)
    obtain ⟨tail, front⟩ := writtenMembers_cons m members
    rw [front, List.cons_append] at gap inside ⊢
    exact readValue_object gap inside

theorem Plain.returns {n : Nat} {v : Value} (h : Plain n v) : Returns n v := by
  induction h with
  | null n => exact returns_null n
  | bool n b => exact returns_bool n b
  | int n short => exact returns_int n short
  | text n s => exact returns_text n s
  | list each ih => exact returns_list fun v mem => ⟨each v mem, ih v mem⟩
  | object once each ih => exact returns_object once fun m mem => ⟨each m mem, ih m mem⟩

theorem read_written {n : Nat} {v : Value} (h : Plain n v) (shallow : n ≤ greatestDepth) :
    read (String.ofList (written v)) = .ok v := by
  have returned := h.returns (2 * (written v).length + 1) greatestDepth [] (by omega) shallow
    (by simp [Ends])
  have gap := skipGap_written h []
  rw [List.append_nil] at returned gap
  simp only [read, String.toList_ofList, gap, returned, bind, Except.bind]
  rfl

end FloodScheme.Json
