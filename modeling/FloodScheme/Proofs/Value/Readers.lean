import FloodScheme.Area
import FloodScheme.Number.Shortest
import FloodScheme.Proofs.Number.Readings
import FloodScheme.Proofs.Store.Whole
import FloodScheme.Proofs.Value.Equal
import FloodScheme.Timeline

/-! The readers of whole numbers in values: the check of a field, the rules on years, the rules on
dates, the search for a row, the mapping to storage and the comparison of identifiers. None of them
takes an accepted value for another number than the check does. -/
namespace FloodScheme
open Number Text

namespace Text

theorem mem_trimBy {p : Char → Bool} {cs : List Char} {c : Char} (mem : c ∈ cs)
    (kept : p c = false) : c ∈ trimBy p cs := by
  obtain ⟨before, behind, parts, first, last⟩ := trimBy_parts p cs
  have own (trimmed : p c = true) : c ∈ trimBy p cs := by
    rw [kept] at trimmed
    cases trimmed
  rw [parts, List.mem_append, List.mem_append] at mem
  rcases mem with (front | inside) | back
  · exact own (first c front)
  · exact inside
  · exact own (last c back)

/-- A text with a point or the letter `e` in it. -/
def Marked (s : String) : Prop := ∃ c ∈ s.toList, c = '.' ∨ c = 'e'

theorem Marked.trim {s : String} (h : Marked s) : Marked (trim s) := by
  obtain ⟨c, mem, mark⟩ := h
  refine ⟨c, ?_, mark⟩
  rw [Text.trim, String.toList_ofList]
  refine mem_trimBy mem ?_
  rcases mark with rfl | rfl
  · rfl
  · rfl

end Text

namespace Number

theorem readInteger?_marked {s : String} (h : Marked s) : readInteger? s = none := by
  obtain ⟨c, mem, mark⟩ := h
  cases read : readInteger? s with
  | none => rfl
  | some n =>
    obtain ⟨ds, grouped, -⟩ := Option.bind_eq_some_iff.mp read
    have row := (groupedDigits_eq_some grouped).1
    have body : c ∈ plainDigits (trimBy isSpace s.toList) := by
      have inside : c ∈ trimBy isSpace s.toList := by
        refine mem_trimBy mem ?_
        rcases mark with rfl | rfl
        · rfl
        · rfl
      refine List.mem_map.mpr ⟨c, inside, ?_⟩
      rcases mark with rfl | rfl
      · rfl
      · rfl
    rcases IntegerReading.takeSign_chars _ c body with behind | rfl | rfl
    · rcases mark with rfl | rfl
      · rcases row '.' behind with digit | line <;> contradiction
      · rcases row 'e' behind with digit | line <;> contradiction
    · rcases mark with same | same <;> contradiction
    · rcases mark with same | same <;> contradiction

theorem not_marked_integerText (i : Int) : ¬ Marked (integerText i) := by
  rintro ⟨c, mem, mark⟩
  rw [toList_integerText] at mem
  have numeral := isNumeralChar_of_mem mem
  rcases mark with rfl | rfl
  · cases numeral
  · cases numeral

theorem Double.marked_text {x : Double} (finite : x.isFinite = true) : Marked x.text := by
  have point {cs : List Char} (mem : '.' ∈ cs) : Marked (String.ofList cs) :=
    ⟨'.', by rwa [String.toList_ofList], .inl rfl⟩
  cases x with
  | nan => cases finite
  | infinity negative => cases finite
  | finite negative m e =>
    unfold text
    dsimp only
    split
    · exact point (by simp)
    · split
      · refine point (List.mem_append_right _ ?_)
        unfold positional
        dsimp only
        split
        · exact List.mem_append_left _ (List.mem_cons_of_mem _ List.mem_cons_self)
        · exact List.mem_append_right _ List.mem_cons_self
      · refine ⟨'e', ?_, .inr rfl⟩
        rw [String.toList_ofList]
        refine List.mem_append_right _ ?_
        unfold scientific
        split
        · exact List.mem_cons_of_mem _ List.mem_cons_self
        · exact List.mem_cons_of_mem _ (List.mem_append_right _ List.mem_cons_self)
        · next none => exact absurd none (digits_ne_nil _)

end Number

namespace Value

variable {v : Value} {n : Int}

/-- A value that JSON can hold: no decimal, and no whole number too long to be written. -/
inductive FromJson : Value → Prop
  | null : FromJson .null
  | bool (b : Bool) : FromJson (.bool b)
  | int {i : Int} (short : Number.isWritable i = true) : FromJson (.int i)
  | float (x : Double) : FromJson (.float x)
  | text (s : String) : FromJson (.text s)
  | list {items : List Value} (each : ∀ v ∈ items, FromJson v) : FromJson (.list items)
  | object {members : Fields} (each : ∀ m ∈ members, FromJson m.2) : FromJson (.object members)

def isTruth : Value → Bool
  | .bool _ => true
  | _ => false

/-- Identifiers are whole numbers and texts. -/
def isIdentifier : Value → Bool
  | .int _ => true
  | .text _ => true
  | _ => false

/-- Nothing reads the value as another number than `n`, and no reader fails. -/
structure NeverOther (v : Value) (n : Int) : Prop where
  years : v.wholePart = .ok none ∨ v.wholePart = .ok (some n)
  dates : Timeline.part v = .ok none ∨ Timeline.part v = .ok (some n)
  row : v.key? = none ∨ v.key? = some n
  area : ∀ m, Number.isWritable m = true → sameArea v (.int m) = true → m = n

/-- The rules on years and the mapping to storage take the value for `n`. The rules on dates do
unless it is a truth value, rows and areas are looked for if it is an identifier, and areas are
compared by how they are written. -/
structure ReadAs (v : Value) (n : Int) : Prop where
  years : v.wholePart = .ok (some n)
  dates : Timeline.part v = .ok (if v.isTruth then none else some n)
  stored : (FieldKind.number.toStorage v).equal (.int n) = true
  row : v.key? = if v.isIdentifier then some n else none
  area : v.isIdentifier = false → ∀ m, sameArea v (.int m) = false
  written : sameArea v (.int n) = true ↔ Text.trim v.shown = integerText n

theorem key?_of_marked (h : Marked v.shown) : v.key? = none := readInteger?_marked h.trim

theorem sameArea_int_iff (some : v.isNull = false) (m : Int) :
    sameArea v (.int m) = true ↔ Text.trim v.shown = integerText m := by
  have number : (Value.int m).isNull = false := rfl
  rw [sameArea, some, number, shown_int, trim_integerText, Bool.not_false, Bool.true_and,
    Bool.true_and, beq_iff_eq]

theorem sameArea_of_marked (h : Marked v.shown) (some : v.isNull = false) (m : Int) :
    sameArea v (.int m) = false := by
  refine Bool.eq_false_iff.mpr fun same => not_marked_integerText m ?_
  rw [← (sameArea_int_iff some m).mp same]
  exact h.trim

theorem equal_int_of_number {d : Decimal} (number : v.number? = some d)
    (h : d.equal (Decimal.ofInt n) = true) : v.equal (.int n) = true :=
  equal_eq_true.mpr (same_iff.mpr (.number number rfl h))

theorem ofInt_equal (n : Int) : (Decimal.ofInt n).equal (Decimal.ofInt n) = true := by
  have same := Decimal.equal_shift (decide (n < 0)) n.natAbs 0
  rw [signed_natAbs] at same
  simpa [Decimal.ofInt] using same

theorem readAs_bool (b : Bool) : ReadAs (.bool b) (if b then 1 else 0) := by
  have marked : Marked (Value.bool b).shown := by
    cases b with
    | false => exact ⟨'e', by decide, .inr rfl⟩
    | true => exact ⟨'e', by decide, .inr rfl⟩
  exact ⟨rfl, rfl, equal_int_of_number rfl (ofInt_equal _), key?_of_marked marked,
    fun _ => sameArea_of_marked marked rfl, sameArea_int_iff rfl _⟩

theorem readAs_int (short : Number.isWritable n = true) : ReadAs (.int n) n := by
  have row : (Value.int n).key? = some n := by
    rw [key?_int, if_pos]
    exact length_digits_le (by decide) (by simpa [Number.isWritable] using short)
  exact ⟨rfl, rfl, equal_int_of_number rfl (ofInt_equal n), row, nofun,
    sameArea_int_iff rfl n⟩

theorem readAs_float {x : Double} (read : Reading.integer (.float x) = .ok n) :
    ReadAs (.float x) n := by
  obtain ⟨whole, -⟩ := Reading.integerOfDouble_eq_ok read
  have years := whole?_eq_some.mp (whole?_float whole)
  have finite : x.isFinite = true := by
    cases x with
    | nan => cases whole
    | infinity negative => cases whole
    | finite negative m e => rfl
  have marked : Marked (Value.float x).shown := by
    have shown : (Value.float x).shown = x.text := String.ofList_toList
    rw [shown]
    exact Double.marked_text finite
  exact ⟨years, years, equal_int_of_number rfl (Decimal.equal_ofInt whole),
    key?_of_marked marked, fun _ => sameArea_of_marked marked rfl, sameArea_int_iff rfl n⟩

theorem reading_of_text {s : String} (read : Reading.integer (.text s) = .ok n) :
    IntegerReading.read s.toList = .value n := by
  change Reading.integerOfText s = .ok n at read
  unfold Reading.integerOfText at read
  split at read
  · next i found =>
    cases read
    exact found
  · cases read
  · cases read

theorem readAs_text {s : String} (read : Reading.integer (.text s) = .ok n)
    (legible : (readInteger? s).isSome = true) : ReadAs (.text s) n := by
  obtain ⟨m, plain⟩ := Option.isSome_iff_exists.mp legible
  have reading := reading_of_text read
  obtain rfl := eq_of_readInteger? reading plain
  have years : (Value.text s).wholePart = .ok (some m) := congrArg Except.ok plain
  have stored : FieldKind.number.toStorage (.text s) = .int m := by
    rw [← parseNumber_of_legible plain]
    rfl
  refine ⟨years, years, ?_, ?_, nofun, sameArea_int_iff rfl m⟩
  · rw [stored]
    exact equal_int_of_number rfl (ofInt_equal m)
  · exact (readInteger?_trim_of_read reading).trans plain

theorem ReadAs.neverOther (h : v.ReadAs n)
    (area : ∀ m, Number.isWritable m = true → sameArea v (.int m) = true → m = n) :
    v.NeverOther n := by
  refine ⟨.inr h.years, ?_, ?_, area⟩
  · rw [h.dates]
    split
    · exact .inl rfl
    · exact .inr rfl
  · rw [h.row]
    split
    · exact .inr rfl
    · exact .inl rfl

theorem neverOther_text {s : String} (read : Reading.integer (.text s) = .ok n) :
    NeverOther (.text s) n := by
  have reading := reading_of_text read
  have plain : readInteger? s = none ∨ readInteger? s = some n := by
    cases found : readInteger? s with
    | none => exact .inl rfl
    | some m => exact .inr (congrArg some (eq_of_readInteger? reading found))
  have years : (Value.text s).wholePart = .ok none ∨ (Value.text s).wholePart = .ok (some n) :=
    plain.imp (congrArg Except.ok) (congrArg Except.ok)
  have row : (Value.text s).key? = readInteger? s := readInteger?_trim_of_read reading
  refine ⟨years, years, row ▸ plain, fun m short same => ?_⟩
  -- the text is the writing of `m`, so that the plain reader reads `m`
  have written := (sameArea_int_iff (v := .text s) rfl m).mp same
  refine eq_of_readInteger? reading ?_
  rw [← readInteger?_trim_of_read reading, show Text.trim s = integerText m from written,
    readInteger?_integerText, if_pos]
  exact length_digits_le (by decide) (by simpa [Number.isWritable] using short)

/-- If `Reading.integer` reads a JSON value as `n`, then no reader reads it as another number or
fails on it. If the value is not a text, or `readInteger?` reads the text, every reader meant for
the value reads it as `n`: truth values are not parts of dates, and only whole numbers and texts are
identifiers. -/
theorem readers_agree (json : v.FromJson) (read : Reading.integer v = .ok n) :
    v.NeverOther n ∧ (v.Legible → v.ReadAs n) := by
  have never (all : v.ReadAs n) (other : v.isIdentifier = false) : v.NeverOther n :=
    all.neverOther fun m _ same => by
      rw [all.area other m] at same
      cases same
  cases json with
  | null => cases read
  | list each => cases read
  | object each => cases read
  | bool b =>
    cases read
    exact ⟨never (readAs_bool b) rfl, fun _ => readAs_bool b⟩
  | float x => exact ⟨never (readAs_float read) rfl, fun _ => readAs_float read⟩
  | int short =>
    cases read
    refine ⟨(readAs_int short).neverOther fun m _ same => ?_, fun _ => readAs_int short⟩
    have written := (sameArea_int_iff rfl m).mp same
    rw [shown_int, trim_integerText] at written
    exact (integerText_injective written).symm
  | text s => exact ⟨neverOther_text read, fun legible => readAs_text read (legible s rfl)⟩

theorem readers_agree_five :
    let v := Value.text " +0_5 "
    v.FromJson ∧ Reading.integer v = .ok 5 ∧ v.Legible ∧ v.NeverOther 5 ∧ v.ReadAs 5 := by
  intro v
  have read : Reading.integer v = .ok 5 := rfl
  have legible : v.Legible := by
    intro s same
    obtain rfl := Value.text.inj same
    decide
  obtain ⟨never, all⟩ := readers_agree (.text " +0_5 ") read
  exact ⟨.text _, read, legible, never, all legible⟩

theorem readers_apart :
    (Value.bool true).FromJson ∧ Reading.integer (.bool true) = .ok 1 ∧
      Timeline.part (.bool true) = .ok none ∧ (Value.bool true).key? = none ∧
      sameArea (.bool true) (.int 1) = false :=
  ⟨.bool true, rfl, rfl, by decide, by decide⟩

end Value
end FloodScheme
