import FloodScheme.Proofs.Level.Accepted
import FloodScheme.Proofs.Number.Whole
import FloodScheme.Proofs.Store.Columns
import FloodScheme.Store.Declaration

/-! Values that fit their columns. What passes the check of a field fits its column, apart from what
the check reads more generously: texts for truth values and truth values for numbers, texts of
numbers that only the check can read, and whatever is wider than the column is declared. What fits
is stored. -/
namespace FloodScheme
open Number Outcome

/-- The kind of a rule goes with the kind of its field and the type of the column. -/
def RuleKind.suits : RuleKind → FieldKind → ColumnType → Bool
  | text, .copied, .text => true
  | boolean, .copied, .boolean => true
  | textList, .array, .text => true
  | integer, .number, .integer => true
  | decimal, .number, .numeric => true
  | decimal, .percentage, .numeric => true
  | _, _, _ => false

namespace Reading

theorem booleanOfInt_eq_ok {i : Int} {b : Bool} (h : booleanOfInt i = .ok b) :
    i = 0 ∨ i = 1 := by
  unfold booleanOfInt at h
  split at h
  · next zero => exact .inl zero
  · split at h
    · next one => exact .inr one
    · cases h

theorem boolean_int {i : Int} {b : Bool} (h : boolean (.int i) = .ok b) : i = 0 ∨ i = 1 := by
  simp only [boolean] at h
  split at h
  · exact booleanOfInt_eq_ok h
  · cases h

theorem boolean_float {x : Double} {b : Bool} (h : boolean (.float x) = .ok b) :
    x.whole? = some 0 ∨ x.whole? = some 1 := by
  simp only [boolean, booleanOfDouble] at h
  split at h
  · next whole =>
    split at h
    · rw [whole, Option.some.injEq, Option.some.injEq]
      exact booleanOfInt_eq_ok h
    · cases h
  · cases h

end Reading

namespace ColumnType

theorem bind_int {i : Int} (word : isWord i = true) : bind (.int i) = .ok (.int i) := if_pos word

theorem bind_float (x : Double) : ∃ v, bind (.float x) = .ok v := by
  cases x with
  | nan => exact ⟨_, rfl⟩
  | infinity negative => exact ⟨_, rfl⟩
  | finite negative m e => exact ⟨_, rfl⟩

theorem store_truth {v : Value} {d : Decimal} (number : v.number? = some d)
    (truth : d.equal (.ofInt 0) = true ∨ d.equal (.ofInt 1) = true) :
    ∃ w, boolean.store v = .ok w := by
  have prepared : prepareBoolean v = .ok (.int 0) ∨ prepareBoolean v = .ok (.int 1) := by
    unfold prepareBoolean
    split
    · cases number
    · simp only [number]
      by_cases zero : d.equal (.ofInt 0) = true
      · exact .inl (if_pos zero)
      · rw [if_neg zero, if_pos (truth.resolve_left zero)]
        exact .inr rfl
  rcases prepared with prepared | prepared
  · exact ⟨_, store_eq_ok.mpr ⟨_, _, prepared, bind_int (by decide), rfl⟩⟩
  · exact ⟨_, store_eq_ok.mpr ⟨_, _, prepared, bind_int (by decide), rfl⟩⟩

theorem store_plain {t : ColumnType} (plain : t = text ∨ t = integer) {v b : Value}
    (bound : bind v = .ok b) : ∃ w, t.store v = .ok w := by
  rcases plain with rfl | rfl
  · exact ⟨_, store_eq_ok.mpr ⟨v, b, rfl, bound, rfl⟩⟩
  · exact ⟨_, store_eq_ok.mpr ⟨v, b, rfl, bound, rfl⟩⟩

theorem store_double {v : Value} {x : Double} (prepared : prepareNumeric v = .ok (.float x)) :
    ∃ w, numeric.store v = .ok w := by
  obtain ⟨b, bound⟩ := bind_float x
  exact ⟨_, store_eq_ok.mpr ⟨_, b, prepared, bound, rfl⟩⟩

end ColumnType

namespace Declaration

theorem word_of_short {i : Int} (short : (-(2 ^ 31) ≤ i && i < 2 ^ 31) = true) :
    ColumnType.isWord i = true := by
  simp only [ColumnType.isWord, Bool.and_eq_true, decide_eq_true_eq] at short ⊢
  omega

theorem bind_of_fits {d : Declaration} (whole : d = integer ∨ d = identifier) {v : Value}
    (h : d.fits v = true) : ∃ b, ColumnType.bind v = .ok b := by
  cases v with
  | null => exact ⟨_, rfl⟩
  | bool b => exact ⟨_, rfl⟩
  | text s => exact ⟨_, rfl⟩
  | float x => exact ColumnType.bind_float x
  | int i =>
    rcases whole with rfl | rfl
    · exact ⟨_, ColumnType.bind_int (word_of_short h)⟩
    · exact ⟨_, ColumnType.bind_int h⟩
  | decimal d => rcases whole with rfl | rfl <;> cases h
  | list items => rcases whole with rfl | rfl <;> cases h
  | object members => rcases whole with rfl | rfl <;> cases h

theorem prepare_of_fits {digits places : Nat} (range : 10 ^ (digits - places) ≤ 2 ^ 128) {v : Value}
    (h : (numeric digits places).fits v = true) :
    v = .null ∨ ∃ x, ColumnType.prepareNumeric v = .ok (.float x) := by
  cases v with
  | null => exact .inl rfl
  | float x => exact .inr ⟨x, rfl⟩
  | int i =>
    have small : i.natAbs < 10 ^ (digits - places) := of_decide_eq_true h
    obtain ⟨x, found⟩ := Option.isSome_iff_exists.mp
      (Double.ofInt?_isSome (Nat.lt_of_lt_of_le small range))
    exact .inr ⟨x, by simp only [ColumnType.prepareNumeric, found]⟩
  | decimal d =>
    have quiet : d.isSignalling = false := by simpa [Value.isKey] using isKey_of_fits h
    exact .inr ⟨d.toDouble, by simp only [ColumnType.prepareNumeric, quiet]; rfl⟩
  | bool b => cases h
  | text s => cases h
  | list items => cases h
  | object members => cases h

theorem truth_of_fits {v : Value} (h : boolean.fits v = true) :
    v = .null ∨ ∃ d, v.number? = some d ∧
      (d.equal (.ofInt 0) = true ∨ d.equal (.ofInt 1) = true) := by
  by_cases null : v = .null
  · exact .inl null
  · have truth : v.number?.any (fun d => d.equal (.ofInt 0) || d.equal (.ofInt 1)) = true := by
      cases v with
      | null => exact absurd rfl null
      | _ => exact h
    obtain ⟨d, number, equal⟩ := Option.any_eq_true _ _ |>.mp truth
    exact .inr ⟨d, number, by simpa using equal⟩

/-- Type of a column that is declared so. -/
def type : Declaration → ColumnType
  | text _ => .text
  | integer => .integer
  | identifier => .integer
  | boolean => .boolean
  | numeric _ _ => .numeric

theorem store_type_of_fits {d : Declaration}
    (range : ∀ digits places, d = numeric digits places → 10 ^ (digits - places) ≤ 2 ^ 128)
    {v : Value} (h : d.fits v = true) : ∃ w, d.type.store v = .ok w := by
  cases d with
  | text length =>
    cases v with
    | null => exact ⟨_, rfl⟩
    | text s => exact ⟨_, rfl⟩
    | _ => cases h
  | integer =>
    obtain ⟨b, bound⟩ := bind_of_fits (.inl rfl) h
    exact ColumnType.store_plain (.inr rfl) bound
  | identifier =>
    obtain ⟨b, bound⟩ := bind_of_fits (.inr rfl) h
    exact ColumnType.store_plain (.inr rfl) bound
  | boolean =>
    rcases truth_of_fits h with rfl | ⟨d, number, truth⟩
    · exact ⟨_, rfl⟩
    · exact ColumnType.store_truth number truth
  | numeric digits places =>
    rcases prepare_of_fits (range digits places rfl) h with rfl | ⟨x, prepared⟩
    · exact ⟨_, rfl⟩
    · exact ColumnType.store_double prepared

theorem ofColumn_range {c : String} {digits places : Nat}
    (h : ofColumn c = numeric digits places) : 10 ^ (digits - places) ≤ 2 ^ 128 := by
  unfold ofColumn at h
  split at h
  · cases h
  · split at h
    · cases h
    · split at h
      · cases h
      · cases h
      · cases h
      · cases h
        split
        · decide
        · decide

theorem store_of_fits {c : String} {v : Value} (h : (ofColumn c).fits v = true) :
    ∃ w, (ColumnType.ofColumn c).store v = .ok w := by
  -- `ColumnType.ofColumn` counts these columns as texts, which are kept as they are bound
  by_cases own : c ∈ ["creator_id", "high_counter", "low_counter"]
  · have kept : ColumnType.ofColumn c = .text ∧
        (ofColumn c = integer ∨ ofColumn c = identifier) := by
      simp only [List.mem_cons, List.not_mem_nil, or_false] at own
      rcases own with rfl | rfl | rfl
      · decide
      · decide
      · decide
    obtain ⟨b, bound⟩ := bind_of_fits kept.2 h
    exact ColumnType.store_plain (.inl kept.1) bound
  · have type : (ofColumn c).type = ColumnType.ofColumn c := by
      simp only [List.mem_cons, List.not_mem_nil, or_false, not_or] at own
      rw [ofColumn, if_neg own.1, if_neg (not_or.mpr own.2)]
      cases ColumnType.ofColumn c with
      | text => rfl
      | integer => rfl
      | boolean => rfl
      | numeric => rfl
    rw [← type]
    exact store_type_of_fits (fun _ _ => ofColumn_range) h

/-- Limits that the check of a field does not see to: widths, texts for what is no text, and truth
values for numbers. -/
def limits : Declaration → Value → Bool
  | text length, .text s => (text length).fits (.text s)
  | text _, _ => true
  | boolean, .text _ => false
  | boolean, .decimal d => boolean.fits (.decimal d)
  | boolean, _ => true
  | d, v => !v.isKey || d.fits v

theorem fits_boolean {v : Value} {b : Bool} (read : Reading.boolean v = .ok b)
    (limit : boolean.limits v = true) : boolean.fits v = true := by
  cases v with
  | null => cases read
  | text s => cases limit
  | list items => cases read
  | object members => cases read
  | decimal d => exact limit
  | bool b =>
    cases b with
    | false => decide
    | true => decide
  | int i =>
    obtain rfl | rfl : i = 0 ∨ i = 1 := Reading.boolean_int read
    · decide
    · decide
  | float x =>
    refine Bool.or_eq_true_iff.mpr ?_
    exact (Reading.boolean_float read).imp Decimal.equal_ofInt Decimal.equal_ofInt

theorem fits_number {d : Declaration} (number : d.type = .integer ∨ d.type = .numeric) {v : Value}
    (single : v.isKey = true) (limit : d.limits v = true) : d.fits v = true := by
  have all : (!v.isKey || d.fits v) = true := by
    cases d with
    | text length => rcases number with h | h <;> cases h
    | boolean => rcases number with h | h <;> cases h
    | integer => exact limit
    | identifier => exact limit
    | numeric digits places => exact limit
  rwa [single] at all

end Declaration

theorem parseNumber_isKey (s : String) : (parseNumber s).isKey = true := by
  unfold parseNumber
  dsimp only
  split
  · rfl
  · split
    · rfl
    · split
      · rfl
      · rfl

theorem Value.isKey_of_finite {v : Value} {negative : Bool} {c : Nat} {e : Int}
    (h : Reading.decimal v = .ok (.finite negative c e)) : v.isKey = true := by
  cases v with
  | null => rfl
  | bool b => rfl
  | int i => rfl
  | float x => rfl
  | text s => rfl
  | list items => cases h
  | object members => cases h
  | decimal d =>
    cases h
    rfl

namespace FieldKind

theorem toStorage_null (kind : FieldKind) : kind.toStorage .null = .null := by
  cases kind with
  | copied => rfl
  | array => rfl
  | number => rfl
  | percentage => rfl

theorem toStorage_number_isKey {v : Value} (single : v.isKey = true) :
    (number.toStorage v).isKey = true := by
  cases v with
  | text s => exact parseNumber_isKey s
  | null => exact single
  | bool b => exact single
  | int i => exact single
  | float x => exact single
  | decimal d => exact single
  | list items => exact single
  | object members => exact single

theorem toStorage_percentage_isKey {v : Value} {negative : Bool} {c : Nat} {e : Int}
    (h : Reading.decimal v = .ok (.finite negative c e)) :
    (percentage.toStorage v).isKey = true := by
  have single := Value.isKey_of_finite h
  cases v with
  | text s =>
    simp only [Reading.decimal] at h
    split at h
    · next d read =>
      cases h
      simp only [toStorage, read]
      split
      · rfl
      · rfl
    · cases h
  | null => exact single
  | bool b => exact single
  | int i => exact single
  | float x => exact single
  | decimal d => exact single
  | list items => exact single
  | object members => exact single

end FieldKind

theorem Rule.Takes.fits {r : Rule} {kind : FieldKind} {d : Declaration} {v : Value}
    (takes : r.Takes v) (suits : r.kind.suits kind d.type = true)
    (limit : d.limits (kind.toStorage v) = true) : d.fits (kind.toStorage v) = true := by
  rcases takes with ⟨-, rfl⟩ | checked
  · rw [kind.toStorage_null]
    exact d.fits_null
  · generalize type : d.type = t at suits
    unfold RuleKind.suits at suits
    split at suits
    · next isText =>
      obtain ⟨s, rfl⟩ := text_of_check isText checked
      cases d with
      | text length => exact limit
      | _ => cases type
    · next isBoolean =>
      obtain ⟨b, read⟩ := boolean_of_check isBoolean checked
      cases d with
      | boolean => exact Declaration.fits_boolean read limit
      | _ => cases type
    · next isList =>
      obtain ⟨items, rfl⟩ := list_of_check isList checked
      cases d with
      | text length => exact limit
      | _ => cases type
    · next isInteger =>
      obtain ⟨i, read⟩ := integer_of_check isInteger checked
      by_cases single : v.isKey = true
      · exact Declaration.fits_number (.inl type) (FieldKind.toStorage_number_isKey single) limit
      · cases v with
        | decimal x =>
          cases x with
          | nan negative signalling payload => cases read
          | _ => exact absurd rfl single
        | list items => cases read
        | object members => cases read
        | _ => exact absurd rfl single
    · next isDecimal =>
      obtain ⟨negative, c, e, read⟩ := decimal_of_check isDecimal checked
      exact Declaration.fits_number (.inr type)
        (FieldKind.toStorage_number_isKey (Value.isKey_of_finite read)) limit
    · next isDecimal =>
      obtain ⟨negative, c, e, read⟩ := decimal_of_check isDecimal checked
      exact Declaration.fits_number (.inr type) (FieldKind.toStorage_percentage_isKey read) limit
    · cases suits

end FloodScheme
