import FloodScheme.Proofs.Decision.Requirements
import FloodScheme.Proofs.Number.Trimmed
import FloodScheme.Proofs.Number.Whole
import FloodScheme.Proofs.Store.Columns
import FloodScheme.Rule.Check

/-! Whole numbers in columns. The check of a field, the rules of the decision and the column each
read a value by themselves; if its text can be read at all, they read the same number. -/
namespace FloodScheme
open Number Outcome

namespace Number.Double

theorem truncate?_of_whole? {x : Double} {i : Int} (h : x.whole? = some i) :
    x.truncate? = some i := by
  cases x with
  | nan => cases h
  | infinity negative => cases h
  | finite negative m e =>
    simp only [whole?] at h
    split at h
    · exact h
    · cases h

end Number.Double

namespace Reading

theorem integerOfDouble_eq_ok {x : Double} {i : Int} (h : integerOfDouble x = .ok i) :
    x.whole? = some i ∧ fits64 i = true := by
  unfold integerOfDouble at h
  split at h
  · cases h
  · split at h
    · cases h
    · next whole =>
      split at h
      · next fits =>
        cases h
        exact ⟨whole, fits⟩
      · cases h

end Reading

namespace Value

/-- A text, if the value is one, that reads as a whole number. -/
def Legible (v : Value) : Prop := ∀ s, v = .text s → (readInteger? s).isSome = true

theorem whole?_eq_some {v : Value} {i : Int} :
    v.whole? = some i ↔ v.wholePart = .ok (some i) := by
  rw [whole?]
  cases v.wholePart with
  | error f => simp [Except.toOption]
  | ok found => simp [Except.toOption]

theorem eq_null_of_equal {v : Value} (h : null.equal v = true) : v = null := by
  cases v with
  | null => rfl
  | bool b => cases h
  | int i => cases h
  | float x => cases h
  | decimal d => cases h
  | text s => cases h
  | list items => cases h
  | object members => cases h

theorem whole?_text (s : String) : (text s).whole? = readInteger? s := rfl

theorem whole?_float {x : Double} {i : Int} (h : x.whole? = some i) :
    (float x).whole? = some i := by
  rw [whole?_eq_some]
  cases x with
  | nan => cases h
  | infinity negative => cases h
  | finite negative m e => exact congrArg Except.ok (Double.truncate?_of_whole? h)

end Value

theorem parseNumber_of_legible {s : String} {i : Int} (h : readInteger? s = some i) :
    parseNumber s = .int i := by
  obtain ⟨trimmed, some⟩ := readInteger?_trim h
  rw [parseNumber, if_neg some, trimmed]

namespace FieldKind

theorem whole?_toStorage {v : Value} (legible : v.Legible) :
    (number.toStorage v).whole? = v.whole? := by
  cases v with
  | text s =>
    obtain ⟨i, read⟩ := Option.isSome_iff_exists.mp (legible s rfl)
    change (parseNumber s).whole? = _
    rw [parseNumber_of_legible read, Value.whole?_text, read]
    rfl
  | null => rfl
  | bool b => rfl
  | int i => rfl
  | float x => rfl
  | decimal d => rfl
  | list items => rfl
  | object members => rfl

theorem toStorage_ne_null {v : Value} {i : Int} (read : Reading.integer v = .ok i)
    (legible : v.Legible) : number.toStorage v ≠ .null := by
  intro null
  cases v with
  | text s =>
    obtain ⟨j, number⟩ := Option.isSome_iff_exists.mp (legible s rfl)
    have mapped := (parseNumber_of_legible number).symm.trans null
    cases mapped
  | null => cases read
  | bool b => cases null
  | int i => cases null
  | float x => cases null
  | decimal d => cases null
  | list items => cases null
  | object members => cases null

end FieldKind

namespace ColumnType

theorem store_int {i : Int} {w : Value} (h : integer.store (.int i) = .ok w) : w = .int i := by
  obtain ⟨p, b, prepared, bound, rfl⟩ := store_eq_ok.mp h
  cases prepared
  simp only [bind] at bound
  split at bound
  · cases bound
    rfl
  · cases bound

theorem store_whole {v w : Value} {i : Int} (read : Reading.integer v = .ok i)
    (legible : v.Legible) (stored : integer.store (FieldKind.number.toStorage v) = .ok w) :
    ∃ j, w = .int j ∧ v.whole? = some j := by
  cases v with
  | null => cases read
  | list items => cases read
  | object members => cases read
  | decimal d => cases stored
  | bool b =>
    cases stored
    exact ⟨_, rfl, rfl⟩
  | int j => exact ⟨j, store_int stored, rfl⟩
  | text s =>
    obtain ⟨j, number⟩ := Option.isSome_iff_exists.mp (legible s rfl)
    change integer.store (parseNumber s) = .ok w at stored
    rw [parseNumber_of_legible number] at stored
    exact ⟨j, store_int stored, (Value.whole?_text s).trans number⟩
  | float x =>
    obtain ⟨whole, fits⟩ := Reading.integerOfDouble_eq_ok read
    refine ⟨i, ?_, Value.whole?_float whole⟩
    have kept : keepNumber x = .int i := by
      rw [keepNumber, whole]
      exact if_pos (by simpa [Reading.fits64] using fits)
    rw [← kept]
    cases x with
    | nan => cases whole
    | infinity negative => cases whole
    | finite negative m e =>
      cases stored
      rfl

end ColumnType
end FloodScheme
