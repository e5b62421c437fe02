import FloodScheme.Store.Declaration
import FloodScheme.Store.Operation

/-! Engines: what a database refuses of the keys and values that it is sent. The tables declare
widths, and which of them are enforced is up to the engine. -/
namespace FloodScheme

/-- Faults of an engine for keys that are looked up and for values of columns. -/
structure Engine where
  keyFault? : Int → Option StoreFault
  columnFault? : String → Value → Option StoreFault

namespace Engine

def faults (e : Engine) : Faults
  | .readArea key => e.keyFault? key
  | .readUser key => e.keyFault? key
  | .sendColumn column v => e.columnFault? column v
  | _ => none

/-- Keys have 64 bits, and widths are not enforced. -/
def words : Engine where
  keyFault? key := if ColumnType.isWord key then none else some .tooLarge
  columnFault? column v :=
    match Declaration.ofColumn column, v with
    | .identifier, .int i => if ColumnType.isWord i then none else some .tooLarge
    | _, _ => none

/-- Every declaration is enforced, and a key that is out of range is not found. -/
def declared : Engine where
  keyFault? _ := none
  columnFault? column v :=
    if (Declaration.ofColumn column).fits v then none else some .failed

end Engine

/-- What an operation sends fits its column. -/
def Operation.fits : Operation → Bool
  | readArea key => ColumnType.isWord key
  | readUser key => ColumnType.isWord key
  | sendColumn column v => (Declaration.ofColumn column).fits v
  | _ => true

/-- Nothing fails that fits. -/
def Faults.Faithful (faults : Faults) : Prop := ∀ op, op.fits = true → faults op = Option.none

theorem Engine.words_faithful : words.faults.Faithful := by
  intro op fits
  cases op with
  | readArea key => exact if_pos fits
  | readUser key => exact if_pos fits
  | sendColumn column v =>
    have own : (Declaration.ofColumn column).fits v = true := fits
    dsimp only [faults, words]
    split
    · next declared =>
      rw [declared] at own
      exact if_pos own
    · rfl
  | _ => rfl

theorem Engine.declared_faithful : declared.faults.Faithful := by
  intro op fits
  cases op with
  | sendColumn column v => exact if_pos fits
  | _ => rfl

end FloodScheme
