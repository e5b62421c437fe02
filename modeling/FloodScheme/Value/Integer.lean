import FloodScheme.Fault
import FloodScheme.Text.Blank

/-! Whole numbers in values of any kind. -/
namespace FloodScheme.Value
open Number

/-- Whole part of a number, or the number that a text reads as. An infinite number has none and
is a fault. -/
def wholePart : Value → Except Fault (Option Int)
  | bool b => .ok (some (if b then 1 else 0))
  | int i => .ok (some i)
  | float (.infinity _) => .error .unbounded
  | float x => .ok x.truncate?
  | decimal (.infinity _) => .error .unbounded
  | decimal d => .ok d.truncate?
  | text s => .ok (readInteger? s)
  | _ => .ok none

/-- Number of a row: what the text of a value reads as. -/
def key? (v : Value) : Option Int := readInteger? (Text.trim v.shown)

end FloodScheme.Value
