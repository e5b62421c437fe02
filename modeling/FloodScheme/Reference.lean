import FloodScheme.Fault
import FloodScheme.Text.Case

/-! Reference numbers: the coordination code, a fixed part and two counters, of which the low
one runs from 1 to 999 and then moves the high one on. -/
namespace FloodScheme

structure Counters where
  high : Int
  low : Int
deriving DecidableEq, Repr

namespace Counters

def greatestLow : Int := 999

def first : Counters := ⟨0, 1⟩

def next (c : Counters) : Counters :=
  if greatestLow ≤ c.low then ⟨c.high + 1, 1⟩ else ⟨c.high, c.low + 1⟩

/-- What follows a counter that may be missing. -/
def after : Option Counters → Counters
  | none => first
  | some c => c.next

def run : Nat → Option Counters → List Counters
  | 0, _ => []
  | n + 1, current => after current :: run n (some (after current))

end Counters

namespace Reference

def middle : String := "C501E"

def counterText (n : Int) : String := Number.paddedText 3 n ++ "A"

def format (code : String) (c : Counters) : String :=
  code ++ middle ++ "/" ++ counterText c.high ++ "/" ++ counterText c.low

/-- Lower case, with dashes for slashes. -/
def slug (reference : String) : String :=
  String.ofList ((Text.lower reference).toList.map fun c => if c = '/' then '-' else c)

/-- A counter that may have been sent as anything. -/
def counter : Value → Except Fault Int
  | .bool b => .ok (if b then 1 else 0)
  | .int i => if Number.isWritable i then .ok i else .error .unformattable
  | .float _ => .error .unformattable
  | .decimal _ => .error .unformattable
  | .text _ => .error .unformattable
  | _ => .error .wrongShape

/-- Reference number of parts that may have been sent as anything. -/
def formatValues (code high low : Value) : Except Fault String := do
  let high ← counter high
  let low ← counter low
  pure (format code.shown ⟨high, low⟩)

end Reference
end FloodScheme
