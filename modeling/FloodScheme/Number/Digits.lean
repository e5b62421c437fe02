import FloodScheme.Text.Blank
import FloodScheme.Text.Digit

/-! Whole numbers as decimal digits, written and read. Reading takes the digits of every
script, one sign, and single underscores between digits. -/
namespace FloodScheme.Number
open Text

-- Powers are those of the core library, whatever other powers are in scope.
attribute [instance (high), default_instance (high + 1)] instPowNat

/-- Longest row of digits that is read as a whole number. -/
def longestNumeral : Nat := 4300

def digits (n : Nat) : List Char := Nat.toDigits 10 n

def integerText (i : Int) : String :=
  if i < 0 then String.ofList ('-' :: digits i.natAbs) else String.ofList (digits i.natAbs)

/-- A whole number is written, as it is read, with so many digits at most. -/
def isWritable (i : Int) : Bool := i.natAbs < 10 ^ longestNumeral

def paddedText (width : Nat) (i : Int) : String :=
  let ds := digits i.natAbs
  let signs : List Char := if i < 0 then ['-'] else []
  String.ofList (signs ++ List.replicate (width - (signs.length + ds.length)) '0' ++ ds)

def valueOf (ds : List Nat) : Nat := ds.foldl (fun n d => 10 * n + d) 0

/-- Digits of every script become ASCII digits. -/
def plainDigits (cs : List Char) : List Char :=
  cs.map fun c => ((digit? c).map fun d => Char.ofNat (48 + d)).getD c

/-- Digits with single underscores between them. -/
def groupedDigits : List Char → Option (List Nat)
  | [] => none
  | [c] => (asciiDigit? c).map fun d => [d]
  | c :: '_' :: rest => do
    let d ← asciiDigit? c
    let ds ← groupedDigits rest
    pure (d :: ds)
  | c :: rest => do
    let d ← asciiDigit? c
    let ds ← groupedDigits rest
    pure (d :: ds)

/-- Sign of a numeral, and what follows it. -/
def takeSign : List Char → Bool × List Char
  | '-' :: rest => (true, rest)
  | '+' :: rest => (false, rest)
  | cs => (false, cs)

def signed (negative : Bool) (n : Nat) : Int := if negative then -(n : Int) else n

/-- A whole number as a person may type it. -/
def readInteger? (s : String) : Option Int := do
  let (negative, rest) := takeSign (plainDigits (trimBy isSpace s.toList))
  let ds ← groupedDigits rest
  if ds.length ≤ longestNumeral then pure (signed negative (valueOf ds)) else none

end FloodScheme.Number
