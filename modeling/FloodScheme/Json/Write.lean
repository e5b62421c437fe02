import FloodScheme.Number.Rounded
import FloodScheme.Value

/-! Writing JSON in ASCII. A decimal is written as the text of it. A whole number with too many
digits is not written, and nothing that holds one is. -/
namespace FloodScheme.Json
open Number

mutual

/-- No whole number in the value has too many digits. -/
def isLegible : Value → Bool
  | .int i => isWritable i
  | .list items => legibleItems items
  | .object members => legibleMembers members
  | _ => true

def legibleItems : List Value → Bool
  | [] => true
  | v :: rest => isLegible v && legibleItems rest

def legibleMembers : List (String × Value) → Bool
  | [] => true
  | (_, v) :: rest => isLegible v && legibleMembers rest

end

/-- A unit of sixteen bits by its four digits. -/
def escapedUnit (n : Nat) : List Char :=
  ['\\', 'u', Nat.digitChar (n / 4096 % 16), Nat.digitChar (n / 256 % 16),
    Nat.digitChar (n / 16 % 16), Nat.digitChar (n % 16)]

/-- A character inside quotes. Beyond sixteen bits it takes two units. -/
def escaped (c : Char) : List Char :=
  if c = '"' ∨ c = '\\' then ['\\', c]
  else if c = '\n' then ['\\', 'n']
  else if c = '\r' then ['\\', 'r']
  else if c = '\t' then ['\\', 't']
  else if c = '\x0c' then ['\\', 'f']
  else if c = '\x08' then ['\\', 'b']
  else if 32 ≤ c.toNat ∧ c.toNat < 127 then [c]
  else if c.toNat < 0x10000 then escapedUnit c.toNat
  else
    escapedUnit (0xD800 + (c.toNat - 0x10000) / 0x400) ++
      escapedUnit (0xDC00 + (c.toNat - 0x10000) % 0x400)

def quoted (s : String) : List Char := '"' :: s.toList.flatMap escaped ++ ['"']

def floatText (x : Double) : String :=
  match x with
  | .nan => "NaN"
  | .infinity negative => if negative then "-Infinity" else "Infinity"
  | x => x.text

mutual

def written : Value → List Char
  | .null => "null".toList
  | .bool b => (if b then "true" else "false").toList
  | .int i => (integerText i).toList
  | .float x => (floatText x).toList
  | .decimal d => quoted d.text
  | .text s => quoted s
  | .list items => '[' :: writtenItems items ++ [']']
  | .object members => '\x7b' :: writtenMembers members ++ ['\x7d']

def writtenItems : List Value → List Char
  | [] => []
  | [v] => written v
  | v :: rest => written v ++ ',' :: ' ' :: writtenItems rest

def writtenMembers : List (String × Value) → List Char
  | [] => []
  | [(n, v)] => quoted n ++ ':' :: ' ' :: written v
  | (n, v) :: rest => quoted n ++ ':' :: ' ' :: written v ++ ',' :: ' ' :: writtenMembers rest

end

def write? (v : Value) : Option String :=
  if isLegible v then some (String.ofList (written v)) else none

end FloodScheme.Json
