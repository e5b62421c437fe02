import FloodScheme.Number.Digits

/-! Numbers with a fraction or an exponent as they are written: sign, coefficient and power of
ten. -/
namespace FloodScheme.Number
open Text

structure Numeral where
  negative : Bool
  coefficient : Nat
  exponent : Int
deriving DecidableEq

def takeDigits (cs : List Char) : List Nat × List Char :=
  ((cs.takeWhile Char.isDigit).map fun c => c.toNat - 48, cs.dropWhile Char.isDigit)

/-- Power of ten behind the letter `e`; nothing at all stands for zero. -/
def readExponent : List Char → Option Int
  | [] => some 0
  | c :: rest =>
    if c = 'e' ∨ c = 'E' then
      let (negative, rest) := takeSign rest
      match takeDigits rest with
      | ([], _) => none
      | (ds, []) => some (signed negative (valueOf ds))
      | _ => none
    else none

/-- Digits, a point that may stand at either end of them, and an exponent. -/
def Numeral.read? (cs : List Char) : Option Numeral := do
  let (negative, rest) := takeSign cs
  let (whole, rest) := takeDigits rest
  let (fraction, rest) :=
    match rest with
    | '.' :: rest => takeDigits rest
    | rest => ([], rest)
  if whole.isEmpty && fraction.isEmpty then none
  let exponent ← readExponent rest
  pure ⟨negative, valueOf (whole ++ fraction), exponent - fraction.length⟩

/-- Underscores are dropped where a digit stands on both sides, and refused elsewhere. -/
def dropGrouping (before : Option Char) : List Char → Option (List Char)
  | [] => some []
  | '_' :: c :: rest =>
    if (before.any Char.isDigit) && c.isDigit then
      (dropGrouping (some c) rest).map (c :: ·)
    else none
  | '_' :: [] => none
  | c :: rest => (dropGrouping (some c) rest).map (c :: ·)

end FloodScheme.Number
