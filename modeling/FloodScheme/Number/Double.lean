import FloodScheme.Number.Numeral
import FloodScheme.Text.Case

/-! Binary floating point with 53 significant bits. A finite double is a sign, a significand
and a power of two, kept in one canonical form; a quotient of naturals is rounded to the
nearest double, half to the even significand. -/
namespace FloodScheme.Number

inductive Double
  | finite (negative : Bool) (significand : Nat) (exponent : Int)
  | infinity (negative : Bool)
  | nan
deriving DecidableEq

namespace Double

/-- Least power of two of a significand. -/
def leastExponent : Int := -1074

/-- Greatest power of two of a significand. -/
def greatestExponent : Int := 971

def zero (negative : Bool) : Double := finite negative 0 leastExponent

/-- Quotient rounded to the nearest natural number, half to the even one. -/
def roundHalfEven (num den : Nat) : Nat :=
  let q := num / den
  let r := num % den
  if 2 * r < den then q
  else if den < 2 * r then q + 1
  else if q % 2 == 0 then q else q + 1

/-- The quotient `num / den` in units of a power of two. -/
def inUnits (num den : Nat) (exponent : Int) : Nat × Nat :=
  if exponent < 0 then (num * 2 ^ exponent.natAbs, den) else (num, den * 2 ^ exponent.natAbs)

/-- Power of two of the significand before rounding: 53 bits, or fewer at the lower end. -/
def unitFor (num den : Nat) : Int :=
  let guess := (Nat.log2 num : Int) - (Nat.log2 den : Int) - 53
  let (n, d) := inUnits num den guess
  let unit := if n / d < 2 ^ 53 then guess else guess + 1
  if unit < leastExponent then leastExponent else unit

/-- Nearest double to `num / den`. -/
def nearest (negative : Bool) (num den : Nat) : Double :=
  if num = 0 then zero negative
  else
    let unit := unitFor num den
    let (n, d) := inUnits num den unit
    let m := roundHalfEven n d
    let (m, unit) := if m = 2 ^ 53 then (2 ^ 52, unit + 1) else (m, unit)
    if greatestExponent < unit then infinity negative else finite negative m unit

/-- Nearest double to `coefficient * 10 ^ exponent`. Numbers beyond the range are told by the place
of their first digit, before any power of ten is computed. -/
def ofDecimal (negative : Bool) (coefficient : Nat) (exponent : Int) : Double :=
  if coefficient = 0 then zero negative
  else
    let top := (digits coefficient).length + exponent
    if 310 < top then infinity negative
    else if top < -330 then zero negative
    else if exponent < 0 then nearest negative coefficient (10 ^ exponent.natAbs)
    else nearest negative (coefficient * 10 ^ exponent.natAbs) 1

def ofNumeral (n : Numeral) : Double := ofDecimal n.negative n.coefficient n.exponent

/-- Nearest double to a whole number; none if that is infinite. -/
def ofInt? (i : Int) : Option Double :=
  match nearest (i < 0) i.natAbs 1 with
  | infinity _ => none
  | x => some x

def magnitude (significand : Nat) (exponent : Int) : Nat × Nat :=
  if exponent < 0 then (significand, 2 ^ exponent.natAbs) else (significand * 2 ^ exponent.natAbs, 1)

/-- The whole part, toward zero; none for infinities and NaN. -/
def truncate? : Double → Option Int
  | finite negative m e =>
    let (num, den) := magnitude m e
    some (signed negative (num / den))
  | _ => none

/-- The whole number equal to a double. -/
def whole? : Double → Option Int
  | finite negative m e =>
    let (num, den) := magnitude m e
    if num % den = 0 then some (signed negative (num / den)) else none
  | _ => none

def isFinite : Double → Bool
  | finite .. => true
  | _ => false

def isZero : Double → Bool
  | finite _ m _ => m == 0
  | _ => false

/-- The words for infinity and NaN, in any case. -/
def readName? (cs : List Char) : Option Double :=
  let (negative, rest) := takeSign cs
  let name := String.ofList (rest.map Text.asciiLower)
  if name == "inf" || name == "infinity" then some (infinity negative)
  else if name == "nan" then some nan
  else none

/-- A double as a person may type it. -/
def read? (s : String) : Option Double :=
  let cs := plainDigits (Text.trimBy Text.isSpace s.toList)
  match readName? cs with
  | some x => some x
  | none => do
    let cs ← dropGrouping none cs
    let n ← Numeral.read? cs
    pure (ofNumeral n)

end Double
end FloodScheme.Number
