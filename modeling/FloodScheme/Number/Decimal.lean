import FloodScheme.Number.Shortest

/-! Exact decimals: a coefficient and a power of ten, so that `12.50` and `12.5` are equal and
yet written differently, next to the infinities and the two kinds of NaN. -/
namespace FloodScheme.Number

inductive Decimal
  | finite (negative : Bool) (coefficient : Nat) (exponent : Int)
  | infinity (negative : Bool)
  | nan (negative signalling : Bool) (payload : Nat)
deriving DecidableEq

namespace Decimal

def ofInt (i : Int) : Decimal := finite (i < 0) i.natAbs 0

/-- Power of ten of the first digit. -/
def adjusted (coefficient : Nat) (exponent : Int) : Int :=
  exponent + (digits coefficient).length - 1

def greatestAdjusted : Int := 999999999999999999

def leastExponent : Int := -1999999999999999997

def isNaN : Decimal → Bool
  | nan .. => true
  | _ => false

def isSignalling : Decimal → Bool
  | nan _ signalling _ => signalling
  | _ => false

def isFinite : Decimal → Bool
  | finite .. => true
  | _ => false

/-- The words for infinity and NaN; a NaN may carry digits. -/
def readName? (negative : Bool) (cs : List Char) : Option Decimal :=
  let lowered := cs.map Text.asciiLower
  let payload (signalling : Bool) (rest : List Char) : Option Decimal :=
    if rest.all Char.isDigit then some (nan negative signalling (valueOf (takeDigits rest).1))
    else none
  match lowered with
  | 's' :: 'n' :: 'a' :: 'n' :: rest => payload true rest
  | 'n' :: 'a' :: 'n' :: rest => payload false rest
  | _ =>
    if lowered = ['i', 'n', 'f'] ∨ lowered = ['i', 'n', 'f', 'i', 'n', 'i', 't', 'y'] then
      some (infinity negative)
    else none

/-- A decimal as a person may type it: blanks around it and every underscore are left out. -/
def read? (s : String) : Option Decimal :=
  let cs := (plainDigits (Text.trimBy Text.isBlank s.toList)).filter (· != '_')
  match Numeral.read? cs with
  | some n =>
    if greatestAdjusted < adjusted n.coefficient n.exponent ∨ n.exponent < leastExponent then none
    else some (finite n.negative n.coefficient n.exponent)
  | none =>
    let (negative, rest) := takeSign cs
    readName? negative rest

/-- A decimal with the digits of a double's shortest text. -/
def ofDoubleText (x : Double) : Decimal := (read? x.text).getD (nan false false 0)

/-- The decimal equal to a double. -/
def ofDouble : Double → Decimal
  | .nan => nan false false 0
  | .infinity negative => infinity negative
  | .finite negative m e =>
    if e < 0 then finite negative (m * 5 ^ e.natAbs) e
    else finite negative (m * 2 ^ e.natAbs) 0

def signText (negative : Bool) : List Char := if negative then ['-'] else []

def payloadText (payload : Nat) : List Char := if payload = 0 then [] else digits payload

def nanText (negative signalling : Bool) (payload : Nat) : String :=
  String.ofList (signText negative ++ (if signalling then ['s'] else []) ++ ['N', 'a', 'N'] ++
    payloadText payload)

/-- Digits with a point `places` from the right. -/
def pointed (ds : List Char) (places : Nat) : List Char :=
  if places = 0 then ds
  else
    let ds := List.replicate (places + 1 - ds.length) '0' ++ ds
    ds.take (ds.length - places) ++ '.' :: ds.drop (ds.length - places)

/-- Scientific text: an exponent is written if it is positive or the first digit stands lower
than `10 ^ -6`. -/
def text : Decimal → String
  | nan negative signalling payload => nanText negative signalling payload
  | infinity negative => String.ofList (signText negative ++ "Infinity".toList)
  | finite negative c e =>
    let ds := digits c
    if e ≤ 0 ∧ -6 ≤ adjusted c e then
      String.ofList (signText negative ++ pointed ds e.natAbs)
    else
      let k := adjusted c e
      let mark := 'E' :: (if k < 0 then '-' else '+') :: digits k.natAbs
      let head :=
        match ds with
        | [d] => [d]
        | d :: rest => d :: '.' :: rest
        | [] => []
      String.ofList (signText negative ++ head ++ mark)

/-- Text without an exponent. -/
def plainText : Decimal → String
  | nan negative signalling payload => nanText negative signalling payload
  | infinity negative => String.ofList (signText negative ++ "Infinity".toList)
  | finite negative c e =>
    if 0 < e then
      String.ofList (signText negative ++
        (if c = 0 then ['0'] else digits (c * 10 ^ e.natAbs)))
    else String.ofList (signText negative ++ pointed (digits c) e.natAbs)

/-- Order of two magnitudes; the first digits decide before any power of ten is formed. -/
def compareMagnitude (c₁ : Nat) (e₁ : Int) (c₂ : Nat) (e₂ : Int) : Ordering :=
  if c₁ = 0 then (if c₂ = 0 then .eq else .lt)
  else if c₂ = 0 then .gt
  else
    let a₁ := adjusted c₁ e₁
    let a₂ := adjusted c₂ e₂
    if a₁ < a₂ then .lt
    else if a₂ < a₁ then .gt
    else if e₁ < e₂ then compare c₁ (c₂ * 10 ^ (e₂ - e₁).natAbs)
    else compare (c₁ * 10 ^ (e₁ - e₂).natAbs) c₂

/-- Order of two decimals by value; none if either is NaN. -/
def compare? : Decimal → Decimal → Option Ordering
  | nan .., _ => none
  | _, nan .. => none
  | infinity n₁, infinity n₂ => some (compare n₂ n₁)
  | infinity n, finite .. => some (if n then .lt else .gt)
  | finite .., infinity n => some (if n then .gt else .lt)
  | finite n₁ c₁ e₁, finite n₂ c₂ e₂ =>
    if c₁ = 0 ∧ c₂ = 0 then some .eq
    else
      match n₁, n₂ with
      | false, false => some (compareMagnitude c₁ e₁ c₂ e₂)
      | true, true => some (compareMagnitude c₂ e₂ c₁ e₁)
      | true, false => some .lt
      | false, true => some .gt

def le (a b : Decimal) : Bool := (compare? a b).any (· != .gt)

def equal (a b : Decimal) : Bool := compare? a b == some .eq

def trailingZeros : Nat → Nat → Nat
  | 0, _ => 0
  | fuel + 1, c => if c ≠ 0 ∧ c % 10 = 0 then trailingZeros fuel (c / 10) + 1 else 0

/-- The whole number equal to a finite decimal. -/
def whole? : Decimal → Option Int
  | finite negative c e =>
    if c = 0 then some 0
    else if 0 ≤ e then some (signed negative (c * 10 ^ e.natAbs))
    else if (digits c).length ≤ e.natAbs then none
    else if c % 10 ^ e.natAbs = 0 then some (signed negative (c / 10 ^ e.natAbs))
    else none
  | _ => none

/-- The whole part of a finite decimal, toward zero. -/
def truncate? : Decimal → Option Int
  | finite negative c e =>
    if c = 0 then some 0
    else if 0 ≤ e then some (signed negative (c * 10 ^ e.natAbs))
    else if (digits c).length ≤ e.natAbs then some 0
    else some (signed negative (c / 10 ^ e.natAbs))
  | _ => none

def toDouble : Decimal → Double
  | nan .. => .nan
  | infinity negative => .infinity negative
  | finite negative c e => Double.ofDecimal negative c e

/-- Exponent once the zeros at the end of the coefficient are dropped; that of zero is zero. -/
def leanExponent (c : Nat) (e : Int) : Int :=
  if c = 0 then 0 else e + trailingZeros (digits c).length c

end Decimal
end FloodScheme.Number
