import FloodScheme.Number.Double

/-! The shortest decimal text of a double. Of the decimal grids with one, two, … digits the
first that has a point which reads back wins; of two such points the nearer one, and the even
one if both are as near. -/
namespace FloodScheme.Number.Double

/-- Power of ten of the first digit of `num / den`. -/
def decimalTop (num den : Nat) : Int :=
  let guess := ((digits num).length : Int) - (digits den).length
  let reached :=
    if guess < 0 then decide (den ≤ num * 10 ^ guess.natAbs)
    else decide (den * 10 ^ guess.natAbs ≤ num)
  if reached then guess else guess - 1

/-- The quotient `num / den` in units of a power of ten. -/
def inTens (num den : Nat) (exponent : Int) : Nat × Nat :=
  if exponent < 0 then (num * 10 ^ exponent.natAbs, den) else (num, den * 10 ^ exponent.natAbs)

/-- Point of the grid with step `10 ^ exponent` that reads back as `x`. -/
def gridPoint? (x : Double) (num den : Nat) (exponent : Int) : Option Nat :=
  let (n, d) := inTens num den exponent
  let low := n / d
  let r := n % d
  let lowReads := low ≠ 0 ∧ ofDecimal false low exponent = x
  let highReads := ofDecimal false (low + 1) exponent = x
  if lowReads then
    if highReads then
      if 2 * r < d then some low
      else if d < 2 * r then some (low + 1)
      else if low % 2 = 0 then some low else some (low + 1)
    else some low
  else if highReads then some (low + 1)
  else none

/-- Tries grids of `count` digits and more; `fuel` grids at most. -/
def searchGrids (x : Double) (num den : Nat) (top : Int) : Nat → Nat → Nat × Int
  | 0, _ => (0, 0)
  | fuel + 1, count =>
    let exponent := top + 1 - count
    match gridPoint? x num den exponent with
    | some point => (point, exponent)
    | none => searchGrids x num den top fuel (count + 1)

/-- Zeros at the end of a coefficient move into the exponent. -/
def dropZeros : Nat → Nat → Int → Nat × Int
  | 0, c, e => (c, e)
  | fuel + 1, c, e => if c ≠ 0 ∧ c % 10 = 0 then dropZeros fuel (c / 10) (e + 1) else (c, e)

/-- Shortest coefficient and power of ten of a positive finite double. -/
def shortest (significand : Nat) (exponent : Int) : Nat × Int :=
  let (num, den) := magnitude significand exponent
  let (c, e) := searchGrids (finite false significand exponent) num den (decimalTop num den) 17 1
  dropZeros 20 c e

/-- Exponent mark with a sign and two digits at least. -/
def exponentMark (e : Int) : List Char :=
  let ds := digits e.natAbs
  ['e', if e < 0 then '-' else '+'] ++ List.replicate (2 - ds.length) '0' ++ ds

/-- Digits `ds`, of which the first stands for `10 ^ top`, with `point` zeros where the
fraction would be empty. -/
def positional (ds : List Char) (top : Int) : List Char :=
  if top < 0 then '0' :: '.' :: List.replicate (top.natAbs - 1) '0' ++ ds
  else
    let whole := ds.take (top.natAbs + 1)
    let fraction := ds.drop (top.natAbs + 1)
    whole ++ List.replicate (top.natAbs + 1 - whole.length) '0' ++
      '.' :: (if fraction.isEmpty then ['0'] else fraction)

def scientific (ds : List Char) (top : Int) : List Char :=
  match ds with
  | [d] => d :: exponentMark top
  | d :: rest => d :: '.' :: rest ++ exponentMark top
  | [] => []

/-- Shortest text: without exponent from `10 ^ -4` up to, not including, `10 ^ 16`. -/
def text : Double → String
  | nan => "nan"
  | infinity negative => if negative then "-inf" else "inf"
  | finite negative m e =>
    let sign : List Char := if negative then ['-'] else []
    if m = 0 then String.ofList (sign ++ ['0', '.', '0'])
    else
      let (c, k) := shortest m e
      let ds := digits c
      let top := k + ds.length - 1
      if -4 ≤ top ∧ top < 16 then String.ofList (sign ++ positional ds top)
      else String.ofList (sign ++ scientific ds top)

end FloodScheme.Number.Double
