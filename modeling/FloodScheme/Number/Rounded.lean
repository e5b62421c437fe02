import FloodScheme.Number.Decimal

/-! Doubles rounded to a fixed number of places or of significant digits. The exact value is
rounded, half to even. -/
namespace FloodScheme.Number.Double

/-- The decimal with `places` digits behind the point that is nearest. -/
def toPlaces (places : Nat) : Double → Decimal
  | nan => .nan false false 0
  | infinity negative => .infinity negative
  | finite negative m e =>
    let (num, den) := magnitude m e
    .finite negative (roundHalfEven (num * 10 ^ places) den) (-(places : Int))

/-- Significant digits of a double that is kept as text. -/
def keptDigits : Nat := 15

/-- The nearest coefficient of `keptDigits` digits, and the power of ten of the first one. -/
def roundedDigits (num den : Nat) : Nat × Int :=
  let top := decimalTop num den
  let (n, d) := inTens num den (top + 1 - keptDigits)
  let c := roundHalfEven n d
  if c = 10 ^ keptDigits then (c / 10, top + 1) else (c, top)

/-- Text with 15 significant digits and at least one behind the point; an exponent is written
below `10 ^ -4` and from `10 ^ 15` on. -/
def roundedText : Double → String
  | nan => ""
  | infinity negative => if negative then "-Inf" else "Inf"
  | finite negative m e =>
    if m = 0 then "0.0"
    else
      let sign : List Char := if negative then ['-'] else []
      let (num, den) := magnitude m e
      let (c, top) := roundedDigits num den
      let ds := digits (dropZeros keptDigits c 0).1
      if -4 ≤ top ∧ top < keptDigits then String.ofList (sign ++ positional ds top)
      else
        let ds := if ds.length = 1 then ds ++ ['0'] else ds
        String.ofList (sign ++ scientific ds top)

end FloodScheme.Number.Double
