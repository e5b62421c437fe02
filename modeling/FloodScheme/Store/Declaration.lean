import FloodScheme.Store.Column

/-! Columns as the tables declare them, with their widths, and the values that fit them. Values are
those that are sent: no type of a column has looked at them yet. -/
namespace FloodScheme
open Number

/-- Rounded to so many places, half away from zero, a number has so many digits at most. -/
def Number.Decimal.isWithin (digits places : Nat) : Decimal → Bool
  | finite _ c e => compareMagnitude c e ((2 * 10 ^ digits - 1) * 5) (-(places + 1)) == .lt
  | _ => false

inductive Declaration
  /-- A text of at most so many characters, or of any number of them. -/
  | text (length : Option Nat)
  /-- A whole number of 32 bits. -/
  | integer
  /-- A whole number of 64 bits. -/
  | identifier
  | boolean
  | numeric (digits places : Nat)
deriving DecidableEq, Repr

namespace Declaration

def lengths : List (String × Nat) := [
  ("reference_number", 50), ("slug", 50), ("rfcc_code", 10), ("name", 255), ("rma_name", 255),
  ("project_type", 20), ("project_intervention_types", 255), ("main_intervention_type", 20),
  ("project_risks_protected_against", 255), ("main_source_of_risk", 50),
  ("current_flood_fluvial_risk", 20), ("current_flood_surface_water_risk", 20),
  ("current_coastal_erosion_risk", 20), ("urgency_reason", 50),
  ("confidence_homes_better_protected", 20), ("confidence_homes_by_gateway_four", 20),
  ("confidence_secured_partnership_funding", 20)]

def percentages : List String :=
  ["percent_properties_20_percent_deprived", "percent_properties_40_percent_deprived"]

/-- Declaration of a column of the project table or of the counter table. -/
def ofColumn (column : String) : Declaration :=
  if column = "creator_id" then identifier
  else if column = "high_counter" ∨ column = "low_counter" then integer
  else
    match ColumnType.ofColumn column with
    | .text => text (lengths.lookup column)
    | .integer => integer
    | .boolean => boolean
    | .numeric => numeric (if percentages.contains column then 5 else 10) 2

/-- Values that go into a column as they are. Texts hold no null character; a double counts with
the digits of its text. -/
def fits : Declaration → Value → Bool
  | _, .null => true
  | text length, .text s => length.all (s.length ≤ ·) && !s.toList.contains '\x00'
  | integer, .int i => -(2 ^ 31) ≤ i && i < 2 ^ 31
  | integer, .float x => x.whole?.any fun i => -(2 ^ 31) ≤ i && i < 2 ^ 31
  | identifier, .int i => ColumnType.isWord i
  | boolean, v => v.number?.any fun d => d.equal (.ofInt 0) || d.equal (.ofInt 1)
  | numeric digits places, .int i => i.natAbs < 10 ^ (digits - places)
  | numeric digits places, .float x => (Decimal.ofDoubleText x).isWithin digits places
  | numeric digits places, .decimal d => d.isWithin digits places
  | _, _ => false

theorem fits_null (d : Declaration) : d.fits .null = true := by
  cases d with
  | text length => rfl
  | integer => rfl
  | identifier => rfl
  | boolean => rfl
  | numeric digits places => rfl

theorem isKey_of_fits {d : Declaration} {v : Value} (h : d.fits v = true) : v.isKey = true := by
  cases v with
  | null => rfl
  | bool b => rfl
  | int i => rfl
  | float x => rfl
  | text s => rfl
  | list items => cases d <;> cases h
  | object members => cases d <;> cases h
  | decimal x =>
    cases x with
    | finite negative c e => rfl
    | infinity negative => rfl
    | nan negative signalling payload => cases d <;> cases h

end Declaration
end FloodScheme
