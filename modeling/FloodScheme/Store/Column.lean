import FloodScheme.Fault
import FloodScheme.Number.Rounded

/-! Columns: what each type accepts, and what a value has become when it is read back. -/
namespace FloodScheme
open Number

inductive ColumnType
  | text
  | integer
  | boolean
  | numeric
deriving DecidableEq, Repr

namespace ColumnType

def booleans : List String := [
  "could_start_early", "no_properties_at_flood_risk", "no_properties_at_coastal_erosion_risk",
  "environmental_benefits", "intertidal_habitat", "woodland", "wet_woodland",
  "wetland_or_wet_grassland", "grassland", "heathland", "ponds_lakes", "arable_land",
  "comprehensive_restoration", "partial_restoration", "create_habitat_watercourse"]

def numerics : List String := [
  "percent_properties_20_percent_deprived", "percent_properties_40_percent_deprived",
  "hectares_of_intertidal_habitat_created_or_enhanced",
  "hectares_of_woodland_habitat_created_or_enhanced",
  "hectares_of_wet_woodland_habitat_created_or_enhanced",
  "hectares_of_wetland_or_wet_grassland_created_or_enhanced",
  "hectares_of_grassland_habitat_created_or_enhanced",
  "hectares_of_heathland_created_or_enhanced",
  "hectares_of_pond_or_lake_habitat_created_or_enhanced",
  "hectares_of_arable_land_lake_habitat_created_or_enhanced",
  "kilometres_of_watercourse_enhanced_or_created_comprehensive",
  "kilometres_of_watercourse_enhanced_or_created_partial",
  "kilometres_of_watercourse_enhanced_or_created_single"]

def integers : List String := [
  "earliest_start_year", "project_end_financial_year",
  "start_outline_business_case_month", "start_outline_business_case_year",
  "complete_outline_business_case_month", "complete_outline_business_case_year",
  "award_contract_month", "award_contract_year",
  "start_construction_month", "start_construction_year",
  "ready_for_service_month", "ready_for_service_year",
  "earliest_with_gia_month", "earliest_with_gia_year",
  "properties_benefit_maintaining_assets", "properties_benefit_50_percent_reduction",
  "properties_benefit_less_50_percent_reduction", "properties_benefit_individual_intervention",
  "properties_benefit_maintaining_assets_coastal",
  "properties_benefit_investment_coastal_erosion"]

/-- Type of a column of the project table. -/
def ofColumn (column : String) : ColumnType :=
  if booleans.contains column then boolean
  else if numerics.contains column then numeric
  else if integers.contains column then integer
  else text

/-- Values equal to a truth value count as it. -/
def prepareBoolean (v : Value) : Except StoreFault Value :=
  match v with
  | .null => .ok .null
  | v =>
    match v.number? with
    | some d =>
      if d.equal (.ofInt 0) then .ok (.int 0)
      else if d.equal (.ofInt 1) then .ok (.int 1)
      else .error .columnType
    | none => .error .columnType

/-- Numbers, and texts that read as one, become doubles. -/
def prepareNumeric (v : Value) : Except StoreFault Value :=
  let known (x : Option Double) : Except StoreFault Value :=
    match x with
    | some x => .ok (.float x)
    | none => .error .columnType
  match v with
  | .null => .ok .null
  | .bool b => known (Double.ofInt? (if b then 1 else 0))
  | .int i => known (Double.ofInt? i)
  | .float x => .ok (.float x)
  | .decimal d => if d.isSignalling then .error .columnType else .ok (.float d.toDouble)
  | .text s => known (Double.read? s)
  | _ => .error .columnType

/-- First step: the type of the column looks at the value. -/
def prepare : ColumnType → Value → Except StoreFault Value
  | boolean, v => prepareBoolean v
  | numeric, v => prepareNumeric v
  | _, v => .ok v

/-- Whole numbers of 64 bits. -/
def isWord (i : Int) : Bool := -(2 ^ 63) ≤ i && i < 2 ^ 63

/-- Second step: the value goes into a statement. -/
def bind (v : Value) : Except StoreFault Value :=
  match v with
  | .bool b => .ok (.int (if b then 1 else 0))
  | .int i => if isWord i then .ok v else .error .tooLarge
  | .float .nan => .ok .null
  | .list _ => .error .unbindable
  | .object _ => .error .unbindable
  | .decimal _ => .error .unbindable
  | v => .ok v

/-- Whole doubles inside 64 bits are kept as whole numbers. -/
def keepNumber (x : Double) : Value :=
  match x.whole? with
  | some i => if -(2 ^ 63) < i ∧ i < 2 ^ 63 then .int i else .float x
  | none => .float x

/-- Whole numbers, and texts of numbers, in an integer column. -/
def keepInteger (v : Value) : Value :=
  match v with
  | .float x => keepNumber x
  | .text s =>
    match Numeral.read? (Text.trimBy (fun c => c.toNat == 32 || (9 ≤ c.toNat && c.toNat ≤ 13)) s.toList) with
    | some n =>
      let whole := signed n.negative n.coefficient
      if n.exponent = 0 ∧ isWord whole then .int whole else keepNumber (Double.ofNumeral n)
    | none => v
  | v => v

def keepText (v : Value) : Value :=
  match v with
  | .int i => .text (integerText i)
  | .float x => .text x.roundedText
  | v => v

def keepBoolean (v : Value) : Value :=
  match v with
  | .int i => .bool (i != 0)
  | v => v

/-- Two places, half to even; a whole number has no sign at zero. -/
def keepNumeric (v : Value) : Value :=
  match v with
  | .float x =>
    match keepNumber x with
    | .int i => .decimal (.finite (i < 0) (i.natAbs * 100) (-2))
    | _ => .decimal (x.toPlaces 2)
  | v => v

/-- Third step: the value as it is read back. -/
def keep : ColumnType → Value → Value
  | text, v => keepText v
  | integer, v => keepInteger v
  | boolean, v => keepBoolean v
  | numeric, v => keepNumeric v

/-- All steps. -/
def store (t : ColumnType) (v : Value) : Except StoreFault Value := do
  pure (t.keep (← bind (← t.prepare v)))

end ColumnType
end FloodScheme
