import FloodScheme.Value.Text

/-! Faults: why an operation stops without returning a failure. -/
namespace FloodScheme

/-- Why the database does not carry out a statement. -/
inductive StoreFault
  /-- The database cannot be reached, or lacks the table. -/
  | unavailable
  /-- The database reports an error of no particular class. -/
  | failed
  /-- Something outside the database breaks. -/
  | crashed
  /-- A unique index or a column that needs a value refuses the row. -/
  | constraint (name : Option String)
  /-- The column's type does not take the value. -/
  | columnType
  /-- The statement cannot carry the value. -/
  | unbindable
  /-- A whole number beyond 64 bits. -/
  | tooLarge
deriving DecidableEq, Repr

def StoreFault.message : StoreFault → String
  | unavailable => "database unavailable"
  | failed => "database error"
  | crashed => "unexpected error"
  | constraint _ => "constraint violated"
  | columnType => "value does not fit its column"
  | unbindable => "value cannot be sent"
  | tooLarge => "number too large"

inductive Fault
  | unknownLevel (level : Value)
  | areaNotFound (id : Value)
  | projectNotFound (reference : Value)
  /-- A value whose shape the operation does not take. -/
  | wrongShape
  /-- A text was needed. -/
  | notText
  /-- A number that has no whole part, or none in range. -/
  | unbounded
  /-- A value that cannot be written in the format asked for. -/
  | unformattable
  /-- A setting that names something of another kind. -/
  | wrongSetting
  /-- A comparison met a signalling NaN, or one of order any NaN. -/
  | incomparable
  | noFailures
  | store (fault : StoreFault)
deriving Inhabited

/-- Message of a fault, for the faults that have one. -/
def Fault.message? : Fault → Option String
  | unknownLevel level => some ("Invalid validation level: " ++ level.shown)
  | areaNotFound id => some ("Area with ID " ++ id.shown ++ " not found")
  | projectNotFound reference => some ("Project " ++ reference.shown ++ " not found")
  | _ => none

end FloodScheme
