import FloodScheme.Value.Equal

/-! Rules on single fields, and the conditions under which they are active. -/
namespace FloodScheme
open Number

inductive RuleKind
  | text
  | integer
  | boolean
  | textList
  | decimal
deriving DecidableEq, Repr

def RuleKind.name : RuleKind → String
  | text => "string"
  | integer => "integer"
  | boolean => "boolean"
  | textList => "string_list"
  | decimal => "decimal"

def distinct (texts : List String) : List String :=
  texts.foldl (fun seen t => if seen.contains t then seen else seen ++ [t]) []

/-- A limit on a number. -/
inductive Bound
  | int (i : Int)
  | decimal (d : Decimal)
deriving DecidableEq

namespace Bound

def value : Bound → Decimal
  | int i => Decimal.ofInt i
  | decimal d => d

def shown : Bound → String
  | int i => integerText i
  | decimal d => d.text

def equal? (a b : Bound) : Option Bool := Value.equalNumbers? a.value b.value

def lt (a b : Bound) : Bool := Decimal.compare? a.value b.value == some .lt

def isNaN (a : Bound) : Bool := a.value.isNaN

/-- A bound that can be looked up in a table. -/
def isKey (a : Bound) : Bool := !a.value.isSignalling

end Bound

/-- Another field has one of the values, or none of them. -/
structure Condition where
  field : String
  values : List Value
  negated : Bool := false

namespace Condition

def holds (c : Condition) (payload : Fields) : Bool :=
  (payload.get c.field).isIn c.values != c.negated

/-- The test would compare a signalling NaN. -/
def signals (c : Condition) (payload : Fields) : Bool :=
  (payload.get c.field).signalsIn c.values

def equal? (a b : Condition) : Option Bool :=
  Value.andThen (some (a.field == b.field)) <|
  Value.andThen (Value.equalItems? a.values b.values) (some (a.negated == b.negated))

/-- A condition that can be looked up in a table. -/
def isKey (c : Condition) : Bool := c.values.all Value.isKey

end Condition

structure Rule where
  name : String
  kind : RuleKind
  code : String
  required : Bool := true
  minimum : Option Bound := none
  maximum : Option Bound := none
  maxLength : Option Nat := none
  minItems : Option Nat := none
  decimalPlaces : Option Nat := none
  choices : Option (List String) := none
  pattern : Option String := none
  condition : Option Condition := none
  forbiddenOtherwise : Bool := false

namespace Rule

def optional (r : Rule) : Rule := { r with required := false }

def isActive (r : Rule) (payload : Fields) : Bool := r.condition.all (·.holds payload)

def signals (r : Rule) (payload : Fields) : Bool := r.condition.any (·.signals payload)

/-- A rule that can be looked up in a table. -/
def isKey (r : Rule) : Bool :=
  r.minimum.all Bound.isKey && r.maximum.all Bound.isKey && r.condition.all Condition.isKey

/-- A choice has to be made from a list that is not empty. Each choice counts once. -/
def chosenFrom (r : Rule) : Option (List String) :=
  (r.choices.filter (!·.isEmpty)).map distinct

end Rule
end FloodScheme
