import FloodScheme.Rule

/-! The least restrictive combination of two rules for one field. A limit survives only where
both rules have one, and then as the wider of the two. -/
namespace FloodScheme

def equalOptions? {α : Type} (equal? : α → α → Option Bool) :
    Option α → Option α → Option Bool
  | none, none => some true
  | some a, some b => equal? a b
  | _, _ => some false

/-- Both present, or nothing. -/
def widen {α : Type} (pick : α → α → α) (a b : Option α) : Option α :=
  match a, b with
  | some a, some b => some (pick a b)
  | _, _ => none

/-- The lesser bound; of equal ones the first. -/
def Bound.min (a b : Bound) : Bound := if b.lt a then b else a

def Bound.max (a b : Bound) : Bound := if a.lt b then b else a

def union (a b : List String) : List String := distinct (a ++ b)

namespace Rule

def sameCondition? (a b : Rule) : Option Bool :=
  equalOptions? Condition.equal? a.condition b.condition

/-- Comparison part by part, numbers by value. -/
def same? (a b : Rule) : Option Bool :=
  let first :=
    a.name == b.name && a.kind == b.kind && a.code == b.code && a.required == b.required
  let middle :=
    a.maxLength == b.maxLength && a.minItems == b.minItems &&
      a.decimalPlaces == b.decimalPlaces && a.choices == b.choices && a.pattern == b.pattern
  Value.andThen (some first) <|
  Value.andThen (equalOptions? Bound.equal? a.minimum b.minimum) <|
  Value.andThen (equalOptions? Bound.equal? a.maximum b.maximum) <|
  Value.andThen (some middle) <|
  Value.andThen (a.sameCondition? b) (some (a.forbiddenOtherwise == b.forbiddenOtherwise))

def same (a b : Rule) : Bool := a.same? b == some true

/-- The combination apart from the condition. -/
def widened (a b : Rule) : Rule :=
  { a with
    required := a.required && b.required
    minimum := widen Bound.min a.minimum b.minimum
    maximum := widen Bound.max a.maximum b.maximum
    maxLength := widen Nat.max a.maxLength b.maxLength
    minItems := widen Nat.min a.minItems b.minItems
    decimalPlaces := widen Nat.max a.decimalPlaces b.decimalPlaces
    choices := widen union a.choices b.choices
    pattern := if a.pattern == b.pattern then a.pattern else none
    forbiddenOtherwise := a.forbiddenOtherwise && b.forbiddenOtherwise }

/-- Rules whose conditions differ lose them and become optional. -/
def merge (a b : Rule) : Rule :=
  if a.same b then a
  else if a.sameCondition? b == some true then a.widened b
  else { a.widened b with condition := none, required := false, forbiddenOtherwise := false }

/-- Bounds of which the wider one cannot be told. -/
def unordered (a b : Option Bound) : Bool :=
  match a, b with
  | some a, some b => a.isNaN || b.isNaN
  | _, _ => false

/-- Merging would compare a NaN. Equal rules are not looked at any further. -/
def clashes (a b : Rule) : Bool :=
  match a.same? b with
  | none => true
  | some true => false
  | some false =>
    unordered a.minimum b.minimum || unordered a.maximum b.maximum ||
      (a.sameCondition? b).isNone

end Rule
end FloodScheme
