import FloodScheme.Failure
import FloodScheme.Number.IntegerText
import FloodScheme.Rule.Library
import FloodScheme.Text.Quoted

/-! Checks of one value against one rule. A value is read as its kind first; what is read is
held to the limits then. -/
namespace FloodScheme
open Number

/-- Why a value does not pass. -/
inductive Problem
  | notText
  | empty
  | longerThan (most : Nat)
  | unlike (pattern : String)
  | notAmong (choices : List String)
  | notInteger
  | unreadableInteger
  | longInteger
  | hasFraction
  | notFinite
  | above (bound : Bound)
  | below (bound : Bound)
  | notBoolean
  | unreadableBoolean
  | notList
  | fewerThan (least found : Nat)
  | notNumber
  | unreadableDecimal
  | finerThan (places : Nat)
deriving DecidableEq

namespace Problem

/-- A count with its noun, in the plural unless it is one. -/
def counted (n : Nat) (noun : String) : String :=
  integerText n ++ " " ++ noun ++ (if n = 1 then "" else "s")

/-- Quoted choices, the last one behind the word "or". -/
def alternatives : List String → String
  | [] => ""
  | [c] => Text.quoted c
  | [c, d] => Text.quoted c ++ " or " ++ Text.quoted d
  | c :: rest => Text.quoted c ++ ", " ++ alternatives rest

def message : Problem → String
  | notText => "Input should be a valid string"
  | empty => "String should have at least 1 character"
  | longerThan n => "String should have at most " ++ counted n "character"
  | unlike p => "String should match pattern '" ++ p ++ "'"
  | notAmong choices => "Input should be " ++ alternatives choices
  | notInteger => "Input should be a valid integer"
  | unreadableInteger =>
    "Input should be a valid integer, unable to parse string as an integer"
  | longInteger => "Unable to parse input string as an integer, exceeded maximum size"
  | hasFraction => "Input should be a valid integer, got a number with a fractional part"
  | notFinite => "Input should be a finite number"
  | above b => "Input should be less than or equal to " ++ b.shown
  | below b => "Input should be greater than or equal to " ++ b.shown
  | notBoolean => "Input should be a valid boolean"
  | unreadableBoolean => "Input should be a valid boolean, unable to interpret input"
  | notList => "Input should be a valid list"
  | fewerThan least found =>
    "List should have at least " ++ counted least "item" ++ " after validation, not " ++
      integerText found
  | notNumber => "Decimal input should be an integer, float, string or Decimal object"
  | unreadableDecimal => "Input should be a valid decimal"
  | finerThan n => "Decimal input should have no more than " ++ counted n "decimal place"

end Problem

namespace Reading

def integerOfText (s : String) : Except Problem Int :=
  match IntegerReading.read s.toList with
  | .value i => .ok i
  | .tooLong => .error .longInteger
  | .unreadable => .error .unreadableInteger

/-- Whole doubles strictly between the ends of the 64-bit range. -/
def fits64 (i : Int) : Bool := -(2 ^ 63) < i && i < 2 ^ 63

def integerOfDouble (x : Double) : Except Problem Int :=
  if !x.isFinite then .error .notFinite
  else
    match x.whole? with
    | none => .error .hasFraction
    | some i => if fits64 i then .ok i else .error .longInteger

def integer : Value → Except Problem Int
  | .bool b => .ok (if b then 1 else 0)
  | .int i => .ok i
  | .float x => integerOfDouble x
  | .text s => integerOfText s
  | .decimal d =>
    if !d.isFinite then .error .notFinite
    else
      match d.whole? with
      | some i => .ok i
      | none => .error .hasFraction
  | _ => .error .notInteger

def falseWords : List String := ["0", "f", "n", "no", "off", "false"]

def trueWords : List String := ["1", "t", "y", "yes", "on", "true"]

def booleanOfInt (i : Int) : Except Problem Bool :=
  if i = 0 then .ok false
  else if i = 1 then .ok true
  else .error .unreadableBoolean

def booleanOfDouble (x : Double) : Except Problem Bool :=
  match x.whole? with
  | some i => if fits64 i then booleanOfInt i else .error .notBoolean
  | none => .error .notBoolean

def boolean : Value → Except Problem Bool
  | .bool b => .ok b
  | .int i =>
    if -(2 ^ 63) ≤ i ∧ i < 2 ^ 63 then booleanOfInt i else .error .notBoolean
  | .float x => booleanOfDouble x
  | .decimal d => booleanOfDouble d.toDouble
  | .text s =>
    let word := Text.foldAscii s
    if falseWords.contains word then .ok false
    else if trueWords.contains word then .ok true
    else .error .unreadableBoolean
  | _ => .error .notBoolean

def decimal : Value → Except Problem Decimal
  | .int i => .ok (Decimal.ofInt i)
  | .float x => .ok (Decimal.ofDoubleText x)
  | .text s =>
    match Decimal.read? s with
    | some d => .ok d
    | none => .error .unreadableDecimal
  | .decimal d => .ok d
  | _ => .error .notNumber

/-- A text as it stands, for a free field. -/
def text : Value → Except Problem String
  | .text s => .ok s
  | _ => .error .notText

def choice (choices : List String) : Value → Except Problem String
  | .text s => if choices.contains s then .ok s else .error (.notAmong choices)
  | _ => .error (.notAmong choices)

end Reading

def checkBounds (r : Rule) (d : Decimal) : Option Problem :=
  match r.maximum.filter (fun b => !d.le b.value) with
  | some b => some (.above b)
  | none => (r.minimum.filter fun b => !b.value.le d).map .below

/-- Holding a number to the bounds would compare a NaN. The lower bound is not looked at where the
upper one is exceeded. -/
def unorderedBounds (r : Rule) (d : Decimal) : Bool :=
  r.maximum.any Bound.isNaN || (r.maximum.all (d.le ·.value) && r.minimum.any Bound.isNaN)

def placesOf (exponent : Int) : Nat := (-exponent).toNat

def checkPlaces (r : Rule) : Decimal → Option Problem
  | .finite _ c e =>
    (r.decimalPlaces.filter (· < placesOf (Decimal.leanExponent c e))).map .finerThan
  | _ => some .notFinite

def checkText [Library] (r : Rule) (s : String) : Option Problem :=
  let s := Text.trimSpace s
  if s.length < 1 then some .empty
  else
    match r.maxLength.filter (· < s.length) with
    | some n => some (.longerThan n)
    | none => (r.pattern.filter fun p => !Library.admits p s).map .unlike

def problemOf {α : Type} (check : α → Option Problem) : Except Problem α → Option Problem
  | .ok a => check a
  | .error p => some p

def checkItem (r : Rule) (item : Value) : Option Problem :=
  match r.chosenFrom with
  | some choices => problemOf (fun _ => none) (Reading.choice choices item)
  | none => problemOf (fun _ => none) (Reading.text item)

def Rule.check [Library] (r : Rule) (v : Value) : Option Problem :=
  match r.kind with
  | .text =>
    match r.chosenFrom with
    | some choices => problemOf (fun _ => none) (Reading.choice choices v)
    | none => problemOf (checkText r) (Reading.text v)
  | .integer => problemOf (fun i => checkBounds r (Decimal.ofInt i)) (Reading.integer v)
  | .boolean => problemOf (fun _ => none) (Reading.boolean v)
  | .textList =>
    match v with
    | .list items =>
      match items.findSome? (checkItem r) with
      | some p => some p
      | none => (r.minItems.filter (items.length < ·)).map (.fewerThan · items.length)
    | _ => some .notList
  | .decimal =>
    problemOf (fun d => (checkPlaces r d).or (checkBounds r d)) (Reading.decimal v)

/-- Checking the value would compare a NaN. -/
def Rule.clashesWith (r : Rule) (v : Value) : Bool :=
  match r.kind, Reading.decimal v with
  | .decimal, .ok d => (checkPlaces r d).isNone && unorderedBounds r d
  | _, _ => false

/-- What an active rule says about a payload, if its field is in the model. -/
def Rule.failure? [Library] (r : Rule) (payload : Fields) : Option Failure :=
  let required := Failure.invalid (r.code ++ "_REQUIRED") (r.name ++ " is required") r.name
  if !Library.hasField r.name then none
  else
    match payload.get? r.name with
    | none => if r.required then some required else none
    | some v =>
      if !r.required && v.isNull then none
      else
        (r.check v).map fun p =>
          if r.required && v.isBlank then required
          else Failure.invalid (r.code ++ "_INVALID") (r.name ++ ": " ++ p.message) r.name

end FloodScheme
