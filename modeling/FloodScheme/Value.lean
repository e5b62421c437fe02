import FloodScheme.Number.Decimal

/-! Values of a payload. Members of an object keep the order in which they were written. -/
namespace FloodScheme
open Number

inductive Value
  | null
  | bool (b : Bool)
  | int (i : Int)
  | float (x : Double)
  | decimal (d : Decimal)
  | text (s : String)
  | list (items : List Value)
  | object (members : List (String × Value))
deriving Inhabited

/-- Members by name, in the order of writing. -/
abbrev Fields := List (String × Value)

namespace Fields

def get? (fields : Fields) (name : String) : Option Value := List.lookup name fields

/-- An absent member is null. -/
def get (fields : Fields) (name : String) : Value := (fields.get? name).getD .null

def has (fields : Fields) (name : String) : Bool := (fields.get? name).isSome

def names (fields : Fields) : List String := fields.map Prod.fst

/-- A known name keeps its place, a new one goes to the end. -/
def set (fields : Fields) (name : String) (value : Value) : Fields :=
  match fields with
  | [] => [(name, value)]
  | (n, v) :: rest => if n = name then (n, value) :: rest else (n, v) :: set rest name value

theorem get?_nil (name : String) : get? [] name = none := rfl

theorem get?_cons (n name : String) (v : Value) (rest : Fields) :
    get? ((n, v) :: rest) name = if name = n then some v else get? rest name := by
  by_cases h : name = n
  · simp [get?, h]
  · simp [get?, List.lookup_cons, h, beq_false_of_ne h]

theorem get?_set (fields : Fields) (name other : String) (value : Value) :
    get? (set fields name value) other =
      if other = name then some value else get? fields other := by
  induction fields with
  | nil => simp [set, get?_cons, get?_nil]
  | cons p rest ih =>
    obtain ⟨n, v⟩ := p
    by_cases h : n = name
    · subst h
      by_cases ho : other = n <;> simp [set, get?_cons, ho]
    · by_cases ho : other = n
      · subst ho; simp [set, h, get?_cons]
      · simp [set, h, get?_cons, ho, ih]

end Fields

namespace Value

def isNull : Value → Bool
  | null => true
  | _ => false

/-- Null, or a text of blanks. -/
def isBlank : Value → Bool
  | null => true
  | text s => Text.allBlank s
  | _ => false

/-- Null, zero, NaN excepted, and whatever is empty count as false. -/
def truthy : Value → Bool
  | null => false
  | bool b => b
  | int i => i != 0
  | float x => !x.isZero
  | decimal (.finite _ c _) => c != 0
  | decimal _ => true
  | text s => s != ""
  | list items => !items.isEmpty
  | object members => !members.isEmpty

/-- Every number is a decimal; a truth value counts as 0 or 1. -/
def number? : Value → Option Decimal
  | bool b => some (Decimal.ofInt (if b then 1 else 0))
  | int i => some (Decimal.ofInt i)
  | float x => some (Decimal.ofDouble x)
  | decimal d => some d
  | _ => none

/-- A signalling NaN: comparing it with a number is a fault. -/
def isSignalling : Value → Bool
  | decimal d => d.isSignalling
  | _ => false

def isList : Value → Bool
  | list _ => true
  | _ => false

/-- The values that can be looked up in a table. -/
def isKey : Value → Bool
  | list _ => false
  | object _ => false
  | decimal d => !d.isSignalling
  | _ => true

end Value
end FloodScheme
