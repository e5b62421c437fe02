import FloodScheme.Value

/-! Equality of values: numbers by value whatever their kind, so that `true`, `1` and `1.0` are
equal; lists item by item; objects by name. Parts are compared in order up to the first difference,
and nothing comes of a comparison in which a signalling NaN meets a number. -/
namespace FloodScheme.Value
open Number

/-- The second answer counts where the first one is yes. -/
def andThen (a b : Option Bool) : Option Bool :=
  match a with
  | some true => b
  | a => a

def equalNumbers? (a b : Decimal) : Option Bool :=
  if a.isSignalling || b.isSignalling then none else some (a.equal b)

mutual

def equal? : Value → Value → Option Bool
  | null, null => some true
  | text s, text t => some (s == t)
  | list xs, list ys => if xs.length == ys.length then equalItems? xs ys else some false
  | object xs, object ys => if xs.length == ys.length then equalMembers? xs ys else some false
  | x, y =>
    match x.number?, y.number? with
    | some a, some b => equalNumbers? a b
    | _, _ => some false

/-- Items in pairs; the lengths come last. -/
def equalItems? : List Value → List Value → Option Bool
  | [], [] => some true
  | x :: xs, y :: ys => andThen (equal? x y) (equalItems? xs ys)
  | _, _ => some false

/-- Every member has an equal one of the same name. -/
def equalMembers? : List (String × Value) → List (String × Value) → Option Bool
  | [], _ => some true
  | (n, x) :: rest, ys =>
    andThen
      (match List.lookup n ys with
        | some y => equal? x y
        | none => some false)
      (equalMembers? rest ys)

end

def equal (x y : Value) : Bool := x.equal? y == some true

/-- Search from the front, up to the first equal value. -/
def isIn? (x : Value) : List Value → Option Bool
  | [] => some false
  | v :: rest =>
    match v.equal? x with
    | some false => isIn? x rest
    | found => found

/-- Among the values, by equality. -/
def isIn (x : Value) (values : List Value) : Bool := x.isIn? values == some true

/-- Looking for the value would compare a signalling NaN with a number. -/
def signalsIn (x : Value) (values : List Value) : Bool := (x.isIn? values).isNone

theorem isIn_eq_any {x : Value} {values : List Value} (h : x.signalsIn values = false) :
    x.isIn values = values.any (·.equal x) := by
  induction values with
  | nil => rfl
  | cons v rest ih =>
    rcases hv : v.equal? x with _ | b
    · simp [signalsIn, isIn?, hv] at h
    · cases b
      · have step : x.isIn? (v :: rest) = x.isIn? rest := by simp [isIn?, hv]
        simp only [signalsIn, isIn, step] at h ih ⊢
        rw [ih h]
        simp [equal, hv]
      · simp [isIn, isIn?, equal, hv]

end FloodScheme.Value
