import FloodScheme.Fault
import FloodScheme.Rule.Merge

/-! Levels: the steps in which a proposal is filled in, each with the rules of its fields.
Several levels asked for together act as one whose rules are merged. -/
namespace FloodScheme

structure Level where
  name : String
  rules : List Rule

structure Registry where
  levels : List Level

namespace Registry

def names (r : Registry) : List String := r.levels.map Level.name

def find? (r : Registry) (name : String) : Option Level :=
  r.levels.find? (·.name == name)

def get (r : Registry) (level : Value) : Except Fault Level :=
  match level with
  | .text name =>
    match r.find? name with
    | some l => .ok l
    | none => .error (.unknownLevel level)
  | _ => .error (.unknownLevel level)

/-- The levels a request names: one, or a list of them. -/
def requested : Value → Except Fault (List Value)
  | .text name => .ok [.text name]
  | .list items => .ok items
  | .object members => .ok (members.map fun m => .text m.1)
  | _ => .error .wrongShape

/-- A level that is named again adds nothing. -/
def addLevel (levels : List Level) (l : Level) : List Level :=
  if levels.any (·.name == l.name) then levels else levels ++ [l]

/-- The named levels, of which there has to be one at least. -/
def select (r : Registry) (levels : Value) : Except Fault (List Level) := do
  let found ← (← requested levels).mapM r.get
  if found.isEmpty then .error (.unknownLevel .null) else pure (found.foldl addLevel [])

/-- A rule for a field without one goes to the end; any other is merged into the rule of its field.
-/
def addRule : List Rule → Rule → List Rule
  | [], r => [r]
  | m :: rest, r => if m.name = r.name then m.merge r :: rest else m :: addRule rest r

def mergeRules (rules : List Rule) : List Rule := rules.foldl addRule []

/-- Merging `rules` into `gathered` would compare a NaN. -/
def clashes : List Rule → List Rule → Bool
  | _, [] => false
  | gathered, r :: rest =>
    gathered.any (fun m => m.name == r.name && m.clashes r) || clashes (addRule gathered r) rest

/-- Merged rules of the named levels, in order of first mention. -/
def merge (r : Registry) (levels : Value) : Except Fault (List Rule) := do
  let rules := (← r.select levels).flatMap Level.rules
  if clashes [] rules then .error .incomparable else pure (mergeRules rules)

end Registry
end FloodScheme
