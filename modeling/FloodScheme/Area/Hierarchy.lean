import FloodScheme.Area
import FloodScheme.Fault

/-! Parents of an area: an RMA under a PSO Area under an EA Area. A parent of another type does
not count. The lookup is a parameter, and at most three are made. -/
namespace FloodScheme.Hierarchy

variable {m : Type → Type} [Monad m]

def parentOfType (find : Value → m (Option Area)) (a : Area) (type : String) :
    m (Option Area) :=
  match a.parentId with
  | none => pure none
  | some id => do pure ((← find (.int id)).filter (·.type == type))

def psoOf (find : Value → m (Option Area)) (a : Area) : m (Option Area) :=
  if a.isPso then pure (some a)
  else if a.isRma then parentOfType find a Area.psoType
  else pure none

def withParents (find : Value → m (Option Area)) (id : Value) :
    m (Option AreaWithParents) := do
  match ← find id with
  | none => pure none
  | some a =>
    match ← psoOf find a with
    | none => pure (some ⟨a, none, none⟩)
    | some pso => do
      let ea ← parentOfType find pso Area.eaType
      pure (some ⟨a, some pso, ea⟩)

def codeOfArea (find : Value → m (Option Area)) (a : Area) : m (Option String) := do
  pure (((← psoOf find a).bind Area.subType).filter (· != ""))

/-- An area that has to exist. -/
def strict (find : Value → Except Fault (Option Area)) (id : Value) : Except Fault Area := do
  match ← find id with
  | some a => pure a
  | none => .error (.areaNotFound id)

def codeOf (find : Value → Except Fault (Option Area)) (id : Value) :
    Except Fault (Option String) := do
  codeOfArea find (← strict find id)

end FloodScheme.Hierarchy
