import FloodScheme.Principal

/-! Who may create a scheme and who may update one. -/
namespace FloodScheme

inductive Refusal
  | onlyRma
  | noAccessToArea
  | areaUnknown
  | noAccessToScheme
deriving DecidableEq, Repr

def Refusal.message : Refusal → String
  | onlyRma => "Only RMA users can create projects"
  | noAccessToArea => "You do not have access to the specified area"
  | areaUnknown => "Project area information not found"
  | noAccessToScheme =>
    "You do not have permission to update this project. " ++
      "You must have access to the project area or its parent PSO area."

/-- RMA users create in areas of their own. -/
def refuseCreate? (p : Principal) (areaId : Value) : Option Refusal :=
  if !p.isRma then some .onlyRma
  else if !p.belongsTo areaId then some .noAccessToArea
  else none

/-- Admins update everywhere, others in an area of their own or under a PSO of their own. -/
def refuseUpdate? (p : Principal) (area : Option AreaWithParents) : Option Refusal :=
  if p.isAdmin then none
  else
    match area with
    | none => some .areaUnknown
    | some a =>
      if p.belongsTo (.int a.area.id) || a.pso.any fun pso => p.belongsTo (.int pso.id) then none
      else some .noAccessToScheme

end FloodScheme
