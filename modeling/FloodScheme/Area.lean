import FloodScheme.Value.Text
import FloodScheme.Text.Blank

/-! Areas, the organisations that schemes and users belong to. -/
namespace FloodScheme

structure Area where
  id : Int
  name : String
  type : String
  parentId : Option Int := none
  subType : Option String := none
  identifier : Option String := none
  endDate : Option String := none
deriving DecidableEq, Repr

namespace Area

def rmaType : String := "RMA"

def psoType : String := "PSO Area"

def eaType : String := "EA Area"

def isRma (a : Area) : Bool := a.type == rmaType

def isPso (a : Area) : Bool := a.type == psoType

def view (a : Area) : Fields := [
  ("id", .int a.id),
  ("name", .text a.name),
  ("areaType", .text a.type),
  ("parentId", a.parentId.elim .null .int),
  ("subType", a.subType.elim .null .text),
  ("identifier", a.identifier.elim .null .text),
  ("endDate", a.endDate.elim .null .text)]

end Area

/-- Two identifiers name the same area: their texts agree up to the blanks around them. -/
def sameArea (a b : Value) : Bool :=
  !a.isNull && !b.isNull && Text.trim a.shown == Text.trim b.shown

/-- An area with the parents that count for it. -/
structure AreaWithParents where
  area : Area
  pso : Option Area := none
  ea : Option Area := none
deriving DecidableEq, Repr

namespace AreaWithParents

/-- Coordination code: the sub type of the PSO, unless empty. -/
def rfccCode (a : AreaWithParents) : Option String :=
  (a.pso.bind Area.subType).filter (· != "")

def view (a : AreaWithParents) : Fields :=
  a.area.view ++ [
    ("PSO", a.pso.elim .null fun p => .object p.view),
    ("EA", a.ea.elim .null fun e => .object e.view)]

end AreaWithParents
end FloodScheme
