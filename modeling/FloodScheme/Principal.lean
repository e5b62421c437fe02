import FloodScheme.Area

/-! The caller whose rights are asked about. -/
namespace FloodScheme

structure Membership where
  areaId : Value
  primary : Bool := false
  areaType : Option String := none
  name : Option String := none

structure Principal where
  userId : Value
  isAdmin : Bool := false
  isRma : Bool := false
  areas : List Membership := []

namespace Principal

/-- The type of the first primary area decides whether the user acts for an RMA. -/
def ofMemberships (userId : Value) (isAdmin : Bool) (areas : List Membership) : Principal where
  userId
  isAdmin
  isRma := (areas.find? (·.primary)).any (·.areaType == some Area.rmaType)
  areas

def belongsTo (p : Principal) (areaId : Value) : Bool :=
  !areaId.isNull && p.areas.any (sameArea ·.areaId areaId)

end Principal
end FloodScheme
