import FloodScheme.Fault

/-! The operations that a store asks of its database, with the keys and values that they send, and
which of them fail in each state of the database. -/
namespace FloodScheme

inductive Operation
  | ping
  | readArea (key : Int)
  | listAreas
  | readUser (key : Int)
  | readMemberships
  | readProject
  | readOwnerLink
  | readLink
  | readState
  | searchName
  | insertCounter
  | lockCounter
  | updateCounter
  | insertProject
  | updateProject
  /-- A value of the row that is inserted or updated. -/
  | sendColumn (column : String) (value : Value)
  | insertState
  | insertLink
  | updateLink
  | readBack
  | listTables
  | countAreas
  | insertArea (place : Nat)
  | createTables
  | commit

inductive StatementKind
  | ping
  | catalogue
  | read
  | insert
  | update
deriving DecidableEq, Repr

namespace Operation

/-- Kind of the statement that an operation sends. The values of a row go along with its statement,
and a commit sends none. -/
def statement? : Operation → Option StatementKind
  | ping => some .ping
  | listTables => some .catalogue
  | createTables => some .catalogue
  | insertCounter => some .insert
  | insertProject => some .insert
  | insertState => some .insert
  | insertLink => some .insert
  | insertArea _ => some .insert
  | updateCounter => some .update
  | updateProject => some .update
  | updateLink => some .update
  | sendColumn _ _ => none
  | commit => none
  | _ => some .read

end Operation

/-- Which operations fail, and how. -/
abbrev Faults := Operation → Option StoreFault

namespace Faults

def none : Faults := fun _ => Option.none

/-- Stops where the operation fails. -/
def attempt (faults : Faults) (op : Operation) : Except Fault Unit :=
  match faults op with
  | some f => .error (.store f)
  | Option.none => .ok ()

end Faults

/-- State of the database server. -/
inductive DatabaseMode
  | ok
  | down
  | downAfterPing
  | error
  | crash
  | crashPing
  | readOnly
deriving DecidableEq, Repr

namespace DatabaseMode

def faultOf : DatabaseMode → StatementKind → Option StoreFault
  | ok, _ => none
  | down, _ => some .unavailable
  | downAfterPing, .ping => none
  | downAfterPing, _ => some .unavailable
  | error, _ => some .failed
  | crash, .ping => none
  | crash, _ => some .crashed
  | crashPing, .ping => some .crashed
  | crashPing, _ => none
  | readOnly, .insert => some .unavailable
  | readOnly, .update => some .unavailable
  | readOnly, _ => none

/-- Statements on tables that do not exist fail as well. -/
def missing (tables : Bool) : StatementKind → Option StoreFault
  | .ping => none
  | .catalogue => none
  | _ => if tables then none else some .unavailable

def faults (mode : DatabaseMode) (tables : Bool) : Faults := fun op =>
  op.statement?.bind fun kind => (mode.faultOf kind).or (missing tables kind)

end DatabaseMode
end FloodScheme
