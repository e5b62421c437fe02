import FloodScheme.Area
import FloodScheme.Field
import FloodScheme.Reference
import FloodScheme.Store.Column
import FloodScheme.Store.Operation

/-! The tables of the service. Rows stand in the order of their numbers. -/
namespace FloodScheme

structure UserRow where
  id : Int
  admin : Bool
deriving DecidableEq, Repr

structure MembershipRow where
  userId : Int
  areaId : Int
  primary : Bool
deriving DecidableEq, Repr

/-- A stored project. `columns` holds what a save may write; a column that is absent is null. -/
structure Project where
  id : Int
  reference : String
  version : Int := 1
  slug : String
  creatorId : Option Int := none
  columns : Fields := []
  detailsUpdatedAt : Option String := none
  createdAt : String
  updatedAt : String

structure StateRow where
  projectId : Int
  state : String
deriving DecidableEq, Repr

structure LinkRow where
  projectId : Int
  areaId : Int
  owner : Bool
deriving DecidableEq, Repr

structure CounterRow where
  code : String
  counters : Counters
deriving DecidableEq, Repr

structure Tables where
  areas : List Area := []
  users : List UserRow := []
  memberships : List MembershipRow := []
  projects : List Project := []
  states : List StateRow := []
  links : List LinkRow := []
  counters : List CounterRow := []

namespace Project

def column (p : Project) (name : String) : Value := p.columns.get name

def name (p : Project) : Value := p.column "name"

/-- The name as the index on names sees it. -/
def nameKey? (p : Project) : Option String :=
  match p.name with
  | .text s => some (Text.foldAscii s)
  | _ => none

/-- All columns, with null where nothing is stored. -/
def row (p : Project) : Fields :=
  [("id", .int p.id), ("reference_number", .text p.reference), ("version", .int p.version),
    ("slug", .text p.slug), ("creator_id", p.creatorId.elim .null .int)] ++
  Field.writable.map (fun f => (f.column, p.column f.column)) ++
  [("urgency_details_updated_at", p.detailsUpdatedAt.elim .null .text),
    ("created_at", .text p.createdAt), ("updated_at", .text p.updatedAt)]

end Project

namespace Tables

/-- Number of the next row. -/
def nextId (ids : List Int) : Int :=
  match ids with
  | [] => 1
  | i :: rest => rest.foldl max i + 1

/-- The first version under a reference number, the only one that is read or written. -/
def project? (t : Tables) (reference : String) : Option Project :=
  t.projects.find? fun p => p.reference == reference && p.version == 1

def ownerLink? (t : Tables) (projectId : Int) : Option LinkRow :=
  t.links.find? fun l => l.projectId == projectId && l.owner

def link? (t : Tables) (projectId : Int) : Option LinkRow :=
  t.links.find? fun l => l.projectId == projectId

def state? (t : Tables) (projectId : Int) : Option StateRow :=
  t.states.find? fun s => s.projectId == projectId

def counters? (t : Tables) (code : String) : Option Counters :=
  (t.counters.find? fun c => c.code == code).map CounterRow.counters

end Tables
end FloodScheme
