import FloodScheme.Area.Hierarchy
import FloodScheme.Principal
import FloodScheme.Store.Tables
import FloodScheme.Value.Integer

/-! Reading from the store. Every read is an operation that may fail. -/
namespace FloodScheme

/-- Tables behind operations that may fail. -/
structure Database where
  tables : Tables
  faults : Faults := Faults.none

/-- What the rules want to know of a stored project. -/
structure ProjectRecord where
  id : Int
  reference : String
  name : Value
  areaId : Option Int
  startYear : Value
  endYear : Value
  state : Option String

def ProjectRecord.view (p : ProjectRecord) : Fields := [
  ("id", .int p.id),
  ("referenceNumber", .text p.reference),
  ("name", p.name),
  ("areaId", p.areaId.elim .null .int),
  ("financialStartYear", p.startYear),
  ("financialEndYear", p.endYear),
  ("projectState", p.state.elim .null .text)]

/-- A value as a text column is compared with it; nothing equals null. -/
def searchText (v : Value) : Except StoreFault (Option String) :=
  let bound : Except StoreFault Value :=
    match v with
    | .decimal d => ColumnType.prepareNumeric (.decimal d) >>= ColumnType.bind
    | v => ColumnType.bind v
  bound.map fun v =>
    match ColumnType.keepText v with
    | .text s => some s
    | _ => none

namespace Database

def attempt (db : Database) (op : Operation) : Except Fault Unit := db.faults.attempt op

/-- An identifier that is no number names no area, and is not looked for. -/
def area (db : Database) (id : Value) : Except Fault (Option Area) :=
  match id.key? with
  | none => .ok none
  | some key => do
    db.attempt (.readArea key)
    pure (db.tables.areas.find? (·.id == key))

/-- Areas by name; an empty type stands for all. -/
def areasOfType (db : Database) (type : Option String) : Except Fault (List Area) := do
  db.attempt .listAreas
  let wanted := type.filter (· != "")
  let found := db.tables.areas.filter fun a => wanted.all (a.type == ·)
  pure (found.mergeSort fun a b => !decide (b.name < a.name))

/-- A user with the areas that exist among the memberships. -/
def principal (db : Database) (userId : Value) : Except Fault (Option Principal) :=
  match userId.key? with
  | none => .ok none
  | some key => do
    db.attempt (.readUser key)
    match db.tables.users.find? (·.id == key) with
    | none => pure none
    | some user => do
      db.attempt .readMemberships
      let rows := db.tables.memberships.filter (·.userId == key)
      let areas := rows.filterMap fun m =>
        (db.tables.areas.find? (·.id == m.areaId)).map fun a =>
          (⟨.int a.id, m.primary, some a.type, some a.name⟩ : Membership)
      pure (some (.ofMemberships (.int user.id) user.admin areas))

def findProject (db : Database) (reference : Value) : Except Fault (Option Project) := do
  db.attempt .readProject
  match searchText reference with
  | .error f => .error (.store f)
  | .ok key => pure (key.bind db.tables.project?)

def project (db : Database) (reference : Value) : Except Fault (Option ProjectRecord) := do
  match ← db.findProject reference with
  | none => pure none
  | some p => do
    db.attempt .readOwnerLink
    db.attempt .readState
    pure <| some
      { id := p.id
        reference := p.reference
        name := p.name
        areaId := (db.tables.ownerLink? p.id).map LinkRow.areaId
        startYear := p.column "earliest_start_year"
        endYear := p.column "project_end_financial_year"
        state := (db.tables.state? p.id).map StateRow.state }

/-- The name as it is looked for: trimmed and in lower case. -/
def searchedName (name : String) : String := Text.lower (Text.trim name)

/-- A project other than the excluded one has the name, whatever its case. -/
def nameTaken (db : Database) (name excluded : Value) : Except Fault Bool :=
  match name with
  | .text s => do
    db.attempt .searchName
    let others ←
      if excluded.truthy then
        match searchText excluded with
        | .error f => .error (.store f)
        | .ok key => pure (db.tables.projects.filter fun p => key.any (p.reference != ·))
      else pure db.tables.projects
    pure (others.any fun p => p.nameKey? == some (searchedName s))
  | _ => .error .notText

/-- All columns of a project and, under the names of their tables, its state and its link. -/
def projectRow (db : Database) (reference : Value) : Except Fault (Option Fields) := do
  match ← db.findProject reference with
  | none => pure none
  | some p => do
    db.attempt .readState
    db.attempt .readLink
    let state := (db.tables.state? p.id).map fun s =>
      (Field.stateTable, Value.object [("state", .text s.state)])
    let link := (db.tables.link? p.id).map fun l =>
      (Field.linkTable, Value.object [("area_id", .int l.areaId), ("owner", .bool l.owner)])
    pure (some (p.row ++ state.toList ++ link.toList))

end Database
end FloodScheme
