import FloodScheme.Field.Mapping
import FloodScheme.Store.Lookup

/-! Writing a project. All statements work on a copy of the tables; a fault before the commit
leaves the tables as they were. -/
namespace FloodScheme

structure Upsert where
  payload : Fields
  userId : Value
  /-- Coordination code of a new project. -/
  code : Option String := none
  /-- Area of a new project, or the one that a project moves to. -/
  area : Option Area := none
  now : String

namespace Upsert

def nameIndex : String := "uq_project_name_lower"

def referenceIndex : String := "uq_project_reference_version"

def draft : String := "draft"

def lift {α : Type} (r : Except StoreFault α) : Except Fault α := r.mapError .store

/-- Columns that the payload writes; an area brings its name along. -/
def data (u : Upsert) : Fields :=
  let mapped := Field.toStorage u.payload
  match u.area with
  | some a => mapped.set "rma_name" (.text a.name)
  | none => mapped

def changes (p : Project) (data : Fields) : Fields :=
  data.filter fun (c, v) => !(p.column c).equal v

/-- Telling the difference would compare a signalling NaN. -/
def signals (p : Project) (data : Fields) : Bool :=
  data.any fun (c, v) => ((p.column c).equal? v).isNone

/-- Every column's type looks at its value. -/
def prepare (data : Fields) : Except StoreFault Fields :=
  data.mapM fun (c, v) => do pure (c, ← (ColumnType.ofColumn c).prepare v)

/-- The values go into the statement, and are kept. -/
def keep (data : Fields) : Except StoreFault Fields :=
  data.mapM fun (c, v) => do pure (c, (ColumnType.ofColumn c).keep (← ColumnType.bind v))

/-- The values of a row are sent one by one. -/
def send (db : Database) (data : Fields) : Except Fault Unit :=
  data.forM fun (c, v) => db.attempt (.sendColumn c v)

/-- A project needs a name, which no other project has in any case of its letters, and a
reference number of its own. -/
def checkIndexes (t : Tables) (p : Project) : Except StoreFault Unit :=
  let others := t.projects.filter (·.id != p.id)
  match p.nameKey? with
  | none => .error (.constraint none)
  | some key =>
    if others.any (·.nameKey? == some key) then .error (.constraint (some nameIndex))
    else if others.any fun q => q.reference == p.reference && q.version == p.version then
      .error (.constraint (some referenceIndex))
    else .ok ()

def setAll (columns data : Fields) : Fields := data.foldl (fun cs (c, v) => cs.set c v) columns

def replaceProject (t : Tables) (p : Project) : Tables :=
  { t with projects := t.projects.map fun q => if q.id == p.id then p else q }

/-- The first link of a project goes to another area. -/
def relink (projectId areaId : Int) : List LinkRow → List LinkRow
  | [] => []
  | l :: rest =>
    if l.projectId == projectId then { l with areaId } :: rest
    else l :: relink projectId areaId rest

/-- The link follows the area. -/
def moveLink (db : Database) (projectId : Int) (link : Option LinkRow) (a : Area) :
    Except Fault (List LinkRow) :=
  match link with
  | some l =>
    if l.areaId == a.id then pure db.tables.links
    else do
      db.attempt .updateLink
      pure (relink projectId a.id db.tables.links)
  | none => do
    db.attempt .insertLink
    pure (db.tables.links ++ [⟨projectId, a.id, true⟩])

/-- The row after the changes; one without changes is not written. -/
def changeProject (db : Database) (u : Upsert) (p : Project) : Except Fault (Tables × Project) :=
  if signals p u.data then .error .incomparable
  else
    let changed := changes p u.data
    let dated := u.payload.has "urgencyDetails"
    if changed.isEmpty && !dated then pure (db.tables, p)
    else do
      let prepared ← lift (prepare changed)
      db.attempt .updateProject
      let kept ← lift (keep prepared)
      send db changed
      let p' :=
        { p with
          columns := setAll p.columns kept
          updatedAt := u.now
          detailsUpdatedAt := if dated then some u.now else p.detailsUpdatedAt }
      lift (checkIndexes db.tables p')
      pure (replaceProject db.tables p', p')

def update (db : Database) (u : Upsert) (reference : Value) :
    Except Fault (Tables × Project) := do
  match ← db.findProject reference with
  | none => .error (.projectNotFound reference)
  | some p =>
    match u.area with
    | none => changeProject db u p
    | some a => do
      db.attempt .readLink
      let (tables, p') ← changeProject db u p
      let links ← moveLink db p.id (db.tables.link? p.id) a
      pure ({ tables with links }, p')

/-- The counters of a code move on; a missing row starts at nothing. -/
def advance (counters : List CounterRow) (code : String) : List CounterRow :=
  match counters with
  | [] => [⟨code, Counters.next ⟨0, 0⟩⟩]
  | c :: rest =>
    if c.code == code then ⟨code, c.counters.next⟩ :: rest else c :: advance rest code

def counterColumns (c : Counters) : Fields :=
  [("high_counter", .int c.high), ("low_counter", .int c.low)]

/-- Columns that tell a new project from others and say who made it. -/
def identityColumns (reference : String) (creatorId : Option Int) : Fields := [
  ("reference_number", .text reference), ("slug", .text (Reference.slug reference)),
  ("creator_id", creatorId.elim .null .int)]

/-- Counters for a new reference number, and the table that remembers them. -/
def mint (db : Database) (code : Option String) :
    Except Fault (String × Counters × List CounterRow) := do
  db.attempt .insertCounter
  match code with
  | none => .error (.store (.constraint none))
  | some code => do
    send db [("rfcc_code", .text code)]
    db.attempt .lockCounter
    db.attempt .updateCounter
    let next := ((db.tables.counters?) code).elim (Counters.next ⟨0, 0⟩) Counters.next
    send db (counterColumns next)
    pure (code, next, advance db.tables.counters code)

def create (db : Database) (u : Upsert) : Except Fault (Tables × Project) := do
  let (code, next, counters) ← mint db u.code
  let reference := Reference.format code next
  let prepared ← lift (prepare u.data)
  db.attempt .insertProject
  let kept ← lift (keep prepared)
  let creatorId := u.userId.key?
  send db (identityColumns reference creatorId ++ u.data)
  let p : Project :=
    { id := Tables.nextId (db.tables.projects.map Project.id)
      reference
      slug := Reference.slug reference
      creatorId
      columns := setAll [] kept
      createdAt := u.now
      updatedAt := u.now }
  lift (checkIndexes db.tables p)
  db.attempt .insertState
  let links ←
    match u.area with
    | none => pure db.tables.links
    | some a => do
      db.attempt .insertLink
      pure (db.tables.links ++ [⟨p.id, a.id, true⟩])
  pure ({ db.tables with
    projects := db.tables.projects ++ [p]
    states := db.tables.states ++ [⟨p.id, draft⟩]
    links
    counters }, p)

/-- A payload without a reference number creates. -/
def write (db : Database) (u : Upsert) : Except Fault (Tables × Project) :=
  let reference := u.payload.get "referenceNumber"
  if reference.truthy then update db u reference else create db u

/-- The project as it is read back, and the tables as they are left. -/
def run (db : Database) (u : Upsert) : Except Fault Project × Tables :=
  match write db u with
  | .error f => (.error f, db.tables)
  | .ok (tables, p) =>
    match db.attempt .commit with
    | .error f => (.error f, db.tables)
    | .ok () => ((db.attempt .readBack).map fun _ => p, tables)

end Upsert
end FloodScheme
