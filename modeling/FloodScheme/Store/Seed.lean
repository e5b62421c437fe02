import FloodScheme.Store.Lookup

/-! Reference areas for an empty area table. They are written together or not at all. -/
namespace FloodScheme.Seed

def referenceAreas : List Area := [
  { id := 1, name := "England", type := "Country" },
  { id := 2, name := "Thames", type := "EA Area", parentId := some 1 },
  { id := 3, name := "Thames PSO West", type := "PSO Area", parentId := some 2,
    subType := some "TH" },
  { id := 4, name := "Reading Borough Council", type := "RMA", parentId := some 3,
    subType := some "LA" },
  { id := 5, name := "Anglian", type := "EA Area", parentId := some 1 },
  { id := 6, name := "Anglian PSO North", type := "PSO Area", parentId := some 5,
    subType := some "AN" },
  { id := 7, name := "Norfolk County Council", type := "RMA", parentId := some 6,
    subType := some "LA" },
  { id := 8, name := "Environment Agency", type := "Authority", subType := some "EA" }]

/-- There are areas already; a failing check counts as no. -/
def isSeeded (db : Database) (tablesExist : Bool) : Bool :=
  (db.faults .listTables).isNone && tablesExist && (db.faults .countAreas).isNone &&
    !db.tables.areas.isEmpty

/-- A row takes its place by number; a number that is taken is refused. -/
def insertArea (a : Area) : List Area → Except StoreFault (List Area)
  | [] => .ok [a]
  | b :: rest =>
    if a.id = b.id then .error (.constraint none)
    else if a.id < b.id then .ok (a :: b :: rest)
    else (insertArea a rest).map (b :: ·)

/-- The reference areas one after the other, then the commit. -/
def insertAll (faults : Faults) : Nat → List Area → List Area → Except Fault (List Area)
  | _, [], table => do
    faults.attempt .commit
    pure table
  | place, a :: rest, table => do
    faults.attempt (.insertArea place)
    match insertArea a table with
    | .error f => .error (.store f)
    | .ok table => insertAll faults (place + 1) rest table

/-- Whether areas are there at the end, and the tables as they are left. -/
def run (db : Database) (tablesExist : Bool) : Bool × Tables :=
  if isSeeded db tablesExist then (true, db.tables)
  else
    match insertAll db.faults 0 referenceAreas db.tables.areas with
    | .ok areas => (true, { db.tables with areas })
    | .error _ => (false, db.tables)

end FloodScheme.Seed
