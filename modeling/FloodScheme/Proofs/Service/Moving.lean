import FloodScheme.Proofs.Service.Window
import FloodScheme.Proofs.Store.Links
import FloodScheme.Proofs.Store.Regular

/-! Requests that move a scheme to another area, and the area that is read afterwards: the one that
the rules go by, and the one that is shown. The move leads the first link of the scheme, whoever it
belongs to; the rules go by the owner's. -/
namespace FloodScheme

/-- `project`, if the link is the owner link, `projectRow` and `toWire` return this area for the
scheme. -/
structure Database.ReadsArea (db : Database) (reference : String) (areaId : Int)
    (owner : Bool) : Prop where
  rules : owner = true → ∀ record, db.project (.text reference) = .ok (some record) →
    record.areaId = some areaId
  row : ∀ row, db.projectRow (.text reference) = .ok (some row) →
    Field.sideRow row Field.linkTable =
      .object [("area_id", .int areaId), ("owner", .bool owner)]
  shown : ∀ row wire, db.projectRow (.text reference) = .ok (some row) →
    Field.toWire row = .ok wire → wire.get? "areaId" = some (.int areaId)

theorem Upsert.Updates.readsArea {t : Tables} {u : Upsert} {x x' : Project} {a : Area}
    {reference : String} {db : Database} (h : Upsert.Updates t u x x' db.tables)
    (area : u.area = some a) (found : t.project? reference = some x) :
    db.ReadsArea reference a.id ((t.link? x.id).all LinkRow.owner) := by
  have stored := h.change.project? found
  have id := h.change.identity.1
  have side : ∀ row, db.projectRow (.text reference) = .ok (some row) →
      Field.sideRow row Field.linkTable = .object
        [("area_id", .int a.id), ("owner", .bool ((t.link? x.id).all LinkRow.owner))] := by
    intro row read
    obtain ⟨y, search⟩ := Database.found_of_projectRow read
    obtain rfl := Database.findProject_stored stored search
    rw [Field.sideRow_link search read, id, h.link? area]
    rfl
  refine ⟨fun owner record read => ?_, side, fun row wire read sent =>
    Field.get?_areaId (side row read) sent⟩
  obtain ⟨y, search, -, areaId⟩ := Database.project_eq_ok read
  obtain rfl := Database.findProject_stored stored search
  rw [areaId, id, h.ownerLink? area owner]
  rfl

namespace Service

variable {s : Service} {r : Request} {now : String} {q : Proposal} {reference : String}
  {x : Project}

/-- If an accepted request moves a scheme to another area, that area is in the table, and
`projectRow` and `toWire` return it for the scheme afterwards, for any links in any order.
`Database.project` returns it as the area to check permission for if the first link of the scheme
was the owner link or there was none. Both functions return the scheme when no operation fails. -/
theorem moved_area_read (post : r.method = "POST") (path : r.path = "/api/v1/project/upsert")
    (sent : r.Proposes q) (named : q.payload.get "referenceNumber" = .text reference)
    (stored : s.tables.project? reference = some x)
    (moves : Decision.movesArea q.payload (s.tables.record x) = true)
    (accepted : (s.answer r now).1.status < 400) :
    ∃ a, (q.payload.get "areaId").key? = some a.id ∧
      s.tables.areas.find? (·.id == a.id) = some a ∧
      (∀ db : Database, db.tables = (s.answer r now).2.tables →
        db.ReadsArea reference a.id ((s.tables.link? x.id).all LinkRow.owner)) ∧
      ∃ record row,
        Database.project { tables := (s.answer r now).2.tables } (.text reference) =
          .ok (some record) ∧
        Database.projectRow { tables := (s.answer r now).2.tables } (.text reference) =
          .ok (some row) := by
  obtain ⟨p, x', again⟩ := savesAgain_of_answer post path sent named stored accepted
  obtain ⟨a, u, key, found, area, updates⟩ := again.resolves moves
  refine ⟨a, key, found, fun db after => ?_,
    Database.readable_of_stored (updates.change.project? stored)⟩
  rw [← after] at updates
  exact updates.readsArea area stored

def anglia (links : List LinkRow) : Service where
  tables := { norfolk.tables with
    areas := norfolk.tables.areas ++ [
      { id := 3, name := "Suffolk County Council", type := "RMA", parentId := some 1 },
      { id := 4, name := "Essex County Council", type := "RMA", parentId := some 1 }]
    users := [⟨1, true⟩]
    projects := [dyke []]
    states := [⟨1, "draft"⟩]
    links }

theorem moved_area_read_anglia :
    let s := anglia [⟨1, 2, true⟩, ⟨1, 4, false⟩]
    let q := dykeStep "PROJECT_AREA" [("areaId", .int 3)]
    let r := Request.toSave "1" q
    r.Proposes q ∧ s.tables.project? "ANC501E/000A/001A" = some (dyke []) ∧
      Decision.movesArea q.payload (s.tables.record (dyke [])) = true ∧
      (s.answer r "").1.status < 400 ∧
      ∃ a, (q.payload.get "areaId").key? = some a.id ∧
        s.tables.areas.find? (·.id == a.id) = some a ∧
        (∀ db : Database, db.tables = (s.answer r "").2.tables →
          db.ReadsArea "ANC501E/000A/001A" a.id true) ∧
        ∃ record row,
          Database.project { tables := (s.answer r "").2.tables }
            (.text "ANC501E/000A/001A") = .ok (some record) ∧
          Database.projectRow { tables := (s.answer r "").2.tables }
            (.text "ANC501E/000A/001A") = .ok (some row) := by
  intro s q r
  have sent : r.Proposes q := Request.proposes_toSave "1" q
  have stored : s.tables.project? "ANC501E/000A/001A" = some (dyke []) := rfl
  have moves : Decision.movesArea q.payload (s.tables.record (dyke [])) = true := by
    decide
  have accepted : (s.answer r "").1.status < 400 := by decide
  exact ⟨sent, stored, moves, accepted, moved_area_read rfl rfl sent rfl stored moves accepted⟩

theorem moved_area_unread :
    let s := anglia [⟨1, 4, false⟩, ⟨1, 2, true⟩]
    let q := dykeStep "PROJECT_AREA" [("areaId", .int 3)]
    let r := Request.toSave "1" q
    Decision.movesArea q.payload (s.tables.record (dyke [])) = true ∧
      (s.answer r "").1.status = 200 ∧
      ∃ record, (s.answer r "").2.database.project (.text "ANC501E/000A/001A") =
        .ok (some record) ∧ record.areaId = some 2 := by
  intro s q r
  have moves : Decision.movesArea q.payload (s.tables.record (dyke [])) = true := by
    decide
  have accepted : (s.answer r "").1.status = 200 := by decide
  have area : (((s.answer r "").2.database.project (.text "ANC501E/000A/001A")).toOption.bind
      fun record => record.bind ProjectRecord.areaId) = some 2 := by decide
  refine ⟨moves, accepted, ?_⟩
  cases read : (s.answer r "").2.database.project (.text "ANC501E/000A/001A") with
  | error f =>
    rw [read] at area
    cases area
  | ok found =>
    rw [read] at area
    have two : found.bind ProjectRecord.areaId = some 2 := area
    obtain ⟨record, rfl, two⟩ := Option.bind_eq_some_iff.mp two
    exact ⟨record, rfl, two⟩

end Service
end FloodScheme
