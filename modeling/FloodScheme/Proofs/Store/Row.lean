import FloodScheme.Proofs.Store.Columns

/-! What is read of a stored project: its row with every column, and beside it the rows of its side
tables under their names. -/
namespace FloodScheme
open Outcome

namespace Database

variable {db : Database} {reference : Value}

theorem project_eq_ok {record : ProjectRecord}
    (h : db.project reference = .ok (some record)) :
    ∃ p, db.findProject reference = .ok (some p) ∧ record.id = p.id ∧
      record.areaId = (db.tables.ownerLink? p.id).map LinkRow.areaId := by
  obtain ⟨found, search, h⟩ := bind_eq_ok.mp h
  cases found with
  | none => cases pure_eq_ok.mp h
  | some p =>
    obtain ⟨_, -, h⟩ := bind_eq_ok.mp h
    obtain ⟨_, -, h⟩ := bind_eq_ok.mp h
    obtain rfl := Option.some.inj (pure_eq_ok.mp h)
    exact ⟨p, search, rfl, rfl⟩

theorem found_of_projectRow {row : Fields} (h : db.projectRow reference = .ok (some row)) :
    ∃ p, db.findProject reference = .ok (some p) := by
  obtain ⟨found, search, h⟩ := bind_eq_ok.mp h
  cases found with
  | none => cases pure_eq_ok.mp h
  | some p => exact ⟨p, search⟩

theorem findProject_stored {key : String} {p q : Project}
    (stored : db.tables.project? key = some p) (h : db.findProject (.text key) = .ok (some q)) :
    q = p := by
  obtain ⟨key', search, found⟩ := Upsert.findProject_eq_ok h
  obtain rfl : key = key' := Option.some.inj (Except.ok.inj search)
  exact Option.some.inj (found.symm.trans stored)

theorem readable_of_stored {t : Tables} {key : String} {p : Project}
    (stored : t.project? key = some p) : ∃ record row,
      Database.project { tables := t } (.text key) = .ok (some record) ∧
      Database.projectRow { tables := t } (.text key) = .ok (some row) := by
  have found : Database.findProject { tables := t } (.text key) = .ok (some p) :=
    congrArg Except.ok stored
  exact ⟨_, _, bind_eq_ok.mpr ⟨_, found, rfl⟩, bind_eq_ok.mpr ⟨_, found, rfl⟩⟩

end Database

namespace Field

theorem get?_row (p : Project) {f : Field} (mem : f ∈ writable) :
    p.row.get? f.column = some (p.column f.column) := by
  have apart : ∀ c ∈ ["id", "reference_number", "version", "slug", "creator_id"],
      c ∉ writable.map Field.column := by decide
  let own : Fields := writable.map fun f => (f.column, p.column f.column)
  obtain ⟨front, rest, first, parts⟩ : ∃ front rest : Fields,
      front.names = ["id", "reference_number", "version", "slug", "creator_id"] ∧
      p.row = front ++ own ++ rest := ⟨_, _, rfl, rfl⟩
  have other : f.column ∉ front.names := fun there =>
    apart _ (first ▸ there) (List.mem_map_of_mem mem)
  have names : own.names = writable.map Field.column := by
    rw [Fields.names, List.map_map]
    rfl
  have found : own.get? f.column = some (p.column f.column) := by
    refine Fields.get?_of_mem ?_ (List.mem_map_of_mem mem)
    rw [names]
    exact columns_nodup
  rw [parts, Fields.get?_append, Fields.get?_append, Fields.get?_eq_none other, found]
  rfl

theorem names_row (p : Project) :
    p.row.names = ["id", "reference_number", "version", "slug", "creator_id"] ++
      writable.map Field.column ++ ["urgency_details_updated_at", "created_at", "updated_at"] := by
  rw [Project.row, Fields.names, List.map_append, List.map_append, List.map_map]
  rfl

theorem projectRow_eq_ok {db : Database} {reference : Value} {p : Project} {row : Fields}
    (found : db.findProject reference = .ok (some p))
    (read : db.projectRow reference = .ok (some row)) :
    row = p.row ++
      ((db.tables.state? p.id).map fun s => (stateTable,
        Value.object [("state", .text s.state)])).toList ++
      ((db.tables.link? p.id).map fun l => (linkTable,
        Value.object [("area_id", .int l.areaId), ("owner", .bool l.owner)])).toList := by
  obtain ⟨there, same, read⟩ := bind_eq_ok.mp read
  obtain rfl := Except.ok.inj (found.symm.trans same)
  obtain ⟨_, -, read⟩ := bind_eq_ok.mp read
  obtain ⟨_, -, read⟩ := bind_eq_ok.mp read
  exact (Option.some.inj (pure_eq_ok.mp read)).symm

section Read

variable {db : Database} {reference : Value} {p : Project} {row : Fields}
  (found : db.findProject reference = .ok (some p))
  (read : db.projectRow reference = .ok (some row))
include found read

theorem get?_projectRow {f : Field} (mem : f ∈ writable) :
    row.get? f.column = some (p.column f.column) := by
  rw [projectRow_eq_ok found read, Fields.get?_append, Fields.get?_append, get?_row p mem]
  rfl

theorem sideRow_state : sideRow row stateTable = (db.tables.state? p.id).elim .null fun s =>
    .object [("state", .text s.state)] := by
  have other : stateTable ∉ p.row.names := by
    rw [names_row]
    decide
  rw [sideRow, Fields.get, projectRow_eq_ok found read, Fields.get?_append, Fields.get?_append,
    Fields.get?_eq_none other]
  cases db.tables.state? p.id with
  | some s => rfl
  | none =>
    cases db.tables.link? p.id with
    | some l => rfl
    | none => rfl

theorem sideRow_link : sideRow row linkTable = (db.tables.link? p.id).elim .null fun l =>
    .object [("area_id", .int l.areaId), ("owner", .bool l.owner)] := by
  have other : linkTable ∉ p.row.names := by
    rw [names_row]
    decide
  rw [sideRow, Fields.get, projectRow_eq_ok found read, Fields.get?_append, Fields.get?_append,
    Fields.get?_eq_none other]
  cases db.tables.state? p.id with
  | some s =>
    cases db.tables.link? p.id with
    | some l => rfl
    | none => rfl
  | none =>
    cases db.tables.link? p.id with
    | some l => rfl
    | none => rfl

end Read

end Field
end FloodScheme
