import FloodScheme.Proofs.Field.Kind
import FloodScheme.Proofs.Field.Shown
import FloodScheme.Proofs.Store.Row

/-! Round trips of whole objects. `toWire (toStorage payload)` has the members of a payload in wire
form, and `toStorage` after `toWire` returns the writable columns of a row in storage form; fields
that are only shown reach no column. -/
namespace FloodScheme.Field
open Outcome

theorem readOnly_columns : ∀ f ∈ readOnly, f.column ∉ writable.map column := by decide

theorem tables_apart : stateTable ∉ writable.map column ∧ linkTable ∉ writable.map column := by
  decide

theorem get?_toStorage_of_not_mem (payload : Fields) {c : String}
    (other : c ∉ writable.map column) : (toStorage payload).get? c = none := by
  refine Fields.get?_eq_none fun mem => other ?_
  rw [toStorage_names] at mem
  exact (List.filter_sublist.map column).subset mem

/-- A payload of writable fields, each in the form of the wire. -/
structure WirePayload (payload : Fields) : Prop where
  known : ∀ name ∈ payload.names, name ∈ writable.map Field.wire
  form : ∀ f ∈ writable, ∀ v, payload.get? f.wire = some v → f.kind.WireForm v

theorem WirePayload.sent {payload : Fields} (h : WirePayload payload) {f : Field}
    (mem : f ∈ selected) {v : Value} (stored : (toStorage payload).get? f.column = some v) :
    ∃ w, payload.get? f.wire = some w ∧ f.kind.toWire v = .ok w := by
  rcases List.mem_append.mp mem with own | shown
  · rw [get?_toStorage own] at stored
    obtain ⟨w, sent, rfl⟩ := Option.map_eq_some_iff.mp stored
    exact ⟨w, sent, FieldKind.toWire_toStorage (h.form f own w sent)⟩
  · rw [get?_toStorage_of_not_mem payload (readOnly_columns f shown)] at stored
    cases stored

theorem sides_toStorage (payload : Fields) :
    joined.mapM (fun side => joinRow side.2 (sideRow (toStorage payload) side.1)) =
      .ok [[], []] := by
  have state : sideRow (toStorage payload) stateTable = .null := by
    rw [sideRow, Fields.get, get?_toStorage_of_not_mem payload tables_apart.1]
    rfl
  have link : sideRow (toStorage payload) linkTable = .null := by
    rw [sideRow, Fields.get, get?_toStorage_of_not_mem payload tables_apart.2]
    rfl
  simp only [joined, List.mapM_cons, List.mapM_nil, state, link]
  rfl

/-- `toWire (toStorage payload)` has the same members as a canonical payload. -/
theorem payload_round_trip {payload : Fields} (h : WirePayload payload) :
    ∃ shown, toWire (toStorage payload) = .ok shown ∧ shown.names.Nodup ∧
      ∀ name, shown.get? name = payload.get? name := by
  obtain ⟨own, mapped⟩ := mapRow_succeeds fun f mem v stored =>
    (h.sent (f := f) mem stored).imp fun _ => And.right
  refine ⟨own, toWire_eq_ok.mpr ⟨own, _, mapped, sides_toStorage payload, rfl⟩, ?_, fun name => ?_⟩
  · rw [names_mapRow mapped]
    exact wires_nodup.sublist (List.filter_sublist.map _)
  · by_cases known : name ∈ writable.map Field.wire
    · obtain ⟨f, mem, rfl⟩ := List.mem_map.mp known
      have there : f ∈ selected := List.mem_append_left _ mem
      cases stored : (toStorage payload).get? f.column with
      | none =>
        rw [get?_mapRow_eq_none wires_nodup mapped there stored]
        rw [get?_toStorage mem] at stored
        exact (Option.map_eq_none_iff.mp stored).symm
      | some v =>
        obtain ⟨w, sent, value⟩ := h.sent there stored
        obtain ⟨w', value', shown⟩ := get?_mapRow wires_nodup mapped there stored
        obtain rfl := Except.ok.inj (value.symm.trans value')
        rw [shown, sent]
    · rw [Fields.get?_eq_none fun mem => known (h.known name mem)]
      refine Fields.get?_eq_none fun named => known ?_
      rw [names_mapRow mapped] at named
      obtain ⟨f, kept, rfl⟩ := List.mem_map.mp named
      obtain ⟨mem, has⟩ := List.mem_filter.mp kept
      rcases List.mem_append.mp mem with own | shown
      · exact List.mem_map_of_mem own
      · rw [Fields.has, get?_toStorage_of_not_mem payload (readOnly_columns f shown)] at has
        cases has

/-- A list of two, a number of more than 64 bits, a share with its places and a zero with its
sign. -/
def samplePayload : Fields := [
  ("risks", .list [.text "tidal flooding", .text "sea"]),
  ("financialStartYear", .int (2 ^ 70)),
  ("percentProperties20PercentDeprived", .text "12.50"),
  ("percentProperties40PercentDeprived", .text "-0.0"),
  ("name", .object [("any", .bool true)])]

theorem samplePayload_round_trip :
    WirePayload samplePayload ∧
      ∃ shown, toWire (toStorage samplePayload) = .ok shown ∧ shown.names.Nodup ∧
        ∀ name, shown.get? name = samplePayload.get? name := by
  have form : WirePayload samplePayload := by
    have kinds : ∀ f ∈ writable,
        (f.wire = "risks" → f.kind = .array) ∧ (f.wire = "financialStartYear" → f.kind = .number) ∧
        (f.wire = "percentProperties20PercentDeprived" → f.kind = .percentage) ∧
        (f.wire = "percentProperties40PercentDeprived" → f.kind = .percentage) ∧
        (f.wire = "name" → f.kind = .copied) := by decide
    refine ⟨by decide, fun f mem v found => ?_⟩
    obtain ⟨risks, year, share, zero, name⟩ := kinds f mem
    have sent := Fields.mem_of_get? found
    simp only [samplePayload, List.mem_cons, List.not_mem_nil, or_false, Prod.mk.injEq] at sent
    rcases sent with ⟨own, rfl⟩ | ⟨own, rfl⟩ | ⟨own, rfl⟩ | ⟨own, rfl⟩ | ⟨own, rfl⟩
    · rw [risks own]
      exact ⟨["tidal flooding", "sea"], rfl, by decide, by decide⟩
    · rw [year own]
      exact .inr ⟨_, rfl⟩
    · rw [share own]
      exact .inr ⟨_, rfl, false, ['1', '2'], ['5', '0'], rfl, .inr ⟨'1', ['2'], rfl, by decide⟩,
        List.all_eq_true.mp rfl⟩
    · rw [zero own]
      exact .inr ⟨_, rfl, true, ['0'], ['0'], rfl, .inl rfl, List.all_eq_true.mp rfl⟩
    · rw [name own]
      exact trivial
  exact ⟨form, payload_round_trip form⟩

/-- A row in the form of storage. Columns that are only shown and side tables, of which there may
be none, are in that form too. -/
structure StoredRow (row : Fields) : Prop where
  form : ∀ f ∈ selected, ∀ v, row.get? f.column = some v → f.kind.StoredForm v
  sides : ∀ side ∈ joined, sideRow row side.1 = .null ∨
    ∃ members : Fields, sideRow row side.1 = .object members ∧
      ∀ f ∈ side.2, ∀ v, members.get? f.column = some v → f.kind.StoredForm v

theorem StoredRow.adds {row : Fields} (h : StoredRow row) {side : String × List Field}
    (mem : side ∈ joined) : ∃ added, joinRow side.2 (sideRow row side.1) = .ok added := by
  rcases h.sides side mem with none | ⟨members, object, form⟩
  · rw [none]
    exact ⟨[], rfl⟩
  · rw [object]
    unfold joinRow
    split
    · exact ⟨[], rfl⟩
    · exact mapRow_succeeds fun f inside v found =>
        (FieldKind.toStorage_toWire (form f inside v found)).imp fun _ => And.left

theorem storedRow_of_projectRow {db : Database} {reference : Value} {p : Project} {row : Fields}
    (found : db.findProject reference = .ok (some p))
    (read : db.projectRow reference = .ok (some row))
    (form : ∀ f ∈ writable, f.kind.StoredForm (p.column f.column)) : StoredRow row := by
  constructor
  · intro f mem v there
    rcases List.mem_append.mp mem with own | shown
    · rw [get?_projectRow found read own] at there
      obtain rfl := Option.some.inj there
      exact form f own
    · have kinds : ∀ f ∈ readOnly, f.kind = .copied ∨ f.column = "id" ∧ f.kind = .number := by
        decide
      rcases kinds f shown with copied | ⟨id, number⟩
      · rw [copied]
        exact trivial
      · rw [id, projectRow_eq_ok found read, Fields.get?_append, Fields.get?_append] at there
        obtain rfl := Option.some.inj there
        rw [number]
        exact .inr ⟨_, rfl⟩
  · intro side mem
    simp only [joined, List.mem_cons, List.not_mem_nil, or_false] at mem
    rcases mem with rfl | rfl
    · rw [sideRow_state found read]
      cases db.tables.state? p.id with
      | none => exact .inl rfl
      | some s =>
        refine .inr ⟨_, rfl, fun f inside v _ => ?_⟩
        obtain rfl := List.mem_singleton.mp inside
        exact trivial
    · rw [sideRow_link found read]
      cases db.tables.link? p.id with
      | none => exact .inl rfl
      | some l =>
        refine .inr ⟨_, rfl, fun f inside v there => ?_⟩
        simp only [List.mem_cons, List.not_mem_nil, or_false] at inside
        rcases inside with rfl | rfl
        · cases there
          exact .inr ⟨_, rfl⟩
        · exact trivial

theorem StoredRow.back {row own : Fields} (h : StoredRow row) {sides : List Fields}
    (mapped : mapRow selected row = .ok own)
    (added : joined.mapM (fun side => joinRow side.2 (sideRow row side.1)) = .ok sides)
    (c : String) : (toStorage (Upsert.setAll own sides.flatten)).get? c =
      if c ∈ writable.map Field.column then row.get? c else none := by
  split
  · next known =>
    obtain ⟨f, mem, rfl⟩ := List.mem_map.mp known
    have there : f ∈ selected := List.mem_append_left _ mem
    rw [get?_toStorage mem, get?_toWire added (joinedWires_apart f mem)]
    cases found : row.get? f.column with
    | none => rw [get?_mapRow_eq_none wires_nodup mapped there found, Option.map_none]
    | some v =>
      obtain ⟨w, value, stored⟩ := FieldKind.toStorage_toWire (h.form f there v found)
      obtain ⟨w', value', shown⟩ := get?_mapRow wires_nodup mapped there found
      obtain rfl := Except.ok.inj (value.symm.trans value')
      rw [shown, Option.map_some, stored]
  · next other => exact get?_toStorage_of_not_mem _ other

/-- `toStorage` after `toWire` returns the writable columns of a canonical row with the same values,
and no other columns. If the row was read from a stored project, writing the result back changes no
column of that project. -/
theorem row_round_trip {row : Fields} (h : StoredRow row) :
    ∃ shown, toWire row = .ok shown ∧
      (∀ c, (toStorage shown).get? c = if c ∈ writable.map Field.column then row.get? c else none) ∧
      ((∀ c ∈ row.names, c ∈ writable.map Field.column) →
        ∀ c, (toStorage shown).get? c = row.get? c) ∧
      ∀ (db : Database) (reference : Value) (p : Project),
        db.findProject reference = .ok (some p) → db.projectRow reference = .ok (some row) →
          (∀ c, (Upsert.setAll p.columns (toStorage shown)).get c = p.column c) ∧
          ((∀ c, (p.column c).equal (p.column c) = true) →
            Upsert.changes p (toStorage shown) = []) := by
  obtain ⟨own, mapped⟩ := mapRow_succeeds fun f mem v found =>
    (FieldKind.toStorage_toWire (h.form f mem v found)).imp fun _ => And.left
  obtain ⟨sides, added⟩ := mapM_succeeds fun _ mem => h.adds mem
  have back := h.back mapped added
  refine ⟨_, toWire_eq_ok.mpr ⟨own, sides, mapped, added, rfl⟩, back, fun known c => ?_, ?_⟩
  · rw [back]
    split
    · rfl
    · next other => exact (Fields.get?_eq_none fun named => other (known c named)).symm
  · intro db reference p found read
    have same : ∀ c v, (toStorage (Upsert.setAll own sides.flatten)).get? c = some v →
        v = p.column c := by
      intro c v stored
      rw [back] at stored
      split at stored
      · next known =>
        obtain ⟨f, mem, rfl⟩ := List.mem_map.mp known
        rw [get?_projectRow found read mem] at stored
        exact (Option.some.inj stored).symm
      · cases stored
    refine ⟨fun c => ?_, fun equal => List.filter_eq_nil_iff.mpr ?_⟩
    · rw [Fields.get, Upsert.get?_setAll _ (toStorage_nodup _)]
      cases stored : (toStorage (Upsert.setAll own sides.flatten)).get? c with
      | none => rfl
      | some v => exact same c v stored
    · rintro ⟨c, v⟩ mem
      have stored := Fields.get?_of_mem (toStorage_nodup _) mem
      simpa [same c v stored] using equal c

/-- No types, two risks, a year, a share of nothing below zero. -/
def sampleProject : Project where
  id := 10
  reference := "ANC501E/000A/001A"
  slug := "anc501e-000a-001a"
  columns := [
    ("name", .text "Sea wall"),
    ("project_intervention_types", .text ""),
    ("project_risks_protected_against", .text "tidal flooding,sea"),
    ("earliest_start_year", .int 2025),
    ("percent_properties_20_percent_deprived", .decimal (.finite true 0 (-2)))]
  createdAt := "2025-01-01"
  updatedAt := "2025-01-01"

def sampleDatabase : Database where
  tables := { projects := [sampleProject], states := [⟨10, "draft"⟩], links := [⟨10, 3, true⟩] }

set_option maxRecDepth 1000 in
theorem sampleProject_form : ∀ f ∈ writable, f.kind.StoredForm (sampleProject.column f.column) := by
  have kinds : ∀ f ∈ writable, f.kind = .copied ∨
      (f.kind = .number ∨ f.kind = .percentage) ∧ f.column ∉ sampleProject.columns.names ∨
      f.kind = .array ∧ f.column = "project_intervention_types" ∨
      f.kind = .array ∧ f.column = "project_risks_protected_against" ∨
      f.kind = .number ∧ f.column = "earliest_start_year" ∨
      f.kind = .percentage ∧ f.column = "percent_properties_20_percent_deprived" := by decide
  intro f mem
  rcases kinds f mem with copied | ⟨kind, none⟩ | ⟨kind, own⟩ | ⟨kind, own⟩ | ⟨kind, own⟩ |
    ⟨kind, own⟩
  · rw [copied]
    exact trivial
  · rw [Project.column, Fields.get, Fields.get?_eq_none none]
    rcases kind with kind | kind
    · rw [kind]
      exact .inl rfl
    · rw [kind]
      exact .inl rfl
  · rw [kind, own]
    exact ⟨"", rfl, by decide⟩
  · rw [kind, own]
    exact ⟨"tidal flooding,sea", rfl, by decide⟩
  · rw [kind, own]
    exact .inr ⟨2025, rfl⟩
  · rw [kind, own]
    exact .inr ⟨true, 0, -2, rfl, by decide, by decide, by decide⟩

theorem sampleProject_round_trip : ∃ row,
    sampleDatabase.findProject (.text "ANC501E/000A/001A") = .ok (some sampleProject) ∧
    sampleDatabase.projectRow (.text "ANC501E/000A/001A") = .ok (some row) ∧ StoredRow row ∧
    ∃ shown, toWire row = .ok shown ∧
      (∀ c, (toStorage shown).get? c = if c ∈ writable.map Field.column then row.get? c else none) ∧
      ∀ c, (Upsert.setAll sampleProject.columns (toStorage shown)).get c =
        sampleProject.column c := by
  have found : sampleDatabase.findProject (.text "ANC501E/000A/001A") = .ok (some sampleProject) :=
    rfl
  have read : sampleDatabase.projectRow (.text "ANC501E/000A/001A") = .ok (some
      (sampleProject.row ++ [(stateTable, .object [("state", .text "draft")]),
        (linkTable, .object [("area_id", .int 3), ("owner", .bool true)])])) := rfl
  have form := storedRow_of_projectRow found read sampleProject_form
  obtain ⟨shown, sent, back, -, kept⟩ := row_round_trip form
  exact ⟨_, found, read, form, shown, sent, back, (kept _ _ _ found read).1⟩

end FloodScheme.Field
