import FloodScheme.Proofs.Store.Columns

/-! A stored row as one flat object. Every field takes the value of its column, and what side tables
add stands under names of its own. -/
namespace FloodScheme.Field
open Outcome

theorem wires_nodup : (selected.map wire).Nodup := by decide

/-- Names under which side tables add to an object. -/
def joinedWires : List String := joined.flatMap fun side => side.2.map wire

theorem joinedWires_nodup : joinedWires.Nodup := by decide

theorem joinedWires_apart : ∀ f ∈ writable, f.wire ∉ joinedWires := by decide

def member (row : Fields) (f : Field) : Except Fault Fields :=
  match row.get? f.column with
  | some v => do pure [(f.wire, ← f.kind.toWire v)]
  | none => pure []

theorem mapRow_eq (fields : List Field) (row : Fields) :
    mapRow fields row = fields.mapM (member row) >>= fun mapped => pure mapped.flatten := rfl

theorem member_eq_ok {f : Field} {row first : Fields} :
    member row f = .ok first ↔ (row.get? f.column = none ∧ first = []) ∨
      ∃ v w, row.get? f.column = some v ∧ f.kind.toWire v = .ok w ∧ first = [(f.wire, w)] := by
  unfold member
  cases found : row.get? f.column with
  | none =>
    constructor
    · intro h
      exact .inl ⟨rfl, (pure_eq_ok.mp h).symm⟩
    · rintro (⟨-, rfl⟩ | ⟨v, w, impossible, -⟩)
      · rfl
      · cases impossible
  | some v =>
    constructor
    · intro h
      obtain ⟨w, value, h⟩ := bind_eq_ok.mp h
      exact .inr ⟨v, w, rfl, value, (pure_eq_ok.mp h).symm⟩
    · rintro (⟨impossible, -⟩ | ⟨u, w, same, value, rfl⟩)
      · cases impossible
      · cases same
        exact bind_eq_ok.mpr ⟨w, value, rfl⟩

theorem mapRow_cons_eq_ok {f : Field} {rest : List Field} {row wire : Fields} :
    mapRow (f :: rest) row = .ok wire ↔
      (row.get? f.column = none ∧ mapRow rest row = .ok wire) ∨
        ∃ v w others, row.get? f.column = some v ∧ f.kind.toWire v = .ok w ∧
          mapRow rest row = .ok others ∧ wire = (f.wire, w) :: others := by
  have step : mapRow (f :: rest) row = .ok wire ↔
      ∃ first others, member row f = .ok first ∧ mapRow rest row = .ok others ∧
        wire = first ++ others := by
    simp only [mapRow_eq, List.mapM_cons, bind_eq_ok, pure_eq_ok]
    constructor
    · rintro ⟨_, ⟨first, own, mapped, later, rfl⟩, rfl⟩
      exact ⟨first, mapped.flatten, own, ⟨mapped, later, rfl⟩, rfl⟩
    · rintro ⟨first, _, own, ⟨mapped, later, rfl⟩, rfl⟩
      exact ⟨first :: mapped, ⟨first, own, mapped, later, rfl⟩, rfl⟩
  rw [step]
  constructor
  · rintro ⟨first, others, own, later, rfl⟩
    rcases member_eq_ok.mp own with ⟨missing, rfl⟩ | ⟨v, w, found, value, rfl⟩
    · exact .inl ⟨missing, later⟩
    · exact .inr ⟨v, w, others, found, value, later, rfl⟩
  · rintro (⟨missing, later⟩ | ⟨v, w, others, found, value, later, rfl⟩)
    · exact ⟨[], wire, member_eq_ok.mpr (.inl ⟨missing, rfl⟩), later, rfl⟩
    · exact ⟨[(f.wire, w)], others, member_eq_ok.mpr (.inr ⟨v, w, found, value, rfl⟩), later, rfl⟩

variable {fields : List Field} {row wire : Fields}

theorem names_mapRow (h : mapRow fields row = .ok wire) :
    wire.names = (fields.filter fun f => row.has f.column).map Field.wire := by
  induction fields generalizing wire with
  | nil =>
    cases h
    rfl
  | cons f rest ih =>
    rcases mapRow_cons_eq_ok.mp h with ⟨missing, mapped⟩ | ⟨v, w, others, found, -, mapped, rfl⟩
    · rw [ih mapped, List.filter_cons, Fields.has, missing]
      rfl
    · rw [List.filter_cons, Fields.has, found]
      exact congrArg (f.wire :: ·) (ih mapped)

theorem get?_mapRow (apart : (fields.map Field.wire).Nodup) (h : mapRow fields row = .ok wire)
    {f : Field} (mem : f ∈ fields) {v : Value} (found : row.get? f.column = some v) :
    ∃ w, f.kind.toWire v = .ok w ∧ wire.get? f.wire = some w := by
  induction fields generalizing wire with
  | nil => cases mem
  | cons g rest ih =>
    obtain ⟨new, apart⟩ := List.nodup_cons.mp apart
    rcases mapRow_cons_eq_ok.mp h with ⟨missing, mapped⟩ | ⟨u, w, others, there, value, mapped, rfl⟩
    · rcases List.mem_cons.mp mem with rfl | later
      · rw [missing] at found
        cases found
      · exact ih apart mapped later
    · rw [Fields.get?_cons]
      rcases List.mem_cons.mp mem with rfl | later
      · rw [there] at found
        cases found
        exact ⟨w, value, if_pos rfl⟩
      · have other : f.wire ≠ g.wire := fun same => new (same ▸ List.mem_map_of_mem later)
        rw [if_neg other]
        exact ih apart mapped later

theorem get?_mapRow_eq_none (apart : (fields.map Field.wire).Nodup)
    (h : mapRow fields row = .ok wire) {f : Field} (mem : f ∈ fields)
    (missing : row.get? f.column = none) : wire.get? f.wire = none := by
  refine Fields.get?_eq_none fun named => ?_
  rw [names_mapRow h] at named
  obtain ⟨g, kept, same⟩ := List.mem_map.mp named
  obtain ⟨there, has⟩ := List.mem_filter.mp kept
  obtain rfl := List.inj_on_of_nodup_map apart there mem same
  rw [Fields.has, missing] at has
  cases has

theorem mapRow_succeeds (values : ∀ f ∈ fields, ∀ v, row.get? f.column = some v →
    ∃ w, f.kind.toWire v = .ok w) : ∃ wire, mapRow fields row = .ok wire := by
  have each : ∀ f ∈ fields, ∃ first, member row f = .ok first := by
    intro f mem
    cases found : row.get? f.column with
    | none => exact ⟨[], member_eq_ok.mpr (.inl ⟨found, rfl⟩)⟩
    | some v =>
      obtain ⟨w, value⟩ := values f mem v found
      exact ⟨_, member_eq_ok.mpr (.inr ⟨v, w, found, value, rfl⟩)⟩
  obtain ⟨mapped, collected⟩ := mapM_succeeds each
  exact bind_succeeds collected ⟨_, rfl⟩

theorem names_joinRow {side : Value} (h : joinRow fields side = .ok wire) :
    wire.names.Sublist (fields.map Field.wire) := by
  have nothing : (Fields.names []).Sublist (fields.map Field.wire) := List.nil_sublist _
  unfold joinRow at h
  split at h
  · cases h
    exact nothing
  · split at h
    · rw [names_mapRow h]
      exact List.filter_sublist.map _
    · split at h
      · cases h
      · cases h
        exact nothing
    · split at h
      · cases h
      · cases h
        exact nothing
    · cases h

theorem toWire_eq_ok :
    toWire row = .ok wire ↔ ∃ own sides, mapRow selected row = .ok own ∧
      joined.mapM (fun side => joinRow side.2 (sideRow row side.1)) = .ok sides ∧
      wire = Upsert.setAll own sides.flatten := by
  unfold toWire
  constructor
  · intro h
    obtain ⟨own, mapped, h⟩ := bind_eq_ok.mp h
    obtain ⟨sides, added, h⟩ := bind_eq_ok.mp h
    exact ⟨own, sides, mapped, added, (pure_eq_ok.mp h).symm⟩
  · rintro ⟨own, sides, mapped, added, rfl⟩
    exact bind_eq_ok.mpr ⟨own, mapped, bind_eq_ok.mpr ⟨sides, added, rfl⟩⟩

theorem names_sides {sides : List Fields}
    (h : joined.mapM (fun side => joinRow side.2 (sideRow row side.1)) = .ok sides) :
    (Fields.names sides.flatten).Sublist joinedWires := by
  unfold joinedWires
  generalize joined = tables at h
  induction tables generalizing sides with
  | nil =>
    cases h
    exact List.Sublist.refl _
  | cons side rest ih =>
    rw [List.mapM_cons] at h
    obtain ⟨first, added, h⟩ := bind_eq_ok.mp h
    obtain ⟨others, mapped, h⟩ := bind_eq_ok.mp h
    obtain rfl := pure_eq_ok.mp h
    rw [List.flatten_cons, List.flatMap_cons, Fields.names, List.map_append]
    exact (names_joinRow added).append (ih mapped)

theorem get?_toWire {sides : List Fields} {own : Fields}
    (h : joined.mapM (fun side => joinRow side.2 (sideRow row side.1)) = .ok sides) {name : String}
    (other : name ∉ joinedWires) :
    (Upsert.setAll own sides.flatten).get? name = own.get? name := by
  have names := names_sides h
  rw [Upsert.get?_setAll own (joinedWires_nodup.sublist names),
    Fields.get?_eq_none fun mem => other (names.subset mem), Option.none_or]

theorem get?_areaId {areaId : Int} {owner : Bool}
    (link : sideRow row linkTable =
      .object [("area_id", .int areaId), ("owner", .bool owner)])
    (h : toWire row = .ok wire) : wire.get? "areaId" = some (.int areaId) := by
  obtain ⟨own, sides, -, added, rfl⟩ := toWire_eq_ok.mp h
  rw [Upsert.get?_setAll own (joinedWires_nodup.sublist (names_sides added))]
  rw [joined, List.mapM_cons] at added
  obtain ⟨state, first, added⟩ := bind_eq_ok.mp added
  obtain ⟨rest, others, added⟩ := bind_eq_ok.mp added
  obtain rfl := pure_eq_ok.mp added
  rw [List.mapM_cons] at others
  dsimp only at others
  rw [link] at others
  cases others
  have other : "areaId" ∉ state.names := fun mem => by
    have named := (names_joinRow first).subset mem
    simp at named
  rw [List.flatten_cons, Fields.get?_append, Fields.get?_eq_none other]
  rfl

end FloodScheme.Field
