import FloodScheme.Proofs.Store.Fit
import FloodScheme.Proofs.Value.Equal
import FloodScheme.Store.Engine

/-! Success of writes. If no operation fails whose values fit, every value fits its column and the
indexes admit the row, a create and an update return. -/
namespace FloodScheme
open Outcome Number

theorem Fields.mem_set {fields : Fields} {name : String} {value : Value} {m : String × Value}
    (h : m ∈ set fields name value) : m = (name, value) ∨ m ∈ fields := by
  induction fields with
  | nil => exact .inl (List.mem_singleton.mp h)
  | cons n rest ih =>
    rw [set] at h
    split at h
    · next same =>
      rcases List.mem_cons.mp h with rfl | old
      · exact .inl (by rw [same])
      · exact .inr (List.mem_cons_of_mem _ old)
    · rcases List.mem_cons.mp h with rfl | later
      · exact .inr List.mem_cons_self
      · exact (ih later).imp_right (List.mem_cons_of_mem _)

namespace Upsert

/-- Every value fits its column. -/
def Fitting (data : Fields) : Prop := ∀ m ∈ data, (Declaration.ofColumn m.1).fits m.2 = true

/-- What a create writes beside the payload: the code with its counters, the number made of them,
and who asked for it. -/
def ownColumns (t : Tables) (code : String) (creatorId : Option Int) : Fields :=
  ("rfcc_code", .text code) :: counterColumns (nextCounters t code) ++
    identityColumns (Reference.format code (nextCounters t code)) creatorId

variable {db : Database} {u : Upsert} {p : Project} {data : Fields}

theorem fitting_data
    (fields : ∀ f ∈ Field.writable, ∀ v, u.payload.get? f.wire = some v →
      (Declaration.ofColumn f.column).fits (f.kind.toStorage v) = true)
    (area : ∀ a ∈ u.area, (Declaration.ofColumn "rma_name").fits (.text a.name) = true) :
    Fitting u.data := by
  have mapped : Fitting (Field.toStorage u.payload) := by
    intro m mem
    obtain ⟨f, known, made⟩ := List.mem_filterMap.mp mem
    obtain ⟨v, sent, rfl⟩ := Option.map_eq_some_iff.mp made
    exact fields f known v sent
  intro m mem
  unfold data at mem
  split at mem
  · next a moved =>
    rcases Fields.mem_set mem with rfl | field
    · exact area a moved
    · exact mapped m field
  · exact mapped m mem

theorem kept_of_fitting (h : Fitting data) :
    ∃ prepared kept, prepare data = .ok prepared ∧ keep prepared = .ok kept := by
  induction data with
  | nil => exact ⟨[], [], rfl, rfl⟩
  | cons m rest ih =>
    obtain ⟨c, value⟩ := m
    obtain ⟨first, later⟩ := List.forall_mem_cons.mp h
    obtain ⟨w, stored⟩ := Declaration.store_of_fits first
    obtain ⟨v, b, prepared, bound, -⟩ := ColumnType.store_eq_ok.mp stored
    obtain ⟨vs, ws, fits, stays⟩ := ih later
    refine ⟨(c, v) :: vs, (c, (ColumnType.ofColumn c).keep b) :: ws, ?_, ?_⟩
    · unfold prepare at fits ⊢
      simp only [List.mapM_cons, prepared, fits]
      rfl
    · unfold keep at stays ⊢
      simp only [List.mapM_cons, bound, stays]
      rfl

theorem signals_eq_false (stored : ∀ c, (p.column c).isKey = true) (h : Fitting data) :
    signals p data = false := by
  refine List.any_eq_false.mpr fun m mem => ?_
  have known := Value.equal?_isSome (stored m.1) (Declaration.isKey_of_fits (h m mem))
  simpa [← Option.isSome_iff_ne_none] using known

theorem Leaves.text {c : String} {before after : Value} {s : String}
    (h : Leaves c before after (some (.text s))) (column : ColumnType.ofColumn c = .text) :
    after = .text s := by
  rcases h with ⟨equal, rfl⟩ | stored
  · exact Value.eq_text_of_equal equal
  · rw [column] at stored
    exact (Except.ok.inj stored).symm

theorem any_others_eq_false {rows : List Project} {id : Int} {taken : Project → Bool} :
    (rows.filter (·.id != id)).any taken = false ↔
      ∀ q ∈ rows, q.id ≠ id → taken q = false := by
  simp [List.any_eq_false]

theorem checkIndexes_eq_ok {t : Tables} :
    checkIndexes t p = .ok () ↔ ∃ key, p.nameKey? = some key ∧
      ∀ q ∈ t.projects, q.id ≠ p.id →
        q.nameKey? ≠ some key ∧ (q.reference = p.reference → q.version ≠ p.version) := by
  have refused (a b : Bool) (f g : StoreFault) :
      (if a = true then .error f else if b = true then .error g else .ok () :
        Except StoreFault Unit) = .ok () ↔ a = false ∧ b = false := by
    cases a with
    | true => simp
    | false => cases b with
      | true => simp
      | false => simp
  unfold checkIndexes
  dsimp only
  cases p.nameKey? with
  | none => simp
  | some key =>
    dsimp only
    rw [refused, any_others_eq_false, any_others_eq_false]
    constructor
    · rintro ⟨names, references⟩
      refine ⟨key, rfl, fun q mem other => ⟨?_, fun same version => ?_⟩⟩
      · simpa using names q mem other
      · simpa [same, version] using references q mem other
    · rintro ⟨key', same, free⟩
      obtain rfl := Option.some.inj same
      refine ⟨fun q mem other => ?_, fun q mem other => ?_⟩
      · simpa using (free q mem other).1
      · simpa using (free q mem other).2

section
variable (faithful : db.faults.Faithful)
include faithful

theorem attempt_of_fits {op : Operation} (fits : op.fits = true) : db.attempt op = .ok () :=
  attempt_eq_ok.mpr (faithful op fits)

theorem send_succeeds (fitting : Fitting data) : send db data = .ok () := by
  unfold send
  induction data with
  | nil => rfl
  | cons m rest ih =>
    obtain ⟨first, later⟩ := List.forall_mem_cons.mp fitting
    exact bind_eq_ok.mpr ⟨(), attempt_of_fits faithful first, ih later⟩

theorem mint_succeeds {code : String} {creatorId : Option Int}
    (own : Fitting (ownColumns db.tables code creatorId)) :
    mint db (some code) =
      .ok (code, nextCounters db.tables code, advance db.tables.counters code) := by
  have coded : Fitting [("rfcc_code", .text code)] :=
    List.forall_mem_singleton.mpr (own _ List.mem_cons_self)
  have counted : Fitting (counterColumns (nextCounters db.tables code)) := fun m mem =>
    own m (List.mem_cons_of_mem _ (List.mem_append_left _ mem))
  refine bind_eq_ok.mpr ⟨(), attempt_of_fits faithful rfl, ?_⟩
  refine bind_eq_ok.mpr ⟨(), send_succeeds faithful coded, ?_⟩
  refine bind_eq_ok.mpr ⟨(), attempt_of_fits faithful rfl, ?_⟩
  refine bind_eq_ok.mpr ⟨(), attempt_of_fits faithful rfl, ?_⟩
  exact bind_eq_ok.mpr ⟨(), send_succeeds faithful counted, rfl⟩

theorem create_succeeds {code : String} (minted : u.code = some code)
    (own : Fitting (ownColumns db.tables code u.userId.key?)) (fitting : Fitting u.data)
    (indexes : ∀ p : Project, p.id = Tables.nextId (db.tables.projects.map Project.id) →
      p.reference = Reference.format code (nextCounters db.tables code) → p.version = 1 →
      Leaves "name" .null p.name (u.data.get? "name") → checkIndexes db.tables p = .ok ()) :
    ∃ r, create db u = .ok r := by
  obtain ⟨prepared, kept, fits, stays⟩ := kept_of_fitting fitting
  have named := leaves_setAll [] u.data_nodup fits stays "name"
  have row : Fitting (identityColumns (Reference.format code (nextCounters db.tables code))
      u.userId.key? ++ u.data) := List.forall_mem_append.mpr
    ⟨fun m mem => own m (List.mem_append_right _ mem), fitting⟩
  let x : Project :=
    { id := Tables.nextId (db.tables.projects.map Project.id)
      reference := Reference.format code (nextCounters db.tables code)
      slug := Reference.slug (Reference.format code (nextCounters db.tables code))
      creatorId := u.userId.key?
      columns := setAll [] kept
      createdAt := u.now
      updatedAt := u.now }
  have admitted : checkIndexes db.tables x = .ok () := indexes x rfl rfl rfl named
  unfold create
  rw [minted]
  refine bind_succeeds (mint_succeeds faithful own) ?_
  refine bind_succeeds (lift_eq_ok.mpr fits) ?_
  refine bind_succeeds (attempt_of_fits faithful rfl) ?_
  refine bind_succeeds (lift_eq_ok.mpr stays) ?_
  refine bind_succeeds (send_succeeds faithful row) ?_
  refine bind_succeeds (lift_eq_ok.mpr admitted) ?_
  refine bind_succeeds (attempt_of_fits faithful rfl) ?_
  cases u.area with
  | none => exact ⟨_, rfl⟩
  | some a => exact bind_succeeds (attempt_of_fits faithful rfl) ⟨_, rfl⟩

theorem changeProject_succeeds (fitting : Fitting u.data)
    (stored : ∀ c, (p.column c).isKey = true)
    (indexes : ∀ p' : Project, p'.id = p.id → p'.reference = p.reference →
      p'.version = p.version → Leaves "name" p.name p'.name (u.data.get? "name") →
        checkIndexes db.tables p' = .ok ()) : ∃ r, changeProject db u p = .ok r := by
  have changed : Fitting (changes p u.data) := fun m mem => fitting m (List.mem_filter.mp mem).1
  obtain ⟨prepared, kept, fits, stays⟩ := kept_of_fitting changed
  have named := leaves_changes u.data_nodup fits stays "name"
  unfold changeProject
  rw [signals_eq_false stored fitting, if_neg Bool.false_ne_true]
  dsimp only
  split
  · exact ⟨_, rfl⟩
  · refine bind_succeeds (lift_eq_ok.mpr fits) ?_
    refine bind_succeeds (attempt_of_fits faithful rfl) ?_
    refine bind_succeeds (lift_eq_ok.mpr stays) ?_
    refine bind_succeeds (send_succeeds faithful changed) ?_
    exact bind_succeeds (lift_eq_ok.mpr (indexes _ rfl rfl rfl named)) ⟨_, rfl⟩

theorem moveLink_succeeds (projectId : Int) (link : Option LinkRow) (a : Area) :
    ∃ links, moveLink db projectId link a = .ok links := by
  unfold moveLink
  cases link with
  | none => exact bind_succeeds (attempt_of_fits faithful rfl) ⟨_, rfl⟩
  | some l =>
    dsimp only
    split
    · exact ⟨_, rfl⟩
    · exact bind_succeeds (attempt_of_fits faithful rfl) ⟨_, rfl⟩

theorem update_succeeds {reference : String} (found : db.tables.project? reference = some p)
    (fitting : Fitting u.data) (stored : ∀ c, (p.column c).isKey = true)
    (indexes : ∀ p' : Project, p'.id = p.id → p'.reference = p.reference →
      p'.version = p.version → Leaves "name" p.name p'.name (u.data.get? "name") →
        checkIndexes db.tables p' = .ok ()) : ∃ r, update db u (.text reference) = .ok r := by
  have search : db.findProject (.text reference) = .ok (some p) := by
    unfold Database.findProject
    rw [attempt_of_fits faithful rfl]
    exact congrArg Except.ok found
  obtain ⟨⟨tables, p'⟩, changed⟩ := changeProject_succeeds faithful fitting stored indexes
  unfold update
  refine bind_succeeds search ?_
  dsimp only
  cases u.area with
  | none => exact ⟨_, changed⟩
  | some a =>
    refine bind_succeeds (attempt_of_fits faithful rfl) (bind_succeeds changed ?_)
    obtain ⟨links, moved⟩ := moveLink_succeeds faithful p.id (db.tables.link? p.id) a
    exact bind_succeeds moved ⟨_, rfl⟩

theorem run_succeeds {t : Tables} (written : write db u = .ok (t, p)) : run db u = (.ok p, t) := by
  unfold run
  rw [written, attempt_of_fits faithful rfl, attempt_of_fits faithful rfl]
  rfl

end
end Upsert
end FloodScheme
