import FloodScheme.Proofs.Store.Sound

/-! The index on names. It refuses a row only for the name of another project; no other step of a
write is refused for a name. -/
namespace FloodScheme
open Outcome Number

/-- The index on names refuses a row. -/
def StoreFault.nameRefused : StoreFault := .constraint (some Upsert.nameIndex)

open StoreFault (nameRefused)

namespace ColumnType

theorem prepareBoolean_ne {v : Value} : prepareBoolean v ≠ .error nameRefused := by
  unfold prepareBoolean
  split
  · exact nofun
  · split
    · split
      · exact nofun
      · split
        · exact nofun
        · exact nofun
    · exact nofun

theorem prepareNumeric_ne {v : Value} : prepareNumeric v ≠ .error nameRefused := by
  unfold prepareNumeric
  extract_lets known
  have known_ne (x : Option Double) : known x ≠ .error nameRefused := by
    cases x with
    | none => exact nofun
    | some x => exact nofun
  cases v with
  | null => exact nofun
  | bool b => exact known_ne _
  | int i => exact known_ne _
  | float x => exact nofun
  | decimal d =>
    dsimp only
    split
    · exact nofun
    · exact nofun
  | text s => exact known_ne _
  | list items => exact nofun
  | object members => exact nofun

theorem prepare_ne (t : ColumnType) (v : Value) : t.prepare v ≠ .error nameRefused := by
  cases t with
  | text => exact nofun
  | integer => exact nofun
  | boolean => exact prepareBoolean_ne
  | numeric => exact prepareNumeric_ne

theorem bind_ne (v : Value) : bind v ≠ .error nameRefused := by
  unfold bind
  split
  · exact nofun
  · split
    · exact nofun
    · exact nofun
  · exact nofun
  · exact nofun
  · exact nofun
  · exact nofun
  · exact nofun

end ColumnType

theorem searchText_ne (v : Value) : searchText v ≠ .error nameRefused := by
  unfold searchText
  refine map_ne_error ?_
  cases v with
  | decimal d => exact bind_ne_error ColumnType.prepareNumeric_ne fun w _ => ColumnType.bind_ne w
  | null => exact ColumnType.bind_ne _
  | bool b => exact ColumnType.bind_ne _
  | int i => exact ColumnType.bind_ne _
  | float x => exact ColumnType.bind_ne _
  | text s => exact ColumnType.bind_ne _
  | list items => exact ColumnType.bind_ne _
  | object members => exact ColumnType.bind_ne _

namespace Upsert

variable {db : Database} {u : Upsert} {p : Project} {data : Fields}

theorem lift_ne {α : Type} {r : Except StoreFault α} {f : StoreFault} (h : r ≠ .error f) :
    lift r ≠ .error (.store f) := by
  intro stopped
  obtain ⟨g, found, same⟩ := mapError_eq_error.mp stopped
  obtain rfl := Fault.store.inj same
  exact h found

theorem prepare_ne (data : Fields) : prepare data ≠ .error nameRefused :=
  mapM_ne_error fun m _ => bind_ne_error (ColumnType.prepare_ne _ m.2) fun _ _ => nofun

theorem keep_ne (data : Fields) : keep data ≠ .error nameRefused :=
  mapM_ne_error fun m _ => bind_ne_error (ColumnType.bind_ne m.2) fun _ _ => nofun

theorem checkIndexes_ne {t : Tables} {s : String} (named : p.name = .text s)
    (free : ∀ q ∈ t.projects, q.id ≠ p.id → q.nameKey? ≠ some (Text.foldAscii s)) :
    checkIndexes t p ≠ .error nameRefused := by
  have key : p.nameKey? = some (Text.foldAscii s) := by rw [Project.nameKey?, named]
  have names : ((t.projects.filter (·.id != p.id)).any
      (·.nameKey? == some (Text.foldAscii s))) = false :=
    any_others_eq_false.mpr fun q mem other => beq_false_of_ne (free q mem other)
  unfold checkIndexes
  simp only [key, names]
  rw [if_neg Bool.false_ne_true]
  split
  · have other : StoreFault.constraint (some referenceIndex) ≠ nameRefused := by decide
    exact fun h => other (Except.error.inj h)
  · exact nofun

section
variable (quiet : ∀ op, db.faults op ≠ some nameRefused)
include quiet

theorem attempt_ne (op : Operation) : db.attempt op ≠ .error (.store nameRefused) :=
  attempt_ne_error (quiet op)

theorem findProject_ne (reference : Value) :
    db.findProject reference ≠ .error (.store nameRefused) := by
  refine bind_ne_error (attempt_ne quiet _) fun _ _ => ?_
  cases search : searchText reference with
  | ok key => exact nofun
  | error f =>
    intro h
    obtain rfl := Fault.store.inj (Except.error.inj h)
    exact searchText_ne reference search

theorem send_ne (data : Fields) : send db data ≠ .error (.store nameRefused) := by
  induction data with
  | nil => exact nofun
  | cons m rest ih => exact bind_ne_error (attempt_ne quiet _) fun _ _ => ih

theorem mint_ne (code : Option String) : mint db code ≠ .error (.store nameRefused) := by
  refine bind_ne_error (attempt_ne quiet _) fun _ _ => ?_
  cases code with
  | none =>
    intro h
    cases h
  | some c =>
    exact bind_ne_error (send_ne quiet _) fun _ _ =>
      bind_ne_error (attempt_ne quiet _) fun _ _ => bind_ne_error (attempt_ne quiet _) fun _ _ =>
        bind_ne_error (send_ne quiet _) fun _ _ => nofun

theorem moveLink_ne (projectId : Int) (link : Option LinkRow) (a : Area) :
    moveLink db projectId link a ≠ .error (.store nameRefused) := by
  unfold moveLink
  split
  · split
    · exact nofun
    · exact bind_ne_error (attempt_ne quiet _) fun _ _ => nofun
  · exact bind_ne_error (attempt_ne quiet _) fun _ _ => nofun

theorem changeProject_ne
    (free : ∀ p', p'.id = p.id → Leaves "name" p.name p'.name (u.data.get? "name") →
      checkIndexes db.tables p' ≠ .error nameRefused) :
    changeProject db u p ≠ .error (.store nameRefused) := by
  unfold changeProject
  split
  · exact nofun
  · dsimp only
    split
    · exact nofun
    · refine bind_ne_error (lift_ne (prepare_ne _)) fun prepared fits => ?_
      refine bind_ne_error (attempt_ne quiet _) fun _ _ => ?_
      refine bind_ne_error (lift_ne (keep_ne _)) fun kept stays => ?_
      refine bind_ne_error (send_ne quiet _) fun _ _ => ?_
      refine bind_ne_error (lift_ne (free _ rfl ?_)) fun _ _ => nofun
      exact leaves_changes u.data_nodup (lift_eq_ok.mp fits) (lift_eq_ok.mp stays) "name"

theorem update_ne (reference : Value)
    (free : ∀ p p', db.findProject reference = .ok (some p) → p'.id = p.id →
      Leaves "name" p.name p'.name (u.data.get? "name") →
        checkIndexes db.tables p' ≠ .error nameRefused) :
    update db u reference ≠ .error (.store nameRefused) := by
  refine bind_ne_error (findProject_ne quiet _) fun found search => ?_
  cases found with
  | none => exact nofun
  | some p =>
    have change := changeProject_ne (u := u) quiet fun p' => free p p' search
    dsimp only
    split
    · exact change
    · refine bind_ne_error (attempt_ne quiet _) fun _ _ => ?_
      exact bind_ne_error change fun _ _ => bind_ne_error (moveLink_ne quiet _ _ _) fun _ _ => nofun

theorem create_ne
    (free : ∀ p', p'.id = Tables.nextId (db.tables.projects.map Project.id) →
      Leaves "name" .null p'.name (u.data.get? "name") →
        checkIndexes db.tables p' ≠ .error nameRefused) :
    create db u ≠ .error (.store nameRefused) := by
  refine bind_ne_error (mint_ne quiet _) fun minted _ => ?_
  refine bind_ne_error (lift_ne (prepare_ne _)) fun prepared fits => ?_
  refine bind_ne_error (attempt_ne quiet _) fun _ _ => ?_
  refine bind_ne_error (lift_ne (keep_ne _)) fun kept stays => ?_
  refine bind_ne_error (send_ne quiet _) fun _ _ => ?_
  refine bind_ne_error (lift_ne (free _ rfl ?_)) fun _ _ => ?_
  · exact leaves_setAll [] u.data_nodup (lift_eq_ok.mp fits) (lift_eq_ok.mp stays) "name"
  · refine bind_ne_error (attempt_ne quiet _) fun _ _ => ?_
    split
    · exact nofun
    · exact bind_ne_error (attempt_ne quiet _) fun _ _ => nofun

end
end Upsert

theorem Database.free_of_nameTaken {db : Database} {s : String} {excluded : Value}
    (free : db.nameTaken (.text s) excluded = .ok false) :
    ∀ q ∈ db.tables.projects, q.nameKey? = some (searchedName s) →
      excluded.truthy = true ∧ ∀ key, searchText excluded = .ok (some key) → q.reference = key := by
  obtain ⟨_, -, free⟩ := bind_eq_ok.mp free
  dsimp only at free
  intro q mem named
  have found : (fun p : Project => p.nameKey? == some (searchedName s)) q = true :=
    beq_iff_eq.mpr named
  split at free
  · next asked =>
    refine ⟨asked, fun key search => ?_⟩
    rw [search] at free
    have none := List.any_eq_false.mp (pure_eq_ok.mp free)
    by_contra other
    exact none q (List.mem_filter.mpr ⟨mem, by simpa using other⟩) found
  · exact absurd found (List.any_eq_false.mp (pure_eq_ok.mp free) q mem)

namespace Upsert

variable {db : Database} {u : Upsert} {s : String}

theorem run_ne (sound : db.tables.Sound) (quiet : ∀ op, db.faults op ≠ some nameRefused)
    (named : u.payload.get? "name" = some (.text s))
    (searched : Database.searchedName s = Text.foldAscii s)
    (free : db.nameTaken (.text s) (u.payload.get "referenceNumber") = .ok false) :
    (run db u).1 ≠ .error (.store nameRefused) := by
  have left := Database.free_of_nameTaken free
  rw [searched] at left
  have data : u.data.get? "name" = some (.text s) := by rw [data_name, named]
  have written : write db u ≠ .error (.store nameRefused) := by
    unfold write
    dsimp only
    split
    · refine update_ne quiet _ fun p p' search id leaves => ?_
      rw [data] at leaves
      refine checkIndexes_ne (leaves.text (by decide)) fun q mem other taken => ?_
      obtain ⟨key, searchKey, found⟩ := findProject_eq_ok search
      obtain ⟨reference, version⟩ := own_of_project? found
      obtain ⟨_, -, others⟩ := checkIndexes_eq_ok.mp (sound.indexed p (mem_of_project? found))
      have same : q.reference = p.reference :=
        ((left q mem taken).2 key searchKey).trans reference.symm
      exact (others q mem (id ▸ other)).2 same ((sound.first q mem).trans version.symm)
    · next unasked =>
      refine create_ne quiet fun p' id leaves => ?_
      rw [data] at leaves
      refine checkIndexes_ne (leaves.text (by decide)) fun q mem _ taken => ?_
      exact unasked (left q mem taken).1
  unfold run
  split
  · next f failed =>
    intro same
    exact written (failed.trans (congrArg Except.error (Except.error.inj same)))
  · split
    · next f stopped =>
      intro same
      exact attempt_ne quiet .commit (stopped.trans (congrArg Except.error (Except.error.inj same)))
    · exact map_ne_error (attempt_ne quiet .readBack)

end Upsert
end FloodScheme
