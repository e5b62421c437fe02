import FloodScheme.Proofs.Outcome
import FloodScheme.Store.Seed
import Mathlib.Data.List.Sort

/-! Reference areas over a table of areas. They come all together or not at all, and over an empty
table they are all it holds then. A check that cannot be made counts as an empty table: the
reference areas then join the rows that are there, unless one of them has a number of theirs. -/
namespace FloodScheme.Seed
open Outcome

/-- Rows stand in the order of their numbers, no number twice. -/
def Ordered (table : List Area) : Prop := table.Pairwise fun a b => a.id < b.id

instance (table : List Area) : Decidable (Ordered table) :=
  inferInstanceAs (Decidable (table.Pairwise fun a b => a.id < b.id))

/-- A row has the number of a reference area. -/
def Clashes (table : List Area) : Prop := ∃ a ∈ referenceAreas, ∃ b ∈ table, a.id = b.id

instance (table : List Area) : Decidable (Clashes table) :=
  inferInstanceAs (Decidable (∃ a ∈ referenceAreas, ∃ b ∈ table, a.id = b.id))

/-- The check finds the table and counts its rows. -/
structure Checkable (db : Database) (tablesExist : Bool) : Prop where
  found : tablesExist = true
  listed : db.faults .listTables = none
  counted : db.faults .countAreas = none

/-- Neither the commit fails nor one of so many inserts from a place on. -/
structure Quiet (faults : Faults) (place count : Nat) : Prop where
  inserts : ∀ i < count, faults (.insertArea (place + i)) = none
  commit : faults .commit = none

/-- All rows of one list have joined those of another, and none had its number taken. -/
structure Joined (rows table table' : List Area) : Prop where
  apart : ∀ a ∈ rows, ∀ b ∈ table, a.id ≠ b.id
  ordered : Ordered table'
  perm : table'.Perm (rows ++ table)

theorem joined_of_insertArea {a : Area} {table table' : List Area} (ordered : Ordered table)
    (h : insertArea a table = .ok table') : Joined [a] table table' := by
  induction table generalizing table' with
  | nil =>
    cases h
    exact ⟨fun _ _ _ old => absurd old List.not_mem_nil, List.pairwise_singleton _ _, .refl _⟩
  | cons b rest ih =>
    obtain ⟨least, others⟩ := List.pairwise_cons.mp ordered
    unfold insertArea at h
    split at h
    · cases h
    · next other =>
      split at h
      · next before =>
        cases h
        have first : ∀ c ∈ b :: rest, a.id < c.id :=
          List.forall_mem_cons.mpr ⟨before, fun c mem => before.trans (least c mem)⟩
        refine ⟨?_, List.pairwise_cons.mpr ⟨first, ordered⟩, .refl _⟩
        exact List.forall_mem_singleton.mpr fun c mem => (first c mem).ne
      · next behind =>
        -- What stands behind `b` now is the new row or stood there before.
        obtain ⟨tail, placed, rfl⟩ := map_eq_ok.mp h
        obtain ⟨apart, sorted, perm⟩ := ih others placed
        have after : b.id < a.id := by omega
        have first : ∀ c ∈ tail, b.id < c.id := by
          intro c mem
          rcases List.mem_cons.mp (perm.mem_iff.mp mem) with rfl | old
          · exact after
          · exact least c old
        refine ⟨?_, List.pairwise_cons.mpr ⟨first, sorted⟩, ?_⟩
        · exact List.forall_mem_singleton.mpr
            (List.forall_mem_cons.mpr ⟨other, List.forall_mem_singleton.mp apart⟩)
        · exact (perm.cons b).trans (.swap a b rest)

theorem insertArea_succeeds {a : Area} {table : List Area} (apart : ∀ b ∈ table, a.id ≠ b.id) :
    ∃ table', insertArea a table = .ok table' := by
  induction table with
  | nil => exact ⟨[a], rfl⟩
  | cons b rest ih =>
    obtain ⟨other, apart⟩ := List.forall_mem_cons.mp apart
    obtain ⟨tail, placed⟩ := ih apart
    rw [insertArea, if_neg other, placed]
    split
    · exact ⟨_, rfl⟩
    · exact ⟨_, rfl⟩

theorem Quiet.tail {faults : Faults} {place count : Nat} (h : Quiet faults place (count + 1)) :
    Quiet faults (place + 1) count := by
  refine ⟨fun i few => ?_, h.commit⟩
  rw [Nat.add_right_comm, Nat.add_assoc]
  exact h.inserts (i + 1) (by omega)

theorem Quiet.cons {faults : Faults} {place count : Nat}
    (first : faults (.insertArea place) = none) (h : Quiet faults (place + 1) count) :
    Quiet faults place (count + 1) := by
  refine ⟨fun i few => ?_, h.commit⟩
  cases i with
  | zero => exact first
  | succ i =>
    rw [← Nat.add_assoc, Nat.add_right_comm]
    exact h.inserts i (by omega)

theorem Joined.cons {a : Area} {rows table middle table' : List Area}
    (first : Joined [a] table middle) (others : Joined rows middle table') :
    Joined (a :: rows) table table' := by
  refine ⟨List.forall_mem_cons.mpr ⟨List.forall_mem_singleton.mp first.apart, ?_⟩,
    others.ordered, ?_⟩
  · intro b mem c old
    exact others.apart b mem c (first.perm.mem_iff.mpr (List.mem_cons_of_mem a old))
  · exact (others.perm.trans (first.perm.append_left rows)).trans List.perm_middle

theorem joined_of_insertAll {faults : Faults} {place : Nat} {rows table table' : List Area}
    (ordered : Ordered table) (h : insertAll faults place rows table = .ok table') :
    Quiet faults place rows.length ∧ Joined rows table table' := by
  induction rows generalizing place table with
  | nil =>
    obtain ⟨_, committed, h⟩ := bind_eq_ok.mp h
    obtain rfl := pure_eq_ok.mp h
    exact ⟨⟨nofun, attempt_eq_ok.mp committed⟩, nofun, ordered, .refl _⟩
  | cons a rows ih =>
    obtain ⟨_, sent, h⟩ := bind_eq_ok.mp h
    split at h
    · cases h
    · next middle placed =>
      have first := joined_of_insertArea ordered placed
      obtain ⟨quiet, others⟩ := ih first.ordered h
      exact ⟨quiet.cons (attempt_eq_ok.mp sent), first.cons others⟩

theorem insertAll_succeeds {faults : Faults} {place : Nat} {rows table : List Area}
    (ordered : Ordered table) (quiet : Quiet faults place rows.length) (own : Ordered rows)
    (apart : ∀ a ∈ rows, ∀ b ∈ table, a.id ≠ b.id) :
    ∃ table', insertAll faults place rows table = .ok table' := by
  induction rows generalizing place table with
  | nil => exact bind_succeeds (attempt_eq_ok.mpr quiet.commit) ⟨table, rfl⟩
  | cons a rows ih =>
    obtain ⟨first, apart⟩ := List.forall_mem_cons.mp apart
    obtain ⟨least, own⟩ := List.pairwise_cons.mp own
    obtain ⟨middle, placed⟩ := insertArea_succeeds first
    have joined := joined_of_insertArea ordered placed
    have sent : faults (.insertArea place) = none := quiet.inserts 0 (Nat.succ_pos _)
    refine bind_succeeds (attempt_eq_ok.mpr sent) ?_
    rw [placed]
    refine ih joined.ordered quiet.tail own fun b mem c old => ?_
    rcases List.mem_cons.mp (joined.perm.mem_iff.mp old) with rfl | old
    · exact (least b mem).ne'
    · exact apart b mem c old

variable {db : Database} {tablesExist : Bool}

theorem isSeeded_iff :
    isSeeded db tablesExist = true ↔ Checkable db tablesExist ∧ db.tables.areas ≠ [] := by
  simp only [isSeeded, Bool.and_eq_true, Option.isNone_iff_eq_none, Bool.not_eq_true',
    List.isEmpty_eq_false_iff]
  constructor
  · rintro ⟨⟨⟨listed, found⟩, counted⟩, some⟩
    exact ⟨⟨found, listed, counted⟩, some⟩
  · rintro ⟨⟨found, listed, counted⟩, some⟩
    exact ⟨⟨⟨listed, found⟩, counted⟩, some⟩

/-- The reference areas have been written over the rows of a table. -/
structure Writes (db : Database) (tablesExist : Bool) (areas : List Area) : Prop where
  unseen : db.tables.areas = [] ∨ ¬ Checkable db tablesExist
  quiet : Quiet db.faults 0 referenceAreas.length
  joined : Joined referenceAreas db.tables.areas areas

theorem run_cases (ordered : Ordered db.tables.areas) :
    run db tablesExist = (false, db.tables) ∨
      (run db tablesExist = (true, db.tables) ∧ db.tables.areas ≠ []) ∨
      ∃ areas, run db tablesExist = (true, { db.tables with areas }) ∧
        Writes db tablesExist areas := by
  unfold run
  split
  · next seeded => exact .inr (.inl ⟨rfl, (isSeeded_iff.mp seeded).2⟩)
  · next unseeded =>
    split
    · next areas inserted =>
      obtain ⟨quiet, joined⟩ := joined_of_insertAll ordered inserted
      refine .inr (.inr ⟨areas, rfl, ?_, quiet, joined⟩)
      by_contra seen
      obtain ⟨some, checkable⟩ := not_or.mp seen
      exact unseeded (isSeeded_iff.mpr ⟨not_not.mp checkable, some⟩)
    · exact .inl rfl

theorem run_writes (ordered : Ordered db.tables.areas)
    (unseen : db.tables.areas = [] ∨ ¬ Checkable db tablesExist)
    (quiet : Quiet db.faults 0 referenceAreas.length) (apart : ¬ Clashes db.tables.areas) :
    ∃ areas, run db tablesExist = (true, { db.tables with areas }) ∧
      Writes db tablesExist areas := by
  have unseeded : ¬ isSeeded db tablesExist = true := fun seeded => by
    obtain ⟨checkable, some⟩ := isSeeded_iff.mp seeded
    exact unseen.elim some fun fails => fails checkable
  have others : ∀ a ∈ referenceAreas, ∀ b ∈ db.tables.areas, a.id ≠ b.id :=
    fun a mem b old same => apart ⟨a, mem, b, old, same⟩
  obtain ⟨areas, inserted⟩ := insertAll_succeeds ordered quiet (by decide) others
  refine ⟨areas, ?_, unseen, quiet, (joined_of_insertAll ordered inserted).2⟩
  rw [run, if_neg unseeded, inserted]

namespace Writes

variable {areas : List Area}

theorem apart (h : Writes db tablesExist areas) : ¬ Clashes db.tables.areas :=
  fun ⟨a, mem, b, old, same⟩ => h.joined.apart a mem b old same

theorem clashes (h : Writes db tablesExist areas) : Clashes areas := by
  have mem : referenceAreas.head (by decide) ∈ referenceAreas := List.head_mem _
  exact ⟨_, mem, _, h.joined.perm.mem_iff.mpr (List.mem_append_left _ mem), rfl⟩

theorem eq_of_empty (h : Writes db tablesExist areas) (empty : db.tables.areas = []) :
    areas = referenceAreas := by
  have perm := h.joined.perm
  rw [empty, List.append_nil] at perm
  exact perm.eq_of_pairwise (fun a b _ _ before after => absurd (before.trans after) (lt_irrefl _))
    h.joined.ordered (by decide)

theorem changed (h : Writes db tablesExist areas) : { db.tables with areas } ≠ db.tables :=
  fun same => h.apart (congrArg Tables.areas same ▸ h.clashes)

end Writes

theorem run_keeps (ordered : Ordered db.tables.areas)
    (h : Clashes db.tables.areas ∨ (Checkable db tablesExist ∧ db.tables.areas ≠ [])) :
    (run db tablesExist).2 = db.tables := by
  rcases run_cases ordered with failed | ⟨seeded, -⟩ | ⟨areas, -, writes⟩
  · rw [failed]
  · rw [seeded]
  · rcases h with clash | ⟨checkable, some⟩
    · exact absurd clash writes.apart
    · exact (writes.unseen.elim some fun fails => fails checkable).elim

theorem writes_of_changed (ordered : Ordered db.tables.areas)
    (changed : (run db tablesExist).2 ≠ db.tables) :
    ∃ areas, run db tablesExist = (true, { db.tables with areas }) ∧
      Writes db tablesExist areas := by
  rcases run_cases ordered with failed | ⟨seeded, -⟩ | writes
  · exact absurd (congrArg Prod.snd failed) changed
  · exact absurd (congrArg Prod.snd seeded) changed
  · exact writes

theorem run_changes_iff (ordered : Ordered db.tables.areas) :
    (run db tablesExist).2 ≠ db.tables ↔
      (db.tables.areas = [] ∨ ¬ Checkable db tablesExist) ∧ ¬ Clashes db.tables.areas ∧
        Quiet db.faults 0 referenceAreas.length := by
  constructor
  · intro changed
    obtain ⟨areas, -, writes⟩ := writes_of_changed ordered changed
    exact ⟨writes.unseen, writes.apart, writes.quiet⟩
  · rintro ⟨unseen, apart, quiet⟩
    obtain ⟨areas, written, writes⟩ := run_writes ordered unseen quiet apart
    rw [written]
    exact writes.changed

theorem run_failed (ordered : Ordered db.tables.areas) (failed : (run db tablesExist).1 = false) :
    (run db tablesExist).2 = db.tables := by
  by_contra changed
  obtain ⟨areas, written, -⟩ := writes_of_changed ordered changed
  rw [written] at failed
  cases failed

theorem areas_of_empty (ordered : Ordered db.tables.areas) (empty : db.tables.areas = [])
    (ended : (run db tablesExist).1 = true) : (run db tablesExist).2.areas = referenceAreas := by
  rcases run_cases ordered with failed | ⟨-, some⟩ | ⟨areas, written, writes⟩
  · rw [failed] at ended
    cases ended
  · exact absurd empty some
  · rw [written]
    exact writes.eq_of_empty empty

theorem ordered_run (ordered : Ordered db.tables.areas) :
    Ordered (run db tablesExist).2.areas ∧
      ((run db tablesExist).1 = true → (run db tablesExist).2.areas ≠ []) := by
  rcases run_cases ordered with failed | ⟨seeded, some⟩ | ⟨areas, written, writes⟩
  · rw [failed]
    exact ⟨ordered, nofun⟩
  · rw [seeded]
    exact ⟨ordered, fun _ => some⟩
  · rw [written]
    obtain ⟨_, -, b, mem, -⟩ := writes.clashes
    exact ⟨writes.joined.ordered, fun _ => List.ne_nil_of_mem mem⟩

theorem run_again (ordered : Ordered db.tables.areas) (ended : (run db tablesExist).1 = true)
    {faults : Faults} {found : Bool}
    (h : db.tables.areas = [] ∨ Clashes (run db tablesExist).2.areas ∨
      Checkable ⟨(run db tablesExist).2, faults⟩ found) :
    (run ⟨(run db tablesExist).2, faults⟩ found).2 = (run db tablesExist).2 := by
  have left := @ordered_run db tablesExist ordered
  refine run_keeps left.1 ?_
  rcases h with empty | clash | checkable
  · refine .inl ?_
    rw [areas_of_empty ordered empty ended]
    decide
  · exact .inl clash
  · exact .inr ⟨checkable, left.2 ended⟩

/-- `run` changes the tables if and only if the table of areas is empty or cannot be checked, no row
has the number of a reference area, and no later operation fails. It then returns true and adds all
reference areas and nothing else. If it returns false it changes nothing, and if it returns true an
empty table holds exactly the reference areas. A second run changes nothing after one that returned
true, unless the table was not empty, has no number of a reference area and can no longer be
checked. -/
theorem seeding_guarded (db : Database) (tablesExist : Bool) (ordered : Ordered db.tables.areas) :
    let done := (run db tablesExist).1
    let after := (run db tablesExist).2
    (after ≠ db.tables ↔ (db.tables.areas = [] ∨ ¬ Checkable db tablesExist) ∧
      ¬ Clashes db.tables.areas ∧ Quiet db.faults 0 referenceAreas.length) ∧
    (after ≠ db.tables → done = true ∧ after = { db.tables with areas := after.areas } ∧
      Joined referenceAreas db.tables.areas after.areas) ∧
    (done = false → after = db.tables) ∧
    (db.tables.areas = [] → done = true → after.areas = referenceAreas) ∧
    (done = true → ∀ (faults : Faults) (found : Bool),
      db.tables.areas = [] ∨ Clashes after.areas ∨ Checkable ⟨after, faults⟩ found →
        (run ⟨after, faults⟩ found).2 = after) := by
  intro done after
  refine ⟨run_changes_iff ordered, fun changed => ?_, run_failed ordered,
    areas_of_empty ordered, fun ended faults found => run_again ordered ended⟩
  obtain ⟨areas, written, writes⟩ := writes_of_changed ordered changed
  have left : after = { db.tables with areas } := congrArg Prod.snd written
  refine ⟨congrArg Prod.fst written, ?_, ?_⟩
  · rw [left]
  · rw [left]
    exact writes.joined

def uncounted (id : Int) : Database where
  tables := { areas := [{ id, name := "Severn", type := "EA Area" }] }
  faults
    | .countAreas => some .unavailable
    | _ => none

theorem seeding_guarded_taken : Ordered (uncounted 8).tables.areas ∧
    ¬ Checkable (uncounted 8) true ∧ (run (uncounted 8) true).2 = (uncounted 8).tables := by
  have ordered : Ordered (uncounted 8).tables.areas := by decide
  refine ⟨ordered, fun checkable => absurd checkable.counted (by decide), ?_⟩
  by_contra changed
  have apart := ((seeding_guarded (uncounted 8) true ordered).1.mp changed).2.1
  exact apart (by decide)

theorem populated_table_seeded :
    (∀ op, op ≠ .countAreas → (uncounted 100).faults op = none) ∧
      run { uncounted 100 with faults := Faults.none } true = (true, (uncounted 100).tables) ∧
      (uncounted 100).tables.areas ≠ [] ∧ (run (uncounted 100) true).1 = true ∧
      (run (uncounted 100) true).2.areas = referenceAreas ++ (uncounted 100).tables.areas := by
  refine ⟨fun op other => ?_, rfl, List.cons_ne_nil _ _, rfl, rfl⟩
  unfold uncounted
  dsimp only
  split
  · exact absurd rfl other
  · rfl

end FloodScheme.Seed
