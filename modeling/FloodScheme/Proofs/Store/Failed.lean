import FloodScheme.Proofs.Store.Write

/-! Calls that fail. Every operation up to the end of the commit belongs to one transaction, which
is rolled back as a whole; the read after it is not part of the transaction. -/
namespace FloodScheme.Upsert
open Outcome

/-- The write stands as a whole, and reading it back has failed. -/
structure Unread (db : Database) (u : Upsert) (f : Fault) (t' : Tables) : Prop where
  committed : db.faults .commit = none
  unread : ∃ e, db.faults .readBack = some e ∧ f = .store e
  written : (∃ code p, Creates db.tables u code p t') ∨ ∃ p p', Updates db.tables u p p' t'

variable {db : Database} {u : Upsert} {f : Fault}

theorem tables_of_commit {e : StoreFault} (failed : db.faults .commit = some e) :
    (run db u).2 = db.tables := by
  have stops : db.attempt .commit = .error (.store e) := by
    rw [Database.attempt, Faults.attempt, failed]
  unfold run
  split
  · rfl
  · rw [stops]

theorem fault_of_readBack {p : Project}
    (h : ((db.attempt .readBack).map fun _ => p) = .error f) :
    ∃ e, db.faults .readBack = some e ∧ f = .store e := by
  rw [Database.attempt, Faults.attempt] at h
  cases unread : db.faults .readBack with
  | none =>
    rw [unread] at h
    cases h
  | some e =>
    rw [unread] at h
    cases h
    exact ⟨e, rfl, rfl⟩

/-- If a call of `run` fails, it leaves all tables as they were, including the counters. The
exception is the read after the commit: if that fails, the tables are as they were or hold the whole
write. -/
theorem tables_of_failed (db : Database) (u : Upsert) (failed : (run db u).1 = .error f) :
    (db.faults .readBack = none → (run db u).2 = db.tables) ∧
      ((run db u).2 = db.tables ∨ Unread db u f (run db u).2) := by
  refine ⟨tables_of_error db u failed, ?_⟩
  rcases run_cases db u with ⟨same, -⟩ | ⟨p, written, result⟩
  · exact .inl same
  · cases committed : db.faults .commit with
    | some e => exact .inl (tables_of_commit committed)
    | none =>
      refine .inr ⟨committed, fault_of_readBack (result.symm.trans failed), ?_⟩
      exact (write_cases written).imp (fun ⟨code, creates⟩ => ⟨code, p, creates⟩)
        fun ⟨p₀, updates⟩ => ⟨p₀, p, updates⟩

def counted (faults : Faults) : Database where
  tables := { counters := [⟨"AN", ⟨0, 5⟩⟩] }
  faults

def stateless : Faults
  | .insertState => some .unavailable
  | _ => none

def unreadable : Faults
  | .readBack => some .unavailable
  | _ => none

def newDyke : Upsert where
  payload := [("name", .text "Dyke")]
  userId := .int 1
  code := some "AN"
  now := ""

theorem tables_of_failed_state :
    (run (counted stateless) newDyke).1 = .error (.store .unavailable) ∧
      (counted stateless).faults .readBack = none ∧
      (run (counted stateless) newDyke).2 = (counted stateless).tables := by
  have failed : (run (counted stateless) newDyke).1 = .error (.store .unavailable) := rfl
  exact ⟨failed, rfl, (tables_of_failed (counted stateless) newDyke failed).1 rfl⟩

theorem unread_project_kept :
    (∀ op, op ≠ .readBack → (counted unreadable).faults op = none) ∧
      (run (counted unreadable) newDyke).1 = .error (.store .unavailable) ∧
      (run (counted unreadable) newDyke).2.projects.map Project.reference =
        ["ANC501E/000A/006A"] ∧
      (run (counted unreadable) newDyke).2 ≠ (counted unreadable).tables := by
  have stored : (run (counted unreadable) newDyke).2.projects.map Project.reference =
      ["ANC501E/000A/006A"] := rfl
  have quiet : ∀ op, op ≠ .readBack → unreadable op = none := by
    intro op other
    unfold unreadable
    split
    · exact absurd rfl other
    · rfl
  refine ⟨quiet, rfl, stored, fun same => ?_⟩
  rw [same] at stored
  cases stored

end FloodScheme.Upsert
