import FloodScheme.Service.Health
import FloodScheme.Store.Engine
import FloodScheme.Store.Seed

/-! State of the service, and how it starts: wait for the database, create the tables, seed the
reference areas if asked to, connect the cache. -/
namespace FloodScheme

structure Service where
  tables : Tables := {}
  tablesExist : Bool := true
  mode : DatabaseMode := .ok
  engine : Engine := .words
  cache : Cache := {}

namespace Service

/-- Faults of the mode of the database come before those of the engine. -/
def faults (s : Service) : Faults := fun op =>
  (s.mode.faults s.tablesExist op).or (s.engine.faults op)

def database (s : Service) : Database := ⟨s.tables, s.faults⟩

/-- Up to `attempts` attempts to reach the database, of which the first `refused` are turned
away. Tells whether one got through and how often there was a pause. -/
def wait (faults : Faults) : (attempts refused : Nat) → Except Fault (Bool × Nat)
  | 0, _ => .ok (false, 0)
  | attempts + 1, refused =>
    let again : Except Fault (Bool × Nat) := do
      let (reached, pauses) ← wait faults attempts (refused - 1)
      pure (reached, pauses + if attempts = 0 then 0 else 1)
    if 0 < refused then again
    else
      match faults .ping with
      | none => .ok (true, 0)
      | some .unavailable => again
      | some f => .error (.store f)

/-- Attempts and pause of the start that waits for the database. -/
def patience : Nat × Nat := (30, 2)

def areasSeeded (s : Service) : Bool := Seed.isSeeded s.database s.tablesExist

def seed (s : Service) : Bool × Service :=
  let (done, tables) := Seed.run s.database s.tablesExist
  (done, { s with tables })

/-- One attempt to reach the database, tables, and areas if asked for. -/
def prepare (s : Service) (refused : Nat) (seeding : Bool) : Except Fault Bool × Service :=
  match wait s.faults 1 refused with
  | .error f => (.error f, s)
  | .ok (false, _) => (.ok false, s)
  | .ok (true, _) =>
    match s.faults .createTables with
    | some _ => (.ok false, s)
    | none =>
      let s := { s with tablesExist := true }
      if seeding then
        let (done, s) := s.seed
        (.ok done, s)
      else (.ok true, s)

/-- A start and a shutdown: whether the cache was connected in between, and the service afterwards.
A start that fails does not keep the service from running. -/
def live (s : Service) (refused : Nat) (broken : Bool) : Bool × Service :=
  let s := if broken then s else (s.prepare refused false).2
  let cache := s.cache.connect
  (cache.connected, { s with cache := cache.close })

end Service
end FloodScheme
