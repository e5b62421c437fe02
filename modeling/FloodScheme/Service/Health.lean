import FloodScheme.Service.Cache

/-! Health of the service and its parts. The database is vital, the cache is not. -/
namespace FloodScheme

inductive Health
  | healthy
  | degraded
  | unhealthy
deriving DecidableEq, Repr

namespace Health

def name : Health → String
  | healthy => "healthy"
  | degraded => "degraded"
  | unhealthy => "unhealthy"

def message : Health → String
  | healthy => "System is operational"
  | degraded => "System is running without cache (area listings are served from the database)"
  | unhealthy => "System is in maintenance mode (database unavailable)"

def all : List Health := [healthy, degraded, unhealthy]

/-- Message of a status by name; what cannot be looked up is a fault. -/
def messageOf (status : Value) : Except Fault String :=
  if !status.isKey then .error .wrongShape
  else
    match status with
    | .text s => .ok (((all.find? (·.name == s)).map message).getD "Unknown status")
    | _ => .ok "Unknown status"

structure Component where
  name : String
  status : Health
  message : String
  error : Option String := none
deriving DecidableEq, Repr

def Component.view (c : Component) : Value := .object <|
  [("status", .text c.status.name), ("message", .text c.message), ("component", .text c.name)] ++
  (c.error.map fun e => ("error", Value.text e)).toList

def ofDatabase (faults : Faults) : Component :=
  match faults .ping with
  | none => ⟨"database", healthy, "PostgreSQL database is healthy", none⟩
  | some .unavailable =>
    ⟨"database", unhealthy, "PostgreSQL database is unavailable",
      some StoreFault.unavailable.message⟩
  | some f =>
    ⟨"database", degraded, "Database health check encountered an error", some f.message⟩

def ofCache (c : Cache) : Component :=
  if !c.connected then
    ⟨"cache", degraded, "Redis cache is not initialized (running without cache)", none⟩
  else if c.mode.canPing then ⟨"cache", healthy, "Redis cache is healthy", none⟩
  else
    ⟨"cache", degraded, "Redis cache is unavailable (running in degraded mode)",
      some "cache unavailable"⟩

/-- Without its database the service is down; anything less is a degradation. -/
def overall (database cache : Component) : Health :=
  if database.status = unhealthy then unhealthy
  else if database.status = degraded ∨ cache.status = degraded then degraded
  else healthy

def components (database cache : Component) : Value :=
  .object [("database", database.view), ("cache", cache.view)]

def report (database cache : Component) : Fields :=
  let status := overall database cache
  [("status", .text status.name), ("message", .text status.message),
    ("components", components database cache)]

end Health
end FloodScheme
