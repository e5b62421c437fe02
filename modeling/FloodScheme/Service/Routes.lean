import FloodScheme.Service.Request
import FloodScheme.Service.State

/-! The addresses of the service and what each of them answers. -/
namespace FloodScheme

inductive Endpoint
  | root
  | health
  | ready
  | live
  | validate
  | upsert
  | checkName
  | project (reference : String)
  | areas
  | area (id : String)
deriving DecidableEq, Repr

namespace Endpoint

def base : String := "/api/v1"

def after? (start path : List Char) : Option (List Char) :=
  if start.isPrefixOf path then some (path.drop start.length) else none

/-- A line feed at the very end of an address does not count. -/
def withoutFinalBreak (cs : List Char) : List Char :=
  if cs.getLast? = some '\n' then cs.dropLast else cs

def fixed : List (String × String × Endpoint) := [
  ("GET", "/health", health),
  ("GET", "/health/ready", ready),
  ("GET", "/health/live", live),
  ("POST", base ++ "/project/validate", validate),
  ("POST", base ++ "/project/upsert", upsert),
  ("POST", base ++ "/project/check-name", checkName),
  ("GET", base ++ "/areas", areas),
  ("GET", "/", root)]

/-- A project is addressed by its reference number, slashes included. -/
def projectAt (path : List Char) : Option Endpoint :=
  ((after? (base ++ "/project/").toList (withoutFinalBreak path)).filter fun cs =>
    !cs.contains '\n').map fun cs => project (String.ofList cs)

def areaAt (path : List Char) : Option Endpoint :=
  ((after? (base ++ "/areas/").toList path).filter fun cs =>
    !cs.isEmpty && !cs.contains '/').map fun cs => area (String.ofList cs)

/-- Endpoints at a path, each with its method. -/
def allAt (path : String) : List (String × Endpoint) :=
  let cs := path.toList
  let plain := String.ofList (withoutFinalBreak cs)
  fixed.filterMap (fun (method, p, e) => if p == plain then some (method, e) else none) ++
    ((projectAt cs).map fun e => ("GET", e)).toList ++
    ((areaAt cs).map fun e => ("GET", e)).toList

/-- The same path with its final slash, or slashes, the other way. -/
def toggled (path : String) : String :=
  let cs := path.toList
  if cs.getLast? = some '/' then String.ofList (cs.reverse.dropWhile (· == '/')).reverse
  else path ++ "/"

/-- The endpoint for a request, or the answer if there is none. -/
def find (method path : String) : Except Response Endpoint :=
  let found := allAt path
  match found.lookup method with
  | some e => .ok e
  | none =>
    if !found.isEmpty then .error .methodNotAllowed
    else if path != "/" && !(allAt (toggled path)).isEmpty then .error .redirect
    else .error .notFound

end Endpoint

namespace Service

/-- The caller named in a request. -/
def caller (s : Service) (r : Request) : Except Response Principal :=
  match r.user.filter (· != "") with
  | none => .error .unauthorized
  | some id =>
    match s.database.principal (.text id) with
    | .error f => .error (.ofFault f)
    | .ok none => .error .unauthorized
    | .ok (some p) => .ok p

/-- The database answers before anything else is asked of it. -/
def reach (s : Service) : Except Response Unit :=
  match s.faults .ping with
  | some f => .error (.ofPing f)
  | none => .ok ()

def ofRejection : Rejection → Response
  | .rules fs => .ofFailures fs
  | .failure f => .ofFailure f
  | .fault f => .ofFault f

def acceptanceBody (a : Acceptance) : Value := .object [
  ("success", .bool true),
  ("data", .object [
    ("areaData", a.area.elim .null fun a => .object a.view),
    ("rfccCode", a.code.elim .null .text),
    ("existingProject", a.existing.elim .null fun p => .object p.view)])]

def savedBody (s : Saved) : Value := .object [
  ("success", .bool true),
  ("data", .object [
    ("id", .int s.project.id),
    ("referenceNumber", .text s.project.reference),
    ("name", s.project.name)])]

def savedStatus (s : Saved) : Nat := if s.created then 201 else 200

/-- A request with a body and a caller: the body is read, the database reached, the caller found
and the body judged, in this order. -/
def withCaller {α : Type} (s : Service) (r : Request)
    (judge : Sent → Except (List Response.Complaint) α) : Except Response (Principal × α) := do
  let sent ← r.sent
  s.reach
  let p ← s.caller r
  let a ← (judge sent).mapError .ofComplaints
  pure (p, a)

def merge (r : Except Response Response) : Response :=
  match r with
  | .ok r => r
  | .error r => r

def answerValidate (s : Service) (r : Request) : Response := merge do
  let (p, q) ← s.withCaller r Request.proposal
  match q.vet s.database p with
  | .ok a => pure (.ok (acceptanceBody a))
  | .error e => pure (ofRejection e)

def answerUpsert (s : Service) (r : Request) (now : String) : Response × Service :=
  match s.withCaller r Request.proposal with
  | .error response => (response, s)
  | .ok (p, q) =>
    match q.save s.database p now with
    | (.ok saved, tables) => (⟨savedStatus saved, some (savedBody saved)⟩, { s with tables })
    | (.error e, tables) => (ofRejection e, { s with tables })

def answerName (s : Service) (r : Request) : Response := merge do
  let (_, name) ← s.withCaller r Request.nameToCheck
  match s.database.nameTaken (.text name) .null with
  | .ok taken => pure (.ok (.object [("exists", .bool taken)]))
  | .error f => pure (.ofFault f)

def answerProject (s : Service) (r : Request) (reference : String) : Response := merge do
  s.reach
  let _ ← s.caller r
  match s.database.projectRow (.text reference) with
  | .error f => pure (.ofFault f)
  | .ok none => pure (.ofStatus 404 ("Project " ++ reference ++ " not found"))
  | .ok (some row) =>
    match Field.toWire row with
    | .error f => pure (.ofFault f)
    | .ok wire => pure (.ok (.object wire))

def count? : Value → Option Nat
  | .list items => some items.length
  | .text s => some s.length
  | .object members => some members.length
  | _ => none

def answerAreas (s : Service) (r : Request) : Response × Service :=
  match s.reach with
  | .error response => (response, s)
  | .ok () =>
    match cachedListing s.database s.cache (r.parameter "type") with
    | (.error f, cache) => (.ofFault f, { s with cache })
    | (.ok areas, cache) =>
      let response :=
        match count? areas with
        | some n => .ok (.object [("areas", areas), ("count", .int n)])
        | none => .unexpected
      (response, { s with cache })

def answerArea (s : Service) (id : String) : Response := merge do
  s.reach
  match Reading.integer (.text id) with
  | .error p => pure (.ofComplaints [⟨"path.area_id", p.message⟩])
  | .ok id =>
    match Hierarchy.withParents s.database.area (.int id) with
    | .error f => pure (.ofFault f)
    | .ok none => pure (.ofStatus 404 ("Area " ++ Number.integerText id ++ " not found"))
    | .ok (some a) =>
      pure (.ok (.object (a.view ++ [("rfccCode", a.rfccCode.elim .null .text)])))

def databasePart (s : Service) : Health.Component := Health.ofDatabase s.faults

def cachePart (s : Service) : Health.Component := Health.ofCache s.cache

def health (s : Service) : Health := Health.overall s.databasePart s.cachePart

def healthReport (s : Service) : Fields := Health.report s.databasePart s.cachePart

def answerHealth (s : Service) : Response :=
  if s.health = .unhealthy then
    ⟨503, some (.object (s.healthReport ++
      [("note", .text "System is in maintenance mode. Projects cannot be validated or saved.")]))⟩
  else .ok (.object s.healthReport)

def answerReady (s : Service) : Response :=
  if s.health = .unhealthy then
    ⟨503, some (.object [("ready", .bool false), ("status", .text "System is not ready"),
      ("reason", .text s.health.message)])⟩
  else .ok (.object [("ready", .bool true), ("status", .text "System is ready")])

def answerLive : Response :=
  .ok (.object [("alive", .bool true), ("status", .text "Application is running")])

def answerRoot : Response :=
  .ok (.object [("service", .text "PAFS API"), ("version", .text "1.0.0"),
    ("docs", .text "/api/docs"), ("health", .text "/health")])

def answerAt (s : Service) (e : Endpoint) (r : Request) (now : String) : Response × Service :=
  match e with
  | .root => (answerRoot, s)
  | .health => (s.answerHealth, s)
  | .ready => (s.answerReady, s)
  | .live => (answerLive, s)
  | .validate => (s.answerValidate r, s)
  | .upsert => s.answerUpsert r now
  | .checkName => (s.answerName r, s)
  | .project reference => (s.answerProject r reference, s)
  | .areas => s.answerAreas r
  | .area id => (s.answerArea id, s)

/-- The answer to a request, and the service afterwards. -/
def answer (s : Service) (r : Request) (now : String) : Response × Service :=
  match Endpoint.find r.method r.path with
  | .error response => (response.sentFor r.method, s)
  | .ok e =>
    let (response, s') := s.answerAt e r now
    (response.written.sentFor r.method, s')

end Service
end FloodScheme
