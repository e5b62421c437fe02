import FloodScheme.Failure
import FloodScheme.Fault
import FloodScheme.Store.Upsert

/-! Answers of the service, among them those that report a fault. -/
namespace FloodScheme

structure Response where
  status : Nat
  body : Option Value := none

namespace Response

def ok (body : Value) : Response := ⟨200, some body⟩

def error (status : Nat) (code message : String) (field : Option String := none) : Response :=
  ⟨status, some (errorBody status code message field)⟩

def ofStatus (status : Nat) (detail : String) : Response :=
  error status ("HTTP_" ++ Number.integerText status) detail

def notFound : Response := ofStatus 404 "Not Found"

def methodNotAllowed : Response := ofStatus 405 "Method Not Allowed"

def unauthorized : Response := ofStatus 401 "Authentication required"

def redirect : Response := ⟨307, none⟩

def unexpected : Response :=
  error 500 "INTERNAL_SERVER_ERROR" "An unexpected error occurred. Please try again later."

def unavailable : Response :=
  error 503 "SERVICE_UNAVAILABLE" "Database connection failed. System is in maintenance mode."

def nameConflict : Response :=
  error 409 "NAME_DUPLICATE" "A project with this name already exists" "name"

def dataConflict : Response :=
  error 409 "DATA_CONFLICT"
    "The change conflicts with data saved at the same time. Please reload and try again."

def ofStoreFault : StoreFault → Response
  | .unavailable => unavailable
  | .unbindable => unavailable
  | .constraint name => if name = some Upsert.nameIndex then nameConflict else dataConflict
  | _ => unexpected

def ofFault (f : Fault) : Response :=
  match f with
  | .unknownLevel _ => error 400 "INVALID_LEVEL" (f.message?.getD "") "level"
  | .store f => ofStoreFault f
  | _ => unexpected

/-- The database fails before the request is looked at. -/
def ofPing : StoreFault → Response
  | .unavailable =>
    ofStatus 503 "Database connection unavailable. System is in maintenance mode."
  | .failed => ofStatus 503 "Database error. Please try again later."
  | _ => unexpected

def ofFailure (f : Failure) : Response := ⟨f.status, some f.body⟩

def ofFailures (fs : List Failure) : Response :=
  match fs with
  | [] => unexpected
  | f :: _ => ⟨f.status, failuresBody? fs⟩

/-- What is wrong at one place of a request. -/
structure Complaint where
  place : Option String := none
  message : String
deriving DecidableEq, Repr

def ofComplaints (cs : List Complaint) : Response :=
  ⟨422, some <| .object [
    ("statusCode", .int 422),
    ("errors", .list (cs.map fun c => .object [
      ("errorCode", .text "REQUEST_INVALID"), ("message", .text c.message),
      ("field", c.place.elim .null .text)]))]⟩

end Response

mutual

/-- Every number in the value is finite, so that it can be written. -/
def Value.isWritable : Value → Bool
  | .float x => x.isFinite
  | .list items => writableItems items
  | .object members => writableMembers members
  | _ => true

def writableItems : List Value → Bool
  | [] => true
  | v :: rest => v.isWritable && writableItems rest

def writableMembers : List (String × Value) → Bool
  | [] => true
  | (_, v) :: rest => v.isWritable && writableMembers rest

end

/-- An answer that cannot be written becomes an unexpected error. -/
def Response.written (r : Response) : Response :=
  if r.body.all Value.isWritable then r else .unexpected

/-- A request for the head alone is answered without the body. -/
def Response.sentFor (r : Response) (method : String) : Response :=
  if method = "HEAD" then { r with body := none } else r

end FloodScheme
