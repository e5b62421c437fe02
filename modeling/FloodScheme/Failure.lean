import FloodScheme.Value

/-! Failures of rules. The kind of a failure fixes its status. -/
namespace FloodScheme

inductive FailureKind
  | notFound
  | forbidden
  | conflict
  | invalid
deriving DecidableEq, Repr

def FailureKind.status : FailureKind → Nat
  | notFound => 404
  | forbidden => 403
  | conflict => 409
  | invalid => 400

def FailureKind.name : FailureKind → String
  | notFound => "not_found"
  | forbidden => "forbidden"
  | conflict => "conflict"
  | invalid => "validation_failed"

structure Failure where
  kind : FailureKind
  code : String
  message : String
  field : Option String := none
deriving DecidableEq, Repr

namespace Failure

def status (f : Failure) : Nat := f.kind.status

def notFound (code message : String) (field : Option String := none) : Failure :=
  ⟨.notFound, code, message, field⟩

def forbidden (code message : String) (field : Option String := none) : Failure :=
  ⟨.forbidden, code, message, field⟩

def conflict (code message : String) (field : Option String := none) : Failure :=
  ⟨.conflict, code, message, field⟩

def invalid (code message : String) (field : Option String := none) : Failure :=
  ⟨.invalid, code, message, field⟩

end Failure

/-- One entry of an error list; a field that is absent or empty is left out. -/
def errorEntry (code message : String) (field : Option String) : Value :=
  .object <|
    [("errorCode", .text code), ("message", .text message)] ++
    match field with
    | some f => if f = "" then [] else [("field", .text f)]
    | none => []

def errorBody (status : Nat) (code message : String) (field : Option String := none) : Value :=
  .object [("statusCode", .int status), ("errors", .list [errorEntry code message field])]

def Failure.entry (f : Failure) : Value := errorEntry f.code f.message f.field

/-- The first failure gives the status. -/
def failuresBody? : List Failure → Option Value
  | [] => none
  | f :: rest => some <| .object
      [("statusCode", .int f.status), ("errors", .list ((f :: rest).map Failure.entry))]

def Failure.body (f : Failure) : Value := errorBody f.status f.code f.message f.field

end FloodScheme
