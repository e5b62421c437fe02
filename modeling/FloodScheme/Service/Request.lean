import FloodScheme.Json
import FloodScheme.Saving
import FloodScheme.Service.Response
import FloodScheme.Text.Percent

/-! Requests, and what they say about a proposal. -/
namespace FloodScheme

inductive Body
  | empty
  | value (v : Value)
  | text (s : String)

structure Request where
  method : String
  /-- Path with its escapes resolved. -/
  path : String
  query : List (String × String) := []
  user : Option String := none
  body : Body := .empty
  contentType : String := "application/json"

/-- A body as it arrives: nothing, a value, or something that is not read. -/
inductive Sent
  | nothing
  | value (v : Value)
  | unread

namespace Request
open Response (Complaint)

/-- A step along a path: one dot stays where it is, two go back, the beginning excepted. -/
def follow (taken : List String) (step : String) : List String :=
  if step = "." then taken
  else if step = ".." then if taken = [""] then taken else taken.dropLast
  else taken ++ [step]

/-- A path without its steps of dots. -/
def resolveDots (path : String) : String :=
  "/".intercalate ((path.splitOn "/").foldl follow [])

def rooted (path : List Char) : List Char := if path.head? = some '/' then path else '/' :: path

/-- Path and query of an address, without a fragment. Escaped dots are no steps. -/
def splitAddress (address : String) : String × String :=
  let cs := rooted (address.toList.takeWhile (· != '#'))
  let path := resolveDots (String.ofList (cs.takeWhile (· != '?')))
  (String.ofList (Text.unescape path.toList), String.ofList ((cs.dropWhile (· != '?')).drop 1))

def splitQuery (query : String) : List (String × String) :=
  let plain (cs : List Char) : String :=
    String.ofList (Text.unescape (cs.map fun c => if c = '+' then ' ' else c))
  (query.splitOn "&").filterMap fun part =>
    if part = "" then none
    else
      let cs := part.toList
      some (plain (cs.takeWhile (· != '=')), plain ((cs.dropWhile (· != '=')).drop 1))

def parameter (r : Request) (name : String) : Option String := r.query.reverse.lookup name

/-- Type and sub type of a content type; anything malformed is plain text. -/
def mediaType (contentType : String) : String × String :=
  let cs := (contentType.toList.takeWhile (· != ';')).map Text.asciiLower
  let cs := Text.trimBy Text.isSpace cs
  let main := cs.takeWhile (· != '/')
  let sub := (cs.dropWhile (· != '/')).drop 1
  if cs.count '/' = 1 then (String.ofList main, String.ofList sub) else ("text", "plain")

def isJson (contentType : String) : Bool :=
  let (main, sub) := mediaType contentType
  main == "application" && (sub == "json" || sub.endsWith "+json")

/-- A text without the mark that may stand at its start. -/
def unmarked (s : String) : String :=
  match s.toList with
  | '\uFEFF' :: rest => String.ofList rest
  | _ => s

def readError (s : String) (e : Json.Unread) : Response :=
  match e.position? s with
  | some p => .ofComplaints [⟨some (Number.integerText p), "JSON decode error"⟩]
  | none => .ofStatus 400 "There was an error parsing the body"

/-- The body of a request; null is nothing. -/
def sent (r : Request) : Except Response Sent :=
  let received : Value → Sent
    | .null => .nothing
    | v => .value v
  match r.body with
  | .empty => .ok .nothing
  | .value v => .ok (if isJson r.contentType then received v else .unread)
  | .text s =>
    if s = "" then .ok .nothing
    else if !isJson r.contentType then .ok .unread
    else
      match Json.read (unmarked s) with
      | .ok v => .ok (received v)
      | .error e => .error (readError (unmarked s) e)

def missing (place : Option String) : Complaint := ⟨place, "Field required"⟩

/-- Members of a body, or what is wrong with it. -/
def members : Sent → Except (List Complaint) Fields
  | .nothing => .error [missing none]
  | .value (.object fields) => .ok fields
  | _ => .error
      [⟨none, "Input should be a valid dictionary or object to extract fields from"⟩]

def levelOf (fields : Fields) : Except Complaint String :=
  match fields.get? "level" with
  | none => .error (missing "level")
  | some (.text s) => .ok s
  | some _ => .error ⟨"level", Problem.notText.message⟩

def payloadOf (fields : Fields) : Except Complaint Fields :=
  match fields.get? "payload" with
  | none => .ok []
  | some (.object payload) => .ok payload
  | some _ => .error ⟨"payload", "Input should be a valid dictionary"⟩

/-- The proposal in a body; every place that is wrong is reported. -/
def proposal (s : Sent) : Except (List Complaint) Proposal := do
  let fields ← members s
  match levelOf fields, payloadOf fields with
  | .ok level, .ok payload => pure ⟨level, payload⟩
  | .error c, .ok _ => .error [c]
  | .ok _, .error d => .error [d]
  | .error c, .error d => .error [c, d]

/-- The name in a body, held to the rule for names, without the white space around it. -/
def nameToCheck (s : Sent) : Except (List Complaint) String := do
  let fields ← members s
  match fields.get? "name" with
  | none => .error [missing "name"]
  | some v =>
    match Catalogue.name.check v, v with
    | none, .text s => pure (Text.trimSpace s)
    | none, _ => .error [⟨"name", Problem.notText.message⟩]
    | some p, _ => .error [⟨"name", p.message⟩]

end Request
end FloodScheme
