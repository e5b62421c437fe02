import FloodScheme.Level
import FloodScheme.Rule.Check
import FloodScheme.Text.Case

/-! Validation of a payload against the merged rules of its levels. Failures come in four groups:
fields that an inactive rule forbids, fields that no level declares, active rules that fail, and a
main intervention type outside the selected ones. -/
namespace FloodScheme

/-- An underscore in front of every capital but a leading one. -/
def splitWords : List Char → List Char
  | [] => []
  | c :: rest => c :: rest.flatMap fun d => if 'A' ≤ d ∧ d ≤ 'Z' then ['_', d] else [d]

/-- `awardContractMonth` becomes `AWARD_CONTRACT_MONTH`. -/
def codeOfName (name : String) : String :=
  Text.upper (String.ofList (splitWords name.toList))

def forbiddenFailures (rules : List Rule) (payload : Fields) : List Failure :=
  rules.filterMap fun r =>
    if !r.isActive payload && r.forbiddenOtherwise && !(payload.get r.name).isBlank then
      some <| Failure.invalid (r.code ++ "_NOT_ALLOWED")
        (r.name ++ " should not be provided for this selection") r.name
    else none

def declares (rules : List Rule) (name : String) : Bool := rules.any (·.name == name)

def undeclaredFailures (rules : List Rule) (payload : Fields) : List Failure :=
  payload.names.filterMap fun name =>
    if declares rules name then none
    else some <| Failure.invalid (codeOfName name ++ "_NOT_ALLOWED")
      (name ++ " is not allowed at this level") name

def activeFailures [Library] (rules : List Rule) (payload : Fields) : List Failure :=
  (rules.filter (·.isActive payload)).filterMap (·.failure? payload)

/-- The selected intervention types and a main one that can be looked for among them. -/
def mainTypeSelection? (rules : List Rule) (payload : Fields) : Option (Value × List Value) :=
  let main := payload.get "mainInterventionType"
  match payload.get "projectInterventionTypes" with
  | .list selected =>
    if declares rules "mainInterventionType" && !main.isBlank then some (main, selected) else none
  | _ => none

def mainTypeFailures (rules : List Rule) (payload : Fields) : List Failure :=
  match mainTypeSelection? rules payload with
  | some (main, selected) =>
    if main.isIn selected then []
    else [Failure.invalid "PROJECT_MAIN_INTERVENTION_TYPE_INVALID"
      "mainInterventionType must be one of the selected projectInterventionTypes"
      "mainInterventionType"]
  | none => []

/-- Failures in order; a field that is already reported is not reported for its selection. -/
def levelFailures [Library] (rules : List Rule) (payload : Fields) : List Failure :=
  let reported :=
    forbiddenFailures rules payload ++ undeclaredFailures rules payload ++
      activeFailures rules payload
  reported ++ (mainTypeFailures rules payload).filter fun f =>
    !reported.any (·.field == f.field)

/-- Testing the conditions would compare a signalling NaN. -/
def signalsTesting (rules : List Rule) (payload : Fields) : Bool :=
  rules.any (·.signals payload)

/-- Checks of the active rules are prepared under the rules themselves as keys. -/
def canPrepare (rules : List Rule) (payload : Fields) : Bool :=
  (rules.filter (·.isActive payload)).all Rule.isKey

/-- The fault of building a model of the active rules: the first rule that the library refuses. -/
def modelRefusal? [Library] (rules : List Rule) (payload : Fields) : Option Fault :=
  Library.refusal? (rules.filter (·.isActive payload))

/-- Checking the fields would compare a NaN. -/
def clashesChecking [Library] (rules : List Rule) (payload : Fields) : Bool :=
  (rules.filter (·.isActive payload)).any (fun r =>
      Library.hasField r.name && (payload.get? r.name).any r.clashesWith) ||
    (mainTypeSelection? rules payload).any fun (main, selected) => main.signalsIn selected

/-- Only the fields whose rules are active. -/
def keepActive (rules : List Rule) (payload : Fields) : Fields :=
  payload.filter fun (name, _) =>
    (rules.find? (·.name == name)).any (·.isActive payload)

/-- Keeping the active fields would compare a signalling NaN. -/
def signalsStripping (rules : List Rule) (payload : Fields) : Bool :=
  payload.names.any fun name => (rules.find? (·.name == name)).any (·.signals payload)

namespace Registry

def validate [Library] (r : Registry) (levels : Value) (payload : Fields) :
    Except Fault (List Failure) := do
  let rules ← r.merge levels
  if signalsTesting rules payload then .error .incomparable
  else if !canPrepare rules payload then .error .wrongShape
  else
    match modelRefusal? rules payload with
    | some f => .error f
    | none =>
      if clashesChecking rules payload then .error .incomparable
      else pure (levelFailures rules payload)

def strip (r : Registry) (levels : Value) (payload : Fields) : Except Fault Fields := do
  let rules ← r.merge levels
  if signalsStripping rules payload then .error .incomparable
  else pure (keepActive rules payload)

end Registry
end FloodScheme
