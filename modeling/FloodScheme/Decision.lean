import FloodScheme.Permission
import FloodScheme.Store.Lookup
import FloodScheme.Timeline

/-! The decision on a proposal: may this caller create or update this project with this
payload? The first condition that fails decides. -/
namespace FloodScheme

structure Reads where
  area : Value → Except Fault (Option Area)
  project : Value → Except Fault (Option ProjectRecord)
  nameTaken : Value → Value → Except Fault Bool

def Database.reads (db : Database) : Reads := ⟨db.area, db.project, db.nameTaken⟩

/-- The resolved area of an accepted proposal, its coordination code and the stored project, as far
as they were read. -/
structure Acceptance where
  area : Option AreaWithParents := none
  code : Option String := none
  existing : Option ProjectRecord := none

/-- The decision ends with the failure of a rule or with a fault. -/
inductive Halt
  | failure (f : Failure)
  | fault (f : Fault)

namespace Decision

def lift {α : Type} (r : Except Fault α) : Except Halt α := r.mapError .fault

def reject {α : Type} (f : Failure) : Except Halt α := .error (.failure f)

def rejectSome (f : Option Failure) : Except Halt Unit :=
  match f with
  | some f => reject f
  | none => pure ()

/-- The member is there, is not null and is not a text of blanks. -/
def isPresent (payload : Fields) (field : String) : Bool := !(payload.get field).isBlank

def nameDuplicate : Failure :=
  .conflict "NAME_DUPLICATE" "A project with this name already exists" "name"

def projectUnknown : Failure :=
  .notFound "INVALID_DATA" "Project with the specified reference number does not exist"

def areaUnknown : Failure :=
  .invalid "AREA_IS_NOT_ALLOWED" "The specified areaId does not exist" "areaId"

def notAnRma (type : String) : Failure :=
  .invalid "AREA_IS_NOT_ALLOWED"
    ("Selected area must be an RMA. Selected area type is: " ++ type) "areaId"

def codeUnknown : Failure :=
  .invalid "AREA_IS_NOT_ALLOWED"
    "Could not determine RFCC code. RMA must have a PSO parent with RFCC code." "areaId"

def areaChangeRefused : Failure :=
  .forbidden "NOT_ALLOWED_TO_UPDATE" "Only admin users can change the area of a project"

def createRefused (r : Refusal) : Failure := .forbidden "NOT_ALLOWED_TO_CREATE" r.message

def updateRefused (r : Refusal) : Failure := .forbidden "NOT_ALLOWED_TO_UPDATE" r.message

def startAfterEnd (start stop : Int) : Failure :=
  .invalid "FINANCIAL_START_YEAR_SHOULD_BE_LESS_THAN_END_YEAR"
    ("Financial start year (" ++ Number.integerText start ++
      ") must not be after the financial end year (" ++ Number.integerText stop ++ ")")
    "financialStartYear"

def endBeforeStart (start stop : Int) : Failure :=
  .invalid "FINANCIAL_END_YEAR_SHOULD_BE_GREATER_THAN_START_YEAR"
    ("Financial end year (" ++ Number.integerText stop ++
      ") must not be before the financial start year (" ++ Number.integerText start ++ ")")
    "financialEndYear"

def checkName (reads : Reads) (payload : Fields) (existing : Option ProjectRecord) :
    Except Halt Unit :=
  if isPresent payload "name" then do
    let excluded : Value := existing.elim .null fun p => .text p.reference
    if ← lift (reads.nameTaken (payload.get "name") excluded) then reject nameDuplicate
  else pure ()

/-- The years to compare: those sent, and the stored one for a side that is not. -/
def yearsToCompare (payload : Fields) (existing : Option ProjectRecord) : Value × Value :=
  (if isPresent payload "financialStartYear" then payload.get "financialStartYear"
    else existing.elim .null ProjectRecord.startYear,
   if isPresent payload "financialEndYear" then payload.get "financialEndYear"
    else existing.elim .null ProjectRecord.endYear)

/-- The first financial year does not come after the last one. The failure names a field that
was sent. -/
def checkYears (payload : Fields) (existing : Option ProjectRecord) : Except Halt Unit :=
  let startSent := isPresent payload "financialStartYear"
  let endSent := isPresent payload "financialEndYear"
  if !startSent && !endSent then pure ()
  else do
    let (start, stop) := yearsToCompare payload existing
    match ← lift start.wholePart, ← lift stop.wholePart with
    | some start, some stop =>
      if start ≤ stop then pure ()
      else if !(Number.isWritable start && Number.isWritable stop) then
        .error (.fault .unformattable)
      else if startSent then reject (startAfterEnd start stop)
      else reject (endBeforeStart start stop)
    | _, _ => pure ()

/-- An area that a project may have: an RMA with a coordination code. -/
def resolveArea (reads : Reads) (id : Value) : Except Halt AreaWithParents := do
  match ← lift (Hierarchy.withParents reads.area id) with
  | none => reject areaUnknown
  | some a =>
    if !a.area.isRma then reject (notAnRma a.area.type)
    else if a.rfccCode.isNone then reject codeUnknown
    else pure a

def create (reads : Reads) (payload : Fields) (p : Principal) : Except Halt Acceptance := do
  let areaId := payload.get "areaId"
  rejectSome ((refuseCreate? p areaId).map createRefused)
  checkName reads payload none
  checkYears payload none
  let a ← resolveArea reads areaId
  pure { area := some a, code := a.rfccCode }

def currentArea (reads : Reads) (existing : ProjectRecord) :
    Except Halt (Option AreaWithParents) :=
  match existing.areaId with
  | none => pure none
  | some id => lift (Hierarchy.withParents reads.area (.int id))

/-- The area that an update moves the project to, if it moves. -/
def checkAreaChange (reads : Reads) (payload : Fields) (p : Principal)
    (existing : ProjectRecord) : Except Halt (Option AreaWithParents) :=
  let areaId := payload.get "areaId"
  if isPresent payload "areaId" && !sameArea areaId (existing.areaId.elim .null .int) then
    if !p.isAdmin then reject areaChangeRefused
    else (resolveArea reads areaId).map some
  else pure none

def update (reads : Reads) (payload : Fields) (p : Principal) (level reference : Value) :
    Except Halt Acceptance := do
  match ← lift (reads.project reference) with
  | none => reject projectUnknown
  | some existing => do
    let current ← currentArea reads existing
    rejectSome ((refuseUpdate? p current).map updateRefused)
    checkName reads payload (some existing)
    checkYears payload (some existing)
    let moved ← checkAreaChange reads payload p existing
    rejectSome (← lift (Timeline.checkPayload payload level existing.startYear existing.endYear))
    pure { area := moved, code := moved.bind AreaWithParents.rfccCode, existing := some existing }

end Decision

/-- A payload without a reference number asks for a new project. -/
def decideProposal (reads : Reads) (payload : Fields) (p : Principal) (level : Value) :
    Except Halt Acceptance :=
  let reference := payload.get "referenceNumber"
  if reference.truthy then Decision.update reads payload p level reference
  else Decision.create reads payload p

end FloodScheme
