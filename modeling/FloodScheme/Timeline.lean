import FloodScheme.Failure
import FloodScheme.Value.Integer

/-! Milestone dates against the financial years of a scheme. A financial year starts in April,
so a date lies in it by comparing year and month with April. -/
namespace FloodScheme

structure Milestone where
  level : String
  label : String
  monthField : String
  yearField : String
  /-- Has to come before the first financial year instead of between the two. -/
  early : Bool := false
deriving DecidableEq, Repr

namespace Timeline

def startMonth : Int := 4

def milestones : List Milestone := [
  ⟨"START_OUTLINE_BUSINESS_CASE", "Start Outline Business Case",
    "startOutlineBusinessCaseMonth", "startOutlineBusinessCaseYear", false⟩,
  ⟨"COMPLETE_OUTLINE_BUSINESS_CASE", "Complete Outline Business Case",
    "completeOutlineBusinessCaseMonth", "completeOutlineBusinessCaseYear", false⟩,
  ⟨"AWARD_CONTRACT", "Award Contract", "awardContractMonth", "awardContractYear", false⟩,
  ⟨"START_CONSTRUCTION", "Start Construction",
    "startConstructionMonth", "startConstructionYear", false⟩,
  ⟨"READY_FOR_SERVICE", "Ready for Service",
    "readyForServiceMonth", "readyForServiceYear", false⟩,
  ⟨"EARLIEST_WITH_GIA", "Earliest With GIA",
    "earliestWithGiaMonth", "earliestWithGiaYear", true⟩]

/-- The milestone of a level; a level that cannot be looked up is a fault. -/
def milestone? (level : Value) : Except Fault (Option Milestone) :=
  if !level.isKey then .error .wrongShape
  else
    match level with
    | .text name => .ok (milestones.find? (·.level == name))
    | _ => .ok none

/-- A month or a year as a number; a truth value is none. -/
def part (v : Value) : Except Fault (Option Int) :=
  match v with
  | .bool _ => .ok none
  | v => v.wholePart

def isBefore (month year boundary : Int) : Bool :=
  year < boundary || (year == boundary && month < startMonth)

/-- How a date breaks a financial year. -/
inductive Breach
  /-- It does not come before the first one. -/
  | tooLateForStart (start : Int)
  | tooEarly (start : Int)
  | tooLate (stop : Int)
deriving DecidableEq, Repr

namespace Breach

def year : Breach → Int
  | tooLateForStart start => start
  | tooEarly start => start
  | tooLate stop => stop

def code : Breach → String
  | tooLateForStart _ => "DATE_AFTER_FINANCIAL_START"
  | tooEarly _ => "DATE_BEFORE_FINANCIAL_START"
  | tooLate _ => "DATE_AFTER_FINANCIAL_END"

def demand (b : Breach) : String :=
  let year := Number.integerText b.year
  match b with
  | tooLateForStart _ => " must be before the financial start year (before April " ++ year ++ ")"
  | tooEarly _ => " must be within the financial year range (starts April " ++ year ++ ")"
  | tooLate _ => " must be within the financial year range (ends March " ++ year ++ ")"

/-- What is said of a milestone. A year too long to be written is a fault. -/
def failure (b : Breach) (m : Milestone) : Except Fault Failure :=
  if Number.isWritable b.year then .ok (.invalid b.code (m.label ++ b.demand) m.monthField)
  else .error .unformattable

end Breach

/-- A date against the years that are known. -/
def breach? (m : Milestone) (month year : Int) (start stop : Option Int) : Option Breach :=
  if m.early then (start.filter fun s => !isBefore month year s).map .tooLateForStart
  else
    match start.filter (isBefore month year) with
    | some s => some (.tooEarly s)
    | none => (stop.filter fun e => !isBefore month year e).map .tooLate

/-- Check of one date. Nothing is said where the level has no milestone or the date cannot be
read. -/
def check (month year level start stop : Value) : Except Fault (Option Failure) := do
  let milestone ← milestone? level
  let month ← part month
  let year ← part year
  match milestone, month, year with
  | some m, some month, some year => do
    let start ← part start
    let stop ← part stop
    (breach? m month year start stop).mapM (·.failure m)
  | _, _, _ => pure none

/-- Check of the date that a payload gives for the milestone of its level. -/
def checkPayload (payload : Fields) (level start stop : Value) :
    Except Fault (Option Failure) := do
  match ← milestone? level with
  | none => pure none
  | some m => check (payload.get m.monthField) (payload.get m.yearField) level start stop

end Timeline
end FloodScheme
