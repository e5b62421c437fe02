import FloodScheme.Fault
import FloodScheme.Text.Case

/-! Where the service writes its log: settings and the state of the disk decide on outputs,
level and the directories made on the way. -/
namespace FloodScheme.Logging

/-- Paths that exist, and paths that may be written to. -/
structure Disk where
  existing : List String
  writable : List String

inductive Output
  | stdout
  | file
deriving DecidableEq, Repr

def Output.name : Output → String
  | stdout => "stdout"
  | file => "file"

structure Setup where
  level : Nat
  made : List String
  opened : List String
  outputs : List Output
deriving DecidableEq, Repr

def loggerName : String := "pafs"

def lineFormat : String := "%(asctime)s - %(levelname)s - %(message)s"

def containerHome : String := "/app"

/-- A place for the log and the directories made to have it. -/
structure Place where
  directory : Option String
  made : List String := []

def logsIn (home : String) : String := home ++ "/logs"

def standsOnDisk (disk : Disk) (path : String) : Bool := disk.existing.contains path

def canWrite (disk : Disk) (path : String) : Bool := disk.writable.contains path

/-- The logs of the container, if they are there or can be made, and can be written. -/
def containerPlace? (disk : Disk) : Option Place :=
  let path := logsIn containerHome
  if standsOnDisk disk path then
    if canWrite disk path then some ⟨some path, []⟩ else none
  else if canWrite disk containerHome then some ⟨some path, [path]⟩
  else none

/-- The logs next to the service; none if they can neither be found nor made. -/
def localPlace (disk : Disk) (home : String) : Place :=
  let path := logsIn home
  if standsOnDisk disk path then ⟨some path, []⟩
  else if canWrite disk home then ⟨some path, [path]⟩
  else ⟨none, []⟩

def place (setting : Option String) (disk : Disk) (home : String) : Place :=
  match setting with
  | some directory => ⟨some directory, []⟩
  | none => (containerPlace? disk).getD (localPlace disk home)

def levels : List (String × Nat) := [
  ("CRITICAL", 50), ("FATAL", 50), ("ERROR", 40), ("WARNING", 30), ("WARN", 30), ("INFO", 20),
  ("DEBUG", 10), ("NOTSET", 0)]

/-- Level by name in any case; 20 for other names. Two names belong to settings of another kind,
a format and a table of styles. -/
def levelOf (name : String) : Except Fault Nat :=
  let name := Text.upper name
  if name = "BASIC_FORMAT" then .error .wrongSetting
  else if name = "_STYLES" then .error .wrongShape
  else .ok ((levels.lookup name).getD 20)

/-- The log file can be opened in a directory that is writable or was just made. -/
def opensIn (disk : Disk) (p : Place) : Option String :=
  p.directory.filter fun d => d != "" && (canWrite disk d || p.made.contains d)

/-- Settings are looked up by name. There is always one output. -/
def setup (setting : String → Option String) (disk : Disk) (home : String) :
    Except Fault Setup := do
  let p := place (setting "LOG_DIR") disk home
  let wanted := Text.lower ((setting "LOG_OUTPUT").getD "both")
  let directory := if wanted == "file" || wanted == "both" then opensIn disk p else none
  let toStdout := wanted == "stdout" || wanted == "both" || directory.isNone
  pure {
    level := ← levelOf ((setting "LOG_LEVEL").getD "INFO")
    made := p.made
    opened := (directory.map (· ++ "/app.log")).toList
    outputs := (if toStdout then [.stdout] else []) ++ (if directory.isSome then [.file] else []) }

end FloodScheme.Logging
