/-
# Reports of failure

When a command fails, the report names the stage that was not passed and then what lies
behind it, from the nearest cause to the farthest.
-/
import Curation.Error
import Curation.Text.Lines

namespace Curation.CommandLine

/-- A stage of a run that may not be passed. -/
inductive Stage where
  | loadConfig
  | readConnection
  | connect
  | addMemory
  | showMemory (id : MemoryId)
  | setThreshold
  | readInput
  | readScript (path : String)
  | parseList
  | parseLine (number : Nat)
  | beginSession
  | runSession (session : SessionId)
  | recover (session : SessionId)
  deriving DecidableEq

/-- The line that says that a stage was not passed. -/
def Stage.undone : Stage → String
  | .loadConfig => "Failed to load configuration"
  | .readConnection => "Invalid database connection settings"
  | .connect => "Failed to connect to memcurate database"
  | .addMemory => "Failed to add memory"
  | .showMemory id => "Memory not found: " ++ id.text
  | .setThreshold => "Failed to set threshold"
  | .readInput => "Failed to read actions from stdin"
  | .readScript path => "Failed to read actions file " ++ quotedPath path
  | .parseList => "Actions file is not a JSON array"
  | .parseLine number => "Invalid JSON on line " ++ toString number
  | .beginSession => "Failed to start refinement session"
  | .runSession session => "Session " ++ session.text ++ " failed"
  | .recover session => "Failed to reconcile session " ++ session.text

/-- Why a command failed. -/
inductive Failure where
  /-- A refusal, at a stage or at none in particular. -/
  | refused (stage : Option Stage) (cause : CurationError)
  /-- A file that could not be read. -/
  | unreadable (stage : Stage) (cause : FileFault)
  /-- A stage that was not passed, with nothing more to say. -/
  | undone (stage : Stage)
  deriving DecidableEq

namespace Failure

/-- What is to be said of a failure, outermost first. -/
def chain : Failure → List String
  | .refused stage cause => stage.toList.map Stage.undone ++ cause.chain
  | .unreadable stage cause => [stage.undone, cause.message]
  | .undone stage => [stage.undone]

/-- A text set off by a front and, on its further lines, by blanks of the same width. -/
def indented (front : String) (text : String) : String :=
  front ++ ("\n" ++ padLeft front.length "").intercalate (text.splitOn "\n")

/-- A cause of several, with its number. -/
def numbered (entry : String × Nat) : String :=
  indented (padLeft 5 (toString entry.2) ++ ": ") entry.1

/-- The causes: one is only indented, several are numbered from zero. -/
def causesText : List String → String
  | [] => ""
  | [cause] => "\n\nCaused by:\n" ++ indented "    " cause
  | causes => "\n\nCaused by:\n" ++ "\n".intercalate (causes.zipIdx.map numbered)

/-- **The report.** -/
def report (f : Failure) : String :=
  match f.chain with
  | [] => "Error: \n"
  | first :: causes => "Error: " ++ first ++ causesText causes ++ "\n"

/-- The exit code of a failure: a panic has one of its own. -/
def code : Failure → Nat
  | .refused _ cause => if cause.isPanic then 101 else 1
  | _ => 1

end Failure
end Curation.CommandLine
