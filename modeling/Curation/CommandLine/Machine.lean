/-
# The program

What the program needs of the machine that it runs on, and a run of it: the command line is
read first, then the variables and the configuration, then the store is opened, and only then
is the command run.  A file of variables in the working directory is read before anything else
looks at the variables.
-/
import Curation.CommandLine.Run
import Curation.CommandLine.Help
import Curation.Config.Load
import Curation.Config.Connection

namespace Curation.CommandLine

/-- What the program needs of its machine. -/
structure Machine (m : Type → Type) where
  files : Files m
  /-- The variables that are set. -/
  environment : m Environment
  /-- All of the standard input. -/
  input : m (Except FileFault String)
  /-- Opens the store of a connection, if there can be one. -/
  connect : Connection → m (Option Archive)
  /-- Keeps what a run has made of the archive that was opened. -/
  keep : Connection → Archive → m Unit

/-- A run that has ended: its exit code and what it wrote. -/
structure Ended where
  code : Nat
  output : String
  problems : String
  deriving DecidableEq

/-- The file of variables. -/
def variableFile : String := ".env"

/-- The file name that stands for the standard input. -/
def inputName : String := "-"

/-- How a run ends whose command line is wrong. -/
def misused : Ended := ⟨2, "", "error: the command line is not valid; try --help\n"⟩

namespace Machine

variable {m : Type → Type} [Monad m]

/-- The variables, those of the file included. -/
def allVariables (machine : Machine m) : m Environment := do
  let env ← machine.environment
  match ← machine.files.read variableFile with
  | .ok text => return env.withFile text
  | .error _ => return env

/-- A step of a run that a refusal ends. -/
def need {α : Type} (stage : Stage) (x : Except CurationError α) : ExceptT Failure m α :=
  match x with
  | .ok a => pure a
  | .error e => throw (.refused (some stage) e)

/-- The text of a script. -/
def scriptText (machine : Machine m) (path : String) : ExceptT Failure m String := do
  let (stage, text) ←
    if path = inputName then do pure (Stage.readInput, ← machine.input)
    else do pure (Stage.readScript path, ← machine.files.read path)
  match text with
  | .ok text => return text
  | .error fault => throw (.unreadable stage fault)

/-- What a run comes to: the text it printed, and why it failed if it did. -/
abbrev Answer := String × Option Failure

/-- **Runs a command.** -/
def perform (machine : Machine m) (i : Invocation) : ExceptT Failure m Answer := do
  let env ← machine.allVariables
  let loaded ← ExceptT.lift (Config.load machine.files env i.config)
  let config ← need .loadConfig loaded
  let connection ← need .readConnection (config.connection env)
  match ← machine.connect connection with
  | none => throw (.undone .connect)
  | some archive =>
    let script ← match i.command.script? with
      | some path => machine.scriptText path
      | none => pure ""
    let ((result, printed), archive) := ((i.command.run config script).run "").run archive
    machine.keep connection archive
    return match result with
      | .ok _ => (printed, none)
      | .error failure => (printed, some failure)

/-- How a run ends that has come to an answer or failed before it. -/
def ended : Except Failure Answer → Ended
  | .ok (printed, none) => ⟨0, printed, ""⟩
  | .ok (printed, some failure) => ⟨failure.code, printed, failure.report⟩
  | .error failure => ⟨failure.code, "", failure.report⟩

/-- **Runs the program** on the words of a command line. -/
def run (machine : Machine m) (words : List String) : m Ended := do
  match grammar.read words with
  | .wrong => return misused
  | .help path verb => return ⟨0, grammar.help path verb, ""⟩
  | .helpOnHelp path => return ⟨0, helpOnHelp path, ""⟩
  | .version => return ⟨0, grammar.versionText, ""⟩
  | .understood said =>
    match Invocation.ofSaid? said with
    | none => return misused
    | some i => return ended (← (machine.perform i).run)

end Machine
end Curation.CommandLine
