/-
# The executable

The program on the machine that it is started on.  A store in a directory is a file of its
own, named by a digest of its namespace and its database.
-/
import Curation.CommandLine.Machine
import Curation.Config.Address
import Curation.Store.Saved
import Std.Time.DateTime.Timestamp

namespace Curation.CommandLine.Native

/-- The variables that the program looks at. -/
def knownVariables : List String :=
  [Config.fileVariable, Config.thresholdVariable, Connection.urlVariable,
    Connection.namespaceVariable, Connection.databaseVariable, Connection.userVariable,
    Connection.passwordVariable, Connection.rootVariable]

/-- The known variables that are set. -/
def environment : IO Environment :=
  knownVariables.filterMapM fun name => do
    return (← IO.getEnv name).map fun value => (name, value)

/-- The fault behind an error. -/
def faultOf : IO.Error → FileFault
  | .noFileOrDirectory .. => .missing
  | .inappropriateType _ code _ => if code = 21 then .isDirectory else .notDirectory
  | .invalidArgument _ 36 _ => .longName
  | e => .other (toString e)

/-- Bytes as a text. -/
def textOf (bytes : ByteArray) : Except FileFault String :=
  match String.fromUTF8? bytes with
  | some text => .ok text
  | none => .error .notText

/-- Reads a file. -/
def readText (path : String) : IO (Except FileFault String) := do
  if path.toList.contains '\x00' then return .error .nullInName
  match ← (IO.FS.readBinFile path).toBaseIO with
  | .ok bytes => return textOf bytes
  | .error e => return .error (faultOf e)

/-- Reads the standard input. -/
def readInput : IO (Except FileFault String) := do
  match ← ((← IO.getStdin).readToEnd).toBaseIO with
  | .ok text => return .ok text
  | .error e => return .error (faultOf e)

/-- A clock that starts at the present. -/
def clock : IO Clock := do
  let nanos := (← Std.Time.Timestamp.now).toNanosecondsSinceUnixEpoch.val
  return .steady ⟨nanos.fdiv Instant.perSecond, (nanos.fmod Instant.perSecond).toNat⟩

/-- A number that no other run starts from. -/
def freshStart : IO Nat := do
  let bytes ← IO.getRandomBytes 15
  return bytes.toList.foldl (fun n b => 256 * n + b.toNat) 0

/-- An archive around a store. -/
def archiveOf (s : Store) : IO Archive := do
  return .around .database s (← clock) (← freshStart)

/-- The file of a connection in the directory of its stores. -/
def storeFile (c : Connection) (directory : String) : String :=
  (if directory = "" then "." else directory) ++ "/" ++
    (ContentDigest.ofText (c.namespace_ ++ "\n" ++ c.database)).hex ++ ".json"

/-- Opens the store of a connection. -/
def connect (c : Connection) : IO (Option Archive) := do
  match c.address? with
  | none => return none
  | some .passing => return some (← archiveOf .empty)
  | some (.directory path) =>
    match ← (if path = "" then pure () else IO.FS.createDirAll path).toBaseIO with
    | .error _ => return none
    | .ok _ =>
      match ← readText (storeFile c path) with
      | .ok text => (Store.read? text).mapM archiveOf
      | .error .missing => return some (← archiveOf .empty)
      | .error _ => return none

/-- Keeps what became of an archive. -/
def keep (c : Connection) (a : Archive) : IO Unit := do
  match c.address? with
  | some (.directory path) => IO.FS.writeFile (storeFile c path) a.store.text
  | _ => return ()

/-- The machine that the program is started on. -/
def machine : Machine IO where
  files := {
    read := readText
    isThere := fun path => do
      match ← readText path with
      | .error .missing => return false
      | _ => return true }
  environment := environment
  input := readInput
  connect := connect
  keep := keep

end Curation.CommandLine.Native

/-- Runs the program. -/
def main (words : List String) : IO UInt32 := do
  let e ← Curation.CommandLine.Native.machine.run words
  (← IO.getStdout).putStr e.output
  (← IO.getStderr).putStr e.problems
  return UInt32.ofNat e.code
