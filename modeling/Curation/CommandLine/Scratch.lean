/-
# A scratch machine

A machine that is a value: a directory of files, the stores that earlier runs kept in it, and
the variables and the input of the next run.  A run on it is a function, so what the program
does can be looked at without running it anywhere.
-/
import Curation.CommandLine.Machine
import Curation.Config.Address

namespace Curation.CommandLine

/-- The components of a path.  A component of two dots takes back the one before it and stays
where there is none; a path from the root starts with the component `/`. -/
def pathComponents (path : String) : List String :=
  (path.splitOn "/").foldl step (if path.startsWith "/" then ["/"] else [])
where
  /-- Adds a component. -/
  step (done : List String) (part : String) : List String :=
    if part = "" ∨ part = "." then done
    else if part = ".." then
      match done.getLast? with
      | none | some ".." => done ++ [part]
      | some "/" => done
      | some _ => done.dropLast
    else done ++ [part]

/-- Whether a component of a path is no longer than names may be, which is counted in bytes. -/
def isShortName (part : String) : Bool :=
  part.utf8ByteSize ≤ 255

/-- Whether a path is shorter than paths must be, which is counted in bytes. -/
def isShortPath (path : String) : Bool :=
  path.utf8ByteSize < 4096

/-- Where a store is kept. -/
structure Place where
  components : List String
  namespace_ : String
  database : String
  deriving DecidableEq

/-- **A scratch machine.** -/
structure Scratch where
  /-- Texts of files, by the components of their paths. -/
  files : List (List String × String)
  /-- The directories that were made for stores. -/
  made : List (List String)
  stores : List (Place × Store)
  environment : Environment
  input : String
  clock : Clock
  /-- How many ids have been drawn. -/
  drawn : Nat

namespace Scratch

/-- A machine with nothing on it. -/
def empty (clock : Clock) : Scratch where
  files := []
  made := []
  stores := []
  environment := []
  input := ""
  clock := clock
  drawn := 0

/-! ## 1. Files -/

/-- Writes a file. -/
def write (s : Scratch) (path text : String) : Scratch :=
  let path := pathComponents path
  { s with files := (path, text) :: s.files.filter (·.1 != path) }

/-- The text of the file at a path. -/
def fileText? (s : Scratch) (path : List String) : Option String :=
  (s.files.find? (·.1 == path)).map (·.2)

/-- Whether there is a directory at a path. -/
def isDirectory (s : Scratch) (path : List String) : Bool :=
  path.isEmpty || s.made.any path.isPrefixOf ||
    s.files.any fun file => path.isPrefixOf file.1 && file.1 != path

/-- What is at the end of a path that is walked outside of the scratch directory, where no
names are known. -/
def walkOutside : List String → Except FileFault String
  | [] => .error .isDirectory
  | part :: parts =>
    if part = "" ∨ part = "." ∨ part = ".." then walkOutside parts
    else if isShortName part then .error .missing
    else .error .longName

/-- What is at the end of a path that is walked from a directory. -/
def walk (s : Scratch) (here : List String) : List String → Except FileFault String
  | [] => .error .isDirectory
  | part :: parts =>
    if part = "" ∨ part = "." then s.walk here parts
    else if part = ".." then
      (if here.isEmpty then walkOutside parts else s.walk here.dropLast parts)
    else
      let next := here ++ [part]
      match s.fileText? next with
      | some text => if parts.isEmpty then .ok text else .error .notDirectory
      | none =>
        if s.isDirectory next then s.walk next parts
        else if isShortName part then .error .missing
        else .error .longName

/-- The directories that every machine has at its root. -/
def rootDirectories : List String :=
  ["bin", "dev", "etc", "home", "proc", "root", "sys", "tmp", "usr", "var"]

/-- What is at the end of a path from the root: the directories that every machine has, the
file that is always empty, and the input of the run. -/
def readFromRoot (s : Scratch) (path : String) : Except FileFault String :=
  match pathComponents path with
  | [_, name] => if rootDirectories.contains name then .error .isDirectory
    else walkOutside (path.splitOn "/")
  | [_, "dev", "null"] => .ok ""
  | [_, "dev", "stdin"] => .ok s.input
  | _ => walkOutside (path.splitOn "/")

/-- Reads a file. -/
def read (s : Scratch) (path : String) : Except FileFault String :=
  if path.toList.contains '\x00' then .error .nullInName
  else if path = "" then .error .missing
  else if !isShortPath path then .error .longName
  else if path.startsWith "/" then s.readFromRoot path
  else s.walk [] (path.splitOn "/")

/-! ## 2. Stores -/

/-- The store at a place. -/
def store (s : Scratch) (place : Place) : Store :=
  ((s.stores.find? (·.1 == place)).map (·.2)).getD .empty

/-- Whether a directory can have a name. -/
def isUsable (name : String) : Bool :=
  isShortName name && !name.toList.contains '\x00'

/-- Whether a directory cannot be made because of its name or because a file stands where a
directory is needed. -/
def isBlocked (s : Scratch) (path : List String) : Bool :=
  !path.all isUsable || s.files.any fun file => file.1.isPrefixOf path

/-- The directories that a path leads through, the last one first. -/
def passed (path : String) : List (List String) :=
  let parts := path.splitOn "/"
  (List.range (parts.length + 1)).reverse.map fun n =>
    pathComponents ("/".intercalate (parts.take n))

/-- The place of a connection to a store that is kept. -/
def place (c : Connection) (components : List String) : Place :=
  ⟨components, c.namespace_, c.database⟩

/-- Opens the store of a connection. -/
def connect (c : Connection) : StateM Scratch (Option Archive) := do
  let s ← get
  match c.address? with
  | none => return none
  | some .passing => return some (.around .database .empty s.clock s.drawn)
  | some (.directory path) =>
    let directories := passed path
    if directories.any s.isBlocked then return none
    set { s with made := directories ++ s.made }
    return some (.around .database (s.store (place c (pathComponents path))) s.clock s.drawn)

/-- Keeps what became of an archive. -/
def keep (c : Connection) (a : Archive) : StateM Scratch Unit :=
  modify fun s =>
    let s := { s with clock := a.clock, drawn := a.drawn }
    match c.address? with
    | some (.directory path) =>
      let p := place c (pathComponents path)
      { s with stores := (p, a.store) :: s.stores.filter (·.1 != p) }
    | _ => s

/-- The machine of a scratch value. -/
def machine : Machine (StateM Scratch) where
  files := {
    read := fun path => do return (← get).read path
    isThere := fun path => do
      match (← get).read path with
      | .ok _ | .error .isDirectory => return true
      | .error _ => return false }
  environment := do return (← get).environment
  input := do return .ok (← get).input
  connect := connect
  keep := keep

/-- Runs the program with some variables and some input. -/
def run (s : Scratch) (env : Environment) (input : String) (words : List String) :
    Ended × Scratch :=
  (machine.run words).run { s with environment := env, input := input }

end Scratch
end Curation.CommandLine
