/-
# TOML documents

A document is read line by line: a header opens a table, a pair adds to the open one.  The
open table stands apart from the tree until the next header, which puts it back.
-/
import Curation.Toml.Value

namespace Curation.Toml

/-- How far a document has been read. -/
structure State where
  root : List (String × Node)
  /-- Where the open table belongs. -/
  path : List String
  /-- Whether the open table is one of several under its name. -/
  repeated : Bool
  body : List (String × Node)

/-- Nothing read. -/
def State.start : State := ⟨[], [], false, []⟩

/-- Puts the open table back into the tree. -/
def State.close (s : State) : Option (List (String × Node)) :=
  if s.path.isEmpty then some s.body
  else
    let name := s.path.getLastD ""
    descend false
      (fun _ inner =>
        match s.repeated, node? name inner with
        | true, none => some (setNode name (.tables [s.body]) inner)
        | true, some (.tables items) => some (setNode name (.tables (s.body :: items)) inner)
        | false, none => some (setNode name (.table false false s.body) inner)
        | false, some (.table true _ _) => some (setNode name (.table false false s.body) inner)
        | _, _ => none)
      false s.path.dropLast s.root

/-- **Opens a table.**  One that was only implied is taken over with what it holds; one that
was defined before is refused. -/
def State.openTable (s : State) (path : List String) : Option State := do
  let root ← s.close
  let name := path.getLastD ""
  let mut held := []
  let parent ← find root path.dropLast
  match node? name parent with
  | none => pure ()
  | some (.table true false members) => held := members
  | some _ => none
  let root ← descend false (fun _ inner => some (dropNode name inner)) false path.dropLast root
  return ⟨root, path, false, held⟩
where
  /-- The table at the end of a path; an empty one where there is none yet. -/
  find (members : List (String × Node)) : List String → Option (List (String × Node))
  | [] => some members
  | name :: path =>
    match node? name members with
    | none => some []
    | some (.value _) | some (.tables []) => none
    | some (.tables (last :: _)) => find last path
    | some (.table _ _ inner) => find inner path

/-- **Opens one more table under a name**, which must not be the name of anything else. -/
def State.openRepeated (s : State) (path : List String) : Option State := do
  let root ← s.close
  let name := path.getLastD ""
  let root ← descend false
    (fun _ inner =>
      match node? name inner with
      | none => some (setNode name (.tables []) inner)
      | some (.tables _) => some inner
      | some _ => none)
    false path.dropLast root
  return ⟨root, path, true, []⟩

/-- Past the rest of a line: blanks, a comment, and the line end or the end of the text. -/
def endLine (cs : List Char) : Option (List Char) :=
  match skipComment (skipSpaces cs) with
  | [] => some []
  | cs => readLineEnd cs

/-- Reads one header, the first bracket having been read. -/
def readHeader (s : State) (cs : List Char) : Option (State × List Char) :=
  match cs with
  | '[' :: cs => do
    let (path, cs) ← readKey cs
    match cs with
    | ']' :: ']' :: cs => do
      let s ← s.openRepeated path
      some (s, cs)
    | _ => none
  | cs => do
    let (path, cs) ← readKey cs
    match cs with
    | ']' :: cs => do
      let s ← s.openTable path
      some (s, cs)
    | _ => none

/-- Reads one pair. -/
def readPair (s : State) (cs : List Char) : Option (State × List Char) := do
  let (key, cs) ← readKey cs
  match cs with
  | '=' :: cs =>
    let cs := skipSpaces cs
    let (value, cs) ← readValue (2 * cs.length + 2) depthLimit cs
    let body ← insertPair key value s.body
    some ({ s with body := body }, cs)
  | _ => none

/-- Reads the lines of a document; each takes a character at least. -/
def readLines : Nat → State → List Char → Option State
  | 0, s, cs => if cs.isEmpty then some s else none
  | fuel + 1, s, cs =>
    match skipSpaces cs with
    | [] => some s
    | c :: rest =>
      let step :=
        if c = '#' ∨ c = '\n' ∨ c = '\r' then some (s, c :: rest)
        else if c = '[' then readHeader s rest
        else readPair s (c :: rest)
      match step with
      | none => none
      | some (s, rest) =>
        match endLine rest with
        | none => none
        | some rest => readLines fuel s rest

/-- The characters of a text without a byte order mark in front. -/
def withoutMark (text : String) : List Char :=
  match text.toList with
  | '\ufeff' :: cs => cs
  | cs => cs

/-- **Reading a document**, as an object. -/
def read? (text : String) : Option Json := do
  let cs := withoutMark text
  let s ← readLines (cs.length + 1) .start cs
  let root ← s.close
  return .obj (membersJson root)

end Curation.Toml
