/-
# Scripts

A script is a list of tool calls: one JSON array, or a JSON value on each line that is not
blank.
-/
import Curation.CommandLine.Report
import Curation.Json.Reader

namespace Curation.CommandLine.Script

/-- Reads lines that are numbered. -/
def readLines : List (String × Nat) → Except Failure (List Json)
  | [] => .ok []
  | (line, number) :: lines =>
    if blankText line then readLines lines
    else
      match Json.read? line with
      | none => .error (.undone (.parseLine number))
      | some call => do return call :: (← readLines lines)

/-- **Reads a script.** -/
def read (text : String) : Except Failure (List Json) :=
  let trimmed := trimStart text
  match trimmed.toList with
  | '[' :: _ =>
    match Json.read? trimmed with
    | some (.arr calls) => .ok calls
    | _ => .error (.undone .parseList)
  | _ => readLines ((textLines text).zipIdx 1)

end Curation.CommandLine.Script
