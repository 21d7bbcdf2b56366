/-
# The environment

The variables of a run, by name.  A file of variables may add to them; it never replaces one
that is set.

A process may be given a variable that holds no text.  It is set all the same, so there are two
things to ask: whether a variable is set, and what text it holds.
-/
import Curation.Text.Alphanumeric
import Curation.Text.Blank
import Curation.Text.Lines

namespace Curation

/-- The variables that are set, by name. -/
abbrev Environment := List (String × String)

/-- The value of a variable. -/
def Environment.value? (env : Environment) (name : String) : Option String :=
  (env.find? (·.1 == name)).map (·.2)

/-- Whether a variable is set. -/
def Environment.isSet (env : Environment) (name : String) : Bool :=
  env.any (·.1 == name)

/-- Sets a variable that is not set. -/
def Environment.provide (env : Environment) (name value : String) : Environment :=
  if env.isSet name then env else env ++ [(name, value)]

/-- How a variable of a process stands. -/
inductive Variable where
  | unset
  | text (value : String)
  /-- It is set to something that is no text. -/
  | bytes
  deriving DecidableEq

/-- **What a process sees of its variables**, by name. -/
structure Variables where
  state : String → Variable

namespace Variables

/-- The text of a variable. -/
def value? (vars : Variables) (name : String) : Option String :=
  match vars.state name with
  | .text value => some value
  | .unset | .bytes => none

/-- Whether a variable is set, to a text or not. -/
def isSet (vars : Variables) (name : String) : Bool :=
  vars.state name != .unset

/-- The variables of an environment, all of which hold texts. -/
def ofEnvironment (env : Environment) : Variables where
  state name :=
    match env.value? name with
    | some value => .text value
    | none => .unset

instance : Coe Environment Variables := ⟨ofEnvironment⟩

end Variables

namespace EnvFile

/-! ## 1. Entries

An entry is a line, or several when a quote or a backslash keeps it open. -/

/-- What the reader of entries is inside of. -/
inductive Span where
  | plain
  | escape
  | strong
  | strongEscape
  | weak
  | weakEscape
  | comment
  | blank
  deriving DecidableEq

/-- The span after a character. -/
def Span.next (s : Span) (c : Char) : Span :=
  match s with
  | .blank =>
    if c = '#' then .comment
    else if c = '\\' then .escape
    else if c = '"' then .weak
    else if c = '\x27' then .strong
    else .plain
  | .plain =>
    if isBlank c && c != '\n' && c != '\r' then .blank
    else if c = '\\' then .escape
    else if c = '"' then .weak
    else if c = '\x27' then .strong
    else .plain
  | .escape => .plain
  | .weak => if c = '\\' then .weakEscape else if c = '"' then .plain else .weak
  | .weakEscape => .weak
  | .strong => if c = '\\' then .strongEscape else if c = '\x27' then .plain else .strong
  | .strongEscape => .strong
  | .comment => .comment

/-- The span at the end of a line, and the line up to a comment. -/
def scanLine (s : Span) (taken : List Char) : List Char → Span × List Char
  | [] => (s, taken.reverse)
  | c :: cs =>
    match s.next c with
    | .comment => (.comment, taken.reverse)
    | s => scanLine s (c :: taken) cs

/-- The lines of a text with their ends. -/
def rawLines (run : List Char) : List Char → List (List Char)
  | [] => if run.isEmpty then [] else [run.reverse]
  | c :: cs =>
    if c = '\n' then (c :: run).reverse :: rawLines [] cs else rawLines (c :: run) cs

/-- A line without its end. -/
def withoutEnd (line : List Char) : List Char :=
  match line.reverse with
  | '\n' :: '\r' :: rest => rest.reverse
  | '\n' :: rest => rest.reverse
  | _ => line

/-- Whether a line is a comment. -/
def isComment (line : List Char) : Bool :=
  match line.dropWhile isBlank with
  | '#' :: _ => true
  | _ => false

/-- The entries of some lines, `held` being the lines of an open entry.  An entry that is open
at the end of the text is none. -/
def entriesFrom (s : Span) (held : List Char) : List (List Char) → List (Option (List Char))
  | [] => if s = .plain then [] else [none]
  | line :: lines =>
    if isComment (held ++ line) then some [] :: entriesFrom .plain [] lines
    else
      match scanLine s [] line with
      | (.plain, _) => some (withoutEnd (held ++ line)) :: entriesFrom .plain [] lines
      | (.comment, kept) => some (held ++ kept) :: entriesFrom .plain [] lines
      | (s, _) => entriesFrom s (held ++ line) lines

/-! ## 2. Values -/

/-- Where a value is in a reference to another variable.  A bare name goes on as long as there
are letters and digits, of any script; a name in braces takes whatever stands there. -/
inductive Reference where
  | none
  | open_ (name : List Char)
  | braced (name : List Char)

/-- How far a value has been read. -/
structure Reading where
  strong : Bool
  weak : Bool
  escaped : Bool
  /-- Nothing but a comment may follow. -/
  ending : Bool
  reference : Reference
  /-- The value so far, backwards. -/
  output : List Char

/-- The value of a variable that is referred to: as it is set, or as the file gave it before. -/
def referred (env : Environment) (given : List (String × String)) (name : List Char) :
    List Char :=
  let name := String.ofList name.reverse
  ((env.value? name).getD (((given.find? (·.1 == name)).map (·.2)).getD "")).toList

/-- Puts the value of a variable behind the output. -/
def Reading.refer (r : Reading) (env : Environment) (given : List (String × String))
    (name : List Char) : Reading :=
  { r with output := (referred env given name).reverse ++ r.output }

/-- One character of a value outside of references. -/
def Reading.plain (r : Reading) (c : Char) : Reading :=
  if c = '$' then { r with reference := .open_ [] }
  else if r.weak then
    (if c = '"' then { r with weak := false }
     else if c = '\\' then { r with escaped := true }
     else { r with output := c :: r.output })
  else if c = '\x27' then { r with strong := true }
  else if c = '"' then { r with weak := true }
  else if c = '\\' then { r with escaped := true }
  else if c = ' ' ∨ c = '\t' then { r with ending := true }
  else { r with output := c :: r.output }

/-- Reads a value to its end. -/
def readValue (env : Environment) (given : List (String × String)) (r : Reading) :
    List Char → Option Reading
  | [] => some r
  | c :: cs =>
    if r.ending then
      (if c = ' ' ∨ c = '\t' then readValue env given r cs
       else if c = '#' then some r
       else none)
    else if r.escaped then
      (if c = '\\' ∨ c = '\x27' ∨ c = '"' ∨ c = '$' ∨ c = ' ' then
        readValue env given { r with escaped := false, output := c :: r.output } cs
       else if c = 'n' then
        readValue env given { r with escaped := false, output := '\n' :: r.output } cs
       else none)
    else if r.strong then
      (if c = '\x27' then readValue env given { r with strong := false } cs
       else readValue env given { r with output := c :: r.output } cs)
    else
      match r.reference with
      | .none => readValue env given (r.plain c) cs
      | .open_ name =>
        if isAlphanumeric c then readValue env given { r with reference := .open_ (c :: name) } cs
        else if c = '\x7b' ∧ name.isEmpty then
          readValue env given { r with reference := .braced [] } cs
        else
          let r := r.refer env given name
          if c = '$' then readValue env given { r with reference := .open_ [] } cs
          else readValue env given { r with reference := .none, output := c :: r.output } cs
      | .braced name =>
        if c = '\x7d' then
          readValue env given { r.refer env given name with reference := .none } cs
        else readValue env given { r with reference := .braced (c :: name) } cs

/-- The value that a text stands for, unless a quote or a brace is left open. -/
def value? (env : Environment) (given : List (String × String)) (cs : List Char) :
    Option String := do
  let r ← readValue env given ⟨false, false, false, false, .none, []⟩ cs
  if r.strong || r.weak then none
  match r.reference with
  | .none => some (String.ofList r.output.reverse)
  | .open_ name => some (String.ofList (r.refer env given name).output.reverse)
  | .braced _ => none

/-! ## 3. Pairs -/

/-- The name at the front of an entry. -/
def readName (cs : List Char) : Option (String × List Char) :=
  match cs with
  | [] => none
  | c :: _ =>
    if c.isAlpha ∨ c = '_' then
      let name := cs.takeWhile fun c => c.isAlphanum || c == '_' || c == '.'
      some (String.ofList name, cs.drop name.length)
    else none

/-- Past an equals sign. -/
def readEquals : List Char → Option (List Char)
  | '=' :: rest => some rest
  | _ => none

/-- The name that an entry sets, and what follows the equals sign; the word `export` may stand
before the name. -/
def readTarget (cs : List Char) : Option (String × List Char) := do
  let (name, rest) ← readName cs
  let rest := rest.dropWhile isBlank
  match readEquals rest with
  | some rest => return (name, rest)
  | none =>
    if name = "export" then
      let (name, rest) ← readName rest
      let rest ← readEquals (rest.dropWhile isBlank)
      return (name, rest)
    else none

/-- What an entry says: nothing, a pair, or something that is not understood. -/
inductive Entry where
  | nothing
  | pair (name value : String)
  | malformed

/-- The meaning of an entry. -/
def entry (env : Environment) (given : List (String × String)) (line : List Char) : Entry :=
  let cs := (trim (String.ofList line)).toList
  if cs.isEmpty ∨ isComment cs then .nothing
  else
    match readTarget cs with
    | none => .malformed
    | some (name, rest) =>
      let rest := rest.dropWhile isBlank
      if rest.isEmpty ∨ isComment rest then .pair name ""
      else
        match value? env given rest with
        | some value => .pair name value
        | none => .malformed

/-- Takes over entries one by one, up to the first that is not understood. -/
def takeOver (env : Environment) (given : List (String × String)) :
    List (Option (List Char)) → Environment
  | [] => env
  | none :: _ => env
  | some line :: rest =>
    match entry env given line with
    | .nothing => takeOver env given rest
    | .malformed => env
    | .pair name value => takeOver (env.provide name value) ((name, value) :: given) rest

end EnvFile

/-- **Adds the variables of a file.** -/
def Environment.withFile (env : Environment) (text : String) : Environment :=
  let cs := match text.toList with
    | '\ufeff' :: cs => cs
    | cs => cs
  EnvFile.takeOver env [] (EnvFile.entriesFrom .plain [] (EnvFile.rawLines [] cs))

end Curation
