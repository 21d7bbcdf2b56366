/-
# The words of a command line

A command line is a path of verbs.  Each verb has options and either further verbs or
operands.  The words are read from left to right, and the first one that is wrong or asks for
help ends the reading.

A word that starts with two hyphens names an option, one that starts with a single hyphen is a
row of flags of one letter each, and a hyphen alone is a word like any other.  After a word
that is two hyphens and nothing else, every word is an operand.
-/
import Curation.Memory.Basic

namespace Curation.CommandLine

/-! ## 1. What may be said -/

/-- What a value must be. -/
inductive ValueSort where
  | text
  | path
  | kind
  | number
  deriving DecidableEq

/-- Whether a word is a value of a sort.  No word at all is a text, and no path. -/
def ValueSort.accepts (sort : ValueSort) (word : String) : Bool :=
  match sort with
  | .text => true
  | .path => word != ""
  | .kind => (MemoryKind.read word).isOk
  | .number => (Binary64.read? word).isSome

/-- The value of an option or of an operand. -/
structure ValueSpec where
  label : String
  sort : ValueSort
  /-- What holds when the option is not given. -/
  standard : Option String
  deriving DecidableEq

/-- An option. -/
structure OptionSpec where
  name : String
  letter : Option Char
  /-- The value that follows; a flag has none. -/
  value : Option ValueSpec
  required : Bool
  about : String
  deriving DecidableEq

/-- An operand; every operand must be given. -/
structure OperandSpec where
  value : ValueSpec
  about : String
  deriving DecidableEq

/-- A verb with all that may follow it. -/
structure Verb where
  name : String
  about : String
  options : List OptionSpec
  operands : List OperandSpec
  verbs : List Verb

/-- A grammar: the first verb is the name of the program, and the shared options may follow
any verb. -/
structure Grammar where
  program : Verb
  shared : List OptionSpec
  version : String

/-- The verb that gives help on the verbs beside it. -/
def helpVerb : String := "help"

/-! ## 2. What was said -/

/-- A command line that was understood. -/
structure Said where
  /-- The verbs, outermost first, without the name of the program. -/
  verbs : List String
  /-- The options given, those of inner verbs first. -/
  options : List (String × Option String)
  operands : List String
  deriving DecidableEq

/-- Whether an option was given. -/
def Said.has (s : Said) (name : String) : Bool :=
  s.options.any (·.1 == name)

/-- The value of an option; an inner verb has the word before an outer one. -/
def Said.value? (s : Said) (name : String) : Option String :=
  (s.options.find? (·.1 == name)).bind (·.2)

/-- What a command line comes to. -/
inductive Reading where
  | understood (said : Said)
  /-- Help was asked for, on the last of these verbs. -/
  | help (path : List String) (verb : Verb)
  /-- Help was asked for on the verb that gives help after these verbs. -/
  | helpOnHelp (path : List String)
  | version
  | wrong

/-! ## 3. Reading -/

/-- A verb whose words are being read. -/
structure Level where
  verb : Verb
  /-- The verbs so far, outermost first, this one included. -/
  path : List String
  /-- What was given before this verb. -/
  outer : List (String × Option String)
  /-- What was given after it, the last one first. -/
  options : List (String × Option String)
  /-- The last one first. -/
  operands : List String
  /-- Whether every word is an operand from here on. -/
  onlyOperands : Bool

/-- What a word does. -/
inductive Step where
  | go (level : Level)
  /-- The next word is the value of an option. -/
  | awaiting (o : OptionSpec)
  /-- The next words are the verbs on which help is wanted. -/
  | explain
  | stop (reading : Reading)

namespace Level

/-- A verb after which nothing has been read. -/
def start (verb : Verb) (path : List String) (outer : List (String × Option String)) : Level where
  verb := verb
  path := path
  outer := outer
  options := []
  operands := []
  onlyOperands := false

/-- Takes an option, which may be given once after a verb. -/
def give (l : Level) (o : OptionSpec) (value : Option String) : Step :=
  let fits := match o.value, value with
    | some spec, some word => spec.sort.accepts word
    | none, none => true
    | _, _ => false
  if l.options.any (·.1 == o.name) || !fits then .stop .wrong
  else .go { l with options := (o.name, value) :: l.options }

/-- Takes an operand, if one is still expected. -/
def operand (l : Level) (word : String) : Step :=
  match l.verb.operands[l.operands.length]? with
  | some o =>
    if o.value.sort.accepts word then .go { l with operands := word :: l.operands }
    else .stop .wrong
  | none => .stop .wrong

/-- Only the program itself has a version. -/
def isOutermost (l : Level) : Bool := l.path.length == 1

/-- A word that starts with two hyphens; a value may follow an equals sign. -/
def long (g : Grammar) (l : Level) (word : List Char) : Step :=
  let name := String.ofList (word.takeWhile (· != '='))
  let value := match word.dropWhile (· != '=') with
    | [] => none
    | _ :: rest => some (String.ofList rest)
  match (l.verb.options ++ g.shared).find? (·.name == name) with
  | some o => if o.value.isSome && value.isNone then .awaiting o else l.give o value
  | none =>
    if value.isSome then .stop .wrong
    else if name = "help" then .stop (.help l.path l.verb)
    else if name = "version" && l.isOutermost then .stop .version
    else .stop .wrong

/-- A row of flags. -/
def letters (g : Grammar) (l : Level) : List Char → Step
  | [] => .go l
  | c :: cs =>
    match (l.verb.options ++ g.shared).find? (·.letter == some c) with
    | some o => match l.give o none with
      | .go l => letters g l cs
      | other => other
    | none =>
      if c = 'h' then .stop (.help l.path l.verb)
      else if c = 'V' && l.isOutermost then .stop .version
      else .stop .wrong

/-- What a word does at a place where no value is awaited. -/
def word (g : Grammar) (l : Level) (word : String) : Step :=
  if l.onlyOperands then l.operand word
  else match l.verb.verbs.find? (·.name == word) with
    | some v => .go (start v (l.path ++ [v.name]) (l.options ++ l.outer))
    | none =>
      if word = helpVerb && !l.verb.verbs.isEmpty then .explain
      else match word.toList with
        | ['-', '-'] => .go { l with onlyOperands := true }
        | '-' :: '-' :: rest => l.long g rest
        | '-' :: c :: cs => l.letters g (c :: cs)
        | _ => l.operand word

/-- The end of the words: all that must be given has been given. -/
def finish (l : Level) : Reading :=
  if l.verb.verbs.isEmpty && l.operands.length == l.verb.operands.length &&
      l.verb.options.all (fun o => !o.required || l.options.any (·.1 == o.name)) then
    .understood ⟨l.path.drop 1, l.options ++ l.outer, l.operands.reverse⟩
  else .wrong

end Level

/-- The verb on which help is wanted.  The verb that gives help stands beside the others
wherever there are further verbs, and nothing comes after it. -/
def explain (path : List String) (verb : Verb) : List String → Reading
  | [] => .help path verb
  | word :: words =>
    match verb.verbs.find? (·.name == word) with
    | some v => explain (path ++ [v.name]) v words
    | none =>
      if word = helpVerb && !verb.verbs.isEmpty && words.isEmpty then .helpOnHelp path else .wrong

/-- A hyphen alone is a value; longer words that start with one are not. -/
def isValueWord (word : String) : Bool :=
  match word.toList with
  | '-' :: _ :: _ => false
  | _ => true

/-- Reads words after a verb. -/
def readFrom (g : Grammar) (l : Level) : List String → Reading
  | [] => l.finish
  | word :: words =>
    match l.word g word with
    | .go l => readFrom g l words
    | .explain => explain l.path l.verb words
    | .stop reading => reading
    | .awaiting o =>
      match words with
      | [] => .wrong
      | value :: words =>
        if isValueWord value then
          match l.give o (some value) with
          | .go l => readFrom g l words
          | _ => .wrong
        else .wrong

/-- **Reads a command line**, given without the name of the program. -/
def Grammar.read (g : Grammar) (words : List String) : Reading :=
  readFrom g (.start g.program [g.program.name] []) words

end Curation.CommandLine
