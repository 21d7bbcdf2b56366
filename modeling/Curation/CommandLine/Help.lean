/-
# Help

What may be said after a verb, as a text: what the verb is for, how it is used, and a line
for each thing that may follow, with the descriptions in one column.
-/
import Curation.CommandLine.Grammar
import Curation.Text.Lines

namespace Curation.CommandLine

/-- A label between angle brackets, as values are shown. -/
def bracketed (label : String) : String := "<" ++ label ++ ">"

/-- An option with its value, as the usage line shows it. -/
def OptionSpec.usage (o : OptionSpec) : String :=
  "--" ++ o.name ++ (match o.value with
    | some v => " " ++ bracketed v.label
    | none => "")

/-- An option at the front of its line; options without a letter leave its place blank. -/
def OptionSpec.front (o : OptionSpec) : String :=
  (match o.letter with
    | some c => "-" ++ String.singleton c ++ ", "
    | none => "    ") ++ o.usage

/-- A description with the value that holds when nothing is given. -/
def describe (about : String) (standard : Option String) : String :=
  match standard with
  | none => about
  | some value => (if about = "" then "" else about ++ " ") ++ "[default: " ++ value ++ "]"

/-- A part of a help text: a heading and lines of two columns. -/
def helpPart (heading : String) (lines : List (String × String)) : List String :=
  if lines.isEmpty then []
  else
    let width := (lines.map fun line => line.1.length).foldl max 0
    "" :: heading :: lines.map fun (front, about) => "  " ++ padRight width front ++ "  " ++ about

/-- Options that stand at one place are listed by the letters of their names, and a letter of
their own counts for the name. -/
def OptionSpec.key (o : OptionSpec) : String :=
  match o.letter with
  | some c => String.ofList [c, '0']
  | none => o.name

/-- The options of a verb and the shared ones, by their places. -/
def mergeOptions : List OptionSpec → List OptionSpec → List OptionSpec
  | [], ys => ys
  | xs, [] => xs
  | x :: xs, y :: ys =>
    if x.key < y.key then x :: y :: mergeOptions xs ys else y :: x :: mergeOptions xs ys

/-- How a verb is used. -/
def usageLine (path : List String) (v : Verb) : String :=
  "Usage: " ++ " ".intercalate (path ++ ["[OPTIONS]"] ++
    (v.options.filter (·.required)).map OptionSpec.usage ++
    v.operands.map (fun o => bracketed o.value.label) ++
    (if v.verbs.isEmpty then [] else ["<COMMAND>"]))

/-- What the verb that gives help is for. -/
def helpAbout : String := "Print this message or the help of the given subcommand(s)"

/-- The help on the verb that gives help. -/
def helpOnHelp (path : List String) : String :=
  let verbs := "[COMMAND]..."
  "\n".intercalate ([helpAbout, "", "Usage: " ++ " ".intercalate (path ++ [helpVerb, verbs])] ++
    helpPart "Arguments:" [(verbs, "Print help for the subcommand(s)")]) ++ "\n"

/-- **The help on a verb.** -/
def Grammar.help (g : Grammar) (path : List String) (v : Verb) : String :=
  let isProgram := path.length = 1
  let verbs := v.verbs.map (fun w => (w.name, w.about)) ++
    (if v.verbs.isEmpty then []
     else [(helpVerb, helpAbout)])
  let operands := v.operands.map fun o => (bracketed o.value.label, describe o.about o.value.standard)
  let options := (mergeOptions v.options g.shared).map (fun o =>
      (o.front, describe o.about (o.value.bind (·.standard)))) ++
    [("-h, --help", "Print help")] ++ (if isProgram then [("-V, --version", "Print version")] else [])
  "\n".intercalate ([v.about, "", usageLine path v] ++ helpPart "Commands:" verbs ++
    helpPart "Arguments:" operands ++ helpPart "Options:" options) ++ "\n"

/-- The version of the program. -/
def Grammar.versionText (g : Grammar) : String :=
  g.program.name ++ " " ++ g.version ++ "\n"

end Curation.CommandLine
