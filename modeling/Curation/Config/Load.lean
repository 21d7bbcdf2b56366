/-
# Loading a configuration

The file that was asked for, or else the one that the environment names, or else the one in
the working directory, or else the defaults.  After that the environment may set the threshold.
-/
import Curation.Config.Environment
import Curation.Config.Basic
import Curation.Toml.Document

namespace Curation

/-- How files are read, in whatever way a run reads them. -/
structure Files (m : Type → Type) where
  read : String → m (Except FileFault String)
  /-- Whether there is anything at a path. -/
  isThere : String → m Bool

namespace Config

/-- The variable that names the configuration file. -/
def fileVariable : String := "MEMCURATE_CONFIG"

/-- The variable that sets the threshold. -/
def thresholdVariable : String := "MEMCURATE_THRESHOLD"

/-- The configuration file in the working directory. -/
def standardFile : String := "memcurate.toml"

/-- How many settings a section has; a section may be given as the list of its settings, and
in a document what is left over is passed over. -/
def sectionArity : String → Nat
  | "session" => 5
  | "tokens" => 1
  | "extraction" => 1
  | "storage" => 3
  | _ => 0

/-- A document with its list sections cut to their settings. -/
def cutSections : Json → Json
  | .obj members =>
    .obj (members.map fun (name, value) =>
      match value with
      | .arr items => (name, .arr (items.take (sectionArity name)))
      | other => (name, other))
  | other => other

/-- **Reads and checks a configuration.** -/
def ofText (text : String) : Except CurationError Config :=
  match Toml.read? text with
  | none => .error (.config .unparsable)
  | some document =>
    match Config.decode (cutSections document) with
    | .error _ => .error (.config .unparsable)
    | .ok c => do
      c.validate.mapError .config
      return c

/-- What the environment sets, checked again. -/
def withEnvironment (c : Config) (env : Environment) : Except CurationError Config :=
  match env.value? thresholdVariable with
  | none => .ok c
  | some raw =>
    match Binary64.read? (trim raw) with
    | none => .error (.config (.notANumber thresholdVariable raw))
    | some value => do
      let c := { c with session := { c.session with defaultThreshold := value } }
      c.validate.mapError .config
      return c

variable {m : Type → Type} [Monad m]

/-- Reads a configuration file. -/
def ofFile (files : Files m) (path : String) : m (Except CurationError Config) := do
  match ← files.read path with
  | .error fault => return .error (.config (.unreadable path fault))
  | .ok text => return ofText text

/-- **Loads the configuration of a run.** -/
def load (files : Files m) (env : Environment) (explicit : Option String) :
    m (Except CurationError Config) := do
  let base ←
    match explicit.orElse fun _ => env.value? fileVariable with
    | some path => ofFile files path
    | none =>
      if ← files.isThere standardFile then ofFile files standardFile
      else pure (.ok standard)
  return base.bind fun c => c.withEnvironment env

end Config
end Curation
