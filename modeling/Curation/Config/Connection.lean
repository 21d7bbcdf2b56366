/-
# Connections

Where the database is.  The environment is asked first, then the configuration, and what
neither says is the local default.
-/
import Curation.Config.Basic
import Curation.Config.Environment

namespace Curation

/-- Who signs in. -/
structure Credentials where
  user : String
  password : String
  /-- The root user rather than a user of the database. -/
  isRoot : Bool
  deriving DecidableEq

/-- **A connection.** -/
structure Connection where
  url : String
  namespace_ : String
  database : String
  credentials : Option Credentials
  deriving DecidableEq

namespace Connection

/-- What the addresses of local stores start with. -/
def localScheme : String := "surrealkv://"

/-- The address of a store that lasts no longer than its run. -/
def memoryUrl : String := "mem://"

/-- The directory of the default store. -/
def standardPath : String := ".memcurate/db"

/-- A connection to an address, with the default names and nobody signing in. -/
def ofUrl (url : String) : Connection := ⟨url, "memcurate", "main", none⟩

/-- A store in a directory. -/
def localStore (path : String) : Connection := ofUrl (localScheme ++ path)

/-- A store that lasts no longer than its run. -/
def inMemory : Connection := ofUrl memoryUrl

/-- The default store. -/
def standard : Connection := localStore standardPath

/-- The variable for the address. -/
def urlVariable : String := "MEMCURATE_DB_URL"

/-- The variable for the namespace. -/
def namespaceVariable : String := "MEMCURATE_DB_NAMESPACE"

/-- The variable for the database. -/
def databaseVariable : String := "MEMCURATE_DB_DATABASE"

/-- The variable for the user. -/
def userVariable : String := "MEMCURATE_DB_USER"

/-- The variable for the password. -/
def passwordVariable : String := "MEMCURATE_DB_PASSWORD"

/-- The variable that makes the user the root user. -/
def rootVariable : String := "MEMCURATE_DB_ROOT"

/-- Who signs in: user and password, both or neither. -/
def credentialsFrom (env : Variables) : Except ConfigFault (Option Credentials) :=
  match env.value? userVariable, env.value? passwordVariable with
  | some user, some password =>
    let isRoot := match env.value? rootVariable with
      | some v => v.toList.map Char.toLower == "true".toList
      | none => false
    .ok (some ⟨user, password, isRoot⟩)
  | some _, none => .error (.notSet passwordVariable)
  | none, some _ => .error (.notSet userVariable)
  | none, none => .ok none

/-- The address that the environment gives; a blank one is none. -/
def urlFrom (env : Variables) : Option String :=
  match env.value? urlVariable with
  | some url => if blankText url then none else some url
  | none => none

/-- **The connection of an environment.** -/
def fromEnvironment (env : Variables) : Except ConfigFault Connection := do
  let base := match urlFrom env with
    | some url => ofUrl url
    | none => standard
  let credentials ← credentialsFrom env
  return { base with
    namespace_ := (env.value? namespaceVariable).getD base.namespace_
    database := (env.value? databaseVariable).getD base.database
    credentials := credentials }

end Connection

/-- What stands where a variable is not set and the configuration says something. -/
def Variables.unlessSet (env : Variables) (name : String) (setting : Option String)
    (value : String) : String :=
  if env.isSet name then value else setting.getD value

/-- **The connection of a run.**  A setting of the configuration counts only where its
variable is not set at all. -/
def Config.connection (c : Config) (env : Variables) : Except CurationError Connection := do
  let base ← (Connection.fromEnvironment env).mapError .config
  return { base with
    url := env.unlessSet Connection.urlVariable c.storage.url base.url
    namespace_ := env.unlessSet Connection.namespaceVariable c.storage.namespace_ base.namespace_
    database := env.unlessSet Connection.databaseVariable c.storage.database base.database }

end Curation
