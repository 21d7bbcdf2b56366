/-
# Addresses

What the address of a connection stands for: a store that is gone when its run ends, or one
that is kept in a directory.  A passing store has two spellings and no others.  The address of
a directory is a scheme and a path; schemes are compared letter by letter, so neither capitals
nor blanks are passed over.
-/
import Curation.Config.Connection

namespace Curation

/-- What an address stands for. -/
inductive Address where
  /-- A store that lasts no longer than its run. -/
  | passing
  | directory (path : String)
  deriving DecidableEq

namespace Address

/-- The addresses of a passing store. -/
def passingUrls : List String := ["memory", Connection.memoryUrl]

/-- The schemes of a store in a directory.  The second one asks the store to keep old versions
of its rows as well; what can be read from it is the same. -/
def directorySchemes : List String := ["surrealkv", "surrealkv+versioned"]

/-- A scheme and what follows it; where there are no slashes, a colon divides as well. -/
def split (url : String) : String × String :=
  match url.splitOn "://" with
  | scheme :: first :: rest => (scheme, "://".intercalate (first :: rest))
  | _ => match url.splitOn ":" with
    | scheme :: rest => (scheme, ":".intercalate rest)
    | [] => (url, "")

/-- **What an address stands for**, if a store can be opened at it. -/
def ofUrl? (url : String) : Option Address :=
  if passingUrls.contains url then some .passing
  else
    let (scheme, path) := split url
    if directorySchemes.contains scheme then some (.directory path) else none

end Address

/-- What a connection stands for.  Nobody can sign in to a store of one's own. -/
def Connection.address? (c : Connection) : Option Address :=
  match c.credentials with
  | none => Address.ofUrl? c.url
  | some _ => none

end Curation
