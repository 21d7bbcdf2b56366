/-
# TOML tables

A document builds a tree of tables.  A table is *implied* while only headers or keys of
tables inside it have been seen, and *dotted* when a dotted key made it.  These two marks
decide what may still be added: nothing is ever defined twice.
-/
import Curation.Json.Basic

namespace Curation.Toml

/-- A node of the tree. -/
inductive Node where
  | value (json : Json)
  | table (implied dotted : Bool) (members : List (String × Node))
  /-- Tables under one name, the last one first. -/
  | tables (items : List (List (String × Node)))

mutual
/-- A node as a value. -/
def Node.json : Node → Json
  | .value j => j
  | .table _ _ members => .obj (membersJson members)
  | .tables items => .arr (tablesJson items).reverse

/-- Members as the members of an object. -/
def membersJson : List (String × Node) → List (String × Json)
  | [] => []
  | (name, node) :: rest => (name, node.json) :: membersJson rest

/-- Tables as objects. -/
def tablesJson : List (List (String × Node)) → List Json
  | [] => []
  | members :: rest => .obj (membersJson members) :: tablesJson rest
end

/-- The node of a name. -/
def node? (name : String) (members : List (String × Node)) : Option Node :=
  (members.find? (·.1 == name)).map (·.2)

/-- Sets the node of a name. -/
def setNode (name : String) (node : Node) : List (String × Node) → List (String × Node)
  | [] => [(name, node)]
  | (k, v) :: rest => if k = name then (k, node) :: rest else (k, v) :: setNode name node rest

/-- Takes the node of a name away. -/
def dropNode (name : String) (members : List (String × Node)) : List (String × Node) :=
  members.filter (·.1 != name)

/-- **Walks down a path** and changes the table at its end, tables that are missing being made
on the way.  `byKey` says whether a dotted key leads the way: it may not enter a table that a
header defined.  The change is told whether a dotted key made the table. -/
def descend (byKey : Bool) (change : Bool → List (String × Node) → Option (List (String × Node)))
    (dotted : Bool) : List String → List (String × Node) → Option (List (String × Node))
  | [], members => change dotted members
  | name :: path, members =>
    match node? name members with
    | none =>
      (descend byKey change byKey path []).map fun inner =>
        setNode name (.table true byKey inner) members
    | some (.value _) => none
    | some (.tables []) => none
    | some (.tables (last :: before)) =>
      (descend byKey change false path last).map fun inner =>
        setNode name (.tables (inner :: before)) members
    | some (.table implied dotted inner) =>
      if byKey && !implied then none
      else
        (descend byKey change dotted path inner).map fun inner =>
          setNode name (.table implied dotted inner) members

/-- **Adds a pair** to a table.  The path of a dotted key must end in a table that such keys
made, and the last part must be new. -/
def insertPair (key : List String) (value : Json) (members : List (String × Node)) :
    Option (List (String × Node)) :=
  let path := key.dropLast
  let name := key.getLastD ""
  descend true
    (fun dotted inner =>
      if dotted == path.isEmpty then none
      else
        match node? name inner with
        | some _ => none
        | none => some (setNode name (.value value) inner))
    false path members

end Curation.Toml
