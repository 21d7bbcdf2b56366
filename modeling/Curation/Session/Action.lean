/-
# Actions and outcomes

The closed vocabulary of a session: what the driver may ask for, and what it is told.  A call
is an object whose member `action` names the action, or a list that starts with the name.
-/
import Curation.Memory.Basic
import Curation.Audit.Action

namespace Curation

/-! ## 1. Actions -/

/-- What the driver of a session may ask for. -/
inductive Action where
  | search (query : String)
  | update (id : MemoryId) (content : String)
  | delete (id : MemoryId)
  | consolidate (ids : List MemoryId) (content : String)
  | protect (id : MemoryId)
  | unprotect (id : MemoryId)
  | complete (summary : String)
  deriving DecidableEq

namespace Action

/-- The name of an action. -/
def name : Action → String
  | .search _ => "search"
  | .update _ _ => "update"
  | .delete _ => "delete"
  | .consolidate _ _ => "consolidate"
  | .protect _ => "protect"
  | .unprotect _ => "unprotect"
  | .complete _ => "complete"

/-- Whether the action writes a forward entry when it succeeds. -/
def isMutating : Action → Bool
  | .search _ | .complete _ => false
  | _ => true

/-- How calls of one name are read. -/
structure Form where
  name : String
  title : String
  fields : Fields Action

/-- The forms of all calls. -/
def forms : List Form :=
  [⟨"search", "Search", Action.search <$> .field "query" Decoder.text⟩,
    ⟨"update", "Update",
      Action.update <$> .field "id" MemoryId.decode <*> .field "content" Decoder.text⟩,
    ⟨"delete", "Delete", Action.delete <$> .field "id" MemoryId.decode⟩,
    ⟨"consolidate", "Consolidate",
      Action.consolidate <$> .field "ids" (Decoder.list MemoryId.decode)
        <*> .field "content" Decoder.text⟩,
    ⟨"protect", "Protect", Action.protect <$> .field "id" MemoryId.decode⟩,
    ⟨"unprotect", "Unprotect", Action.unprotect <$> .field "id" MemoryId.decode⟩,
    ⟨"complete", "Complete", Action.complete <$> .field "summary" Decoder.text⟩]

/-- The form that a name calls for. -/
def formOf : Json → Except DecodeError Form
  | .str s =>
    match forms.find? (·.name == s) with
    | some form => .ok form
    | none => .error (.unknownVariant s (forms.map (·.name)))
  | j => .error (.wrongType j.described "variant identifier")

/-- Reads the fields of a call that was given as a list. -/
def ofItems (form : Form) (items : List Json) : Except DecodeError Action :=
  match form.fields.item 0 items with
  | .ok (a, []) => .ok a
  | .ok _ => .error (.wrongLength items.length (elements form.fields.arity ++ " in sequence"))
  | .error (.bad e) => .error e
  | .error (.short n) =>
    .error (.wrongLength n
      ("struct variant Action::" ++ form.title ++ " with " ++ elements form.fields.arity))

/-- **Decodes a call.** -/
def decode : Decoder Action
  | .obj members =>
    match members.find? (·.1 == "action") with
    | none => .error (.missingField "action")
    | some (_, tag) => do
      let form ← formOf tag
      Decoder.members form.fields (members.filter (·.1 != "action"))
  | .arr [] => .error (.missingField "action")
  | .arr (tag :: items) => do
    let form ← formOf tag
    ofItems form items
  | j => .error (.wrongType j.described "internally tagged enum Action")

/-- A list of memory ids as a value. -/
def idsJson (ids : List MemoryId) : Json := .arr (ids.map fun id => .str id.text)

/-- The fields of a call. -/
def encodeFields : Action → List (String × Json)
  | .search query => [("query", .str query)]
  | .update id content => [("id", .str id.text), ("content", .str content)]
  | .delete id => [("id", .str id.text)]
  | .consolidate ids content => [("ids", idsJson ids), ("content", .str content)]
  | .protect id => [("id", .str id.text)]
  | .unprotect id => [("id", .str id.text)]
  | .complete summary => [("summary", .str summary)]

/-- A call as a value. -/
def encode (a : Action) : Json :=
  .obj (("action", .str a.name) :: a.encodeFields)

end Action

/-! ## 2. The state of a session in a word -/

/-- The state of a session. -/
inductive SessionStatus where
  | active
  /-- While `complete` is at work; never seen between calls. -/
  | completing
  | committed
  | rolledBack
  /-- The rollback could not be written. -/
  | rollbackFailed
  deriving DecidableEq, Inhabited

namespace SessionStatus

/-- All states. -/
def all : List SessionStatus := [.active, .completing, .committed, .rolledBack, .rollbackFailed]

/-- The name of a state. -/
def name : SessionStatus → String
  | .active => "active"
  | .completing => "completing"
  | .committed => "committed"
  | .rolledBack => "rolled_back"
  | .rollbackFailed => "rollback_failed"

/-- Whether a session in this state is over. -/
def isTerminal : SessionStatus → Bool
  | .committed | .rolledBack | .rollbackFailed => true
  | .active | .completing => false

/-- Decodes a state. -/
def decode : Decoder SessionStatus := Decoder.variant (all.map fun s => (s.name, s))

/-- A state as a value. -/
def encode (s : SessionStatus) : Json := .str s.name

end SessionStatus

/-! ## 3. Outcomes -/

/-- A memory as a search shows it. -/
structure SearchHit where
  id : MemoryId
  content : String
  kind : MemoryKind
  constitutional : Bool
  deriving DecidableEq

namespace SearchHit

/-- What a search shows of a memory. -/
def ofMemory (m : Memory) : SearchHit := ⟨m.id, m.content, m.kind, m.constitutional⟩

/-- Decodes a hit. -/
def decode : Decoder SearchHit :=
  Decoder.record "SearchHit"
    (SearchHit.mk <$> .field "id" MemoryId.decode <*> .field "content" Decoder.text
      <*> .field "kind" MemoryKind.decode <*> .field "constitutional" Decoder.bool)

/-- A hit as a value. -/
def encode (h : SearchHit) : Json :=
  .obj [("id", .str h.id.text), ("content", .str h.content), ("kind", h.kind.encode),
    ("constitutional", .bool h.constitutional)]

end SearchHit

/-- How a session ended. -/
structure SessionOutcome where
  session : SessionId
  status : SessionStatus
  stats : SessionStats
  preMass : Nat
  postMass : Nat
  /-- The share that was kept; absent when there was nothing to keep. -/
  ratio : Option Binary64
  threshold : Binary64
  /-- The driver's summary of a commit, the reason of a rollback. -/
  message : String
  revertedEntries : Nat
  deriving DecidableEq

/-- The members of an outcome. -/
def SessionOutcome.members (o : SessionOutcome) : List (String × Json) :=
  [("session_id", .str o.session.text), ("status", o.status.encode), ("stats", o.stats.encode),
    ("pre_session_mass", .ofNat o.preMass), ("post_session_mass", .ofNat o.postMass),
    ("ratio", .ofOption .ofDouble o.ratio), ("threshold", .ofDouble o.threshold),
    ("message", .str o.message), ("reverted_entries", .ofNat o.revertedEntries)]

/-- An outcome as a value. -/
def SessionOutcome.encode (o : SessionOutcome) : Json := .obj o.members

/-- What the driver is told of an action that succeeded. -/
inductive ActionOutcome where
  | found (hits : List SearchHit)
  | updated (id : MemoryId)
  | deleted (id : MemoryId)
  | consolidated (id : MemoryId) (merged : List MemoryId)
  | protected_ (id : MemoryId)
  | unprotected (id : MemoryId)
  | completed (outcome : SessionOutcome)
  deriving DecidableEq

namespace ActionOutcome

/-- The members of an outcome, after its name. -/
def members : ActionOutcome → List (String × Json)
  | .found hits => [("hits", .arr (hits.map SearchHit.encode))]
  | .updated id | .deleted id | .protected_ id | .unprotected id => [("id", .str id.text)]
  | .consolidated id merged => [("id", .str id.text), ("merged", Action.idsJson merged)]
  | .completed outcome => outcome.members

/-- The name of an outcome. -/
def name : ActionOutcome → String
  | .found _ => "found"
  | .updated _ => "updated"
  | .deleted _ => "deleted"
  | .consolidated _ _ => "consolidated"
  | .protected_ _ => "protected"
  | .unprotected _ => "unprotected"
  | .completed _ => "completed"

/-- An outcome as a value. -/
def encode (o : ActionOutcome) : Json :=
  .obj (("outcome", .str o.name) :: o.members)

end ActionOutcome
end Curation
