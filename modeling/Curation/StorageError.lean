/-
# What a store refuses

Every reason for which a store, or one of the values kept in it, turns a request down.  The
reasons are data; `message` words them.
-/
import Curation.Ident
import Curation.Number.Decimal

namespace Curation

/-- The calls that a store answers. -/
inductive StoreCall where
  | insertMemory
  | getMemory
  | listMemories
  | append
  | forSession
  | forOwner
  | ownerSettings
  | setThreshold
  | applyBatch
  deriving DecidableEq

namespace StoreCall

/-- All calls. -/
def all : List StoreCall :=
  [.insertMemory, .getMemory, .listMemories, .append, .forSession, .forOwner, .ownerSettings,
    .setThreshold, .applyBatch]

/-- The name of a call, as messages give it. -/
def name : StoreCall → String
  | .insertMemory => "insert_memory"
  | .getMemory => "get_memory"
  | .listMemories => "list_memories"
  | .append => "append"
  | .forSession => "for_session"
  | .forOwner => "for_owner"
  | .ownerSettings => "owner_settings"
  | .setThreshold => "set_threshold"
  | .applyBatch => "apply_batch"

/-- The call of a name. -/
def ofName? (name : String) : Option StoreCall :=
  all.find? (·.name == name)

end StoreCall

/-- Failures of the database itself. -/
inductive DatabaseError where
  | connection (detail : String)
  | query (detail : String)
  | serialization (detail : String)
  | schemaSetup (detail : String)
  deriving DecidableEq

/-- The wording of a database failure. -/
def DatabaseError.message : DatabaseError → String
  | .connection detail => "Database connection failed: " ++ detail
  | .query detail => "Database query failed: " ++ detail
  | .serialization detail => "Serialization failed: " ++ detail
  | .schemaSetup detail => "Schema setup failed: " ++ detail

/-- Why a setting is not acceptable. -/
inductive SettingFault where
  /-- A threshold outside `(0, 1]`. -/
  | threshold (value : Binary64)
  /-- A memory kind that does not exist. -/
  | unknownKind (text : String)
  | other (text : String)
  deriving DecidableEq

/-- The wording of a setting fault. -/
def SettingFault.message : SettingFault → String
  | .threshold value => "threshold must be in (0, 1], got " ++ Layout.plain.text value
  | .unknownKind text => "unknown memory kind: " ++ text
  | .other text => text

/-- Why the backend of a store failed. -/
inductive BackendFault where
  /-- A text that is not a digest stood where a digest belongs. -/
  | invalidDigest (text : String)
  /-- An armed fault struck this call. -/
  | injected (call : StoreCall)
  /-- The audit table already has an entry of this name, or this place in its session. -/
  | repeatedEntry (entry : EntryId)
  /-- A row cannot be named by the empty owner. -/
  | unnamedOwner
  | database (cause : DatabaseError)
  | other (text : String)
  deriving DecidableEq

/-- The wording of a backend fault. -/
def BackendFault.message : BackendFault → String
  | .invalidDigest text => "invalid digest: " ++ text
  | .injected call => "injected fault in " ++ call.name
  | .repeatedEntry entry => "audit entry already exists: " ++ entry.text
  | .unnamedOwner => "owner settings need an owner id"
  | .database cause => cause.message
  | .other text => text

/-- **What a store refuses.** -/
inductive StorageError where
  | memoryNotFound (id : MemoryId)
  | duplicateMemory (id : MemoryId)
  | invalidSetting (fault : SettingFault)
  /-- An op of a batch failed, and the batch with it. -/
  | opFailed (index : Nat) (cause : StorageError)
  /-- An armed fault struck before an op of a batch. -/
  | opInjected (index : Nat) (label : String)
  | batchAborted (reason : String)
  | backend (fault : BackendFault)
  deriving DecidableEq

namespace StorageError

/-- The word for the sort of refusal. -/
def kind : StorageError → String
  | .memoryNotFound _ => "memory_not_found"
  | .duplicateMemory _ => "duplicate_memory"
  | .invalidSetting _ => "invalid_setting"
  | .opFailed _ _ | .opInjected _ _ | .batchAborted _ => "batch_aborted"
  | .backend _ => "backend"

/-- The wording of a refusal. -/
def message : StorageError → String
  | .memoryNotFound id => "memory not found: " ++ id.text
  | .duplicateMemory id => "memory already exists: " ++ id.text
  | .invalidSetting fault => "invalid setting: " ++ fault.message
  | .opFailed index cause =>
    "write batch aborted: op " ++ toString index ++ ": " ++ cause.message
  | .opInjected index label =>
    "write batch aborted: injected failure at op " ++ toString index ++ " (" ++ label ++ ")"
  | .batchAborted reason => "write batch aborted: " ++ reason
  | .backend fault => "storage backend error: " ++ fault.message

end StorageError
end Curation
