/-
# What a curation call refuses

Every reason for which a call turns a request down, above the reasons of the store.  A reason
is data; `message` words it, `kind` names its sort, and `isFatal` says whether the one who
drives a session may go on.
-/
import Curation.Record.Decoder
import Curation.Audit.Action
import Curation.Json.Printer

namespace Curation

/-! ## 1. Requests that are not valid -/

/-- Why a request is not valid. -/
inductive Invalid where
  | blankContent
  | longContent (length limit : Nat)
  | blankQuery
  | fewSources
  | repeatedSource
  | alreadyProtected (id : MemoryId)
  | notProtected (id : MemoryId)
  | blankSummary
  | blankSessionId
  | usedSessionId (id : SessionId)
  | noTrail (session : SessionId) (owner : OwnerId)
  | malformedAction (cause : DecodeError)
  | badParameters (name : String) (given : Json)
  | setting (cause : StorageError)
  | other (text : String)
  deriving DecidableEq

/-- The wording of an invalid request. -/
def Invalid.message : Invalid → String
  | .blankContent => "memory content must not be empty"
  | .longContent length limit =>
    "memory content is " ++ toString length ++ " characters; the limit is " ++ toString limit
  | .blankQuery => "search query must not be empty"
  | .fewSources => "consolidate needs at least two memory ids"
  | .repeatedSource => "consolidate ids must be distinct"
  | .alreadyProtected id => "memory " ++ id.text ++ " is already protected"
  | .notProtected id => "memory " ++ id.text ++ " is not protected"
  | .blankSummary => "complete requires a summary"
  | .blankSessionId => "session id must not be empty"
  | .usedSessionId id => "session id " ++ id.text ++ " already has audit entries"
  | .noTrail session owner =>
    "no audit trail for session " ++ session.text ++ " and owner " ++ owner.text
  | .malformedAction cause => "malformed action: " ++ cause.message
  | .badParameters name given =>
    "parameters for " ++ name ++ " must be an object, got " ++ given.compact
  | .setting cause => cause.message
  | .other text => text

/-! ## 2. Files and configuration -/

/-- Why a file could not be read. -/
inductive FileFault where
  | missing
  | isDirectory
  | notDirectory
  | longName
  /-- The name holds the character that ends names. -/
  | nullInName
  | notText
  | other (text : String)
  deriving DecidableEq

/-- The wording of a file fault. -/
def FileFault.message : FileFault → String
  | .missing => "No such file or directory (os error 2)"
  | .isDirectory => "Is a directory (os error 21)"
  | .notDirectory => "Not a directory (os error 20)"
  | .longName => "File name too long (os error 36)"
  | .nullInName => "file name contained an unexpected NUL byte"
  | .notText => "stream did not contain valid UTF-8"
  | .other text => text

/-- Why a configuration is not usable. -/
inductive ConfigFault where
  /-- The text is not a configuration. -/
  | unparsable
  | unreadable (path : String) (cause : FileFault)
  | threshold (cause : StorageError)
  | notPositive (setting : String)
  | notPositiveNumber (setting : String)
  | notANumber (name raw : String)
  | notSet (name : String)
  | other (text : String)
  deriving DecidableEq

/-- The wording of a configuration fault. -/
def ConfigFault.message : ConfigFault → String
  | .unparsable => "Failed to parse config"
  | .unreadable path cause => "Failed to read config file " ++ path ++ ": " ++ cause.message
  | .threshold cause => cause.message
  | .notPositive setting => setting ++ " must be positive"
  | .notPositiveNumber setting => setting ++ " must be a positive number"
  | .notANumber name raw => name ++ " is not a number: " ++ raw
  | .notSet name => name ++ " not set"
  | .other text => text

/-! ## 3. Trails that cannot be undone -/

/-- Why an audit entry cannot be undone. -/
inductive TrailFault where
  | digestMismatch
  | closed
  | subjectCount (found : Nat)
  | payload (action : AuditAction) (cause : DecodeError)
  | outOfOrder
  | other (text : String)
  deriving DecidableEq

/-- The wording of a trail fault. -/
def TrailFault.message : TrailFault → String
  | .digestMismatch => "payload digest mismatch"
  | .closed => "session is already closed"
  | .subjectCount found => "expected one subject, found " ++ toString found
  | .payload action cause => action.name ++ " payload: " ++ cause.message
  | .outOfOrder => "trail is not in most-recent-first order"
  | .other text => text

/-! ## 4. Curation errors -/

/-- **What a curation call refuses.** -/
inductive CurationError where
  | validation (cause : Invalid)
  | notFound (id : MemoryId)
  | protectedMemory (id : MemoryId)
  | sessionClosed (session : SessionId) (status : String)
  | deadlineExceeded (session : SessionId)
  /-- The one batch of a rollback was refused, so nothing of it was written. -/
  | rollbackFailed (session : SessionId) (reason : String)
  | corruptTrail (entry : EntryId) (fault : TrailFault)
  | config (fault : ConfigFault)
  | storage (cause : StorageError)
  | serialization (cause : DecodeError)
  | io (detail : String)
  /-- The deadline of a session lies past the last second of the calendar. -/
  | beyondCalendar
  /-- A sum of tokens does not fit a word. -/
  | sumOverflow
  deriving DecidableEq

namespace CurationError

/-- The word for the sort of refusal. -/
def kind : CurationError → String
  | .validation _ => "validation"
  | .notFound _ => "not_found"
  | .protectedMemory _ => "protected_memory"
  | .sessionClosed _ _ => "session_closed"
  | .deadlineExceeded _ => "deadline_exceeded"
  | .rollbackFailed _ _ => "rollback_failed"
  | .corruptTrail _ _ => "corrupt_audit_trail"
  | .config _ => "config"
  | .storage _ => "storage"
  | .serialization _ => "serialization"
  | .io _ => "io"
  | .beyondCalendar | .sumOverflow => "panic"

/-- The wording of a refusal. -/
def message : CurationError → String
  | .validation cause => "validation error: " ++ cause.message
  | .notFound id => "memory not found: " ++ id.text
  | .protectedMemory id => "memory " ++ id.text ++ " is constitutional; unprotect it first"
  | .sessionClosed session status => "session " ++ session.text ++ " is closed (" ++ status ++ ")"
  | .deadlineExceeded session =>
    "session " ++ session.text ++ " passed its deadline; only complete is accepted"
  | .rollbackFailed session reason =>
    "rollback of session " ++ session.text ++ " failed: " ++ reason
  | .corruptTrail entry fault =>
    "audit entry " ++ entry.text ++ " cannot be compensated: " ++ fault.message
  | .config fault => "configuration error: " ++ fault.message
  | .storage cause => "storage error: " ++ cause.message
  | .serialization cause => "serialization error: " ++ cause.message
  | .io detail => "io error: " ++ detail
  | .beyondCalendar => ticked "DateTime + TimeDelta" ++ " overflowed"
  | .sumOverflow => "attempt to add with overflow"

/-- **Fatal.**  Such a refusal goes to the operator; any other is an answer to the driver of a
session, who may correct the call and go on. -/
def isFatal : CurationError → Bool
  | .validation _ | .notFound _ | .protectedMemory _ | .sessionClosed _ _
  | .deadlineExceeded _ => false
  | _ => true

/-- **A panic** is not an answer: it breaks off the call, and whoever waited for the answer goes
down with it. -/
def isPanic : CurationError → Bool
  | .beyondCalendar | .sumOverflow => true
  | _ => false

/-- The refusal and what lies behind it, outermost first. -/
def chain (e : CurationError) : List String :=
  e.message ::
    (match e with
     | .storage cause => [cause.message]
     | .serialization cause => [cause.message]
     | .io detail => [detail]
     | _ => [])

end CurationError
end Curation
