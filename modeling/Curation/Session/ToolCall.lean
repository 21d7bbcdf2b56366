/-
# Tool calls

The driver of a session speaks JSON.  A refusal that it may correct comes back to it as an
answer that is not ok; a fatal one is an error of the call.
-/
import Curation.Session.Basic

namespace Curation

namespace ToolCall

/-- The answer to a call that succeeded. -/
def okAnswer (o : ActionOutcome) : Json :=
  .obj [("ok", .bool true), ("result", o.encode)]

/-- The answer to a call that was refused. -/
def errorAnswer (e : CurationError) : Json :=
  .obj [("ok", .bool false),
    ("error", .obj [("kind", .str e.kind), ("message", .str e.message)])]

/-- **One tool call.**  A value that is no action is refused before the session sees it. -/
def invoke (call : Json) : SessionM Json :=
  match Action.decode call with
  | .error cause => return errorAnswer (.validation (.malformedAction cause))
  | .ok action =>
    ExceptT.mk do
      match ← (Session.dispatch action).run with
      | .ok o => return .ok (okAnswer o)
      | .error e => return if e.isFatal then .error e else .ok (errorAnswer e)

/-- One tool call given as a name and parameters; the name wins over a parameter `action`. -/
def invokeNamed (name : String) (params : Json) : SessionM Json :=
  match params with
  | .obj members => invoke (.obj (Json.setMember "action" (.str name) members))
  | .null => invoke (.obj [("action", .str name)])
  | other => return errorAnswer (.validation (.badParameters name other))

end ToolCall
end Curation
