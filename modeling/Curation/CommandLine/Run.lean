/-
# Running commands

What each command does to the archive and what it prints.  What was printed before a failure
stays printed, and what was changed stays changed.
-/
import Curation.CommandLine.Command
import Curation.CommandLine.Script
import Curation.Session.ToolCall
import Curation.Session.Recovery

namespace Curation.CommandLine

/-- A command under way, with the text printed so far. -/
abbrev CommandM := ExceptT Failure (StateT String (StateM Archive))

namespace CommandM

/-- Prints a line. -/
def print (line : String) : CommandM Unit :=
  modify fun printed => printed ++ line ++ "\n"

/-- A call on the archive, at a stage. -/
def call {α : Type} (stage : Option Stage) (x : CurationM α) : CommandM α :=
  ExceptT.mk do
    match ← liftM (x.run : StateM Archive _) with
    | .ok a => return .ok a
    | .error e => return .error (.refused stage e)

/-- A call on a session, at a stage; gives the session as it is afterwards. -/
def onSession {α : Type} (stage : Option Stage) (s : Session) (x : SessionM α) :
    CommandM (α × Session) :=
  ExceptT.mk do
    match ← liftM (x.run.run s : StateM Archive _) with
    | (.ok a, s) => return .ok (a, s)
    | (.error e, _) => return .error (.refused stage e)

/-- Prints items one a line, or a line that says that there are none. -/
def printAll {α : Type} (line : α → String) (none_ : String) (items : List α) : CommandM Unit :=
  if items.isEmpty then print none_ else items.forM fun a => print (line a)

end CommandM

open CommandM

/-! ## 1. Lines -/

/-- How many characters of a text a listing shows. -/
def previewLength : Nat := 60

/-- **The first line of a text**, cut to a width; dots show that there is more. -/
def preview (width : Nat) (content : String) : String :=
  let lines := textLines content
  let first := lines.headD ""
  if width < first.length || 1 < lines.length then
    String.ofList (first.toList.take width) ++ "..."
  else first

/-- What stands behind a memory in a listing. -/
def memoryMarks (m : Memory) : String :=
  let marks := (if m.constitutional then ["protected"] else []) ++
    (if m.tombstoned then ["tombstoned"] else [])
  if marks.isEmpty then "" else "  [" ++ ", ".intercalate marks ++ "]"

/-- A memory in a listing. -/
def memoryLine (meter : TokenMeter) (m : Memory) : String :=
  m.id.text ++ "  " ++ m.kind.name ++ " " ++
    padLeft 5 (toString (meter.count m.content).toNat) ++ " tok  " ++
    preview previewLength m.content ++ memoryMarks m

/-- An audit entry in a listing. -/
def entryLine (e : AuditEntry) : String :=
  e.createdAt.shortText ++ " #" ++ padRight 3 (toString e.seq) ++ " " ++ e.action.name ++
    " session " ++ e.session.text ++ "  [" ++ ", ".intercalate (e.subject.map (·.text)) ++ "]" ++
    (if e.verifies then "" else "  DIGEST MISMATCH")

/-- A recovered session in a listing. -/
def recoveredLine (session : SessionId) : Recovered → String
  | .alreadyClosed action => session.text ++ ": already closed (" ++ action.name ++ ")"
  | .rolledBack reverted stats =>
    session.text ++ ": rolled back " ++ toString reverted ++ " entries (" ++ stats.text ++ ")"

/-! ## 2. Sessions from scripts -/

/-- The summary of a session whose script does not complete it. -/
def standingSummary : String := "refine script ended without an explicit complete"

/-- Whether an answer is that of a session that was completed. -/
def isCompletion (answer : Json) : Bool :=
  (answer.get? "result").bind (·.get? "outcome") == some (.str "completed")

/-- Makes the calls of a script one after the other, as long as the session is active, and prints
their answers.  The answer of a completed session is kept instead, after the one that was kept
before; the one that is kept in the end is the result, if there is one. -/
def makeCalls (completion : Option Json) (s : Session) :
    List Json → CommandM (Option Json × Session)
  | [] => return (completion, s)
  | call :: calls => do
    if s.status != .active then return (completion, s)
    let (expired, s) ← onSession none s Session.finishExpired
    match expired with
    | some outcome =>
      return (some (.obj [("ok", .bool true), ("result", outcome.encode)]), s)
    | none =>
      let (answer, s) ← onSession (some (.runSession s.params.session)) s (ToolCall.invoke call)
      if isCompletion answer then makeCalls (some answer) s calls
      else
        print answer.compact
        makeCalls completion s calls

/-- **Runs a session from a script**, and completes it if the script did not; gives the answer
of the completion. -/
def runScript (c : Config) (owner : OwnerId) (session : Option SessionId) (script : String) :
    CommandM Json := do
  let calls ← MonadExcept.ofExcept (Script.read script)
  let s ← call (some .beginSession) (match session with
    | some id => Session.beginAs c owner id
    | none => Session.begin_ c owner)
  let (completion, s) ← makeCalls none s calls
  match completion with
  | some answer => return answer
  | none =>
    let (answer, _) ← onSession (some (.runSession s.params.session)) s
      (ToolCall.invokeNamed "complete" (.obj [("summary", .str standingSummary)]))
    return answer

/-! ## 3. Recovering sessions -/

/-- Recovers one session and says what came of it. -/
def recoverOne (c : Config) (owner : OwnerId) (session : SessionId) : CommandM Recovered := do
  let recovered ← call (some (.recover session)) (Recovery.reconcile c owner session)
  print (recoveredLine session recovered)
  return recovered

/-- **Recovers sessions**, the one that is named or else all open ones, one after the other. -/
def recoverAll (c : Config) (owner : OwnerId) (session : Option SessionId) :
    CommandM (List (SessionId × Recovered)) := do
  let sessions ← match session with
    | some id => pure [id]
    | none => call none (Archive.openSessions owner)
  if sessions.isEmpty then print ("No open sessions for \x27" ++ owner.text ++ "\x27")
  sessions.mapM fun id => do
    let recovered ← recoverOne c owner id
    return (id, recovered)

/-! ## 4. Commands -/

/-- The file that a command takes its script from. -/
def Command.script? : Command → Option String
  | .refine _ path _ => some path
  | _ => none

/-- **Runs a command**, with the text of its script if it has one. -/
def Command.run (c : Config) (script : String) : Command → CommandM Unit
  | .addMemory owner content kind => do
    let m ← call (some .addMemory) (c.rules.create owner content kind)
    print m.id.text
  | .listMemories owner kind all => do
    let memories ← call none (Archive.listMemories owner ⟨kind, all⟩)
    printAll (memoryLine c.meter) ("No memories found for \x27" ++ owner.text ++ "\x27") memories
  | .showMemory owner id => do
    let m ← call (some (.showMemory id)) (Archive.getOwned owner id)
    print m.encode.spread
  | .usage owner kind => do
    let mass ← call none (c.rules.usage owner kind)
    print (toString mass.toNat ++ " " ++ kind.name ++ " tokens")
  | .getThreshold owner => do
    let settings ← call none (Archive.ownerSettings owner)
    let threshold ← call none (Archive.threshold c owner)
    print ("Threshold: " ++ threshold.text ++ (if settings.threshold.isNone then " (default)" else ""))
    print ("Last refined: " ++ (match settings.lastRefinedAt with
      | some t => t.shortText ++ " UTC"
      | none => "never"))
  | .setThreshold owner value => do
    let settings ← call (some .setThreshold) (Archive.chooseThreshold owner value)
    print ("Threshold for \x27" ++ owner.text ++ "\x27 set to " ++
      Layout.plain.text ((settings.threshold.map (·.value)).getD value))
  | .refine owner _ session => do
    let answer ← runScript c owner session script
    print answer.spread
  | .auditSession session => do
    let entries ← call none (Archive.forSession session)
    printAll entryLine ("No audit entries for session \x27" ++ session.text ++ "\x27") entries
  | .auditOwner owner => do
    let entries ← call none (Archive.forOwner owner)
    printAll entryLine ("No audit entries for \x27" ++ owner.text ++ "\x27") entries
  | .reconcile owner session => do
    let _ ← recoverAll c owner session

end Curation.CommandLine
