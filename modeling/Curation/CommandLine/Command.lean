/-
# Commands

The commands that an operator may give, the grammar that spells them, and the way from words
to a command.
-/
import Curation.CommandLine.Grammar

namespace Curation.CommandLine

/-- **A command.** -/
inductive Command where
  | addMemory (owner : OwnerId) (content : String) (kind : MemoryKind)
  | listMemories (owner : OwnerId) (kind : Option MemoryKind) (all : Bool)
  | showMemory (owner : OwnerId) (id : MemoryId)
  | usage (owner : OwnerId) (kind : MemoryKind)
  | getThreshold (owner : OwnerId)
  | setThreshold (owner : OwnerId) (value : Binary64)
  /-- Runs a session from a script of tool calls. -/
  | refine (owner : OwnerId) (script : String) (session : Option SessionId)
  | auditSession (session : SessionId)
  | auditOwner (owner : OwnerId)
  /-- Recovers one session, or all open ones. -/
  | reconcile (owner : OwnerId) (session : Option SessionId)
  deriving DecidableEq

/-- A command and the configuration file to run it with. -/
structure Invocation where
  config : Option String
  command : Command
  deriving DecidableEq

/-! ## 1. The grammar -/

/-- A flag. -/
def flag (name : String) (letter : Option Char) (about : String) : OptionSpec :=
  ⟨name, letter, none, false, about⟩

/-- An option with a value. -/
def valued (name label : String) (sort : ValueSort) (required : Bool) (about : String) :
    OptionSpec :=
  ⟨name, none, some ⟨label, sort, none⟩, required, about⟩

/-- The option that names the owner. -/
def ownerOption : OptionSpec := valued "owner" "OWNER" .text true ""

/-- The option that names a kind, which is core where nothing else is said. -/
def kindOption (about : String) : OptionSpec :=
  ⟨"kind", none, some ⟨"KIND", .kind, some MemoryKind.core.name⟩, false, about⟩

/-- An operand. -/
def operand (label : String) (sort : ValueSort) (about : String) : OperandSpec :=
  ⟨⟨label, sort, none⟩, about⟩

/-- A verb with options and operands. -/
def leaf (name about : String) (options : List OptionSpec) (operands : List OperandSpec) : Verb :=
  ⟨name, about, options, operands, []⟩

/-- A verb that leads to further verbs. -/
def branch (name about : String) (verbs : List Verb) : Verb :=
  ⟨name, about, [], [], verbs⟩

/-- The verbs on memories. -/
def memoryVerbs : Verb :=
  branch "memory" "Manage memories"
    [leaf "add" "Add a memory" [ownerOption, kindOption ""]
      [operand "CONTENT" .text "Memory content"],
    leaf "list" "List an owner\x27s memories"
      [ownerOption, valued "kind" "KIND" .kind false "",
        flag "all" none "Include tombstoned memories"] [],
    leaf "show" "Show one memory as JSON" [ownerOption] [operand "ID" .text ""]]

/-- The verbs on thresholds. -/
def thresholdVerbs : Verb :=
  branch "threshold" "Read or set the circuit-breaker threshold of an owner"
    [leaf "get" "Show the effective threshold" [ownerOption] [],
    leaf "set" "Persist a threshold in (0, 1]" [ownerOption] [operand "VALUE" .number ""]]

/-- The verbs on audit trails. -/
def auditVerbs : Verb :=
  branch "audit" "Inspect the audit trail"
    [leaf "session" "Entries of one session, most recent first" []
      [operand "SESSION_ID" .text ""],
    leaf "owner" "Entries of one owner, oldest first" [ownerOption] []]

/-- The verb that runs a session. -/
def refineVerb : Verb :=
  leaf "refine" "Run a refinement session from a script of JSON tool calls"
    [ownerOption,
      valued "actions" "ACTIONS" .path true
        "JSON array or newline-delimited tool calls; \x60-\x60 reads stdin",
      valued "session-id" "SESSION_ID" .text false
        "Caller-supplied session id (default: a fresh UUID)"] []

/-- The verb that recovers sessions. -/
def reconcileVerb : Verb :=
  leaf "reconcile" "Roll back sessions that never completed"
    [ownerOption,
      valued "session" "SESSION" .text false
        "Only this session (default: every open session of the owner)"] []

/-- The verb that measures. -/
def usageVerb : Verb :=
  leaf "usage" "Show the token mass of an owner\x27s live memories"
    [ownerOption, kindOption "Memory kind to measure"] []

/-- **The grammar.**  The first two shared options only touch what is logged. -/
def grammar : Grammar where
  program := branch "memcurate"
    "Curate an agent\x27s long-term memory with audited, reversible sessions"
    [memoryVerbs, usageVerb, thresholdVerbs, refineVerb, auditVerbs, reconcileVerb]
  shared := [flag "verbose" (some 'v') "Enable verbose output",
    flag "json" none "Emit JSON-formatted log lines",
    valued "config" "CONFIG" .path false
      "Path to memcurate.toml (default: $MEMCURATE_CONFIG, then ./memcurate.toml)"]
  version := "0.1.0"

/-! ## 2. From words to a command -/

/-- The owner that was named. -/
def Said.owner? (s : Said) : Option OwnerId := (s.value? "owner").map OwnerId.mk

/-- The kind that was named. -/
def Said.kind? (s : Said) : Option MemoryKind :=
  (s.value? "kind").bind fun word => (MemoryKind.read word).toOption

/-- The session that was named under an option. -/
def Said.session? (s : Said) (name : String) : Option SessionId := (s.value? name).map SessionId.mk

/-- The command that was given. -/
def Command.ofSaid? (s : Said) : Option Command :=
  match s.verbs, s.operands with
  | ["memory", "add"], [content] => do
    return .addMemory (← s.owner?) content (s.kind?.getD .core)
  | ["memory", "list"], [] => do return .listMemories (← s.owner?) s.kind? (s.has "all")
  | ["memory", "show"], [id] => do return .showMemory (← s.owner?) ⟨id⟩
  | ["usage"], [] => do return .usage (← s.owner?) (s.kind?.getD .core)
  | ["threshold", "get"], [] => do return .getThreshold (← s.owner?)
  | ["threshold", "set"], [value] => do
    return .setThreshold (← s.owner?) (← Binary64.read? value)
  | ["refine"], [] => do
    return .refine (← s.owner?) (← s.value? "actions") (s.session? "session-id")
  | ["audit", "session"], [session] => return .auditSession ⟨session⟩
  | ["audit", "owner"], [] => do return .auditOwner (← s.owner?)
  | ["reconcile"], [] => do return .reconcile (← s.owner?) (s.session? "session")
  | _, _ => none

/-- The command and the configuration file that were given. -/
def Invocation.ofSaid? (s : Said) : Option Invocation := do
  return ⟨s.value? "config", ← Command.ofSaid? s⟩

end Curation.CommandLine
