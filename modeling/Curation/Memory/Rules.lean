/-
# The rules for memories

What a memory may hold, who may see it, and which changes it admits.  A change is not made
here: each function checks its guard and gives the op, so that whoever asked can write it in
one batch with its audit entry.
-/
import Curation.Archive
import Curation.Tokens
import Curation.Distinct
import Curation.Text.LowerCase

namespace Curation

/-- The rules in force. -/
structure MemoryRules where
  meter : TokenMeter
  /-- The longest text of a memory, in characters. -/
  maxContent : Nat

namespace MemoryRules

/-- The longest text of a memory where nothing else is said. -/
def standardMaxContent : Nat := 10000

/-! ## 1. Texts -/

/-- A text must not be blank, nor longer than the limit. -/
def validate (rules : MemoryRules) (content : String) : Except CurationError Unit :=
  if blankText content then .error (.validation .blankContent)
  else if rules.maxContent < content.length then
    .error (.validation (.longContent content.length rules.maxContent))
  else .ok ()

/-- Makes a memory, live and unprotected. -/
def create (rules : MemoryRules) (owner : OwnerId) (content : String) (kind : MemoryKind) :
    CurationM Memory := do
  rules.validate content
  let m ← Archive.newMemory owner content kind
  Archive.insertMemory m

/-! ## 2. Measuring and searching -/

/-- The mass of an owner's live memories of a kind; one that does not fit a word is a panic. -/
def usage (rules : MemoryRules) (owner : OwnerId) (kind : MemoryKind) : CurationM UInt64 := do
  let live ← Archive.listMemories owner (.live kind)
  match rules.meter.mass live with
  | some mass => return mass
  | none => throw .sumOverflow

end MemoryRules

/-- The terms of a query: its words in lower case, each once. -/
def queryTerms (query : String) : List (List Char) :=
  distinct ((words query).map lowerCase)

/-- How many of some terms occur in a text, whatever its case. -/
def matchCount (terms : List (List Char)) (content : String) : Nat :=
  let text := lowerCase content.toList
  terms.countP fun t => occursIn t text

/-- More matches first, and newer first among those of one count. -/
def ranksBefore (a b : Nat × Memory) : Bool :=
  decide (b.1 < a.1) || (decide (a.1 = b.1) && b.2.createdAt.le a.2.createdAt)

/-- **The best matches** among some memories: those in which a term occurs, ranked, as many
as asked for. -/
def bestMatches (terms : List (List Char)) (limit : Nat) (memories : List Memory) : List Memory :=
  let scored := (memories.map fun m => (matchCount terms m.content, m)).filter fun p => 0 < p.1
  ((sortBy ranksBefore scored).take limit).map (·.2)

namespace Archive

/-- The memory of an id, if it is the owner's; another owner's memory is not found either. -/
def getOwned (owner : OwnerId) (id : MemoryId) : CurationM Memory := do
  match ← (Archive.getMemory id).run with
  | .ok m => if m.owner = owner then return m else throw (.notFound id)
  | .error (.memoryNotFound _) => throw (.notFound id)
  | .error e => throw (.storage e)

/-- Searches the live memories of an owner. -/
def search (owner : OwnerId) (query : String) (limit : Nat) : CurationM (List Memory) := do
  let terms := queryTerms query
  if terms.isEmpty then throw (.validation .blankQuery)
  let live ← Archive.listMemories owner .liveAll
  return bestMatches terms limit live

end Archive

/-! ## 3. Guarded changes -/

namespace Memory

/-- Refuses a protected memory. -/
def unprotectedOnly (m : Memory) : Except CurationError Unit :=
  if m.constitutional then .error (.protectedMemory m.id) else .ok ()

/-- Deletes a memory, unless it is protected. -/
def tombstoneOp (m : Memory) : Except CurationError WriteOp := do
  m.unprotectedOnly
  return .setTombstone m.id true

/-- Takes a deletion back. -/
def reviveOp (m : Memory) : WriteOp := .setTombstone m.id false

/-- Protects a memory. -/
def protectOp (m : Memory) : WriteOp := .setConstitutional m.id true

/-- Takes the protection off a memory. -/
def unprotectOp (m : Memory) : WriteOp := .setConstitutional m.id false

/-- Replaces the text of a memory, unless it is protected or the new text is not admitted. -/
def updateOp (rules : MemoryRules) (m : Memory) (content : String) :
    Except CurationError WriteOp := do
  m.unprotectedOnly
  rules.validate content
  return .setContent m.id content

end Memory
end Curation
