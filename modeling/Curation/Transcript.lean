/-
# Transcripts

A conversation is cut into chunks that fit a budget of tokens, and memories are made of what
an extractor finds in the chunks.
-/
import Curation.Config.Basic

namespace Curation

/-! ## 1. Turns, chunks and candidates -/

/-- One turn of a conversation. -/
structure Turn where
  role : String
  content : String
  deriving DecidableEq

/-- A run of turns for the extractor. -/
structure Chunk where
  index : Nat
  turns : List Turn
  tokens : UInt64
  deriving DecidableEq

/-- A memory that the extractor proposes. -/
structure Candidate where
  content : String
  kind : MemoryKind
  deriving DecidableEq

namespace Turn

/-- Decodes a turn. -/
def decode : Decoder Turn :=
  Decoder.record "TranscriptTurn"
    (Turn.mk <$> .field "role" Decoder.text <*> .field "content" Decoder.text)

/-- A turn as a value. -/
def encode (t : Turn) : Json := .obj [("role", .str t.role), ("content", .str t.content)]

end Turn

namespace Candidate

/-- Decodes a candidate. -/
def decode : Decoder Candidate :=
  Decoder.record "CandidateMemory"
    (Candidate.mk <$> .field "content" Decoder.text <*> .field "kind" MemoryKind.decode)

/-- A candidate as a value. -/
def encode (c : Candidate) : Json := .obj [("content", .str c.content), ("kind", c.kind.encode)]

end Candidate

/-! ## 2. Cutting -/

/-- How a transcript is cut. -/
structure Chunking where
  meter : TokenMeter
  /-- The tokens that a chunk may hold. -/
  budget : UInt64

namespace Chunking

/-- Cutting with a meter and a budget of at least one token. -/
def make (meter : TokenMeter) (chunkTokens : Nat) : Chunking :=
  ⟨meter, UInt64.ofNat (max chunkTokens 1)⟩

/-- The cutting that a configuration gives. -/
def ofConfig (c : Config) : Chunking := make c.meter c.extraction.chunkTokens

/-- Pieces of at most `size + 1` characters, the current one being collected backwards with
room for `room` more. -/
def piecesFrom (size : Nat) (room : Nat) (run : List Char) : List Char → List (List Char)
  | [] => if run.isEmpty then [] else [run.reverse]
  | c :: cs =>
    match room with
    | 0 => run.reverse :: piecesFrom size size [c] cs
    | n + 1 => piecesFrom size n (c :: run) cs

/-- The pieces of a text, all of a size but the last, which may be shorter. -/
def pieces (size : Nat) (text : String) : List String :=
  (piecesFrom (size - 1) size [] text.toList).map String.ofList

/-- The characters that make up a budget: at least one. -/
def pieceSize (k : Chunking) : Nat :=
  max 1 ((Binary64.ofNat k.budget.toNat).mul k.meter.charsPerToken).floorWord.toNat

/-- A turn that is larger than the budget, in pieces of its own. -/
def split (k : Chunking) (t : Turn) : List (List Turn × UInt64) :=
  (pieces k.pieceSize t.content).map fun text => ([⟨t.role, text⟩], k.meter.count text)

/-- The collected turns as a chunk, if there are any. -/
def close (run : List Turn) (tokens : UInt64) : List (List Turn × UInt64) :=
  if run.isEmpty then [] else [(run, tokens)]

/-- **Packing.**  Turns are collected as long as they fit; a turn without tokens is left out,
and one that is larger than the budget is split.  There is no packing if the tokens that are
collected and those of a further turn do not fit a word together. -/
def pack (k : Chunking) (run : List Turn) (tokens : UInt64) :
    List Turn → Option (List (List Turn × UInt64))
  | [] => some (close run tokens)
  | t :: ts => do
    let n := k.meter.count t.content
    if n = 0 then k.pack run tokens ts
    else if k.budget < n then
      let rest ← k.pack [] 0 ts
      return close run tokens ++ k.split t ++ rest
    else
      let sum ← addWords tokens n
      if k.budget < sum then
        let rest ← k.pack [t] n ts
        return close run tokens ++ rest
      else k.pack (run ++ [t]) sum ts

/-- **The chunks of a transcript.**  A sum of tokens that does not fit a word is a panic. -/
def chunks (k : Chunking) (turns : List Turn) : Except CurationError (List Chunk) :=
  match k.pack [] 0 turns with
  | some packed => .ok (packed.zipIdx.map fun ((run, tokens), i) => ⟨i, run, tokens⟩)
  | none => .error .sumOverflow

end Chunking

/-! ## 3. Making memories -/

/-- What an extractor finds in a chunk. -/
abbrev Extractor := Chunk → Except CurationError (List Candidate)

/-- What became of a transcript. -/
structure IngestReport where
  chunks : Nat
  created : List MemoryId
  /-- How many candidates were repeated or not admitted. -/
  skipped : Nat
  deriving DecidableEq

/-- A report as a value. -/
def IngestReport.encode (r : IngestReport) : Json :=
  .obj [("chunks", .ofNat r.chunks), ("created", .arr (r.created.map fun id => .str id.text)),
    ("skipped", .ofNat r.skipped)]

namespace Ingest

/-- How far the making of memories has come. -/
structure Progress where
  /-- The texts that need no new memory. -/
  seen : List String
  created : List MemoryId
  skipped : Nat

/-- Makes a memory of a candidate, unless its text was seen or is not admitted. -/
def takeCandidate (rules : MemoryRules) (owner : OwnerId) (p : Progress) (c : Candidate) :
    CurationM Progress := do
  if p.seen.contains c.content then return { p with skipped := p.skipped + 1 }
  match rules.validate c.content with
  | .error _ => return { p with skipped := p.skipped + 1 }
  | .ok _ =>
    let m ← rules.create owner c.content c.kind
    return ⟨c.content :: p.seen, p.created ++ [m.id], p.skipped⟩

/-- Takes the candidates of a chunk. -/
def takeChunk (rules : MemoryRules) (owner : OwnerId) (extract : Extractor) (p : Progress)
    (chunk : Chunk) : CurationM Progress := do
  let candidates ← extract chunk
  candidates.foldlM (takeCandidate rules owner) p

end Ingest

/-- **Makes memories of a transcript.**  A text that is the text of a live memory of the owner
makes none, nor does one that came before. -/
def ingest (c : Config) (extract : Extractor) (owner : OwnerId) (turns : List Turn) :
    CurationM IngestReport := do
  let chunks ← (Chunking.ofConfig c).chunks turns
  let live ← Archive.listMemories owner .liveAll
  let p ← chunks.foldlM (Ingest.takeChunk c.rules owner extract) ⟨live.map (·.content), [], 0⟩
  Archive.count (.extracted p.created.length)
  return ⟨chunks.length, p.created, p.skipped⟩

end Curation
