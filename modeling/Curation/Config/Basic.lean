/-
# Configuration

The settings of a run, each with a default, and the checks that a configuration must pass
before it is used.
-/
import Curation.Error
import Curation.Memory.Rules

namespace Curation

/-- Settings of refinement sessions. -/
structure SessionConfig where
  /-- For owners without a threshold of their own. -/
  defaultThreshold : Binary64
  maxContentChars : Nat
  searchLimit : Nat
  /-- How long a session may take; zero for no limit. -/
  maxSessionSecs : Nat
  /-- The longest journal text. -/
  journalMaxChars : Nat
  deriving DecidableEq

/-- Settings of measuring. -/
structure TokenConfig where
  charsPerToken : Binary64
  deriving DecidableEq

/-- Settings of the making of memories from transcripts. -/
structure ExtractionConfig where
  /-- The tokens of one chunk. -/
  chunkTokens : Nat
  deriving DecidableEq

/-- Where the database is, as far as the configuration says. -/
structure StorageConfig where
  url : Option String
  namespace_ : Option String
  database : Option String
  deriving DecidableEq

/-- **A configuration.** -/
structure Config where
  session : SessionConfig
  tokens : TokenConfig
  extraction : ExtractionConfig
  storage : StorageConfig
  deriving DecidableEq

/-! ## 1. Defaults -/

/-- The default settings of sessions. -/
def SessionConfig.standard : SessionConfig where
  defaultThreshold := Threshold.standard.value
  maxContentChars := MemoryRules.standardMaxContent
  searchLimit := 20
  maxSessionSecs := 900
  journalMaxChars := 2000

/-- The default settings of measuring. -/
def TokenConfig.standard : TokenConfig := ⟨TokenMeter.standard.charsPerToken⟩

/-- The default settings of transcripts. -/
def ExtractionConfig.standard : ExtractionConfig := ⟨2000⟩

/-- No word on the database. -/
def StorageConfig.unset : StorageConfig := ⟨none, none, none⟩

/-- The configuration where nothing is set. -/
def Config.standard : Config := ⟨.standard, .standard, .standard, .unset⟩

/-! ## 2. Decoding and encoding -/

/-- Decodes the settings of sessions. -/
def SessionConfig.decode : Decoder SessionConfig :=
  let d := SessionConfig.standard
  Decoder.record "SessionConfig"
    (SessionConfig.mk <$> .defaulted "default_threshold" Decoder.double d.defaultThreshold
      <*> .defaulted "max_content_chars" Decoder.count d.maxContentChars
      <*> .defaulted "search_limit" Decoder.count d.searchLimit
      <*> .defaulted "max_session_secs" Decoder.word64 d.maxSessionSecs
      <*> .defaulted "journal_max_chars" Decoder.count d.journalMaxChars)

/-- Decodes the settings of measuring. -/
def TokenConfig.decode : Decoder TokenConfig :=
  Decoder.record "TokenConfig"
    (TokenConfig.mk <$>
      .defaulted "chars_per_token" Decoder.double TokenConfig.standard.charsPerToken)

/-- Decodes the settings of transcripts. -/
def ExtractionConfig.decode : Decoder ExtractionConfig :=
  Decoder.record "ExtractionConfig"
    (ExtractionConfig.mk <$>
      .defaulted "chunk_tokens" Decoder.word64 ExtractionConfig.standard.chunkTokens)

/-- Decodes the place of the database. -/
def StorageConfig.decode : Decoder StorageConfig :=
  Decoder.record "StorageConfig"
    (StorageConfig.mk <$> .defaulted "url" (Decoder.optional Decoder.text) none
      <*> .defaulted "namespace" (Decoder.optional Decoder.text) none
      <*> .defaulted "database" (Decoder.optional Decoder.text) none)

/-- Decodes a configuration, absent settings taking their defaults. -/
def Config.decode : Decoder Config :=
  Decoder.record "CurationConfig"
    (Config.mk <$> .defaulted "session" SessionConfig.decode .standard
      <*> .defaulted "tokens" TokenConfig.decode .standard
      <*> .defaulted "extraction" ExtractionConfig.decode .standard
      <*> .defaulted "storage" StorageConfig.decode .unset)

/-- The settings of sessions as a value. -/
def SessionConfig.encode (c : SessionConfig) : Json :=
  .obj [("default_threshold", .ofDouble c.defaultThreshold),
    ("max_content_chars", .ofNat c.maxContentChars), ("search_limit", .ofNat c.searchLimit),
    ("max_session_secs", .ofNat c.maxSessionSecs), ("journal_max_chars", .ofNat c.journalMaxChars)]

/-- The settings of measuring as a value. -/
def TokenConfig.encode (c : TokenConfig) : Json :=
  .obj [("chars_per_token", .ofDouble c.charsPerToken)]

/-- The settings of transcripts as a value. -/
def ExtractionConfig.encode (c : ExtractionConfig) : Json :=
  .obj [("chunk_tokens", .ofNat c.chunkTokens)]

/-- The place of the database as a value. -/
def StorageConfig.encode (c : StorageConfig) : Json :=
  .obj [("url", .ofOption .str c.url), ("namespace", .ofOption .str c.namespace_),
    ("database", .ofOption .str c.database)]

/-- A configuration as a value. -/
def Config.encode (c : Config) : Json :=
  .obj [("session", c.session.encode), ("tokens", c.tokens.encode),
    ("extraction", c.extraction.encode), ("storage", c.storage.encode)]

namespace Config

/-! ## 3. Checks -/

/-- **The checks**, in order: the threshold, the counts that must not be zero, the ratio. -/
def validate (c : Config) : Except ConfigFault Unit := do
  match Threshold.ofValue c.session.defaultThreshold with
  | .error e => throw (.threshold e)
  | .ok _ => pure ()
  if c.session.maxContentChars = 0 then throw (.notPositive "session.max_content_chars")
  if c.session.searchLimit = 0 then throw (.notPositive "session.search_limit")
  if c.session.journalMaxChars = 0 then throw (.notPositive "session.journal_max_chars")
  if !(c.tokens.charsPerToken.isFinite && Binary64.zero.lt c.tokens.charsPerToken) then
    throw (.notPositiveNumber "tokens.chars_per_token")
  if c.extraction.chunkTokens = 0 then throw (.notPositive "extraction.chunk_tokens")

/-! ## 4. What follows from a configuration -/

/-- The threshold for owners without one. -/
def threshold (c : Config) : Threshold :=
  match Threshold.ofValue c.session.defaultThreshold with
  | .ok t => t
  | .error _ => .standard

/-- The meter of tokens. -/
def meter (c : Config) : TokenMeter :=
  TokenMeter.ofRatio c.tokens.charsPerToken

/-- The rules for memories. -/
def rules (c : Config) : MemoryRules :=
  ⟨c.meter, c.session.maxContentChars⟩

/-- The time limit of a session in seconds, if there is one. -/
def ceiling (c : Config) : Option Nat :=
  if c.session.maxSessionSecs = 0 then none else some c.session.maxSessionSecs

end Config
end Curation
