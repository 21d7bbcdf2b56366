/-
# Saved stores

A store as a text that can be kept and read again: one JSON object with the memories, the
audit trail and the settings, each in their order.
-/
import Curation.Store.Basic
import Curation.Json.Printer
import Curation.Json.Reader

namespace Curation.Store

/-- Decodes a store. -/
def decode : Decoder Store :=
  Decoder.record "Store"
    (Store.mk <$> .field "memories" (Decoder.list Memory.decode)
      <*> .field "trail" (Decoder.list AuditEntry.decode)
      <*> .field "settings" (Decoder.list OwnerSettings.decode))

/-- A store as a value. -/
def encode (s : Store) : Json :=
  .obj [("memories", .arr (s.memories.map Memory.encode)),
    ("trail", .arr (s.trail.map AuditEntry.encode)),
    ("settings", .arr (s.settings.map OwnerSettings.encode))]

/-- The text of a store. -/
def text (s : Store) : String :=
  s.encode.compact

/-- **Reads a store**, if the text is that of one. -/
def read? (text : String) : Option Store := do
  (decode (← Json.read? text)).toOption

end Curation.Store
