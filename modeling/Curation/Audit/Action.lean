/-
# Audited actions and their tally

What an audit entry says was done, and how often each thing was done in a session.
-/
import Curation.Record.Decoder

namespace Curation

/-! ## 1. Actions -/

/-- What an audit entry records. -/
inductive AuditAction where
  | delete
  | update
  | consolidate
  | protect
  | unprotect
  | sessionComplete
  | sessionRollback
  deriving DecidableEq, Inhabited

namespace AuditAction

/-- All actions. -/
def all : List AuditAction :=
  [.delete, .update, .consolidate, .protect, .unprotect, .sessionComplete, .sessionRollback]

/-- The name of an action. -/
def name : AuditAction → String
  | .delete => "delete"
  | .update => "update"
  | .consolidate => "consolidate"
  | .protect => "protect"
  | .unprotect => "unprotect"
  | .sessionComplete => "session_complete"
  | .sessionRollback => "session_rollback"

/-- **Terminal.**  Such an entry closes its session; nothing may follow it. -/
def isTerminal : AuditAction → Bool
  | .sessionComplete | .sessionRollback => true
  | _ => false

/-- A forward action, whose entry carries enough to be undone. -/
def isCompensable (a : AuditAction) : Bool := !a.isTerminal

/-- Decodes an action. -/
def decode : Decoder AuditAction := Decoder.variant (all.map fun a => (a.name, a))

/-- An action as a value. -/
def encode (a : AuditAction) : Json := .str a.name

end AuditAction

/-! ## 2. Tallies -/

/-- How many actions of each kind a session has done, each in a word of 32 bits, and so is their
sum: a session does fewer than `2 ^ 32` actions. -/
structure SessionStats where
  consolidated : Nat
  updated : Nat
  deleted : Nat
  protected_ : Nat
  unprotected : Nat
  deriving DecidableEq, Inhabited

namespace SessionStats

/-- Nothing done. -/
def none : SessionStats := ⟨0, 0, 0, 0, 0⟩

/-- One more action done; terminal actions are not counted. -/
def record (s : SessionStats) : AuditAction → SessionStats
  | .consolidate => { s with consolidated := s.consolidated + 1 }
  | .update => { s with updated := s.updated + 1 }
  | .delete => { s with deleted := s.deleted + 1 }
  | .protect => { s with protected_ := s.protected_ + 1 }
  | .unprotect => { s with unprotected := s.unprotected + 1 }
  | .sessionComplete | .sessionRollback => s

/-- The tally of some actions. -/
def ofActions (actions : List AuditAction) : SessionStats :=
  actions.foldl record none

/-- All actions together. -/
def total (s : SessionStats) : Nat :=
  s.consolidated + s.updated + s.deleted + s.protected_ + s.unprotected

/-- The tally in words. -/
def text (s : SessionStats) : String :=
  "consolidated " ++ toString s.consolidated ++ ", updated " ++ toString s.updated ++
    ", deleted " ++ toString s.deleted ++ ", protected " ++ toString s.protected_ ++
    ", unprotected " ++ toString s.unprotected

/-- Decodes a tally. -/
def decode : Decoder SessionStats :=
  Decoder.record "SessionStats"
    (SessionStats.mk <$> .field "consolidated" Decoder.word32 <*> .field "updated" Decoder.word32
      <*> .field "deleted" Decoder.word32 <*> .field "protected" Decoder.word32
      <*> .field "unprotected" Decoder.word32)

/-- A tally as a value. -/
def encode (s : SessionStats) : Json :=
  .obj [("consolidated", .ofNat s.consolidated), ("updated", .ofNat s.updated),
    ("deleted", .ofNat s.deleted), ("protected", .ofNat s.protected_),
    ("unprotected", .ofNat s.unprotected)]

end SessionStats
end Curation
