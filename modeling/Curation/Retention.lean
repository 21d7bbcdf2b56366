/-
# Retention

Whether a session has kept enough.  The core mass after the session is divided by the mass
before it, in doubles, and the quotient must not lie below the owner's threshold.
-/
import Curation.Threshold

namespace Curation

/-- What was found. -/
inductive Verdict where
  /-- There was no mass before, so none could be lost. -/
  | skipped
  | held (ratio : Binary64)
  /-- Too little is left; the session must be taken back. -/
  | tripped (ratio : Binary64)
  deriving DecidableEq

namespace Verdict

/-- The share that was kept, where there is one. -/
def ratio : Verdict → Option Binary64
  | .skipped => none
  | .held r | .tripped r => some r

/-- Whether too little is left. -/
def isTripped : Verdict → Bool
  | .tripped _ => true
  | _ => false

/-- The word for a verdict. -/
def name : Verdict → String
  | .skipped => "skipped"
  | .held _ => "held"
  | .tripped _ => "tripped"

end Verdict

/-- The share of a mass that is left. -/
def retained (pre post : UInt64) : Binary64 :=
  (Binary64.ofNat post.toNat).div (Binary64.ofNat pre.toNat)

/-- **The breaker.**  Compares what is left with the threshold. -/
def evaluate (pre post : UInt64) (threshold : Threshold) : Verdict :=
  if pre = 0 then .skipped
  else
    let r := retained pre post
    if r.lt threshold.value then .tripped r else .held r

end Curation
