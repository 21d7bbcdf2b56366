/-
# Tokens

The mass of a text is an estimate of its tokens from its length alone: no vocabulary, and the
same answer every time.  The breaker decides on these numbers.
-/
import Curation.Memory.Basic

namespace Curation

/-- The sum of two words, if it fits a word. -/
def addWords (v w : UInt64) : Option UInt64 :=
  if v.toNat + w.toNat < UInt64.size then some (v + w) else none

/-- Measures texts at a ratio of characters to a token. -/
structure TokenMeter where
  charsPerToken : Binary64
  finite : charsPerToken.isFinite = true
  positive : Binary64.zero.lt charsPerToken = true

namespace TokenMeter

/-- Four characters to a token, as in mixed prose. -/
def standard : TokenMeter :=
  ⟨Binary64.ofNat 4, by decide +kernel, by decide +kernel⟩

/-- The meter of a ratio; one that is not finite and positive gives the standard meter. -/
def ofRatio (charsPerToken : Binary64) : TokenMeter :=
  if h : charsPerToken.isFinite = true ∧ Binary64.zero.lt charsPerToken = true then
    ⟨charsPerToken, h.1, h.2⟩
  else standard

/-- The tokens of so many characters: the quotient rounded up, none for no characters and at
least one for any. -/
def countChars (meter : TokenMeter) (chars : Nat) : UInt64 :=
  if chars = 0 then 0
  else
    let n := ((Binary64.ofNat chars).div meter.charsPerToken).ceilWord
    if n = 0 then 1 else n

/-- The tokens of a text. -/
def count (meter : TokenMeter) (text : String) : UInt64 :=
  meter.countChars text.length

/-- **The tokens of the live memories** among some; none if their sum does not fit a word. -/
def mass (meter : TokenMeter) (memories : List Memory) : Option UInt64 :=
  ((memories.filter Memory.isLive).map fun m => meter.count m.content).foldlM addWords 0

end TokenMeter
end Curation
