/-
# Chunks and their budget

A chunk that was packed is within the budget.  A piece of a broken turn need not be: its length is
the budget times the ratio, rounded down, and its tokens are its length divided by the ratio,
rounded up, but the product and the quotient are rounded to doubles before.  If the product is
rounded up to a whole number, the piece has one character too many
(`chunks_within_iff_rounded_up`).

So the budget is kept for every transcript exactly if a piece of full length keeps it, and where it
is not kept, it is passed by one token or by a single character (`chunks_within_iff`).
-/
import Curation.Proofs.Number.Exact
import Curation.Proofs.Transcript.Chunks

namespace Curation

open Binary64 (rankOf)

namespace TokenMeter

variable (meter : TokenMeter)

/-! ## 1. The meter on ranks -/

theorem rank : ∃ r : Fin (Rank.infinite + 1), meter.charsPerToken = .number false r ∧
    0 < r.val ∧ r.val < Rank.infinite := by
  have hfinite := meter.finite
  have hpos := meter.positive
  rw [Binary64.zero, Binary64.ofRank_of_le (Nat.zero_le _)] at hpos
  rcases hv : meter.charsPerToken with _ | ⟨negative, r⟩
  · rw [hv] at hfinite
    cases hfinite
  · rw [hv] at hfinite hpos
    cases negative with
    | true =>
      have hneg : -(r.val : Int) > 0 := by simpa [Binary64.lt, Binary64.position] using hpos
      omega
    | false =>
      rw [Binary64.lt_number] at hpos
      exact ⟨r, rfl, of_decide_eq_true hpos, of_decide_eq_true hfinite⟩

/-- The characters of one token, in units. -/
def perToken : Nat :=
  match meter.charsPerToken with
  | .nan => 0
  | .number _ r => Rank.units r.val

theorem perToken_pos : 0 < meter.perToken := by
  obtain ⟨r, hr, hpos, -⟩ := meter.rank
  rw [perToken, hr]
  exact Binary64.units_pos hpos

/-- The tokens of so many characters as a rank, before they are rounded up. -/
def quotient (chars : Nat) : Fin (Rank.infinite + 1) :=
  if rankOf chars < Rank.infinite then
    ⟨Rank.ofUnits (Rank.units (rankOf chars) * twoTo Rank.unitExponent) meter.perToken,
      Nat.lt_succ_of_le (Rank.ofUnits_le _ _)⟩
  else Fin.last Rank.infinite

theorem div_eq (chars : Nat) :
    (Binary64.ofNat chars).div meter.charsPerToken = .number false (meter.quotient chars) := by
  obtain ⟨r, hr, hpos, hlt⟩ := meter.rank
  have hper : meter.perToken = Rank.units r.val := by rw [perToken, hr]
  rw [hr, Binary64.ofNat_eq, Binary64.div]
  by_cases h : rankOf chars < Rank.infinite
  · simp only [h, hlt, and_self, if_true, hpos.ne', if_false, Binary64.ofRatio, quotient, hper]
    exact Binary64.ofRank_of_le (Rank.ofUnits_le _ _)
  · simp only [h, hlt, false_and, if_false, if_true, quotient]
    exact Binary64.ofRank_of_le le_rfl

theorem toNat_countChars {chars : Nat} (h : 0 < chars) :
    (meter.countChars chars).toNat =
      max 1 (Binary64.ceilWord (.number false (meter.quotient chars))).toNat := by
  rw [countChars, if_neg h.ne', div_eq]
  generalize Binary64.ceilWord _ = word
  by_cases hw : word = 0
  · subst hw
    rfl
  · have hpos : word.toNat ≠ 0 := fun hz => hw (UInt64.toNat_inj.mp hz)
    rw [if_neg hw]
    omega

variable {meter}

theorem quotient_mono {n m : Nat} (h : n ≤ m) :
    (meter.quotient n).val ≤ (meter.quotient m).val := by
  have hrank := Binary64.rankOf_mono h
  by_cases hm : rankOf m < Rank.infinite
  · rw [quotient, quotient, if_pos hm, if_pos (hrank.trans_lt hm)]
    refine Rank.ofUnits_mono meter.perToken_pos meter.perToken_pos ?_
    exact Nat.mul_le_mul_right _ (Nat.mul_le_mul_right _ (Rank.units_mono hrank))
  · rw [quotient.eq_def meter m, if_neg hm]
    exact Fin.le_last _

/-- **More characters are not fewer tokens.** -/
theorem countChars_mono {n m : Nat} (h : n ≤ m) :
    (meter.countChars n).toNat ≤ (meter.countChars m).toNat := by
  rcases Nat.eq_zero_or_pos n with rfl | hn
  · rw [countChars, if_pos rfl]
    exact Nat.zero_le _
  · have hquotient : (meter.quotient n).val ≤ (meter.quotient m).val := quotient_mono h
    have hceil := Binary64.ceilWord_mono hquotient
    rw [toNat_countChars meter hn, toNat_countChars meter (hn.trans_le h)]
    omega

/-- **Tokens that suffice**: so many characters, as a double, are no more than the tokens hold. -/
theorem countChars_le {chars tokens : Nat} (hpos : 0 < tokens) (htokens : tokens ≤ 2 ^ 53)
    (hfinite : rankOf chars < Rank.infinite)
    (h : Rank.units (rankOf chars) ≤ tokens * meter.perToken) :
    (meter.countChars chars).toNat ≤ tokens := by
  have hquotient : (meter.quotient chars).val ≤ rankOf tokens := by
    rw [quotient, if_pos hfinite]
    refine Rank.ofUnits_mono meter.perToken_pos Nat.one_pos ?_
    rw [Nat.mul_one, Nat.mul_right_comm]
    exact Nat.mul_le_mul_right _ h
  have hceil := Binary64.ceilWord_le htokens hquotient
  rcases Nat.eq_zero_or_pos chars with rfl | hchars
  · rw [countChars, if_pos rfl]
    exact Nat.zero_le _
  · rw [toNat_countChars meter hchars]
    omega

/-- The same of characters that are exact as a double. -/
theorem countChars_le_of_exact {chars tokens : Nat} (hchars : chars ≤ 2 ^ 53)
    (htokens : tokens ≤ 2 ^ 53)
    (h : chars * twoTo Rank.unitExponent ≤ tokens * meter.perToken) :
    (meter.countChars chars).toNat ≤ tokens := by
  have hfinite := Binary64.rankOf_lt_of_le (hchars.trans (by decide))
  rcases Nat.eq_zero_or_pos tokens with rfl | hpos
  · rw [Nat.zero_mul, Nat.le_zero, Nat.mul_eq_zero] at h
    obtain rfl := h.resolve_right Binary64.unit_pos.ne'
    rw [countChars, if_pos rfl]
    exact le_rfl
  · rw [← Binary64.units_rankOf hchars] at h
    exact countChars_le hpos htokens hfinite h

end TokenMeter

namespace Chunking

variable {k : Chunking}

/-! ## 2. The length of a piece -/

/-- The characters that the budget holds, as a rank. -/
def product (k : Chunking) : Fin (Rank.infinite + 1) :=
  ⟨Rank.ofUnits (Rank.units (rankOf k.budget.toNat) * k.meter.perToken)
    (twoTo Rank.unitExponent), Nat.lt_succ_of_le (Rank.ofUnits_le _ _)⟩

theorem mul_eq (k : Chunking) :
    (Binary64.ofNat k.budget.toNat).mul k.meter.charsPerToken = .number false k.product := by
  obtain ⟨r, hr, -, hlt⟩ := k.meter.rank
  have hper : k.meter.perToken = Rank.units r.val := by rw [TokenMeter.perToken, hr]
  rw [hr, Binary64.ofNat_eq, Binary64.mul]
  simp only [Binary64.rankOf_lt, hlt, and_self, if_true, product, hper]
  exact Binary64.ofRank_of_le (Rank.ofUnits_le _ _)

theorem pieceSize_eq (k : Chunking) :
    k.pieceSize = max 1 (Binary64.floorWord (.number false k.product)).toNat := by
  rw [pieceSize, mul_eq]

theorem pieceSize_lt (k : Chunking) : k.pieceSize < UInt64.size := by
  have hword := (Binary64.floorWord (.number false k.product)).toNat_lt_size
  have hone : 1 < UInt64.size := by decide
  rw [pieceSize_eq]
  exact max_lt hone hword

/-- **A word has a rank below infinity.** -/
theorem rankOf_pieceSize_lt (k : Chunking) : rankOf k.pieceSize < Rank.infinite := by
  have h := Binary64.rankOf_lt (UInt64.ofNat k.pieceSize)
  rwa [UInt64.toNat_ofNat_of_lt' k.pieceSize_lt] at h

/-- A budget of 53 bits is exact, so the characters that it holds are rounded once. -/
theorem product_eq (hbudget : k.budget.toNat ≤ 2 ^ 53) :
    k.product.val = Rank.ofUnits (k.budget.toNat * k.meter.perToken) 1 := by
  have hscale : ∀ {unit n m : Nat}, 0 < unit → n = m * unit →
      Rank.ofUnits (n * k.meter.perToken) unit = Rank.ofUnits (m * k.meter.perToken) 1 := by
    intro unit n m hpos hn
    rw [hn, Nat.mul_right_comm, ← Rank.ofUnits_mul_right Nat.one_pos hpos, Nat.one_mul]
  exact hscale Binary64.unit_pos (Binary64.units_rankOf hbudget)

/-- **A piece of more than one character** has no more of them, as a double, than the budget holds
but for one rounding. -/
theorem units_pieceSize (hsize : 1 < k.pieceSize) (hbudget : k.budget.toNat ≤ 2 ^ 53) :
    2 ^ 53 * Rank.units (rankOf k.pieceSize) ≤
      (2 ^ 53 + 1) * (k.budget.toNat * k.meter.perToken) := by
  have hfloor : k.pieceSize = (Binary64.floorWord (.number false k.product)).toNat := by
    rw [pieceSize_eq] at hsize ⊢
    omega
  have hle : rankOf k.pieceSize ≤ k.product.val := by
    refine Binary64.rankOf_le_of_units (Nat.le_of_lt_succ k.product.isLt) ?_
    rw [hfloor]
    exact Binary64.floorWord_units_le _
  refine (Nat.mul_le_mul_left _ (Rank.units_mono hle)).trans ?_
  rw [product_eq hbudget]
  exact Rank.units_ofUnits_le _

/-- **A piece is over by one token at most**, if it has more than one character. -/
theorem countChars_pieceSize_le (hsize : 1 < k.pieceSize) (hbudget : k.budget.toNat < 2 ^ 53) :
    (k.meter.countChars k.pieceSize).toNat ≤ k.budget.toNat + 1 := by
  have hunits := units_pieceSize hsize hbudget.le
  have hper := k.meter.perToken_pos
  refine TokenMeter.countChars_le (Nat.succ_pos _) hbudget k.rankOf_pieceSize_lt ?_
  generalize Rank.units (rankOf k.pieceSize) = chars at *
  generalize k.meter.perToken = per at *
  generalize k.budget.toNat = budget at *
  have hshare : budget * per ≤ 2 ^ 53 * per := Nat.mul_le_mul_right _ hbudget.le
  rw [Nat.succ_mul]
  omega

/-! ## 3. Chunks -/

theorem tokens_close (run : List Turn) (tokens : UInt64) :
    ∀ chunk ∈ close run tokens, chunk.2 = tokens := by
  rw [close]
  split <;> simp

/-- **What is packed is within the budget**, and what is not is a piece. -/
theorem within_of_packs {run ts : List Turn} {tokens : UInt64}
    {packed : List (List Turn × UInt64)} (h : Packs k run tokens ts packed)
    (htokens : tokens ≤ k.budget) :
    ∀ chunk ∈ packed, chunk.2 ≤ k.budget ∨ ∃ t, chunk ∈ k.split t := by
  induction h with
  | done => exact fun chunk hchunk => .inl (tokens_close _ _ chunk hchunk ▸ htokens)
  | skip _ _ ih => exact ih htokens
  | @split _ _ t _ _ _ _ ih =>
    intro chunk hchunk
    rw [List.mem_append, List.mem_append] at hchunk
    obtain (hrun | hsplit) | hrest := hchunk
    · exact .inl (tokens_close _ _ chunk hrun ▸ htokens)
    · exact .inr ⟨t, hsplit⟩
    · exact ih UInt64.zero_le chunk hrest
  | full _ hunder _ _ _ ih =>
    intro chunk hchunk
    obtain hrun | hrest := List.mem_append.mp hchunk
    · exact .inl (tokens_close _ _ chunk hrun ▸ htokens)
    · exact ih hunder chunk hrest
  | keep _ _ hunder _ ih => exact ih hunder

variable {turns : List Turn} {chunks : List Chunk} {chunk : Chunk}

/-- **A chunk over the budget is a piece.** -/
theorem piece_of_over (hchunks : k.chunks turns = .ok chunks) (hchunk : chunk ∈ chunks)
    (hover : k.budget < chunk.tokens) : ∃ role text, chunk.turns = [⟨role, text⟩] ∧
      chunk.tokens = k.meter.count text ∧ text ≠ "" ∧ text.length ≤ k.pieceSize := by
  obtain ⟨packed, hpacks, hpacked, -⟩ := chunks_ok hchunks
  obtain hwithin | ⟨t, hsplit⟩ := within_of_packs hpacks UInt64.zero_le
    (chunk.turns, chunk.tokens) (hpacked ▸ List.mem_map_of_mem hchunk)
  · exact absurd hover (UInt64.not_lt.mpr hwithin)
  · obtain ⟨text, htext, hpair⟩ := List.mem_map.mp hsplit
    obtain ⟨hne, hlen⟩ := mem_pieces k.pieceSize_pos htext
    exact ⟨t.role, text, (congrArg Prod.fst hpair).symm, (congrArg Prod.snd hpair).symm, hne, hlen⟩

theorem piecesFrom_of_le (size : Nat) : ∀ (cs : List Char) (room : Nat) (run : List Char),
    cs.length ≤ room → run ++ cs ≠ [] → piecesFrom size room run cs = [run.reverse ++ cs]
  | [], room, run, _, hne => by
    rw [List.append_nil] at hne
    simp [piecesFrom, hne]
  | c :: cs, 0, run, hlen, _ => absurd hlen (by simp)
  | c :: cs, room + 1, run, hlen, _ => by
    rw [piecesFrom, piecesFrom_of_le size cs room (c :: run) (by simpa using hlen) (by simp)]
    simp

/-- A turn over the budget that is no longer than a piece is a chunk alone. -/
theorem chunks_of_over {t : Turn} (hlen : t.content.length ≤ k.pieceSize)
    (hover : k.budget < k.meter.count t.content) :
    k.chunks [t] = .ok [⟨0, [t], k.meter.count t.content⟩] := by
  have hne : t.content ≠ "" := by
    intro h
    rw [TokenMeter.count_eq_zero_iff.mpr h] at hover
    exact absurd hover (by simp)
  have hzero : k.meter.count t.content ≠ 0 := fun h => hne (TokenMeter.count_eq_zero_iff.mp h)
  have hpieces : pieces k.pieceSize t.content = [t.content] := by
    rw [pieces, piecesFrom_of_le _ _ _ _ (by rwa [String.length_toList]) (by simpa using hne)]
    simp
  simp [Chunking.chunks, pack, hzero, hover, close, split, hpieces]

/-- **The budget is kept exactly if a piece of full length keeps it.**  Where it is not, a chunk
over it is a piece whose characters are more than the budget holds, as exact numbers; and it is one
character, or over by one token. -/
theorem chunks_within_iff (k : Chunking) :
    ((∀ turns chunks, k.chunks turns = .ok chunks → ∀ chunk ∈ chunks, chunk.tokens ≤ k.budget) ↔
      k.meter.countChars k.pieceSize ≤ k.budget) ∧
    (k.budget.toNat < 2 ^ 53 → ∀ turns chunks, k.chunks turns = .ok chunks →
      ∀ chunk ∈ chunks, k.budget < chunk.tokens →
        ∃ role text, chunk.turns = [⟨role, text⟩] ∧
          (text.length ≤ 2 ^ 53 → k.budget.toNat * k.meter.perToken <
            text.length * twoTo Rank.unitExponent) ∧
          (text.length = 1 ∨ chunk.tokens.toNat = k.budget.toNat + 1)) := by
  refine ⟨⟨fun h => ?_, fun h turns chunks hchunks chunk hchunk => ?_⟩,
    fun hbudget turns chunks hchunks chunk hchunk hover => ?_⟩
  · -- a turn of just one piece
    by_contra hover
    obtain ⟨text, hlen⟩ : ∃ text : String, text.length = k.pieceSize :=
      ⟨String.ofList (List.replicate k.pieceSize 'x'), by simp⟩
    have hcount : k.meter.count text = k.meter.countChars k.pieceSize := by
      rw [TokenMeter.count, hlen]
    rw [← hcount, UInt64.not_le] at hover
    have hchunks := chunks_of_over (t := ⟨"", text⟩) hlen.le hover
    have hwithin := h [⟨"", text⟩] _ hchunks _ (List.mem_singleton_self _)
    exact absurd hover (UInt64.not_lt.mpr hwithin)
  · by_contra hover
    obtain ⟨role, text, -, htokens, -, hlen⟩ :=
      piece_of_over hchunks hchunk (UInt64.not_le.mp hover)
    refine hover (UInt64.le_iff_toNat_le.mpr ?_)
    rw [htokens]
    exact (TokenMeter.countChars_mono hlen).trans (UInt64.le_iff_toNat_le.mp h)
  · obtain ⟨role, text, hturns, htokens, hne, hlen⟩ := piece_of_over hchunks hchunk hover
    have hpos : text.length ≠ 0 := fun h => hne (String.length_eq_zero_iff.mp h)
    rw [UInt64.lt_iff_toNat_lt, htokens] at hover
    refine ⟨role, text, hturns, fun hexact => ?_, ?_⟩
    · by_contra hholds
      exact absurd hover (Nat.not_lt.mpr
        (TokenMeter.countChars_le_of_exact hexact hbudget.le (Nat.not_lt.mp hholds)))
    · by_cases hsize : 1 < k.pieceSize
      · have hle := (TokenMeter.countChars_mono hlen).trans (countChars_pieceSize_le hsize hbudget)
        rw [htokens]
        exact .inr (Nat.le_antisymm hle hover)
      · exact .inl (by omega)

/-- Fifteen tokens of 1.4 characters, which are 21 characters when the product is rounded, and 21
characters are more than fifteen tokens when the quotient is. -/
theorem chunks_within_iff_rounded_up :
    let k : Chunking := ⟨.ofRatio (.ofRatio false 7 5), 15⟩
    let t : Turn := ⟨"user", "xxxxxxxxxxxxxxxxxxxxx"⟩
    k.chunks [t] = .ok [⟨0, [t], 16⟩] ∧
    (¬ ∀ turns chunks, k.chunks turns = .ok chunks →
      ∀ chunk ∈ chunks, chunk.tokens ≤ k.budget) ∧
    k.budget.toNat < 2 ^ 53 ∧
      k.budget.toNat * k.meter.perToken < t.content.length * twoTo Rank.unitExponent := by
  intro k t
  have hchunks : k.chunks [t] = .ok [⟨0, [t], 16⟩] := by decide +kernel
  have hfull : ¬ k.meter.countChars k.pieceSize ≤ k.budget := by decide +kernel
  have hbudget : k.budget.toNat < 2 ^ 53 := by decide
  obtain ⟨hiff, hover⟩ := chunks_within_iff k
  obtain ⟨role, text, hturns, hexact, -⟩ := hover hbudget [t] _ hchunks ⟨0, [t], 16⟩
    (List.mem_singleton_self _) (by decide)
  have htext : t.content = text := congrArg Turn.content (List.cons.inj hturns).1
  rw [← htext] at hexact
  exact ⟨hchunks, fun h => hfull (hiff.mp h), hbudget, hexact (by decide +kernel)⟩

end Chunking
end Curation
