/-
# Deadlines

A session may be limited to any number of seconds, and no check of a configuration bounds it.  The
number meets two bounds of which neither is said anywhere.  A limit of more seconds than can be
counted is dropped, so that the session has no deadline at all; one that can be counted but leads
past the last second of the calendar ends the run.

So a session gets just the deadline that its limit asks for exactly if the limit can be counted and
keeps to the calendar (`beginAs_deadline_iff`), and the three outcomes are told apart by the limit
and the reading of the clock alone.  Before that the owner's memories are measured, and if their
mass does not fit a word the run ends there, whatever the limit.
-/
import Curation.Proofs.Session.Run

namespace Curation
namespace Session

variable {c : Config} {a : Archive}

/-! ## 1. The limit -/

/-- What a limit comes to, at a reading of the clock. -/
theorem answer_deadline (hlimit : 0 < c.session.maxSessionSecs) (a : Archive) :
    a.answer (deadline c) =
      if longestCeiling < c.session.maxSessionSecs then (.ok none, a)
      else
        ((a.clock.next.after? c.session.maxSessionSecs).elim (.error .beyondCalendar)
          fun d => .ok (some d), { a with clock := a.clock.advance }) := by
  have hceiling : c.ceiling = some c.session.maxSessionSecs := if_neg (Nat.ne_of_gt hlimit)
  unfold deadline
  rw [hceiling]
  dsimp only
  split
  · rfl
  · rw [Archive.answer_bind, Archive.answer_lift, Archive.run_now]
    dsimp only
    cases a.clock.next.after? c.session.maxSessionSecs <;> rfl

/-! ## 2. The beginning -/

/-- **A beginning that nothing stands in the way of** comes to a session, if the owner's memories
can be measured and the limit comes to a deadline. -/
theorem answer_beginAs (ha : a.faults = .none) (owner : OwnerId) {id : SessionId}
    (hid : blankText id.text = false) (hunused : a.store.forSession id = []) :
    a.answer (beginAs c owner id) =
      match c.rules.meter.mass (a.store.list owner (.live .core)) with
      | none => (.error .sumOverflow, a)
      | some mass =>
        ((a.answer (deadline c)).1.map fun d =>
          start c.rules ⟨id, owner, mass, (a.store.settingsOf owner).threshold.getD c.threshold, d⟩
            (.ofConfig c.session),
          (a.answer (deadline c)).2) := by
  unfold beginAs
  rw [hid]
  simp only [Bool.false_eq_true, if_false]
  rw [Archive.answer_bind, Archive.forSession_of_none ha]
  dsimp only
  rw [hunused, List.isEmpty_nil]
  simp only [Bool.not_true, Bool.false_eq_true, if_false]
  rw [Archive.answer_bind, Archive.usage_of_none ha]
  rcases c.rules.meter.mass (a.store.list owner (.live .core)) with _ | mass
  · rfl
  · dsimp only [Option.elim]
    rw [Archive.answer_bind, Archive.threshold_of_none ha]
    dsimp only
    rw [Archive.answer_bind]
    rcases a.answer (deadline c) with ⟨d | d, a'⟩ <;> rfl

/-- **What a positive limit comes to** when a session begins at some reading of the clock: the
deadline it asks for, no deadline, or the end of the run.  The run ends as well if what the owner
holds cannot be measured. -/
theorem beginAs_deadline_iff (hlimit : 0 < c.session.maxSessionSecs) (ha : a.faults = .none)
    (owner : OwnerId) {id : SessionId} (hid : blankText id.text = false)
    (hunused : a.store.forSession id = []) :
    let secs := c.session.maxSessionSecs
    let t := a.clock.next
    let fits := a.store.MassFits c.rules owner
    ((∃ s a', a.answer (beginAs c owner id) = (.ok s, a') ∧
        s.params.deadline = some ⟨t.seconds + secs, t.nanos⟩) ↔
      fits ∧ secs ≤ longestCeiling ∧ t.seconds + secs ≤ Instant.lastSecond) ∧
    ((∃ s a', a.answer (beginAs c owner id) = (.ok s, a') ∧ s.params.deadline = none) ↔
      fits ∧ longestCeiling < secs) ∧
    ((∃ a', a.answer (beginAs c owner id) = (.error .beyondCalendar, a')) ↔
      fits ∧ secs ≤ longestCeiling ∧ Instant.lastSecond < t.seconds + secs) ∧
    ((∃ a', a.answer (beginAs c owner id) = (.error .sumOverflow, a')) ↔ ¬ fits) := by
  intro secs t fits
  have hfits : fits ↔ ∃ mass, c.rules.meter.mass (a.store.list owner (.live .core)) = some mass :=
    Store.massFits_iff
  rw [answer_beginAs ha owner hid hunused, hfits]
  rcases c.rules.meter.mass (a.store.list owner (.live .core)) with _ | mass
  · simp
  · dsimp only
    rw [answer_deadline hlimit]
    by_cases hlong : longestCeiling < secs
    · rw [if_pos hlong]
      simp [Except.map, start, hlong, Nat.not_le.mpr hlong]
    · rw [if_neg hlong]
      have hle : secs ≤ longestCeiling := Nat.not_lt.mp hlong
      by_cases hlast : t.seconds + secs ≤ Instant.lastSecond
      · have hafter : t.after? secs = some ⟨t.seconds + secs, t.nanos⟩ := if_pos hlast
        rw [hafter]
        simp [Except.map, start, hlong, hle, hlast]
      · have hafter : t.after? secs = none := if_neg hlast
        rw [hafter]
        simp [Except.map, hlong, hle, hlast, Int.not_le.mp hlast]

/-- The last second of the calendar, one second more, and one second more than can be counted. -/
theorem beginAs_deadline_iff_limits :
    let c (secs : Nat) : Config :=
      { Config.standard with session := { SessionConfig.standard with maxSessionSecs := secs } }
    let begins (secs : Nat) := Archive.oneNote.answer (beginAs (c secs) ⟨"o"⟩ ⟨"s"⟩)
    ((c 8210266876799).validate = .ok () ∧ ∃ s a', begins 8210266876799 = (.ok s, a') ∧
      s.params.deadline = some ⟨8210266876799, 1000⟩) ∧
    ((c 8210266876800).validate = .ok () ∧
      ∃ a', begins 8210266876800 = (.error .beyondCalendar, a')) ∧
    ((c 9223372036854776).validate = .ok () ∧ ∃ s a', begins 9223372036854776 = (.ok s, a') ∧
      s.params.deadline = none) := by
  intro c begins
  have hnow : Archive.oneNote.clock.next = ⟨0, 1000⟩ := by decide
  have hid : blankText (SessionId.mk "s").text = false := by decide
  have hbegins (secs : Nat) (hlimit : 0 < secs) := beginAs_deadline_iff (c := c secs) hlimit
    (rfl : Archive.oneNote.faults = .none) ⟨"o"⟩ hid rfl
  have hfits (secs : Nat) : Archive.oneNote.store.MassFits (c secs).rules ⟨"o"⟩ := by
    show Archive.oneNote.store.MassFits Config.standard.rules ⟨"o"⟩
    decide +kernel
  simp only [hnow, Int.zero_add] at hbegins
  obtain ⟨hkept, -, -, -⟩ := hbegins 8210266876799 (by decide)
  obtain ⟨-, -, hbeyond, -⟩ := hbegins 8210266876800 (by decide)
  obtain ⟨-, hdropped, -, -⟩ := hbegins 9223372036854776 (by decide)
  exact ⟨⟨by decide +kernel, hkept.mpr ⟨hfits _, by decide⟩⟩,
    ⟨by decide +kernel, hbeyond.mpr ⟨hfits _, by decide⟩⟩,
    ⟨by decide +kernel, hdropped.mpr ⟨hfits _, by decide⟩⟩⟩

end Session
end Curation
