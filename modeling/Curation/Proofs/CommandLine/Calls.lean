/-
# What commands answer

A command is a call on the archive that prints as it goes.  This module says how the parts of a
command compose, and takes apart a command that succeeded: then every part of it did, one after
the other, and printing changed nothing.
-/
import Curation.CommandLine.Run
import Curation.Proofs.Session.Calls

namespace Curation.CommandLine.CommandM

variable {α β : Type}

/-- What an archive answers to a command, the text that has been printed by then, and what becomes
of the archive. -/
def answer (a : Archive) (printed : String) (x : CommandM α) :
    Except Failure α × String × Archive :=
  match (x.run.run printed).run a with
  | ((r, printed'), a') => (r, printed', a')

/-- Whether a command succeeds and something holds then of the archive. -/
def yields (a : Archive) (printed : String) (x : CommandM α) (p : Archive → Bool) : Bool :=
  match answer a printed x with
  | (.ok _, _, a') => p a'
  | (.error _, _, _) => false

theorem exists_of_yields {a : Archive} {printed : String} {x : CommandM α} {p : Archive → Bool}
    (h : yields a printed x p = true) :
    ∃ v printed' a', answer a printed x = (.ok v, printed', a') ∧ p a' = true := by
  unfold yields at h
  rcases hx : answer a printed x with ⟨r, printed', a'⟩
  rw [hx] at h
  cases r with
  | ok v => exact ⟨v, printed', a', rfl, h⟩
  | error e => cases h

/-! ## 1. Parts -/

theorem answer_bind (a : Archive) (printed : String) (x : CommandM α) (f : α → CommandM β) :
    answer a printed (x >>= f) =
      match answer a printed x with
      | (.ok v, printed', a') => answer a' printed' (f v)
      | (.error e, printed', a') => (.error e, printed', a') := by
  unfold answer
  rw [ExceptT.run_bind, StateT.run_bind, StateT.run_bind]
  rcases h : (x.run.run printed).run a with ⟨⟨r, printed'⟩, a'⟩
  cases r <;> rfl

/-- A command made of two parts succeeded only if both parts did. -/
theorem answer_bind_ok {a a' : Archive} {printed printed' : String} {x : CommandM α}
    {f : α → CommandM β} {w : β} (h : answer a printed (x >>= f) = (.ok w, printed', a')) :
    ∃ v printed₁ a₁, answer a printed x = (.ok v, printed₁, a₁) ∧
      answer a₁ printed₁ (f v) = (.ok w, printed', a') := by
  rw [answer_bind] at h
  rcases hx : answer a printed x with ⟨r, printed₁, a₁⟩
  rw [hx] at h
  cases r with
  | ok v => exact ⟨v, printed₁, a₁, rfl, h⟩
  | error e => cases h

@[simp] theorem answer_pure (a : Archive) (printed : String) (v : α) :
    answer a printed (pure v : CommandM α) = (.ok v, printed, a) := rfl

@[simp] theorem answer_print (a : Archive) (printed line : String) :
    answer a printed (print line) = (.ok (), printed ++ line ++ "\n", a) := rfl

/-- A call on the archive prints nothing. -/
theorem answer_call (a : Archive) (printed : String) (stage : Option Stage) (x : CurationM α) :
    answer a printed (call stage x) =
      ((a.answer x).1.mapError (Failure.refused stage), printed, (a.answer x).2) := by
  unfold answer call Archive.answer
  rcases h : x.run.run a with ⟨r, a'⟩
  cases r <;> simp [h] <;> rfl

theorem call_ok {a a' : Archive} {printed printed' : String} {stage : Option Stage}
    {x : CurationM α} {v : α} (h : answer a printed (call stage x) = (.ok v, printed', a')) :
    a.answer x = (.ok v, a') := by
  rw [answer_call] at h
  rcases hx : a.answer x with ⟨r, a₁⟩
  rw [hx] at h
  cases r with
  | ok w =>
    cases h
    rfl
  | error e => cases h

theorem printed_of_call {a a' : Archive} {printed printed' : String} {stage : Option Stage}
    {x : CurationM α} {r : Except Failure α}
    (h : answer a printed (call stage x) = (r, printed', a')) : printed = printed' := by
  rw [answer_call] at h
  cases h
  rfl

/-- **A call on a session**, made by a command, prints nothing either. -/
theorem answer_onSession (a : Archive) (printed : String) (stage : Option Stage) (s : Session)
    (x : SessionM α) :
    answer a printed (onSession stage s x) =
      match s.answer a x with
      | (.ok v, s', a') => (.ok (v, s'), printed, a')
      | (.error e, _, a') => (.error (.refused stage e), printed, a') := by
  unfold answer onSession Session.answer
  rcases h : (x.run.run s).run a with ⟨⟨r, s'⟩, a'⟩
  cases r <;> simp [h] <;> rfl

theorem onSession_ok {a a' : Archive} {printed printed' : String} {stage : Option Stage}
    {s : Session} {x : SessionM α} {v : α × Session}
    (h : answer a printed (onSession stage s x) = (.ok v, printed', a')) :
    s.answer a x = (.ok v.1, v.2, a') ∧ printed = printed' := by
  rw [answer_onSession] at h
  rcases hx : s.answer a x with ⟨r, s₁, a₁⟩
  rw [hx] at h
  cases r with
  | ok w =>
    cases h
    exact ⟨rfl, rfl⟩
  | error e => cases h

/-- What does not depend on the archive prints nothing and touches nothing. -/
theorem ofExcept_ok {a a' : Archive} {printed printed' : String} {x : Except Failure α} {v : α}
    (h : answer a printed (MonadExcept.ofExcept x) = (.ok v, printed', a')) :
    x = .ok v ∧ printed = printed' ∧ a = a' := by
  cases x with
  | ok w =>
    cases h
    exact ⟨rfl, rfl, rfl⟩
  | error e => cases h

/-! ## 2. Parts that are the same for each item -/

/-- A command that does the same for each item of a list, one after the other, succeeded only if
it did so for the first and then for the others. -/
theorem mapM_cons_ok {a a' : Archive} {printed printed' : String} {f : α → CommandM β} {x : α}
    {xs : List α} {w : List β}
    (h : answer a printed ((x :: xs).mapM f) = (.ok w, printed', a')) :
    ∃ v printed₁ a₁ ws, answer a printed (f x) = (.ok v, printed₁, a₁) ∧
      answer a₁ printed₁ (xs.mapM f) = (.ok ws, printed', a') := by
  rw [List.mapM_cons] at h
  obtain ⟨v, printed₁, a₁, hx, h⟩ := answer_bind_ok h
  obtain ⟨ws, printed₂, a₂, hxs, h⟩ := answer_bind_ok h
  cases h
  exact ⟨v, printed₁, a₁, ws, hx, hxs⟩

end Curation.CommandLine.CommandM
