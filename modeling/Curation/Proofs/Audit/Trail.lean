/-
# The entries of a session

The trail of a session is read with the last entry first, by sorting.  Where the places of its
entries rise in the order in which they came, that is the reverse of that order
(`forSession_eq_reverse`), so what is proved about writing entries holds of what is read.

The tally of a trail does not depend on its order, so recovery and the session itself count alike.
-/
import Mathlib.Data.List.Forall2
import Curation.Audit.Trail
import Curation.Proofs.Audit.Inverse
import Curation.Proofs.Sorting

namespace Curation

/-! ## 1. Sorting what stands the wrong way round -/

theorem insertBy_last {α : Type} {le : α → α → Bool} {x : α} :
    ∀ {ys : List α}, (∀ y ∈ ys, le x y = false) → insertBy le x ys = ys ++ [x]
  | [], _ => rfl
  | y :: ys, h => by
    rw [insertBy, if_neg (by simp [h y List.mem_cons_self]),
      insertBy_last fun z hz => h z (List.mem_cons_of_mem _ hz)]
    rfl

theorem sortBy_eq_reverse {α : Type} {le : α → α → Bool} :
    ∀ {xs : List α}, xs.Pairwise (fun a b => le a b = false) → sortBy le xs = xs.reverse
  | [], _ => rfl
  | x :: xs, h => by
    obtain ⟨hx, hxs⟩ := List.pairwise_cons.mp h
    rw [sortBy, sortBy_eq_reverse hxs, List.reverse_cons,
      insertBy_last fun y hy => hx y (List.mem_reverse.mp hy)]

/-! ## 2. Entries in the order in which they came -/

namespace Store

/-- The entries of a session in the order in which they came. -/
def entriesOf (s : Store) (session : SessionId) : List AuditEntry :=
  s.trail.filter (·.session == session)

theorem forSession_perm (s : Store) (session : SessionId) :
    (s.forSession session).Perm (s.entriesOf session) :=
  sortBy_perm _ _

theorem mem_forSession {s : Store} {session : SessionId} {e : AuditEntry} :
    e ∈ s.forSession session ↔ e ∈ s.trail ∧ e.session = session := by
  rw [(s.forSession_perm session).mem_iff]
  simp [entriesOf]

theorem forSession_eq_nil {s : Store} {session : SessionId} :
    s.forSession session = [] ↔ s.entriesOf session = [] :=
  ⟨fun h => List.nil_perm.mp (h ▸ s.forSession_perm session),
    fun h => List.perm_nil.mp (h ▸ s.forSession_perm session)⟩

/-- **Read backwards.** -/
theorem forSession_eq_reverse {s : Store} {session : SessionId}
    (h : (s.entriesOf session).Pairwise fun a b => a.seq < b.seq) :
    s.forSession session = (s.entriesOf session).reverse :=
  sortBy_eq_reverse (h.imp fun {a b} hab => by simpa using hab)

/-- A new entry at a later place is read first. -/
theorem forSession_of_append {s s' : Store} {session : SessionId} {e : AuditEntry}
    (h : (s.entriesOf session).Pairwise fun a b => a.seq < b.seq)
    (hlt : ∀ x ∈ s.entriesOf session, x.seq < e.seq)
    (hes : s'.entriesOf session = s.entriesOf session ++ [e]) :
    s'.forSession session = e :: s.forSession session := by
  have h' : (s'.entriesOf session).Pairwise fun a b => a.seq < b.seq := by
    rw [hes]
    refine List.pairwise_append.mpr ⟨h, List.pairwise_singleton _ _, fun x hx y hy => ?_⟩
    rw [List.mem_singleton.mp hy]
    exact hlt x hx
  rw [forSession_eq_reverse h', forSession_eq_reverse h, hes, List.reverse_append]
  rfl

/-- Entries under an id are read under that id. -/
theorem entriesOf_of_trail {σ σ' : Store} {new : List AuditEntry} {session : SessionId}
    (h : σ'.trail = σ.trail ++ new) (hnew : ∀ e ∈ new, e.session = session) :
    σ'.entriesOf session = σ.entriesOf session ++ new := by
  have hall : new.filter (·.session == session) = new :=
    List.filter_eq_self.mpr fun e he => by simpa using hnew e he
  unfold entriesOf
  rw [h, List.filter_append, hall]

/-- Entries under one id are no entries under another. -/
theorem entriesOf_of_trail_of_ne {σ σ' : Store} {new : List AuditEntry}
    {session session' : SessionId} (h : σ'.trail = σ.trail ++ new)
    (hnew : ∀ e ∈ new, e.session = session) (hne : session ≠ session') :
    σ'.entriesOf session' = σ.entriesOf session' := by
  have hnone : new.filter (·.session == session') = [] := by
    refine List.filter_eq_nil_iff.mpr fun e he hs => hne ?_
    rw [← hnew e he]
    simpa using hs
  unfold entriesOf
  rw [h, List.filter_append, hnone, List.append_nil]

theorem forSession_congr {σ σ' : Store} {session : SessionId}
    (h : σ'.entriesOf session = σ.entriesOf session) :
    σ'.forSession session = σ.forSession session :=
  congrArg (sortBy _) h

end Store

/-! ## 3. Open sessions -/

theorem Store.mem_entriesOf {s : Store} {session : SessionId} {e : AuditEntry} :
    e ∈ s.entriesOf session ↔ e ∈ s.trail ∧ e.session = session := by
  simp [Store.entriesOf]

theorem Store.mem_forOwner {b : Backend} {s : Store} {owner : OwnerId} {e : AuditEntry} :
    e ∈ s.forOwner b owner ↔ e ∈ s.trail ∧ e.owner = owner := by
  cases b <;> simp [Store.forOwner]

/-- **What is listed as open**: a session with entries, none of which closes it. -/
theorem mem_openSessionsOf {es : List AuditEntry} {session : SessionId} :
    session ∈ openSessionsOf es ↔ (∃ e ∈ es, e.session = session) ∧
      ∀ e ∈ es, e.session = session → e.action.isTerminal = false := by
  have hclosed : ((es.filter (·.action.isTerminal)).map (·.session)).contains session = false ↔
      ∀ e ∈ es, e.session = session → e.action.isTerminal = false := by
    rw [Bool.eq_false_iff, ne_eq, List.contains_iff_mem]
    constructor
    · intro h e he hs
      cases ht : e.action.isTerminal with
      | false => rfl
      | true => exact absurd (List.mem_map.mpr ⟨e, List.mem_filter.mpr ⟨he, ht⟩, hs⟩) h
    · intro h hm
      obtain ⟨e, he, hs⟩ := List.mem_map.mp hm
      obtain ⟨he, ht⟩ := List.mem_filter.mp he
      rw [h e he hs] at ht
      cases ht
  unfold openSessionsOf
  dsimp only
  rw [mem_distinct, List.mem_filter, List.mem_map, Bool.not_eq_true', hclosed]

/-- Entries of new sessions that close nothing only add their sessions to the list. -/
theorem openSessionsOf_append {old new : List AuditEntry}
    (hopen : ∀ e ∈ new, e.action.isTerminal = false)
    (hapart : ∀ e ∈ old, ∀ e' ∈ new, e.session ≠ e'.session) :
    openSessionsOf (old ++ new) = openSessionsOf old ++ distinct (new.map (·.session)) := by
  have hclosed : (old ++ new).filter (·.action.isTerminal) = old.filter (·.action.isTerminal) := by
    have hnone : new.filter (·.action.isTerminal) = [] :=
      List.filter_eq_nil_iff.mpr fun e he => by simp [hopen e he]
    rw [List.filter_append, hnone, List.append_nil]
  have hall : (new.map (·.session)).filter (fun id =>
      !((old.filter (·.action.isTerminal)).map (·.session)).contains id) =
      new.map (·.session) := by
    refine List.filter_eq_self.mpr fun sid hsid => ?_
    obtain ⟨e', he', rfl⟩ := List.mem_map.mp hsid
    rw [Bool.not_eq_true', Bool.eq_false_iff, ne_eq, List.contains_iff_mem]
    intro hm
    obtain ⟨e, he, hs⟩ := List.mem_map.mp hm
    exact hapart e (List.mem_filter.mp he).1 e' he' hs
  unfold openSessionsOf
  rw [hclosed]
  dsimp only
  rw [List.map_append, List.filter_append, hall, distinct_append]
  intro sid hsid hm
  obtain ⟨e, he, hs⟩ := List.mem_map.mp (List.mem_filter.mp hsid).1
  obtain ⟨e', he', hs'⟩ := List.mem_map.mp hm
  exact hapart e he e' he' (hs.trans hs'.symm)

/-! ## 4. The tally -/

namespace AuditEntry

theorem record_comm (s : SessionStats) (a b : AuditAction) :
    (s.record a).record b = (s.record b).record a := by
  cases a <;> cases b <;> rfl

/-- **The order does not count.** -/
theorem stats_perm {es es' : List AuditEntry} (h : es.Perm es') : stats es = stats es' :=
  (h.map _).foldl_eq' (fun a _ b _ s => record_comm s a b) _

theorem stats_append_singleton (es : List AuditEntry) (e : AuditEntry) :
    stats (es ++ [e]) = (stats es).record e.action := by
  simp [stats, SessionStats.ofActions]

theorem bind_ok {ε α β : Type} {x : Except ε α} {f : α → Except ε β} {w : β}
    (h : (x >>= f) = .ok w) : ∃ v, x = .ok v ∧ f v = .ok w := by
  cases x with
  | ok v => exact ⟨v, rfl, h⟩
  | error e => cases h

theorem singleSubject_ok {e : AuditEntry} {id : MemoryId} (h : e.singleSubject = .ok id) :
    e.subject = [id] := by
  unfold singleSubject at h
  split at h
  · next hs =>
    cases h
    exact hs
  · cases h

theorem payloadAs_ok {α : Type} {e : AuditEntry} {d : Decoder α} {p : α}
    (h : e.payloadAs d = .ok p) : d e.payload = .ok p := by
  unfold payloadAs at h
  split at h
  · next hd =>
    cases h
    exact hd
  · cases h

/-- **How an entry is undone**, and what its subject and its payload must be for it. -/
inductive Undoing (e : AuditEntry) : List WriteOp → Prop
  | delete {id : MemoryId} (ha : e.action = .delete) (hs : e.subject = [id]) :
      Undoing e [.setTombstone id false]
  | update {id : MemoryId} {p : UpdatePayload} (ha : e.action = .update) (hs : e.subject = [id])
      (hp : UpdatePayload.decode e.payload = .ok p) : Undoing e [.setContent id p.before]
  | consolidate {p : ConsolidatePayload} (ha : e.action = .consolidate)
      (hp : ConsolidatePayload.decode e.payload = .ok p) : Undoing e (mergeInverse p)
  | protect {id : MemoryId} (ha : e.action = .protect) (hs : e.subject = [id]) :
      Undoing e [.setConstitutional id false]
  | unprotect {id : MemoryId} (ha : e.action = .unprotect) (hs : e.subject = [id]) :
      Undoing e [.setConstitutional id true]

theorem undoing_of_inverse {e : AuditEntry} {ops : List WriteOp} (h : e.inverse = .ok ops) :
    e.Undoing ops := by
  unfold inverse at h
  split at h
  · cases h
  · split at h
    case h_1 ha =>
      obtain ⟨_, _, h⟩ := bind_ok h
      obtain ⟨id, hid, h⟩ := bind_ok h
      cases h
      exact .delete ha (singleSubject_ok hid)
    case h_2 ha =>
      obtain ⟨p, hp, h⟩ := bind_ok h
      obtain ⟨id, hid, h⟩ := bind_ok h
      cases h
      exact .update ha (singleSubject_ok hid) (payloadAs_ok hp)
    case h_3 ha =>
      obtain ⟨p, hp, h⟩ := bind_ok h
      cases h
      exact .consolidate ha (payloadAs_ok hp)
    case h_4 ha =>
      obtain ⟨id, hid, h⟩ := bind_ok h
      cases h
      exact .protect ha (singleSubject_ok hid)
    case h_5 ha =>
      obtain ⟨id, hid, h⟩ := bind_ok h
      cases h
      exact .unprotect ha (singleSubject_ok hid)
    case h_6 | h_7 => cases h

/-- The ops that undo an entry only change memories. -/
theorem target_of_inverse {e : AuditEntry} {ops : List WriteOp} (h : e.inverse = .ok ops) :
    ∀ op ∈ ops, op.target?.isSome := by
  cases undoing_of_inverse h <;> simp [mergeInverse, WriteOp.target?]

theorem inverses_of_unwindAfter : ∀ {es : List AuditEntry} {last : Option Nat}
    {ops : List WriteOp}, unwindAfter last es = .ok ops →
    ∃ invs, List.Forall₂ (fun e inv => e.inverse = .ok inv) es invs ∧ ops = invs.flatten
  | [], _, _, h => by
    cases h
    exact ⟨[], .nil, rfl⟩
  | e :: es, last, ops, h => by
    obtain ⟨_, _, h⟩ := bind_ok h
    obtain ⟨inv, hinv, h⟩ := bind_ok h
    obtain ⟨rest, hrest, h⟩ := bind_ok h
    cases h
    obtain ⟨invs, hinvs, rfl⟩ := inverses_of_unwindAfter hrest
    exact ⟨inv :: invs, .cons hinv hinvs, rfl⟩

/-- **A trail is undone entry by entry**: its ops are those of the entries, one after the other. -/
theorem inverses_of_unwind {es : List AuditEntry} {ops : List WriteOp} (h : unwind es = .ok ops) :
    ∃ invs, List.Forall₂ (fun e inv => e.inverse = .ok inv) es invs ∧ ops = invs.flatten :=
  inverses_of_unwindAfter h

theorem exists_of_forall₂_left {α β : Type} {R : α → β → Prop} {xs : List α} {ys : List β}
    (h : List.Forall₂ R xs ys) {x : α} (hx : x ∈ xs) : ∃ y ∈ ys, R x y := by
  induction h with
  | nil => cases hx
  | @cons x' y' xs ys hxy _ ih =>
    rcases List.mem_cons.mp hx with rfl | hx
    · exact ⟨y', List.mem_cons_self, hxy⟩
    · obtain ⟨y, hy, hr⟩ := ih hx
      exact ⟨y, List.mem_cons_of_mem _ hy, hr⟩

/-- Every op of an unwinding undoes some entry. -/
theorem inverse_of_mem {es : List AuditEntry} {ops : List WriteOp} (h : unwind es = .ok ops)
    {op : WriteOp} (hop : op ∈ ops) : ∃ e ∈ es, ∃ inv, e.inverse = .ok inv ∧ op ∈ inv := by
  obtain ⟨invs, hinvs, rfl⟩ := inverses_of_unwind h
  obtain ⟨inv, hi, hop⟩ := List.mem_flatten.mp hop
  obtain ⟨e, he, hinv⟩ := exists_of_forall₂_left hinvs.flip hi
  exact ⟨e, he, inv, hinv, hop⟩

/-- **Undoing a trail writes nothing to the trail** and adds no memory. -/
theorem target_of_unwind {es : List AuditEntry} {ops : List WriteOp} (h : unwind es = .ok ops) :
    ∀ op ∈ ops, op.target?.isSome := by
  intro op hop
  obtain ⟨e, -, inv, hinv, hop⟩ := inverse_of_mem h hop
  exact target_of_inverse hinv op hop

theorem forward_of_inverse {e : AuditEntry} {ops : List WriteOp} (h : e.inverse = .ok ops) :
    e.action.isTerminal = false := by
  cases undoing_of_inverse h with
  | delete ha _ | update ha _ _ | consolidate ha _ | protect ha _ | unprotect ha _ =>
    rw [ha]
    rfl

/-- **A trail that is closed cannot be unwound** again. -/
theorem forward_of_unwind {es : List AuditEntry} {ops : List WriteOp} (h : unwind es = .ok ops) :
    ∀ e ∈ es, e.action.isTerminal = false := by
  intro e he
  obtain ⟨invs, hinvs, -⟩ := inverses_of_unwind h
  obtain ⟨inv, -, hinv⟩ := exists_of_forall₂_left hinvs he
  exact forward_of_inverse hinv

end AuditEntry

/-- Ops that name memories append nothing. -/
theorem appended_eq_nil {ops : List WriteOp} (h : ∀ op ∈ ops, op.target?.isSome) :
    ops.filterMap WriteOp.appended? = [] := by
  refine List.filterMap_eq_nil_iff.mpr fun op hop => ?_
  have := h op hop
  cases op <;> simp_all [WriteOp.target?, WriteOp.appended?]

/-- **What is written after the undoing of a trail** appends what it would by itself. -/
theorem appended_of_unwind {es : List AuditEntry} {undo : List WriteOp}
    (h : AuditEntry.unwind es = .ok undo) (ops : List WriteOp) :
    (undo ++ ops).filterMap WriteOp.appended? = ops.filterMap WriteOp.appended? := by
  rw [List.filterMap_append, appended_eq_nil (AuditEntry.target_of_unwind h), List.nil_append]

/-- Ops that name memories add none. -/
theorem inserted_eq_nil {ops : List WriteOp} (h : ∀ op ∈ ops, op.target?.isSome) :
    ops.filterMap WriteOp.inserted? = [] := by
  refine List.filterMap_eq_nil_iff.mpr fun op hop => ?_
  have := h op hop
  cases op <;> simp_all [WriteOp.target?, WriteOp.inserted?]

end Curation
