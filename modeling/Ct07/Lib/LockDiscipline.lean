/-
# The reader-writer lock discipline of one thread

A thread that runs through nested calls locks and unlocks reader-writer locks.  The
discipline asks three things of it: it unlocks only what it holds, it asks for a write
lock only while it holds nothing of that lock, and a call returns with what it found.
This file has the discipline as a partial step function over the acts of the thread,
and the rules by which a list of acts is put together:

* `DecidedBy.append` : one after the other;
* `DecidedBy.call` : inside a call;
* `DecidedBy.underRead` : under a read lock;
* `decidedBy_writeLocked` : under a write lock, with nothing else;
* `decidedBy_upgrade` : a read lock given up for the write lock, and taken back.

The acts have notes among them, at which a condition on the thread can be read off.
`DecidedBy` says that this condition decides whether the discipline is kept.
-/
import Mathlib.Data.Fintype.Pi
import Ct07.Lib.Run

open PartialStep

namespace LockDiscipline

/-! ## Threads and their acts -/

/-- What a thread holds of each lock. -/
@[ext]
structure Held (L : Type*) where
  reads : L → ℕ
  writes : L → Bool

/-- What a thread does.  `enter` and `leave` are the ends of a call. -/
inductive Act (L M : Type*) where
  | rdlock (l : L)
  | wrlock (l : L)
  | unlock (l : L)
  | enter
  | leave
  | note (m : M)

/-- A thread: what it holds, and what it held when it entered each of the calls it is
in, the innermost first. -/
structure Thread (L : Type*) where
  held : Held L
  entries : List (Held L)

/-- A thread that holds nothing. -/
def Thread.idle {L : Type*} : Thread L := ⟨⟨fun _ => 0, fun _ => false⟩, []⟩

/-- The thread holds no write lock. -/
def Thread.Reader {L : Type*} (t : Thread L) : Prop := ∀ l, t.held.writes l = false

theorem reader_idle {L : Type*} : (Thread.idle : Thread L).Reader := fun _ => rfl

variable {L M : Type*} [Fintype L] [DecidableEq L]

instance : DecidableEq (Held L) := fun a b =>
  decidable_of_iff (a.reads = b.reads ∧ a.writes = b.writes) Held.ext_iff.symm

/-- One read lock more. -/
def Thread.read (t : Thread L) (l : L) : Thread L :=
  { t with held := { t.held with reads := Function.update t.held.reads l (t.held.reads l + 1) } }

/-- One read lock less. -/
def Thread.unread (t : Thread L) (l : L) : Thread L :=
  { t with held := { t.held with reads := Function.update t.held.reads l (t.held.reads l - 1) } }

/-- The write lock taken, or released. -/
def Thread.setWrite (t : Thread L) (l : L) (b : Bool) : Thread L :=
  { t with held := { t.held with writes := Function.update t.held.writes l b } }

/-- One call deeper. -/
def Thread.enter (t : Thread L) : Thread L := { t with entries := t.held :: t.entries }

/-- What the discipline makes of an act: `none` when it forbids it. -/
def Thread.perform (t : Thread L) : Act L M → Option (Thread L)
  | .rdlock l => if t.held.writes l then none else some (t.read l)
  | .wrlock l =>
      if t.held.reads l = 0 ∧ t.held.writes l = false then some (t.setWrite l true) else none
  | .unlock l =>
      if t.held.writes l then some (t.setWrite l false)
      else if 0 < t.held.reads l then some (t.unread l)
      else none
  | .enter => some t.enter
  | .leave =>
      match t.entries with
      | [] => none
      | h :: hs => if t.held = h then some { t with entries := hs } else none
  | .note _ => some t

/-! ## Small lemmas -/

omit [Fintype L] in
@[simp] theorem unread_read (t : Thread L) (l : L) : (t.read l).unread l = t := by
  simp [Thread.read, Thread.unread]

omit [Fintype L] in
/-- A read lock that is held is back after it was given up and taken again. -/
theorem read_unread {t : Thread L} {l : L} (h : 0 < t.held.reads l) :
    (t.unread l).read l = t := by
  simp [Thread.read, Thread.unread, Nat.sub_add_cancel h]

omit [Fintype L] in
theorem setWrite_setWrite {t : Thread L} {l : L} (h : t.held.writes l = false) :
    (t.setWrite l true).setWrite l false = t := by
  have hupdate : Function.update t.held.writes l false = t.held.writes := by
    rw [← h, Function.update_eq_self]
  simp [Thread.setWrite, hupdate]

omit [Fintype L] in
theorem Thread.Reader.read {t : Thread L} (h : t.Reader) (l : L) : (t.read l).Reader := h

omit [Fintype L] [DecidableEq L] in
theorem Thread.Reader.enter {t : Thread L} (h : t.Reader) : t.enter.Reader := h

omit [Fintype L] in
@[simp] theorem read_reads_self (t : Thread L) (l : L) :
    (t.read l).held.reads l = t.held.reads l + 1 := by
  simp [Thread.read]

/-! ## Acts that a condition on the notes decides -/

/-- The condition, as one on all acts. -/
def NotesMeet (ok : Thread L → M → Prop) (t : Thread L) : Act L M → Prop
  | .note m => ok t m
  | _ => True

/-- The acts keep the discipline, and leave the thread as it was, when all notes meet the
condition; and they break the discipline when one of them does not. -/
def DecidedBy (ok : Thread L → M → Prop) (t : Thread L) (acts : List (Act L M)) : Prop :=
  (Meets Thread.perform (NotesMeet ok) t acts ∧ run Thread.perform t acts = some t) ∨
    (¬ Meets Thread.perform (NotesMeet ok) t acts ∧ run Thread.perform t acts = none)

variable {ok : Thread L → M → Prop} {t : Thread L} {acts acts' : List (Act L M)}

/-- **The rule for a whole list of acts.** -/
theorem DecidedBy.run_eq_iff (h : DecidedBy ok t acts) :
    run Thread.perform t acts = some t ↔ Meets Thread.perform (NotesMeet ok) t acts := by
  rcases h with ⟨hmeets, hrun⟩ | ⟨hmeets, hrun⟩ <;> simp [hmeets, hrun]

theorem decidedBy_nil : DecidedBy ok t [] := Or.inl ⟨trivial, rfl⟩

theorem DecidedBy.append (h : DecidedBy ok t acts) (h' : DecidedBy ok t acts') :
    DecidedBy ok t (acts ++ acts') := by
  unfold DecidedBy
  rw [meets_append, run_append]
  rcases h with ⟨hmeets, hrun⟩ | ⟨hmeets, hrun⟩
  · simp only [hmeets, hrun, true_and, Option.some.injEq, forall_eq', Option.bind_some]
    exact h'
  · exact Or.inr ⟨fun hno => hmeets hno.1, by rw [hrun, Option.bind_none]⟩

theorem DecidedBy.flatten {parts : List (List (Act L M))} (h : ∀ p ∈ parts, DecidedBy ok t p) :
    DecidedBy ok t parts.flatten := by
  induction parts with
  | nil => exact decidedBy_nil
  | cons p parts ih =>
      rw [List.flatten_cons]
      exact (h p List.mem_cons_self).append (ih fun q hq => h q (List.mem_cons_of_mem p hq))

/-- Acts between two that undo each other. -/
theorem DecidedBy.wrap {t' : Thread L} {first last : Act L M}
    (hfirst : t.perform first = some t') (hlast : t'.perform last = some t)
    (hok : NotesMeet ok t first) (hok' : NotesMeet ok t' last) (h : DecidedBy ok t' acts) :
    DecidedBy ok t (first :: acts ++ [last]) := by
  unfold DecidedBy
  rw [List.cons_append, meets_cons hfirst, run_cons _ hfirst, meets_append, run_append]
  rcases h with ⟨hmeets, hrun⟩ | ⟨hmeets, hrun⟩
  · refine Or.inl ⟨⟨hok, hmeets, fun s hs => ?_⟩, ?_⟩
    · rw [hrun] at hs
      cases hs
      exact (meets_cons hlast []).2 ⟨hok', trivial⟩
    · rw [hrun, Option.bind_some, run_cons _ hlast, run_nil]
  · exact Or.inr ⟨fun hno => hmeets hno.2.1, by rw [hrun, Option.bind_none]⟩

/-- A call. -/
theorem DecidedBy.call (h : DecidedBy ok t.enter acts) :
    DecidedBy ok t (.enter :: acts ++ [.leave]) := by
  have hleave : t.enter.perform (.leave : Act L M) = some t := by
    simp [Thread.perform, Thread.enter]
  exact DecidedBy.wrap rfl hleave trivial trivial h

/-- A section under a read lock. -/
theorem DecidedBy.readLocked {l : L} (hl : t.held.writes l = false)
    (h : DecidedBy ok (t.read l) acts) : DecidedBy ok t (.rdlock l :: acts ++ [.unlock l]) := by
  have hlock : t.perform (.rdlock l : Act L M) = some (t.read l) := by
    simp [Thread.perform, hl]
  have hunlock : (t.read l).perform (.unlock l : Act L M) = some t := by
    have hread : (t.read l).held.writes l = false := hl
    simp [Thread.perform, hread]
  exact DecidedBy.wrap hlock hunlock trivial trivial h

/-- A section under a write lock. -/
theorem DecidedBy.writeLocked {l : L} (hl : t.held.writes l = false) (hr : t.held.reads l = 0)
    (h : DecidedBy ok (t.setWrite l true) acts) :
    DecidedBy ok t (.wrlock l :: acts ++ [.unlock l]) := by
  have hlock : t.perform (.wrlock l : Act L M) = some (t.setWrite l true) := by
    simp [Thread.perform, hl, hr]
  have hunlock : (t.setWrite l true).perform (.unlock l : Act L M) = some t := by
    simp only [Thread.perform]
    rw [if_pos (by simp [Thread.setWrite]), setWrite_setWrite hl]
  exact DecidedBy.wrap hlock hunlock trivial trivial h

/-- As `readLocked`, for a thread without write locks. -/
theorem DecidedBy.underRead {l : L} (ht : t.Reader) (h : DecidedBy ok (t.read l) acts) :
    DecidedBy ok t (.rdlock l :: acts ++ [.unlock l]) := h.readLocked (ht l)

/-- A write lock taken and released, by a thread without write locks. -/
theorem decidedBy_writeLocked {l : L} (ht : t.Reader) (hl : t.held.reads l = 0) :
    DecidedBy ok t [.wrlock l, .unlock l] := DecidedBy.writeLocked (ht l) hl decidedBy_nil

/-- A note, after which the read lock is given up for the write lock and taken back: the
discipline is kept exactly when the thread holds one read lock. -/
theorem decidedBy_upgraded {l : L} {m : M} (hl : t.held.writes l = false)
    (hm : ok t m ↔ t.held.reads l = 1) :
    DecidedBy ok t [.note m, .unlock l, .wrlock l, .unlock l, .rdlock l] := by
  have hnote : t.perform (.note m) = some t := rfl
  have hmeets : Meets Thread.perform (NotesMeet ok) t
      [.note m, .unlock l, .wrlock l, .unlock l, .rdlock l] ↔ ok t m := by
    rw [meets_cons hnote]
    refine ⟨fun h => h.1, fun h => ⟨h, ?_⟩⟩
    intro _ _
    refine ⟨trivial, fun _ _ => ⟨trivial, fun _ _ => ⟨trivial, fun _ _ => ⟨trivial, trivial⟩⟩⟩⟩
  unfold DecidedBy
  rw [hmeets, hm, run_cons _ hnote]
  -- one read lock: given up, the lock is free for writing; none: there is nothing to give up;
  -- more: one is left when the write lock is asked for
  by_cases hone : t.held.reads l = 1
  · refine Or.inl ⟨hone, ?_⟩
    have hunlock : t.perform (.unlock l : Act L M) = some (t.unread l) := by
      simp [Thread.perform, hl, hone]
    have hfree : (t.unread l).held.reads l = 0 := by simp [Thread.unread, hone]
    have hleft : (t.unread l).held.writes l = false := hl
    have hwrite : run Thread.perform (t.unread l) [(.wrlock l : Act L M), .unlock l]
        = some (t.unread l) := by
      have hdecided : DecidedBy (fun _ (_ : M) => True) _ _ :=
        DecidedBy.writeLocked hleft hfree decidedBy_nil
      exact hdecided.run_eq_iff.2 (meets_of_forall (fun _ a => by cases a <;> trivial) _ _)
    have hrdlock : (t.unread l).perform (.rdlock l : Act L M) = some t := by
      simp only [Thread.perform, hleft, Bool.false_eq_true, if_false]
      rw [read_unread (by omega)]
    have happend := run_append Thread.perform (t.unread l) [(.wrlock l : Act L M), .unlock l]
      [.rdlock l]
    rw [hwrite, Option.bind_some, run_cons _ hrdlock, run_nil] at happend
    rw [run_cons _ hunlock]
    exact happend
  · refine Or.inr ⟨hone, ?_⟩
    by_cases hzero : t.held.reads l = 0
    · have hunlock : t.perform (.unlock l : Act L M) = none := by
        simp [Thread.perform, hl, hzero]
      simp [run, hunlock]
    · have hunlock : t.perform (.unlock l : Act L M) = some (t.unread l) := by
        simp [Thread.perform, hl, Nat.pos_of_ne_zero hzero]
      have hleft : (t.unread l).held.reads l ≠ 0 := by
        simp only [Thread.unread, Function.update_self]
        omega
      have hwrlock : (t.unread l).perform (.wrlock l : Act L M) = none := by
        simp [Thread.perform, hleft]
      rw [run_cons _ hunlock]
      simp [run, hwrlock]

/-- As `decidedBy_upgraded`, for a thread without write locks. -/
theorem decidedBy_upgrade {l : L} {m : M} (ht : t.Reader) (hm : ok t m ↔ t.held.reads l = 1) :
    DecidedBy ok t [.note m, .unlock l, .wrlock l, .unlock l, .rdlock l] :=
  decidedBy_upgraded (ht l) hm

end LockDiscipline
