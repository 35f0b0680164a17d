/-
# A reader-writer lock among threads

The lock has its readers and its writer, and never both.  `Agrees` ties it to what each
thread believes it holds; the rules say how the two go along:

* `Agrees.rdlock`, `Agrees.wrlock`, `Agrees.unlock` : one operation;
* `Agrees.not_write` : no writer next to a reader;
* `Agrees.unique` : one writer.
-/
import Mathlib.Data.Finset.Basic

namespace SharedLock

/-- What a thread holds of the lock. -/
inductive Mode where
  | free | read | write
  deriving DecidableEq

/-- A reader-writer lock. -/
structure Lock (T : Type*) where
  readers : Finset T
  writer : Option T
  /-- A writer excludes the readers. -/
  exclusive : writer ≠ none → readers = ∅

variable {T : Type*}

/-- The lock that nobody holds. -/
def Lock.free : Lock T := ⟨∅, none, fun _ => rfl⟩

/-- The lock and the threads agree on who holds it. -/
structure Lock.Agrees (l : Lock T) (mode : T → Mode) : Prop where
  readers : ∀ t, t ∈ l.readers ↔ mode t = .read
  writer : ∀ t, l.writer = some t ↔ mode t = .write

theorem agrees_free : (Lock.free : Lock T).Agrees fun _ => .free :=
  ⟨fun t => by simp [Lock.free], fun t => by simp [Lock.free]⟩

section Exclusion

variable {l : Lock T} {mode : T → Mode}

/-- Two writers are the same. -/
theorem Lock.Agrees.unique (h : l.Agrees mode) {t u : T} (ht : mode t = .write)
    (hu : mode u = .write) : t = u := by
  have htu := ((h.writer t).2 ht).symm.trans ((h.writer u).2 hu)
  exact Option.some.inj htu

/-- No thread writes while another one reads. -/
theorem Lock.Agrees.not_write (h : l.Agrees mode) {t : T} (ht : mode t = .read) (u : T) :
    mode u ≠ .write := by
  intro hu
  have hempty := l.exclusive (by rw [(h.writer u).2 hu]; simp)
  have hmem := (h.readers t).2 ht
  simp [hempty] at hmem

end Exclusion

variable [DecidableEq T]

/-- `pthread_rwlock_rdlock`: `none` while it has to wait. -/
def Lock.rdlock (l : Lock T) (t : T) : Option (Lock T) :=
  if h : l.writer = none then
    some ⟨insert t l.readers, l.writer, fun hw => absurd h hw⟩
  else none

/-- `pthread_rwlock_wrlock`: `none` while it has to wait. -/
def Lock.wrlock (l : Lock T) (t : T) : Option (Lock T) :=
  if l.writer = none ∧ l.readers = ∅ then some ⟨∅, some t, fun _ => rfl⟩ else none

/-- `pthread_rwlock_unlock`: `none` when the thread does not hold the lock. -/
def Lock.unlock (l : Lock T) (t : T) : Option (Lock T) :=
  if l.writer = some t then some ⟨l.readers, none, fun hw => absurd rfl hw⟩
  else if t ∈ l.readers then
    some ⟨l.readers.erase t, l.writer, fun hw => by rw [l.exclusive hw, Finset.erase_empty]⟩
  else none

section Operations

variable {l l' : Lock T} {mode : T → Mode} {t : T}

theorem Lock.Agrees.rdlock (h : l.Agrees mode) (ht : mode t = .free)
    (hl : l.rdlock t = some l') : l'.Agrees (Function.update mode t .read) := by
  unfold Lock.rdlock at hl
  split at hl
  · cases hl
    refine ⟨fun u => ?_, fun u => ?_⟩ <;> by_cases hu : u = t
    · simp [hu]
    · simp [hu, h.readers]
    · simp [hu, h.writer, ht]
    · simp [hu, h.writer]
  · exact absurd hl (by simp)

theorem Lock.Agrees.wrlock (h : l.Agrees mode) (hl : l.wrlock t = some l') :
    l'.Agrees (Function.update mode t .write) ∧ ∀ u, mode u = .free := by
  unfold Lock.wrlock at hl
  split at hl
  · rename_i hcond
    cases hl
    have hfree : ∀ u, mode u = .free := by
      intro u
      have hread := h.readers u
      have hwrite := h.writer u
      rw [hcond.2] at hread
      rw [hcond.1] at hwrite
      cases hmode : mode u <;> simp_all
    refine ⟨⟨fun u => ?_, fun u => ?_⟩, hfree⟩ <;> by_cases hu : u = t
    · simp [hu]
    · simp [hu, hfree]
    · simp [hu]
    · simp [hu, hfree, Ne.symm hu]
  · exact absurd hl (by simp)

theorem Lock.Agrees.unlock (h : l.Agrees mode) (hl : l.unlock t = some l') :
    l'.Agrees (Function.update mode t .free) := by
  unfold Lock.unlock at hl
  split at hl
  · rename_i hwriter
    cases hl
    have hempty : l.readers = ∅ := l.exclusive (by rw [hwriter]; simp)
    refine ⟨fun u => ?_, fun u => ?_⟩ <;> by_cases hu : u = t
    · simp [hu, hempty]
    · simp [hu, h.readers]
    · simp [hu]
    · have hother : mode u ≠ .write := fun hwrite =>
        hu (h.unique hwrite ((h.writer t).1 hwriter))
      simp [hu, hother]
  · split at hl
    · rename_i hwriter hmem
      cases hl
      refine ⟨fun u => ?_, fun u => ?_⟩ <;> by_cases hu : u = t
      · simp [hu]
      · simp [hu, h.readers]
      · simp [hu, hwriter]
      · simp [hu, h.writer]
    · exact absurd hl (by simp)

end Operations

end SharedLock
