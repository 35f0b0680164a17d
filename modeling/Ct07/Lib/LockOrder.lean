/-
# Locks that are taken in order

Threads that keep the lock discipline one by one still wait for each other.  They do not wait for
ever when the locks have ranks, and each thread asks for a lock only while what it holds of other
locks ranks below: the holder of a lock that is asked for can go on, or asks for a lock of a higher
rank itself.

* `System`, `step` : threads that run through lists of acts;
* `Completable` : all the threads can come to their ends;
* `InOrder` : the rule for the ranks;
* `progress` : some thread can go on;
* `always_completable_iff` : no run gets stuck exactly when each list of acts keeps the discipline;
* `Fits` : acts that are decided by their notes and take their locks in order, put together as
  with `DecidedBy`.

A reader does not wait for a writer that waits.
-/
import Mathlib.Algebra.BigOperators.Group.Finset.Basic
import Mathlib.Algebra.Order.BigOperators.Group.Finset
import Ct07.Lib.LockDiscipline

open PartialStep LockDiscipline

namespace LockOrder

/-! ## Threads that share locks -/

variable {T L M P : Type}

/-- The threads with what they hold, and the acts that they still have to do. -/
structure System (T L M : Type) where
  thread : T → Thread L
  todo : T → List (Act L M)

/-- No thread has begun. -/
def System.init : System T L M := ⟨fun _ => Thread.idle, fun _ => []⟩

/-- A thread begins with a list of acts, or does the next one of its acts. -/
inductive Event (T P : Type) where
  | start (t : T) (p : P)
  | act (t : T)

/-- The thread holds something of the lock. -/
def Holds (t : Thread L) (l : L) : Prop := t.held.writes l = true ∨ 0 < t.held.reads l

instance (t : Thread L) (l : L) : Decidable (Holds t l) := inferInstanceAs (Decidable (_ ∨ _))

/-- The act does not have to wait for another thread. -/
def System.Free (S : System T L M) (t : T) : Act L M → Prop
  | .rdlock l => ∀ u, u ≠ t → (S.thread u).held.writes l = false
  | .wrlock l => ∀ u, u ≠ t → ¬ Holds (S.thread u) l
  | _ => True

instance [Fintype T] [DecidableEq T] (S : System T L M) (t : T) : DecidablePred (S.Free t)
  | .rdlock _ => inferInstanceAs (Decidable (∀ _, _ ≠ _ → _ = _))
  | .wrlock _ => inferInstanceAs (Decidable (∀ _, _ ≠ _ → ¬ Holds _ _))
  | .unlock _ => isTrue trivial
  | .enter => isTrue trivial
  | .leave => isTrue trivial
  | .note _ => isTrue trivial

variable [Fintype T] [DecidableEq T] [Fintype L] [DecidableEq L]

/-- `acts` are the acts of the programs. -/
def step (acts : P → List (Act L M)) (S : System T L M) : Event T P → Option (System T L M)
  | .start t p =>
      if (S.todo t).isEmpty then some { S with todo := Function.update S.todo t (acts p) } else none
  | .act t =>
      match S.todo t with
      | [] => none
      | a :: as =>
          if S.Free t a then
            ((S.thread t).perform a).map fun th =>
              ⟨Function.update S.thread t th, Function.update S.todo t as⟩
          else none

/-- All the threads are at their ends, and hold nothing. -/
def System.Done (S : System T L M) : Prop := ∀ t, S.todo t = [] ∧ S.thread t = Thread.idle

/-- The threads can come to their ends. -/
def Completable (acts : P → List (Act L M)) (S : System T L M) : Prop :=
  ∃ (ts : List T) (S' : System T L M), run (step acts) S (ts.map .act) = some S' ∧ S'.Done

/-- The thread keeps the discipline when it is alone. -/
def Alone (as : List (Act L M)) : Prop := run Thread.perform Thread.idle as = some Thread.idle

/-- The program that begins keeps the discipline. -/
def Event.Keeps (acts : P → List (Act L M)) : Event T P → Prop
  | .start _ p => Alone (acts p)
  | .act _ => True

/-! ## Ranks -/

/-- The lock that an act asks for. -/
def wants : Act L M → Option L
  | .rdlock l => some l
  | .wrlock l => some l
  | _ => none

/-- What the thread holds of other locks than it asks for ranks below. -/
def InOrder (rank : L → ℕ) (t : Thread L) (a : Act L M) : Prop :=
  ∀ l ∈ wants a, ∀ l', l' ≠ l → Holds t l' → rank l' < rank l

section Steps

variable {acts : P → List (Act L M)} {rank : L → ℕ} {S S' : System T L M}

/-- The threads are in the middle of what they do. -/
structure System.Inv (rank : L → ℕ) (S : System T L M) : Prop where
  ends : ∀ t, run Thread.perform (S.thread t) (S.todo t) = some Thread.idle
  inOrder : ∀ t, Meets Thread.perform (InOrder rank) (S.thread t) (S.todo t)
  exclusive : ∀ t u l, u ≠ t → (S.thread t).held.writes l = true → ¬ Holds (S.thread u) l

omit [Fintype T] [DecidableEq T] in
theorem inv_init : (System.init : System T L M).Inv rank where
  ends := fun _ => rfl
  inOrder := fun _ => trivial
  exclusive := by
    rintro t u l - ⟨⟩

theorem start_cases {t : T} {p : P} (hs : step acts S (.start t p) = some S') :
    S.todo t = [] ∧ S'.thread = S.thread ∧ S'.todo t = acts p ∧
      ∀ u, u ≠ t → S'.todo u = S.todo u := by
  simp only [step, Option.ite_none_right_eq_some, List.isEmpty_iff, Option.some.injEq] at hs
  obtain ⟨htodo, rfl⟩ := hs
  exact ⟨htodo, rfl, Function.update_self .., fun u hu => Function.update_of_ne hu ..⟩

theorem act_cases {t : T} (hs : step acts S (.act t) = some S') :
    ∃ a, S.todo t = a :: S'.todo t ∧ S.Free t a ∧
      (S.thread t).perform a = some (S'.thread t) ∧
      ∀ u, u ≠ t → S'.thread u = S.thread u ∧ S'.todo u = S.todo u := by
  simp only [step] at hs
  cases htodo : S.todo t with
  | nil =>
      rw [htodo] at hs
      cases hs
  | cons a as =>
      rw [htodo] at hs
      simp only [Option.ite_none_right_eq_some, Option.map_eq_some_iff] at hs
      obtain ⟨hfree, th, hth, rfl⟩ := hs
      refine ⟨a, ?_, hfree, ?_, fun u hu => ⟨?_, ?_⟩⟩
      · exact congrArg (a :: ·) (Function.update_self t as S.todo).symm
      · rw [hth]
        exact congrArg some (Function.update_self t th S.thread).symm
      · exact Function.update_of_ne hu ..
      · exact Function.update_of_ne hu ..

/-- An act that need not wait, and that the discipline allows, can be done. -/
theorem act_isSome {t : T} {a : Act L M} {as : List (Act L M)} (htodo : S.todo t = a :: as)
    (hfree : S.Free t a) (hth : ((S.thread t).perform a).isSome) :
    (step acts S (.act t)).isSome := by
  simp only [step]
  rw [htodo]
  dsimp only
  rw [if_pos hfree, Option.isSome_map]
  exact hth

omit [Fintype T] [DecidableEq T] in
/-- A thread that has nothing left to do holds nothing. -/
theorem System.Inv.idle (h : S.Inv rank) {t : T} (ht : S.todo t = []) :
    S.thread t = Thread.idle := by
  have hends := h.ends t
  rw [ht] at hends
  exact Option.some.inj hends

omit [Fintype T] [DecidableEq T] in
/-- What an act changes is what the thread holds of one lock. -/
theorem perform_cases {th th' : Thread L} {a : Act L M} (h : th.perform a = some th') :
    th'.held = th.held ∨
      (∃ l, a = .rdlock l ∧ th.held.writes l = false ∧ th'.held = (th.read l).held) ∨
      (∃ l, a = .wrlock l ∧ th.held.reads l = 0 ∧ th'.held = (th.setWrite l true).held) ∨
      ∃ l, a = .unlock l ∧
        (th'.held = (th.setWrite l false).held ∨ th'.held = (th.unread l).held) := by
  cases a with
  | rdlock l =>
      simp only [Thread.perform, Option.ite_none_left_eq_some, Option.some.injEq] at h
      obtain ⟨hwrites, rfl⟩ := h
      exact Or.inr (Or.inl ⟨l, rfl, by simpa using hwrites, rfl⟩)
  | wrlock l =>
      simp only [Thread.perform, Option.ite_none_right_eq_some, Option.some.injEq] at h
      obtain ⟨⟨hreads, -⟩, rfl⟩ := h
      exact Or.inr (Or.inr (Or.inl ⟨l, rfl, hreads, rfl⟩))
  | unlock l =>
      refine Or.inr (Or.inr (Or.inr ⟨l, rfl, ?_⟩))
      simp only [Thread.perform] at h
      split at h
      · cases h
        exact Or.inl rfl
      · simp only [Option.ite_none_right_eq_some, Option.some.injEq] at h
        obtain ⟨-, rfl⟩ := h
        exact Or.inr rfl
  | enter =>
      cases h
      exact Or.inl rfl
  | leave =>
      simp only [Thread.perform] at h
      split at h
      · cases h
      · simp only [Option.ite_none_right_eq_some, Option.some.injEq] at h
        obtain ⟨-, rfl⟩ := h
        exact Or.inl rfl
  | note m =>
      cases h
      exact Or.inl rfl

omit [Fintype T] [DecidableEq T] in
/-- A write lock is held already, or has just been asked for. -/
theorem writes_of_perform {th th' : Thread L} {a : Act L M} (h : th.perform a = some th') {l : L}
    (hl : th'.held.writes l = true) : th.held.writes l = true ∨ a = .wrlock l := by
  obtain heq | ⟨l', -, -, heq⟩ | ⟨l', rfl, -, heq⟩ | ⟨l', -, heq | heq⟩ := perform_cases h
  · rw [heq] at hl
    exact Or.inl hl
  · rw [heq] at hl
    exact Or.inl hl
  · rw [heq] at hl
    by_cases hll : l = l'
    · exact Or.inr (hll ▸ rfl)
    · exact Or.inl (by simpa [Thread.setWrite, Function.update_of_ne hll] using hl)
  · rw [heq] at hl
    by_cases hll : l = l'
    · simp [Thread.setWrite, hll] at hl
    · exact Or.inl (by simpa [Thread.setWrite, Function.update_of_ne hll] using hl)
  · rw [heq] at hl
    exact Or.inl hl

omit [Fintype T] [DecidableEq T] in
/-- A lock is held already, or has just been asked for. -/
theorem holds_of_perform {th th' : Thread L} {a : Act L M} (h : th.perform a = some th') {l : L}
    (hl : Holds th' l) : Holds th l ∨ wants a = some l := by
  obtain hwrites | hreads := hl
  · obtain hold | rfl := writes_of_perform h hwrites
    · exact Or.inl (Or.inl hold)
    · exact Or.inr rfl
  · obtain heq | ⟨l', rfl, -, heq⟩ | ⟨l', -, -, heq⟩ | ⟨l', -, heq | heq⟩ := perform_cases h
    · rw [heq] at hreads
      exact Or.inl (Or.inr hreads)
    · rw [heq] at hreads
      by_cases hll : l = l'
      · exact Or.inr (hll ▸ rfl)
      · exact Or.inl (Or.inr (by simpa [Thread.read, Function.update_of_ne hll] using hreads))
    · rw [heq] at hreads
      exact Or.inl (Or.inr hreads)
    · rw [heq] at hreads
      exact Or.inl (Or.inr hreads)
    · rw [heq] at hreads
      by_cases hll : l = l'
      · subst hll
        simp only [Thread.unread, Function.update_self] at hreads
        exact Or.inl (Or.inr (by omega))
      · exact Or.inl (Or.inr (by simpa [Thread.unread, Function.update_of_ne hll] using hreads))

theorem start_inv (h : S.Inv rank) {t : T} {p : P} (hkeeps : Alone (acts p))
    (hord : Meets Thread.perform (InOrder rank) Thread.idle (acts p))
    (hs : step acts S (.start t p) = some S') : S'.Inv rank := by
  obtain ⟨htodo, hthread, hacts, hothers⟩ := start_cases hs
  have hidle := h.idle htodo
  refine ⟨fun u => ?_, fun u => ?_, ?_⟩
  · rw [hthread]
    by_cases hu : u = t
    · rw [hu, hacts, hidle]
      exact hkeeps
    · rw [hothers u hu]
      exact h.ends u
  · rw [hthread]
    by_cases hu : u = t
    · rw [hu, hacts, hidle]
      exact hord
    · rw [hothers u hu]
      exact h.inOrder u
  · rw [hthread]
    exact h.exclusive

omit [Fintype T] in
/-- Free acts keep writers apart from the others. -/
theorem act_exclusive (h : S.Inv rank) {t : T} {a : Act L M} (hfree : S.Free t a)
    (hth : (S.thread t).perform a = some (S'.thread t))
    (hothers : ∀ u, u ≠ t → S'.thread u = S.thread u) {v u : T} {l : L} (hne : u ≠ v)
    (hwrites : (S'.thread v).held.writes l = true) : ¬ Holds (S'.thread u) l := by
  intro hholds
  by_cases hv : v = t
  · -- the thread has the lock for writing
    subst hv
    rw [hothers u hne] at hholds
    obtain hold | rfl := writes_of_perform hth hwrites
    · exact h.exclusive v u l hne hold hholds
    · exact hfree u hne hholds
  · rw [hothers v hv] at hwrites
    by_cases hu : u = t
    · -- another one has
      subst hu
      obtain hold | hwants := holds_of_perform hth hholds
      · exact h.exclusive v u l hne hwrites hold
      · cases a with
        | rdlock l' =>
            cases hwants
            have hfalse := hfree v hv
            rw [hwrites] at hfalse
            cases hfalse
        | wrlock l' =>
            cases hwants
            exact hfree v hv (Or.inl hwrites)
        | unlock l' => cases hwants
        | enter => cases hwants
        | leave => cases hwants
        | note m => cases hwants
    · rw [hothers u hu] at hholds
      exact h.exclusive v u l hne hwrites hholds

theorem act_inv (h : S.Inv rank) {t : T} (hs : step acts S (.act t) = some S') :
    S'.Inv rank := by
  obtain ⟨a, htodo, hfree, hth, hothers⟩ := act_cases hs
  have hends := h.ends t
  have hord := h.inOrder t
  rw [htodo] at hends hord
  rw [run_cons _ hth] at hends
  refine ⟨fun u => ?_, fun u => ?_, fun v u l hne hwrites =>
    act_exclusive h hfree hth (fun u hu => (hothers u hu).1) hne hwrites⟩
  · by_cases hu : u = t
    · rw [hu]
      exact hends
    · rw [(hothers u hu).1, (hothers u hu).2]
      exact h.ends u
  · by_cases hu : u = t
    · rw [hu]
      exact (hord _ hth).2
    · rw [(hothers u hu).1, (hothers u hu).2]
      exact h.inOrder u

/-! ## Some thread can go on -/

omit [Fintype T] [DecidableEq T] [Fintype L] [DecidableEq L] in
/-- An act that is not free asks for a lock that another thread holds. -/
theorem exists_holder {t : T} {a : Act L M} (h : ¬ S.Free t a) :
    ∃ l u, wants a = some l ∧ u ≠ t ∧ Holds (S.thread u) l := by
  cases a with
  | rdlock l =>
      simp only [System.Free] at h
      push Not at h
      obtain ⟨u, hu, hwrites⟩ := h
      exact ⟨l, u, rfl, hu, Or.inl (by simpa using hwrites)⟩
  | wrlock l =>
      simp only [System.Free] at h
      push Not at h
      obtain ⟨u, hu, hholds⟩ := h
      exact ⟨l, u, rfl, hu, hholds⟩
  | unlock l => exact absurd trivial h
  | enter => exact absurd trivial h
  | leave => exact absurd trivial h
  | note m => exact absurd trivial h

omit [Fintype T] [DecidableEq T] in
/-- A thread that holds something has something left to do. -/
theorem System.Inv.todo_of_holds (h : S.Inv rank) {t : T} {l : L}
    (hholds : Holds (S.thread t) l) : ∃ a as, S.todo t = a :: as := by
  cases htodo : S.todo t with
  | nil =>
      rw [h.idle htodo] at hholds
      obtain hwrites | hreads := hholds
      · cases hwrites
      · exact absurd hreads (Nat.lt_irrefl 0)
  | cons a as => exact ⟨a, as, rfl⟩

omit [Fintype T] [DecidableEq T] in
/-- What is left to do begins with an act that the discipline allows. -/
theorem System.Inv.perform_isSome (h : S.Inv rank) {t : T} {a : Act L M} {as : List (Act L M)}
    (htodo : S.todo t = a :: as) : ((S.thread t).perform a).isSome := by
  have hends := h.ends t
  rw [htodo] at hends
  cases hth : (S.thread t).perform a with
  | none =>
      rw [run, hth] at hends
      cases hends
  | some th => rfl

omit [Fintype T] [DecidableEq T] in
/-- The holder of a lock goes on, or asks for a lock of a higher rank. -/
theorem holder_goes_on (h : S.Inv rank) {u : T} {l : L} (hholds : Holds (S.thread u) l)
    {b : Act L M} {bs : List (Act L M)} (htodo : S.todo u = b :: bs) :
    S.Free u b ∨ ∃ l', wants b = some l' ∧ rank l < rank l' := by
  obtain ⟨th, hth⟩ := Option.isSome_iff_exists.1 (h.perform_isSome htodo)
  have hord := h.inOrder u
  rw [htodo] at hord
  by_cases hfree : S.Free u b
  · exact Or.inl hfree
  · obtain ⟨l', w, hwants, hw, -⟩ := exists_holder hfree
    refine Or.inr ⟨l', hwants, (hord th hth).1 l' hwants l ?_ hholds⟩
    -- what it asks for is another lock: of this one it may ask for a read lock only, and no
    -- writer keeps that from it
    rintro rfl
    cases b with
    | rdlock l' =>
        cases hwants
        apply hfree
        intro v hv
        cases hwrites : (S.thread v).held.writes l with
        | false => rfl
        | true => exact absurd hholds (h.exclusive v u l hv.symm hwrites)
    | wrlock l' =>
        cases hwants
        simp only [Thread.perform, Option.ite_none_right_eq_some] at hth
        obtain ⟨⟨hreads, hwrites⟩, -⟩ := hth
        obtain hheld | hheld := hholds
        · rw [hwrites] at hheld
          cases hheld
        · omega
    | unlock l' => cases hwants
    | enter => cases hwants
    | leave => cases hwants
    | note m => cases hwants

/-- **Progress.**  The induction is on how many ranks there are above the lock that is asked for. -/
theorem progress (h : S.Inv rank) {t : T} (ht : S.todo t ≠ []) :
    ∃ u, (step acts S (.act u)).isSome := by
  have hbound : ∀ n t a as l, S.todo t = a :: as → wants a = some l →
      Finset.univ.sup rank < rank l + n → ∃ u, (step acts S (.act u)).isSome := by
    intro n
    induction n with
    | zero =>
        intro t a as l _ _ hlt
        have hle : rank l ≤ Finset.univ.sup rank := Finset.le_sup (Finset.mem_univ l)
        omega
    | succ n ih =>
        intro t a as l htodo hwants hlt
        by_cases hfree : S.Free t a
        · exact ⟨t, act_isSome htodo hfree (h.perform_isSome htodo)⟩
        · obtain ⟨l', u, hwants', -, hholds⟩ := exists_holder hfree
          cases hwants.symm.trans hwants'
          obtain ⟨b, bs, hb⟩ := h.todo_of_holds hholds
          obtain hfree' | ⟨l'', hwants'', hrank⟩ := holder_goes_on h hholds hb
          · exact ⟨u, act_isSome hb hfree' (h.perform_isSome hb)⟩
          · exact ih u b bs l'' hb hwants'' (by omega)
  obtain ⟨a, as, htodo⟩ := List.exists_cons_of_ne_nil ht
  by_cases hfree : S.Free t a
  · exact ⟨t, act_isSome htodo hfree (h.perform_isSome htodo)⟩
  · obtain ⟨l, -, hwants, -, -⟩ := exists_holder hfree
    exact hbound (Finset.univ.sup rank + 1) t a as l htodo hwants (by omega)

/-! ## Runs to the ends -/

/-- What is left for all the threads. -/
def System.left (S : System T L M) : ℕ := ∑ t, (S.todo t).length

theorem act_left {t : T} (hs : step acts S (.act t) = some S') : S'.left < S.left := by
  obtain ⟨a, htodo, -, -, hothers⟩ := act_cases hs
  apply Finset.sum_lt_sum
  · intro u _
    by_cases hu : u = t
    · rw [hu, htodo, List.length_cons]
      omega
    · rw [(hothers u hu).2]
  · refine ⟨t, Finset.mem_univ t, ?_⟩
    rw [htodo, List.length_cons]
    omega

theorem System.Inv.completable (h : S.Inv rank) : Completable acts S := by
  induction hn : S.left using Nat.strong_induction_on generalizing S with
  | _ n ih =>
      by_cases hdone : ∀ t, S.todo t = []
      · exact ⟨[], S, rfl, fun t => ⟨hdone t, h.idle (hdone t)⟩⟩
      · push Not at hdone
        obtain ⟨t, ht⟩ := hdone
        obtain ⟨u, hu⟩ := @progress T L M P _ _ _ _ acts rank S h t ht
        obtain ⟨S', hs⟩ := Option.isSome_iff_exists.1 hu
        obtain ⟨ts, S'', hrun, hdone⟩ := ih S'.left (hn ▸ act_left hs) (act_inv h hs) rfl
        refine ⟨u :: ts, S'', ?_, hdone⟩
        rw [List.map_cons, run_cons _ hs, hrun]

/-- What a thread has done, it has done as if it were alone. -/
theorem run_thread (t : T) {ts : List T}
    (hrun : run (step acts) S (ts.map Event.act) = some S') :
    ∃ as, S.todo t = as ++ S'.todo t ∧
      run Thread.perform (S.thread t) as = some (S'.thread t) := by
  induction ts generalizing S with
  | nil =>
      cases hrun
      exact ⟨[], rfl, rfl⟩
  | cons u ts ih =>
      obtain ⟨S₁, hs, hrun⟩ := run_cons_inv hrun
      obtain ⟨as, htodo, hperform⟩ := ih hrun
      obtain ⟨a, hu, -, hth, hothers⟩ := act_cases hs
      by_cases ht : t = u
      · subst ht
        refine ⟨a :: as, ?_, ?_⟩
        · rw [hu, htodo, List.cons_append]
        · rw [run_cons _ hth, hperform]
      · rw [← (hothers t ht).1, ← (hothers t ht).2]
        exact ⟨as, htodo, hperform⟩

/-- A program that does not keep the discipline does not come to its end. -/
theorem not_completable_of_start (h : S.Inv rank) {t : T} {p : P} (hp : ¬ Alone (acts p))
    (hs : step acts S (.start t p) = some S') : ¬ Completable acts S' := by
  rintro ⟨ts, S'', hrun, hdone⟩
  obtain ⟨htodo, hthread, hacts, -⟩ := start_cases hs
  obtain ⟨as, has, hperform⟩ := run_thread t hrun
  rw [(hdone t).1, List.append_nil, hacts] at has
  rw [(hdone t).2, hthread, h.idle htodo, ← has] at hperform
  exact hp hperform

/-- **No run gets stuck** exactly when each program that begins keeps the discipline, where the
programs take their locks in order. -/
theorem always_completable_iff
    (hord : ∀ p, Meets Thread.perform (InOrder rank) Thread.idle (acts p))
    (es : List (Event T P)) :
    Always (step acts) (Completable acts) (System.init : System T L M) es ↔
      Meets (step acts) (fun _ e => e.Keeps acts) System.init es := by
  have hcompletable : ∀ S : System T L M, S.Inv rank → Completable acts S :=
    fun S h => h.completable
  refine always_iff_meets hcompletable ?_ ?_ inv_init es
  · intro S e S' h hkeeps hs
    cases e with
    | start t p => exact start_inv h hkeeps (hord p) hs
    | act t => exact act_inv h hs
  · intro S e S' h hkeeps hs
    cases e with
    | start t p => exact not_completable_of_start h hkeeps hs
    | act t => exact absurd trivial hkeeps

end Steps

/-! ## Lists of acts that take their locks in order -/

section Fits

variable {ok : Thread L → M → Prop} {rank : L → ℕ} {t : Thread L} {as bs : List (Act L M)} {l : L}

/-- What the thread holds of other locks ranks below. -/
def Below (rank : L → ℕ) (t : Thread L) (l : L) : Prop :=
  ∀ l', l' ≠ l → Holds t l' → rank l' < rank l

/-- All that the thread holds ranks below `n`. -/
def AllBelow (rank : L → ℕ) (t : Thread L) (n : ℕ) : Prop := ∀ l, Holds t l → rank l < n

omit [Fintype L] in
theorem AllBelow.setWrite {n m : ℕ} (h : AllBelow rank t n) (hl : rank l < m) (hle : n ≤ m)
    (b : Bool) : AllBelow rank (t.setWrite l b) m := by
  intro l' hholds
  by_cases hll : l' = l
  · rw [hll]
    exact hl
  · refine lt_of_lt_of_le (h l' ?_) hle
    simpa [Holds, Thread.setWrite, Function.update_of_ne hll] using hholds

/-- The notes decide whether the acts keep the discipline, and the locks are taken in order. -/
structure Fits (ok : Thread L → M → Prop) (rank : L → ℕ) (t : Thread L) (as : List (Act L M)) :
    Prop where
  decided : DecidedBy ok t as
  inOrder : Meets Thread.perform (InOrder rank) t as

theorem fits_nil : Fits ok rank t ([] : List (Act L M)) := ⟨decidedBy_nil, trivial⟩

theorem Fits.append (h : Fits ok rank t as) (h' : Fits ok rank t bs) :
    Fits ok rank t (as ++ bs) := by
  refine ⟨h.decided.append h'.decided, (meets_append _ _ _).2 ⟨h.inOrder, fun t' ht' => ?_⟩⟩
  obtain ⟨-, hrun⟩ | ⟨-, hrun⟩ := h.decided
  · cases hrun.symm.trans ht'
    exact h'.inOrder
  · cases hrun.symm.trans ht'

theorem Fits.flatten {parts : List (List (Act L M))} (h : ∀ p ∈ parts, Fits ok rank t p) :
    Fits ok rank t parts.flatten := by
  induction parts with
  | nil => exact fits_nil
  | cons p parts ih =>
      rw [List.flatten_cons]
      exact (h p List.mem_cons_self).append (ih fun q hq => h q (List.mem_cons_of_mem p hq))

/-- Acts between a lock and its unlock. -/
theorem Fits.locked {t' : Thread L} {first : Act L M}
    (hdecided : DecidedBy ok t (first :: as ++ [.unlock l])) (hfirst : t.perform first = some t')
    (hwants : wants first = some l) (hbelow : Below rank t l)
    (h : Meets Thread.perform (InOrder rank) t' as) :
    Fits ok rank t (first :: as ++ [.unlock l]) := by
  refine ⟨hdecided, ?_⟩
  rw [List.cons_append, meets_cons hfirst, meets_append]
  refine ⟨?_, h, fun s hs s' hs' => ⟨?_, trivial⟩⟩
  · intro l' hl'
    cases hwants.symm.trans hl'
    exact hbelow
  · rintro l' ⟨⟩

/-- A section under a read lock. -/
theorem Fits.readLocked (hl : t.held.writes l = false) (hbelow : Below rank t l)
    (h : Fits ok rank (t.read l) as) : Fits ok rank t (.rdlock l :: as ++ [.unlock l]) := by
  have hlock : t.perform (.rdlock l : Act L M) = some (t.read l) := by
    simp [Thread.perform, hl]
  exact Fits.locked (h.decided.readLocked hl) hlock rfl hbelow h.inOrder

/-- A section under a write lock, or under a mutex. -/
theorem Fits.writeLocked (hfree : ¬ Holds t l) (hbelow : Below rank t l)
    (h : Fits ok rank (t.setWrite l true) as) :
    Fits ok rank t (.wrlock l :: as ++ [.unlock l]) := by
  have hl : t.held.writes l = false := by
    cases hwrites : t.held.writes l with
    | false => rfl
    | true => exact absurd (Or.inl hwrites) hfree
  have hr : t.held.reads l = 0 := by
    by_contra hne
    exact hfree (Or.inr (Nat.pos_of_ne_zero hne))
  have hlock : t.perform (.wrlock l : Act L M) = some (t.setWrite l true) := by
    simp [Thread.perform, hl, hr]
  exact Fits.locked (h.decided.writeLocked hl hr) hlock rfl hbelow h.inOrder

/-- A section under a mutex that ranks above all that is held. -/
theorem Fits.guarded (hbelow : AllBelow rank t (rank l)) (h : Fits ok rank (t.setWrite l true) as) :
    Fits ok rank t (.wrlock l :: as ++ [.unlock l]) :=
  h.writeLocked (fun hl => lt_irrefl _ (hbelow l hl)) fun l' _ hl' => hbelow l' hl'

/-- Acts that ask for no other lock. -/
theorem meets_inOrder (hbelow : Below rank t l) (h : ∀ a ∈ as, ∀ l' ∈ wants a, l' = l) :
    Meets Thread.perform (InOrder rank) t as := by
  induction as generalizing t with
  | nil => trivial
  | cons a as ih =>
      have hwants := h a List.mem_cons_self
      intro t' ht'
      constructor
      · intro l' hl'
        rw [hwants l' hl']
        exact hbelow
      · apply ih
        · -- what is held of other locks has not grown
          intro l' hne hl'
          obtain hheld | hasked := holds_of_perform ht' hl'
          · exact hbelow l' hne hheld
          · exact absurd (hwants l' hasked) hne
        · intro b hb
          exact h b (List.mem_cons_of_mem a hb)

/-- A read lock that is given up for the write lock, and taken back. -/
theorem fits_upgraded {m : M} (hl : t.held.writes l = false) (hm : ok t m ↔ t.held.reads l = 1)
    (hbelow : Below rank t l) :
    Fits ok rank t [.note m, .unlock l, .wrlock l, .unlock l, .rdlock l] := by
  refine ⟨decidedBy_upgraded hl hm, meets_inOrder hbelow ?_⟩
  simp [wants]

end Fits

end LockOrder
