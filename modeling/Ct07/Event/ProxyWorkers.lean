/-
# The proxy workers and their condition variable

The threads behind the job queues, one level below `JobQueue`: the locked sections of
`mtkProxyTimerFired` and `mtkProxyWorker` action by action, with the mutex `s_proxyQMutex` and the
condition variable `s_proxyQCond`, on which the workers of all channels sleep.

* `proxies` : the sections, over the steps of the job queues;
* `Kept` : where each thread is, and what it can rely on there;
* `no_job_stranded` : the queues are those of `JobQueue`, and no worker sleeps over a job.
-/
import Ct07.Event.JobQueue
import Ct07.Lib.Monitor

open PartialStep

namespace MtkProxy

/-! ## Threads and sections -/

inductive Thread where
  /-- the event loop, on which the timers fire -/
  | eventLoop
  | worker (w : ℕ)
  /-- any thread that requests a callback -/
  | vendor
  deriving DecidableEq

/-- The timer of `j` has not fired. -/
def State.Unfired (s : State) (j : ℕ) : Prop := (s.job j).map Job.fired = some false

instance (s : State) (j : ℕ) : Decidable (s.Unfired j) := inferInstanceAs (Decidable (_ = _))

/-- Worker `w` works for channel `ch`, and has no job in hand. -/
def State.Idle (s : State) (w ch : ℕ) : Prop := s.workers[w]? = some ⟨ch, none⟩

instance (s : State) (w ch : ℕ) : Decidable (s.Idle w ch) := inferInstanceAs (Decidable (_ = _))

/-- The locked section of `mtkProxyTimerFired`. -/
def timerFiredSection (j : ℕ) (created : Bool) : List (Monitor.Act ℕ Event) :=
  [.perform (.timerFired j created), .broadcast]

/-- The locked section of `mtkProxyWorker`. -/
def workerSection (w ch : ℕ) : List (Monitor.Act ℕ Event) := [.await ch, .perform (.take w)]

/-- A condition is a channel, whose queue is not empty. -/
def proxies : Monitor.Component Thread ℕ Event State where
  holds := fun ch s => (s.queue ch).head.isSome
  step := step
  enters := fun t s p =>
    match t, p with
    | .eventLoop, [.perform (.timerFired j _), .broadcast] => decide (s.Unfired j)
    | .worker w, [.await ch, .perform (.take w')] => decide (w' = w) && decide (s.Idle w ch)
    | _, _ => false
  free := fun t _ e =>
    match t, e with
    | .vendor, .request _ _ => true
    -- the callback is run, and the job freed, behind the section
    | .worker w, .run w' => decide (w' = w)
    | _, _ => false

theorem proxies_enters {t : Thread} {s : State} {p : List (Monitor.Act ℕ Event)}
    (h : proxies.enters t s p = true) :
    (t = .eventLoop ∧ ∃ j created, p = timerFiredSection j created ∧ s.Unfired j) ∨
      ∃ w ch, t = .worker w ∧ p = workerSection w ch ∧ s.Idle w ch := by
  simp only [proxies] at h
  split at h
  · exact Or.inl ⟨rfl, _, _, rfl, of_decide_eq_true h⟩
  · rename_i w ch w'
    simp only [Bool.and_eq_true, decide_eq_true_eq] at h
    obtain ⟨rfl, hidle⟩ := h
    exact Or.inr ⟨_, ch, rfl, rfl, hidle⟩
  · exact nomatch h

theorem proxies_free {t : Thread} {s : State} {e : Event} (h : proxies.free t s e = true) :
    (∃ j proxyId, e = .request j proxyId) ∨ ∃ w, t = .worker w ∧ e = .run w := by
  simp only [proxies] at h
  split at h
  · exact Or.inl ⟨_, _, rfl⟩
  · rw [decide_eq_true_eq] at h
    exact Or.inr ⟨_, rfl, by rw [h]⟩
  · exact nomatch h

/-! ## What the steps of the queues leave alone -/

section Frame

variable {s s' : State}

theorem requestJob_frame {j : ℕ} {proxyId : ℤ} (hs : requestJob s j proxyId = some s') :
    s'.queue = s.queue ∧ s'.workers = s.workers ∧ ∀ i, s.Unfired i → s'.Unfired i := by
  simp only [requestJob, Option.ite_none_right_eq_some, Option.some.injEq] at hs
  obtain ⟨hfree, rfl⟩ := hs
  refine ⟨rfl, rfl, fun i hi => ?_⟩
  have hne : i ≠ j := by
    rintro rfl
    simp [State.Unfired, hfree] at hi
  simpa [State.Unfired, Function.update_of_ne hne] using hi

theorem runJob_frame {q : ℕ → List ℕ} (h : Inv s q) {w : ℕ} {worker : Worker} {j : ℕ}
    (hw : s.workers[w]? = some worker) (hj : worker.job = some j)
    (hs : runJob s w worker j = some s') :
    s'.queue = s.queue ∧ (∀ v, v ≠ w → s'.workers[v]? = s.workers[v]?) ∧
      ∀ i, s.Unfired i → s'.Unfired i := by
  obtain ⟨job, hjob, hfired, -⟩ := h.hand worker (List.mem_of_getElem? hw) j hj
  simp only [runJob, hjob, Option.bind_eq_bind, Option.bind_some, Option.some.injEq] at hs
  subst hs
  refine ⟨rfl, fun v hv => ?_, fun i hi => ?_⟩
  · exact List.getElem?_set_ne (Ne.symm hv)
  · have hne : i ≠ j := by
      rintro rfl
      simp [State.Unfired, hjob, hfired] at hi
    simpa [State.Unfired, Function.update_of_ne hne] using hi

theorem takeJob_frame {w : ℕ} {worker : Worker} (hs : takeJob s w worker = some s') :
    (s.queue worker.ch).head.isSome ∧ (∀ ch, ch ≠ worker.ch → s'.queue ch = s.queue ch) ∧
      s'.job = s.job ∧ ∀ v, v ≠ w → s'.workers[v]? = s.workers[v]? := by
  simp only [takeJob, Option.bind_eq_bind, Option.bind_eq_some_iff, Option.some.injEq] at hs
  obtain ⟨j, hhead, job, -, rfl⟩ := hs
  refine ⟨by simp [hhead], fun ch hch => Function.update_of_ne hch _ _, rfl, fun v hv => ?_⟩
  exact List.getElem?_set_ne (Ne.symm hv)

/-- A worker that was there is still there. -/
theorem mtkProxyTimerFired_workers {j : ℕ} {created : Bool}
    (hs : mtkProxyTimerFired s j created = some s') {w : ℕ} {worker : Worker}
    (hw : s.workers[w]? = some worker) : s'.workers[w]? = some worker := by
  simp only [mtkProxyTimerFired, Option.bind_eq_bind, Option.bind_eq_some_iff,
    Option.ite_none_right_eq_some, Option.some.injEq] at hs
  obtain ⟨job, -, -, rfl⟩ := hs
  unfold startWorker
  split
  · obtain ⟨hlt, -⟩ := List.getElem?_eq_some_iff.1 hw
    change (s.workers ++ _)[w]? = _
    rw [List.getElem?_append_left hlt]
    exact hw
  · exact hw

/-- Only a timer that fires makes a queue non-empty. -/
theorem quiet_of_ne {e : Event} (he : ∀ j created, e ≠ .timerFired j created) :
    proxies.Quiet e := by
  intro s s' ch hs hholds
  simp only [proxies] at hs hholds ⊢
  cases e with
  | request j proxyId =>
      obtain ⟨hqueue, -, -⟩ := requestJob_frame hs
      rw [← hqueue]
      exact hholds
  | timerFired j created => exact absurd rfl (he j created)
  | take w =>
      simp only [step, Option.bind_eq_bind, Option.bind_eq_some_iff,
        Option.ite_none_right_eq_some] at hs
      obtain ⟨worker, -, -, hs⟩ := hs
      obtain ⟨hhead, hother, -, -⟩ := takeJob_frame hs
      by_cases hch : ch = worker.ch
      · rw [hch]
        exact hhead
      · rw [← hother ch hch]
        exact hholds
  | run w =>
      simp only [step, runJob, Option.bind_eq_bind, Option.bind_eq_some_iff,
        Option.some.injEq] at hs
      obtain ⟨worker, -, j, -, job, -, rfl⟩ := hs
      exact hholds

/-- The timers are announced, and nothing else has to be. -/
theorem proxies_disciplined : proxies.Disciplined where
  sections := fun t s p hp => by
    rcases proxies_enters hp with ⟨-, j, created, rfl, -⟩ | ⟨w, ch, -, rfl, -⟩
    · exact ⟨Or.inr rfl, trivial⟩
    · exact ⟨Or.inl (quiet_of_ne (by simp)), trivial⟩
  free := fun t s e he => by
    rcases proxies_free he with ⟨j, proxyId, rfl⟩ | ⟨w, -, rfl⟩
    · exact quiet_of_ne (by simp)
    · exact quiet_of_ne (by simp)

end Frame

/-! ## Where the threads are -/

/-- What a thread can rely on at its place. -/
def Fits (s : State) : Thread → Monitor.Place ℕ Event → Prop
  | _, .outside => True
  | .eventLoop, .entering p => ∃ j created, p = timerFiredSection j created ∧ s.Unfired j
  | .eventLoop, .inside p =>
      (∃ j created, p = timerFiredSection j created ∧ s.Unfired j) ∨ p = [.broadcast] ∨ p = []
  | .worker w, .entering p => ∃ ch, p = workerSection w ch ∧ s.Idle w ch
  | .worker w, .waiting ch p => p = [.perform (.take w)] ∧ s.Idle w ch
  | .worker w, .inside p => p = [] ∨ ∃ ch, s.Idle w ch ∧ (p = workerSection w ch ∨
      p = [.perform (.take w)] ∧ (s.queue ch).head.isSome)
  | _, _ => False

structure Kept (s : Monitor.State Thread ℕ Event State) : Prop where
  sound : Monitor.Sound proxies s
  queues : ∃ q, Inv s.data q
  fits : ∀ t, Fits s.data t (s.place t)

theorem kept_init : Kept (Monitor.State.init State.init) where
  sound := Monitor.sound_init proxies State.init
  queues := ⟨_, inv_init⟩
  fits := fun t => by
    cases t <;> exact trivial

/-- What a thread relies on is not taken away by others. -/
theorem Fits.congr {s s' : State} {t : Thread} {place : Monitor.Place ℕ Event}
    (h : Fits s t place) (hunfired : t = .eventLoop → ∀ j, s.Unfired j → s'.Unfired j)
    (hidle : ∀ w, t = .worker w → ∀ ch, s.Idle w ch → s'.Idle w ch)
    (hhead : (∃ p, place = .inside p) → ∀ ch, (s.queue ch).head.isSome →
      (s'.queue ch).head.isSome) : Fits s' t place := by
  cases t with
  | eventLoop =>
      cases place with
      | outside => trivial
      | entering p =>
          obtain ⟨j, created, hp, hj⟩ := h
          exact ⟨j, created, hp, hunfired rfl j hj⟩
      | inside p =>
          rcases h with ⟨j, created, hp, hj⟩ | h
          · exact Or.inl ⟨j, created, hp, hunfired rfl j hj⟩
          · exact Or.inr h
      | waiting ch p => exact h
  | worker w =>
      cases place with
      | outside => trivial
      | entering p =>
          obtain ⟨ch, hp, hw⟩ := h
          exact ⟨ch, hp, hidle w rfl ch hw⟩
      | inside p =>
          rcases h with h | ⟨ch, hw, hp⟩
          · exact Or.inl h
          · refine Or.inr ⟨ch, hidle w rfl ch hw, ?_⟩
            rcases hp with hp | ⟨hp, hsome⟩
            · exact Or.inl hp
            · exact Or.inr ⟨hp, hhead ⟨p, rfl⟩ ch hsome⟩
      | waiting ch p => exact ⟨h.1, hidle w rfl ch h.2⟩
  | vendor =>
      cases place with
      | outside => trivial
      | entering | inside | waiting => exact h

section Step

variable {s s' : Monitor.State Thread ℕ Event State}

/-- The places after a thread has moved, when the data stay. -/
theorem Kept.fits_moveTo (h : Kept s) {t : Thread} {place : Monitor.Place ℕ Event}
    (hplace : Fits s.data t place) (u : Thread) : Fits s.data u ((s.moveTo t place).place u) := by
  rw [Monitor.moveTo_place]
  split
  · rename_i heq
    rw [heq]
    exact hplace
  · exact h.fits u

/-- The places after the thread inside has taken a step of the data. -/
theorem Kept.fits_perform (h : Kept s) {t : Thread} {p q : List (Monitor.Act ℕ Event)}
    {data : State} (ht : s.place t = .inside p) (hplace : Fits data t (.inside q))
    (hunfired : t ≠ .eventLoop → ∀ j, s.data.Unfired j → data.Unfired j)
    (hidle : ∀ w, t ≠ .worker w → ∀ ch, s.data.Idle w ch → data.Idle w ch) (u : Thread) :
    Fits data u ((s.moveTo t (.inside q)).place u) := by
  rw [Monitor.moveTo_place]
  split
  · rename_i heq
    rw [heq]
    exact hplace
  · rename_i hne
    refine (h.fits u).congr (fun hu => hunfired ?_) (fun w hu => hidle w ?_) ?_
    · rw [← hu]
      exact Ne.symm hne
    · rw [← hu]
      exact Ne.symm hne
    · -- nobody else is inside
      rintro ⟨r, hr⟩
      exact absurd (h.sound.unique hr ht) hne

/-- The thread inside takes its step. -/
theorem perform_fits (h : Kept s) {t : Thread} {e : Event} {p : List (Monitor.Act ℕ Event)}
    {data : State} (ht : s.place t = .inside (.perform e :: p)) (hs : step s.data e = some data)
    (u : Thread) : Fits data u ((s.moveTo t (.inside p)).place u) := by
  have hfits := h.fits t
  rw [ht] at hfits
  cases t with
  | eventLoop =>
      rcases hfits with ⟨j, created, hp, -⟩ | hp | hp
      · cases hp
        rw [step, Option.ite_none_right_eq_some] at hs
        refine h.fits_perform ht (Or.inr (Or.inl rfl)) (fun hne => absurd rfl hne) ?_ u
        intro w _ ch hw
        exact mtkProxyTimerFired_workers hs.2 hw
      · cases hp
      · cases hp
  | worker w =>
      rcases hfits with hp | ⟨ch, hw, hp | ⟨hp, -⟩⟩
      · cases hp
      · cases hp
      · cases hp
        simp only [step, Option.bind_eq_bind, Option.bind_eq_some_iff,
          Option.ite_none_right_eq_some] at hs
        obtain ⟨worker, -, -, hs⟩ := hs
        obtain ⟨-, -, hjob, hworkers⟩ := takeJob_frame hs
        refine h.fits_perform ht (Or.inl rfl) (fun _ j hj => ?_) (fun v hne ch' hv => ?_) u
        · unfold State.Unfired at hj ⊢
          rw [hjob]
          exact hj
        · have hvw : v ≠ w := by
            rintro rfl
            exact hne rfl
          exact (hworkers v hvw).trans hv
  | vendor => exact hfits.elim

/-- A step without the mutex. -/
theorem free_fits (h : Kept s) {t : Thread} {e : Event} {data : State}
    (ht : s.place t = .outside) (hfree : proxies.free t s.data e = true)
    (hs : step s.data e = some data) (u : Thread) : Fits data u (s.place u) := by
  obtain ⟨q, hq⟩ := h.queues
  rcases proxies_free hfree with ⟨j, proxyId, rfl⟩ | ⟨w, rfl, rfl⟩
  · obtain ⟨hqueue, hworkers, hunfired⟩ := requestJob_frame hs
    refine (h.fits u).congr (fun _ => hunfired) (fun v _ ch hv => ?_) fun _ ch hch => ?_
    · unfold State.Idle at hv ⊢
      rw [hworkers]
      exact hv
    · rw [hqueue]
      exact hch
  · simp only [step, Option.bind_eq_bind, Option.bind_eq_some_iff] at hs
    obtain ⟨worker, hw, j, hj, hs⟩ := hs
    obtain ⟨hqueue, hworkers, hunfired⟩ := runJob_frame hq hw hj hs
    refine (h.fits u).congr (fun _ => hunfired) (fun v hu ch hv => ?_) fun _ ch hch => ?_
    · have hvw : v ≠ w := by
        rintro rfl
        unfold State.Idle at hv
        cases hw.symm.trans hv
        cases hj
      exact (hworkers v hvw).trans hv
    · rw [hqueue]
      exact hch

/-- **One step.** -/
theorem step_kept (h : Kept s) {e : Monitor.Event Thread ℕ Event}
    (hs : Monitor.step proxies s e = some s') : Kept s' := by
  have hsound := Monitor.step_sound proxies_disciplined h.sound hs
  have hqueues : ∃ q, Inv s'.data q := by
    obtain ⟨q, hq⟩ := h.queues
    rcases Monitor.step_data hs with hdata | ⟨a, ha⟩
    · rw [hdata]
      exact ⟨q, hq⟩
    · exact step_inv hq ha
  refine ⟨hsound, hqueues, fun u => ?_⟩
  cases Monitor.step_transition hs with
  | enter t p ht henters =>
      refine h.fits_moveTo ?_ u
      rcases proxies_enters henters with ⟨rfl, j, created, rfl, hj⟩ | ⟨w, ch, rfl, rfl, hw⟩
      · exact ⟨j, created, rfl, hj⟩
      · exact ⟨ch, rfl, hw⟩
  | lock t p ht howner =>
      have hfits := h.fits t
      rw [ht] at hfits
      refine h.fits_moveTo ?_ u
      cases t with
      | eventLoop => exact Or.inl hfits
      | worker w =>
          obtain ⟨ch, hp, hw⟩ := hfits
          exact Or.inr ⟨ch, hw, Or.inl hp⟩
      | vendor => exact hfits.elim
  | unlock t ht => exact h.fits_moveTo (by cases t <;> trivial) u
  | pass t ch p ht hholds =>
      have hfits := h.fits t
      rw [ht] at hfits
      refine h.fits_moveTo ?_ u
      cases t with
      | eventLoop => rcases hfits with ⟨j, created, hp, -⟩ | hp | hp <;> exact nomatch hp
      | worker w =>
          rcases hfits with hp | ⟨ch', hw, hp | ⟨hp, -⟩⟩
          · exact nomatch hp
          · cases hp
            exact Or.inr ⟨ch, hw, Or.inr ⟨rfl, hholds⟩⟩
          · exact nomatch hp
      | vendor => exact hfits.elim
  | sleep t ch p ht hholds =>
      have hfits := h.fits t
      rw [ht] at hfits
      refine h.fits_moveTo ?_ u
      cases t with
      | eventLoop => rcases hfits with ⟨j, created, hp, -⟩ | hp | hp <;> exact nomatch hp
      | worker w =>
          rcases hfits with hp | ⟨ch', hw, hp | ⟨hp, -⟩⟩
          · exact nomatch hp
          · cases hp
            exact ⟨rfl, hw⟩
          · exact nomatch hp
      | vendor => exact hfits.elim
  | perform t a p data ht hstep => exact perform_fits h ht hstep u
  | broadcast t p ht =>
      have hfits := h.fits t
      rw [ht] at hfits
      have hloop : t = .eventLoop ∧ p = [] := by
        cases t with
        | eventLoop =>
            rcases hfits with ⟨j, created, hp, -⟩ | hp | hp
            · exact nomatch hp
            · cases hp
              exact ⟨rfl, rfl⟩
            · exact nomatch hp
        | worker w => rcases hfits with hp | ⟨ch', hw, hp | ⟨hp, -⟩⟩ <;> exact nomatch hp
        | vendor => exact hfits.elim
      obtain ⟨rfl, rfl⟩ := hloop
      show Fits s.data u
        (Function.update (fun v => (s.place v).woken) .eventLoop (.inside []) u)
      by_cases hu : u = .eventLoop
      · subst hu
        rw [Function.update_self]
        exact Or.inr (Or.inr rfl)
      · rw [Function.update_of_ne hu]
        have hold := h.fits u
        cases hplace : s.place u with
        | waiting ch q =>
            rw [hplace] at hold
            cases u with
            | worker w =>
                obtain ⟨rfl, hw⟩ := hold
                exact ⟨ch, rfl, hw⟩
            | eventLoop => exact absurd rfl hu
            | vendor => exact hold.elim
        | outside | entering q | inside q =>
            rw [hplace] at hold
            exact hold
  | wake t ch p ht =>
      have hfits := h.fits t
      rw [ht] at hfits
      refine h.fits_moveTo ?_ u
      cases t with
      | worker w =>
          obtain ⟨rfl, hw⟩ := hfits
          exact ⟨ch, rfl, hw⟩
      | eventLoop => exact hfits.elim
      | vendor => exact hfits.elim
  | free t a data ht hfree hstep => exact free_fits h ht hfree hstep u

/-- The thread inside can always take its step: it follows no null pointer. -/
theorem Kept.perform_isSome (h : Kept s) {t : Thread} {e : Event}
    {p : List (Monitor.Act ℕ Event)} (ht : s.place t = .inside (.perform e :: p)) :
    (step s.data e).isSome := by
  obtain ⟨q, hq⟩ := h.queues
  have hlive := hq.fifo.live
  have hfits := h.fits t
  rw [ht] at hfits
  cases t with
  | eventLoop =>
      rcases hfits with ⟨j, created, hp, hj⟩ | hp | hp
      · cases hp
        exact hlive.timerFired j created hj
      · exact nomatch hp
      · exact nomatch hp
  | worker w =>
      rcases hfits with hp | ⟨ch, hw, hp | ⟨hp, hhead⟩⟩
      · exact nomatch hp
      · exact nomatch hp
      · cases hp
        exact hlive.take w ⟨ch, none⟩ hw rfl (Option.isSome_iff_ne_none.1 hhead)
  | vendor => exact hfits.elim

end Step

/-! ## Main result -/

/-- The queues are in order; a worker that sleeps although there is a job for it is going to be
woken by the thread inside; and when no thread can go on, every worker has run its callback to the
end and taken all the jobs of its channel, or it is on its way back to the mutex. -/
structure NoneStranded (s : Monitor.State Thread ℕ Event State) : Prop where
  fifo : ∃ q, s.data.Fifo q
  exclusive : ∀ t u p q, s.place t = .inside p → s.place u = .inside q → t = u
  woken : ∀ w ch p, s.place (.worker w) = .waiting ch p → (s.data.queue ch).head ≠ none →
    ∃ t q, s.place t = .inside q ∧ Monitor.announced q = true
  taken : (∀ t, Monitor.step proxies s (.lock t) = none ∧ Monitor.step proxies s (.go t) = none) →
    ∀ (w : ℕ) (worker : Worker), s.data.workers[w]? = some worker →
      s.place (.worker w) = .outside ∨ (s.data.queue worker.ch).head = none

theorem Kept.noneStranded {s : Monitor.State Thread ℕ Event State} (h : Kept s) :
    NoneStranded s where
  fifo := by
    obtain ⟨q, hq⟩ := h.queues
    exact ⟨q, hq.fifo⟩
  exclusive := fun t u p q ht hu => h.sound.unique ht hu
  woken := fun w ch p hplace hhead =>
    h.sound.announced _ ch p hplace (Option.isSome_iff_ne_none.2 hhead)
  taken := by
    intro hstuck w worker hw
    rcases h.sound.stuck (fun t => (hstuck t).1) (fun t => (hstuck t).2) with
      ⟨t, e, p, ht, hnone⟩ | hall
    · have hsome := h.perform_isSome ht
      rw [show step s.data e = none from hnone] at hsome
      exact nomatch hsome
    · rcases hall (.worker w) with hout | ⟨ch, p, hplace, hempty⟩
      · exact Or.inl hout
      · have hfits := h.fits (.worker w)
        rw [hplace] at hfits
        -- it sleeps for its own channel
        have hidle : s.data.workers[w]? = some ⟨ch, none⟩ := hfits.2
        cases hidle.symm.trans hw
        exact Or.inr (Option.not_isSome_iff_eq_none.1 (Bool.eq_false_iff.1 hempty))

/-- **No job is stranded.**  However the event loop, the workers of all channels and the threads
that request callbacks interleave at the mutex and the condition variable, whenever workers are
woken for no reason, and whenever a worker cannot be created: the queues are those of the job
queues, no two threads are inside, no wake-up of a worker is lost, and no job stays in the queue of
a worker that is not running a callback once no thread can go on. -/
theorem no_job_stranded (es : List (Monitor.Event Thread ℕ Event)) :
    Always (Monitor.step proxies) NoneStranded (Monitor.State.init State.init) es :=
  (always_of_step (fun _ _ _ h hs => step_kept h hs) kept_init es).mono fun _ h => h.noneStranded

end MtkProxy
