/-
# Proxy timed callbacks from the request to the worker

`RIL_requestProxyTimedCallbackMtk` makes a job and adds a timer for it.  The job goes from
the timer list to the pending list, is handed on when its timer fires, and is queued for
the worker of its channel by `mtkProxyTimerFired`.

The order of the requests of a channel survives all queues but the first: `ril_timer_add`
inserts a timer in front of those that are due at the same time.

Main result: `inOrder_iff_noTie`.
-/
import Ct07.Event.JobQueue
import Ct07.Event.Timers

open PartialStep RilEvent Ril

namespace MtkProxy.Fifo

/-! ## State -/

/-- What a timer of the event loop is for. -/
inductive Task where
  /-- `mtkProxyTimerFired` with the job at address `j` -/
  | proxy (j : ℕ)
  | other
  deriving DecidableEq

/-- The timers, the job queues, and the jobs whose timer has fired and which have not been
handed on yet.  `requested` and `deadlines` are records of the requests of each channel. -/
structure State where
  timers : RilEvent.State Task
  jobs : MtkProxy.State
  handed : List ℕ
  requested : ℕ → List ℕ
  deadlines : ℕ → List ℕ

def State.init (now : TimeVal) : State where
  timers := .init Task now
  jobs := .init
  handed := []
  requested := fun _ => []
  deadlines := fun _ => []

/-- The job of a timer. -/
def taskJob (e : Entry Task) : Option ℕ :=
  match e.param with
  | some (.proxy j) => some j
  | _ => none

/-- The jobs of some timers. -/
def jobsIn (l : List (Entry Task)) : List ℕ := l.filterMap taskJob

/-- The job at address `j` is one of channel `ch`. -/
def isOf (jobs : MtkProxy.State) (ch j : ℕ) : Bool := decide ((jobs.job j).map Job.ch = some ch)

/-- The requests of channel `ch` among some jobs. -/
def ofChannel (jobs : MtkProxy.State) (ch : ℕ) (l : List ℕ) : List ℕ :=
  (l.filter (isOf jobs ch)).map jobs.number

/-- The jobs on the way to the job queues, those that are ahead first. -/
def State.waiting (s : State) : List ℕ :=
  s.handed ++ jobsIn s.timers.pendingEntries ++ jobsIn s.timers.timerEntries

/-! ## Steps -/

/-- What the callback that is run next is for. -/
def calledBack (t : RilEvent.State Task) : Option ℕ :=
  match t.pc with
  | .firing ev => if ev ≠ .pendingList then taskJob (t.entry ev) else none
  | _ => none

/-- What can happen next. -/
inductive Event where
  /-- a request for the callback of proxy `proxyId`; the blocks that are allocated for it are
  the job `j` and the event `n` -/
  | request (j : ℕ) (proxyId : ℤ) (n : ℕ) (relativeTime : Option TimeVal)
  /-- any other timer is added -/
  | otherTimer (n : ℕ) (tv : Option TimeVal)
  | tick (now : TimeVal)
  | processTimeouts
  | firePending
  | fireNext
  | callbackReturns
  /-- the `i`-th of the fired jobs is handed on, when no job of its channel is ahead of it -/
  | handOn (i : ℕ) (created : Bool)
  | take (w : ℕ)
  | run (w : ℕ)
  deriving DecidableEq

/-- `RIL_requestProxyTimedCallbackMtk`; no relative time is the time zero. -/
def request (s : State) (j : ℕ) (proxyId : ℤ) (n : ℕ) (relativeTime : Option TimeVal) :
    Option State := do
  let tv := relativeTime.getD .zero
  let jobs ← requestJob s.jobs j proxyId
  let timers ← RilEvent.step s.timers (.timerAdd n (.proxy j) (some tv))
  let deadline ← timeradd s.timers.clock tv
  some { s with
    timers := timers
    jobs := jobs
    requested := record s.requested (mtkChannelIndex proxyId) s.jobs.requested
    deadlines := record s.deadlines (mtkChannelIndex proxyId) deadline.micros }

/-- A fired job is handed on to `mtkProxyTimerFired`. -/
def handOn (s : State) (i : ℕ) (created : Bool) : Option State := do
  let j ← s.handed[i]?
  let job ← s.jobs.job j
  if (s.handed.take i).any (isOf s.jobs job.ch) then none else do
    let jobs ← mtkProxyTimerFired s.jobs j created
    some { s with jobs := jobs, handed := s.handed.eraseIdx i }

def step (s : State) : Event → Option State
  | .request j proxyId n relativeTime => request s j proxyId n relativeTime
  | .otherTimer n tv => do
      let timers ← RilEvent.step s.timers (.timerAdd n .other tv)
      some { s with timers := timers }
  | .tick now => do
      let timers ← RilEvent.step s.timers (.tick now)
      some { s with timers := timers }
  | .processTimeouts => do
      let timers ← RilEvent.step s.timers .processTimeouts
      some { s with timers := timers }
  | .firePending => do
      let timers ← RilEvent.step s.timers .firePending
      some { s with timers := timers }
  | .fireNext => do
      let timers ← RilEvent.step s.timers .fireNext
      some { s with timers := timers, handed := s.handed ++ (calledBack s.timers).toList }
  | .callbackReturns => do
      let timers ← RilEvent.step s.timers .callbackReturns
      some { s with timers := timers }
  | .handOn i created => handOn s i created
  | .take w => do
      let jobs ← MtkProxy.step s.jobs (.take w)
      some { s with jobs := jobs }
  | .run w => do
      let jobs ← MtkProxy.step s.jobs (.run w)
      some { s with jobs := jobs }

/-! ## The property, and when it holds -/

/-- The callbacks of every channel are executed in the order of the requests: what has been
executed is the beginning of what was requested, and the jobs on the way follow in order. -/
def State.InOrder (s : State) : Prop :=
  ∀ ch, s.jobs.executed ch <+: s.requested ch ∧
    s.jobs.fired ch ++ ofChannel s.jobs ch s.waiting = s.requested ch

/-- The request is due no earlier than the requests of its channel before it. -/
def Event.DeadlinesInOrder (s : State) : Event → Prop
  | .request _ proxyId _ relativeTime =>
      (timeradd s.timers.clock (relativeTime.getD .zero)).all fun deadline =>
        (s.deadlines (mtkChannelIndex proxyId)).all fun d => d ≤ deadline.micros
  | _ => True

/-- A timer of channel `ch` on the timer list is due at `deadline`. -/
def State.tie (s : State) (ch : ℕ) (deadline : TimeVal) : Bool :=
  s.timers.timerEntries.any fun e =>
    (taskJob e).any (isOf s.jobs ch) && decide (e.deadline.micros = deadline.micros)

/-- The request is not due at the same time as one of its channel that is on the timer list. -/
def Event.NoTie (s : State) : Event → Prop
  | .request _ proxyId _ relativeTime =>
      (timeradd s.timers.clock (relativeTime.getD .zero)).all fun deadline =>
        !s.tie (mtkChannelIndex proxyId) deadline
  | _ => True

instance (s : State) (e : Event) : Decidable (e.DeadlinesInOrder s) := by
  unfold Event.DeadlinesInOrder
  cases e <;> infer_instance

instance (s : State) (e : Event) : Decidable (e.NoTie s) := by
  unfold Event.NoTie
  cases e <;> infer_instance

/-! ## The jobs of a channel -/

theorem ofChannel_append (jobs : MtkProxy.State) (ch : ℕ) (l m : List ℕ) :
    ofChannel jobs ch (l ++ m) = ofChannel jobs ch l ++ ofChannel jobs ch m := by
  simp [ofChannel]

theorem ofChannel_cons (jobs : MtkProxy.State) (ch j : ℕ) (l : List ℕ) :
    ofChannel jobs ch (j :: l) =
      (if isOf jobs ch j then [jobs.number j] else []) ++ ofChannel jobs ch l := by
  unfold ofChannel
  cases h : isOf jobs ch j <;> simp [h]

theorem isOf_eq_true {jobs : MtkProxy.State} {ch j : ℕ} {job : Job} (h : jobs.job j = some job) :
    isOf jobs ch j = true ↔ job.ch = ch := by
  simp [isOf, h]

/-- Which requests some jobs are for only depends on these jobs. -/
theorem ofChannel_congr {jobs jobs' : MtkProxy.State} {ch : ℕ} {l : List ℕ}
    (hch : ∀ j ∈ l, (jobs'.job j).map Job.ch = (jobs.job j).map Job.ch)
    (hnumber : ∀ j ∈ l, jobs'.number j = jobs.number j) :
    ofChannel jobs' ch l = ofChannel jobs ch l := by
  have hfilter : l.filter (isOf jobs' ch) = l.filter (isOf jobs ch) :=
    List.filter_congr fun j hj => by simp only [isOf, hch j hj]
  unfold ofChannel
  rw [hfilter]
  exact List.map_congr_left fun j hj => hnumber j (List.mem_of_mem_filter hj)

theorem ofChannel_congr_job {jobs jobs' : MtkProxy.State} {ch : ℕ} {l : List ℕ}
    (h : ∀ j ∈ l, jobs'.job j = jobs.job j) : ofChannel jobs' ch l = ofChannel jobs ch l :=
  ofChannel_congr (fun j hj => by rw [h j hj])
    fun j hj => by simp only [MtkProxy.State.number, h j hj]

/-- The requests of a channel among jobs none of which is of the channel. -/
theorem ofChannel_eq_nil {jobs : MtkProxy.State} {ch : ℕ} {l : List ℕ}
    (h : ∀ j ∈ l, isOf jobs ch j = false) : ofChannel jobs ch l = [] := by
  unfold ofChannel
  rw [List.map_eq_nil_iff, List.filter_eq_nil_iff]
  intro j hj
  simp [h j hj]

theorem jobsIn_append (l m : List (Entry Task)) : jobsIn (l ++ m) = jobsIn l ++ jobsIn m :=
  List.filterMap_append

theorem jobsIn_cons (e : Entry Task) (l : List (Entry Task)) :
    jobsIn (e :: l) = (taskJob e).toList ++ jobsIn l := by
  unfold jobsIn
  cases h : taskJob e <;> simp [h]

theorem mem_jobsIn {l : List (Entry Task)} {j : ℕ} :
    j ∈ jobsIn l ↔ ∃ e ∈ l, taskJob e = some j :=
  List.mem_filterMap

/-- A timer without a job, wherever it is inserted, is no job on the way. -/
theorem jobsIn_orderedInsert {e : Entry Task} (he : taskJob e = none) (l : List (Entry Task)) :
    jobsIn (l.orderedInsert Entry.NoLater e) = jobsIn l := by
  induction l with
  | nil => simp [jobsIn_cons, he]
  | cons b l ih =>
      rw [List.orderedInsert_cons]
      split
      · simp [jobsIn_cons, he]
      · rw [jobsIn_cons, jobsIn_cons, ih]

/-! ## Invariant -/

/-- The jobs on the way, when the timer service shows `l`. -/
def waitingIn (handed : List ℕ) (l : Line Task) : List ℕ :=
  handed ++ jobsIn l.pending ++ jobsIn l.timers

/-- The jobs on the way are those of the requests that have not fired, in order. -/
structure Inv (s : State) (l : Line Task) (q : ℕ → List ℕ) : Prop where
  shows : s.timers.Shows l
  jobs : MtkProxy.Inv s.jobs q
  unfired : ∀ j ∈ waitingIn s.handed l, ∃ job, s.jobs.job j = some job ∧ job.fired = false
  nodup : (waitingIn s.handed l).Nodup
  flow : ∀ ch, s.jobs.fired ch ++ ofChannel s.jobs ch (waitingIn s.handed l) = s.requested ch
  deadline : ∀ e ∈ l.timers, ∀ j job, taskJob e = some j → s.jobs.job j = some job →
    e.deadline.micros ∈ s.deadlines job.ch

theorem inv_init (now : TimeVal) : Inv (.init now) ⟨now, [], [], [], []⟩ fun _ => [] where
  shows := shows_init now
  jobs := MtkProxy.inv_init
  unfired := by simp [waitingIn, State.init, jobsIn]
  nodup := by simp [waitingIn, State.init, jobsIn]
  flow := fun _ => rfl
  deadline := by simp

theorem Inv.waiting_eq {s : State} {l : Line Task} {q : ℕ → List ℕ} (h : Inv s l q) :
    s.waiting = waitingIn s.handed l := by
  rw [State.waiting, h.shows.pendingEntries_eq, h.shows.timerEntries_eq, waitingIn]

theorem Inv.inOrder {s : State} {l : Line Task} {q : ℕ → List ℕ} (h : Inv s l q) : s.InOrder := by
  intro ch
  have hflow := h.flow ch
  rw [← h.waiting_eq] at hflow
  exact ⟨(h.jobs.executed_prefix ch).trans ⟨_, hflow⟩, hflow⟩

/-- A step of the timer service that leaves the jobs on the way in their order. -/
theorem Inv.setTimers {s : State} {l l' : Line Task} {q : ℕ → List ℕ} (h : Inv s l q)
    {t : RilEvent.State Task} {handed : List ℕ} (ht : t.Shows l')
    (hwaiting : waitingIn handed l' = waitingIn s.handed l)
    (hsub : ∀ e ∈ l'.timers, taskJob e ≠ none → e ∈ l.timers) :
    Inv { s with timers := t, handed := handed } l' q where
  shows := ht
  jobs := h.jobs
  unfired := by
    simp only [hwaiting]
    exact h.unfired
  nodup := by
    simp only [hwaiting]
    exact h.nodup
  flow := by
    simp only [hwaiting]
    exact h.flow
  deadline := fun e he j job hj hjob =>
    h.deadline e (hsub e he (by simp [hj])) j job hj hjob

/-- What a step that is one of the timer service alone does. -/
theorem Inv.showsStep {s s' : State} {l : Line Task} {q : ℕ → List ℕ} (h : Inv s l q)
    {e : RilEvent.Event Task}
    (hs : (do
      let timers ← RilEvent.step s.timers e
      some { s with timers := timers }) = some s') :
    ∃ t l', s' = { s with timers := t } ∧ t.Shows l' ∧ Line.Step e l l' := by
  simp only [Option.bind_eq_bind, Option.bind_eq_some_iff, Option.some.injEq] at hs
  obtain ⟨t, ht, rfl⟩ := hs
  obtain ⟨l', hl', hline⟩ := h.shows.step ht
  exact ⟨t, l', rfl, hl', hline⟩

/-- A step of the job queues that does not concern the jobs on the way. -/
theorem Inv.setJobs {s : State} {l : Line Task} {q q' : ℕ → List ℕ} (h : Inv s l q)
    {jobs : MtkProxy.State} (hjobs : MtkProxy.Inv jobs q')
    (hkeep : ∀ j ∈ waitingIn s.handed l, jobs.job j = s.jobs.job j)
    (hfired : jobs.fired = s.jobs.fired) :
    Inv { s with jobs := jobs } l q' where
  shows := h.shows
  jobs := hjobs
  unfired := by
    intro j hj
    rw [hkeep j hj]
    exact h.unfired j hj
  nodup := h.nodup
  flow := by
    intro ch
    rw [hfired, ofChannel_congr_job hkeep]
    exact h.flow ch
  deadline := by
    intro e he j job hj hjob
    have hmem : j ∈ waitingIn s.handed l :=
      List.mem_append_right _ (mem_jobsIn.2 ⟨e, he, hj⟩)
    exact h.deadline e he j job hj ((hkeep j hmem).symm.trans hjob)

/-! ## A request -/

/-- The timers that are due before a deadline. -/
def dueBefore (deadline : TimeVal) (l : List (Entry Task)) : List (Entry Task) :=
  l.filter fun e => decide (e.deadline.micros < deadline.micros)

/-- The timers that are due at a deadline or after it. -/
def dueFrom (deadline : TimeVal) (l : List (Entry Task)) : List (Entry Task) :=
  l.filter fun e => !decide (e.deadline.micros < deadline.micros)

/-- What a request of channel `ch` with the job `j`, due at `deadline`, changes. -/
structure Requests (s s' : State) (l l' : Line Task) (j ch : ℕ) (deadline : TimeVal) : Prop where
  new : s.jobs.job j = none
  job : s'.jobs.job = Function.update s.jobs.job j (some ⟨s.jobs.requested, ch, false⟩)
  fired : s'.jobs.fired = s.jobs.fired
  requested : s'.requested = record s.requested ch s.jobs.requested
  deadlines : s'.deadlines = record s.deadlines ch deadline.micros
  waiting : waitingIn s'.handed l' =
    s.handed ++ jobsIn l.pending ++ jobsIn (dueBefore deadline l.timers) ++
      j :: jobsIn (dueFrom deadline l.timers)
  timers : ∀ e ∈ l'.timers, taskJob e = some j ∧ e.deadline = deadline ∨ e ∈ l.timers

/-- On the sorted list the timers due before the deadline come first. -/
theorem dueBefore_append_dueFrom {l : Line Task} (h : l.Ordered) (deadline : TimeVal) :
    dueBefore deadline l.timers ++ dueFrom deadline l.timers = l.timers := by
  have hsorted : l.timers.Pairwise Entry.NoLater := (List.pairwise_append.1 h.sorted).2.1
  obtain ⟨htake, hdrop⟩ := takeWhile_eq_filter
    (p := fun e : Entry Task => decide (e.deadline.micros < deadline.micros)) hsorted (by
      intro a b hab hb
      exact decide_eq_true (lt_of_le_of_lt hab (of_decide_eq_true hb)))
  rw [dueBefore, dueFrom, ← htake, ← hdrop, List.takeWhile_append_dropWhile]

theorem Inv.waiting_split {s : State} {l : Line Task} {q : ℕ → List ℕ} (h : Inv s l q)
    (deadline : TimeVal) : waitingIn s.handed l =
      s.handed ++ jobsIn l.pending ++ jobsIn (dueBefore deadline l.timers) ++
        jobsIn (dueFrom deadline l.timers) := by
  rw [List.append_assoc (s.handed ++ jobsIn l.pending), ← jobsIn_append,
    dueBefore_append_dueFrom h.shows.ordered deadline, waitingIn]

theorem request_spec {s s' : State} {l : Line Task} {q : ℕ → List ℕ} (h : Inv s l q) {j n : ℕ}
    {proxyId : ℤ} {relativeTime : Option TimeVal}
    (hs : request s j proxyId n relativeTime = some s') :
    ∃ deadline l', timeradd s.timers.clock (relativeTime.getD .zero) = some deadline ∧
      s'.timers.Shows l' ∧ MtkProxy.Inv s'.jobs q ∧
      Requests s s' l l' j (mtkChannelIndex proxyId) deadline := by
  simp only [request, Option.bind_eq_bind, Option.bind_eq_some_iff, Option.some.injEq] at hs
  obtain ⟨jobs, hjobs, timers, htimers, deadline, hdeadline, rfl⟩ := hs
  obtain ⟨l', hl', hline⟩ := h.shows.step htimers
  have hinv := requestJob_inv h.jobs hjobs
  simp only [requestJob, Option.ite_none_right_eq_some, Option.some.injEq] at hjobs
  obtain ⟨hnew, rfl⟩ := hjobs
  cases hline with
  | add _ _ _ _ d hd =>
      rw [h.shows.clock_eq] at hd
      cases Option.some.inj (hd.symm.trans hdeadline)
      have hsorted : l.timers.Pairwise Entry.NoLater :=
        (List.pairwise_append.1 h.shows.ordered.sorted).2.1
      refine ⟨deadline, _, hdeadline, hl', hinv, hnew, rfl, rfl, rfl, rfl, ?_, ?_⟩
      · simp only [waitingIn, orderedInsert_eq_filter hsorted]
        rw [jobsIn_append, jobsIn_cons, ← List.append_assoc]
        rfl
      · intro e he
        rcases (List.mem_orderedInsert Entry.NoLater).1 he with rfl | he
        · exact .inl ⟨rfl, rfl⟩
        · exact .inr he

section Request

variable {s s' : State} {l l' : Line Task} {q : ℕ → List ℕ} {j ch : ℕ} {deadline : TimeVal}

/-- The job of a request is not on its way yet. -/
theorem Requests.notMem (hr : Requests s s' l l' j ch deadline) (h : Inv s l q) :
    j ∉ waitingIn s.handed l := by
  intro hm
  obtain ⟨job, hjob, -⟩ := h.unfired j hm
  exact absurd (hr.new.symm.trans hjob) (by simp)

theorem Requests.job_of_ne (hr : Requests s s' l l' j ch deadline) {i : ℕ} (hi : i ≠ j) :
    s'.jobs.job i = s.jobs.job i := by
  rw [hr.job, Function.update_of_ne hi]

theorem Requests.job_self (hr : Requests s s' l l' j ch deadline) :
    s'.jobs.job j = some ⟨s.jobs.requested, ch, false⟩ := by
  rw [hr.job, Function.update_self]

/-- What is on the way for a channel after the request: the request comes in front of those
that are due at its deadline or later. -/
theorem Requests.ofChannel_waiting (hr : Requests s s' l l' j ch deadline) (h : Inv s l q)
    (c : ℕ) : ofChannel s'.jobs c (waitingIn s'.handed l') =
      ofChannel s.jobs c
        (s.handed ++ jobsIn l.pending ++ jobsIn (dueBefore deadline l.timers)) ++
      (if ch = c then [s.jobs.requested] else []) ++
      ofChannel s.jobs c (jobsIn (dueFrom deadline l.timers)) := by
  have hnot := hr.notMem h
  rw [h.waiting_split deadline] at hnot
  have hkeep : ∀ m, m ⊆ s.handed ++ jobsIn l.pending ++ jobsIn (dueBefore deadline l.timers) ++
      jobsIn (dueFrom deadline l.timers) → ofChannel s'.jobs c m = ofChannel s.jobs c m := by
    intro m hm
    refine ofChannel_congr_job fun i hi => hr.job_of_ne ?_
    rintro rfl
    exact hnot (hm hi)
  have hself : (if isOf s'.jobs c j then [s'.jobs.number j] else []) =
      if ch = c then [s.jobs.requested] else [] := by
    rw [State.number_eq hr.job_self]
    exact if_congr (isOf_eq_true hr.job_self) rfl rfl
  rw [hr.waiting, ofChannel_append, ofChannel_cons, hself,
    hkeep _ (List.subset_append_left _ _), hkeep _ (List.subset_append_right _ _)]
  simp only [List.append_assoc]

/-- **A request that ties with none of its channel.**  It comes last. -/
theorem Requests.inv (hr : Requests s s' l l' j ch deadline) (h : Inv s l q)
    (hshows : s'.timers.Shows l') (hjobs : MtkProxy.Inv s'.jobs q)
    (hlast : ∀ i ∈ jobsIn (dueFrom deadline l.timers), isOf s.jobs ch i = false) :
    Inv s' l' q where
  shows := hshows
  jobs := hjobs
  unfired := by
    intro i hi
    by_cases hij : i = j
    · subst hij
      exact ⟨_, hr.job_self, rfl⟩
    · rw [hr.job_of_ne hij]
      apply h.unfired i
      rw [hr.waiting] at hi
      rw [h.waiting_split deadline]
      simpa [hij] using hi
  nodup := by
    have hnd := h.nodup
    have hnot := hr.notMem h
    rw [h.waiting_split deadline] at hnd hnot
    rw [hr.waiting]
    refine List.perm_middle.nodup_iff.2 (List.nodup_cons.2 ⟨hnot, hnd⟩)
  flow := by
    intro c
    have hflow := h.flow c
    rw [h.waiting_split deadline, ofChannel_append] at hflow
    rw [hr.fired, hr.ofChannel_waiting h, hr.requested]
    by_cases hc : ch = c
    · subst hc
      rw [ofChannel_eq_nil hlast, List.append_nil] at hflow ⊢
      rw [if_pos rfl, record_self, ← hflow]
      simp only [List.append_assoc]
    · rw [if_neg hc, List.append_nil, record_of_ne _ _ (Ne.symm hc)]
      exact hflow
  deadline := by
    intro e he i job hi hjob
    rw [hr.deadlines]
    rcases hr.timers e he with ⟨hej, hed⟩ | he
    · cases Option.some.inj (hej.symm.trans hi)
      cases Option.some.inj (hr.job_self.symm.trans hjob)
      rw [hed]
      exact mem_record.2 (.inr ⟨rfl, rfl⟩)
    · have hij : i ≠ j := by
        rintro rfl
        exact hr.notMem h (List.mem_append_right _ (mem_jobsIn.2 ⟨e, he, hi⟩))
      exact mem_record.2 (.inl (h.deadline e he i job hi ((hr.job_of_ne hij).symm.trans hjob)))

/-- **A request that ties with one of its channel.**  It comes in front of that one. -/
theorem Requests.not_inOrder (hr : Requests s s' l l' j ch deadline) (h : Inv s l q)
    (hshows : s'.timers.Shows l') {i : ℕ} (hi : i ∈ jobsIn (dueFrom deadline l.timers))
    (hof : isOf s.jobs ch i = true) : ¬ s'.InOrder := by
  intro hord
  have hwaiting : s'.waiting = waitingIn s'.handed l' := by
    rw [State.waiting, hshows.pendingEntries_eq, hshows.timerEntries_eq, waitingIn]
  have hnew := (hord ch).2
  have hflow := h.flow ch
  rw [h.waiting_split deadline, ofChannel_append] at hflow
  rw [hwaiting, hr.fired, hr.ofChannel_waiting h, hr.requested, record_self, if_pos rfl, ← hflow]
    at hnew
  simp only [List.append_assoc, List.append_cancel_left_eq] at hnew
  have hafter : ∃ y Y, ofChannel s.jobs ch (jobsIn (dueFrom deadline l.timers)) = y :: Y ∧
      y < s.jobs.requested := by
    cases hY : ofChannel s.jobs ch (jobsIn (dueFrom deadline l.timers)) with
    | nil =>
        have hmem : s.jobs.number i ∈ ofChannel s.jobs ch (jobsIn (dueFrom deadline l.timers)) :=
          List.mem_map.2 ⟨i, List.mem_filter.2 ⟨hi, hof⟩, rfl⟩
        exact absurd hmem (by simp [hY])
    | cons y Y =>
        have hmem : y ∈ ofChannel s.jobs ch (jobsIn (dueFrom deadline l.timers)) := by simp [hY]
        obtain ⟨k, hk, rfl⟩ := List.mem_map.1 hmem
        have hkw : k ∈ waitingIn s.handed l := by
          rw [h.waiting_split deadline]
          exact List.mem_append_right _ (List.mem_of_mem_filter hk)
        obtain ⟨job, hjob, -⟩ := h.unfired k hkw
        refine ⟨_, Y, rfl, ?_⟩
        rw [State.number_eq hjob]
        exact h.jobs.known k job hjob
  obtain ⟨y, Y, hY, hlt⟩ := hafter
  rw [hY] at hnew
  simp only [List.cons_append, List.cons.injEq] at hnew
  omega

end Request

/-- **A request.**  When those of its channel are due no later and none of them at the same
time, no job of the channel is behind it. -/
theorem request_inv {s s' : State} {l : Line Task} {q : ℕ → List ℕ} (h : Inv s l q) {j n : ℕ}
    {proxyId : ℤ} {relativeTime : Option TimeVal}
    (hdom : (Event.request j proxyId n relativeTime).DeadlinesInOrder s)
    (hok : (Event.request j proxyId n relativeTime).NoTie s)
    (hs : request s j proxyId n relativeTime = some s') : ∃ l', Inv s' l' q := by
  obtain ⟨deadline, l', hdeadline, hshows, hjobs, hr⟩ := request_spec h hs
  refine ⟨l', hr.inv h hshows hjobs fun i hi => ?_⟩
  obtain ⟨e, he, hei⟩ := mem_jobsIn.1 hi
  obtain ⟨hmem, hlate⟩ := List.mem_filter.1 he
  by_contra hof
  simp only [Event.DeadlinesInOrder, hdeadline, Option.all_some, List.all_eq_true,
    decide_eq_true_eq] at hdom
  simp only [Event.NoTie, hdeadline, Option.all_some, Bool.not_eq_true', State.tie,
    List.any_eq_false] at hok
  have hwait : i ∈ waitingIn s.handed l :=
    List.mem_append_right _ (mem_jobsIn.2 ⟨e, hmem, hei⟩)
  obtain ⟨job, hjob, -⟩ := h.unfired i hwait
  have hch := (isOf_eq_true hjob).1 (by simpa using hof)
  have hle := hdom _ (hch ▸ h.deadline e hmem i job hei hjob)
  have hne := hok e (by rw [h.shows.timerEntries_eq]; exact hmem)
  simp only [hei, Option.any_some, Bool.and_eq_true, decide_eq_true_eq, not_and] at hne
  have hneq := hne (by simpa using hof)
  simp only [Bool.not_eq_true', decide_eq_false_iff_not, not_lt] at hlate
  omega

/-! ## The other steps -/

/-- The jobs on the way, around the `i`-th of those that have been handed on. -/
theorem waitingIn_eraseIdx {handed : List ℕ} {i j : ℕ} (hij : handed[i]? = some j)
    (l : Line Task) :
    waitingIn handed l = handed.take i ++ j :: waitingIn (handed.drop (i + 1)) l ∧
      waitingIn (handed.eraseIdx i) l = handed.take i ++ waitingIn (handed.drop (i + 1)) l := by
  obtain ⟨hlt, hget⟩ := List.getElem?_eq_some_iff.1 hij
  have hsplit : handed = handed.take i ++ j :: handed.drop (i + 1) := by
    rw [← hget, List.getElem_cons_drop, List.take_append_drop]
  refine ⟨?_, ?_⟩
  · conv_lhs => rw [hsplit]
    simp only [waitingIn, List.append_assoc, List.cons_append]
  · rw [List.eraseIdx_eq_take_drop_succ]
    simp only [waitingIn, List.append_assoc]

/-- That the timer of a job has fired changes neither its channel nor its number. -/
theorem ofChannel_fired {jobs jobs' : MtkProxy.State} {j : ℕ} {job : Job}
    (hjob : jobs.job j = some job)
    (hfired : jobs'.job = Function.update jobs.job j (some { job with fired := true })) (ch : ℕ)
    (l : List ℕ) : ofChannel jobs' ch l = ofChannel jobs ch l := by
  have hdata : ∀ k, (jobs'.job k).map Job.ch = (jobs.job k).map Job.ch ∧
      jobs'.number k = jobs.number k := by
    intro k
    rw [MtkProxy.State.number, MtkProxy.State.number, hfired]
    by_cases hk : k = j
    · subst hk
      rw [Function.update_self, hjob]
      exact ⟨rfl, rfl⟩
    · rw [Function.update_of_ne hk]
      exact ⟨rfl, rfl⟩
  exact ofChannel_congr (fun k _ => (hdata k).1) fun k _ => (hdata k).2

/-- The first job of its channel is taken off the way when it is recorded. -/
theorem record_ofChannel {jobs : MtkProxy.State} {j : ℕ} {job : Job}
    (hjob : jobs.job j = some job) {ahead : List ℕ}
    (hahead : ∀ k ∈ ahead, isOf jobs job.ch k = false) (f : ℕ → List ℕ) (ch : ℕ)
    (behind : List ℕ) :
    record f job.ch job.number ch ++ ofChannel jobs ch (ahead ++ behind) =
      f ch ++ ofChannel jobs ch (ahead ++ j :: behind) := by
  rw [ofChannel_append, ofChannel_append, ofChannel_cons]
  by_cases hc : job.ch = ch
  · subst hc
    rw [if_pos ((isOf_eq_true hjob).2 rfl), State.number_eq hjob, record_self,
      ofChannel_eq_nil hahead]
    simp only [List.append_assoc, List.nil_append]
  · have hof : ¬ isOf jobs ch j = true := fun hof => hc ((isOf_eq_true hjob).1 hof)
    rw [if_neg hof, List.nil_append, record_of_ne _ _ (Ne.symm hc)]

/-- **A fired job is handed on.**  It is the next of its channel. -/
theorem handOn_inv {s s' : State} {l : Line Task} {q : ℕ → List ℕ} (h : Inv s l q) {i : ℕ}
    {created : Bool} (hs : handOn s i created = some s') : ∃ q', Inv s' l q' := by
  simp only [handOn, Option.bind_eq_bind, Option.bind_eq_some_iff,
    Option.ite_none_left_eq_some, Option.some.injEq] at hs
  obtain ⟨j, hij, job, hjob, hahead, jobs, hjobs, rfl⟩ := hs
  obtain ⟨hwaiting, hwaiting'⟩ := waitingIn_eraseIdx hij l
  obtain ⟨job', hjob', hunfired⟩ := h.unfired j (by simp [hwaiting])
  cases Option.some.inj (hjob.symm.trans hjob')
  obtain ⟨t, ht, hinv, htjob, htfired, -⟩ := mtkProxyTimerFired_spec h.jobs hjob hunfired created
  cases Option.some.inj (ht.symm.trans hjobs)
  have hnd := h.nodup
  rw [hwaiting] at hnd
  obtain ⟨hnot, hnd'⟩ := List.nodup_cons.1 (List.perm_middle.nodup_iff.1 hnd)
  refine ⟨_, h.shows, hinv, ?_, ?_, ?_, ?_⟩
  · intro k hk
    change k ∈ waitingIn (s.handed.eraseIdx i) l at hk
    rw [hwaiting'] at hk
    have hkj : k ≠ j := by
      rintro rfl
      exact hnot hk
    change ∃ job, jobs.job k = some job ∧ job.fired = false
    rw [htjob, Function.update_of_ne hkj]
    apply h.unfired k
    rw [hwaiting]
    exact (List.perm_middle.mem_iff).2 (List.mem_cons_of_mem j hk)
  · change (waitingIn (s.handed.eraseIdx i) l).Nodup
    rw [hwaiting']
    exact hnd'
  · intro c
    change jobs.fired c ++ ofChannel jobs c (waitingIn (s.handed.eraseIdx i) l) = s.requested c
    have hfirst : ∀ k ∈ s.handed.take i, isOf s.jobs job.ch k = false := by
      intro k hk
      by_contra hk'
      exact hahead (List.any_eq_true.2 ⟨k, hk, by simpa using hk'⟩)
    rw [htfired, ofChannel_fired hjob htjob, hwaiting', record_ofChannel hjob hfirst, ← hwaiting]
    exact h.flow c
  · intro e he k job₁ hk hjob₁
    change jobs.job k = some job₁ at hjob₁
    rw [htjob] at hjob₁
    by_cases hkj : k = j
    · subst hkj
      rw [Function.update_self] at hjob₁
      cases Option.some.inj hjob₁
      exact h.deadline e he k job hk hjob
    · rw [Function.update_of_ne hkj] at hjob₁
      exact h.deadline e he k job₁ hk hjob₁

/-- The next callback is that of the first pending timer. -/
theorem calledBack_eq {t t' : RilEvent.State Task} {l l' : Line Task} (h : t.Shows l)
    (hs : RilEvent.step t .fireNext = some t') (hline : Line.Step .fireNext l l')
    (handed : List ℕ) :
    waitingIn (handed ++ (calledBack t).toList) l' = waitingIn handed l ∧
      l'.timers = l.timers := by
  cases hpc : t.pc with
  | idle => simp [RilEvent.step, hpc] at hs
  | inCallback next => simp [RilEvent.step, hpc] at hs
  | firing ev =>
      rcases h.firing hpc with ⟨rfl, hnil⟩ | ⟨hev, rest, hcons⟩
      · have hback : calledBack t = none := by simp [calledBack, hpc]
        cases hline with
        | fire _ e rest hcons => exact absurd (hnil.symm.trans hcons) (by simp)
        | done _ _ => simp [hback]
      · have hback : calledBack t = taskJob (t.entry ev) := by simp [calledBack, hpc, hev]
        cases hline with
        | fire _ e rest' hcons' =>
            cases hcons.symm.trans hcons'
            simp [hback, waitingIn, hcons, jobsIn_cons]
        | done _ hnil => exact absurd (hcons.symm.trans hnil) (by simp)

/-- A worker that takes a job takes one that has been handed on. -/
theorem take_inv {s s' : State} {l : Line Task} {q : ℕ → List ℕ} (h : Inv s l q) {w : ℕ}
    (hs : step s (.take w) = some s') : ∃ q', Inv s' l q' := by
  simp only [step, MtkProxy.step, Option.bind_eq_bind, Option.bind_eq_some_iff,
    Option.ite_none_right_eq_some, Option.some.injEq] at hs
  obtain ⟨jobs, ⟨worker, hw, hfree, hjobs⟩, rfl⟩ := hs
  cases hq : q worker.ch with
  | nil =>
      have hhead : (s.jobs.queue worker.ch).head = none := (hq ▸ h.jobs.holds worker.ch).spans
      simp [takeJob, hhead] at hjobs
  | cons j rest =>
      obtain ⟨t, ht, hinv, htjob, htfired, -⟩ := takeJob_spec h.jobs hw hfree hq
      cases Option.some.inj (ht.symm.trans hjobs)
      exact ⟨_, h.setJobs hinv (fun k _ => by rw [htjob]) htfired⟩

/-- The job that a worker runs and frees is not on its way any longer. -/
theorem run_inv {s s' : State} {l : Line Task} {q : ℕ → List ℕ} (h : Inv s l q) {w : ℕ}
    (hs : step s (.run w) = some s') : Inv s' l q := by
  simp only [step, MtkProxy.step, Option.bind_eq_bind, Option.bind_eq_some_iff,
    Option.some.injEq] at hs
  obtain ⟨jobs, ⟨worker, hw, j, hj, hjobs⟩, rfl⟩ := hs
  obtain ⟨t, ht, hinv, htjob, htfired, -⟩ := runJob_spec h.jobs hw hj
  cases Option.some.inj (ht.symm.trans hjobs)
  refine h.setJobs hinv (fun k hk => ?_) htfired
  obtain ⟨job, hjob, hfired, -⟩ := h.jobs.hand worker (List.mem_of_getElem? hw) j hj
  have hkj : k ≠ j := by
    rintro rfl
    obtain ⟨job', hjob', hunfired⟩ := h.unfired k hk
    exact State.ne_of_unfired hjob' hunfired hjob hfired rfl
  rw [htjob, Function.update_of_ne hkj]

/-- **One step.**  In order stays in order, unless a request ties with one of its channel. -/
theorem step_inv {s s' : State} {l : Line Task} {q : ℕ → List ℕ} {e : Event} (h : Inv s l q)
    (hdom : e.DeadlinesInOrder s) (hok : e.NoTie s) (hs : step s e = some s') :
    ∃ l' q', Inv s' l' q' := by
  cases e with
  | request j proxyId n relativeTime =>
      obtain ⟨l', hinv⟩ := request_inv h hdom hok hs
      exact ⟨l', q, hinv⟩
  | otherTimer n tv =>
      obtain ⟨t, l', rfl, hl', hline⟩ := h.showsStep hs
      cases hline with
      | add _ _ _ _ d _ =>
          refine ⟨_, q, h.setTimers hl' ?_ fun e he hj => ?_⟩
          · simp only [waitingIn]
            rw [jobsIn_orderedInsert rfl]
          · rcases (List.mem_orderedInsert Entry.NoLater).1 he with rfl | he
            · exact absurd rfl hj
            · exact he
      | addNothing _ _ _ => exact ⟨_, q, h.setTimers hl' rfl fun e he _ => he⟩
  | tick now =>
      obtain ⟨t, l', rfl, hl', hline⟩ := h.showsStep hs
      cases hline with
      | tick _ _ _ => exact ⟨_, q, h.setTimers hl' rfl fun e he _ => he⟩
  | processTimeouts =>
      obtain ⟨t, l', rfl, hl', hline⟩ := h.showsStep hs
      cases hline with
      | expire _ =>
          refine ⟨_, q, h.setTimers hl' ?_ fun e he _ => (List.dropWhile_sublist _).subset he⟩
          simp only [waitingIn, jobsIn_append, List.append_assoc]
          rw [← jobsIn_append, List.takeWhile_append_dropWhile]
  | firePending =>
      obtain ⟨t, l', rfl, hl', hline⟩ := h.showsStep hs
      cases hline with
      | start _ => exact ⟨_, q, h.setTimers hl' rfl fun e he _ => he⟩
  | fireNext =>
      simp only [step, Option.bind_eq_bind, Option.bind_eq_some_iff, Option.some.injEq] at hs
      obtain ⟨t, ht, rfl⟩ := hs
      obtain ⟨l', hl', hline⟩ := h.shows.step ht
      obtain ⟨hwaiting, htimers⟩ := calledBack_eq h.shows ht hline s.handed
      exact ⟨l', q, h.setTimers hl' hwaiting fun e he _ => htimers ▸ he⟩
  | callbackReturns =>
      obtain ⟨t, l', rfl, hl', hline⟩ := h.showsStep hs
      cases hline with
      | callbackReturns _ => exact ⟨_, q, h.setTimers hl' rfl fun e he _ => he⟩
  | handOn i created =>
      obtain ⟨q', hq'⟩ := handOn_inv h hs
      exact ⟨l, q', hq'⟩
  | take w =>
      obtain ⟨q', hq'⟩ := take_inv h hs
      exact ⟨l, q', hq'⟩
  | run w => exact ⟨l, q, run_inv h hs⟩

/-- **One bad step.**  A request that ties with one of its channel is out of order at once. -/
theorem step_tie {s s' : State} {l : Line Task} {q : ℕ → List ℕ} {e : Event} (h : Inv s l q)
    (htie : ¬ e.NoTie s) (hs : step s e = some s') : ¬ s'.InOrder := by
  cases e with
  | request j proxyId n relativeTime =>
      obtain ⟨deadline, l', hdeadline, hshows, -, hr⟩ := request_spec h hs
      simp only [Event.NoTie, hdeadline, Option.all_some, Bool.not_eq_true', State.tie,
        Bool.not_eq_false, List.any_eq_true, Bool.and_eq_true, decide_eq_true_eq,
        Option.any_eq_true] at htie
      obtain ⟨e, he, ⟨i, hei, hof⟩, hsame⟩ := htie
      rw [h.shows.timerEntries_eq] at he
      refine hr.not_inOrder h hshows (mem_jobsIn.2 ⟨e, List.mem_filter.2 ⟨he, ?_⟩, hei⟩) hof
      simp [hsame]
  | _ => exact absurd trivial htie

/-! ## Main result -/

/-- **Proxy callbacks run in the order of the requests, without ties.**  Let the requests of
every channel be due in the order in which they are made.  Then they are executed in that
order, and are in that order all along their way, exactly when no request is due at the
same time as one of its channel that is still on the timer list. -/
theorem inOrder_iff_noTie (now : TimeVal) (es : List Event)
    (hdom : Meets step (fun s e => e.DeadlinesInOrder s) (.init now) es) :
    Always step State.InOrder (.init now) es ↔
      Meets step (fun s e => e.NoTie s) (.init now) es := by
  have himp : ∀ s, (∃ l q, Inv s l q) → s.InOrder := by
    rintro s ⟨l, q, h⟩
    exact h.inOrder
  refine always_iff_meets_within himp ?_ ?_ ⟨_, _, inv_init now⟩ hdom
  · rintro s e s' ⟨l, q, h⟩ hd hok hs
    exact step_inv h hd hok hs
  · rintro s e s' ⟨l, q, h⟩ _ hbad hs
    exact step_tie h hbad hs

/-- The timers are moved and fired, and `n` jobs are handed on and run by one worker. -/
def drain (n : ℕ) : List Event :=
  [.processTimeouts, .firePending] ++
    (List.replicate n [.fireNext, .callbackReturns]).flatten ++
    (List.replicate n (.handOn 0 true)) ++
    (List.replicate n [.take 0, .run 0]).flatten

/-- Two requests of proxy 3 that are due one microsecond apart. -/
theorem inOrder_apart :
    Always step State.InOrder (.init .zero)
      ([.request 7 3 0 none, .tick ⟨0, 1, by decide⟩, .request 8 3 1 none,
        .tick ⟨0, 5, by decide⟩] ++ drain 2) :=
  (inOrder_iff_noTie .zero _ (by decide)).2 (by decide)

/-- Two requests of proxy 3 without delay, at the same reading of the clock, are executed in
the opposite order. -/
theorem tie_not_inOrder :
    ¬ ∀ (now : TimeVal) (es : List Event),
      Meets step (fun s e => e.DeadlinesInOrder s) (.init now) es →
        Always step State.InOrder (.init now) es := by
  intro hall
  have hrun : (run step (.init .zero)
      ([.request 7 3 0 none, .request 8 3 1 none, .tick ⟨0, 5, by decide⟩] ++ drain 2)).map
        (fun s => (s.jobs.executed 3, s.requested 3)) = some ([1, 0], [0, 1]) := by decide
  obtain ⟨s', hs', horders⟩ := Option.map_eq_some_iff.1 hrun
  have hprefix := ((hall .zero _ (by decide)).last hs' 3).1
  obtain ⟨hexecuted, hrequested⟩ := Prod.mk.inj horders
  rw [hexecuted, hrequested] at hprefix
  exact absurd hprefix (by decide)

end MtkProxy.Fifo
