/-
# The job queues of the proxy workers

A proxy timed callback becomes a job.  When its timer fires on the event loop,
`mtkProxyTimerFired` appends the job to the queue of its channel and starts the worker
of the channel if there is none; the worker takes the jobs from the head and runs them.
Both sides change the queue under one mutex, so that each of their locked sections is
one event here, in any order.

* `State`, `step` : the jobs, the queues of all channels and the workers;
* `Inv` : the queues hold lists of jobs, and what was fired is what was taken and what
  is still queued;
* `jobs_fifo` : this is so in every state of every run.
-/
import Ct07.Lib.Run
import Ct07.Lib.TailQueue
import Ct07.Ril.ChannelQueue
import Mathlib.Data.List.Nodup

open PartialStep TailQueue Ril

namespace MtkProxy

/-! ## State -/

/-- `MtkProxyJob`.  The number of the request stands for the callback and its parameter. -/
structure Job where
  number : ℕ
  ch : ℕ
  /-- a record: its timer has fired -/
  fired : Bool
  deriving DecidableEq

/-- A thread in `mtkProxyWorker`, with the job that it has taken and not freed yet. -/
structure Worker where
  ch : ℕ
  job : Option ℕ
  deriving DecidableEq

/-- The jobs, by their address, and the queues, by their channel.  `requested`, `fired`,
`taken` and `executed` are records beside the code's data. -/
structure State where
  /-- the allocated jobs -/
  job : ℕ → Option Job
  next : ℕ → Option ℕ
  /-- `s_proxyQHead` and `s_proxyQTail` -/
  queue : ℕ → Queue ℕ
  /-- `s_proxyWorkerUp` -/
  workerUp : ℕ → Bool
  workers : List Worker
  requested : ℕ
  fired : ℕ → List ℕ
  taken : ℕ → List ℕ
  executed : ℕ → List ℕ

def State.init : State where
  job := fun _ => none
  next := fun _ => none
  queue := fun _ => .empty ℕ
  workerUp := fun _ => false
  workers := []
  requested := 0
  fired := fun _ => []
  taken := fun _ => []
  executed := fun _ => []

/-- The request that a job is made for. -/
def State.number (s : State) (j : ℕ) : ℕ := ((s.job j).map Job.number).getD 0

/-- `f` with `a` added to the list of `ch`. -/
def record (f : ℕ → List ℕ) (ch a : ℕ) : ℕ → List ℕ := Function.update f ch (f ch ++ [a])

/-! ## Operations -/

/-- `RIL_requestProxyTimedCallbackMtk`, up to the timer: `calloc` answers the address `j`. -/
def requestJob (s : State) (j : ℕ) (proxyId : ℤ) : Option State :=
  if s.job j = none then
    some { s with
      job := Function.update s.job j (some ⟨s.requested, mtkChannelIndex proxyId, false⟩)
      next := Function.update s.next j none
      requested := s.requested + 1 }
  else none

/-- The worker of `ch` is started unless it is up; `created` is whether `pthread_create`
succeeds. -/
def startWorker (s : State) (ch : ℕ) (created : Bool) : State :=
  if !s.workerUp ch && created then
    { s with
      workerUp := Function.update s.workerUp ch true
      workers := s.workers ++ [⟨ch, none⟩] }
  else s

/-- The job `j` is appended to the queue of its channel. -/
def appendJob (s : State) (j : ℕ) (job : Job) : State :=
  { s with
    job := Function.update s.job j (some { job with fired := true })
    next := appendLinks s.next (s.queue job.ch) j
    queue := Function.update s.queue job.ch ((s.queue job.ch).append j)
    fired := record s.fired job.ch job.number }

/-- `mtkProxyTimerFired`.  The tail is written through: `none` when it is not allocated. -/
def mtkProxyTimerFired (s : State) (j : ℕ) (created : Bool) : Option State := do
  let job ← s.job j
  if (s.queue job.ch).tail.all fun t => (s.job t).isSome then
    some (startWorker (appendJob s j job) job.ch created)
  else none

/-- The locked section of `mtkProxyWorker`; while the queue is empty the worker waits. -/
def takeJob (s : State) (w : ℕ) (worker : Worker) : Option State := do
  let j ← (s.queue worker.ch).head
  let job ← s.job j
  some { s with
    queue := Function.update s.queue worker.ch ((s.queue worker.ch).pop s.next j)
    workers := s.workers.set w ⟨worker.ch, some j⟩
    taken := record s.taken worker.ch job.number }

/-- The callback of the job is run under the mutex of the channel, and the job is freed. -/
def runJob (s : State) (w : ℕ) (worker : Worker) (j : ℕ) : Option State := do
  let job ← s.job j
  some { s with
    job := Function.update s.job j none
    workers := s.workers.set w ⟨worker.ch, none⟩
    executed := record s.executed worker.ch job.number }

/-- What can happen next. -/
inductive Event where
  | request (j : ℕ) (proxyId : ℤ)
  | timerFired (j : ℕ) (created : Bool)
  | take (w : ℕ)
  | run (w : ℕ)
  deriving DecidableEq

def step (s : State) : Event → Option State
  | .request j proxyId => requestJob s j proxyId
  | .timerFired j created =>
      -- the timer of a job fires once
      if (s.job j).map Job.fired = some false then mtkProxyTimerFired s j created else none
  | .take w => do
      let worker ← s.workers[w]?
      if worker.job = none then takeJob s w worker else none
  | .run w => do
      let worker ← s.workers[w]?
      let j ← worker.job
      runJob s w worker j

/-! ## Invariant -/

/-- The queue of channel `ch` holds the jobs of `q ch`. -/
structure Inv (s : State) (q : ℕ → List ℕ) : Prop where
  holds : ∀ ch, Holds s.next (s.queue ch) (q ch)
  nodup : ∀ ch, (q ch).Nodup
  /-- a queued job is allocated, its timer has fired, and it is in its channel's queue -/
  home : ∀ ch, ∀ j ∈ q ch, ∃ job, s.job j = some job ∧ job.fired = true ∧ job.ch = ch
  /-- so is a job that a worker has in hand, which is queued no longer -/
  hand : ∀ w ∈ s.workers, ∀ j, w.job = some j →
    ∃ job, s.job j = some job ∧ job.fired = true ∧ job.ch = w.ch ∧ j ∉ q w.ch
  inRange : ∀ j job, s.job j = some job → job.ch < mtkChannelCount
  oneWorker : (s.workers.map Worker.ch).Nodup
  up : ∀ w ∈ s.workers, s.workerUp w.ch = true
  /-- what was fired is what was taken and what is still queued -/
  flow : ∀ ch, s.taken ch ++ (q ch).map s.number = s.fired ch
  /-- what was taken is what was executed and what the worker has in hand -/
  working : ∀ w ∈ s.workers, s.executed w.ch ++ (w.job.map s.number).toList = s.taken w.ch
  idle : ∀ ch, (∀ w ∈ s.workers, w.ch ≠ ch) → s.executed ch = s.taken ch
  /-- requests have different numbers -/
  known : ∀ j job, s.job j = some job → job.number < s.requested
  firedKnown : ∀ ch, ∀ n ∈ s.fired ch, n < s.requested
  firedOnce : ∀ ch, (s.fired ch).Nodup
  unfired : ∀ j job, s.job j = some job → job.fired = false → ∀ ch, job.number ∉ s.fired ch
  unfiredOnce : ∀ j j' job job', s.job j = some job → s.job j' = some job' →
    job.fired = false → job'.fired = false → job.number = job'.number → j = j'

theorem inv_init : Inv State.init fun _ => [] where
  holds := fun _ => holds_empty _
  nodup := fun _ => List.nodup_nil
  home := by simp
  hand := by simp [State.init]
  inRange := by simp [State.init]
  oneWorker := by simp [State.init]
  up := by simp [State.init]
  flow := fun _ => rfl
  working := by simp [State.init]
  idle := fun _ _ => rfl
  known := by simp [State.init]
  firedKnown := by simp [State.init]
  firedOnce := fun _ => List.nodup_nil
  unfired := by simp [State.init]
  unfiredOnce := by simp [State.init]

theorem State.number_eq {s : State} {j : ℕ} {job : Job} (h : s.job j = some job) :
    s.number j = job.number := by
  simp [State.number, h]

theorem record_self (f : ℕ → List ℕ) (ch a : ℕ) : record f ch a ch = f ch ++ [a] :=
  Function.update_self ch _ f

theorem record_of_ne (f : ℕ → List ℕ) {ch ch' : ℕ} (a : ℕ) (h : ch' ≠ ch) :
    record f ch a ch' = f ch' :=
  Function.update_of_ne h _ f

theorem mem_record {f : ℕ → List ℕ} {ch ch' a b : ℕ} :
    b ∈ record f ch a ch' ↔ b ∈ f ch' ∨ ch' = ch ∧ b = a := by
  by_cases hch : ch' = ch
  · subst hch
    simp [record_self]
  · simp [record_of_ne f a hch, hch]

/-- Nothing is recorded twice when what is recorded is new. -/
theorem nodup_record {f : ℕ → List ℕ} {ch a : ℕ} (hf : ∀ ch, (f ch).Nodup) (ha : a ∉ f ch)
    (ch' : ℕ) : (record f ch a ch').Nodup := by
  by_cases hch : ch' = ch
  · subst hch
    rw [record_self]
    exact List.Nodup.append (hf ch') (List.nodup_singleton a) (by simpa using ha)
  · rw [record_of_ne f a hch]
    exact hf ch'

theorem mtkChannelIndex_lt (cid : ℤ) : mtkChannelIndex cid < mtkChannelCount := by
  unfold mtkChannelIndex mtkChannelCount
  split <;> omega

/-- The numbers of jobs only depend on these jobs. -/
theorem number_congr {s s' : State} {l : List ℕ} (h : ∀ j ∈ l, s'.job j = s.job j) :
    l.map s'.number = l.map s.number := by
  refine List.map_congr_left fun j hj => ?_
  simp only [State.number, h j hj]

theorem inHand_congr {s s' : State} {w : Worker} (h : ∀ j, w.job = some j → s'.job j = s.job j) :
    (w.job.map s'.number).toList = (w.job.map s.number).toList := by
  cases hj : w.job with
  | none => rfl
  | some j => simp only [Option.map_some, State.number, h j hj]

/-! ## The operations keep the invariant -/

/-- A new job is on no queue, and in no worker's hand. -/
theorem requestJob_inv {s s' : State} {q : ℕ → List ℕ} (h : Inv s q) {j : ℕ} {proxyId : ℤ}
    (hs : requestJob s j proxyId = some s') : Inv s' q := by
  simp only [requestJob, Option.ite_none_right_eq_some, Option.some.injEq] at hs
  obtain ⟨hfree, rfl⟩ := hs
  have hne : ∀ i job, s.job i = some job → i ≠ j := by
    rintro i job hi rfl
    exact absurd (hfree.symm.trans hi) (by simp)
  have hkeep : ∀ i job, s.job i = some job →
      Function.update s.job j (some ⟨s.requested, mtkChannelIndex proxyId, false⟩) i
        = some job :=
    fun i job hi => (Function.update_of_ne (hne i job hi) _ _).trans hi
  have hqueued : ∀ ch, ∀ i ∈ q ch, i ≠ j := by
    intro ch i hi
    obtain ⟨job, hjob, -⟩ := h.home ch i hi
    exact hne i job hjob
  have hnew : ∀ i job,
      Function.update s.job j (some ⟨s.requested, mtkChannelIndex proxyId, false⟩) i = some job →
        (i = j ∧ job = ⟨s.requested, mtkChannelIndex proxyId, false⟩) ∨ s.job i = some job := by
    intro i job hi
    by_cases hij : i = j
    · subst hij
      rw [Function.update_self] at hi
      exact .inl ⟨rfl, (Option.some.inj hi).symm⟩
    · rw [Function.update_of_ne hij] at hi
      exact .inr hi
  refine ⟨?_, h.nodup, ?_, ?_, ?_, h.oneWorker, h.up, ?_, ?_, h.idle, ?_, ?_, h.firedOnce, ?_, ?_⟩
  · intro ch
    exact (h.holds ch).congr fun i hi => Function.update_of_ne (hqueued ch i hi) _ _
  · intro ch i hi
    obtain ⟨job, hjob, hrest⟩ := h.home ch i hi
    exact ⟨job, hkeep i job hjob, hrest⟩
  · intro w hw i hi
    obtain ⟨job, hjob, hrest⟩ := h.hand w hw i hi
    exact ⟨job, hkeep i job hjob, hrest⟩
  · intro i job hi
    rcases hnew i job hi with ⟨-, rfl⟩ | hold
    · exact mtkChannelIndex_lt proxyId
    · exact h.inRange i job hold
  · intro ch
    rw [number_congr (s := s) fun i hi => Function.update_of_ne (hqueued ch i hi) _ _]
    exact h.flow ch
  · intro w hw
    rw [inHand_congr (s := s) fun i hi => ?_]
    · exact h.working w hw
    · obtain ⟨job, hjob, -⟩ := h.hand w hw i hi
      exact (hkeep i job hjob).trans hjob.symm
  · intro i job hi
    rcases hnew i job hi with ⟨-, rfl⟩ | hold
    · exact Nat.lt_succ_self s.requested
    · exact Nat.lt_succ_of_lt (h.known i job hold)
  · exact fun ch n hn => Nat.lt_succ_of_lt (h.firedKnown ch n hn)
  · intro i job hi hf ch hm
    rcases hnew i job hi with ⟨-, rfl⟩ | hold
    · exact absurd (h.firedKnown ch _ hm) (Nat.lt_irrefl s.requested)
    · exact h.unfired i job hold hf ch hm
  · intro i i' job job' hi hi' hf hf' hnumber
    rcases hnew i job hi with ⟨rfl, rfl⟩ | hold <;> rcases hnew i' job' hi' with ⟨rfl, rfl⟩ | hold'
    · rfl
    · have hlt := h.known i' job' hold'
      exact absurd hnumber (Nat.ne_of_gt hlt)
    · have hlt := h.known i job hold
      exact absurd hnumber (Nat.ne_of_lt hlt)
    · exact h.unfiredOnce i i' job job' hold hold' hf hf' hnumber

@[simp] theorem startWorker_job (s : State) (ch : ℕ) (created : Bool) :
    (startWorker s ch created).job = s.job := by
  unfold startWorker
  split <;> rfl

@[simp] theorem startWorker_fired (s : State) (ch : ℕ) (created : Bool) :
    (startWorker s ch created).fired = s.fired := by
  unfold startWorker
  split <;> rfl

@[simp] theorem startWorker_requested (s : State) (ch : ℕ) (created : Bool) :
    (startWorker s ch created).requested = s.requested := by
  unfold startWorker
  split <;> rfl

/-- Starting the worker of a channel that has none. -/
theorem startWorker_inv {s : State} {q : ℕ → List ℕ} (h : Inv s q) (ch : ℕ) (created : Bool) :
    Inv (startWorker s ch created) q := by
  unfold startWorker
  split
  · rename_i hstart
    have hdown : s.workerUp ch = false := by
      cases hup : s.workerUp ch with
      | false => rfl
      | true => simp [hup] at hstart
    have hnone : ∀ w ∈ s.workers, w.ch ≠ ch := by
      rintro w hw rfl
      exact absurd ((h.up w hw).symm.trans hdown) (by simp)
    refine ⟨h.holds, h.nodup, h.home, ?_, h.inRange, ?_, ?_, h.flow, ?_, ?_, h.known, h.firedKnown,
      h.firedOnce, h.unfired, h.unfiredOnce⟩
    · intro w hw j hj
      rcases List.mem_append.1 hw with hw | hw
      · exact h.hand w hw j hj
      · rw [List.mem_singleton.1 hw] at hj
        exact absurd hj (by simp)
    · rw [List.map_append, List.nodup_append]
      refine ⟨h.oneWorker, by simp, ?_⟩
      intro a ha b hb
      obtain ⟨w, hw, rfl⟩ := List.mem_map.1 ha
      rw [List.mem_singleton.1 hb]
      exact hnone w hw
    · intro w hw
      rcases List.mem_append.1 hw with hw | hw
      · exact (Function.update_of_ne (hnone w hw) _ _).trans (h.up w hw)
      · rw [List.mem_singleton.1 hw]
        exact Function.update_self ch true s.workerUp
    · intro w hw
      rcases List.mem_append.1 hw with hw | hw
      · exact h.working w hw
      · rw [List.mem_singleton.1 hw]
        simpa using h.idle ch hnone
    · intro ch' hch'
      exact h.idle ch' fun w hw => hch' w (List.mem_append_left _ hw)
  · exact h

/-- The queues after the timer of `j` has fired. -/
def enqueued (q : ℕ → List ℕ) (ch j : ℕ) : ℕ → List ℕ := Function.update q ch (q ch ++ [j])

theorem enqueued_eq (q : ℕ → List ℕ) (ch j : ℕ) : enqueued q ch j = record q ch j := rfl

/-- A job whose timer has fired is not one whose timer has not. -/
theorem State.ne_of_unfired {s : State} {i j : ℕ} {job job' : Job} (hj : s.job j = some job)
    (hunfired : job.fired = false) (hi : s.job i = some job') (hf : job'.fired = true) : i ≠ j := by
  rintro rfl
  rw [hj] at hi
  cases Option.some.inj hi
  simp [hunfired] at hf

/-- A job whose timer has not fired is on no queue. -/
theorem Inv.notMem_of_unfired {s : State} {q : ℕ → List ℕ} (h : Inv s q) {j : ℕ} {job : Job}
    (hj : s.job j = some job) (hunfired : job.fired = false) (ch : ℕ) : j ∉ q ch := by
  intro hm
  obtain ⟨job', hjob', hfired, -⟩ := h.home ch j hm
  exact State.ne_of_unfired hj hunfired hjob' hfired rfl

theorem appendJob_job_self (s : State) (j : ℕ) (job : Job) :
    (appendJob s j job).job j = some { job with fired := true } :=
  Function.update_self j _ s.job

theorem appendJob_job_of_ne (s : State) {i j : ℕ} (job : Job) (h : i ≠ j) :
    (appendJob s j job).job i = s.job i :=
  Function.update_of_ne h _ s.job

/-- Appending a job marks it as fired, and leaves the others as they are. -/
theorem appendJob_job_cases {s : State} {i j : ℕ} {job job' : Job}
    (hi : (appendJob s j job).job i = some job') :
    (i = j ∧ job' = { job with fired := true }) ∨ (i ≠ j ∧ s.job i = some job') := by
  by_cases hij : i = j
  · subst hij
    rw [appendJob_job_self] at hi
    exact .inl ⟨rfl, (Option.some.inj hi).symm⟩
  · rw [appendJob_job_of_ne s job hij] at hi
    exact .inr ⟨hij, hi⟩

/-- The queue of the job's channel gets it as its last element; in another channel's queue
nothing is written, as its elements are not of the job's channel. -/
theorem appendJob_holds {s : State} {q : ℕ → List ℕ} (h : Inv s q) {j : ℕ} {job : Job}
    (hnot : ∀ ch, j ∉ q ch) (ch : ℕ) :
    Holds (appendJob s j job).next ((appendJob s j job).queue ch) (record q job.ch j ch) := by
  by_cases hch : ch = job.ch
  · subst hch
    have hqueue : (appendJob s j job).queue job.ch = (s.queue job.ch).append j :=
      Function.update_self _ _ _
    rw [hqueue, record_self]
    exact (h.holds job.ch).append (h.nodup job.ch) (hnot job.ch)
  · have hqueue : (appendJob s j job).queue ch = s.queue ch := Function.update_of_ne hch _ _
    rw [hqueue, record_of_ne q j hch]
    refine (h.holds ch).congr fun i hi => appendLinks_of_ne ?_ ?_
    · rintro rfl
      exact hnot ch hi
    · intro ht
      obtain ⟨job₁, hjob₁, -, hch₁⟩ := h.home ch i hi
      obtain ⟨job₂, hjob₂, -, hch₂⟩ := h.home job.ch i ((h.holds job.ch).tail_mem ht)
      rw [hjob₁] at hjob₂
      cases Option.some.inj hjob₂
      exact hch (hch₁.symm.trans hch₂)

/-- The job is the last of its channel, both among those fired and among those queued. -/
theorem appendJob_flow {s : State} {q : ℕ → List ℕ} (h : Inv s q) {j : ℕ} {job : Job}
    (hnot : ∀ ch, j ∉ q ch) (ch : ℕ) :
    s.taken ch ++ (record q job.ch j ch).map (appendJob s j job).number =
      record s.fired job.ch job.number ch := by
  have hold : (q ch).map (appendJob s j job).number = (q ch).map s.number := by
    refine number_congr fun i hi => appendJob_job_of_ne s job ?_
    rintro rfl
    exact hnot ch hi
  by_cases hch : ch = job.ch
  · subst hch
    rw [record_self, record_self, List.map_append, hold, List.map_singleton,
      State.number_eq (appendJob_job_self s j job), ← List.append_assoc, h.flow]
  · rw [record_of_ne _ _ hch, record_of_ne _ _ hch, hold]
    exact h.flow ch

/-- **Appending a job** whose timer has not fired before. -/
theorem appendJob_inv {s : State} {q : ℕ → List ℕ} (h : Inv s q) {j : ℕ} {job : Job}
    (hj : s.job j = some job) (hunfired : job.fired = false) :
    Inv (appendJob s j job) (enqueued q job.ch j) := by
  have hnot := h.notMem_of_unfired hj hunfired
  have hkeep : ∀ i job', s.job i = some job' → job'.fired = true →
      i ≠ j ∧ (appendJob s j job).job i = some job' := by
    intro i job' hi hf
    have hij := State.ne_of_unfired hj hunfired hi hf
    exact ⟨hij, (appendJob_job_of_ne s job hij).trans hi⟩
  have hnew : ∀ i job', (appendJob s j job).job i = some job' → job'.fired = false →
      i ≠ j ∧ s.job i = some job' := by
    intro i job' hi hf
    rcases appendJob_job_cases hi with ⟨-, rfl⟩ | hold
    · exact absurd hf (by simp)
    · exact hold
  rw [enqueued_eq]
  refine ⟨appendJob_holds h hnot, nodup_record h.nodup (hnot job.ch), ?_, ?_, ?_, h.oneWorker,
    h.up, appendJob_flow h hnot, ?_, h.idle, ?_, ?_,
    nodup_record h.firedOnce (h.unfired j job hj hunfired job.ch), ?_, ?_⟩
  · intro ch i hi
    rcases mem_record.1 hi with hold | ⟨rfl, rfl⟩
    · obtain ⟨job', hjob', hf, hch⟩ := h.home ch i hold
      exact ⟨job', (hkeep i job' hjob' hf).2, hf, hch⟩
    · exact ⟨_, appendJob_job_self s i job, rfl, rfl⟩
  · intro w hw i hi
    obtain ⟨job', hjob', hf, hch', hout⟩ := h.hand w hw i hi
    obtain ⟨hij, hjob⟩ := hkeep i job' hjob' hf
    refine ⟨job', hjob, hf, hch', fun hm => ?_⟩
    rcases mem_record.1 hm with hm | ⟨-, hm⟩
    · exact hout hm
    · exact hij hm
  · intro i job' hi
    rcases appendJob_job_cases hi with ⟨-, rfl⟩ | ⟨-, hold⟩
    · exact h.inRange j job hj
    · exact h.inRange i job' hold
  · intro w hw
    rw [inHand_congr (s := s) fun i hi => ?_]
    · exact h.working w hw
    · obtain ⟨job', hjob', hf, -⟩ := h.hand w hw i hi
      exact appendJob_job_of_ne s job (hkeep i job' hjob' hf).1
  · intro i job' hi
    rcases appendJob_job_cases hi with ⟨-, rfl⟩ | ⟨-, hold⟩
    · exact h.known j job hj
    · exact h.known i job' hold
  · intro ch n hn
    rcases mem_record.1 hn with hn | ⟨-, rfl⟩
    · exact h.firedKnown ch n hn
    · exact h.known j job hj
  · intro i job' hi hf ch hm
    obtain ⟨hij, hold⟩ := hnew i job' hi hf
    rcases mem_record.1 hm with hm | ⟨-, hnumber⟩
    · exact h.unfired i job' hold hf ch hm
    · exact hij (h.unfiredOnce i j job' job hold hj hf hunfired hnumber)
  · intro i i' job₁ job₂ hi hi' hf hf' hnumber
    exact h.unfiredOnce i i' job₁ job₂ (hnew i job₁ hi hf).2 (hnew i' job₂ hi' hf').2 hf hf'
      hnumber

/-- **`mtkProxyTimerFired`.**  It does not write through a freed job, and the job is queued
last. -/
theorem mtkProxyTimerFired_spec {s : State} {q : ℕ → List ℕ} (h : Inv s q) {j : ℕ} {job : Job}
    (hj : s.job j = some job) (hunfired : job.fired = false) (created : Bool) :
    ∃ s', mtkProxyTimerFired s j created = some s' ∧ Inv s' (enqueued q job.ch j) ∧
      s'.job = Function.update s.job j (some { job with fired := true }) ∧
      s'.fired = record s.fired job.ch job.number ∧ s'.requested = s.requested := by
  have htail : ((s.queue job.ch).tail.all fun t => (s.job t).isSome) = true := by
    cases ht : (s.queue job.ch).tail with
    | none => rfl
    | some t =>
        obtain ⟨job', hjob', -⟩ := h.home job.ch t ((h.holds job.ch).tail_mem ht)
        simp [hjob']
  refine ⟨_, ?_, startWorker_inv (appendJob_inv h hj hunfired) job.ch created, ?_, ?_, ?_⟩
  · simp only [mtkProxyTimerFired, hj, htail, Option.bind_eq_bind, Option.bind_some, if_true]
  · exact startWorker_job _ _ _
  · exact startWorker_fired _ _ _
  · exact startWorker_requested _ _ _

/-! ## The workers -/

/-- A worker that is replaced by one of the same channel leaves the channels as they are. -/
theorem map_ch_set {l : List Worker} {w : ℕ} {old : Worker} (new : Worker) (hw : l[w]? = some old)
    (hch : new.ch = old.ch) : (l.set w new).map Worker.ch = l.map Worker.ch := by
  obtain ⟨hlt, rfl⟩ := List.getElem?_eq_some_iff.1 hw
  rw [List.map_set, hch, ← List.getElem_map Worker.ch (h := by simpa using hlt)]
  exact List.set_getElem_self _

/-- The workers after one of them has been replaced. -/
theorem mem_set_worker {l : List Worker} {w : ℕ} {old w' : Worker} (new : Worker)
    (hnd : (l.map Worker.ch).Nodup) (hw : l[w]? = some old) (hch : new.ch = old.ch)
    (hw' : w' ∈ l.set w new) : w' = new ∨ (w' ∈ l ∧ w'.ch ≠ old.ch) := by
  by_cases hsame : w'.ch = old.ch
  · left
    have hnew : new ∈ l.set w new :=
      List.mem_set (List.getElem?_eq_some_iff.1 hw).1 new
    rw [← map_ch_set new hw hch] at hnd
    exact List.inj_on_of_nodup_map hnd hw' hnew (hsame.trans hch.symm)
  · rcases List.mem_or_eq_of_mem_set hw' with hold | rfl
    · exact .inr ⟨hold, hsame⟩
    · exact .inl rfl

/-- No worker is lost when one of them is replaced. -/
theorem forall_ch_ne {l : List Worker} {w : ℕ} {old : Worker} (new : Worker) (hw : l[w]? = some old)
    (hch : new.ch = old.ch) {ch : ℕ} (h : ∀ w' ∈ l.set w new, w'.ch ≠ ch) :
    (∀ w' ∈ l, w'.ch ≠ ch) ∧ ch ≠ old.ch := by
  have hnot : ch ∉ (l.set w new).map Worker.ch := by
    intro hm
    obtain ⟨w', hw', hch'⟩ := List.mem_map.1 hm
    exact h w' hw' hch'
  rw [map_ch_set new hw hch] at hnot
  refine ⟨fun w' hw' hch' => hnot (List.mem_map.2 ⟨w', hw', hch'⟩), ?_⟩
  rintro rfl
  exact hnot (List.mem_map.2 ⟨old, List.mem_of_getElem? hw, rfl⟩)

section Replaced

variable {s : State} {q : ℕ → List ℕ} {w : ℕ} {old : Worker}

/-- No second worker of a channel comes up when one of them is replaced. -/
theorem Inv.oneWorker_set (h : Inv s q) (new : Worker) (hw : s.workers[w]? = some old)
    (hch : new.ch = old.ch) : ((s.workers.set w new).map Worker.ch).Nodup := by
  rw [map_ch_set new hw hch]
  exact h.oneWorker

theorem Inv.up_set (h : Inv s q) (new : Worker) (hw : s.workers[w]? = some old)
    (hch : new.ch = old.ch) : ∀ w' ∈ s.workers.set w new, s.workerUp w'.ch = true := by
  intro w' hw'
  rcases List.mem_or_eq_of_mem_set hw' with hold | rfl
  · exact h.up w' hold
  · rw [hch]
    exact h.up old (List.mem_of_getElem? hw)

end Replaced

/-- **The locked section of `mtkProxyWorker`.**  The worker takes the oldest job of its
channel. -/
theorem takeJob_spec {s : State} {q : ℕ → List ℕ} (h : Inv s q) {w : ℕ} {worker : Worker}
    (hw : s.workers[w]? = some worker) (hfree : worker.job = none) {j : ℕ} {rest : List ℕ}
    (hq : q worker.ch = j :: rest) :
    ∃ s', takeJob s w worker = some s' ∧ Inv s' (Function.update q worker.ch rest) ∧
      s'.job = s.job ∧ s'.fired = s.fired ∧ s'.requested = s.requested := by
  have hmem : worker ∈ s.workers := List.mem_of_getElem? hw
  obtain ⟨job, hjob, hfired, hjobch⟩ := h.home worker.ch j (by simp [hq])
  obtain ⟨hhead, hpop⟩ := (hq ▸ h.holds worker.ch).pop
  have hnd := h.nodup worker.ch
  rw [hq] at hnd
  have hsub : ∀ ch, (Function.update q worker.ch rest ch).Sublist (q ch) := by
    intro ch
    by_cases hch : ch = worker.ch
    · rw [hch, Function.update_self, hq]
      exact List.sublist_cons_self j rest
    · rw [Function.update_of_ne hch]
  have hset : ∀ w' ∈ s.workers.set w ⟨worker.ch, some j⟩,
      w' = ⟨worker.ch, some j⟩ ∨ (w' ∈ s.workers ∧ w'.ch ≠ worker.ch) :=
    fun w' hw' => mem_set_worker ⟨worker.ch, some j⟩ h.oneWorker hw rfl hw'
  refine ⟨{ s with
      queue := Function.update s.queue worker.ch ((s.queue worker.ch).pop s.next j)
      workers := s.workers.set w ⟨worker.ch, some j⟩
      taken := record s.taken worker.ch job.number }, ?_,
    ⟨?_, fun ch => (h.nodup ch).sublist (hsub ch), fun ch i hi => h.home ch i ((hsub ch).subset hi),
      ?_, h.inRange, ?_, ?_, ?_, ?_, ?_, h.known, h.firedKnown, h.firedOnce, h.unfired,
      h.unfiredOnce⟩, rfl, rfl, rfl⟩
  · simp only [takeJob, hhead, hjob, Option.bind_eq_bind, Option.bind_some]
  · intro ch
    by_cases hch : ch = worker.ch
    · subst hch
      simp only [Function.update_self]
      exact hpop
    · simp only [Function.update_of_ne hch]
      exact h.holds ch
  · intro w' hw' i hi
    rcases hset w' hw' with rfl | ⟨hold, hch⟩
    · cases Option.some.inj hi
      refine ⟨job, hjob, hfired, hjobch, ?_⟩
      rw [Function.update_self]
      exact (List.nodup_cons.1 hnd).1
    · rw [Function.update_of_ne hch]
      exact h.hand w' hold i hi
  · exact h.oneWorker_set ⟨worker.ch, some j⟩ hw rfl
  · exact h.up_set ⟨worker.ch, some j⟩ hw rfl
  · intro ch
    change record s.taken worker.ch job.number ch ++ List.map s.number _ = s.fired ch
    by_cases hch : ch = worker.ch
    · subst hch
      have hflow := h.flow worker.ch
      rw [hq, List.map_cons, State.number_eq hjob] at hflow
      rw [record_self, Function.update_self, List.append_assoc]
      exact hflow
    · rw [record_of_ne _ _ hch, Function.update_of_ne hch]
      exact h.flow ch
  · intro w' hw'
    change s.executed w'.ch ++ (w'.job.map s.number).toList
      = record s.taken worker.ch job.number w'.ch
    rcases hset w' hw' with rfl | ⟨hold, hch⟩
    · have hworking := h.working worker hmem
      rw [hfree] at hworking
      rw [record_self, ← hworking]
      simp [State.number_eq hjob]
    · rw [record_of_ne _ _ hch]
      exact h.working w' hold
  · intro ch hch
    change s.executed ch = record s.taken worker.ch job.number ch
    obtain ⟨hnone, hne⟩ := forall_ch_ne ⟨worker.ch, some j⟩ hw rfl hch
    rw [record_of_ne _ _ hne]
    exact h.idle ch hnone

/-- **Running a job.**  The job that is freed is on no queue and in no other hand. -/
theorem runJob_spec {s : State} {q : ℕ → List ℕ} (h : Inv s q) {w : ℕ} {worker : Worker}
    (hw : s.workers[w]? = some worker) {j : ℕ} (hj : worker.job = some j) :
    ∃ s', runJob s w worker j = some s' ∧ Inv s' q ∧
      s'.job = Function.update s.job j none ∧ s'.fired = s.fired ∧
      s'.requested = s.requested := by
  have hmem : worker ∈ s.workers := List.mem_of_getElem? hw
  obtain ⟨job, hjob, -, hjobch, hout⟩ := h.hand worker hmem j hj
  have hset : ∀ w' ∈ s.workers.set w ⟨worker.ch, none⟩,
      w' = ⟨worker.ch, none⟩ ∨ (w' ∈ s.workers ∧ w'.ch ≠ worker.ch) :=
    fun w' hw' => mem_set_worker ⟨worker.ch, none⟩ h.oneWorker hw rfl hw'
  have hqueued : ∀ ch, ∀ i ∈ q ch, i ≠ j := by
    rintro ch i hi rfl
    obtain ⟨job', hjob', -, hch'⟩ := h.home ch i hi
    rw [hjob] at hjob'
    cases Option.some.inj hjob'
    rw [← hch', hjobch] at hi
    exact hout hi
  have hothers : ∀ w' ∈ s.workers, w'.ch ≠ worker.ch → ∀ i, w'.job = some i → i ≠ j := by
    rintro w' hw' hch i hi rfl
    obtain ⟨job', hjob', -, hch', -⟩ := h.hand w' hw' i hi
    rw [hjob] at hjob'
    cases Option.some.inj hjob'
    exact hch (hch'.symm.trans hjobch)
  have hsub : ∀ i job', Function.update s.job j none i = some job' → s.job i = some job' := by
    intro i job' hi
    by_cases hij : i = j
    · subst hij
      rw [Function.update_self] at hi
      exact absurd hi (by simp)
    · rwa [Function.update_of_ne hij] at hi
  refine ⟨{ s with
      job := Function.update s.job j none
      workers := s.workers.set w ⟨worker.ch, none⟩
      executed := record s.executed worker.ch job.number }, ?_,
    ⟨h.holds, h.nodup, ?_, ?_, ?_, ?_, ?_, ?_, ?_, ?_, ?_, h.firedKnown, h.firedOnce, ?_, ?_⟩,
    rfl, rfl, rfl⟩
  · simp only [runJob, hjob, Option.bind_eq_bind, Option.bind_some]
  · intro ch i hi
    obtain ⟨job', hjob', hrest⟩ := h.home ch i hi
    exact ⟨job', (Function.update_of_ne (hqueued ch i hi) _ _).trans hjob', hrest⟩
  · intro w' hw' i hi
    rcases hset w' hw' with rfl | ⟨hold, hch⟩
    · exact absurd hi (by simp)
    · obtain ⟨job', hjob', hrest⟩ := h.hand w' hold i hi
      exact ⟨job', (Function.update_of_ne (hothers w' hold hch i hi) _ _).trans hjob', hrest⟩
  · exact fun i job' hi => h.inRange i job' (hsub i job' hi)
  · exact h.oneWorker_set ⟨worker.ch, none⟩ hw rfl
  · exact h.up_set ⟨worker.ch, none⟩ hw rfl
  · intro ch
    rw [number_congr (s := s) fun i hi => Function.update_of_ne (hqueued ch i hi) _ _]
    exact h.flow ch
  · intro w' hw'
    rcases hset w' hw' with rfl | ⟨hold, hch⟩
    · have hworking := h.working worker hmem
      rw [hj] at hworking
      change record s.executed worker.ch job.number worker.ch ++ [] = s.taken worker.ch
      rw [record_self, ← hworking]
      simp [State.number_eq hjob]
    · rw [inHand_congr (s := s) fun i hi =>
        Function.update_of_ne (hothers w' hold hch i hi) _ _]
      change record s.executed worker.ch job.number w'.ch ++ _ = s.taken w'.ch
      rw [record_of_ne _ _ hch]
      exact h.working w' hold
  · intro ch hch
    obtain ⟨hnone, hne⟩ := forall_ch_ne ⟨worker.ch, none⟩ hw rfl hch
    change record s.executed worker.ch job.number ch = s.taken ch
    rw [record_of_ne _ _ hne]
    exact h.idle ch hnone
  · exact fun i job' hi => h.known i job' (hsub i job' hi)
  · exact fun i job' hi => h.unfired i job' (hsub i job' hi)
  · exact fun i i' job₁ job₂ hi hi' =>
      h.unfiredOnce i i' job₁ job₂ (hsub i job₁ hi) (hsub i' job₂ hi')

/-! ## Main result -/

/-- **One step.**  Every event keeps the invariant. -/
theorem step_inv {s s' : State} {q : ℕ → List ℕ} {e : Event} (h : Inv s q)
    (hs : step s e = some s') : ∃ q', Inv s' q' := by
  cases e with
  | request j proxyId => exact ⟨q, requestJob_inv h hs⟩
  | timerFired j created =>
      simp only [step, Option.ite_none_right_eq_some, Option.map_eq_some_iff] at hs
      obtain ⟨⟨job, hjob, hunfired⟩, hs⟩ := hs
      obtain ⟨t, ht, hinv, -, -, -⟩ := mtkProxyTimerFired_spec h hjob hunfired created
      cases Option.some.inj (ht.symm.trans hs)
      exact ⟨_, hinv⟩
  | take w =>
      simp only [step, Option.bind_eq_bind, Option.bind_eq_some_iff,
        Option.ite_none_right_eq_some] at hs
      obtain ⟨worker, hw, hfree, hs⟩ := hs
      cases hq : q worker.ch with
      | nil =>
          have hhead : (s.queue worker.ch).head = none := (hq ▸ h.holds worker.ch).spans
          simp [takeJob, hhead] at hs
      | cons j rest =>
          obtain ⟨t, ht, hinv, -⟩ := takeJob_spec h hw hfree hq
          cases Option.some.inj (ht.symm.trans hs)
          exact ⟨_, hinv⟩
  | run w =>
      simp only [step, Option.bind_eq_bind, Option.bind_eq_some_iff] at hs
      obtain ⟨worker, hw, j, hj, hs⟩ := hs
      obtain ⟨t, ht, hinv, -⟩ := runJob_spec h hw hj
      cases Option.some.inj (ht.symm.trans hs)
      exact ⟨q, hinv⟩

/-- No thread follows a null pointer or one to a freed job. -/
structure State.Live (s : State) : Prop where
  timerFired : ∀ j created, (s.job j).map Job.fired = some false →
    (step s (.timerFired j created)).isSome
  take : ∀ (w : ℕ) (worker : Worker), s.workers[w]? = some worker → worker.job = none →
    (s.queue worker.ch).head ≠ none → (step s (.take w)).isSome
  run : ∀ (w : ℕ) (worker : Worker), s.workers[w]? = some worker → worker.job ≠ none →
    (step s (.run w)).isSome

/-- The jobs of every channel flow through its queue in order. -/
structure State.Fifo (s : State) (q : ℕ → List ℕ) : Prop where
  /-- from the head the queued jobs are reached, and the tail is the last of them -/
  holds : ∀ ch, Holds s.next (s.queue ch) (q ch)
  headTail : ∀ ch, (s.queue ch).head = none ↔ (s.queue ch).tail = none
  /-- the jobs taken, and then those still queued, are the jobs fired, each of them once -/
  flow : ∀ ch, s.taken ch ++ (q ch).map s.number = s.fired ch
  once : ∀ ch, (s.fired ch).Nodup
  oneWorker : (s.workers.map Worker.ch).Nodup
  /-- a worker only has jobs of its own channel -/
  ownJobs : ∀ w ∈ s.workers, ∀ j, w.job = some j → ∃ job, s.job j = some job ∧ job.ch = w.ch
  inRange : ∀ j job, s.job j = some job → job.ch < mtkChannelCount
  live : s.Live

/-- What was executed came first among what was fired. -/
theorem Inv.executed_prefix {s : State} {q : ℕ → List ℕ} (h : Inv s q) (ch : ℕ) :
    s.executed ch <+: s.fired ch := by
  have htaken : s.executed ch <+: s.taken ch := by
    by_cases hw : ∃ w ∈ s.workers, w.ch = ch
    · obtain ⟨w, hw, rfl⟩ := hw
      exact ⟨_, h.working w hw⟩
    · have hidle := h.idle ch fun w hw' hch => hw ⟨w, hw', hch⟩
      exact ⟨[], by rw [List.append_nil, hidle]⟩
  exact htaken.trans ⟨_, h.flow ch⟩

theorem Inv.fifo {s : State} {q : ℕ → List ℕ} (h : Inv s q) : s.Fifo q where
  holds := h.holds
  headTail := fun ch => (h.holds ch).head_eq_none_iff
  flow := h.flow
  once := h.firedOnce
  oneWorker := h.oneWorker
  ownJobs := by
    intro w hw j hj
    obtain ⟨job, hjob, -, hch, -⟩ := h.hand w hw j hj
    exact ⟨job, hjob, hch⟩
  inRange := h.inRange
  live := by
    refine ⟨?_, ?_, ?_⟩
    · intro j created hj
      obtain ⟨job, hjob, hunfired⟩ := Option.map_eq_some_iff.1 hj
      obtain ⟨t, ht, -⟩ := mtkProxyTimerFired_spec h hjob hunfired created
      simp [step, hj, ht]
    · intro w worker hw hfree hhead
      cases hq : q worker.ch with
      | nil => exact absurd (hq ▸ h.holds worker.ch).spans hhead
      | cons j rest =>
          obtain ⟨t, ht, -⟩ := takeJob_spec h hw hfree hq
          simp [step, hw, hfree, ht]
    · intro w worker hw hbusy
      obtain ⟨j, hj⟩ := Option.ne_none_iff_exists'.1 hbusy
      obtain ⟨t, ht, -⟩ := runJob_spec h hw hj
      simp [step, hw, hj, ht]

/-- **The proxy job queues.**  However the timers that fire and the workers of all channels
interleave, and whenever a worker cannot be created, the jobs of each channel are taken by
its own worker, in the order in which their timers fired. -/
theorem jobs_fifo (es : List Event) :
    Always step (fun s => ∃ q, s.Fifo q) State.init es := by
  have hinv : Always step (fun s => ∃ q, Inv s q) State.init es := by
    refine always_of_step ?_ ⟨_, inv_init⟩ es
    rintro s e s' ⟨q, hq⟩ hs
    exact step_inv hq hs
  apply hinv.mono
  rintro s ⟨q, hq⟩
  exact ⟨q, hq.fifo⟩

end MtkProxy
