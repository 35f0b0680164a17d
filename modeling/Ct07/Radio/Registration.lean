/-
# Registering callbacks and clearing dead ones (`ril_service.cpp`)

A client registers its callbacks with `setResponseFunctions`, once for the radio service
and once for the OEM hook service of a slot.  A thread whose call to the client fails
clears the callbacks of that service in `checkReturnStatus`: it reads the counter of the
service under its read lock, gives the lock up, waits for the write lock, and clears only
if the counter is the same.  In between, other threads may register and clear.

The model has the rwlock of one slot, the callbacks and counters of its two services, and
any number of threads, each at its place in the code.  The writes to the callbacks and to
the counter are steps of their own.  Beside them it records the registrations made and the
callbacks cleared.

Main result: `registrationsKept`.
-/
import Ct07.Lib.Run
import Ct07.Lib.SharedLock
import Ct07.Lib.VersionedCell

open PartialStep SharedLock VersionedCell

namespace Radio.Registration

/-! ## State -/

/-- The two services of a slot. -/
inductive Service where
  | radio | oemHook
  deriving DecidableEq, Repr

/-- The callbacks of a service: `mRadioResponse` and `mRadioIndication`, or `mOemHookResponse`
and `mOemHookIndication`. -/
structure Callbacks where
  response : Option ℕ
  indication : Option ℕ
  deriving DecidableEq, Repr

/-- Both `NULL`. -/
def Callbacks.null : Callbacks := ⟨none, none⟩

/-- Callbacks, and how many registrations of the service led up to them. -/
structure Installed where
  callbacks : Callbacks
  number : ℕ
  deriving DecidableEq, Repr

/-- A call to the client: the callbacks it uses, and how many registrations of the service
there were when it began. -/
structure ClientCall where
  service : Service
  used : Installed
  began : ℕ
  deriving DecidableEq, Repr

/-- Who writes the callbacks of a service. -/
inductive Writer where
  /-- `setResponseFunctions`. -/
  | registration (service : Service) (callbacks : Callbacks)
  /-- `checkReturnStatus`. -/
  | reset (call : ClientCall)
  deriving DecidableEq, Repr

/-- The service written to. -/
def Writer.service : Writer → Service
  | .registration service _ => service
  | .reset call => call.service

/-- The callbacks written. -/
def Writer.target : Writer → Callbacks
  | .registration _ callbacks => callbacks
  | .reset _ => .null

/-- The write that comes next. -/
inductive Stage where
  | response | indication | counter
  deriving DecidableEq, Repr

/-- Where a thread is. -/
inductive Pc where
  | idle
  /-- Under the read lock, on the way to a response function or behind it. -/
  | reading
  /-- In a call to the client. -/
  | calling (call : ClientCall)
  /-- In `checkReturnStatus`, for a call that failed. -/
  | failed (call : ClientCall)
  /-- The counter is read. -/
  | sampled (call : ClientCall) (counter : ℕ)
  /-- The read lock is given up. -/
  | released (call : ClientCall) (counter : ℕ)
  /-- The write lock is taken. -/
  | comparing (call : ClientCall) (counter : ℕ)
  /-- Waits for the write lock in `setResponseFunctions`. -/
  | registering (service : Service) (callbacks : Callbacks)
  | writing (w : Writer) (stage : Stage)
  /-- About to release the write lock. -/
  | written (w : Writer)
  /-- Waits to get its read lock back. -/
  | relocking
  deriving DecidableEq, Repr

/-- What a thread holds of the rwlock. -/
def Pc.mode : Pc → Mode
  | .reading | .calling _ | .failed _ | .sampled _ _ => .read
  | .comparing _ _ | .writing _ _ | .written _ => .write
  | _ => .free

/-- Callbacks that `checkReturnStatus` has cleared: the failed call, and what the service
held when the counters were found to be the same. -/
structure Clear where
  call : ClientCall
  cleared : Installed
  deriving DecidableEq, Repr

/-- Lock, threads, callbacks and counters of a slot, and the record, latest first. -/
structure State (T : Type*) where
  /-- The rwlock of the slot. -/
  lock : Lock T
  pc : T → Pc
  callbacks : Service → Callbacks
  /-- `mCounterRadio` and `mCounterOemHook`. -/
  counter : Service → ℕ
  /-- The callbacks registered with each service. -/
  registered : Service → List Callbacks
  clears : List Clear

variable {T : Type*}

/-- Before the first registration. -/
def State.init : State T :=
  { lock := .free, pc := fun _ => .idle, callbacks := fun _ => .null, counter := fun _ => 0
    registered := fun _ => [], clears := [] }

/-- What a service holds, with the number of registrations made. -/
def State.installed (s : State T) (service : Service) : Installed :=
  ⟨s.callbacks service, (s.registered service).length⟩

/-- The callbacks registered last. -/
def State.latest (s : State T) (service : Service) : Callbacks :=
  (s.registered service).headD .null

/-! ## Steps -/

/-- What a thread can do. -/
inductive Event (T : Type*) where
  /-- Takes the read lock, to call a response function. -/
  | rdlock (t : T)
  /-- Calls the client through one of the callbacks of a service. -/
  | call (t : T) (service : Service)
  /-- The call returns. -/
  | callReturns (t : T) (isOk : Bool)
  /-- Releases the read lock. -/
  | unlock (t : T)
  /-- Enters `setResponseFunctions`. -/
  | setResponseFunctions (t : T) (service : Service) (callbacks : Callbacks)
  /-- Goes on in `checkReturnStatus` or `setResponseFunctions`. -/
  | advance (t : T)

variable [DecidableEq T]

/-- A thread goes to another place. -/
def State.goto (s : State T) (t : T) (pc : Pc) : State T :=
  { s with pc := Function.update s.pc t pc }

/-- Write the callbacks of a service. -/
def State.setCallbacks (s : State T) (service : Service) (callbacks : Callbacks) : State T :=
  { s with callbacks := Function.update s.callbacks service callbacks }

/-- The next step of `checkReturnStatus` or `setResponseFunctions`. -/
def State.advance (s : State T) (t : T) : Option (State T) :=
  match s.pc t with
  | .failed call => some (s.goto t (.sampled call (s.counter call.service)))
  | .sampled call counter =>
      (s.lock.unlock t).map fun lock => { s with lock := lock }.goto t (.released call counter)
  | .released call counter =>
      (s.lock.wrlock t).map fun lock => { s with lock := lock }.goto t (.comparing call counter)
  | .comparing call counter =>
      if counter = s.counter call.service then
        some ({ s with clears := ⟨call, s.installed call.service⟩ :: s.clears }.goto t
          (.writing (.reset call) .response))
      else some (s.goto t (.written (.reset call)))
  | .registering service callbacks =>
      -- recorded with the write lock, before the first write
      (s.lock.wrlock t).map fun lock =>
        { s with
          lock := lock
          registered := Function.update s.registered service
            (callbacks :: s.registered service) }.goto t
          (.writing (.registration service callbacks) .response)
  | .writing w .response =>
      let callbacks := { s.callbacks w.service with response := w.target.response }
      some ((s.setCallbacks w.service callbacks).goto t (.writing w .indication))
  | .writing w .indication =>
      let callbacks := { s.callbacks w.service with indication := w.target.indication }
      some ((s.setCallbacks w.service callbacks).goto t (.writing w .counter))
  | .writing w .counter =>
      some ({ s with
        counter := Function.update s.counter w.service (s.counter w.service + 1) }.goto t
        (.written w))
  | .written (.registration _ _) =>
      (s.lock.unlock t).map fun lock => { s with lock := lock }.goto t .idle
  | .written (.reset _) =>
      (s.lock.unlock t).map fun lock => { s with lock := lock }.goto t .relocking
  | .relocking =>
      (s.lock.rdlock t).map fun lock => { s with lock := lock }.goto t .reading
  | _ => none

/-- One step.  `none` when the event cannot happen in the state. -/
def step (s : State T) : Event T → Option (State T)
  | .rdlock t =>
      if s.pc t = .idle then
        (s.lock.rdlock t).map fun lock => { s with lock := lock }.goto t .reading
      else none
  | .call t service =>
      if s.pc t = .reading ∧ s.callbacks service ≠ .null then
        some (s.goto t (.calling ⟨service, s.installed service,
          (s.registered service).length⟩))
      else none
  | .callReturns t isOk =>
      match s.pc t with
      | .calling call => some (s.goto t (if isOk then .reading else .failed call))
      | _ => none
  | .unlock t =>
      if s.pc t = .reading then
        (s.lock.unlock t).map fun lock => { s with lock := lock }.goto t .idle
      else none
  | .setResponseFunctions t service callbacks =>
      if s.pc t = .idle then some (s.goto t (.registering service callbacks)) else none
  | .advance t => s.advance t

/-! ## The property -/

/-- No registration is lost: what a failed call clears is what it had used, and not what was
registered after it began; no registration is cleared twice; and while nobody writes, each
service has the callbacks registered last, unless a failed call that had used them has
cleared them. -/
structure State.RegistrationsKept (s : State T) : Prop where
  cleared_used : ∀ c ∈ s.clears, c.cleared = c.call.used
  not_later : ∀ c ∈ s.clears, c.cleared.number ≤ c.call.began
  once : (s.clears.map fun c => (c.call.service, c.call.used.number)).Nodup
  kept : s.lock.writer = none → ∀ service, s.callbacks service = s.latest service ∨
    s.callbacks service = .null ∧ ∃ c ∈ s.clears, c.call.service = service ∧
      c.call.used = ⟨s.latest service, (s.registered service).length⟩

/-! ## The service as a versioned cell

Once nobody writes it, a service is a cell with a counter.  While a thread writes, the cell
already holds what the service will hold when the thread is done. -/

/-- The call went to callbacks that were not both `NULL`, and to those registered last or
what was left of them. -/
structure ClientCall.Begun (call : ClientCall) : Prop where
  not_null : call.used.callbacks ≠ .null
  began : call.began = call.used.number

/-- What a thread knows of the cells. -/
def Pc.Fits (cell : Service → Cell Installed) : Pc → Prop
  | .calling call | .failed call => call.Begun ∧ (cell call.service).value = call.used
  | .sampled call counter | .released call counter | .comparing call counter =>
      call.Begun ∧ (cell call.service).Seen counter call.used
  | _ => True

/-- The writes before the stage are done. -/
def Stage.Done (callbacks target : Callbacks) : Stage → Prop
  | .response => True
  | .indication => callbacks.response = target.response
  | .counter => callbacks = target

/-- Nobody writes the service. -/
def State.Settled (s : State T) (service : Service) : Prop :=
  ∀ t w stage, s.pc t = .writing w stage → w.service ≠ service

/-- The threads, callbacks and counters go along with the cells. -/
structure Tracks (s : State T) (cell : Service → Cell Installed) : Prop where
  lock : s.lock.Agrees (Pc.mode ∘ s.pc)
  fits : ∀ t, (s.pc t).Fits cell
  settled : ∀ service, s.Settled service → s.callbacks service = (cell service).value.callbacks ∧
    s.counter service = (cell service).version
  writing : ∀ t w stage, s.pc t = .writing w stage →
    (cell w.service).value.callbacks = w.target ∧
      (cell w.service).version = s.counter w.service + 1 ∧
      stage.Done (s.callbacks w.service) w.target

/-- The record goes along with the cells. -/
structure Recorded (registered : Service → List Callbacks) (clears : List Clear)
    (cell : Service → Cell Installed) : Prop where
  number : ∀ service, (cell service).value.number = (registered service).length
  cleared_used : ∀ c ∈ clears, c.cleared = c.call.used ∧ c.call.Begun
  number_le : ∀ c ∈ clears, c.call.used.number ≤ (cell c.call.service).value.number
  null_of_eq : ∀ c ∈ clears, c.call.used.number = (cell c.call.service).value.number →
    (cell c.call.service).value.callbacks = .null
  once : (clears.map fun c => (c.call.service, c.call.used.number)).Nodup
  kept : ∀ service, (cell service).value.callbacks = (registered service).headD .null ∨
    (cell service).value.callbacks = .null ∧ ∃ c ∈ clears, c.call.service = service ∧
      c.call.used = ⟨(registered service).headD .null, (registered service).length⟩

/-- The invariant. -/
def State.Sound (s : State T) : Prop :=
  ∃ cell, Tracks s cell ∧ Recorded s.registered s.clears cell

omit [DecidableEq T] in
theorem sound_init : (State.init : State T).Sound := by
  refine ⟨fun _ => ⟨⟨.null, 0⟩, 0⟩, ⟨agrees_free, fun _ => trivial, fun _ _ => ⟨rfl, rfl⟩, ?_⟩, ?_⟩
  · intro t w stage hpc
    exact absurd hpc (by simp [State.init])
  · refine ⟨fun _ => rfl, ?_, ?_, ?_, by simp [State.init], fun _ => Or.inl rfl⟩ <;>
      simp [State.init]

section Tracks

variable {s : State T} {cell : Service → Cell Installed} {t : T}

omit [DecidableEq T] in
theorem Tracks.mode_write (_h : Tracks s cell) {u : T} {w : Writer} {stage : Stage}
    (hu : s.pc u = .writing w stage) : (Pc.mode ∘ s.pc) u = .write := by
  simp [Pc.mode, hu]

omit [DecidableEq T] in
/-- Under the read lock the service is the cell. -/
theorem Tracks.settled_of_read (h : Tracks s cell) (ht : (s.pc t).mode = .read)
    (service : Service) : s.Settled service := by
  intro u w stage hu
  exact absurd (h.mode_write hu) (h.lock.not_write ht u)

omit [DecidableEq T] in
/-- Under the write lock the service is the cell, before the first write. -/
theorem Tracks.settled_of_write (h : Tracks s cell) (ht : (s.pc t).mode = .write)
    (hnot : ∀ w stage, s.pc t ≠ .writing w stage) (service : Service) : s.Settled service := by
  intro u w stage hu
  rw [h.lock.unique (h.mode_write hu) ht] at hu
  exact absurd hu (hnot w stage)

omit [DecidableEq T] in
/-- Only one thread writes. -/
theorem Tracks.writer_unique (h : Tracks s cell) {w w' : Writer} {stage stage' : Stage} {u : T}
    (ht : s.pc t = .writing w stage) (hu : s.pc u = .writing w' stage') : u = t :=
  h.lock.unique (h.mode_write hu) (h.mode_write ht)

/-- The lock when the thread holds in the new place what it held in the old one. -/
theorem Tracks.same_mode (h : Tracks s cell) {pc : Pc} (hmode : pc.mode = (s.pc t).mode) :
    s.lock.Agrees (Function.update (Pc.mode ∘ s.pc) t pc.mode) := by
  have hupdate : Function.update (Pc.mode ∘ s.pc) t pc.mode = Pc.mode ∘ s.pc := by
    rw [hmode]
    exact Function.update_eq_self t (Pc.mode ∘ s.pc)
  rw [hupdate]
  exact h.lock

/-- A step that writes nothing. -/
theorem Tracks.goto (h : Tracks s cell) {pc : Pc} {lock : Lock T} (hpc : pc.Fits cell)
    (hnew : ∀ w stage, pc ≠ .writing w stage) (hold : ∀ w stage, s.pc t ≠ .writing w stage)
    (hlock : lock.Agrees (Function.update (Pc.mode ∘ s.pc) t pc.mode)) :
    Tracks ({ s with lock := lock }.goto t pc) cell := by
  have hpcs : ∀ u w stage, Function.update s.pc t pc u = .writing w stage →
      s.pc u = .writing w stage := by
    intro u w stage hu
    by_cases hut : u = t
    · subst hut
      rw [Function.update_self] at hu
      exact absurd hu (hnew w stage)
    · rwa [Function.update_of_ne hut] at hu
  refine ⟨?_, fun u => ?_, fun service hs => h.settled service fun u w stage hu => ?_,
    fun u w stage hu => h.writing u w stage (hpcs u w stage hu)⟩
  · simp only [State.goto, Function.comp_update]
    exact hlock
  · by_cases hut : u = t
    · subst hut
      simpa [State.goto] using hpc
    · simpa [State.goto, hut] using h.fits u
  · have hut : u ≠ t := by
      rintro rfl
      exact hold w stage hu
    exact hs u w stage (by simp [State.goto, hut, hu])

/-- A step that leaves the lock as it is, too. -/
theorem Tracks.stay (h : Tracks s cell) {pc : Pc} (hpc : pc.Fits cell)
    (hnew : ∀ w stage, pc ≠ .writing w stage) (hold : ∀ w stage, s.pc t ≠ .writing w stage)
    (hmode : pc.mode = (s.pc t).mode) : Tracks (s.goto t pc) cell :=
  h.goto hpc hnew hold (h.same_mode hmode)

/-- A write to the callbacks. -/
theorem Tracks.assign (h : Tracks s cell) {w : Writer} {stage stage' : Stage}
    {callbacks : Callbacks} (ht : s.pc t = .writing w stage)
    (hdone : stage'.Done callbacks w.target) :
    Tracks ((s.setCallbacks w.service callbacks).goto t (.writing w stage')) cell := by
  have hother : ∀ u w' stage₁, u ≠ t → s.pc u ≠ .writing w' stage₁ := fun u w' stage₁ hut hu =>
    hut (h.writer_unique ht hu)
  refine ⟨?_, fun u => ?_, fun service hs => ?_, fun u w' stage₁ hu => ?_⟩
  · simp only [State.goto, State.setCallbacks, Function.comp_update]
    exact h.same_mode (by rw [ht]; rfl)
  · by_cases hut : u = t
    · subst hut
      simp [State.goto, Pc.Fits]
    · simpa [State.goto, State.setCallbacks, hut] using h.fits u
  · have hne : w.service ≠ service := hs t w stage' (by simp [State.goto])
    have hold := h.settled service fun u w' stage₁ hu => by
      rw [h.writer_unique ht hu, ht] at hu
      cases hu
      exact hne
    simpa [State.goto, State.setCallbacks, Ne.symm hne] using hold
  · by_cases hut : u = t
    · subst hut
      simp only [State.goto, Function.update_self] at hu
      cases hu
      obtain ⟨htarget, hversion, -⟩ := h.writing u w stage ht
      exact ⟨htarget, hversion, by simpa [State.goto, State.setCallbacks] using hdone⟩
    · refine absurd ?_ (hother u w' stage₁ hut)
      simpa [State.goto, State.setCallbacks, hut] using hu

/-- The write to the counter, after which the service is the cell again. -/
theorem Tracks.finish (h : Tracks s cell) {w : Writer} (ht : s.pc t = .writing w .counter) :
    Tracks ({ s with
      counter := Function.update s.counter w.service (s.counter w.service + 1) }.goto t
      (.written w)) cell := by
  have hother : ∀ u w' stage₁, u ≠ t → s.pc u ≠ .writing w' stage₁ := fun u w' stage₁ hut hu =>
    hut (h.writer_unique ht hu)
  refine ⟨?_, fun u => ?_, fun service _ => ?_, fun u w' stage₁ hu => ?_⟩
  · simp only [State.goto, Function.comp_update]
    exact h.same_mode (by rw [ht]; rfl)
  · by_cases hut : u = t
    · subst hut
      simp [State.goto, Pc.Fits]
    · simpa [State.goto, hut] using h.fits u
  · by_cases hservice : service = w.service
    · subst hservice
      obtain ⟨htarget, hversion, hdone⟩ := h.writing t w .counter ht
      refine ⟨?_, by simp [State.goto, hversion]⟩
      exact hdone.trans htarget.symm
    · have hold := h.settled service fun u w' stage₁ hu => by
        rw [h.writer_unique ht hu, ht] at hu
        cases hu
        exact Ne.symm hservice
      simpa [State.goto, hservice] using hold
  · by_cases hut : u = t
    · subst hut
      simp [State.goto] at hu
    · refine absurd ?_ (hother u w' stage₁ hut)
      simpa [State.goto, hut] using hu

/-- A thread under the write lock starts to write: the cell is written at once. -/
theorem Tracks.begin (h : Tracks s cell) {w : Writer} {i : Installed} {lock : Lock T}
    (registered : Service → List Callbacks) (clears : List Clear) (hi : i.callbacks = w.target)
    (hlock : lock.Agrees (Function.update (Pc.mode ∘ s.pc) t .write))
    (hquiet : ∀ service, s.Settled service) (hread : ∀ u, u ≠ t → (s.pc u).mode ≠ .read) :
    Tracks
      ({ s with lock := lock, registered := registered, clears := clears }.goto t
        (.writing w .response))
      (Function.update cell w.service ((cell w.service).write i)) := by
  refine ⟨?_, fun u => ?_, fun service hs => ?_, fun u w' stage hu => ?_⟩
  · simp only [State.goto, Function.comp_update]
    exact hlock
  · by_cases hut : u = t
    · subst hut
      simp [State.goto, Pc.Fits]
    · have hfits := h.fits u
      have hmode := hread u hut
      simp only [State.goto, Function.update_of_ne hut]
      -- nobody is in a call; what the others have read of the counter stays seen
      cases hpc : s.pc u with
      | calling call => simp [hpc, Pc.mode] at hmode
      | failed call => simp [hpc, Pc.mode] at hmode
      | sampled call counter => simp [hpc, Pc.mode] at hmode
      | released call counter =>
          simp only [hpc, Pc.Fits] at hfits ⊢
          exact ⟨hfits.1, hfits.2.update_write w.service i⟩
      | comparing call counter =>
          simp only [hpc, Pc.Fits] at hfits ⊢
          exact ⟨hfits.1, hfits.2.update_write w.service i⟩
      | _ => trivial
  · have hne : service ≠ w.service := fun heq => hs t w .response (by simp [State.goto]) heq.symm
    rw [Function.update_of_ne hne]
    exact h.settled service (hquiet service)
  · by_cases hut : u = t
    · subst hut
      simp only [State.goto, Function.update_self] at hu
      cases hu
      rw [Function.update_self]
      have hcounter := (h.settled w.service (hquiet w.service)).2
      exact ⟨hi, congrArg (· + 1) hcounter.symm, trivial⟩
    · simp only [State.goto, Function.update_of_ne hut] at hu
      exact absurd rfl (hquiet w'.service u w' stage hu)

end Tracks

/-! ## The record -/

section Recorded

variable {registered : Service → List Callbacks} {clears : List Clear}
variable {cell : Service → Cell Installed}

/-- A registration. -/
theorem Recorded.register (h : Recorded registered clears cell) (service : Service)
    (callbacks : Callbacks) :
    Recorded (Function.update registered service (callbacks :: registered service)) clears
      (Function.update cell service ((cell service).write
        ⟨callbacks, (registered service).length + 1⟩)) := by
  refine ⟨fun sv => ?_, h.cleared_used, fun c hc => ?_, fun c hc heq => ?_, h.once, fun sv => ?_⟩
  · by_cases hsv : sv = service
    · subst hsv
      simp
    · simp [hsv, h.number sv]
  · have hle := h.number_le c hc
    by_cases hsv : c.call.service = service
    · have hnumber := h.number service
      rw [hsv] at hle ⊢
      simp only [Function.update_self, write_value]
      omega
    · rwa [Function.update_of_ne hsv]
  · have hle := h.number_le c hc
    by_cases hsv : c.call.service = service
    · have hnumber := h.number service
      rw [hsv] at hle heq
      simp only [Function.update_self, write_value] at heq
      omega
    · rw [Function.update_of_ne hsv] at heq ⊢
      exact h.null_of_eq c hc heq
  · by_cases hsv : sv = service
    · subst hsv
      exact Or.inl (by simp)
    · simp only [Function.update_of_ne hsv]
      exact h.kept sv

/-- A failed call clears what it used, if that is still what the cell holds. -/
theorem Recorded.reset (h : Recorded registered clears cell) {call : ClientCall}
    (hcall : call.Begun) (hused : (cell call.service).value = call.used) :
    Recorded registered (⟨call, call.used⟩ :: clears)
      (Function.update cell call.service ((cell call.service).write
        ⟨.null, (registered call.service).length⟩)) := by
  have hnumber : call.used.number = (registered call.service).length := by
    rw [← hused]
    exact h.number call.service
  have hnot_null : (cell call.service).value.callbacks ≠ .null := by
    rw [hused]
    exact hcall.not_null
  refine ⟨fun sv => ?_, fun c hc => ?_, fun c hc => ?_, fun c hc heq => ?_, ?_, fun sv => ?_⟩
  · by_cases hsv : sv = call.service
    · subst hsv
      simp
    · simp [hsv, h.number sv]
  · rcases List.mem_cons.1 hc with rfl | hc
    · exact ⟨rfl, hcall⟩
    · exact h.cleared_used c hc
  · rcases List.mem_cons.1 hc with rfl | hc
    · simp [hnumber]
    · have hle := h.number_le c hc
      by_cases hsv : c.call.service = call.service
      · rw [hsv, h.number] at hle
        simpa [hsv] using hle
      · rwa [Function.update_of_ne hsv]
  · by_cases hsv : c.call.service = call.service
    · simp [hsv]
    · rcases List.mem_cons.1 hc with rfl | hc
      · exact absurd rfl hsv
      · rw [Function.update_of_ne hsv] at heq ⊢
        exact h.null_of_eq c hc heq
  · -- cleared before, the callbacks would be `NULL`, and nobody could have used them
    rw [List.map_cons, List.nodup_cons]
    refine ⟨fun hmem => ?_, h.once⟩
    obtain ⟨c, hc, heq⟩ := List.mem_map.1 hmem
    obtain ⟨hsv, hno⟩ := Prod.mk.inj heq
    apply hnot_null
    rw [← hsv]
    exact h.null_of_eq c hc (by rw [hno, hsv, hused])
  · by_cases hsv : sv = call.service
    · subst hsv
      refine Or.inr ⟨by simp, ⟨call, call.used⟩, List.mem_cons_self, rfl, ?_⟩
      have hlatest := (h.kept call.service).resolve_right fun hno => hnot_null hno.1
      rw [hused] at hlatest
      rw [← hlatest, ← hnumber]
    · simp only [Function.update_of_ne hsv]
      rcases h.kept sv with hlatest | ⟨hnull, c, hc, hc'⟩
      · exact Or.inl hlatest
      · exact Or.inr ⟨hnull, c, List.mem_cons_of_mem _ hc, hc'⟩

end Recorded

/-! ## One step -/

section Step

variable {s s' : State T} {cell : Service → Cell Installed} {t : T}

/-- A registration gets the write lock. -/
theorem registering_sound (h : s.Sound) {service : Service} {callbacks : Callbacks}
    {lock : Lock T} (hlock : s.lock.wrlock t = some lock) :
    ({ s with
      lock := lock
      registered := Function.update s.registered service
        (callbacks :: s.registered service) }.goto t
      (.writing (.registration service callbacks) .response)).Sound := by
  obtain ⟨cell, htracks, hrecorded⟩ := h
  obtain ⟨hagrees, hfree⟩ := htracks.lock.wrlock hlock
  have hquiet : ∀ sv, s.Settled sv := fun sv u w stage hu =>
    absurd ((htracks.mode_write hu).symm.trans (hfree u)) (by simp)
  have hread : ∀ u, u ≠ t → (s.pc u).mode ≠ .read := fun u _ hu =>
    absurd (hu.symm.trans (hfree u)) (by simp)
  exact ⟨_, htracks.begin (w := .registration service callbacks) _ _ rfl hagrees hquiet hread,
    hrecorded.register service callbacks⟩

/-- The counters are found to be the same: the service has what the failed call had used. -/
theorem comparing_sound (h : s.Sound) {call : ClientCall} {counter : ℕ}
    (hpc : s.pc t = .comparing call counter) (hcounter : counter = s.counter call.service) :
    ({ s with clears := ⟨call, s.installed call.service⟩ :: s.clears }.goto t
      (.writing (.reset call) .response)).Sound := by
  obtain ⟨cell, htracks, hrecorded⟩ := h
  have hmode : (s.pc t).mode = .write := by rw [hpc]; rfl
  have hquiet : ∀ sv, s.Settled sv := htracks.settled_of_write hmode (by simp [hpc])
  have hread : ∀ u, u ≠ t → (s.pc u).mode ≠ .read := fun u _ hu =>
    htracks.lock.not_write hu t hmode
  have hsame : (Pc.writing (.reset call) .response).mode = (s.pc t).mode := hmode.symm
  have hagrees := htracks.same_mode hsame
  have hfits := htracks.fits t
  rw [hpc] at hfits
  obtain ⟨hcallbacks, hversion⟩ := htracks.settled call.service (hquiet call.service)
  -- the counter is the one sampled under the read lock, so nobody has written since
  have hused : (cell call.service).value = call.used :=
    hfits.2.value (hversion.symm.trans hcounter.symm)
  have hinstalled : s.installed call.service = call.used := by
    rw [State.installed, hcallbacks, ← hrecorded.number, hused]
  rw [hinstalled]
  exact ⟨_, htracks.begin (w := .reset call) _ _ rfl hagrees hquiet hread,
    hrecorded.reset hfits.1 hused⟩

/-- A step in `checkReturnStatus` or `setResponseFunctions`. -/
theorem advance_sound (h : s.Sound) (hs : s.advance t = some s') : s'.Sound := by
  obtain ⟨cell, htracks, hrecorded⟩ := h
  have hfits := htracks.fits t
  unfold State.advance at hs
  cases hpc : s.pc t with
  | failed call =>
      simp only [hpc, Option.some.injEq] at hs
      subst hs
      rw [hpc] at hfits
      have hquiet := htracks.settled_of_read (by rw [hpc]; rfl) call.service
      -- no writer while the read lock is held: the counter read is the cell's
      have hseen : (cell call.service).Seen (s.counter call.service) call.used := by
        rw [(htracks.settled call.service hquiet).2, ← hfits.2]
        exact seen_self _
      refine ⟨cell, htracks.stay ?_ (by simp) (by simp [hpc]) (by rw [hpc]; rfl), hrecorded⟩
      exact ⟨hfits.1, hseen⟩
  | sampled call counter =>
      simp only [hpc] at hs
      obtain ⟨lock, hlock, rfl⟩ := Option.map_eq_some_iff.1 hs
      rw [hpc] at hfits
      exact ⟨cell, htracks.goto hfits (by simp) (by simp [hpc]) (htracks.lock.unlock hlock),
        hrecorded⟩
  | released call counter =>
      simp only [hpc] at hs
      obtain ⟨lock, hlock, rfl⟩ := Option.map_eq_some_iff.1 hs
      rw [hpc] at hfits
      exact ⟨cell, htracks.goto hfits (by simp) (by simp [hpc]) (htracks.lock.wrlock hlock).1,
        hrecorded⟩
  | comparing call counter =>
      simp only [hpc] at hs
      split at hs
      · rename_i hcounter
        cases hs
        exact comparing_sound ⟨cell, htracks, hrecorded⟩ hpc hcounter
      · cases hs
        exact ⟨cell, htracks.stay trivial (by simp) (by simp [hpc]) (by rw [hpc]; rfl), hrecorded⟩
  | registering service callbacks =>
      simp only [hpc] at hs
      obtain ⟨lock, hlock, rfl⟩ := Option.map_eq_some_iff.1 hs
      exact registering_sound ⟨cell, htracks, hrecorded⟩ hlock
  | writing w stage =>
      obtain ⟨-, -, hdone⟩ := htracks.writing t w stage hpc
      cases stage with
      | response =>
          simp only [hpc, Option.some.injEq] at hs
          subst hs
          exact ⟨cell, htracks.assign hpc rfl, hrecorded⟩
      | indication =>
          simp only [hpc, Option.some.injEq] at hs
          subst hs
          have hresponse : (s.callbacks w.service).response = w.target.response := hdone
          have htarget : (⟨(s.callbacks w.service).response, w.target.indication⟩ : Callbacks)
              = w.target := by
            rw [hresponse]
          exact ⟨cell, htracks.assign hpc htarget, hrecorded⟩
      | counter =>
          simp only [hpc, Option.some.injEq] at hs
          subst hs
          exact ⟨cell, htracks.finish hpc, hrecorded⟩
  | written w =>
      cases w with
      | registration service callbacks =>
          simp only [hpc] at hs
          obtain ⟨lock, hlock, rfl⟩ := Option.map_eq_some_iff.1 hs
          exact ⟨cell, htracks.goto trivial (by simp) (by simp [hpc])
            (htracks.lock.unlock hlock), hrecorded⟩
      | reset call =>
          simp only [hpc] at hs
          obtain ⟨lock, hlock, rfl⟩ := Option.map_eq_some_iff.1 hs
          exact ⟨cell, htracks.goto trivial (by simp) (by simp [hpc])
            (htracks.lock.unlock hlock), hrecorded⟩
  | relocking =>
      simp only [hpc] at hs
      obtain ⟨lock, hlock, rfl⟩ := Option.map_eq_some_iff.1 hs
      have hfree : (Pc.mode ∘ s.pc) t = .free := by simp [hpc, Pc.mode]
      exact ⟨cell, htracks.goto trivial (by simp) (by simp [hpc])
        (htracks.lock.rdlock hfree hlock), hrecorded⟩
  | idle => simp [hpc] at hs
  | reading => simp [hpc] at hs
  | calling call => simp [hpc] at hs

/-- **One step** keeps the invariant. -/
theorem step_sound {e : Event T} (h : s.Sound) (hs : step s e = some s') : s'.Sound := by
  obtain ⟨cell, htracks, hrecorded⟩ := h
  cases e with
  | rdlock t =>
      simp only [step] at hs
      split at hs
      · rename_i hpc
        obtain ⟨lock, hlock, rfl⟩ := Option.map_eq_some_iff.1 hs
        have hfree : (Pc.mode ∘ s.pc) t = .free := by simp [hpc, Pc.mode]
        exact ⟨cell, htracks.goto trivial (by simp) (by simp [hpc])
          (htracks.lock.rdlock hfree hlock), hrecorded⟩
      · exact absurd hs (by simp)
  | call t service =>
      simp only [step] at hs
      split at hs
      · rename_i hcond
        obtain ⟨hpc, hnull⟩ := hcond
        cases hs
        have hquiet := htracks.settled_of_read (by rw [hpc]; rfl) service
        have hcallbacks := (htracks.settled service hquiet).1
        have hused : (cell service).value = s.installed service := by
          rw [State.installed, hcallbacks, ← hrecorded.number]
        refine ⟨cell, htracks.stay ?_ (by simp) (by simp [hpc]) (by rw [hpc]; rfl), hrecorded⟩
        exact ⟨⟨hnull, rfl⟩, hused⟩
      · exact absurd hs (by simp)
  | callReturns t isOk =>
      simp only [step] at hs
      split at hs
      · rename_i call hpc
        cases hs
        have hfits := htracks.fits t
        rw [hpc] at hfits
        cases isOk with
        | true =>
            exact ⟨cell, htracks.stay trivial (by simp) (by simp [hpc]) (by rw [hpc]; rfl),
              hrecorded⟩
        | false =>
            exact ⟨cell, htracks.stay hfits (by simp) (by simp [hpc]) (by rw [hpc]; rfl),
              hrecorded⟩
      · exact absurd hs (by simp)
  | unlock t =>
      simp only [step] at hs
      split at hs
      · rename_i hpc
        obtain ⟨lock, hlock, rfl⟩ := Option.map_eq_some_iff.1 hs
        exact ⟨cell, htracks.goto trivial (by simp) (by simp [hpc])
          (htracks.lock.unlock hlock), hrecorded⟩
      · exact absurd hs (by simp)
  | setResponseFunctions t service callbacks =>
      simp only [step] at hs
      split at hs
      · rename_i hpc
        cases hs
        exact ⟨cell, htracks.stay trivial (by simp) (by simp [hpc]) (by rw [hpc]; rfl), hrecorded⟩
      · exact absurd hs (by simp)
  | advance t => exact advance_sound ⟨cell, htracks, hrecorded⟩ hs

end Step

/-! ## Main result -/

omit [DecidableEq T] in
/-- The invariant gives the property. -/
theorem registrationsKept_of_sound {s : State T} (h : s.Sound) : s.RegistrationsKept := by
  obtain ⟨cell, htracks, hrecorded⟩ := h
  refine ⟨fun c hc => (hrecorded.cleared_used c hc).1, fun c hc => ?_, hrecorded.once,
    fun hwriter service => ?_⟩
  · obtain ⟨hcleared, hbegun⟩ := hrecorded.cleared_used c hc
    rw [hcleared, hbegun.began]
  · have hquiet : s.Settled service := by
      intro t w stage ht
      have hholds := (htracks.lock.writer t).2 (htracks.mode_write ht)
      exact absurd (hwriter.symm.trans hholds) (by simp)
    rw [(htracks.settled service hquiet).1]
    exact hrecorded.kept service

/-- **No registration is lost.**  For any number of threads, every interleaving of failing
calls with registrations of both services, and every number of them: a failed call clears
what it had used and nothing that was registered after it began, and no registration is
cleared twice. -/
theorem registrationsKept (es : List (Event T)) :
    Always step State.RegistrationsKept (State.init : State T) es :=
  (always_of_step (fun _ _ _ h hs => step_sound h hs) sound_init es).mono
    fun _ h => registrationsKept_of_sound h

end Radio.Registration
