/-
# The initial attach APN (`ril_service.cpp`)

The framework sets the initial attach APN of a slot.  The vendor may ask for it again, which is
served later on the event loop: `sendInitialAttachApnAgain` takes a copy of what was remembered
for the slot and sends it by the routine that serves the framework.  Remembering, copying and
dispatching are steps of two threads: the binder thread, of which there is one, and the event
loop.

* `payload` : what is dispatched for a setting;
* `step_remembered` : only the framework changes what is remembered;
* `attachApn_consistent_iff` : when the vendor is left with the APN that was set last.

The property `gsm.sim.operator.numeric`, which goes along with the APN, is left out.
-/
import Ct07.Lib.Run
import Ct07.Radio.Reply
import Mathlib.Logic.Function.Basic

open PartialStep

namespace Radio.AttachApn

/-! ## Settings and payloads -/

inductive MvnoType where
  | none
  | imsi
  | gid
  | spn
  deriving DecidableEq, Repr

/-- What is read of a `DataProfileInfo`. -/
structure DataProfileInfo where
  apn : Text
  protocol : Text
  roamingProtocol : Text
  authType : ℤ
  user : Text
  password : Text
  supportedApnTypesBitmap : ℤ
  bearerBitmap : ℤ
  mtu : ℤ
  mvnoType : MvnoType
  mvnoMatchData : Text
  deriving DecidableEq

/-- The arguments of `setInitialAttachApn` other than the serial. -/
structure Setting where
  dataProfileInfo : DataProfileInfo
  modemCognitive : Bool
  isRoaming : Bool
  deriving DecidableEq

/-- What the vendor is handed: `RIL_InitialAttachApn`, as this build has it, or
`RIL_InitialAttachApn_v15`, whose strings may be null pointers. -/
inductive Payload where
  | initialAttachApn (apn protocol : Text) (authtype : ℤ) (username password : Text)
  | initialAttachApnV15 (apn protocol roamingProtocol : Option Text) (authtype : ℤ)
      (username password : Option Text) (supportedTypesBitmask bearerBitmask : ℤ)
      (modemCognitive : Bool) (mtu : ℤ) (mvnoType : Text) (mvnoMatchData : Option Text)
  deriving DecidableEq

/-- `copyHidlStringToRil` with memory: a string is copied up to a zero byte. -/
def copyHidlStringToRil (src : Text) (allowEmpty : Bool) : Option Text :=
  if src = [] && !allowEmpty then none else some (src.takeWhile fun c => c ≠ Char.ofNat 0)

/-- `convertMvnoTypeToString` -/
def convertMvnoTypeToString : MvnoType → Text
  | .imsi => "imsi".toList
  | .gid => "gid".toList
  | .spn => "spn".toList
  | .none => []

/-- What `setInitialAttachApn` dispatches.  Up to version 14 an empty string stands in for a
null pointer. -/
def payload (version : ℤ) (x : Setting) : Payload :=
  let p := x.dataProfileInfo
  let copy s := copyHidlStringToRil s false
  if version ≤ 14 then
    .initialAttachApn ((copyHidlStringToRil p.apn true).getD [])
      ((copy (if x.isRoaming then p.roamingProtocol else p.protocol)).getD []) p.authType
      ((copy p.user).getD []) ((copy p.password).getD [])
  else
    .initialAttachApnV15 (copyHidlStringToRil p.apn true) (copy p.protocol)
      (copy p.roamingProtocol) p.authType (copy p.user) (copy p.password)
      p.supportedApnTypesBitmap p.bearerBitmap x.modemCognitive p.mtu
      (convertMvnoTypeToString p.mvnoType) (copy p.mvnoMatchData)

/-- What `sendInitialAttachApnAgain` dispatches when nothing is remembered. -/
def emptyPayload : Payload := .initialAttachApn [] [] 0 [] []

/-! ## State -/

/-- A call of `setInitialAttachApn` by the framework. -/
structure Call where
  serial : ℤ
  setting : Setting
  deriving DecidableEq

/-- What was handed to the vendor. -/
inductive Handed where
  /-- for a call of the framework -/
  | set (x : Setting)
  /-- sent again from this copy, when these calls had been made -/
  | again (copied : Option Setting) (calls : List Call)
  deriving DecidableEq

def Handed.payload (version : ℤ) : Handed → Payload
  | .set x => AttachApn.payload version x
  | .again (some x) _ => AttachApn.payload version x
  | .again none _ => emptyPayload

/-- `calls` and `handed` are records beside the code's data. -/
structure State where
  /-- `s_lastIa` with its flags, `none` while `s_lastIaValid` is unset -/
  lastIa : ℕ → Option Setting
  /-- the setting of a call that has yet to dispatch it -/
  current : ℕ → Option Setting
  /-- the slots of `sendInitialAttachApnAgain` in the timer list -/
  resets : List ℕ
  /-- the slot and the copy of one that has yet to dispatch it -/
  again : Option (ℕ × Option Setting)
  calls : ℕ → List Call
  handed : ℕ → List Handed

def State.init : State := ⟨fun _ => none, fun _ => none, [], none, fun _ => [], fun _ => []⟩

/-- What can happen next. -/
inductive Event where
  /-- the framework calls; the setting is remembered -/
  | set (slot : ℕ) (c : Call)
  /-- the call dispatches its setting -/
  | dispatch (slot : ℕ)
  /-- the vendor asks for the APN again: `setAttachApnInd` -/
  | reset (slot : ℕ)
  /-- the event loop runs callback `k` of the list, and a copy is taken -/
  | copy (k : ℕ)
  /-- the copy is dispatched -/
  | resend
  deriving DecidableEq

def State.hand (s : State) (slot : ℕ) (h : Handed) : State :=
  { s with handed := Function.update s.handed slot (s.handed slot ++ [h]) }

def step (s : State) : Event → Option State
  | .set slot c =>
      match s.current slot with
      | some _ => none
      | none => some { s with
          -- the serial -1 is the one of `sendInitialAttachApnAgain`
          lastIa := if c.serial ≠ -1 then Function.update s.lastIa slot (some c.setting)
            else s.lastIa
          current := Function.update s.current slot (some c.setting)
          calls := Function.update s.calls slot (s.calls slot ++ [c]) }
  | .dispatch slot =>
      (s.current slot).map fun x =>
        { s with current := Function.update s.current slot none }.hand slot (.set x)
  | .reset slot => some { s with resets := s.resets ++ [slot] }
  | .copy k =>
      match s.again with
      | some _ => none
      | none =>
          (s.resets[k]?).map fun slot =>
            { s with resets := s.resets.eraseIdx k, again := some (slot, s.lastIa slot) }
  | .resend =>
      s.again.map fun a =>
        { s with again := none }.hand a.1 (.again a.2 (s.calls a.1))

/-! ## The property -/

/-- What was sent again had been set, or nothing had been set and it was the empty one. -/
def Handed.Sound : Handed → Prop
  | .set _ => True
  | .again (some x) calls => ∃ c ∈ calls, c.setting = x
  | .again none calls => calls = []

/-- No call for the slot is under way, and nothing is being sent again. -/
def State.Quiet (s : State) (slot : ℕ) : Prop :=
  s.current slot = none ∧ ∀ a ∈ s.again, a.1 ≠ slot

/-- What was sent again is sound; what is remembered is what the framework set last, with a
serial other than -1; and once all calls have finished, the vendor was handed last what the
framework set last. -/
structure State.Consistent (version : ℤ) (s : State) : Prop where
  sound : ∀ slot, ∀ h ∈ s.handed slot, h.Sound
  remembered : ∀ slot, s.lastIa slot =
    ((s.calls slot).filter fun c => c.serial ≠ -1).getLast?.map Call.setting
  final : ∀ slot, s.Quiet slot → ∀ c ∈ (s.calls slot).getLast?,
    (s.handed slot).getLast?.map (Handed.payload version) = some (payload version c.setting)

/-- What is sent again was set, or nothing was; and unless a call is under way, it is what the
framework set last. -/
def Event.UpToDate (version : ℤ) (s : State) : Event → Prop
  | .resend => ∀ a ∈ s.again,
      (a.2 = none → s.calls a.1 = []) ∧
      (s.current a.1 = none → ∀ c ∈ (s.calls a.1).getLast?,
        (Handed.again a.2 (s.calls a.1)).payload version = payload version c.setting)
  | _ => True

/-! ## Invariant -/

structure State.Inv (version : ℤ) (s : State) : Prop where
  consistent : s.Consistent version
  /-- a call under way is the last one -/
  current : ∀ slot x, s.current slot = some x →
    (s.calls slot).getLast?.map Call.setting = some x
  /-- a copy was set -/
  copied : ∀ slot x, s.again = some (slot, some x) → ∃ c ∈ s.calls slot, c.setting = x

theorem inv_init (version : ℤ) : (State.init.Inv version) where
  consistent := ⟨by simp [State.init], by simp [State.init], by simp [State.init]⟩
  current := by simp [State.init]
  copied := by simp [State.init]

/-- What is remembered was set. -/
theorem State.Consistent.mem_calls {version : ℤ} {s : State} (h : s.Consistent version)
    {slot : ℕ} {x : Setting} (hx : s.lastIa slot = some x) : ∃ c ∈ s.calls slot, c.setting = x := by
  rw [h.remembered slot] at hx
  obtain ⟨c, hc, hset⟩ := Option.map_eq_some_iff.1 hx
  exact ⟨c, (List.mem_filter.1 (List.mem_of_getLast? hc)).1, hset⟩

/-- Only the framework changes what is remembered. -/
theorem step_remembered {s s' : State} {e : Event} (he : ∀ slot c, e ≠ .set slot c)
    (hs : step s e = some s') : s'.lastIa = s.lastIa := by
  cases e with
  | set slot c => exact absurd rfl (he slot c)
  | dispatch slot =>
      obtain ⟨x, -, rfl⟩ := Option.map_eq_some_iff.1 hs
      rfl
  | reset slot =>
      cases Option.some.inj hs
      rfl
  | copy k =>
      simp only [step] at hs
      split at hs
      · exact absurd hs (by simp)
      · obtain ⟨slot, -, rfl⟩ := Option.map_eq_some_iff.1 hs
        rfl
  | resend =>
      obtain ⟨a, -, rfl⟩ := Option.map_eq_some_iff.1 hs
      rfl

/-- Handing over what is sound keeps all that was handed over sound. -/
theorem hand_sound {s : State} (h : ∀ slot, ∀ x ∈ s.handed slot, x.Sound) (slot : ℕ) {x : Handed}
    (hx : x.Sound) : ∀ slot', ∀ y ∈ (s.hand slot x).handed slot', y.Sound := by
  intro slot' y hy
  by_cases hslot : slot' = slot
  · subst hslot
    simp only [State.hand, Function.update_self] at hy
    rcases List.mem_append.1 hy with hy | hy
    · exact h slot' y hy
    · rw [List.mem_singleton.1 hy]
      exact hx
  · simp only [State.hand, Function.update_of_ne hslot] at hy
    exact h slot' y hy

section Steps

variable {version : ℤ} {s s' : State}

/-- The framework calls: its slot is not quiet any more. -/
theorem set_inv (h : s.Inv version) {slot : ℕ} {c : Call}
    (hs : step s (.set slot c) = some s') : s'.Inv version := by
  simp only [step] at hs
  split at hs
  · exact absurd hs (by simp)
  · cases hs
    refine ⟨⟨h.consistent.sound, fun slot' => ?_, fun slot' hquiet => ?_⟩, fun slot' x hx => ?_,
      fun slot' x hx => ?_⟩
    · have hold := h.consistent.remembered slot'
      by_cases hslot : slot' = slot
      · subst hslot
        by_cases hserial : c.serial = -1 <;> simp [hserial, List.filter_append, hold]
      · by_cases hserial : c.serial = -1 <;> simp [hserial, hslot, hold]
    · -- the slot of the call is not quiet
      have hne : slot' ≠ slot := by
        rintro rfl
        have hnone := hquiet.1
        simp at hnone
      have hcurrent : s.current slot' = none := by
        have hnone := hquiet.1
        simpa [hne] using hnone
      simpa [hne] using h.consistent.final slot' ⟨hcurrent, hquiet.2⟩
    · by_cases hslot : slot' = slot
      · subst hslot
        simpa using hx
      · simp only [Function.update_of_ne hslot] at hx ⊢
        exact h.current slot' x hx
    · obtain ⟨c', hc', hset⟩ := h.copied slot' x hx
      by_cases hslot : slot' = slot
      · subst hslot
        simp only [Function.update_self]
        exact ⟨c', List.mem_append_left _ hc', hset⟩
      · simp only [Function.update_of_ne hslot]
        exact ⟨c', hc', hset⟩

/-- A call dispatches what it has set, which was set last. -/
theorem dispatch_inv (h : s.Inv version) {slot : ℕ} (hs : step s (.dispatch slot) = some s') :
    s'.Inv version := by
  obtain ⟨x, hx, rfl⟩ := Option.map_eq_some_iff.1 hs
  refine ⟨⟨hand_sound h.consistent.sound slot trivial, h.consistent.remembered,
    fun slot' hquiet c hc => ?_⟩, fun slot' y hy => ?_, h.copied⟩
  · by_cases hslot : slot' = slot
    · subst hslot
      -- a call under way is the last one of its slot
      have hlast := h.current slot' x hx
      have hc' : (s.calls slot').getLast? = some c := hc
      rw [hc'] at hlast
      cases Option.some.inj hlast
      simp [State.hand, Handed.payload]
    · have hcurrent : s.current slot' = none := by
        have hnone := hquiet.1
        simpa [State.hand, hslot] using hnone
      have hfinal := h.consistent.final slot' ⟨hcurrent, hquiet.2⟩ c hc
      simpa [State.hand, hslot] using hfinal
  · by_cases hslot : slot' = slot
    · subst hslot
      simp [State.hand] at hy
    · simp only [State.hand, Function.update_of_ne hslot] at hy
      exact h.current slot' y hy

/-- A copy is one of what was set; its slot is not quiet any more. -/
theorem copy_inv (h : s.Inv version) {k : ℕ} (hs : step s (.copy k) = some s') :
    s'.Inv version := by
  simp only [step] at hs
  split at hs
  · exact absurd hs (by simp)
  · rename_i hagain
    obtain ⟨slot, -, rfl⟩ := Option.map_eq_some_iff.1 hs
    refine ⟨⟨h.consistent.sound, h.consistent.remembered, fun slot' hquiet => ?_⟩, h.current,
      fun slot' x hx => ?_⟩
    · exact h.consistent.final slot' ⟨hquiet.1, by simp [hagain]⟩
    · obtain ⟨rfl, hremembered⟩ := Prod.mk.inj (Option.some.inj hx)
      exact h.consistent.mem_calls hremembered

/-- The state after a copy has been sent. -/
def resend (s : State) (a : ℕ × Option Setting) : State :=
  { s with again := none }.hand a.1 (.again a.2 (s.calls a.1))

/-- Sending a copy keeps all as it should be exactly when the copy is up to date. -/
theorem resend_consistent_iff (h : s.Inv version) {slot : ℕ} {copied : Option Setting}
    (hagain : s.again = some (slot, copied)) :
    (resend s (slot, copied)).Consistent version ↔ Event.UpToDate version s .resend := by
  have hsound : (Handed.again copied (s.calls slot)).Sound ↔
      (copied = none → s.calls slot = []) := by
    cases copied with
    | none => simp [Handed.Sound]
    | some x => simpa [Handed.Sound] using h.copied slot x hagain
  unfold Event.UpToDate
  simp only [hagain, Option.mem_def, Option.some.injEq, forall_eq']
  constructor
  · intro h'
    refine ⟨hsound.1 (h'.sound slot _ (by simp [resend, State.hand])), fun hcurrent c hc => ?_⟩
    have hquiet : (resend s (slot, copied)).Quiet slot :=
      ⟨hcurrent, by simp [resend, State.hand]⟩
    have hfinal := h'.final slot hquiet c hc
    simpa [resend, State.hand] using hfinal
  · rintro ⟨hempty, hlast⟩
    refine ⟨hand_sound h.consistent.sound slot (hsound.2 hempty), h.consistent.remembered,
      fun slot' hquiet c hc => ?_⟩
    · by_cases hslot : slot' = slot
      · subst hslot
        have hup := hlast hquiet.1 c hc
        simp [resend, State.hand, hup]
      · have hquiet' : s.Quiet slot' := by
          refine ⟨hquiet.1, ?_⟩
          rintro a ha rfl
          rw [hagain] at ha
          cases ha
          exact hslot rfl
        have hfinal := h.consistent.final slot' hquiet' c hc
        simpa [resend, State.hand, hslot] using hfinal

theorem step_inv (h : s.Inv version) {e : Event} (he : e.UpToDate version s)
    (hs : step s e = some s') : s'.Inv version := by
  cases e with
  | set slot c => exact set_inv h hs
  | dispatch slot => exact dispatch_inv h hs
  | reset slot =>
      cases Option.some.inj hs
      exact ⟨⟨h.consistent.sound, h.consistent.remembered, h.consistent.final⟩, h.current,
        h.copied⟩
  | copy k => exact copy_inv h hs
  | resend =>
      obtain ⟨⟨slot, copied⟩, hagain, rfl⟩ := Option.map_eq_some_iff.1 hs
      refine ⟨(resend_consistent_iff h hagain).2 he, h.current, fun slot' x hx => ?_⟩
      cases hx

theorem step_inconsistent (h : s.Inv version) {e : Event} (he : ¬ e.UpToDate version s)
    (hs : step s e = some s') : ¬ s'.Consistent version := by
  cases e with
  | resend =>
      obtain ⟨⟨slot, copied⟩, hagain, rfl⟩ := Option.map_eq_some_iff.1 hs
      exact fun h' => he ((resend_consistent_iff h hagain).1 h')
  | set slot c => exact absurd trivial he
  | dispatch slot => exact absurd trivial he
  | reset slot => exact absurd trivial he
  | copy k => exact absurd trivial he

end Steps

/-! ## Main result -/

/-- **The initial attach APN.**  For every interleaving of the framework's calls with the vendor's
requests, over any number of slots: what is sent again had been set, only the framework changes
what is remembered, and the vendor is left with what the framework set last, exactly when every
copy is up to date when it is sent. -/
theorem attachApn_consistent_iff (version : ℤ) (es : List Event) :
    Always step (State.Consistent version) State.init es ↔
      Meets step (Event.UpToDate version) State.init es :=
  always_iff_meets (fun _ (h : State.Inv version _) => h.consistent)
    (fun _ _ _ h he hs => step_inv h he hs) (fun _ _ _ h he hs => step_inconsistent h he hs)
    (inv_init version) es

/-- A call with this APN. -/
def apnCall (serial : ℤ) (apn : Text) : Call :=
  ⟨serial, ⟨apn, [], [], 0, [], [], 0, 0, 0, .none, []⟩, false, false⟩

/-- The copy of the first APN is sent after the second one has been set. -/
theorem stale_apn_resent :
    ¬ ∀ (version : ℤ) (es : List Event),
      Always step (State.Consistent version) State.init es := by
  intro hall
  have hlast : ∃ s', run step State.init
      [.set 0 (apnCall 1 ['a']), .dispatch 0, .reset 0, .copy 0, .set 0 (apnCall 2 ['b']),
        .dispatch 0, .resend] = some s' ∧
      s'.current 0 = none ∧ s'.again = none ∧
      (s'.calls 0).getLast? = some (apnCall 2 ['b']) ∧
      (s'.handed 0).getLast?.map (Handed.payload 14) ≠
        some (payload 14 (apnCall 2 ['b']).setting) :=
    ⟨_, rfl, by decide, by decide, by decide, by decide⟩
  obtain ⟨s', hs', hcurrent, hagain, hcalls, hne⟩ := hlast
  exact hne (((hall 14 _).last hs').final 0 ⟨hcurrent, by simp [hagain]⟩ _ hcalls)

end Radio.AttachApn
