/-
# The capability that is kept for each slot (`ril_service.cpp`)

`radioCapabilityIndicationInd` keeps the last radio capability of each slot, connected client or
not, and the handlers of two responses share `responseRadioCapability`, of which one lets it
replace what the vendor answered.

* `step` : an indication or a response, and what the client is told;
* `keptAfter_eq` : what is kept is told by the indications that came so far;
* `radioCapability_answers` : what is answered, after any indications and responses.

An event is handled as a whole.  The strings are those at the time of the conversion; whether
they can still be read in the callback is `getRadioCapabilityResponse_intact_iff`.
-/
import Ct07.Lib.LatestValue
import Ct07.Radio.Capability

open LatestValue ScopedStorage

namespace Radio.Capability

/-! ## The code -/

/-- `s_lastRadioCapability` with `s_lastRadioCapabilityValid`, `none` while the latter is unset. -/
abbrev Kept := ℕ → Option RilRadioCapability

/-- A result as it was when it was made. -/
def read (result : Result) : RadioCapability Text :=
  ⟨result.session, result.phase, result.raf, result.logicalModemUuid.text, result.status⟩

/-- `radio::radioCapabilityIndicationInd`: the records behind it, and what the client is called
with. -/
def radioCapabilityIndicationInd (simCount : ℕ) (kept : Kept) (slotId : ℕ) (connected : Bool)
    (indicationType : ℤ) (response : Option RilRadioCapability) (responseLen : ℕ) :
    Kept × Option (IndicationType × Result) :=
  match usable response responseLen with
  | none => (kept, none)
  | some r =>
      (if slotId < simCount then Function.update kept slotId (some r) else kept,
        if connected then
          some (convertIntToRadioIndicationType indicationType,
            convertRilRadioCapabilityToHal .vendor r)
        else none)

/-- `radio::setRadioCapabilityResponse` -/
def setRadioCapabilityResponse (env : Env) (slotId : ℕ) (connected : Bool)
    (responseType serial e : ℤ) (response : Option RilRadioCapability) (responseLen : ℕ) :
    Option (Callback RadioResponseInfo Result Block) :=
  if connected then
    let (info, result, m) := responseRadioCapability env slotId responseType serial e response
      responseLen false (vendorStore env response)
    some ⟨info, result, m⟩
  else none

/-! ## Events -/

/-- An indication of the vendor. -/
structure Indication (simCount : ℕ) where
  slot : Fin simCount
  connected : Bool
  indicationType : ℤ
  response : Option RilRadioCapability
  responseLen : ℕ

/-- A response of the vendor, and `persist.radio.simswitch` at the time. -/
structure Response (simCount : ℕ) where
  slot : Fin simCount
  connected : Bool
  responseType : ℤ
  serial : ℤ
  e : ℤ
  response : Option RilRadioCapability
  responseLen : ℕ
  simswitch : Text

inductive Event (simCount : ℕ) where
  | indication (i : Indication simCount)
  | getResponse (r : Response simCount)
  | setResponse (r : Response simCount)

def Event.slot {simCount : ℕ} : Event simCount → Fin simCount
  | .indication i => i.slot
  | .getResponse r => r.slot
  | .setResponse r => r.slot

/-- What the client of a slot is told. -/
inductive Told where
  | indication (type : IndicationType) (rc : RadioCapability Text)
  | getResponse (info : RadioResponseInfo) (rc : RadioCapability Text)
  | setResponse (info : RadioResponseInfo) (rc : RadioCapability Text)
  deriving DecidableEq

variable {simCount : ℕ}

def Response.env (r : Response simCount) (kept : Kept) : Env := ⟨simCount, r.simswitch, kept r.slot⟩

/-- The records after an event, and what the client is told. -/
def step (kept : Kept) : Event simCount → Kept × Option Told
  | .indication i =>
      let (kept, called) := radioCapabilityIndicationInd simCount kept i.slot i.connected
        i.indicationType i.response i.responseLen
      (kept, called.map fun c => .indication c.1 (read c.2))
  | .getResponse r =>
      (kept, (getRadioCapabilityResponse (r.env kept) r.slot r.connected r.responseType r.serial r.e
        r.response r.responseLen none).map fun c => .getResponse c.header (read c.result))
  | .setResponse r =>
      (kept, (setRadioCapabilityResponse (r.env kept) r.slot r.connected r.responseType r.serial r.e
        r.response r.responseLen).map fun c => .setResponse c.header (read c.result))

/-- The records after some events. -/
def keptAfter (es : List (Event simCount)) : Kept :=
  es.foldl (fun kept e => (step kept e).1) fun _ => none

/-- What the client is told at an event, after others. -/
def told (es : List (Event simCount)) (e : Event simCount) : Option Told :=
  (step (keptAfter es) e).2

/-! ## What is kept -/

/-- What an event leaves for a slot. -/
def indicated : Event simCount → Option (ℕ × RilRadioCapability)
  | .indication i => (usable i.response i.responseLen).map fun r => (i.slot.val, r)
  | .getResponse _ => none
  | .setResponse _ => none

/-- The last usable capability that is indicated for a slot. -/
def lastIndicated (slotId : ℕ) (es : List (Event simCount)) : Option RilRadioCapability :=
  latest indicated slotId es

theorem step_kept (kept : Kept) (e : Event simCount) :
    (step kept e).1 = store indicated kept e := by
  cases e with
  | indication i =>
      show (radioCapabilityIndicationInd simCount kept _ _ _ _ _).1 = _
      rw [radioCapabilityIndicationInd, store, indicated]
      cases usable i.response i.responseLen with
      | none => rfl
      | some r => exact if_pos i.slot.isLt
  | getResponse r => rfl
  | setResponse r => rfl

/-- The record of a slot is the one that was indicated for it last. -/
theorem keptAfter_eq (es : List (Event simCount)) (slotId : ℕ) :
    keptAfter es slotId = lastIndicated slotId es := by
  have hstep : (fun kept (e : Event simCount) => (step kept e).1) = store indicated := by
    funext kept e
    exact step_kept kept e
  rw [keptAfter, hstep, foldl_store, lastIndicated, Option.or_none]

/-- What the client is told depends on the record of its slot alone. -/
theorem told_congr {es es' : List (Event simCount)} (e : Event simCount)
    (h : lastIndicated e.slot es = lastIndicated e.slot es') : told es e = told es' e := by
  rw [← keptAfter_eq, ← keptAfter_eq] at h
  cases e with
  | indication i =>
      show (radioCapabilityIndicationInd simCount (keptAfter es) _ _ _ _ _).2.map _ =
        (radioCapabilityIndicationInd simCount (keptAfter es') _ _ _ _ _).2.map _
      rw [radioCapabilityIndicationInd, radioCapabilityIndicationInd]
      cases usable i.response i.responseLen with
      | none => rfl
      | some r => rfl
  | getResponse r =>
      have henv : r.env (keptAfter es) = r.env (keptAfter es') :=
        congrArg (Env.mk simCount r.simswitch) h
      show ((getRadioCapabilityResponse (r.env (keptAfter es)) _ _ _ _ _ _ _ _).map _) = _
      rw [henv]
      rfl
  | setResponse r =>
      have henv : r.env (keptAfter es) = r.env (keptAfter es') :=
        congrArg (Env.mk simCount r.simswitch) h
      show ((setRadioCapabilityResponse (r.env (keptAfter es)) _ _ _ _ _ _ _).map _) = _
      rw [henv]
      rfl

/-! ## What is answered -/

/-- The fields of a record. -/
def fields (r : RilRadioCapability) : RadioCapability Text :=
  ⟨r.session, r.phase, r.rat, r.logicalModemUuid, r.status⟩

/-- The header as the vendor's answer has it. -/
def Response.info (r : Response simCount) : RadioResponseInfo :=
  populateResponseInfo r.serial r.responseType r.e

/-- What the client is told, if there is one. -/
def Response.tell (r : Response simCount) (t : Told) : Option Told :=
  if r.connected then some t else none

section Answers

variable (es : List (Event simCount)) (r : Response simCount)

/-- What the answer to the question for the capability is made of. -/
theorem told_getResponse :
    told es (.getResponse r) =
      let answer := responseRadioCapability (r.env (keptAfter es)) r.slot r.responseType r.serial
        r.e r.response r.responseLen true (vendorStore (r.env (keptAfter es)) r.response)
      r.tell (.getResponse answer.1 (read answer.2.1)) := by
  show (getRadioCapabilityResponse (r.env (keptAfter es)) _ _ _ _ _ _ _ _).map _ = _
  unfold getRadioCapabilityResponse Response.tell
  cases r.connected with
  | false => rfl
  | true => rfl

theorem told_setResponse :
    told es (.setResponse r) =
      let answer := responseRadioCapability (r.env (keptAfter es)) r.slot r.responseType r.serial
        r.e r.response r.responseLen false (vendorStore (r.env (keptAfter es)) r.response)
      r.tell (.setResponse answer.1 (read answer.2.1)) := by
  show (setRadioCapabilityResponse (r.env (keptAfter es)) _ _ _ _ _ _ _).map _ = _
  unfold setRadioCapabilityResponse Response.tell
  cases r.connected with
  | false => rfl
  | true => rfl

/-- The capability that stands in for an answer. -/
def substitute : RilRadioCapability :=
  (lastIndicated r.slot es).getD (defaultRadioCapability r.simswitch r.slot)

theorem told_getResponse_unusable (h : usable r.response r.responseLen = none) :
    told es (.getResponse r) =
      r.tell (.getResponse { r.info with error := radioErrorNone } (fields (substitute es r))) := by
  rw [told_getResponse,
    responseRadioCapability_substituted (r.env (keptAfter es)) _ _ _ _ _ h r.slot.isLt rfl]
  have hlast : (r.env (keptAfter es)).last = lastIndicated r.slot es := keptAfter_eq es r.slot
  simp only [hlast, substitute]
  cases lastIndicated r.slot es with
  | none => rfl
  | some last => rfl

/-- A usable answer is passed on. -/
theorem told_usable {c : RilRadioCapability} (h : usable r.response r.responseLen = some c) :
    told es (.getResponse r) = r.tell (.getResponse r.info (fields c)) ∧
      told es (.setResponse r) = r.tell (.setResponse r.info (fields c)) := by
  constructor
  · rw [told_getResponse, responseRadioCapability_usable _ _ _ _ _ _ _ h]
    rfl
  · rw [told_setResponse, responseRadioCapability_usable _ _ _ _ _ _ _ h]
    rfl

/-- An unusable answer to a setting is refused. -/
theorem told_setResponse_unusable (h : usable r.response r.responseLen = none) :
    told es (.setResponse r) =
      r.tell (.setResponse (r.info.invalidResponse r.e) ⟨0, 0, 0, [], 0⟩) := by
  rw [told_setResponse]
  unfold responseRadioCapability
  rw [h]
  rfl

/-- What is too short is not passed on, and leaves everything as it was. -/
theorem told_indication_unusable {i : Indication simCount}
    (h : usable i.response i.responseLen = none) :
    told es (.indication i) = none ∧
      ∀ es' e, told (es ++ .indication i :: es') e = told (es ++ es') e := by
  constructor
  · show (radioCapabilityIndicationInd simCount (keptAfter es) _ _ _ _ _).2.map _ = none
    rw [radioCapabilityIndicationInd, h]
    rfl
  · intro es' e
    apply told_congr
    apply latest_append_cons
    apply written_eq_none
    rw [indicated, h]
    rfl

end Answers

/-- The events of other slots do not matter. -/
theorem told_filter (es : List (Event simCount)) (e : Event simCount) :
    told (es.filter fun e' => e'.slot = e.slot) e = told es e := by
  apply told_congr
  apply latest_filter
  intro e' hwritten
  cases e' with
  | indication i =>
      unfold written indicated at hwritten
      cases husable : usable i.response i.responseLen with
      | none => simp [husable] at hwritten
      | some r =>
          simp only [husable, Option.map_some, Option.bind_some] at hwritten
          split at hwritten
          · rename_i hslot
            exact decide_eq_true (Fin.ext hslot)
          · exact absurd hwritten (by simp)
  | getResponse r => simp [written, indicated] at hwritten
  | setResponse r => simp [written, indicated] at hwritten

/-! ## Main result -/

/-- **The capability of a slot.**  An unusable answer to the question for it is replaced by what
was indicated last for the slot, or by the default; an unusable answer to a setting is refused,
and usable ones are passed on.  Short indications and other slots change nothing. -/
theorem radioCapability_answers (es : List (Event simCount)) :
    (∀ r : Response simCount, usable r.response r.responseLen = none →
      told es (.getResponse r) = r.tell
        (.getResponse { r.info with error := radioErrorNone } (fields (substitute es r))) ∧
      told es (.setResponse r) = r.tell
        (.setResponse (r.info.invalidResponse r.e) ⟨0, 0, 0, [], 0⟩)) ∧
    (∀ (r : Response simCount) (c : RilRadioCapability),
      usable r.response r.responseLen = some c →
        told es (.getResponse r) = r.tell (.getResponse r.info (fields c)) ∧
        told es (.setResponse r) = r.tell (.setResponse r.info (fields c))) ∧
    (∀ i : Indication simCount, usable i.response i.responseLen = none →
      told es (.indication i) = none ∧
      ∀ es' e, told (es ++ .indication i :: es') e = told (es ++ es') e) ∧
    ∀ e, told (es.filter fun e' => e'.slot = e.slot) e = told es e := by
  refine ⟨?_, ?_, ?_, told_filter es⟩
  · intro r h
    exact ⟨told_getResponse_unusable es r h, told_setResponse_unusable es r h⟩
  · intro r c h
    exact told_usable es r h
  · intro i h
    exact told_indication_unusable es h

/-- A setting that succeeded, without the capability. -/
def settingAnswered : Response 1 := ⟨⟨0, Nat.one_pos⟩, true, 0, 1, rilESuccess, none, 0, []⟩

/-- The answer to a setting is not always passed on as it was received. -/
theorem settingAnswered_not_received :
    ¬ ∀ (simCount : ℕ) (es : List (Event simCount)) (r : Response simCount)
      (info : RadioResponseInfo) (rc : RadioCapability Text),
      told es (.setResponse r) = some (.setResponse info rc) → info = r.info := by
  intro h
  have hinfo := h 1 [] settingAnswered (settingAnswered.info.invalidResponse rilESuccess)
    ⟨0, 0, 0, [], 0⟩ (by decide)
  exact absurd hinfo (by decide)

end Radio.Capability
