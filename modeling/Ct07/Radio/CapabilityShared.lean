/-
# The kept capability and two threads (`ril_service.cpp`)

The indication thread copies a radio capability over the one that is kept for the slot, with
`memcpy`, and sets the flag of the slot behind it.  The response threads read the flag, and then
the record in place.  No lock is held: the order of the record and the flag is all there is.

* `step` : indications and responses over all slots, byte by byte, in any order;
* `Exchange.Faithful` : what a client is told instead of an unusable answer;
* `capability_published` : every client is told a faithful answer, in every run.

The bytes of a copy are written in any order, and those of an answer are read in any order.  The
string in the record is taken to end inside of its array.
-/
import Ct07.Lib.Publication
import Ct07.Lib.Run
import Ct07.Lib.Word
import Ct07.Radio.CapabilityCache

open PartialStep Word

namespace Radio.Capability.Shared

/-! ## The record -/

/-- The bytes of a `RIL_RadioCapability`. -/
abbrev Bytes := Fin sizeofRecord → UInt8

/-- The `int` at an offset. -/
def intAt (b : Bytes) (off : ℕ) (h : off + 3 < sizeofRecord) : ℤ :=
  toInt32 (getLE (b ⟨off, by omega⟩) (b ⟨off + 1, by omega⟩) (b ⟨off + 2, by omega⟩)
    (b ⟨off + 3, h⟩))

/-- The string in `logicalModemUuid`, an array of 64 bytes behind four words. -/
def uuidOf (b : Bytes) : Text :=
  let array := ((List.ofFn b).drop 16).take 64
  (array.takeWhile (· ≠ 0)).map fun c => Char.ofNat c.toNat

def recordOf (b : Bytes) : RilRadioCapability where
  version := intAt b 0 (by decide)
  session := intAt b 4 (by decide)
  phase := intAt b 8 (by decide)
  rat := intAt b 12 (by decide)
  logicalModemUuid := uuidOf b
  status := intAt b 80 (by decide)

/-! ## Model -/

/-- What is shared for a slot, with the thread that indicates and those that answer. -/
abbrev Slot := Publication.State ℕ (Fin sizeofRecord) UInt8

abbrev Answer := Publication.Answer (Fin sizeofRecord) UInt8

/-- A response, what was read for it, and what the client was told. -/
structure Exchange (simCount : ℕ) where
  response : Response simCount
  answer : Answer
  told : Option Told

structure State (simCount : ℕ) where
  slot : Fin simCount → Slot
  /-- the response that a thread is handling -/
  handling : ℕ → Option (Response simCount)
  exchanges : List (Exchange simCount)

/-- The records are zero at first, and the flags are unset. -/
def State.init (simCount : ℕ) : State simCount :=
  ⟨fun _ => .init ℕ fun _ => 0, fun _ => none, []⟩

inductive Event (simCount : ℕ) where
  /-- the `memcpy` of an indication of this length begins -/
  | indicate (slot : Fin simCount) (record : Bytes) (responseLen : ℕ)
  | copyByte (slot : Fin simCount) (i : Fin sizeofRecord)
  /-- `s_lastRadioCapabilityValid` is stored -/
  | storeValid (slot : Fin simCount)
  /-- `s_lastRadioCapabilityValid` is loaded for a response -/
  | loadValid (thread : ℕ) (r : Response simCount)
  | readByte (thread : ℕ) (i : Fin sizeofRecord)
  /-- the record has been read and the client is called -/
  | tell (thread : ℕ)

variable {simCount : ℕ}

def State.setSlot (s : State simCount) (k : Fin simCount) (slot : Slot) : State simCount :=
  { s with slot := Function.update s.slot k slot }

def State.setHandling (s : State simCount) (t : ℕ) (r : Option (Response simCount)) :
    State simCount :=
  { s with handling := Function.update s.handling t r }

/-- What `getRadioCapabilityResponse` tells, for the record that was read. -/
def tellResponse (r : Response simCount) (value : Option Bytes) : Option Told :=
  let env : Env := ⟨simCount, r.simswitch, value.map recordOf⟩
  (getRadioCapabilityResponse env r.slot r.connected r.responseType r.serial r.e r.response
    r.responseLen none).map fun c => .getResponse c.header (read c.result)

/-- The client is told an answer. -/
def State.answered (s : State simCount) (r : Response simCount) (a : Answer) : State simCount :=
  { s with exchanges := ⟨r, a, tellResponse r a.value⟩ :: s.exchanges }

/-- One step of a thread.  Responses that are usable do not read the record. -/
def step (s : State simCount) : Event simCount → Option (State simCount)
  | .indicate k record responseLen =>
      if responseLen < sizeofRecord then some s
      else (Publication.begin (s.slot k) record).map (s.setSlot k)
  | .copyByte k i => (Publication.copy (s.slot k) i).map (s.setSlot k)
  | .storeValid k => (Publication.publish (s.slot k)).map (s.setSlot k)
  | .loadValid t r =>
      if s.handling t = none ∧ r.connected ∧ usable r.response r.responseLen = none then
        (Publication.look (s.slot r.slot) t).map fun x =>
          let s := s.setSlot r.slot x.1
          match x.2 with
          | none => s.setHandling t (some r)
          | some a => s.answered r a
      else none
  | .readByte t i => do
      let r ← s.handling t
      (Publication.readPart (s.slot r.slot) t i).map (s.setSlot r.slot)
  | .tell t => do
      let r ← s.handling t
      (Publication.finish (s.slot r.slot) t).map fun x =>
        ((s.setSlot r.slot x.1).setHandling t none).answered r x.2

/-! ## What is proved -/

/-- What a client is told instead of an unusable answer: the default, exactly when no capability
had been indicated for the slot; or else a capability with each byte from one that was indicated
for the slot, which is the last one if none was being copied meanwhile, and the only one if there
was only one. -/
structure Exchange.Faithful (x : Exchange simCount) : Prop where
  told : x.told = some (.getResponse { x.response.info with error := radioErrorNone }
    (fields ((x.answer.value.map recordOf).getD
      (defaultRadioCapability x.response.simswitch x.response.slot))))
  bytes : x.answer.Faithful
  only : ∀ record, (∀ b ∈ x.answer.begun, b = record) → ∀ v ∈ x.answer.value, v = record

/-- The invariant. -/
structure State.Inv (s : State simCount) : Prop where
  slots : ∀ k, (s.slot k).Inv
  handling : ∀ t r, s.handling t = some r →
    r.connected = true ∧ usable r.response r.responseLen = none
  exchanges : ∀ x ∈ s.exchanges, x.Faithful

theorem init_inv : (State.init simCount).Inv where
  slots := fun _ => Publication.init_inv _
  handling := fun _ _ h => nomatch h
  exchanges := fun _ h => nomatch h

section Step

variable {s s' : State simCount}

theorem State.Inv.setSlot (h : s.Inv) (k : Fin simCount) {slot : Slot} (hslot : slot.Inv) :
    (s.setSlot k slot).Inv := by
  refine ⟨fun j => ?_, h.handling, h.exchanges⟩
  show (Function.update s.slot k slot j).Inv
  by_cases hj : j = k
  · subst hj
    rwa [Function.update_self]
  · rw [Function.update_of_ne hj]
    exact h.slots j

theorem State.Inv.setHandling (h : s.Inv) (t : ℕ) {r : Option (Response simCount)}
    (hr : ∀ r' ∈ r, r'.connected = true ∧ usable r'.response r'.responseLen = none) :
    (s.setHandling t r).Inv := by
  refine ⟨h.slots, fun u r' hr' => ?_, h.exchanges⟩
  replace hr' : Function.update s.handling t r u = some r' := hr'
  by_cases hu : u = t
  · subst hu
    rw [Function.update_self] at hr'
    exact hr r' hr'
  · rw [Function.update_of_ne hu] at hr'
    exact h.handling u r' hr'

/-- What is told for a record that was read. -/
theorem tellResponse_eq {r : Response simCount} (hconnected : r.connected = true)
    (hunusable : usable r.response r.responseLen = none) (value : Option Bytes) :
    tellResponse r value = some (.getResponse { r.info with error := radioErrorNone }
      (fields ((value.map recordOf).getD (defaultRadioCapability r.simswitch r.slot)))) := by
  unfold tellResponse getRadioCapabilityResponse
  rw [hconnected]
  simp only [if_true]
  rw [responseRadioCapability_substituted _ _ _ _ _ _ hunusable r.slot.isLt rfl]
  cases value with
  | none => rfl
  | some v => rfl

theorem State.Inv.answered (h : s.Inv) {r : Response simCount} {a : Answer}
    (hconnected : r.connected = true) (hunusable : usable r.response r.responseLen = none)
    (ha : a.Faithful) : (s.answered r a).Inv := by
  refine ⟨h.slots, h.handling, fun x hx => ?_⟩
  rcases List.mem_cons.1 hx with rfl | hx
  · exact ⟨tellResponse_eq hconnected hunusable a.value, ha, fun _ hbegun => ha.of_single hbegun⟩
  · exact h.exchanges x hx

theorem step_inv (h : s.Inv) {e : Event simCount} (hs : step s e = some s') : s'.Inv := by
  cases e with
  | indicate k record responseLen =>
      rw [step] at hs
      split at hs
      · cases Option.some.inj hs
        exact h
      · obtain ⟨slot, hslot, rfl⟩ := Option.map_eq_some_iff.1 hs
        exact h.setSlot k (Publication.begin_inv (h.slots k) hslot)
  | copyByte k i =>
      obtain ⟨slot, hslot, rfl⟩ := Option.map_eq_some_iff.1 hs
      exact h.setSlot k (Publication.copy_inv (h.slots k) hslot)
  | storeValid k =>
      obtain ⟨slot, hslot, rfl⟩ := Option.map_eq_some_iff.1 hs
      exact h.setSlot k (Publication.publish_inv (h.slots k) hslot)
  | loadValid t r =>
      rw [step, Option.ite_none_right_eq_some] at hs
      obtain ⟨⟨-, hconnected, hunusable⟩, hs⟩ := hs
      obtain ⟨⟨slot, answer⟩, hlook, rfl⟩ := Option.map_eq_some_iff.1 hs
      obtain ⟨hslot, hanswer⟩ := Publication.look_inv (h.slots r.slot) hlook
      have hset := h.setSlot r.slot hslot
      cases answer with
      | none =>
          apply hset.setHandling
          rintro r' ⟨⟩
          exact ⟨hconnected, hunusable⟩
      | some a => exact hset.answered hconnected hunusable (hanswer a rfl)
  | readByte t i =>
      simp only [step, Option.bind_eq_bind, Option.bind_eq_some_iff] at hs
      obtain ⟨r, -, hs⟩ := hs
      obtain ⟨slot, hslot, rfl⟩ := Option.map_eq_some_iff.1 hs
      exact h.setSlot r.slot (Publication.readPart_inv (h.slots r.slot) hslot)
  | tell t =>
      simp only [step, Option.bind_eq_bind, Option.bind_eq_some_iff] at hs
      obtain ⟨r, hr, hs⟩ := hs
      obtain ⟨⟨slot, a⟩, hfinish, rfl⟩ := Option.map_eq_some_iff.1 hs
      obtain ⟨hslot, ha⟩ := Publication.finish_inv (h.slots r.slot) hfinish
      obtain ⟨hconnected, hunusable⟩ := h.handling t r hr
      have hset : ((s.setSlot r.slot slot).setHandling t none).Inv := by
        apply (h.setSlot r.slot hslot).setHandling
        rintro r' ⟨⟩
      exact hset.answered hconnected hunusable ha

end Step

/-! ## Main result -/

/-- **The capability is published.**  However the copies of the indications, the stores of the
flags, the loads of the flags and the reads of the records interleave, over all slots and with
any number of threads that answer: what a client is told instead of an unusable answer is the
default capability exactly when none had been indicated for its slot, and otherwise made of
indicated ones; it is the last one indicated if no copy was under way, and the only one if the
vendor indicated only one. -/
theorem capability_published (es : List (Event simCount)) :
    Always step (fun s => ∀ x ∈ s.exchanges, x.Faithful) (State.init simCount) es :=
  (always_of_step (fun _ _ _ h hs => step_inv h hs) init_inv es).mono fun _ h => h.exchanges

end Radio.Capability.Shared
