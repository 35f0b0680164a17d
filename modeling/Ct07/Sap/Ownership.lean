/-
# Who frees the blocks of a SAP request

The header and the `SapSocketRequest` of a request are freed when the vendor answers it, the
payload and the encode buffer by the method that made it, which reads the payload's address
from the header.  Nothing frees the bytes nested in an APDU once they are encoded.

* `program_settled` : what a method has done to the blocks when `dispatchRequest` is through;
* `Request.Accounted` : the ledger of a request, as its thread and its stage determine it;
* `owned_iff` : when every block is freed once and none is used after that.
-/
import Ct07.Sap.PendingQueue

open AllocationLedger PartialStep

namespace Sap

/-! ## The property, and when it holds -/

/-- The method has returned, and the client has its answer. -/
def Request.Done (x : Request) : Prop :=
  x.thread = .returned ∧ (x.stage = .completed ∨ x.stage = .failed)

/-- No block is freed twice or used when it is not live.  The header and the `SapSocketRequest`
are freed once the vendor has answered, and all that was allocated once the method has
returned, too. -/
structure State.Owned (s : State) : Prop where
  clean : ∀ r, Clean (s.ledgers r)
  once : ∀ r b, frees b (s.ledgers r) ≤ 1
  completed : ∀ r x, s.requests r = some x → x.stage = .completed →
    frees .header (s.ledgers r) = 1 ∧ frees .request (s.ledgers r) = 1
  released : ∀ r x, s.requests r = some x → x.Done →
    ∀ b, frees b (s.ledgers r) = allocs b (s.ledgers r)

/-- The request has nested bytes, is encoded, and fails after that. -/
def Call.Leaks (call : Call) (fails : Point → Bool) : Prop :=
  call.command ≠ [] ∧ fails .header = false ∧ fails .command = false ∧
    fails .encodedSize = false ∧ fails .buffer = false ∧ fails .encode = false ∧
      (fails .payload = true ∨ fails .socket = true)

/-- The header is still there when the method reads it, a completion finds its own request, and
no request with nested bytes fails after the encoding or is done. -/
def Event.Keeps (s : State) : Event → Prop
  | .request call fails _ => ¬ call.Leaks fails
  | .freePayload r => ∀ x ∈ s.requests r, x.stage ≠ .dropped ∧ x.stage ≠ .completed
  | .freeBuffer r => ∀ x ∈ s.requests r, x.stage ≠ .completed ∨ x.call.command = []
  | .complete r _ _ => ∀ x ∈ s.requests r,
      s.Foremost r x ∧ (x.thread ≠ .returned ∨ x.call.command = [])

/-! ## The ledger of a request -/

/-- How often each block of a request that did not fail was allocated. -/
def Request.allocs (x : Request) : Block → ℕ
  | .command => if x.call.command = [] then 0 else 1
  | .request => if x.stage = .dropped then 0 else 1
  | _ => 1

/-- How often each block of a request that did not fail was freed. -/
def Request.frees (x : Request) : Block → ℕ
  | .header => if x.stage = .completed ∨ x.stage = .dropped then 1 else 0
  | .request => if x.stage = .completed then 1 else 0
  | .payload => if x.thread = .dispatching then 0 else 1
  | .buffer => if x.thread = .returned then 1 else 0
  | .command => 0

theorem Request.frees_le_one (x : Request) (b : Block) : x.frees b ≤ 1 := by
  cases b
  case command => exact Nat.zero_le 1
  all_goals
    simp only [Request.frees]
    split <;> omega

/-- The ledger of a request, as its thread and its stage determine it. -/
structure Request.Accounted (x : Request) (l : Ledger Block) : Prop where
  clean : Clean l
  counts : x.stage ≠ .failed →
    ∀ b, AllocationLedger.allocs b l = x.allocs b ∧ AllocationLedger.frees b l = x.frees b
  failed : x.stage = .failed → x.thread = .returned ∧
    ∀ b, AllocationLedger.allocs b l ≤ 1 ∧
      AllocationLedger.frees b l = AllocationLedger.allocs b l
  released : x.stage = .completed → x.thread = .returned → x.call.command = []

/-! ## What a method does before its request is on the queue -/

theorem addPayloadAndDispatchRequest_run (fails : Point → Bool) (l : Ledger Block) :
    (addPayloadAndDispatchRequest fails).run l =
      if fails .payload then (.failed, .free .header :: .free .buffer :: .touch .header :: l)
      else if fails .socket then
        (.failed, .free .header :: .free .buffer :: .free .payload :: .touch .buffer ::
          .touch .payload :: .alloc .payload :: .touch .header :: l)
      else if fails .request then
        (.dropped, .free .header :: .touch .buffer :: .touch .payload :: .alloc .payload ::
          .touch .header :: l)
      else
        (.queued, .touch .request :: .touch .header :: .alloc .request :: .touch .buffer ::
          .touch .payload :: .alloc .payload :: .touch .header :: l) := by
  cases hpayload : fails .payload <;> cases hsocket : fails .socket <;>
    cases hrequest : fails .request <;>
    simp [addPayloadAndDispatchRequest, dispatchRequest, malloc, free, touch,
      sendFailedResponse, hpayload, hsocket, hrequest] <;> rfl

theorem plainReq_run (fails : Point → Bool) :
    (plainReq fails).run [] =
      if fails .header then (.failed, [])
      else if fails .encodedSize || fails .buffer then
        (.failed, [.free .header, .touch .header, .alloc .header])
      else if fails .encode then
        (.failed, [.free .header, .free .buffer, .touch .buffer, .alloc .buffer, .touch .header,
          .alloc .header])
      else
        (addPayloadAndDispatchRequest fails).run
          [.touch .buffer, .alloc .buffer, .touch .header, .alloc .header] := by
  cases hheader : fails .header <;> cases hsize : fails .encodedSize <;>
    cases hbuffer : fails .buffer <;> cases hencode : fails .encode <;>
    simp [plainReq, createMsgHeader, malloc, free, touch, sendFailedResponse, hheader, hsize,
      hbuffer, hencode] <;> rfl

/-- Without nested bytes, an APDU request is like the others. -/
theorem apduReq_nil (fails : Point → Bool) : apduReq fails [] = plainReq fails := rfl

theorem apduReq_run (fails : Point → Bool) {command : List UInt8} (hne : command ≠ []) :
    (apduReq fails command).run [] =
      if fails .header then (.failed, [])
      else if fails .command then (.failed, [.free .header, .touch .header, .alloc .header])
      else if fails .encodedSize || fails .buffer then
        (.failed, [.free .header, .free .command, .touch .command, .alloc .command,
          .touch .header, .alloc .header])
      else if fails .encode then
        (.failed, [.free .header, .free .buffer, .free .command, .touch .buffer,
          .touch .command, .alloc .buffer, .touch .command, .alloc .command, .touch .header,
          .alloc .header])
      else
        (addPayloadAndDispatchRequest fails).run
          [.touch .buffer, .touch .command, .alloc .buffer, .touch .command, .alloc .command,
            .touch .header, .alloc .header] := by
  cases hheader : fails .header <;> cases hcommand : fails .command <;>
    cases hsize : fails .encodedSize <;> cases hbuffer : fails .buffer <;>
    cases hencode : fails .encode <;>
    simp [apduReq, createMsgHeader, malloc, free, touch, sendFailedResponse, hne, hheader,
      hcommand, hsize, hbuffer, hencode] <;> rfl

/-- The ledger of a request that is encoded. -/
structure Encoded (call : Call) (l : Ledger Block) : Prop where
  clean : Clean l
  frees : ∀ b, frees b l = 0
  header : allocs .header l = 1
  buffer : allocs .buffer l = 1
  command : allocs .command l = if call.command = [] then 0 else 1
  payload : allocs .payload l = 0
  request : allocs .request l = 0

/-- What a method leaves behind, for each outcome. -/
def Settled (call : Call) (fails : Point → Bool) (run : Outcome × Ledger Block) : Prop :=
  match run.1 with
  | .failed => ¬ call.Leaks fails → (⟨call, .returned, .failed⟩ : Request).Accounted run.2
  | .dropped => (⟨call, .dispatching, .dropped⟩ : Request).Accounted run.2
  | .queued => (⟨call, .dispatching, .pending⟩ : Request).Accounted run.2

theorem accounted_failed (call : Call) {l : Ledger Block} (hclean : Clean l)
    (hcounts : ∀ b, allocs b l ≤ 1 ∧ frees b l = allocs b l) :
    (⟨call, .returned, .failed⟩ : Request).Accounted l :=
  ⟨hclean, fun hne => absurd rfl hne, fun _ => ⟨rfl, hcounts⟩, fun h => nomatch h⟩

/-- After the encoding. -/
theorem Encoded.settled {call : Call} {fails : Point → Bool} {l : Ledger Block}
    (h : Encoded call l)
    (hleak : call.command ≠ [] → fails .payload = true ∨ fails .socket = true →
      call.Leaks fails) :
    Settled call fails ((addPayloadAndDispatchRequest fails).run l) := by
  have hcommand : ¬ call.Leaks fails → fails .payload = true ∨ fails .socket = true →
      allocs .command l = 0 := by
    intro hno hfail
    by_cases hnil : call.command = []
    · rw [h.command, if_pos hnil]
    · exact absurd (hleak hnil hfail) hno
  rw [addPayloadAndDispatchRequest_run]
  split
  · rename_i hpayload
    intro hno
    have hnone := hcommand hno (.inl hpayload)
    refine accounted_failed call ?_ fun b => ?_
    · simp [Clean, Access.Allowed, Live, h.clean, h.frees, h.header, h.buffer]
    · cases b <;> simp [h.frees, h.header, h.buffer, h.payload, h.request, hnone]
  · split
    · rename_i hsocket
      intro hno
      have hnone := hcommand hno (.inr hsocket)
      refine accounted_failed call ?_ fun b => ?_
      · simp [Clean, Access.Allowed, Live, h.clean, h.frees, h.header, h.buffer, h.payload]
      · cases b <;> simp [h.frees, h.header, h.buffer, h.payload, h.request, hnone]
    · split
      · refine ⟨?_, fun _ b => ?_, fun hf => absurd hf (by simp),
          fun hc => absurd hc (by simp)⟩
        · simp [Clean, Access.Allowed, Live, h.clean, h.frees, h.header, h.buffer, h.payload]
        · cases b <;> simp [Request.allocs, Request.frees, h.frees, h.header, h.buffer,
            h.command, h.payload, h.request]
      · refine ⟨?_, fun _ b => ?_, fun hf => absurd hf (by simp),
          fun hc => absurd hc (by simp)⟩
        · simp [Clean, Access.Allowed, Live, h.clean, h.frees, h.header, h.buffer, h.payload,
            h.request]
        · cases b <;> simp [Request.allocs, Request.frees, h.frees, h.header, h.buffer,
            h.command, h.payload, h.request]

/-- A failure before the encoding is done. -/
theorem settled_failed (call : Call) (fails : Point → Bool) {l : Ledger Block} (hclean : Clean l)
    (hcounts : ∀ b, allocs b l ≤ 1 ∧ frees b l = allocs b l) :
    Settled call fails (.failed, l) :=
  fun _ => accounted_failed call hclean hcounts

theorem plainReq_settled (call : Call) (hnil : call.command = []) (fails : Point → Bool) :
    Settled call fails ((plainReq fails).run []) := by
  rw [plainReq_run]
  split
  · exact settled_failed call fails trivial fun b => by simp
  · split
    · exact settled_failed call fails (by decide) fun b => by cases b <;> decide
    · split
      · exact settled_failed call fails (by decide) fun b => by cases b <;> decide
      · refine Encoded.settled ⟨by decide, fun b => by cases b <;> rfl, rfl, rfl, ?_, rfl, rfl⟩
          fun hne => absurd hnil hne
        rw [if_pos hnil]
        rfl

theorem apduReq_settled (call : Call) (hne : call.command ≠ []) (fails : Point → Bool) :
    Settled call fails ((apduReq fails call.command).run []) := by
  rw [apduReq_run fails hne]
  split
  · exact settled_failed call fails trivial fun b => by simp
  · split
    · exact settled_failed call fails (by decide) fun b => by cases b <;> decide
    · split
      · exact settled_failed call fails (by decide) fun b => by cases b <;> decide
      · split
        · exact settled_failed call fails (by decide) fun b => by cases b <;> decide
        · rename_i hheader hcommand hsize hencode
          refine Encoded.settled ⟨by decide, fun b => by cases b <;> rfl, rfl, rfl, ?_, rfl, rfl⟩
            fun _ hfail => ?_
          · rw [if_neg hne]
            rfl
          · simp only [Bool.or_eq_true, not_or, Bool.not_eq_true] at hheader hcommand hsize hencode
            exact ⟨hne, hheader, hcommand, hsize.1, hsize.2, hencode, hfail⟩

/-- **What a method has done to the blocks** when `dispatchRequest` is through. -/
theorem program_settled (call : Call) (fails : Point → Bool) :
    Settled call fails ((call.program fails).run []) := by
  cases call with
  | apduReq token type command =>
      by_cases hnil : command = []
      · subst hnil
        have hprogram : Call.program fails (.apduReq token type []) = plainReq fails :=
          apduReq_nil fails
        rw [hprogram]
        exact plainReq_settled (.apduReq token type []) rfl fails
      · exact apduReq_settled (.apduReq token type command) hnil fails
  | connectReq token maxMsgSize => exact plainReq_settled _ rfl fails
  | disconnectReq token => exact plainReq_settled _ rfl fails
  | transferAtrReq token => exact plainReq_settled _ rfl fails
  | powerReq token state => exact plainReq_settled _ rfl fails
  | resetSimReq token => exact plainReq_settled _ rfl fails
  | transferCardReaderStatusReq token => exact plainReq_settled _ rfl fails
  | setTransferProtocolReq token transferProtocol => exact plainReq_settled _ rfl fails

/-- A request that leaks has failed, and still holds the nested bytes. -/
theorem program_leaks {call : Call} {fails : Point → Bool} (h : call.Leaks fails) :
    ((call.program fails).run []).1 = .failed ∧
      allocs .command ((call.program fails).run []).2 = 1 ∧
        frees .command ((call.program fails).run []).2 = 0 := by
  obtain ⟨hne, hheader, hcommand, hsize, hbuffer, hencode, hfail⟩ := h
  cases call with
  | apduReq token type command =>
      have hprogram : (Call.program fails (.apduReq token type command)).run [] =
          (apduReq fails command).run [] := rfl
      rw [hprogram, apduReq_run fails (show command ≠ [] from hne),
        addPayloadAndDispatchRequest_run]
      rcases hfail with hfail | hfail
      · simp [hheader, hcommand, hsize, hbuffer, hencode, hfail]
      · cases hpayload : fails .payload <;>
          simp [hheader, hcommand, hsize, hbuffer, hencode, hfail]
  | connectReq token maxMsgSize => exact absurd rfl hne
  | disconnectReq token => exact absurd rfl hne
  | transferAtrReq token => exact absurd rfl hne
  | powerReq token state => exact absurd rfl hne
  | resetSimReq token => exact absurd rfl hne
  | transferCardReaderStatusReq token => exact absurd rfl hne
  | setTransferProtocolReq token transferProtocol => exact absurd rfl hne

/-! ## One request among the others -/

section Accounts

variable {x : Request} {l : Ledger Block}

theorem Request.Accounted.touches (h : x.Accounted l) {ts : List Block}
    (hts : ∀ b ∈ ts, Live b l) : x.Accounted (ts.map .touch ++ l) := by
  refine ⟨h.clean.touches hts, ?_, ?_, h.released⟩
  · intro hne b
    rw [allocs_touches, frees_touches]
    exact h.counts hne b
  · intro hf
    refine ⟨(h.failed hf).1, fun b => ?_⟩
    rw [allocs_touches, frees_touches]
    exact (h.failed hf).2 b

/-- A request that waits for the vendor has its header, and its `SapSocketRequest`. -/
theorem Request.Accounted.live (h : x.Accounted l) (hwaits : x.stage.Waits) :
    Live .header l ∧ Live .request l := by
  have hne : x.stage ≠ .failed := by
    rintro hf
    rcases hwaits with hw | hw <;> exact nomatch hf.symm.trans hw
  obtain ⟨hah, hfh⟩ := h.counts hne .header
  obtain ⟨har, hfr⟩ := h.counts hne .request
  rw [Live, Live, hah, hfh, har, hfr]
  rcases hwaits with hw | hw <;> simp [Request.allocs, Request.frees, hw]

/-- The request is handed to the vendor. -/
theorem Request.Accounted.hand {call : Call}
    (h : (⟨call, .dispatching, .pending⟩ : Request).Accounted l) :
    (⟨call, .dispatching, .handed⟩ : Request).Accounted
      (.touch .payload :: .touch .header :: l) := by
  have hpayload : Live .payload l := by
    obtain ⟨ha, hf⟩ := h.counts (by simp) .payload
    rw [Live, ha, hf]
    simp [Request.allocs, Request.frees]
  have hlive : ∀ b ∈ [Block.payload, Block.header], Live b l := by
    simp [hpayload, (h.live (.inl rfl)).1]
  have htouched := h.touches hlive
  exact ⟨htouched.clean, fun _ => htouched.counts (by simp), (nomatch ·), (nomatch ·)⟩

/-- **`free(msg->payload)`**, while the header is there. -/
theorem Request.Accounted.freePayload (h : x.Accounted l) (hthread : x.thread = .dispatching)
    (hdropped : x.stage ≠ .dropped) (hcompleted : x.stage ≠ .completed) :
    ({ x with thread := .freeing } : Request).Accounted
      (.free .payload :: .touch .header :: l) := by
  have hne : x.stage ≠ .failed := fun hf => nomatch hthread.symm.trans (h.failed hf).1
  have hcounts := h.counts hne
  refine ⟨⟨?_, ?_, h.clean⟩, fun _ b => ?_, fun hf => absurd hf hne, fun _ ht => nomatch ht⟩
  · simp [Access.Allowed, Live, hcounts, Request.allocs, Request.frees, hthread]
  · simp [Access.Allowed, Live, hcounts, Request.allocs, Request.frees, hdropped, hcompleted]
  · cases b <;> simp [hcounts, Request.allocs, Request.frees, hthread]

/-- After the header is freed, the method reads it all the same. -/
theorem Request.Accounted.freePayload_not_clean (h : x.Accounted l)
    (hstage : x.stage = .dropped ∨ x.stage = .completed) :
    ¬ Clean (.free .payload :: .touch .header :: l) := by
  have hne : x.stage ≠ .failed := by
    rintro hf
    rcases hstage with hs | hs <;> exact nomatch hf.symm.trans hs
  rintro ⟨-, hlive, -⟩
  have hlt : AllocationLedger.frees .header l < AllocationLedger.allocs .header l := hlive
  obtain ⟨ha, hf⟩ := h.counts hne .header
  rw [ha, hf] at hlt
  rcases hstage with hs | hs <;> simp [Request.allocs, Request.frees, hs] at hlt

/-- **`free(reqPtr)`** -/
theorem Request.Accounted.freeBuffer (h : x.Accounted l) (hthread : x.thread = .freeing)
    (hok : x.stage ≠ .completed ∨ x.call.command = []) :
    ({ x with thread := .returned } : Request).Accounted (.free .buffer :: l) := by
  have hne : x.stage ≠ .failed := fun hf => nomatch hthread.symm.trans (h.failed hf).1
  have hcounts := h.counts hne
  refine ⟨⟨?_, h.clean⟩, fun _ b => ?_, fun hf => absurd hf hne,
    fun hs _ => hok.resolve_left (not_not_intro hs)⟩
  · simp [Access.Allowed, Live, hcounts, Request.allocs, Request.frees, hthread]
  · cases b <;> simp [hcounts, Request.allocs, Request.frees, hthread]

/-- **The completion of a request** that finds its own `SapSocketRequest`. -/
theorem Request.Accounted.complete (h : x.Accounted l) (hstage : x.stage = .handed)
    (hok : x.thread ≠ .returned ∨ x.call.command = []) :
    ({ x with stage := .completed } : Request).Accounted
      (.free .header :: .free .request :: l) := by
  have hcounts := h.counts (by simp [hstage])
  obtain ⟨hheader, hrequest⟩ := h.live (.inr hstage)
  refine ⟨⟨?_, hrequest, h.clean⟩, fun _ b => ?_, (nomatch ·),
    fun _ ht => hok.resolve_left (not_not_intro ht)⟩
  · show AllocationLedger.frees .header (.free .request :: l) <
      AllocationLedger.allocs .header (.free .request :: l)
    rw [frees_free, allocs_free, if_neg (by simp)]
    exact hheader
  · cases b <;> simp [hcounts, Request.allocs, Request.frees, hstage]

/-- What the property asks of one request. -/
theorem Request.Accounted.owned (h : x.Accounted l) :
    (∀ b, AllocationLedger.frees b l ≤ 1) ∧
      (x.stage = .completed →
        AllocationLedger.frees .header l = 1 ∧ AllocationLedger.frees .request l = 1) ∧
      (x.Done → ∀ b, AllocationLedger.frees b l = AllocationLedger.allocs b l) := by
  by_cases hf : x.stage = .failed
  · obtain ⟨-, hcounts⟩ := h.failed hf
    refine ⟨fun b => ?_, fun hc => (nomatch hf.symm.trans hc), fun _ b => (hcounts b).2⟩
    obtain ⟨hle, heq⟩ := hcounts b
    omega
  · have hcounts := h.counts hf
    refine ⟨fun b => ?_, fun hc => ?_, ?_⟩
    · rw [(hcounts b).2]
      exact x.frees_le_one b
    · simp [hcounts, Request.frees, hc]
    · rintro ⟨hthread, hc | hfail⟩ b
      · have hnil := h.released hc hthread
        cases b <;> simp [hcounts, Request.allocs, Request.frees, hc, hthread, hnil]
      · exact absurd hfail hf

end Accounts

/-! ## Invariant -/

/-- The queue is in order, and every request is accounted for. -/
structure State.Inv (s : State) : Prop where
  queued : s.Queued
  fresh : ∀ r, s.requests r = none → s.ledgers r = []
  accounted : ∀ r x, s.requests r = some x → x.Accounted (s.ledgers r)

theorem inv_init : State.init.Inv where
  queued := queued_init
  fresh := fun _ _ => rfl
  accounted := fun _ _ hx => nomatch hx

theorem State.Inv.owned {s : State} (h : s.Inv) : s.Owned := by
  have hledger : ∀ r, Clean (s.ledgers r) ∧ ∀ b, frees b (s.ledgers r) ≤ 1 := by
    intro r
    rcases Option.eq_none_or_eq_some (s.requests r) with hnone | ⟨x, hx⟩
    · rw [h.fresh r hnone]
      exact ⟨trivial, fun b => Nat.zero_le 1⟩
    · exact ⟨(h.accounted r x hx).clean, (h.accounted r x hx).owned.1⟩
  exact ⟨fun r => (hledger r).1, fun r => (hledger r).2,
    fun r x hx => (h.accounted r x hx).owned.2.1, fun r x hx => (h.accounted r x hx).owned.2.2⟩

section Steps

variable {s : State} {r : ℕ} {x : Request}

/-- Only one request and its ledger change. -/
theorem State.Inv.update (h : s.Inv) {s' : State} (hqueued : s'.Queued) {y : Request}
    {l : Ledger Block} (hrequests : s'.requests = Function.update s.requests r (some y))
    (hledgers : s'.ledgers = Function.update s.ledgers r l) (hy : y.Accounted l) : s'.Inv := by
  refine ⟨hqueued, fun a ha => ?_, fun a z hz => ?_⟩
  · rw [hrequests] at ha
    rw [hledgers]
    by_cases har : a = r
    · subst har
      rw [Function.update_self] at ha
      exact nomatch ha
    · rw [Function.update_of_ne har] at ha ⊢
      exact h.fresh a ha
  · rw [hrequests] at hz
    rw [hledgers]
    by_cases har : a = r
    · subst har
      rw [Function.update_self] at hz ⊢
      cases Option.some.inj hz
      exact hy
    · rw [Function.update_of_ne har] at hz ⊢
      exact h.accounted a z hz

/-- **A call of a method.** -/
theorem request_inv (h : s.Inv) {call : Call} {fails : Point → Bool} (uimFuncs : Bool)
    (hok : ¬ call.Leaks fails) (hqueued : (request s call fails uimFuncs).Queued) :
    (request s call fails uimFuncs).Inv := by
  have hsettled := program_settled call fails
  unfold Settled at hsettled
  cases houtcome : ((call.program fails).run []).1 with
  | failed =>
      simp only [houtcome] at hsettled
      exact h.update hqueued (by rw [request, houtcome]) (by rw [request, houtcome])
        (hsettled hok)
  | dropped =>
      simp only [houtcome] at hsettled
      exact h.update hqueued (by rw [request, houtcome]) (by rw [request, houtcome]) hsettled
  | queued =>
      simp only [houtcome] at hsettled
      apply h.update hqueued (by rw [request, houtcome]) (by rw [request, houtcome])
      cases uimFuncs with
      | false => exact hsettled
      | true => exact hsettled.hand

/-- What the comparisons of a scan add to the ledgers. -/
theorem compared_ledgers (key : MsgHeader) (visited : List ℕ) (ledgers : ℕ → Ledger Block)
    (a : ℕ) : ∃ ts : List Block, visited.foldl (s.compare key) ledgers a =
        ts.map .touch ++ ledgers a ∧ (∀ b ∈ ts, b = .header ∨ b = .request) ∧
      (a ∉ visited → ts = []) := by
  induction visited generalizing ledgers with
  | nil => exact ⟨[], rfl, by simp, fun _ => rfl⟩
  | cons v visited ih =>
      obtain ⟨ts, hts, hblocks, hnone⟩ := ih (s.compare key ledgers v)
      rw [List.foldl_cons, hts]
      by_cases hav : a = v
      · subst hav
        refine ⟨ts ++ if s.sameToken key a then [.header, .request] else [.request], ?_, ?_, ?_⟩
        · rw [State.compare, Function.update_self]
          split <;> simp
        · intro b hb
          rcases List.mem_append.1 hb with hb | hb
          · exact hblocks b hb
          · split at hb <;> simp at hb
            · exact hb
            · exact .inr hb
        · exact fun hnot => absurd List.mem_cons_self hnot
      · refine ⟨ts, ?_, hblocks, fun hnot => hnone fun hv => hnot (List.mem_cons_of_mem v hv)⟩
        rw [State.compare, Function.update_of_ne hav]

/-- What a completion adds to the ledger of request `a`. -/
theorem onRequestComplete_ledgers (h : s.Queued) (hx : s.requests r = some x)
    (hstage : x.stage = .handed) (e : ℤ) (allocated : Bool) (a : ℕ) :
    ∃ ts : List Block, (onRequestComplete s r x e allocated).ledgers a =
        (if a = r then [.free .header] else []) ++
          ((if s.pending.find? (s.isKey x.call.header) = some a then [.free .request] else []) ++
            (ts.map .touch ++ s.ledgers a)) ∧
      (∀ b ∈ ts, b = .header ∨ b = .request) ∧ (a ∉ s.pending → ts = []) := by
  obtain ⟨ts, hts, hblocks, hnone⟩ := compared_ledgers (s := s) x.call.header
    (s.pendingResponseQueue.compared s.issued (s.isKey x.call.header))
    (Function.update s.ledgers r (.touch .header :: .touch .request :: s.ledgers r)) a
  have hr : r ∈ s.pending := (h.mem_iff r).2 ⟨x, hx, .inr hstage⟩
  have hread : ∃ ts' : List Block,
      Function.update s.ledgers r (.touch .header :: .touch .request :: s.ledgers r) a =
        ts'.map .touch ++ s.ledgers a ∧ (∀ b ∈ ts', b = .header ∨ b = .request) ∧
      (a ∉ s.pending → ts' = []) := by
    by_cases har : a = r
    · subst har
      exact ⟨[.header, .request], Function.update_self .., by simp, fun hnot => absurd hr hnot⟩
    · exact ⟨[], by rw [Function.update_of_ne har]; rfl, by simp, fun _ => rfl⟩
  obtain ⟨ts', hts', hblocks', hnone'⟩ := hread
  refine ⟨ts ++ ts', ?_, ?_, ?_⟩
  · rw [List.map_append, List.append_assoc, ← hts', ← hts]
    simp only [onRequestComplete, (h.dequeue x.call.header).1]
    cases hfind : s.pending.find? (s.isKey x.call.header) with
    | none =>
        by_cases har : a = r
        · subst har
          simp
        · simp [har]
    | some m =>
        by_cases har : a = r <;> by_cases ham : a = m
        · subst har
          subst ham
          simp
        · subst har
          simp [ham, Ne.symm ham]
        · subst ham
          simp [har]
        · simp [har, ham, Ne.symm ham]
  · intro b hb
    exact (List.mem_append.1 hb).elim (hblocks b) (hblocks' b)
  · intro hnot
    have hvisited : a ∉ s.pendingResponseQueue.compared s.issued (s.isKey x.call.header) :=
      fun hmem => hnot (RilQueue.mem_of_compared h.holds hmem)
    rw [hnone hvisited, hnone' hnot]
    rfl

/-- **A completion** that finds its own request. -/
theorem complete_inv (h : s.Inv) (hx : s.requests r = some x) (hstage : x.stage = .handed)
    (hfore : s.Foremost r x) (hok : x.thread ≠ .returned ∨ x.call.command = []) (e : ℤ)
    (allocated : Bool) : (onRequestComplete s r x e allocated).Inv := by
  have hfind := (h.queued.find_iff hx (.inr hstage)).2 hfore
  have hlive : ∀ a y, s.requests a = some y → ∀ ts : List Block,
      (∀ b ∈ ts, b = .header ∨ b = .request) → (a ∉ s.pending → ts = []) →
        y.Accounted (ts.map .touch ++ s.ledgers a) := by
    intro a y hy ts hblocks hnone
    by_cases ha : a ∈ s.pending
    · obtain ⟨z, hz, hwaits⟩ := (h.queued.mem_iff a).1 ha
      cases Option.some.inj (hy.symm.trans hz)
      obtain ⟨hheader, hrequest⟩ := (h.accounted a y hy).live hwaits
      refine (h.accounted a y hy).touches fun b hb => ?_
      rcases hblocks b hb with rfl | rfl
      · exact hheader
      · exact hrequest
    · rw [hnone ha]
      exact h.accounted a y hy
  refine ⟨h.queued.complete hx hstage hfore e allocated, fun a ha => ?_, fun a y hy => ?_⟩
  · obtain ⟨ts, hts, -, hnone⟩ := onRequestComplete_ledgers h.queued hx hstage e allocated a
    change Function.update s.requests r _ a = none at ha
    by_cases har : a = r
    · subst har
      rw [Function.update_self] at ha
      exact nomatch ha
    · rw [Function.update_of_ne har] at ha
      have hnot : a ∉ s.pending := fun hmem => by
        obtain ⟨y, hy, -⟩ := (h.queued.mem_iff a).1 hmem
        exact nomatch ha.symm.trans hy
      rw [hts, hnone hnot, hfind, if_neg har, if_neg (by simpa using Ne.symm har), h.fresh a ha]
      rfl
  · obtain ⟨ts, hts, hblocks, hnone⟩ :=
      onRequestComplete_ledgers h.queued hx hstage e allocated a
    change Function.update s.requests r _ a = some y at hy
    rw [hts, hfind]
    by_cases har : a = r
    · subst har
      rw [Function.update_self] at hy
      cases Option.some.inj hy
      rw [if_pos rfl, if_pos rfl]
      exact (hlive a x hx ts hblocks hnone).complete hstage hok
    · rw [Function.update_of_ne har] at hy
      rw [if_neg har, if_neg (by simpa using Ne.symm har)]
      exact hlive a y hy ts hblocks hnone

/-- **Any other completion** leaves the `SapSocketRequest` of the request behind, or nested bytes
that nothing frees. -/
theorem complete_not_owned (h : s.Inv) (hx : s.requests r = some x) (hstage : x.stage = .handed)
    (hbad : ¬ (s.Foremost r x ∧ (x.thread ≠ .returned ∨ x.call.command = []))) (e : ℤ)
    (allocated : Bool) : ¬ (onRequestComplete s r x e allocated).Owned := by
  intro howned
  obtain ⟨ts, hts, -, -⟩ := onRequestComplete_ledgers h.queued hx hstage e allocated r
  have hy : (onRequestComplete s r x e allocated).requests r =
      some { x with stage := .completed } := Function.update_self r _ _
  have hcounts := (h.accounted r x hx).counts (by simp [hstage])
  by_cases hfore : s.Foremost r x
  · have hbytes : ¬ (x.thread ≠ .returned ∨ x.call.command = []) := fun hok => hbad ⟨hfore, hok⟩
    obtain ⟨hthread, hne⟩ := not_or.1 hbytes
    rw [not_not] at hthread
    have hreleased := howned.released r _ hy ⟨hthread, .inl rfl⟩ .command
    rw [hts, (h.queued.find_iff hx (.inr hstage)).2 hfore] at hreleased
    simp [hcounts, Request.allocs, Request.frees, hne] at hreleased
  · have hnot : ¬ s.pending.find? (s.isKey x.call.header) = some r := fun hfind =>
      hfore ((h.queued.find_iff hx (.inr hstage)).1 hfind)
    have hrequest := (howned.completed r _ hy rfl).2
    rw [hts, if_pos rfl, if_neg hnot] at hrequest
    simp [hcounts, Request.frees, hstage] at hrequest

end Steps

/-- **One step.** -/
theorem step_inv {s s' : State} {e : Event} (h : s.Inv) (hok : e.Keeps s)
    (hs : step s e = some s') : s'.Inv := by
  have hqueued : s'.Queued := step_queued h.queued (by
    rintro r err allocated rfl x hx
    exact (hok x hx).1) hs
  rcases step_cases hs with ⟨call, fails, uimFuncs, rfl, rfl⟩ | ⟨r, x, rfl, hx, hthread, rfl⟩ |
    ⟨r, x, rfl, hx, hthread, rfl⟩ | ⟨r, err, allocated, x, rfl, hx, hstage, rfl⟩
  · exact request_inv h uimFuncs hok hqueued
  · obtain ⟨hdropped, hcompleted⟩ := hok x hx
    exact h.update hqueued rfl rfl
      ((h.accounted r x hx).freePayload hthread hdropped hcompleted)
  · exact h.update hqueued rfl rfl ((h.accounted r x hx).freeBuffer hthread (hok x hx))
  · obtain ⟨hfore, hbytes⟩ := hok x hx
    exact complete_inv h hx hstage hfore hbytes err allocated

/-- **A step that is not allowed** uses a block that was freed, or leaves one behind. -/
theorem step_not_owned {s s' : State} {e : Event} (h : s.Inv) (hbad : ¬ e.Keeps s)
    (hs : step s e = some s') : ¬ s'.Owned := by
  have hsome : ∀ {r : ℕ} {x : Request} {P : Request → Prop}, s.requests r = some x →
      ¬ (∀ y ∈ s.requests r, P y) → ¬ P x := by
    intro r x P hx hno hp
    refine hno fun y hy => ?_
    cases Option.some.inj (hx.symm.trans hy)
    exact hp
  rcases step_cases hs with ⟨call, fails, uimFuncs, rfl, rfl⟩ | ⟨r, x, rfl, hx, hthread, rfl⟩ |
    ⟨r, x, rfl, hx, hthread, rfl⟩ | ⟨r, err, allocated, x, rfl, hx, hstage, rfl⟩
  · intro howned
    obtain ⟨hfailed, hallocs, hfrees⟩ := program_leaks (not_not.1 hbad)
    have hrequest : (request s call fails uimFuncs).requests s.issued =
        some ⟨call, .returned, .failed⟩ := by
      rw [request, hfailed]
      exact Function.update_self ..
    have hledger : (request s call fails uimFuncs).ledgers s.issued =
        ((call.program fails).run []).2 := by
      rw [request, hfailed]
      exact Function.update_self ..
    have hreleased := howned.released _ _ hrequest ⟨rfl, .inr rfl⟩ .command
    rw [hledger, hallocs, hfrees] at hreleased
    omega
  · intro howned
    have hstage : x.stage = .dropped ∨ x.stage = .completed := by
      have hno := hsome (P := fun y => y.stage ≠ .dropped ∧ y.stage ≠ .completed) hx hbad
      by_contra hneither
      exact hno (not_or.1 hneither)
    have hledger : (freePayload s r x).ledgers r =
        .free .payload :: .touch .header :: s.ledgers r := Function.update_self r _ _
    have hclean := howned.clean r
    rw [hledger] at hclean
    exact (h.accounted r x hx).freePayload_not_clean hstage hclean
  · intro howned
    obtain ⟨hstage, hne⟩ := not_or.1
      (hsome (P := fun y => y.stage ≠ .completed ∨ y.call.command = []) hx hbad)
    rw [not_not] at hstage
    have hrequest : (freeBuffer s r x).requests r = some { x with thread := .returned } :=
      Function.update_self r _ _
    have hledger : (freeBuffer s r x).ledgers r = .free .buffer :: s.ledgers r :=
      Function.update_self r _ _
    have hreleased := howned.released r _ hrequest ⟨rfl, .inl hstage⟩ .command
    rw [hledger] at hreleased
    simp [(h.accounted r x hx).counts (by simp [hstage]), Request.allocs, Request.frees, hne]
      at hreleased
  · exact complete_not_owned h hx hstage (hsome (P := fun y =>
      s.Foremost r y ∧ (y.thread ≠ .returned ∨ y.call.command = [])) hx hbad) err allocated

/-! ## Main result -/

/-- **Every block is freed once and not used after that, exactly when the steps keep it so.**
For every interleaving of the requests of a socket, of any kinds and with any failures, and the
answers of the vendor. -/
theorem owned_iff (es : List Event) :
    Always step State.Owned State.init es ↔ Meets step (fun s e => e.Keeps s) State.init es :=
  always_iff_meets (fun _ h => h.owned) (fun _ _ _ h hok hs => step_inv h hok hs)
    (fun _ _ _ h hbad hs => step_not_owned h hbad hs) inv_init es

/-- The vendor answers inside `onRequest`: the header is freed when the method reads it. -/
theorem synchronousAnswer_not_owned :
    ¬ ∀ es : List Event, Always step State.Owned State.init es := by
  intro hall
  have hrun : (run step State.init
      [.request (.resetSimReq 5) (fun _ => false) true, .complete 0 0 true, .freePayload 0]).map
      (fun s => decide (Clean (s.ledgers 0))) = some false := by decide
  obtain ⟨s', hs', hclean⟩ := Option.map_eq_some_iff.1 hrun
  exact of_decide_eq_false hclean (((hall _).last hs').clean 0)

end Sap
