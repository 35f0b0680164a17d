/-
# Connections to the MAL server, end to end

What a client sends over a connection is cut into frames by `malServerLoop`; each frame goes
through `malDispatch`, which has the vendor run a command and waits for one of its threads; and
`malSendFrame` writes an answer to the connection.

* `Connection` : what came in over a connection, what was read of it, and what went out;
* `State`, `step` : the server, the vendor, and the connections served so far;
* `connections_served` : what a client finds in the bytes it gets, in every run.
-/
import Ct07.Mal.AnswerCodec
import Ct07.Mal.Dispatch

open ByteStream CheckedMemory PartialStep

namespace Mal.Session

/-! ## Connections -/

/-- A connection and its history.  The code keeps the descriptor only. -/
structure Connection where
  /-- what the client sends, as it was when the connection was accepted -/
  opened : Stream
  /-- what is left to read -/
  stream : Stream
  /-- the requests that were read, the first one first -/
  requests : List MalRequest
  /-- the bytes that were written -/
  output : List UInt8
  /-- a `write` has failed, so all that follow fail -/
  broken : Bool
  /-- an answer was not written to its end -/
  lost : Bool

def Connection.new (opened : Stream) : Connection := ⟨opened, opened, [], [], false, false⟩

/-- What becomes of an answer: whether there is memory for its frame, and what the `write` calls
do. -/
structure Sending where
  allocated : Bool
  calls : List Acceptance

/-- The `write` calls of `malSendFrame` for an answer. -/
def writeFrame (sizeT : ℕ) (calls : List Acceptance) (a : Dispatch.Answer) :
    Except Fault (List UInt8 × AnswerCodec.WriteEnd) := do
  let frame ← AnswerCodec.buildFrame sizeT a.simId a.serial a.err a.text
  let bytes ← contents frame
  return AnswerCodec.malWriteAll calls bytes

/-- `malSendFrame` on a connection.  `none` when it has not returned, or stops the process. -/
def Connection.send (sizeT : ℕ) (c : Connection) (a : Dispatch.Answer) (x : Sending) :
    Option Connection :=
  if x.allocated then
    if c.broken && x.calls != [.failed] then none
    else
      match writeFrame sizeT x.calls a with
      | .error _ => none
      | .ok (_, .pending) => none
      | .ok (bytes, .done) => some { c with output := c.output ++ bytes }
      | .ok (bytes, .failed) =>
          some { c with output := c.output ++ bytes, broken := true, lost := true }
  else some { c with lost := true }

/-! ## Server and connections -/

structure State where
  server : Dispatch.State
  connection : Option Connection
  /-- the connections that the server has left, the latest first -/
  closed : List Connection

def State.init : State := ⟨Dispatch.State.init, none, []⟩

/-- The server goes on; when it has sent an answer, that goes out on the connection. -/
def State.serve (sizeT : ℕ) (s : State) (c : Connection) (x : Sending) (server : Dispatch.State) :
    Option State :=
  if s.server.answers.length < server.answers.length then
    match server.answers with
    | [] => none
    | a :: _ => (c.send sizeT a x).map fun c =>
        { s with server := server, connection := some c }
  else some { s with server := server, connection := some c }

inductive Event where
  | accept (fd : ℕ) (opened : Stream)
  /-- the next turn of the inner loop of `malServerLoop`, up to the first attempt -/
  | frame (cmdAllocated : Bool) (pRI : Option ℕ) (x : Sending)
  /-- the next step of `malDispatch` -/
  | advance (expired : Bool) (x : Sending)
  /-- the vendor completes a token -/
  | complete (t : ℕ) (err : UInt32) (response : Option (List UInt8)) (allocated : Bool)
  | deliver (k : ℕ)

def step (simCount sizeT : ℕ) (s : State) : Event → Option State
  | .accept fd opened =>
      (Dispatch.step simCount s.server (.accept fd)).map fun server =>
        { s with server := server, connection := some (.new opened) }
  | .frame cmdAllocated pRI x =>
      match s.connection with
      | none => none
      | some c =>
          match readFrame c.stream with
          | none =>
              (Dispatch.step simCount s.server .disconnect).map fun server =>
                ⟨server, none, c :: s.closed⟩
          | some (r, stream) =>
              (Dispatch.step simCount s.server (.frame r cmdAllocated pRI)).bind
                (s.serve sizeT { c with stream := stream, requests := c.requests ++ [r] } x)
  | .advance expired x =>
      match s.connection with
      | none => none
      | some c =>
          (Dispatch.step simCount s.server (.advance expired)).bind (s.serve sizeT c x)
  | .complete t err response allocated =>
      (Dispatch.step simCount s.server (.complete t err response allocated)).map fun server =>
        { s with server := server }
  | .deliver k =>
      (Dispatch.step simCount s.server (.deliver k)).map fun server =>
        { s with server := server }

/-! ## What a client gets -/

/-- What a client knows a request by. -/
def address (r : MalRequest) : UInt32 × UInt32 := (r.simId, r.serial)

def answerAddress (a : AnswerCodec.Answer) : UInt32 × UInt32 := (a.simId, a.serial)

/-- The client finds an answer to each of the requests in `due`, in order; some are missing when
an answer was lost, and the last one may be cut when a `write` has failed. -/
def Connection.Answered (c : Connection) (due : List MalRequest) : Prop :=
  ∃ as cut, AnswerCodec.answerCodec.decodeAll c.output = (as, cut) ∧
    (as.map answerAddress).Sublist (due.map address) ∧
    (c.broken = false → cut = []) ∧ (c.lost = false → as.map answerAddress = due.map address)

/-- The requests that have been read and have to be answered by now. -/
def State.due (s : State) (c : Connection) : List MalRequest :=
  match s.server.pc with
  | .idle => c.requests
  | .running d => if d.stage = .release then c.requests else c.requests.dropLast
  | .aborted => c.requests.dropLast

/-- The server reads the requests that are in what a client sends, and answers them. -/
structure State.Served (s : State) : Prop where
  closed : ∀ c ∈ s.closed, serveConnection c.opened = c.requests ∧ c.Answered c.requests
  current : ∀ c, s.connection = some c →
    serveConnection c.opened = c.requests ++ serveConnection c.stream ∧ c.Answered (s.due c)

/-- There is a length word for an answer with this text. -/
def Fits (text : List UInt8) : Prop := 32 + text.length < 2 ^ 32

instance (text : List UInt8) : Decidable (Fits text) := inferInstanceAs (Decidable (_ < _))

/-- The text that is kept of a response fits. -/
def Event.ResponseFits : Event → Prop
  | .complete _ _ response allocated => Fits (Dispatch.keptText response allocated)
  | _ => True

instance : DecidablePred Event.ResponseFits
  | .complete .. => inferInstanceAs (Decidable (Fits _))
  | .accept .. => isTrue trivial
  | .frame .. => isTrue trivial
  | .advance .. => isTrue trivial
  | .deliver _ => isTrue trivial

/-! ## The texts -/

/-- Every text on its way to an answer fits. -/
structure TextsFit (s : Dispatch.State) : Prop where
  slots : ∀ i, Fits (s.slots i).text
  claimed : ∀ x ∈ s.claimed, Fits x.text
  running : ∀ d, s.pc = .running d → Fits d.text

theorem fits_nil : Fits [] := by decide

theorem textsFit_init : TextsFit Dispatch.State.init where
  slots := fun _ => fits_nil
  claimed := fun x hx => absurd hx List.not_mem_nil
  running := fun d hd => by simp [Dispatch.State.init] at hd

section Texts

variable {s s' : Dispatch.State}

theorem fits_setSlot (h : TextsFit s) (i : Fin Dispatch.malMaxInflight) {slot : Dispatch.Slot}
    (hslot : Fits slot.text) (j : Fin Dispatch.malMaxInflight) :
    Fits ((s.setSlot i slot).slots j).text := by
  by_cases hj : j = i
  · subst hj
    rw [Dispatch.setSlot_slots_self]
    exact hslot
  · rw [Dispatch.setSlot_slots_of_ne s hj]
    exact h.slots j

theorem textsFit_goto {d : Dispatch.Running} (hslots : ∀ i, Fits (s.slots i).text)
    (hclaimed : ∀ x ∈ s.claimed, Fits x.text) (hd : Fits d.text) : TextsFit (s.goto d) := by
  refine ⟨hslots, hclaimed, fun d' hd' => ?_⟩
  cases hd'
  exact hd

theorem advance_textsFit {d : Dispatch.Running} {expired : Bool} (h : TextsFit s)
    (hpc : s.pc = .running d) (hs : Dispatch.Advanced s d expired s') : TextsFit s' := by
  have hd := h.running d hpc
  have hslot := h.slots d.slot
  cases hs with
  | reset => exact textsFit_goto (fits_setSlot h _ hslot) h.claimed hd
  | call => exact textsFit_goto h.slots h.claimed hd
  | inVendor => exact textsFit_goto h.slots h.claimed hd
  | ended => exact textsFit_goto h.slots h.claimed hd
  | retried => exact textsFit_goto h.slots h.claimed hd
  | slept => exact textsFit_goto h.slots h.claimed hd
  | collected => exact textsFit_goto (fits_setSlot h _ fits_nil) h.claimed hslot
  | sent => exact textsFit_goto h.slots h.claimed hd
  | released => exact ⟨fits_setSlot h _ hslot, h.claimed, fun d' hd' => by simp at hd'⟩

theorem malDispatch_textsFit (h : TextsFit s) (hpc : s.pc = .idle) (simCount : ℕ)
    (r : MalRequest) (cmdAllocated : Bool) (pRI : Option ℕ) :
    TextsFit (s.malDispatch simCount r cmdAllocated pRI) := by
  have hidle : ∀ d, s.pc = .running d → Fits d.text := by
    intro d hd
    rw [hpc] at hd
    exact nomatch hd
  unfold Dispatch.State.malDispatch
  split
  · exact ⟨h.slots, h.claimed, hidle⟩
  · split
    · exact ⟨h.slots, h.claimed, hidle⟩
    · split
      · exact ⟨h.slots, h.claimed, hidle⟩
      · rename_i i hi
        split
        · -- the slot keeps the text it has
          exact ⟨fits_setSlot h i (h.slots i), h.claimed, hidle⟩
        · split
          · exact ⟨h.slots, h.claimed, fun d hd => nomatch hd⟩
          · refine ⟨fits_setSlot h i fits_nil, h.claimed, fun d hd => ?_⟩
            cases hd
            exact fits_nil

/-- The texts fit as long as those of the vendor do. -/
theorem dispatch_textsFit {simCount : ℕ} {e : Dispatch.Event} (h : TextsFit s)
    (he : ∀ t err response allocated, e = .complete t err response allocated →
      Fits (Dispatch.keptText response allocated))
    (hs : Dispatch.step simCount s e = some s') : TextsFit s' := by
  cases Dispatch.step_transition hs with
  | accept fd hpc => exact ⟨h.slots, h.claimed, h.running⟩
  | disconnect hpc => exact ⟨h.slots, h.claimed, h.running⟩
  | frame fd r cmdAllocated pRI hpc hfd =>
      have hlogged : TextsFit { s with frames := (fd, r) :: s.frames, vendorCalls := 0 } :=
        ⟨h.slots, h.claimed, h.running⟩
      exact malDispatch_textsFit hlogged hpc simCount r cmdAllocated pRI
  | advance d expired _ hpc hadvanced => exact advance_textsFit h hpc hadvanced
  | complete t err response allocated hpc =>
      have hfits := he t err response allocated rfl
      unfold Dispatch.State.complete
      split
      · exact h
      · refine ⟨h.slots, fun x hx => ?_, h.running⟩
        rcases List.mem_append.1 hx with hx | hx
        · exact h.claimed x hx
        · cases List.mem_singleton.1 hx
          exact hfits
  | deliver k x hpc hx =>
      have hfits := h.claimed x (List.mem_of_getElem? hx)
      refine ⟨?_, fun y hy => h.claimed y (List.mem_of_mem_eraseIdx hy), h.running⟩
      exact fits_setSlot (s := { s with claimed := s.claimed.eraseIdx k })
        ⟨h.slots, fun y hy => h.claimed y (List.mem_of_mem_eraseIdx hy), h.running⟩ x.slot hfits

end Texts

/-! ## The bytes -/

/-- The output is made of answers to requests in `due`, in order, and of the beginning of another
one when a `write` has failed. -/
def Connection.Sent (c : Connection) (due : List MalRequest) : Prop :=
  ∃ (as : List AnswerCodec.Answer) (cut : List UInt8),
    c.output = as.flatMap AnswerCodec.Answer.encode ++ cut ∧
    (cut = [] ∨ ∃ a rest, AnswerCodec.Answer.encode a = cut ++ rest ∧ rest ≠ []) ∧
    (as.map answerAddress).Sublist (due.map address) ∧
    (c.broken = false → cut = []) ∧ (c.lost = false → as.map answerAddress = due.map address)

theorem Connection.Sent.answered {c : Connection} {due : List MalRequest} (h : c.Sent due) :
    c.Answered due := by
  obtain ⟨as, cut, houtput, hcut, hsublist, hbroken, hlost⟩ := h
  refine ⟨as, cut, ?_, hsublist, hbroken, hlost⟩
  rw [houtput]
  apply PrefixCodec.decodeAll_flatMap (C := AnswerCodec.answerCodec) as
  rcases hcut with rfl | ⟨a, rest, ha, hrest⟩
  · exact PrefixCodec.decode_nil
  · exact AnswerCodec.decodeAnswer_cut a ha hrest

theorem sent_new (opened : Stream) : (Connection.new opened).Sent [] :=
  ⟨[], [], rfl, Or.inl rfl, List.Sublist.refl _, fun _ => rfl, fun _ => rfl⟩

section Send

variable {sizeT : ℕ} {c c' : Connection} {a : Dispatch.Answer}

/-- The answer in the layout of the answers. -/
def layOut (a : Dispatch.Answer) (h : Fits a.text) : AnswerCodec.Answer :=
  ⟨a.simId, a.serial, a.err, a.text, by
    unfold Fits at h
    omega⟩

/-- The `write` calls are given the answer in its layout. -/
theorem writeFrame_eq (hsize : 2 ^ 32 ≤ sizeT) (h : Fits a.text) (calls : List Acceptance) :
    writeFrame sizeT calls a = .ok (AnswerCodec.malWriteAll calls (layOut a h).encode) := by
  have hbuild := AnswerCodec.buildFrame_eq (layOut a h) (Nat.lt_of_lt_of_le h hsize)
  unfold writeFrame
  rw [show AnswerCodec.buildFrame sizeT a.simId a.serial a.err a.text = _ from hbuild]
  simp only [bind, Except.bind, contents_map_some]
  rfl

/-- What is written is what `malSendFrame` writes. -/
theorem malSendFrame_eq_writeFrame (sizeT : ℕ) (calls : List Acceptance) (a : Dispatch.Answer) :
    AnswerCodec.malSendFrame sizeT true true calls a.simId a.serial a.err a.text =
      (writeFrame sizeT calls a).map Prod.fst := by
  unfold AnswerCodec.malSendFrame writeFrame
  cases AnswerCodec.buildFrame sizeT a.simId a.serial a.err a.text with
  | error e => rfl
  | ok frame =>
      simp only [if_true, bind, Except.bind]
      cases contents frame <;> rfl

theorem malWriteAll_broken (a : AnswerCodec.Answer) :
    AnswerCodec.malWriteAll [.failed] a.encode = ([], .failed) := rfl

/-- **One answer.**  It goes out behind the others, or it is lost. -/
theorem send_sent (hsize : 2 ^ 32 ≤ sizeT) (hfits : Fits a.text) {due : List MalRequest}
    {r : MalRequest} (hr : address r = (a.simId, a.serial)) {x : Sending} (h : c.Sent due)
    (hs : c.send sizeT a x = some c') : c'.Sent (due ++ [r]) ∧ c'.opened = c.opened ∧
      c'.stream = c.stream ∧ c'.requests = c.requests := by
  obtain ⟨as, cut, houtput, hcut, hsublist, hbroken, hlost⟩ := h
  -- an answer that is lost leaves a gap
  have hskip : (as.map answerAddress).Sublist ((due ++ [r]).map address) := by
    rw [List.map_append]
    exact hsublist.trans (List.sublist_append_left _ _)
  unfold Connection.send at hs
  rw [writeFrame_eq hsize hfits] at hs
  cases hallocated : x.allocated with
  | false =>
      rw [hallocated] at hs
      cases Option.some.inj hs
      exact ⟨⟨as, cut, houtput, hcut, hskip, hbroken, by simp⟩, rfl, rfl, rfl⟩
  | true =>
      rw [hallocated, if_pos rfl] at hs
      obtain ⟨rest, hrest, hdone⟩ := AnswerCodec.malWriteAll_part x.calls (layOut a hfits).encode
      cases hwritten : AnswerCodec.malWriteAll x.calls (layOut a hfits).encode with
      | mk bytes ending =>
          rw [hwritten] at hs hrest hdone
          split at hs
          · exact nomatch hs
          · rename_i hfirst
            cases ending with
            | pending => exact nomatch hs
            | done =>
                cases Option.some.inj hs
                have hwhole : (layOut a hfits).encode = bytes := by
                  rw [hrest, hdone.1 rfl, List.append_nil]
                have hunbroken : c.broken = false := by
                  cases hb : c.broken with
                  | false => rfl
                  | true =>
                      simp only [hb, Bool.true_and, bne_iff_ne, ne_eq, not_not] at hfirst
                      rw [hfirst, malWriteAll_broken] at hwritten
                      exact absurd hwritten (by simp)
                refine ⟨⟨as ++ [layOut a hfits], [], ?_, Or.inl rfl, ?_, fun _ => rfl,
                  fun hl => ?_⟩, rfl, rfl, rfl⟩
                · simp [houtput, hbroken hunbroken, hwhole]
                · rw [List.map_append, List.map_append]
                  exact hsublist.append (by simp [answerAddress, layOut, hr])
                · rw [List.map_append, List.map_append, hlost hl]
                  simp [answerAddress, layOut, hr]
            | failed =>
                cases Option.some.inj hs
                refine ⟨?_, rfl, rfl, rfl⟩
                cases hb : c.broken with
                | false =>
                    refine ⟨as, bytes, ?_, Or.inr ⟨_, rest, hrest, fun hnil => ?_⟩, hskip,
                      by simp, by simp⟩
                    · simp [houtput, hbroken hb]
                    · exact absurd (hdone.2 hnil) (by simp)
                | true =>
                    -- nothing goes out on a broken connection
                    simp only [hb, Bool.true_and, bne_iff_ne, ne_eq, not_not] at hfirst
                    have hbytes : bytes = [] := by
                      rw [hfirst, malWriteAll_broken] at hwritten
                      exact (congrArg Prod.fst hwritten).symm
                    refine ⟨as, cut, ?_, hcut, hskip, by simp, by simp⟩
                    simp [houtput, hbytes]

end Send

/-! ## The server's steps and the answers -/

section Server

variable {simCount : ℕ} {s s' : Dispatch.State}

/-- An answer that is sent for the request `r`. -/
def AnswersOne (s s' : Dispatch.State) (r : MalRequest) : Prop :=
  ∃ a, s'.answers = a :: s.answers ∧ address r = (a.simId, a.serial) ∧ Fits a.text

/-- A frame is answered at once, or `malDispatch` is on its way to the answer, or the process
has stopped. -/
theorem frame_answers {r : MalRequest} {cmdAllocated : Bool} {pRI : Option ℕ}
    (hs : Dispatch.step simCount s (.frame r cmdAllocated pRI) = some s') :
    s.pc = .idle ∧ ((AnswersOne s s' r ∧ s'.pc = .idle) ∨
      (s'.answers = s.answers ∧
        (s'.pc = .aborted ∨ ∃ d, s'.pc = .running d ∧ d.frame = r ∧ d.stage ≠ .release))) := by
  cases Dispatch.step_transition hs with
  | frame fd _ _ _ hpc hfd =>
      refine ⟨hpc, ?_⟩
      generalize hnext : Dispatch.State.malDispatch _ simCount r cmdAllocated pRI = t
      have hcases := Dispatch.malDispatch_dispatched simCount
        { s with frames := (fd, r) :: s.frames, vendorCalls := 0 } r cmdAllocated pRI
      rw [hnext] at hcases
      cases hcases with
      | answered slots err hslots hearly =>
          exact Or.inl ⟨⟨_, rfl, rfl, fits_nil⟩, hpc⟩
      | refused hfree => exact Or.inl ⟨⟨_, rfl, rfl, fits_nil⟩, hpc⟩
      | aborted => exact Or.inr ⟨rfl, Or.inl rfl⟩
      | started i cmd t routing =>
          refine Or.inr ⟨rfl, Or.inr ⟨_, rfl, rfl, ?_⟩⟩
          simp [Dispatch.Running.start]

/-- A running `malDispatch` answers in one of its steps, and returns in the one behind it. -/
theorem advance_answers (htexts : TextsFit s) {d : Dispatch.Running} {expired : Bool}
    (hpc : s.pc = .running d) (hs : Dispatch.Advanced s d expired s') :
    (AnswersOne s s' d.frame ∧ d.stage ≠ .release ∧
        ∃ d', s'.pc = .running d' ∧ d'.frame = d.frame ∧ d'.stage = .release) ∨
      (s'.answers = s.answers ∧ ((d.stage = .release ∧ s'.pc = .idle) ∨
        (d.stage ≠ .release ∧
          ∃ d', s'.pc = .running d' ∧ d'.frame = d.frame ∧ d'.stage ≠ .release))) := by
  have hfits := htexts.running d hpc
  cases hs with
  | sent hstage =>
      exact Or.inl ⟨⟨_, rfl, rfl, hfits⟩, by simp [hstage], _, rfl, rfl, rfl⟩
  | released hstage tokens => exact Or.inr ⟨rfl, Or.inl ⟨hstage, rfl⟩⟩
  | reset hstage => exact Or.inr ⟨rfl, Or.inr ⟨by simp [hstage], _, rfl, rfl, by simp⟩⟩
  | call hstage => exact Or.inr ⟨rfl, Or.inr ⟨by simp [hstage], _, rfl, rfl, by simp⟩⟩
  | inVendor hstage => exact Or.inr ⟨rfl, Or.inr ⟨by simp [hstage], _, rfl, rfl, by simp⟩⟩
  | ended hstage => exact Or.inr ⟨rfl, Or.inr ⟨by simp [hstage], _, rfl, rfl, by simp⟩⟩
  | retried hstage => exact Or.inr ⟨rfl, Or.inr ⟨by simp [hstage], _, rfl, rfl, by simp⟩⟩
  | slept hstage => exact Or.inr ⟨rfl, Or.inr ⟨by simp [hstage], _, rfl, rfl, by simp⟩⟩
  | collected hstage => exact Or.inr ⟨rfl, Or.inr ⟨by simp [hstage], _, rfl, rfl, by simp⟩⟩

/-- The vendor's side sends nothing. -/
theorem vendor_answers {e : Dispatch.Event}
    (he : (∃ t err response allocated, e = .complete t err response allocated) ∨
      ∃ k, e = .deliver k)
    (hs : Dispatch.step simCount s e = some s') : s'.pc = s.pc := by
  cases Dispatch.step_transition hs with
  | complete t err response allocated =>
      unfold Dispatch.State.complete
      split <;> rfl
  | deliver k x => rfl
  | accept | disconnect | frame | advance => simp at he

end Server

/-! ## What holds in every run -/

/-- What a run keeps: the texts fit, and what was read is answered as far as it has to be. -/
structure State.Kept (s : State) : Prop where
  texts : TextsFit s.server
  closed : ∀ c ∈ s.closed, serveConnection c.opened = c.requests ∧ c.Sent c.requests
  current : ∀ c, s.connection = some c →
    serveConnection c.opened = c.requests ++ serveConnection c.stream ∧ c.Sent (s.due c)
  busy : ∀ c d, s.connection = some c → s.server.pc = .running d →
    ∃ before, c.requests = before ++ [d.frame]

theorem kept_init : State.init.Kept where
  texts := textsFit_init
  closed := fun _ hc => absurd hc List.not_mem_nil
  current := fun _ hc => nomatch hc
  busy := fun _ _ hc => nomatch hc

theorem State.Kept.served {s : State} (h : s.Kept) : s.Served where
  closed := fun c hc => ⟨(h.closed c hc).1, (h.closed c hc).2.answered⟩
  current := fun c hc => ⟨(h.current c hc).1, (h.current c hc).2.answered⟩

section Step

variable {simCount sizeT : ℕ} {s s' : State}

/-- The server goes on without an answer. -/
theorem serve_silent {c : Connection} {x : Sending} {server : Dispatch.State}
    (h : server.answers = s.server.answers) (hs : s.serve sizeT c x server = some s') :
    s' = { s with server := server, connection := some c } := by
  unfold State.serve at hs
  rw [h, if_neg (Nat.lt_irrefl _)] at hs
  exact (Option.some.inj hs).symm

/-- The server sends an answer for the request `r`. -/
theorem serve_answers (hsize : 2 ^ 32 ≤ sizeT) {c : Connection} {x : Sending}
    {server : Dispatch.State} {r : MalRequest} {due : List MalRequest} (hc : c.Sent due)
    (h : AnswersOne s.server server r) (hs : s.serve sizeT c x server = some s') :
    ∃ c', s' = { s with server := server, connection := some c' } ∧ c'.Sent (due ++ [r]) ∧
      c'.opened = c.opened ∧ c'.stream = c.stream ∧ c'.requests = c.requests := by
  obtain ⟨a, hanswers, hr, hfits⟩ := h
  unfold State.serve at hs
  rw [hanswers, List.length_cons, if_pos (Nat.lt_succ_self _)] at hs
  simp only [Option.map_eq_some_iff] at hs
  obtain ⟨c', hsend, rfl⟩ := hs
  exact ⟨c', rfl, send_sent hsize hfits hr hc hsend⟩

/-- The next turn of the inner loop. -/
theorem frame_kept (hsize : 2 ^ 32 ≤ sizeT) (h : s.Kept) {cmdAllocated : Bool} {pRI : Option ℕ}
    {x : Sending} (hs : step simCount sizeT s (.frame cmdAllocated pRI x) = some s') :
    s'.Kept := by
  rw [step] at hs
  split at hs
  · exact nomatch hs
  · rename_i c hconnection
    obtain ⟨hreads, hsent⟩ := h.current c hconnection
    split at hs
    · rename_i hleft
      rw [Option.map_eq_some_iff] at hs
      obtain ⟨server, hserver, rfl⟩ := hs
      refine ⟨dispatch_textsFit h.texts (by simp) hserver, fun c' hc' => ?_,
        by simp, by simp⟩
      rcases List.mem_cons.1 hc' with rfl | hc'
      · -- the loop is left between two frames
        cases Dispatch.step_transition hserver with
        | disconnect hidle =>
            rw [State.due, hidle] at hsent
            rw [serveConnection_none hleft, List.append_nil] at hreads
            exact ⟨hreads, hsent⟩
      · exact h.closed c' hc'
    · rename_i r stream hread
      rw [Option.bind_eq_some_iff] at hs
      obtain ⟨server, hserver, hserve⟩ := hs
      have htexts := dispatch_textsFit h.texts (by simp) hserver
      obtain ⟨hidle, hcases⟩ := frame_answers hserver
      rw [State.due, hidle] at hsent
      rw [serveConnection_some hread] at hreads
      have hreads' : serveConnection c.opened = (c.requests ++ [r]) ++ serveConnection stream := by
        rw [hreads, List.append_assoc, List.singleton_append]
      have hkeeps : ({ c with stream := stream, requests := c.requests ++ [r] } :
          Connection).Sent c.requests := hsent
      rcases hcases with ⟨hanswers, hidle'⟩ | ⟨hsilent, hbusy⟩
      · obtain ⟨c', rfl, hsent', hopened, hstream, hrequests⟩ :=
          serve_answers hsize hkeeps hanswers hserve
        refine ⟨htexts, h.closed, fun c'' hc'' => ?_, fun c'' d hc'' hd => ?_⟩
        · cases hc''
          refine ⟨?_, ?_⟩
          · rw [hopened, hstream, hrequests]
            exact hreads'
          · rw [State.due, hidle', hrequests]
            exact hsent'
        · rw [hidle'] at hd
          exact nomatch hd
      · rw [serve_silent hsilent hserve]
        refine ⟨htexts, h.closed, fun c'' hc'' => ?_, fun c'' d hc'' hd => ?_⟩
        · cases hc''
          refine ⟨hreads', ?_⟩
          -- the frame in hand does not have to be answered yet
          rcases hbusy with habort | ⟨d, hd, -, hstage⟩
          · rw [State.due, habort, List.dropLast_concat]
            exact hkeeps
          · rw [State.due, hd]
            simp only [if_neg hstage, List.dropLast_concat]
            exact hkeeps
        · cases hc''
          rcases hbusy with habort | ⟨d', hd', hframe, -⟩
          · rw [habort] at hd
            exact nomatch hd
          · cases hd'.symm.trans hd
            exact ⟨c.requests, by rw [hframe]⟩

/-- The next step of `malDispatch`. -/
theorem advance_kept (hsize : 2 ^ 32 ≤ sizeT) (h : s.Kept) {expired : Bool} {x : Sending}
    (hs : step simCount sizeT s (.advance expired x) = some s') : s'.Kept := by
  rw [step] at hs
  split at hs
  · exact nomatch hs
  · rename_i c hconnection
    obtain ⟨hreads, hsent⟩ := h.current c hconnection
    rw [Option.bind_eq_some_iff] at hs
    obtain ⟨server, hserver, hserve⟩ := hs
    have htexts := dispatch_textsFit h.texts (by simp) hserver
    cases Dispatch.step_transition hserver with
    | advance d _ _ hpc hadvanced =>
        obtain ⟨before, hbefore⟩ := h.busy c d hconnection hpc
        rw [State.due, hpc] at hsent
        rcases advance_answers h.texts hpc hadvanced with
          ⟨hanswers, hstage, d', hd', hframe, hstage'⟩ | ⟨hsilent, hnext⟩
        · simp only [if_neg hstage, hbefore, List.dropLast_concat] at hsent
          obtain ⟨c', rfl, hsent', hopened, hstream, hrequests⟩ :=
            serve_answers hsize hsent hanswers hserve
          refine ⟨htexts, h.closed, fun c'' hc'' => ?_, fun c'' d'' hc'' hd'' => ?_⟩
          · cases hc''
            refine ⟨?_, ?_⟩
            · rw [hopened, hstream, hrequests]
              exact hreads
            · rw [State.due, hd']
              simp only [if_pos hstage', hrequests, hbefore]
              exact hsent'
          · cases hc''
            cases hd'.symm.trans hd''
            exact ⟨before, by rw [hrequests, hbefore, hframe]⟩
        · rw [serve_silent hsilent hserve]
          refine ⟨htexts, h.closed, fun c'' hc'' => ?_, fun c'' d'' hc'' hd'' => ?_⟩
          · cases hc''
            refine ⟨hreads, ?_⟩
            rcases hnext with ⟨hstage, hidle⟩ | ⟨hstage, d', hd', -, hstage'⟩
            · rw [State.due, hidle]
              simpa only [if_pos hstage] using hsent
            · rw [State.due, hd']
              simpa only [if_neg hstage, if_neg hstage'] using hsent
          · cases hc''
            rcases hnext with ⟨-, hidle⟩ | ⟨-, d', hd', hframe, -⟩
            · rw [hidle] at hd''
              exact nomatch hd''
            · cases hd'.symm.trans hd''
              exact ⟨before, by rw [hbefore, hframe]⟩

/-- The vendor's side leaves the connections alone. -/
theorem State.Kept.vendor (h : s.Kept) {server : Dispatch.State} (htexts : TextsFit server)
    (hpc : server.pc = s.server.pc) : State.Kept { s with server := server } := by
  refine ⟨htexts, h.closed, fun c hc => ⟨(h.current c hc).1, ?_⟩, fun c d hc hd => ?_⟩
  · rw [State.due, hpc]
    exact (h.current c hc).2
  · exact h.busy c d hc (hpc ▸ hd)

/-- **One step.** -/
theorem step_kept (hsize : 2 ^ 32 ≤ sizeT) (h : s.Kept) {e : Event} (he : e.ResponseFits)
    (hs : step simCount sizeT s e = some s') : s'.Kept := by
  cases e with
  | accept fd opened =>
      rw [step, Option.map_eq_some_iff] at hs
      obtain ⟨server, hserver, rfl⟩ := hs
      have htexts := dispatch_textsFit h.texts (by simp) hserver
      cases Dispatch.step_transition hserver with
      | accept _ hidle =>
          refine ⟨htexts, h.closed, fun c hc => ?_, fun c d hc hd => ?_⟩
          · cases hc
            refine ⟨rfl, ?_⟩
            rw [State.due]
            simp only [hidle]
            exact sent_new opened
          · simp only [hidle] at hd
            exact nomatch hd
  | frame cmdAllocated pRI x => exact frame_kept hsize h hs
  | advance expired x => exact advance_kept hsize h hs
  | complete t err response allocated =>
      rw [step, Option.map_eq_some_iff] at hs
      obtain ⟨server, hserver, rfl⟩ := hs
      apply h.vendor (dispatch_textsFit h.texts _ hserver)
      · exact vendor_answers (Or.inl ⟨t, err, response, allocated, rfl⟩) hserver
      · intro t' err' response' allocated' heq
        cases heq
        exact he
  | deliver k =>
      rw [step, Option.map_eq_some_iff] at hs
      obtain ⟨server, hserver, rfl⟩ := hs
      exact h.vendor (dispatch_textsFit h.texts (by simp) hserver)
        (vendor_answers (Or.inr ⟨k, rfl⟩) hserver)

end Step

/-! ## Main result -/

/-- A client sends an AT command in two pieces, gets its answer in two pieces, and is gone. -/
def atCommandServed : List Event :=
  [.accept 5 [.data 0 [0, 0, 26, 4, 0, 0, 0, 0, 0, 0, 0, 58, 8, 0, 0, 7],
      .data 0 [0, 0, 0, 0, 0, 0, 2, 0, 0, 0, 65, 84]],
    .frame true (some 1) ⟨true, []⟩, .advance false ⟨true, []⟩, .advance false ⟨true, []⟩,
    .complete 1 0 (some [79, 75]) true, .advance false ⟨true, []⟩, .deliver 0,
    .advance false ⟨true, []⟩, .advance false ⟨true, []⟩,
    .advance false ⟨true, [.took 20, .interrupted, .took 14]⟩, .advance false ⟨true, []⟩,
    .frame true none ⟨true, []⟩]

end Mal.Session
