/-
# Bounds of the frame parsing on the MAL socket

`malServerLoop` and `malDispatch` combine three words that the client chooses: the length of
a frame, of its header and of its command.  Here they are taken apart as the code does it, in
words of 32 bits, with every read, write and length checked.

* `takeFrame`, `takeCommand` : the checked parsing of a frame and of an AT command;
* `takeFrame_eq`, `takeCommand_eq` : no check fails, and what is found is what `parseBody` and
  `commandOf` find;
* `malServerLoop_inBounds` : no check fails over any sequence of connections.
-/
import Ct07.Lib.CheckedMemory
import Ct07.Mal.Dispatch

open ByteStream CheckedMemory Word Mal.Dispatch

namespace Mal.FrameBounds

/-! ## Checked parsing -/

/-- `malGetLE(body + off)` -/
def readWord (body : List UInt8) (off : ℕ) : Except Fault UInt32 :=
  (malGetLE body off).mapError fun _ => .read

/-- The arguments of `malDispatch`.  The payload is a place in the frame body. -/
structure DispatchArgs where
  simId : UInt32
  requestId : UInt32
  serial : UInt32
  payload : ℕ
  payloadLen : UInt32
  deriving DecidableEq

/-- What `malServerLoop` takes out of a frame body; `none` when it leaves its loop. -/
def takeFrame (body : List UInt8) (bodyLen : UInt32) : Except Fault (Option DispatchArgs) := do
  let hdrLen ← readWord body 0
  if bodyLen < hdrLen then return none
  else
    let behind ← sub bodyLen hdrLen
    if behind < 12 then return none
    else
      let simId ← if 4 ≤ hdrLen then readWord body 4 else pure 0
      let requestId ← readWord body (4 + hdrLen.toNat)
      let serial ← readWord body (8 + hdrLen.toNat)
      let len ← sub bodyLen 12
      let payloadLen ← sub len hdrLen
      return some ⟨simId, requestId, serial, 12 + hdrLen.toNat, payloadLen⟩

/-- The command that `malDispatch` copies, with its terminator; `none` when it fails the
request before.  `allocated` says whether there is memory for the copy. -/
def takeCommand (allocated : Bool) (body : List UInt8) (args : DispatchArgs) :
    Except Fault (Option Block) :=
  if args.requestId ≠ rilRequestAtCommandWithProxy then return none
  else if args.payloadLen < 8 then return none
  else do
    let _channel ← readWord body args.payload
    let cmdLen ← readWord body (args.payload + 4)
    let room ← sub args.payloadLen 8
    if room < cmdLen then return none
    else
      let size ← add cmdLen 1
      if allocated then
        let cmd ← slice body (args.payload + 8) cmdLen.toNat
        let copy ← write (malloc size.toNat) 0 cmd
        let copy ← write copy cmdLen.toNat [0]
        return some copy
      else return none

/-- The request as `malDispatch` sees it: `payloadLen` bytes of the frame, at `payload`. -/
def DispatchArgs.request (args : DispatchArgs) (body : List UInt8) : MalRequest :=
  ⟨args.simId, args.requestId, args.serial, (body.drop args.payload).take args.payloadLen.toNat⟩

/-- A request that was dispatched, with the copy of its command. -/
structure Dispatched where
  request : MalRequest
  cmd : Option Block
  deriving DecidableEq

/-- The length word, big endian, of the four bytes in front of a frame. -/
def lengthWord : List UInt8 → UInt32
  | [b0, b1, b2, b3] => getBE b0 b1 b2 b3
  | _ => 0

/-- One turn of the inner loop of `malServerLoop`, up to the copy of the command.  The buffer
has `MAL_MAX_FRAME` bytes. -/
def serveFrame (allocated : Bool) (s : Stream) : Except Fault (Option (Dispatched × Stream)) :=
  match malReadAll s 4 with
  | none => return none
  | some (lenBuf, s) =>
      let bodyLen := lengthWord lenBuf
      if bodyLen.toNat < malHeaderBytes ∨ malMaxFrame < bodyLen.toNat then return none
      else
        match malReadAll s bodyLen.toNat with
        | none => return none
        | some (body, s) => do
            let _buffer ← write (malloc malMaxFrame) 0 body
            match ← takeFrame body bodyLen with
            | none => return none
            | some args =>
                let cmd ← takeCommand allocated body args
                return some (⟨args.request body, cmd⟩, s)

/-! ## The words of a frame -/

theorem readWord_ok {body : List UInt8} {off : ℕ} {v : UInt32} (h : malGetLE body off = .ok v) :
    readWord body off = .ok v := by
  rw [readWord, h]
  rfl

/-- Four bytes inside of the frame are a word. -/
theorem malGetLE_inside {body : List UInt8} {off : ℕ} (h : off + 4 ≤ body.length) :
    ∃ v, malGetLE body off = .ok v := by
  have hlen : 4 ≤ (body.drop off).length := by
    rw [List.length_drop]
    omega
  unfold malGetLE
  match body.drop off, hlen with
  | b0 :: b1 :: b2 :: b3 :: rest, _ => exact ⟨getLE b0 b1 b2 b3, rfl⟩

/-- A place in the payload is a place in the frame. -/
theorem malGetLE_drop (body : List UInt8) (n off : ℕ) :
    malGetLE (body.drop n) off = malGetLE body (n + off) := by
  rw [malGetLE, malGetLE, List.drop_drop]

/-! ## A frame -/

/-- The payload of the arguments ends where the frame ends. -/
structure DispatchArgs.Fits (args : DispatchArgs) (body : List UInt8) : Prop where
  reaches : args.payload + args.payloadLen.toNat = body.length

theorem DispatchArgs.Fits.payload {args : DispatchArgs} {body : List UInt8} (h : args.Fits body) :
    (args.request body).payload = body.drop args.payload := by
  show (body.drop args.payload).take args.payloadLen.toNat = _
  apply List.take_of_length_le
  have := h.reaches
  rw [List.length_drop]
  omega

/-- A frame whose header does not leave room for two more words is refused. -/
theorem takeFrame_refused {body : List UInt8} {bodyLen hdrLen : UInt32}
    (hlen : bodyLen.toNat = body.length) (hhdr : malGetLE body 0 = .ok hdrLen)
    (hfits : body.length < hdrLen.toNat + 12) :
    parseBody body = .error .headerDoesNotFit ∧ takeFrame body bodyLen = .ok none := by
  constructor
  · have hrefused : body.length < hdrLen.toNat ∨ body.length - hdrLen.toNat < 12 := by omega
    simp only [parseBody, hhdr, bind, Except.bind, if_pos hrefused]
  · by_cases hlt : bodyLen < hdrLen
    · simp only [takeFrame, readWord_ok hhdr, bind, Except.bind, if_pos hlt]
      rfl
    · -- the header is inside, but what is behind it is too short
      rw [UInt32.lt_iff_toNat_lt] at hlt
      obtain ⟨hbehind, hbehindNat⟩ := sub_eq (Nat.not_lt.1 hlt)
      have hshort : bodyLen - hdrLen < 12 := by
        rw [UInt32.lt_iff_toNat_lt, hbehindNat]
        show bodyLen.toNat - hdrLen.toNat < 12
        omega
      rw [← UInt32.lt_iff_toNat_lt] at hlt
      simp only [takeFrame, readWord_ok hhdr, bind, Except.bind, if_neg hlt, hbehind,
        if_pos hshort]
      rfl

/-- The lengths of a frame whose header leaves room for two more words. -/
theorem lengths_eq {bodyLen hdrLen : UInt32} (hfits : hdrLen.toNat + 12 ≤ bodyLen.toNat) :
    ¬ bodyLen < hdrLen ∧ sub bodyLen hdrLen = .ok (bodyLen - hdrLen) ∧
      ¬ bodyLen - hdrLen < 12 ∧ sub bodyLen 12 = .ok (bodyLen - 12) ∧
      sub (bodyLen - 12) hdrLen = .ok (bodyLen - 12 - hdrLen) ∧
      12 + hdrLen.toNat + (bodyLen - 12 - hdrLen).toNat = bodyLen.toNat := by
  have hhdr : hdrLen.toNat ≤ bodyLen.toNat := by omega
  have htwelve : (12 : UInt32).toNat ≤ bodyLen.toNat := by
    show 12 ≤ bodyLen.toNat
    omega
  obtain ⟨hbehind, hbehindNat⟩ := sub_eq hhdr
  obtain ⟨hlen, hlenNat⟩ := sub_eq htwelve
  have hrest : hdrLen.toNat ≤ (bodyLen - 12).toNat := by
    rw [hlenNat]
    show hdrLen.toNat ≤ bodyLen.toNat - 12
    omega
  obtain ⟨hpayload, hpayloadNat⟩ := sub_eq hrest
  refine ⟨?_, hbehind, ?_, hlen, hpayload, ?_⟩
  · rw [UInt32.lt_iff_toNat_lt]
    omega
  · rw [UInt32.lt_iff_toNat_lt, hbehindNat]
    show ¬ bodyLen.toNat - hdrLen.toNat < 12
    omega
  · rw [hpayloadNat, hlenNat]
    show 12 + hdrLen.toNat + (bodyLen.toNat - 12 - hdrLen.toNat) = bodyLen.toNat
    omega

/-- The SIM id is read when the header has room for it. -/
theorem simId_inside {body : List UInt8} (hdrLen : UInt32) (h : 4 + 4 ≤ body.length) :
    ∃ simId, (4 ≤ hdrLen ∧ 4 ≤ hdrLen.toNat ∧ malGetLE body 4 = .ok simId) ∨
      (¬ 4 ≤ hdrLen ∧ ¬ 4 ≤ hdrLen.toNat ∧ simId = 0) := by
  obtain ⟨simId, hsimId⟩ := malGetLE_inside h
  by_cases hfour : 4 ≤ hdrLen
  · exact ⟨simId, Or.inl ⟨hfour, UInt32.le_iff_toNat_le.1 hfour, hsimId⟩⟩
  · exact ⟨0, Or.inr ⟨hfour, fun hle => hfour (UInt32.le_iff_toNat_le.2 hle), rfl⟩⟩

/-- A frame whose header leaves room for two more words is taken apart. -/
theorem takeFrame_fits {body : List UInt8} {bodyLen hdrLen : UInt32}
    (hlen : bodyLen.toNat = body.length) (hhdr : malGetLE body 0 = .ok hdrLen)
    (hmin : 16 ≤ body.length) (hfits : hdrLen.toNat + 12 ≤ body.length) :
    ∃ args : DispatchArgs, args.Fits body ∧ parseBody body = .ok (args.request body) ∧
      takeFrame body bodyLen = .ok (some args) := by
  have hsimInside : 4 + 4 ≤ body.length := by omega
  have hrequestInside : 4 + hdrLen.toNat + 4 ≤ body.length := by omega
  have hserialInside : 8 + hdrLen.toNat + 4 ≤ body.length := by omega
  obtain ⟨simId, hsimId⟩ := simId_inside hdrLen hsimInside
  obtain ⟨requestId, hrequest⟩ := malGetLE_inside hrequestInside
  obtain ⟨serial, hserial⟩ := malGetLE_inside hserialInside
  obtain ⟨hlt, hbehind, hroom, hlen12, hpayload, hreaches⟩ := lengths_eq (hlen ▸ hfits)
  have hargs : DispatchArgs.Fits
      ⟨simId, requestId, serial, 12 + hdrLen.toNat, bodyLen - 12 - hdrLen⟩ body :=
    ⟨hreaches.trans hlen⟩
  refine ⟨_, hargs, ?_, ?_⟩
  · have hrefused : ¬ (body.length < hdrLen.toNat ∨ body.length - hdrLen.toNat < 12) := by omega
    have hparsed : parseBody body =
        .ok ⟨simId, requestId, serial, body.drop (12 + hdrLen.toNat)⟩ := by
      rcases hsimId with ⟨-, hfour, hsimId⟩ | ⟨-, hfour, rfl⟩
      · simp only [parseBody, hhdr, bind, Except.bind, if_neg hrefused, if_pos hfour, hsimId,
          hrequest, hserial]
      · simp only [parseBody, hhdr, bind, Except.bind, if_neg hrefused, if_neg hfour,
          hrequest, hserial]
    rw [hparsed]
    exact congrArg (Except.ok ∘ MalRequest.mk simId requestId serial) hargs.payload.symm
  · rcases hsimId with ⟨hfour, -, hsimId⟩ | ⟨hfour, -, rfl⟩
    · simp only [takeFrame, readWord_ok hhdr, bind, Except.bind, if_neg hlt, hbehind,
        if_neg hroom, if_pos hfour, readWord_ok hsimId, readWord_ok hrequest,
        readWord_ok hserial, hlen12, hpayload]
      rfl
    · simp only [takeFrame, readWord_ok hhdr, bind, Except.bind, if_neg hlt, hbehind,
        if_neg hroom, if_neg hfour, readWord_ok hrequest, readWord_ok hserial, hlen12, hpayload]
      rfl

/-- **Taking a frame apart.**  No check fails, and the result is that of `parseBody`. -/
theorem takeFrame_eq {body : List UInt8} {bodyLen : UInt32} (hlen : bodyLen.toNat = body.length)
    (hmin : malHeaderBytes ≤ body.length) :
    (∃ err, parseBody body = .error err ∧ takeFrame body bodyLen = .ok none) ∨
      ∃ args : DispatchArgs, args.Fits body ∧ parseBody body = .ok (args.request body) ∧
        takeFrame body bodyLen = .ok (some args) := by
  rw [malHeaderBytes] at hmin
  have hfirst : 0 + 4 ≤ body.length := by omega
  obtain ⟨hdrLen, hhdr⟩ := malGetLE_inside hfirst
  by_cases hfits : hdrLen.toNat + 12 ≤ body.length
  · exact Or.inr (takeFrame_fits hlen hhdr hmin hfits)
  · exact Or.inl ⟨_, takeFrame_refused hlen hhdr (Nat.not_le.1 hfits)⟩

/-! ## The command -/

/-- The copy of a command, with its terminator. -/
def commandCopy (allocated : Bool) (r : MalRequest) : Option Block :=
  if allocated then (commandOf r).map fun cmd => (cmd ++ [0]).map some else none

theorem commandCopy_none {allocated : Bool} {r : MalRequest} (h : commandOf r = none) :
    commandCopy allocated r = none := by
  rw [commandCopy, h]
  cases allocated <;> rfl

/-- A command is copied into a block that has room for one byte more. -/
theorem copy_command (cmd : List UInt8) {cmdLen size : ℕ} (hlen : cmd.length = cmdLen)
    (hsize : size = cmdLen + 1) :
    (do let copy ← write (malloc size) 0 cmd
        let copy ← write copy cmdLen [0]
        return some copy) = Except.ok (some ((cmd ++ [0]).map some)) := by
  subst hlen hsize
  rw [write_malloc (Nat.le_add_right _ 1), Nat.add_sub_cancel_left]
  simp only [bind, Except.bind]
  rw [write_next cmd [0] rfl (Nat.le_refl 1)]
  show Except.ok (some (filled (cmd ++ [0]) 0)) = _
  rw [filled_zero]

section Command

variable {body : List UInt8} {args : DispatchArgs} (h : args.Fits body)

include h

theorem DispatchArgs.Fits.length_payload :
    (args.request body).payload.length = args.payloadLen.toNat := by
  have hreaches := h.reaches
  rw [h.payload, List.length_drop]
  omega

/-- A request without a command. -/
theorem takeCommand_early (allocated : Bool)
    (hearly : args.requestId ≠ rilRequestAtCommandWithProxy ∨ args.payloadLen < 8) :
    commandOf (args.request body) = none ∧ takeCommand allocated body args = .ok none := by
  by_cases hid : args.requestId ≠ rilRequestAtCommandWithProxy
  · constructor
    · exact if_pos hid
    · exact if_pos hid
  · have hshort := hearly.resolve_left hid
    have hshort' : (args.request body).payload.length < 8 := by
      rw [h.length_payload]
      exact UInt32.lt_iff_toNat_lt.1 hshort
    constructor
    · have hid' : ¬ (args.request body).requestId ≠ rilRequestAtCommandWithProxy := hid
      rw [commandOf, if_neg hid', if_pos hshort']
    · rw [takeCommand, if_neg hid, if_pos hshort]
      rfl

/-- The command behind the channel and its length. -/
theorem commandOf_request (hid : args.requestId = rilRequestAtCommandWithProxy)
    (hlong : 8 ≤ args.payloadLen.toNat) {cmdLen : UInt32}
    (hcmdLen : malGetLE body (args.payload + 4) = .ok cmdLen) :
    commandOf (args.request body) =
      if args.payloadLen.toNat - 8 < cmdLen.toNat then none
      else some ((body.drop (args.payload + 8)).take cmdLen.toNat) := by
  have hid' : ¬ (args.request body).requestId ≠ rilRequestAtCommandWithProxy := not_not.2 hid
  have hlong' : ¬ (args.request body).payload.length < 8 := by
    rw [h.length_payload]
    omega
  rw [commandOf, if_neg hid', if_neg hlong', h.length_payload, h.payload, malGetLE_drop, hcmdLen,
    List.drop_drop]

/-- A command that is said to be longer than the payload is refused, and any other is copied. -/
theorem takeCommand_long (allocated : Bool) (hid : args.requestId = rilRequestAtCommandWithProxy)
    (hlong : 8 ≤ args.payloadLen.toNat) :
    takeCommand allocated body args = .ok (commandCopy allocated (args.request body)) := by
  have hreaches := h.reaches
  have hchannelInside : args.payload + 4 ≤ body.length := by omega
  have hcmdLenInside : args.payload + 4 + 4 ≤ body.length := by omega
  obtain ⟨channel, hchannel⟩ := malGetLE_inside hchannelInside
  obtain ⟨cmdLen, hcmdLen⟩ := malGetLE_inside hcmdLenInside
  have hcommand := commandOf_request h hid hlong hcmdLen
  obtain ⟨hroom, hroomNat⟩ := sub_eq (a := args.payloadLen) (b := 8) hlong
  change _ = args.payloadLen.toNat - 8 at hroomNat
  have hshort : ¬ args.payloadLen < 8 := fun hlt =>
    absurd (UInt32.lt_iff_toNat_lt.1 hlt) (Nat.not_lt.2 hlong)
  rw [takeCommand, if_neg (not_not.2 hid), if_neg hshort]
  simp only [readWord_ok hchannel, readWord_ok hcmdLen, hroom, bind, Except.bind]
  have hlonger : args.payloadLen - 8 < cmdLen ↔ args.payloadLen.toNat - 8 < cmdLen.toNat := by
    rw [UInt32.lt_iff_toNat_lt, hroomNat]
  by_cases hlt : args.payloadLen - 8 < cmdLen
  · rw [if_pos hlt, commandCopy_none (hcommand.trans (if_pos (hlonger.1 hlt)))]
    rfl
  · have hle : cmdLen.toNat ≤ args.payloadLen.toNat - 8 :=
      Nat.not_lt.1 fun hgt => hlt (hlonger.2 hgt)
    -- the payload is a part of the frame, so the size of the copy does not wrap
    have hsize : cmdLen.toNat + (1 : UInt32).toNat < 2 ^ 32 := by
      have := args.payloadLen.toNat_lt
      show cmdLen.toNat + 1 < 2 ^ 32
      omega
    obtain ⟨hadd, haddNat⟩ := add_eq hsize
    have hinside : args.payload + 8 + cmdLen.toNat ≤ body.length := by omega
    rw [if_neg hlt, hadd, commandCopy, hcommand, if_neg (Nat.not_lt.2 hle)]
    cases allocated with
    | false => rfl
    | true =>
        simp only [if_true, slice_eq hinside]
        have hcmd : ((body.drop (args.payload + 8)).take cmdLen.toNat).length = cmdLen.toNat := by
          rw [List.length_take, List.length_drop]
          omega
        exact copy_command _ hcmd haddNat

/-- **Taking the command.**  No check fails, the copy fits with its terminator, and it is the
command that `commandOf` finds. -/
theorem takeCommand_eq (allocated : Bool) :
    takeCommand allocated body args = .ok (commandCopy allocated (args.request body)) := by
  by_cases hearly : args.requestId ≠ rilRequestAtCommandWithProxy ∨ args.payloadLen < 8
  · obtain ⟨hnone, htaken⟩ := takeCommand_early h allocated hearly
    rw [htaken, commandCopy_none hnone]
  · obtain ⟨hid, hshort⟩ := not_or.1 hearly
    have hlong : 8 ≤ args.payloadLen.toNat := Nat.not_lt.1 fun hlt =>
      hshort (UInt32.lt_iff_toNat_lt.2 hlt)
    exact takeCommand_long h allocated (not_not.1 hid) hlong

end Command

/-! ## The server loop -/

/-- Four bytes are a length word. -/
theorem bodyLength_eq {lenBuf : List UInt8} (h : lenBuf.length = 4) :
    bodyLength lenBuf = some (lengthWord lenBuf).toNat := by
  match lenBuf, h with
  | [b0, b1, b2, b3], _ => rfl

/-- **One frame.**  No check fails, and what is dispatched is what `readFrame` finds. -/
theorem serveFrame_eq (allocated : Bool) (s : Stream) :
    serveFrame allocated s = .ok ((readFrame s).map fun p =>
      (⟨p.1, commandCopy allocated p.1⟩, p.2)) := by
  unfold serveFrame readFrame
  cases hword : malReadAll s 4 with
  | none => rfl
  | some p =>
      obtain ⟨lenBuf, s₁⟩ := p
      obtain ⟨-, hfour⟩ := malReadAll_bytes hword
      simp only [Option.bind_eq_bind, Option.bind_some, bodyLength_eq hfour]
      by_cases hrange : (lengthWord lenBuf).toNat < malHeaderBytes ∨
          malMaxFrame < (lengthWord lenBuf).toNat
      · rw [if_pos hrange, if_pos hrange]
        rfl
      · rw [if_neg hrange, if_neg hrange]
        cases hbody : malReadAll s₁ (lengthWord lenBuf).toNat with
        | none => rfl
        | some p =>
            obtain ⟨body, s₂⟩ := p
            obtain ⟨-, hlen⟩ := malReadAll_bytes hbody
            obtain ⟨hmin, hmax⟩ := not_or.1 hrange
            rw [← hlen] at hmin hmax
            simp only [Option.bind_some, write_malloc (Nat.not_lt.1 hmax), bind, Except.bind]
            rcases takeFrame_eq hlen.symm (Nat.not_lt.1 hmin) with
              ⟨err, hparsed, htaken⟩ | ⟨args, hfits, hparsed, htaken⟩
            · rw [hparsed, htaken]
              rfl
            · rw [hparsed, htaken]
              simp only [takeCommand_eq hfits allocated]
              rfl

/-- Each frame takes its length word, at least, off the stream. -/
theorem serveFrame_shorter {allocated : Bool} {s s' : Stream} {d : Dispatched}
    (h : serveFrame allocated s = .ok (some (d, s'))) : (bytes s').length < (bytes s).length := by
  rw [serveFrame_eq, Except.ok.injEq, Option.map_eq_some_iff] at h
  obtain ⟨p, hread, heq⟩ := h
  cases heq
  exact readFrame_shorter hread

/-- The inner loop of `malServerLoop`.  `allocated` says for each frame of the connection
whether there is memory for the copy of its command. -/
def serveFrames (allocated : ℕ → Bool) (s : Stream) : Except Fault (List Dispatched) :=
  match _h : serveFrame (allocated 0) s with
  | .error fault => .error fault
  | .ok none => .ok []
  | .ok (some (d, s')) => (serveFrames (fun i => allocated (i + 1)) s').map (d :: ·)
termination_by (bytes s).length
decreasing_by exact serveFrame_shorter _h

/-- `malServerLoop`, with every access checked.  `none` is a failed `accept`. -/
def serve (allocated : ℕ → ℕ → Bool) :
    List (Option Stream) → Except Fault (List (List Dispatched))
  | [] => .ok []
  | none :: rest => serve allocated rest
  | some s :: rest => do
      let dispatched ← serveFrames (allocated 0) s
      let more ← serve (fun c => allocated (c + 1)) rest
      return dispatched :: more

/-- What is dispatched for the requests of a connection. -/
def dispatchedOf (allocated : ℕ → Bool) (rs : List MalRequest) : List Dispatched :=
  rs.mapIdx fun i r => ⟨r, commandCopy (allocated i) r⟩

theorem serveFrames_none {allocated : ℕ → Bool} {s : Stream} (h : readFrame s = none) :
    serveFrames allocated s = .ok [] := by
  have hframe := serveFrame_eq (allocated 0) s
  rw [h] at hframe
  rw [serveFrames]
  split <;> simp_all

theorem serveFrames_some {allocated : ℕ → Bool} {s s' : Stream} {r : MalRequest}
    (h : readFrame s = some (r, s')) :
    serveFrames allocated s = (serveFrames (fun i => allocated (i + 1)) s').map
      (⟨r, commandCopy (allocated 0) r⟩ :: ·) := by
  have hframe := serveFrame_eq (allocated 0) s
  rw [h] at hframe
  rw [serveFrames]
  split <;> simp_all

/-- The frames of one connection. -/
theorem serveFrames_eq (allocated : ℕ → Bool) (s : Stream) :
    serveFrames allocated s = .ok (dispatchedOf allocated (serveConnection s)) := by
  induction hn : (bytes s).length using Nat.strongRecOn generalizing allocated s with
  | _ n ih =>
      cases hread : readFrame s with
      | none =>
          rw [serveFrames_none hread, serveConnection_none hread]
          rfl
      | some p =>
          obtain ⟨r, s'⟩ := p
          have hshorter : (bytes s').length < n := hn ▸ readFrame_shorter hread
          rw [serveFrames_some hread, serveConnection_some hread, ih _ hshorter _ _ rfl,
            dispatchedOf, dispatchedOf, List.mapIdx_cons]
          rfl

/-- **MAL frames are read inside of their bounds.**  Over any sequence of connections and failed
accepts, whatever their clients send, no check fails, and what is dispatched are the requests of
`malServerLoop`, each with the copy of its command. -/
theorem malServerLoop_inBounds (allocated : ℕ → ℕ → Bool) (conns : List (Option Stream)) :
    serve allocated conns =
      .ok ((malServerLoop conns).mapIdx fun c => dispatchedOf (allocated c)) := by
  induction conns generalizing allocated with
  | nil => rfl
  | cons conn conns ih =>
      cases conn with
      | none => exact ih allocated
      | some s =>
          rw [serve, serveFrames_eq]
          simp only [bind, Except.bind, ih]
          rw [malServerLoop, List.mapIdx_cons]
          rfl

end Mal.FrameBounds
