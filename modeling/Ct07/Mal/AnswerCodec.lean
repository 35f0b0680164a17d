/-
# Answer frames on the MAL socket

`malSendFrame` writes an answer field by field into an allocated frame, in two byte orders, and
`malWriteAll` sends the frame with as many `write` calls as it takes.  The client reads a length
word and as many bytes behind it.

* `answerCodec` : the layout of an answer, and how a client takes it apart;
* `malSendFrame_eq` : what is sent is the answer in that layout, or a part when a `write` fails;
* `malAnswers_codec` : the answers sent one after another are the answers received.
-/
import Ct07.Lib.ByteStream
import Ct07.Lib.CheckedMemory
import Ct07.Lib.PrefixCodec
import Ct07.Lib.Word

open ByteStream CheckedMemory Word

namespace Mal.AnswerCodec

/-! ## Writing -/

/-- How a run of `malWriteAll` ends. -/
inductive WriteEnd where
  /-- all bytes are written -/
  | done
  /-- a `write` call failed -/
  | failed
  /-- bytes are left for the next `write` call -/
  | pending
  deriving DecidableEq, Repr

/-- `malWriteAll`: the bytes written, given what the `write` calls do. -/
def malWriteAll : List Acceptance → List UInt8 → List UInt8 × WriteEnd
  | _, [] => ([], .done)
  | [], _ => ([], .pending)
  | .interrupted :: calls, buf => malWriteAll calls buf
  | .failed :: _, _ => ([], .failed)
  | .took 0 :: _, _ => ([], .failed)
  | .took (n + 1) :: calls, buf =>
      let (written, ending) := malWriteAll calls (buf.drop (n + 1))
      (buf.take (n + 1) ++ written, ending)

/-- The frame that `malSendFrame` builds.  `size_t` has `sizeT` values. -/
def buildFrame (sizeT : ℕ) (simId serial err : UInt32) (text : List UInt8) :
    Except Fault Block := do
  let payloadLen := (4 + text.length) % sizeT
  let bodyLen := (24 + payloadLen) % sizeT
  let frame := malloc ((4 + bodyLen) % sizeT)
  let frame ← write frame 0 (putBE (UInt32.ofNat bodyLen))
  let frame ← write frame 4 (putLE 8)
  let frame ← write frame 8 (putLE 1)
  let frame ← write frame 12 (putLE simId)
  let frame ← write frame 16 (putLE 0)
  let frame ← write frame 20 (putLE serial)
  let frame ← write frame 24 (putLE err)
  let frame ← write frame 28 (putLE (UInt32.ofNat text.length))
  if 0 < text.length then write frame 32 text else return frame

/-- `malSendFrame`: the bytes written to the client.  `allocated` says whether there is memory
for the frame, and `connected` whether there is a client. -/
def malSendFrame (sizeT : ℕ) (allocated connected : Bool) (calls : List Acceptance)
    (simId serial err : UInt32) (text : List UInt8) : Except Fault (List UInt8) :=
  if allocated then do
    let frame ← buildFrame sizeT simId serial err text
    if connected then
      let bytes ← contents frame
      return (malWriteAll calls bytes).1
    else return []
  else return []

/-! ## The layout -/

/-- An answer.  Its length can be said in a length word. -/
structure Answer where
  simId : UInt32
  serial : UInt32
  err : UInt32
  text : List UInt8
  fits : text.length < 2 ^ 32 - 28
  deriving DecidableEq

/-- What is behind the length word. -/
def Answer.body (a : Answer) : List UInt8 :=
  putLE 8 ++ putLE 1 ++ putLE a.simId ++ putLE 0 ++ putLE a.serial ++ putLE a.err ++
    putLE (UInt32.ofNat a.text.length) ++ a.text

def Answer.encode (a : Answer) : List UInt8 := putBE (UInt32.ofNat a.body.length) ++ a.body

/-- The answer in the bytes behind a length word. -/
def decodeBody (body : List UInt8) : Option Answer := do
  let (headerLen, body) ← takeLE body
  let (flags, body) ← takeLE body
  let (simId, body) ← takeLE body
  let (type, body) ← takeLE body
  let (serial, body) ← takeLE body
  let (err, body) ← takeLE body
  let (_, text) ← takeLE body
  if headerLen = 8 ∧ flags = 1 ∧ type = 0 then
    if fits : text.length < 2 ^ 32 - 28 then some ⟨simId, serial, err, text, fits⟩ else none
  else none

/-- The answer at the front of a sequence of bytes, and what is behind it. -/
def decodeAnswer (bs : List UInt8) : Option (Answer × List UInt8) := do
  let (length, bs) ← takeBE bs
  if bs.length < length.toNat then none
  else
    let a ← decodeBody (bs.take length.toNat)
    some (a, bs.drop length.toNat)

theorem Answer.length_body (a : Answer) : a.body.length = 28 + a.text.length := by
  simp only [Answer.body, List.length_append, length_putLE]

/-- The length word of an answer is the number of bytes behind it. -/
theorem Answer.lengthWord_eq (a : Answer) :
    (UInt32.ofNat a.body.length).toNat = a.body.length := by
  have hfits := a.fits
  apply UInt32.toNat_ofNat_of_lt'
  rw [a.length_body]
  show 28 + a.text.length < 2 ^ 32
  omega

theorem decodeBody_body (a : Answer) : decodeBody a.body = some a := by
  simp only [decodeBody, Answer.body, List.append_assoc, takeLE_putLE, Option.bind_eq_bind,
    Option.bind_some, and_self, if_true, dif_pos a.fits]

/-- **One answer.**  Whatever follows an answer, it is read back. -/
theorem decodeAnswer_encode (a : Answer) (rest : List UInt8) :
    decodeAnswer (a.encode ++ rest) = some (a, rest) := by
  have hlength := a.lengthWord_eq
  have hinside : ¬ (a.body ++ rest).length < a.body.length := by
    rw [List.length_append]
    omega
  rw [decodeAnswer, Answer.encode, List.append_assoc, takeBE_putBE]
  simp only [Option.bind_eq_bind, Option.bind_some, hlength, if_neg hinside, List.take_left,
    List.drop_left, decodeBody_body]

theorem decodeAnswer_shorter {bs rest : List UInt8} {a : Answer}
    (h : decodeAnswer bs = some (a, rest)) : rest.length < bs.length := by
  simp only [decodeAnswer, Option.bind_eq_bind, Option.bind_eq_some_iff, Prod.exists] at h
  obtain ⟨length, behind, hword, h⟩ := h
  have hfour := length_takeBE hword
  split at h
  · exact absurd h (by simp)
  · obtain ⟨a', -, heq⟩ := Option.bind_eq_some_iff.1 h
    cases heq
    rw [List.length_drop]
    omega

/-- The layout of answers. -/
def answerCodec : PrefixCodec Answer UInt8 where
  encode := Answer.encode
  decode := decodeAnswer
  decode_encode := decodeAnswer_encode
  decode_shorter := decodeAnswer_shorter

/-! ## What is sent -/

section Words

variable {α : Type} (done : List UInt8) (v : UInt32) {off room : ℕ} (k : Block → Except Fault α)

/-- A word written behind what is there already. -/
theorem write_putLE_bind (hoff : off = done.length) :
    (write (filled done (room + 4)) off (putLE v) >>= k) = k (filled (done ++ putLE v) room) := by
  rw [write_next done (putLE v) hoff (Nat.le_add_left 4 room)]
  rfl

theorem write_putBE_bind (hoff : off = done.length) :
    (write (filled done (room + 4)) off (putBE v) >>= k) = k (filled (done ++ putBE v) room) := by
  rw [write_next done (putBE v) hoff (Nat.le_add_left 4 room)]
  rfl

end Words

/-- **The frame.**  It has room for all that is written into it, and is the answer in the
layout. -/
theorem buildFrame_eq {sizeT : ℕ} (a : Answer) (hsize : 32 + a.text.length < sizeT) :
    buildFrame sizeT a.simId a.serial a.err a.text = .ok (a.encode.map some) := by
  have hpayload : (4 + a.text.length) % sizeT = 4 + a.text.length :=
    Nat.mod_eq_of_lt (by omega)
  have hbody : (24 + (4 + a.text.length)) % sizeT = a.body.length := by
    rw [a.length_body, Nat.mod_eq_of_lt (by omega)]
    omega
  have hframe : (4 + a.body.length) % sizeT = a.text.length + 4 + 4 + 4 + 4 + 4 + 4 + 4 + 4 := by
    rw [a.length_body, Nat.mod_eq_of_lt (by omega)]
    omega
  have hencode : [] ++ putBE (UInt32.ofNat a.body.length) ++ putLE 8 ++ putLE 1 ++
      putLE a.simId ++ putLE 0 ++ putLE a.serial ++ putLE a.err ++
      putLE (UInt32.ofNat a.text.length) ++ a.text = a.encode := by
    simp only [Answer.encode, Answer.body, List.append_assoc, List.nil_append]
  -- the eight words go behind one another, and the text behind them
  rw [buildFrame, hpayload, hbody, hframe, malloc_eq_filled, write_putBE_bind, write_putLE_bind,
    write_putLE_bind, write_putLE_bind, write_putLE_bind, write_putLE_bind, write_putLE_bind,
    write_putLE_bind]
  · by_cases htext : 0 < a.text.length
    · rw [if_pos htext, write_next _ a.text (by rfl) (Nat.le_refl _), hencode, Nat.sub_self,
        filled_zero]
    · have hempty : a.text.length = 0 := by omega
      rw [if_neg htext, hempty, filled_zero, ← hencode, List.length_eq_zero_iff.1 hempty,
        List.append_nil]
      rfl
  all_goals rfl

/-- `malSendFrame` writes the answer as far as the `write` calls go. -/
theorem malSendFrame_eq {sizeT : ℕ} (a : Answer) (hsize : 32 + a.text.length < sizeT)
    (allocated connected : Bool) (calls : List Acceptance) :
    malSendFrame sizeT allocated connected calls a.simId a.serial a.err a.text =
      .ok (if allocated && connected then (malWriteAll calls a.encode).1 else []) := by
  rw [malSendFrame, buildFrame_eq a hsize]
  cases allocated with
  | false => rfl
  | true =>
      cases connected with
      | false => rfl
      | true =>
          simp only [if_true, bind, Except.bind, contents_map_some]
          rfl

/-- What is written is a part of what there is to write, and all of it in the end. -/
theorem malWriteAll_part (calls : List Acceptance) (buf : List UInt8) :
    ∃ rest, buf = (malWriteAll calls buf).1 ++ rest ∧
      ((malWriteAll calls buf).2 = .done ↔ rest = []) := by
  induction calls generalizing buf with
  | nil =>
      cases buf with
      | nil => exact ⟨[], rfl, by simp [malWriteAll]⟩
      | cons b bs => exact ⟨b :: bs, rfl, by simp [malWriteAll]⟩
  | cons call calls ih =>
      cases buf with
      | nil => exact ⟨[], by simp [malWriteAll], by simp [malWriteAll]⟩
      | cons b bs =>
          cases call with
          | interrupted => exact ih (b :: bs)
          | failed => exact ⟨b :: bs, rfl, by simp [malWriteAll]⟩
          | took n =>
              cases n with
              | zero => exact ⟨b :: bs, rfl, by simp [malWriteAll]⟩
              | succ n =>
                  obtain ⟨rest, hrest, hdone⟩ := ih ((b :: bs).drop (n + 1))
                  refine ⟨rest, ?_, hdone⟩
                  show b :: bs = (b :: bs).take (n + 1) ++ _ ++ rest
                  rw [List.append_assoc, ← hrest, List.take_append_drop]

/-- A frame that is not written to its end is not an answer. -/
theorem decodeAnswer_cut (a : Answer) {written rest : List UInt8}
    (h : a.encode = written ++ rest) (hrest : rest ≠ []) : decodeAnswer written = none := by
  rw [decodeAnswer]
  cases hword : takeBE written with
  | none => rfl
  | some p =>
      obtain ⟨length, behind⟩ := p
      -- the length word is whole, and counts the bytes that are missing
      have hwhole : takeBE a.encode = some (length, behind ++ rest) := by
        rw [h]
        exact takeBE_append hword rest
      rw [Answer.encode, takeBE_putBE, Option.some.injEq, Prod.mk.injEq] at hwhole
      obtain ⟨hlength, hbody⟩ := hwhole
      have hmissing : behind.length < length.toNat := by
        rw [← hlength, a.lengthWord_eq, hbody, List.length_append]
        have := List.length_pos_iff.2 hrest
        omega
      simp only [Option.bind_eq_bind, Option.bind_some, if_pos hmissing]

/-! ## Main result -/

/-- What becomes of a call of `malSendFrame` for an answer whose frame has a size: whether there
is memory and a client, and what the `write` calls do, none of which fails. -/
structure Sending (sizeT : ℕ) where
  answer : Answer
  size_lt : 32 + answer.text.length < sizeT
  allocated : Bool
  connected : Bool
  calls : List Acceptance
  done : (malWriteAll calls answer.encode).2 = .done

variable {sizeT : ℕ}

/-- The bytes that a sequence of calls of `malSendFrame` sends. -/
def sendFrames : List (Sending sizeT) → Except Fault (List UInt8)
  | [] => .ok []
  | x :: xs => do
      let frame ← malSendFrame sizeT x.allocated x.connected x.calls x.answer.simId
        x.answer.serial x.answer.err x.answer.text
      let frames ← sendFrames xs
      return frame ++ frames

/-- The answers that are sent. -/
def sent (xs : List (Sending sizeT)) : List Answer :=
  (xs.filter fun x => x.allocated && x.connected).map Sending.answer

theorem Sending.malWriteAll_eq (x : Sending sizeT) :
    (malWriteAll x.calls x.answer.encode).1 = x.answer.encode := by
  obtain ⟨rest, hrest, hdone⟩ := malWriteAll_part x.calls x.answer.encode
  rw [hdone.1 x.done, List.append_nil] at hrest
  exact hrest.symm

theorem sendFrames_eq (xs : List (Sending sizeT)) :
    sendFrames xs = .ok ((sent xs).flatMap Answer.encode) := by
  induction xs with
  | nil => rfl
  | cons x xs ih =>
      rw [sendFrames, malSendFrame_eq x.answer x.size_lt, x.malWriteAll_eq, ih]
      cases hreaches : x.allocated && x.connected with
      | false =>
          have hsent : sent (x :: xs) = sent xs := by simp [sent, hreaches]
          rw [hsent]
          rfl
      | true =>
          have hsent : sent (x :: xs) = x.answer :: sent xs := by simp [sent, hreaches]
          rw [hsent, List.flatMap_cons]
          rfl

/-- An answer that is cut at the end of a connection is left over, and takes nothing of the
answers before it. -/
theorem cutAnswer_left (xs : List (Sending sizeT)) (a : Answer) (calls : List Acceptance)
    (hcut : (malWriteAll calls a.encode).2 ≠ .done) :
    answerCodec.decodeAll ((sent xs).flatMap Answer.encode ++ (malWriteAll calls a.encode).1) =
      (sent xs, (malWriteAll calls a.encode).1) := by
  obtain ⟨rest, hrest, hdone⟩ := malWriteAll_part calls a.encode
  have hnone : answerCodec.decode (malWriteAll calls a.encode).1 = none :=
    decodeAnswer_cut a hrest fun h => hcut (hdone.2 h)
  exact PrefixCodec.decodeAll_flatMap (sent xs) hnone

end Mal.AnswerCodec
