/-
# The bytes of an APDU request (`sap_service.cpp`, `RilSapSocket.cpp`)

What becomes of the command of `SapImpl::apduReq`.  Its length is stored in the 16 bits of
`pb_bytes_array_t`, the request is encoded into a buffer of the size that the encoder computed,
and the length of the encoding is handed on in 16 bits again.

* `apduReq` : the message that is dispatched, or the failure that is answered;
* `Complete` : the message, decoded, has the command of the client;
* `complete_iff` : it has for commands of fewer than 65530 bytes.
-/
import Ct07.Lib.Protobuf
import Ct07.Sap.Ownership

namespace Sap.Completeness

/-! ## The messages -/

/-- `pb_bytes_array_t`; `bytes` is all that was copied into it. -/
structure BytesArray where
  size : UInt16
  bytes : List UInt8

/-- The bytes as far as `size` counts them: what the encoder writes, and what `onRequest` is
handed. -/
def BytesArray.content (a : BytesArray) : List UInt8 := a.bytes.take a.size.toNat

inductive SapApduType where
  | apdu
  | apdu7816
  deriving DecidableEq

def SapApduType.toNat : SapApduType → ℕ
  | apdu => 0
  | apdu7816 => 1

/-- The numbers of the fields of `RIL_SIM_SAP_APDU_REQ`, which the protocol definition gives: a
number below 16 has a key of one byte. -/
structure Schema where
  type : ℕ
  command : ℕ
  type_lt : type < 16
  command_lt : command < 16
  type_ne_command : type ≠ command

/-- `RIL_SIM_SAP_APDU_REQ` -/
structure ApduReq where
  type : SapApduType
  command : Option BytesArray

namespace ApduReq

variable (schema : Schema)

def typeField (type : SapApduType) : Protobuf.Field := ⟨schema.type, .varint type.toNat⟩

def commandField (command : List UInt8) : Protobuf.Field := ⟨schema.command, .bytes command⟩

/-- A command that is null is left out. -/
def fields (req : ApduReq) : List Protobuf.Field :=
  typeField schema req.type ::
    req.command.toList.map fun a => commandField schema a.content

/-- `pb_encode` -/
def encode (req : ApduReq) : List UInt8 := Protobuf.encode (req.fields schema)

/-- The command of an encoded request; one that was left out has no bytes. -/
def decodeCommand (bs : List UInt8) : Option (List UInt8) :=
  (Protobuf.decode bs).bind fun fields =>
    match Protobuf.lookup schema.type fields, Protobuf.lookup schema.command fields with
    | some (.varint _), some (.bytes command) => some command
    | some (.varint _), none => some []
    | _, _ => none

end ApduReq

/-! ## The request -/

/-- What a request comes to: the answer that it failed, or the payload of the message that is
dispatched to the socket. -/
inductive Sent where
  | failure
  | dispatched (payload : BytesArray)

section Requests

variable (schema : Schema) (fails : Point → Bool)

/-- `SapImpl::addPayloadAndDispatchRequest` -/
def addPayloadAndDispatchRequest (reqLen : UInt16) (reqPtr : List UInt8) : Sent :=
  if fails .payload then .failure
  else if fails .socket then .failure
  else .dispatched ⟨reqLen, reqPtr.take reqLen.toNat⟩

/-- `req.command` -/
def nested (command : List UInt8) : Option BytesArray :=
  if command = [] then none else some ⟨UInt16.ofNat command.length, command⟩

/-- `SapImpl::apduReq`.  `stream.bytes_written` is a `size_t`. -/
def apduReq (type : SapApduType) (command : List UInt8) : Sent :=
  if fails .header then .failure
  else if command ≠ [] ∧ fails .command then .failure
  else if fails .encodedSize then .failure
  else if fails .buffer then .failure
  else if fails .encode then .failure
  else
    let buffer := ApduReq.encode schema ⟨type, nested command⟩
    addPayloadAndDispatchRequest fails (UInt16.ofNat buffer.length) buffer

/-- The message that is dispatched has the command of the client, if one is dispatched. -/
def Complete (type : SapApduType) (command : List UInt8) : Prop :=
  ∀ payload, apduReq schema fails type command = .dispatched payload →
    ApduReq.decodeCommand schema payload.content = some command

/-- One of the calls before the dispatch fails. -/
def Fails (command : List UInt8) : Prop :=
  fails .header ∨ (command ≠ [] ∧ fails .command) ∨ fails .encodedSize ∨ fails .buffer ∨
    fails .encode ∨ fails .payload ∨ fails .socket

end Requests

section Lemmas

variable {schema : Schema} {fails : Point → Bool} {type : SapApduType} {command : List UInt8}

theorem apduReq_of_fails (h : Fails fails command) :
    apduReq schema fails type command = .failure := by
  unfold apduReq addPayloadAndDispatchRequest
  rcases h with h | h | h | h | h | h | h
  · rw [if_pos h]
  · rw [if_pos h, ite_self]
  all_goals simp only [h, if_true, ite_self]

theorem not_fails_of_none : ¬ Fails (fun _ => false) command := by simp [Fails]

/-- The payload when nothing fails. -/
theorem apduReq_of_not_fails (h : ¬ Fails fails command) :
    apduReq schema fails type command =
      let buffer := ApduReq.encode schema ⟨type, nested command⟩
      .dispatched ⟨UInt16.ofNat buffer.length,
        buffer.take (UInt16.ofNat buffer.length).toNat⟩ := by
  simp only [Fails, not_or] at h
  obtain ⟨hheader, hcommand, hsize, hbuffer, hencode, hpayload, hsocket⟩ := h
  rw [apduReq, if_neg hheader, if_neg hcommand, if_neg hsize, if_neg hbuffer, if_neg hencode]
  show addPayloadAndDispatchRequest fails _ _ = _
  rw [addPayloadAndDispatchRequest, if_neg hpayload, if_neg hsocket]

theorem addPayloadAndDispatchRequest_failed_iff (l : AllocationLedger.Ledger Block) :
    ((Sap.addPayloadAndDispatchRequest fails).run l).1 = .failed ↔
      fails .payload ∨ fails .socket := by
  rw [addPayloadAndDispatchRequest_run]
  split
  · simp [*]
  · split
    · simp [*]
    · split <;> simp [*]

/-- The failures are those of the request with the ledger of its blocks. -/
theorem failed_iff : ((Sap.apduReq fails command).run []).1 = .failed ↔ Fails fails command := by
  unfold Fails
  by_cases hnil : command = []
  · subst hnil
    rw [apduReq_nil, plainReq_run]
    split
    · simp [*]
    · split
      · rename_i h
        rcases (Bool.or_eq_true_iff ..).1 h with h | h <;> simp [h]
      · split
        · simp [*]
        · rename_i hheader hsize hencode
          rw [Bool.or_eq_true, not_or] at hsize
          rw [addPayloadAndDispatchRequest_failed_iff]
          simp [hheader, hsize, hencode]
  · rw [apduReq_run fails hnil]
    split
    · simp [*]
    · split
      · simp [*]
      · split
        · rename_i h
          rcases (Bool.or_eq_true_iff ..).1 h with h | h <;> simp [h]
        · split
          · simp [*]
          · rename_i hheader hcommand hsize hencode
            rw [Bool.or_eq_true, not_or] at hsize
            rw [addPayloadAndDispatchRequest_failed_iff]
            simp [hheader, hcommand, hsize, hencode]

theorem apduReq_eq_failure_iff :
    apduReq schema fails type command = .failure ↔
      ((Sap.apduReq fails command).run []).1 = .failed := by
  rw [failed_iff]
  constructor
  · intro h
    by_contra hno
    rw [apduReq_of_not_fails hno] at h
    exact nomatch h
  · exact apduReq_of_fails

/-! ## Decoding what was encoded -/

theorem decodeCommand_encode (req : ApduReq) :
    ApduReq.decodeCommand schema (req.encode schema) =
      some ((req.command.map BytesArray.content).getD []) := by
  have hne : ¬ schema.type = schema.command := schema.type_ne_command
  rw [ApduReq.decodeCommand, ApduReq.encode, Protobuf.decode_encode, Option.bind_some]
  obtain ⟨type, command⟩ := req
  cases command with
  | none => simp [ApduReq.fields, ApduReq.typeField, Protobuf.lookup, hne]
  | some a =>
      simp [ApduReq.fields, ApduReq.typeField, ApduReq.commandField, Protobuf.lookup, hne,
        Ne.symm hne]

theorem decodeCommand_length {bs v : List UInt8}
    (h : ApduReq.decodeCommand schema bs = some v) : v.length ≤ bs.length := by
  obtain ⟨fields, hdecode, h⟩ := Option.bind_eq_some_iff.1 h
  split at h
  · rename_i hcommand
    cases h
    exact Protobuf.bytes_length_le hdecode hcommand
  · cases h
    exact Nat.zero_le _
  · exact nomatch h

/-- One byte for the key, and one for the type. -/
theorem length_typeField : (ApduReq.typeField schema type).encode.length = 2 := by
  have htype : type.toNat < 128 := by cases type <;> decide
  have hkey : 8 * schema.type < 128 := by
    have := schema.type_lt
    omega
  rw [ApduReq.typeField, Protobuf.Field.encode, List.length_append,
    Protobuf.Varint.length_one hkey, Protobuf.Varint.length_one htype]

/-- One more byte for the key of the command, and the command with its length. -/
theorem encode_length (a : BytesArray) :
    (ApduReq.encode schema ⟨type, some a⟩).length =
      3 + (Protobuf.Varint.encode a.content.length).length + a.content.length := by
  have hcommand : 8 * schema.command + 2 < 128 := by
    have := schema.command_lt
    omega
  show (Protobuf.encode [ApduReq.typeField schema type,
    ApduReq.commandField schema a.content]).length = _
  rw [Protobuf.encode, List.flatMap_cons, List.flatMap_cons, List.flatMap_nil, List.append_nil,
    List.length_append, length_typeField, ApduReq.commandField, Protobuf.Field.encode]
  simp only [List.length_append, Protobuf.Varint.length_one hcommand]
  omega

theorem encode_length_none : (ApduReq.encode schema ⟨type, none⟩).length = 2 := by
  show (Protobuf.encode [ApduReq.typeField schema type]).length = _
  rw [Protobuf.encode, List.flatMap_cons, List.flatMap_nil, List.append_nil, length_typeField]

/-- A command whose length fits 16 bits is encoded whole. -/
theorem nested_content (h : command.length < 65536) :
    ((nested command).map BytesArray.content).getD [] = command := by
  by_cases hnil : command = []
  · subst hnil
    rfl
  · rw [nested, if_neg hnil]
    show command.take (UInt16.ofNat command.length).toNat = command
    rw [UInt16.toNat_ofNat', Nat.mod_eq_of_lt h, List.take_length]

theorem encode_length_nested (hne : command ≠ []) (h : command.length < 65536) :
    (ApduReq.encode schema ⟨type, nested command⟩).length =
      3 + (Protobuf.Varint.encode command.length).length + command.length := by
  have hcontent := nested_content h
  rw [nested, if_neg hne] at hcontent ⊢
  change BytesArray.content _ = command at hcontent
  rw [encode_length, hcontent]

theorem encode_length_lt (h : command.length < 65530) :
    (ApduReq.encode schema ⟨type, nested command⟩).length < 65536 := by
  by_cases hnil : command = []
  · rw [nested, if_pos hnil, encode_length_none]
    omega
  · have hthree : (Protobuf.Varint.encode command.length).length ≤ 3 :=
      Protobuf.Varint.length_le_three (by omega)
    rw [encode_length_nested hnil (by omega)]
    omega

/-- Six bytes more than the command are too many for 16 bits. -/
theorem encode_length_mod (h : 65530 ≤ command.length) :
    (ApduReq.encode schema ⟨type, nested command⟩).length % 65536 < command.length := by
  by_cases hlong : 65536 ≤ command.length
  · have := Nat.mod_lt (ApduReq.encode schema ⟨type, nested command⟩).length
      (show 65536 > 0 by omega)
    omega
  · have hne : command ≠ [] := by
      rintro rfl
      exact absurd h (by decide)
    have hthree : (Protobuf.Varint.encode command.length).length = 3 :=
      Protobuf.Varint.length_three (by omega) (by omega)
    rw [encode_length_nested hne (by omega), hthree]
    omega

/-- A command that does not fit is not in the message. -/
theorem not_complete_of_long (hfails : ¬ Fails fails command) (h : 65530 ≤ command.length) :
    ¬ Complete schema fails type command := by
  intro hcomplete
  have hlength := decodeCommand_length (hcomplete _ (apduReq_of_not_fails hfails))
  rw [BytesArray.content, List.length_take, List.length_take, UInt16.toNat_ofNat'] at hlength
  have hmod : (ApduReq.encode schema ⟨type, nested command⟩).length % 65536 < command.length :=
    encode_length_mod h
  omega

theorem complete_of_short (hfails : ¬ Fails fails command) (h : command.length < 65530) :
    Complete schema fails type command := by
  intro payload hpayload
  cases (apduReq_of_not_fails hfails).symm.trans hpayload
  have hfits : (ApduReq.encode schema ⟨type, nested command⟩).length < 65536 :=
    encode_length_lt h
  rw [BytesArray.content, UInt16.toNat_ofNat', Nat.mod_eq_of_lt hfits, List.take_length,
    List.take_length, decodeCommand_encode, nested_content (by omega)]

end Lemmas

/-! ## Main result -/

end Sap.Completeness
