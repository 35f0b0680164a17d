/-
# SMS PDUs in hexadecimal (`ril_service.cpp`)

The vendor indicates a PDU as a string of hexadecimal digits.  `convertHexStringToBytes` decodes
two of them at a time into a new block, which has room for the bytes twice; the callers take the
length of the string from its end and hand on the bytes.

* `convertHexStringToBytes` : the loop, with checked reads and writes;
* `loop_halves` : what the loop does to the two halves of the block;
* `hexPdu_correct` : what is converted, and what the client is handed.
-/
import Ct07.Lib.CString
import Ct07.Lib.Hex

open CheckedMemory CString

namespace Radio.HexPdu

/-! ## Model -/

/-- `INVALID_HEX_CHAR` -/
def invalidHexChar : UInt8 := 16

def hexCharToInt (c : UInt8) : UInt8 :=
  if '0'.toUInt8 ≤ c ∧ c ≤ '9'.toUInt8 then c - '0'.toUInt8
  else if 'A'.toUInt8 ≤ c ∧ c ≤ 'F'.toUInt8 then c - 'A'.toUInt8 + 10
  else if 'a'.toUInt8 ≤ c ∧ c ≤ 'f'.toUInt8 then c - 'a'.toUInt8 + 10
  else invalidHexChar

/-- The loop of `convertHexStringToBytes`, from the character `i` on. -/
def loop (hexString : List UInt8) (responseLen i : ℕ) (bytes : List UInt8) :
    Except Fault (Option (List UInt8)) :=
  if i < responseLen then do
    let char1 ← readAt hexString i
    let char2 ← readAt hexString (i + 1)
    let hexChar1 := hexCharToInt char1
    let hexChar2 := hexCharToInt char2
    if hexChar1 = invalidHexChar ∨ hexChar2 = invalidHexChar then
      -- the block is freed
      return none
    else
      let bytes ← writeAt bytes (i / 2) ((hexChar1 <<< 4) ||| hexChar2)
      let bytes ← writeAt bytes ((responseLen + i) / 2) ((hexChar1 <<< 4) ||| hexChar2)
      loop hexString responseLen (i + 2) bytes
  else return some bytes
termination_by responseLen - i

/-- `convertHexStringToBytes`; `none` is a null pointer. -/
def convertHexStringToBytes (allocated : Bool) (response : List UInt8) (responseLen : ℕ) :
    Except Fault (Option (List UInt8)) :=
  if responseLen % 2 ≠ 0 then .ok none
  else if allocated then loop response responseLen 0 (List.replicate responseLen 0)
  else .ok none

/-- The indication of a PDU: what the client is handed. -/
def smsInd (allocated registered : Bool) (response : Option (List UInt8)) (responseLen : ℕ) :
    Except Fault (Option (List UInt8)) :=
  match registered, response with
  | true, some response =>
    if responseLen = 0 then .ok none
    else do
      let st ← string 0 response
      let pduLen := st.length
      match ← convertHexStringToBytes allocated response pduLen with
      | none => return none
      | some bytes => return some (← slice bytes 0 (pduLen / 2))
  | _, _ => .ok none

/-- `radio::newSmsInd` -/
def newSmsInd := smsInd

/-- `radio::newSmsStatusReportInd` -/
def newSmsStatusReportInd := smsInd

/-! ## Digits -/

theorem forall_byte {P : UInt8 → Prop} (h : ∀ n < 256, P (UInt8.ofNat n)) (c : UInt8) : P c := by
  have hc := h c.toNat c.toNat_lt
  rwa [UInt8.ofNat_toNat] at hc

theorem hexCharToInt_eq (c : UInt8) :
    hexCharToInt c = UInt8.ofNat ((Hex.value c).getD 16) := by
  revert c
  apply forall_byte
  decide +kernel

theorem hexCharToInt_value {c : UInt8} {v : ℕ} (h : Hex.value c = some v) :
    hexCharToInt c = UInt8.ofNat v ∧ hexCharToInt c ≠ invalidHexChar := by
  have hv := Hex.value_lt h
  rw [hexCharToInt_eq, h, Option.getD_some]
  refine ⟨rfl, ?_⟩
  clear h
  revert v
  decide

theorem hexCharToInt_invalid {c : UInt8} (h : Hex.value c = none) :
    hexCharToInt c = invalidHexChar := by
  rw [hexCharToInt_eq, h]
  rfl

/-- Two digits in one byte. -/
theorem shift_or : ∀ hi < 16, ∀ lo < 16,
    (UInt8.ofNat hi <<< 4) ||| UInt8.ofNat lo = UInt8.ofNat (16 * hi + lo) := by
  decide +kernel

/-! ## The loop -/

/-- The block when `done` is decoded and `room` bytes are left: the bytes stand in both halves. -/
def halves (done : List UInt8) (room : ℕ) : List UInt8 :=
  (done ++ List.replicate room 0) ++ (done ++ List.replicate room 0)

theorem halves_nil (room : ℕ) : halves [] room = List.replicate (2 * room) 0 := by
  rw [halves, List.nil_append, List.replicate_append_replicate, Nat.two_mul]

/-- The two writes of one round. -/
theorem write_halves (done : List UInt8) (room : ℕ) (b : UInt8) {i j : ℕ} (hi : i = done.length)
    (hj : j = done.length + (room + 1) + done.length) :
    (do
      let bytes ← writeAt (halves done (room + 1)) i b
      writeAt bytes j b) = .ok (halves (done ++ [b]) room) := by
  have hfirst : halves done (room + 1) =
      done ++ 0 :: (List.replicate room 0 ++ (done ++ List.replicate (room + 1) 0)) := by
    rw [halves, List.replicate_succ]
    simp only [List.append_assoc, List.cons_append]
  have hsecond : done ++ b :: (List.replicate room 0 ++ (done ++ List.replicate (room + 1) 0)) =
      (done ++ b :: (List.replicate room 0 ++ done)) ++ 0 :: List.replicate room 0 := by
    rw [List.replicate_succ]
    simp only [List.append_assoc, List.cons_append]
  have hlength : j = (done ++ b :: (List.replicate room 0 ++ done)).length := by
    rw [hj]
    simp only [List.length_append, List.length_cons, List.length_replicate]
    omega
  rw [hfirst, writeAt_append_cons 0 b hi, ok_bind, hsecond, writeAt_append_cons 0 b hlength,
    halves]
  simp only [List.append_assoc, List.cons_append, List.nil_append]

theorem loop_done (hexString : List UInt8) {responseLen i : ℕ} (h : ¬ i < responseLen)
    (bytes : List UInt8) : loop hexString responseLen i bytes = .ok (some bytes) := by
  rw [loop, if_neg h]
  rfl

/-- One round. -/
theorem loop_step {hexString : List UInt8} {responseLen i : ℕ} (h : i < responseLen)
    {c d : UInt8} (hc : hexString[i]? = some c) (hd : hexString[i + 1]? = some d)
    (bytes : List UInt8) :
    loop hexString responseLen i bytes =
      if hexCharToInt c = invalidHexChar ∨ hexCharToInt d = invalidHexChar then .ok none
      else
        (do
          let bytes ← writeAt bytes (i / 2) ((hexCharToInt c <<< 4) ||| hexCharToInt d)
          writeAt bytes ((responseLen + i) / 2) ((hexCharToInt c <<< 4) ||| hexCharToInt d)) >>=
            loop hexString responseLen (i + 2) := by
  rw [loop, if_pos h, readAt_eq_ok_iff.2 hc, ok_bind, readAt_eq_ok_iff.2 hd, ok_bind]
  show (if hexCharToInt c = invalidHexChar ∨ hexCharToInt d = invalidHexChar then _ else _) = _
  split
  · rfl
  · cases writeAt bytes (i / 2) ((hexCharToInt c <<< 4) ||| hexCharToInt d) with
    | error e => rfl
    | ok bytes' =>
        cases writeAt bytes' ((responseLen + i) / 2) ((hexCharToInt c <<< 4) ||| hexCharToInt d) <;>
          rfl

/-- **The loop** decodes what is left of the string behind what is decoded. -/
theorem loop_halves (text : List UInt8) :
    ∀ (seen rest done : List UInt8) (room : ℕ), seen.length = 2 * done.length →
      text.length = 2 * room →
        loop (seen ++ (text ++ rest)) (seen.length + text.length) seen.length (halves done room) =
          .ok ((Hex.decode text).map fun bytes => halves (done ++ bytes) 0) := by
  fun_induction Hex.decode text with
  | case1 =>
      intro seen rest done room _ hroom
      have hzero : room = 0 := by
        rw [List.length_nil] at hroom
        omega
      rw [loop_done _ (by simp), hzero]
      simp
  | case2 c =>
      intro seen rest done room _ hroom
      rw [List.length_singleton] at hroom
      omega
  | case3 c d text hi lo hd hc ih =>
      intro seen rest done room hseen hroom
      rw [List.length_cons, List.length_cons] at hroom
      obtain ⟨room, rfl⟩ : ∃ n, room = n + 1 := ⟨room - 1, by omega⟩
      obtain ⟨hcv, hcvalid⟩ := hexCharToInt_value hc
      obtain ⟨hdv, hdvalid⟩ := hexCharToInt_value hd
      have hbyte : (hexCharToInt c <<< 4) ||| hexCharToInt d = UInt8.ofNat (16 * hi + lo) := by
        rw [hcv, hdv]
        exact shift_or hi (Hex.value_lt hc) lo (Hex.value_lt hd)
      rw [loop_step (by simp) (c := c) (d := d) (by simp) (by simp),
        if_neg (not_or.2 ⟨hcvalid, hdvalid⟩), hbyte,
        write_halves done room _ (by omega) (by simp only [List.length_cons]; omega), ok_bind]
      have hnext := ih (seen ++ [c, d]) rest (done ++ [UInt8.ofNat (16 * hi + lo)]) room
        (by simp; omega) (by omega)
      have hstring : seen ++ [c, d] ++ (text ++ rest) = seen ++ (c :: d :: text ++ rest) := by simp
      have hlen : (seen ++ [c, d]).length = seen.length + 2 := by simp
      have htotal : seen.length + 2 + text.length = seen.length + (c :: d :: text).length := by
        rw [List.length_cons, List.length_cons]
        omega
      rw [hstring, hlen, htotal] at hnext
      rw [hnext, Option.map_map]
      simp only [Function.comp_def, List.append_assoc, List.singleton_append]
  | case4 c d text hno =>
      intro seen rest done room _ _
      have hinvalid : hexCharToInt c = invalidHexChar ∨ hexCharToInt d = invalidHexChar := by
        cases hc : Hex.value c with
        | none => exact .inl (hexCharToInt_invalid hc)
        | some hi =>
            cases hd : Hex.value d with
            | none => exact .inr (hexCharToInt_invalid hd)
            | some lo => exact (hno hi lo hc hd).elim
      rw [loop_step (by simp) (c := c) (d := d) (by simp) (by simp), if_pos hinvalid]
      rfl

/-- The conversion of the string at the front of the memory. -/
theorem convertHexStringToBytes_eq (text rest : List UInt8) :
    convertHexStringToBytes true (text ++ rest) text.length =
      .ok ((Hex.decode text).map fun bytes => bytes ++ bytes) := by
  rw [convertHexStringToBytes]
  by_cases hodd : text.length % 2 ≠ 0
  · have hnone : Hex.decode text = none := by
      rw [← Option.not_isSome_iff_eq_none, Hex.decode_isSome_iff]
      exact fun h => hodd h.1
    rw [if_pos hodd, hnone]
    rfl
  · have heven : text.length = 2 * (text.length / 2) := by omega
    have hloop := loop_halves text [] rest [] (text.length / 2) rfl heven
    rw [halves_nil, ← heven, List.nil_append, List.length_nil, Nat.zero_add] at hloop
    rw [if_neg hodd, if_pos rfl, hloop]
    simp only [List.nil_append, halves, List.replicate_zero, List.append_nil]

/-! ## Main result -/

/-- **Exactly the strings of an even number of digits are converted**, to their bytes twice and
without an access outside of the string and the block; the client is handed the bytes once. -/
theorem hexPdu_correct (text : List UInt8) :
    (∃ result, convertHexStringToBytes true text text.length = .ok result ∧
      (result.isSome ↔ text.length % 2 = 0 ∧ ∀ c ∈ text, (Hex.value c).isSome) ∧
      ∀ bytes ∈ result, bytes.length = text.length ∧
        Hex.decode text = some (bytes.take (text.length / 2)) ∧
        bytes.drop (text.length / 2) = bytes.take (text.length / 2)) ∧
    (∀ rest responseLen, 0 ∉ text → responseLen ≠ 0 →
      newSmsInd true true (some (text ++ 0 :: rest)) responseLen = .ok (Hex.decode text)) ∧
    ∀ (upper : Bool) (bytes : List UInt8),
      convertHexStringToBytes true (Hex.encode upper bytes) (2 * bytes.length) =
        .ok (some (bytes ++ bytes)) := by
  have hconvert := convertHexStringToBytes_eq text []
  rw [List.append_nil] at hconvert
  refine ⟨⟨_, hconvert, ?_, ?_⟩, ?_, ?_⟩
  · rw [Option.isSome_map, Hex.decode_isSome_iff]
  · intro bytes hbytes
    obtain ⟨decoded, hdecoded, rfl⟩ := Option.map_eq_some_iff.1 hbytes
    rw [Hex.half_length_decode hdecoded, List.take_left, List.drop_left, List.length_append,
      Hex.length_decode hdecoded]
    exact ⟨by omega, hdecoded, rfl⟩
  · intro rest responseLen hnul hlen
    rw [newSmsInd, smsInd]
    show (if responseLen = 0 then _ else _) = _
    rw [if_neg hlen, string_append text rest hnul, ok_bind]
    simp only [convertHexStringToBytes_eq, ok_bind]
    cases hdecoded : Hex.decode text with
    | none => rfl
    | some decoded =>
        simp only [Option.map_some, Hex.half_length_decode hdecoded]
        rw [slice_eq (by simp), List.drop_zero, List.take_left]
        rfl
  · intro upper bytes
    have hencoded := convertHexStringToBytes_eq (Hex.encode upper bytes) []
    rw [List.append_nil, Hex.length_encode, Hex.decode_encode] at hencoded
    exact hencoded

end Radio.HexPdu
