/-
# FCP templates (`mtkFcpToLegacy`, `ril_service.cpp`)

The answer of a SIM to the selection of a file is an FCP template, in hexadecimal digits.  When
a property asks for it, the template is translated to the 15 bytes of an older layout: its
bytes are decoded, its TLV objects are read one after another for the size, the identifier and
the structure of the file, and the 15 bytes are printed.

Every read of the string and of the decoded bytes is checked: `none` stands for a read outside
of them, or for a loop that does not come to its end.

Main result: `mtkFcpToLegacy_total`.
-/
import Ct07.Radio.Reply

namespace Radio.Fcp

/-! ## Decoding of the digits -/

/-- `mtkHexNibble`; `none` is the answer -1. -/
def mtkHexNibble (c : Char) : Option ℕ :=
  if '0' ≤ c ∧ c ≤ '9' then some (c.toNat - '0'.toNat)
  else if 'A' ≤ c ∧ c ≤ 'F' then some (c.toNat - 'A'.toNat + 10)
  else if 'a' ≤ c ∧ c ≤ 'f' then some (c.toNat - 'a'.toNat + 10)
  else none

/-- The byte `i`; inside, `none` when one of its digits is not a digit. -/
def hexByte (hex : Text) (i : ℕ) : Option (Option ℕ) := do
  let c ← hex[2 * i]?
  let d ← hex[2 * i + 1]?
  return do
    let hi ← mtkHexNibble c
    let lo ← mtkHexNibble d
    return 16 * hi + lo

/-- The first bytes. -/
def hexBytes (hex : Text) : ℕ → Option (Option (List ℕ))
  | 0 => some (some [])
  | n + 1 => do
      match ← hexBytes hex n with
      | none => some none
      | some buf =>
          let byte ← hexByte hex n
          return byte.map fun b => buf ++ [b]

/-! ## The TLV objects -/

/-- What is known of the file. -/
structure File where
  size : ℕ
  id : ℕ
  recLen : ℕ
  /-- 0 transparent, 1 linear, 3 cyclic -/
  layout : ℕ
  haveSize : Bool
  haveId : Bool
  haveDesc : Bool
  deriving DecidableEq

def File.init : File := ⟨0, 0, 0, 0, false, false, false⟩

/-- `switch (val[0] & 0x07)` -/
def fileLayout (b : ℕ) : ℕ :=
  match b % 8 with
  | 1 => 0
  | 2 => 1
  | 6 => 3
  | _ => 0

/-- `(val[i] << 8) | val[i + 1]` for the value at `val`. -/
def word (buf : List ℕ) (val i : ℕ) : Option ℕ := do
  let hi ← buf[val + i]?
  let lo ← buf[val + i + 1]?
  return 256 * hi + lo

/-- One TLV object, with its value at `val`. -/
def readTlv (buf : List ℕ) (tag len val : ℕ) (f : File) : Option File :=
  if tag = 0x80 then
    if len ≥ 2 then do
      let size ← word buf val (len - 2)
      return { f with size := size, haveSize := true }
    else some f
  else if tag = 0x83 then
    if len = 2 then do
      let id ← word buf val 0
      return { f with id := id, haveId := true }
    else some f
  else if tag = 0x82 then
    if len ≥ 1 then do
      let b ← buf[val]?
      let f := { f with layout := fileLayout b, haveDesc := true }
      if len ≥ 5 then do
        let recLen ← word buf val 2
        return { f with recLen := recLen }
      else some f
    else some f
  else some f

/-- `while (off + 2 <= end)` -/
def readTlvs (buf : List ℕ) (stop : ℕ) : ℕ → ℕ → File → Option File
  | 0, _, _ => none
  | fuel + 1, off, f =>
      if off + 2 ≤ stop then do
        let tag ← buf[off]?
        let len ← buf[off + 1]?
        if off + 2 + len > stop then some f
        else do
          let f ← readTlv buf tag len (off + 2) f
          readTlvs buf stop fuel (off + 2 + len) f
      else some f

/-! ## The older layout -/

def File.complete (f : File) : Bool := f.haveSize && f.haveId && f.haveDesc

/-- `out` -/
def File.legacy (f : File) : List ℕ :=
  [0, 0, f.size / 256 % 256, f.size % 256, f.id / 256 % 256, f.id % 256, 4, 0, 0, 0, 0, 1, 2,
    f.layout, f.recLen % 256]

def hexDigit (n : ℕ) : Char := if n < 10 then Char.ofNat (48 + n) else Char.ofNat (55 + n)

/-- `%02X` of each byte -/
def printHex (bytes : List ℕ) : Text :=
  bytes.flatMap fun b => [hexDigit (b / 16), hexDigit (b % 16)]

/-- The gate: `persist.vendor.ril.fcp` is a number other than 0. -/
def enabled (gate : Text) : Bool := gate ≠ [] && atoi gate ≠ 0

/-- The translation of the decoded bytes. -/
def translate (buf : List ℕ) : Option (Option Text) := do
  let first ← buf[0]?
  if first ≠ 0x62 then return none
  let length ← buf[1]?
  if length ≥ 0x80 then return none
  let stop := min (2 + length) buf.length
  let f ← readTlvs buf stop (stop + 1) 2 .init
  if f.complete then return some (printHex f.legacy) else return none

/-- `mtkFcpToLegacy`; inside, `none` is the null pointer.  `malloc` says whether memory is
there. -/
def mtkFcpToLegacy (gate : Text) (malloc : Bool) (hex : Option Text) : Option (Option Text) :=
  if enabled gate then
    match hex with
    | none => some none
    | some hex =>
        if hex.length < 4 ∨ hex.length % 2 ≠ 0 ∨ hex.length > 512 then some none
        else do
          match ← hexBytes hex (hex.length / 2) with
          | none => some none
          | some buf =>
              let legacy ← translate buf
              return if malloc then legacy else none
  else some none

/-- A linear fixed file of ten records of 28 bytes. -/
example : mtkFcpToLegacy "1".toList true (some "621182054221001C0A83026F3C800201188A0105".toList) =
    some (some "000001186F3C04000000000102011C".toList) := by decide

/-! ## Every read is inside, and the loop comes to its end -/

theorem hexByte_total {hex : Text} {i : ℕ} (h : 2 * i + 1 < hex.length) :
    ∃ byte, hexByte hex i = some byte := by
  have h' : 2 * i < hex.length := by omega
  unfold hexByte
  rw [List.getElem?_eq_getElem h', List.getElem?_eq_getElem h]
  exact ⟨_, rfl⟩

/-- As many bytes are decoded as there are pairs of digits. -/
theorem hexBytes_total (hex : Text) (n : ℕ) (h : 2 * n ≤ hex.length) :
    ∃ bytes, hexBytes hex n = some bytes ∧ ∀ buf ∈ bytes, buf.length = n := by
  induction n with
  | zero =>
      refine ⟨some [], rfl, ?_⟩
      rintro buf ⟨⟩
      rfl
  | succ n ih =>
      obtain ⟨bytes, hbytes, hlength⟩ := ih (by omega)
      have hpair : 2 * n + 1 < hex.length := by omega
      obtain ⟨byte, hbyte⟩ := hexByte_total hpair
      unfold hexBytes
      rw [hbytes]
      cases bytes with
      | none => exact ⟨none, rfl, by simp⟩
      | some buf =>
          refine ⟨byte.map fun b => buf ++ [b], by simp [hbyte], ?_⟩
          intro buf' hbuf'
          obtain ⟨b, -, rfl⟩ := Option.map_eq_some_iff.1 hbuf'
          rw [List.length_append, hlength buf rfl]
          rfl

theorem word_total {buf : List ℕ} (val i : ℕ) (h : val + i + 1 < buf.length) :
    ∃ w, word buf val i = some w := by
  have h' : val + i < buf.length := by omega
  unfold word
  rw [List.getElem?_eq_getElem h', List.getElem?_eq_getElem h]
  exact ⟨_, rfl⟩

/-- An object whose value is inside can be read. -/
theorem readTlv_total {buf : List ℕ} {len val : ℕ} (h : val + len ≤ buf.length) (tag : ℕ)
    (f : File) : ∃ f', readTlv buf tag len val f = some f' := by
  unfold readTlv
  split
  · split
    · have hlast : val + (len - 2) + 1 < buf.length := by omega
      obtain ⟨w, hw⟩ := word_total val (len - 2) hlast
      exact ⟨_, by rw [hw]; rfl⟩
    · exact ⟨f, rfl⟩
  split
  · split
    · have hfirst : val + 0 + 1 < buf.length := by omega
      obtain ⟨w, hw⟩ := word_total val 0 hfirst
      exact ⟨_, by rw [hw]; rfl⟩
    · exact ⟨f, rfl⟩
  split
  · split
    · have hval : val < buf.length := by omega
      rw [List.getElem?_eq_getElem hval]
      by_cases hlong : len ≥ 5
      · have hrecord : val + 2 + 1 < buf.length := by omega
        obtain ⟨w, hw⟩ := word_total val 2 hrecord
        exact ⟨_, by simp only [Option.bind_eq_bind, Option.bind_some, if_pos hlong, hw]; rfl⟩
      · exact ⟨_, by simp only [Option.bind_eq_bind, Option.bind_some, if_neg hlong]; rfl⟩
    · exact ⟨f, rfl⟩
  · exact ⟨f, rfl⟩

/-- Each turn of the loop moves on by two at least. -/
theorem readTlvs_total {buf : List ℕ} {stop : ℕ} (hstop : stop ≤ buf.length) (fuel off : ℕ)
    (hpos : 0 < fuel) (hfuel : stop < off + fuel) (f : File) :
    ∃ f', readTlvs buf stop fuel off f = some f' := by
  induction fuel generalizing off f with
  | zero => omega
  | succ fuel ih =>
      unfold readTlvs
      split
      · have htag : off < buf.length := by omega
        have hlen : off + 1 < buf.length := by omega
        rw [List.getElem?_eq_getElem htag, List.getElem?_eq_getElem hlen]
        simp only [Option.bind_eq_bind, Option.bind_some]
        split
        · exact ⟨f, rfl⟩
        · have hinside : off + 2 + buf[off + 1] ≤ buf.length := by omega
          obtain ⟨f', hf'⟩ := readTlv_total hinside buf[off] f
          rw [hf']
          exact ih _ (by omega) (by omega) f'
      · exact ⟨f, rfl⟩

theorem translate_total {buf : List ℕ} (h : 2 ≤ buf.length) :
    ∃ legacy, translate buf = some legacy := by
  have hfirst : 0 < buf.length := by omega
  have hsecond : 1 < buf.length := by omega
  unfold translate
  rw [List.getElem?_eq_getElem hfirst, List.getElem?_eq_getElem hsecond]
  simp only [Option.bind_eq_bind, Option.bind_some]
  split
  · exact ⟨none, rfl⟩
  split
  · exact ⟨none, rfl⟩
  · obtain ⟨f, hf⟩ := readTlvs_total (Nat.min_le_right (2 + buf[1]) buf.length)
      (min (2 + buf[1]) buf.length + 1) 2 (Nat.succ_pos _) (by omega) .init
    rw [hf]
    simp only [Option.bind_some]
    split
    · exact ⟨some (printHex f.legacy), rfl⟩
    · exact ⟨none, rfl⟩

/-- **The translation returns**, whatever the string is, without a read outside of it or of the
decoded bytes. -/
theorem mtkFcpToLegacy_total (gate : Text) (malloc : Bool) (hex : Option Text) :
    ∃ legacy, mtkFcpToLegacy gate malloc hex = some legacy := by
  unfold mtkFcpToLegacy
  cases enabled gate with
  | false => exact ⟨none, rfl⟩
  | true =>
      cases hex with
      | none => exact ⟨none, rfl⟩
      | some hex =>
          simp only [if_true]
          split
          · exact ⟨none, rfl⟩
          · rename_i hsize
            obtain ⟨bytes, hbytes, hlength⟩ := hexBytes_total hex (hex.length / 2) (by omega)
            rw [hbytes]
            cases bytes with
            | none => exact ⟨none, rfl⟩
            | some buf =>
                have hbuf : 2 ≤ buf.length := by
                  rw [hlength buf rfl]
                  omega
                obtain ⟨legacy, hlegacy⟩ := translate_total hbuf
                exact ⟨if malloc then legacy else none, by simp [hlegacy]⟩

end Radio.Fcp
