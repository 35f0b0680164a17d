/-
# The Bluetooth address (`btaddr_mtk.c`)

The helper exports the address that NVRAM holds.  When there is none, it derives one from the
serial number, and writes it back to NVRAM so that the controller uses it, too.

* `BdAddr` : the six bytes of an address; `addrIsValid` tells an address of the unit;
* `main` : the files that a run leaves, and the text that it exports;
* `decodeText_text` : the text is read back;
* `provisioning_stable` : the address is valid, and that of NVRAM, and does not change.
-/
import Ct07.Lib.Hex

namespace Bluetooth

/-! ## Addresses -/

/-- `uint8_t addr[6]` -/
structure BdAddr where
  bytes : List UInt8
  length_eq : bytes.length = 6
  deriving DecidableEq

namespace BdAddr

def zero : BdAddr := ⟨[0x00, 0x00, 0x00, 0x00, 0x00, 0x00], rfl⟩

def ff : BdAddr := ⟨[0xFF, 0xFF, 0xFF, 0xFF, 0xFF, 0xFF], rfl⟩

/-- `stBtDefault_6735` -/
def def6735 : BdAddr := ⟨[0x00, 0x00, 0x46, 0x03, 0x21, 0x01], rfl⟩

/-- `stBtDefault_6735m` -/
def def6735m : BdAddr := ⟨[0x00, 0x00, 0x46, 0x03, 0x35, 0x01], rfl⟩

end BdAddr

/-- `addr_is_valid` -/
def addrIsValid (a : BdAddr) : Bool :=
  decide (a ≠ .zero) && decide (a ≠ .ff) && decide (a ≠ .def6735) && decide (a ≠ .def6735m)

/-! ## Deriving an address -/

/-- The properties `ro.serialno` and `ro.boot.serialno`, empty when they are not set. -/
structure Serial where
  serialno : List UInt8
  bootSerialno : List UInt8

/-- The array `serial`, up to its end. -/
def Serial.text (s : Serial) : List UInt8 :=
  if s.serialno = [] then s.bootSerialno else s.serialno

/-- FNV-1a, 64 bits. -/
def fnv1a (serial : List UInt8) : UInt64 :=
  serial.foldl (fun h c => (h ^^^ c.toUInt64) * 0x100000001b3) 0xcbf29ce484222325

/-- `derive_addr` -/
def deriveAddr (s : Serial) : BdAddr :=
  let h := fnv1a s.text
  ⟨[0x02, (h >>> 32).toUInt8, (h >>> 24).toUInt8, (h >>> 16).toUInt8, (h >>> 8).toUInt8,
    h.toUInt8], rfl⟩

/-- The address is one of a unit that is administered locally. -/
theorem deriveAddr_valid (s : Serial) : addrIsValid (deriveAddr s) = true := by
  have hfirst : ∀ a : BdAddr, a.bytes.head? ≠ some 0x02 → deriveAddr s ≠ a := by
    rintro a hhead rfl
    exact hhead rfl
  rw [addrIsValid, decide_eq_true (hfirst _ (by decide)), decide_eq_true (hfirst _ (by decide)),
    decide_eq_true (hfirst _ (by decide)), decide_eq_true (hfirst _ (by decide))]
  rfl

/-! ## The text -/

/-- `%02X` -/
def hexPair (b : UInt8) : List UInt8 := Hex.encode true [b]

/-- `%02X:%02X:%02X:%02X:%02X:%02X` -/
def text (a : BdAddr) : List UInt8 := [':'.toUInt8].intercalate (a.bytes.map hexPair)

/-- The byte that two digits stand for. -/
def decodePair (s : List UInt8) : Option UInt8 :=
  match Hex.decode s with
  | some [b] => some b
  | _ => none

/-- The bytes between the colons of a text. -/
def decodeText (t : List UInt8) : Option (List UInt8) := (t.splitOn ':'.toUInt8).mapM decodePair

theorem decodePair_hexPair (b : UInt8) : decodePair (hexPair b) = some b := by
  rw [decodePair, hexPair, Hex.decode_encode]

theorem colon_not_mem_hexPair (b : UInt8) : ':'.toUInt8 ∉ hexPair b := by
  have hdigit : ∀ v < 16, ':'.toUInt8 ≠ Hex.digit true v := by decide
  have hb := b.toNat_lt
  rw [hexPair, Hex.encode, Hex.encode, List.mem_cons, List.mem_singleton, not_or]
  exact ⟨hdigit _ (by omega), hdigit _ (by omega)⟩

theorem mapM_decodePair (bs : List UInt8) : (bs.map hexPair).mapM decodePair = some bs := by
  induction bs with
  | nil => rfl
  | cons b bs ih => simp [decodePair_hexPair, ih]

theorem decodeText_text (a : BdAddr) : decodeText (text a) = some a.bytes := by
  have hne : a.bytes.map hexPair ≠ [] := by
    intro hnil
    have hlen := congrArg List.length hnil
    rw [List.length_map, a.length_eq] at hlen
    exact absurd hlen (by decide)
  rw [decodeText, text, List.splitOn_intercalate _ _ hne, mapM_decodePair]
  intro l hl
  obtain ⟨b, -, rfl⟩ := List.mem_map.1 hl
  exact colon_not_mem_hexPair b

/-- The text and its end fill the buffer. -/
theorem length_text (a : BdAddr) : (text a).length = 17 := by
  obtain ⟨bytes, hlen⟩ := a
  match bytes, hlen with
  | [_, _, _, _, _, _], _ => rfl

/-! ## A run -/

/-- The two places of the NVRAM record. -/
inductive Path where
  | nvram
  | alt
  deriving DecidableEq

/-- What is in the two files; `none` for a file that cannot be opened. -/
structure Files where
  nvram : Option (List UInt8)
  alt : Option (List UInt8)
  deriving DecidableEq

namespace Files

def get (f : Files) : Path → Option (List UInt8)
  | .nvram => f.nvram
  | .alt => f.alt

def set (f : Files) (p : Path) (content : List UInt8) : Files :=
  match p with
  | .nvram => { f with nvram := some content }
  | .alt => { f with alt := some content }

/-- `nvram_path`: the first of the files that can be opened. -/
def path (f : Files) : Path := if f.nvram.isSome then .nvram else .alt

end Files

/-- `read(fd, addr, 6) == 6` -/
def readAddr (content : List UInt8) : Option BdAddr :=
  if h : 6 ≤ content.length then some ⟨content.take 6, by rw [List.length_take]; omega⟩ else none

/-- `write(fd, addr, 6)` -/
def writeAddr (content : List UInt8) (a : BdAddr) : List UInt8 := a.bytes ++ content.drop 6

/-- The address in NVRAM, if it is readable. -/
def Files.stored (f : Files) : Option BdAddr := (f.get f.path).bind readAddr

/-- `main`: the files afterwards, and the text for `OUT_PATH`.  `writes` says whether the write to
NVRAM succeeds. -/
def main (serial : Serial) (writes : Bool) (f : Files) : Files × List UInt8 :=
  match f.stored with
  | some addr =>
    if addrIsValid addr then (f, text addr)
    else
      let addr := deriveAddr serial
      match f.get f.path, writes with
      | some content, true => (f.set f.path (writeAddr content addr), text addr)
      | _, _ => (f, text addr)
  | none => (f, text (deriveAddr serial))

/-! ## What a run leaves -/

section Runs

variable {serial : Serial} {f : Files} {addr : BdAddr}

theorem main_of_valid (hstored : f.stored = some addr) (hvalid : addrIsValid addr = true)
    (writes : Bool) : main serial writes f = (f, text addr) := by
  rw [main, hstored]
  exact if_pos hvalid

theorem main_of_unreadable (hstored : f.stored = none) (writes : Bool) :
    main serial writes f = (f, text (deriveAddr serial)) := by
  rw [main, hstored]

/-- Without an address of the unit the text is that of the derived one. -/
theorem main_text_of_invalid (hstored : f.stored = some addr)
    (hvalid : ¬ addrIsValid addr = true) (writes : Bool) :
    (main serial writes f).2 = text (deriveAddr serial) := by
  rw [main, hstored]
  show (if addrIsValid addr = true then _ else _ : Files × List UInt8).2 = _
  rw [if_neg hvalid]
  dsimp only
  split <;> rfl

/-- The record holds what was written to it. -/
theorem readAddr_writeAddr (content : List UInt8) (a : BdAddr) :
    readAddr (writeAddr content a) = some a := by
  obtain ⟨bytes, hlen⟩ := a
  have hfits : 6 ≤ (writeAddr content ⟨bytes, hlen⟩).length := by
    rw [writeAddr, List.length_append, hlen]
    omega
  have htake : (writeAddr content ⟨bytes, hlen⟩).take 6 = bytes := by
    rw [writeAddr, ← hlen, List.take_left]
  rw [readAddr, dif_pos hfits]
  simp only [htake]

theorem stored_set {content : List UInt8} (hget : f.get f.path = some content) (a : BdAddr) :
    (f.set f.path (writeAddr content a)).stored = some a := by
  obtain ⟨nvram, alt⟩ := f
  cases nvram with
  | some c => exact readAddr_writeAddr content a
  | none => exact readAddr_writeAddr content a

/-- The write-back leaves the derived address in NVRAM. -/
theorem stored_main_of_invalid (hstored : f.stored = some addr)
    (hvalid : ¬ addrIsValid addr = true) :
    (main serial true f).1.stored = some (deriveAddr serial) := by
  obtain ⟨content, hget, -⟩ := Option.bind_eq_some_iff.1 hstored
  rw [main, hstored]
  show (if addrIsValid addr = true then _ else _ : Files × List UInt8).1.stored = _
  rw [if_neg hvalid, hget]
  exact stored_set hget _

/-- A write-back without effect leaves the files as they are. -/
theorem main_files_of_no_effect (hstored : f.stored = some addr) :
    (main serial false f).1 = f := by
  rw [main, hstored]
  show (if addrIsValid addr = true then _ else _ : Files × List UInt8).1 = _
  split
  · rfl
  · dsimp only
    split
    · rename_i htrue
      exact nomatch htrue
    · rfl

/-- The files that a run leaves have what it exports: it stays so in any later run. -/
theorem main_text_again (serial : Serial) (writes again : Bool) (f : Files) :
    (main serial again (main serial writes f).1).2 = (main serial writes f).2 := by
  cases hstored : f.stored with
  | none => rw [main_of_unreadable hstored, main_of_unreadable hstored]
  | some addr =>
      by_cases hvalid : addrIsValid addr = true
      · rw [main_of_valid hstored hvalid, main_of_valid hstored hvalid]
      · rw [main_text_of_invalid hstored hvalid]
        cases writes with
        | true =>
            rw [main_of_valid (stored_main_of_invalid hstored hvalid) (deriveAddr_valid serial)]
        | false =>
            rw [main_files_of_no_effect hstored, main_text_of_invalid hstored hvalid]

end Runs

/-! ## Main result -/

/-- **The exported address is stable.**  It is valid; it is that of NVRAM, when NVRAM is readable
and takes what is written to it; and the next run exports it again and changes nothing. -/
theorem provisioning_stable (serial : Serial) (writes : Bool) (f : Files) :
    ∃ exported : BdAddr, decodeText (main serial writes f).2 = some exported.bytes ∧
      addrIsValid exported = true ∧
      (∀ again, (main serial again (main serial writes f).1).2 = (main serial writes f).2) ∧
      ∀ addr, f.stored = some addr → addrIsValid addr = true ∨ writes = true →
        (main serial writes f).1.stored = some exported ∧
          ∀ again, main serial again (main serial writes f).1 = main serial writes f := by
  have hagain := fun again => main_text_again serial writes again f
  cases hstored : f.stored with
  | none =>
      refine ⟨deriveAddr serial, ?_, deriveAddr_valid serial, hagain, fun _ haddr => nomatch haddr⟩
      rw [main_of_unreadable hstored, decodeText_text]
  | some addr =>
      by_cases hvalid : addrIsValid addr = true
      · have hmain : main serial writes f = (f, text addr) := main_of_valid hstored hvalid writes
        refine ⟨addr, ?_, hvalid, hagain, fun _ haddr _ => ?_⟩
        · rw [hmain, decodeText_text]
        · rw [hmain]
          exact ⟨hstored, fun again => main_of_valid hstored hvalid again⟩
      · have htext : (main serial writes f).2 = text (deriveAddr serial) :=
          main_text_of_invalid hstored hvalid writes
        refine ⟨deriveAddr serial, ?_, deriveAddr_valid serial, hagain, fun a haddr hwrites => ?_⟩
        · rw [htext, decodeText_text]
        · cases haddr
          have htrue : writes = true := hwrites.resolve_left hvalid
          subst htrue
          have hkept : (main serial true f).1.stored = some (deriveAddr serial) :=
            stored_main_of_invalid hstored hvalid
          refine ⟨hkept, fun again => ?_⟩
          rw [main_of_valid hkept (deriveAddr_valid serial), ← htext]

end Bluetooth
