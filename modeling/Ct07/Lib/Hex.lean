/-
# Hexadecimal text

Two digits for each byte, of either case.  Characters are bytes.

* `Hex.value` : the value of a digit;
* `Hex.decode` : the bytes that a text stands for, unless it has an odd length or a character that
  is no digit (`decode_isSome_iff`);
* `Hex.encode` : the text of the bytes, in one of the cases; `decode_encode` reads it back.
-/
import Mathlib.Data.List.Basic
import Mathlib.Data.Nat.Notation

namespace Hex

/-! ## Digits -/

/-- The digit of a value below 16. -/
def digit (upper : Bool) (v : ℕ) : UInt8 :=
  UInt8.ofNat (((if upper then "0123456789ABCDEF" else "0123456789abcdef").toList.getD v ' ').toNat)

def value (c : UInt8) : Option ℕ :=
  (List.range 16).find? fun v => c = digit true v ∨ c = digit false v

theorem value_digit (upper : Bool) {v : ℕ} (h : v < 16) : value (digit upper v) = some v := by
  revert upper v
  decide

theorem value_lt {c : UInt8} {v : ℕ} (h : value c = some v) : v < 16 :=
  List.mem_range.1 (List.mem_of_find?_eq_some h)

/-! ## Texts -/

def decode : List UInt8 → Option (List UInt8)
  | [] => some []
  | [_] => none
  | c :: d :: text =>
    match value c, value d with
    | some hi, some lo => (decode text).map (UInt8.ofNat (16 * hi + lo) :: ·)
    | _, _ => none

def encode (upper : Bool) : List UInt8 → List UInt8
  | [] => []
  | b :: bytes => digit upper (b.toNat / 16) :: digit upper (b.toNat % 16) :: encode upper bytes

theorem decode_cons {c d : UInt8} {hi lo : ℕ} (hc : value c = some hi) (hd : value d = some lo)
    (text : List UInt8) :
    decode (c :: d :: text) = (decode text).map (UInt8.ofNat (16 * hi + lo) :: ·) := by
  rw [decode, hc, hd]

theorem decode_encode (upper : Bool) (bytes : List UInt8) :
    decode (encode upper bytes) = some bytes := by
  induction bytes with
  | nil => rfl
  | cons b bytes ih =>
      have hb := b.toNat_lt
      have hbyte : 16 * (b.toNat / 16) + b.toNat % 16 = b.toNat := by omega
      rw [encode, decode_cons (value_digit upper (by omega)) (value_digit upper (by omega)), ih,
        hbyte, UInt8.ofNat_toNat]
      rfl

theorem length_encode (upper : Bool) (bytes : List UInt8) :
    (encode upper bytes).length = 2 * bytes.length := by
  induction bytes with
  | nil => rfl
  | cons b bytes ih =>
      rw [encode, List.length_cons, List.length_cons, List.length_cons, ih]
      omega

/-- Two characters a byte. -/
theorem length_decode {text bytes : List UInt8} (h : decode text = some bytes) :
    text.length = 2 * bytes.length := by
  fun_induction decode text generalizing bytes with
  | case1 =>
      cases h
      rfl
  | case2 c => exact nomatch h
  | case3 c d text hi lo hd hc ih =>
      obtain ⟨bytes, htext, rfl⟩ := Option.map_eq_some_iff.1 h
      rw [List.length_cons, List.length_cons, List.length_cons, ih htext]
      omega
  | case4 c d text hno => exact nomatch h

theorem half_length_decode {text bytes : List UInt8} (h : decode text = some bytes) :
    text.length / 2 = bytes.length := by
  rw [length_decode h]
  omega

/-- A text stands for bytes exactly when its length is even and all its characters are digits. -/
theorem decode_isSome_iff (text : List UInt8) :
    (decode text).isSome ↔ text.length % 2 = 0 ∧ ∀ c ∈ text, (value c).isSome := by
  fun_induction decode text with
  | case1 => simp
  | case2 c => simp
  | case3 c d text hi lo hd hc ih =>
      rw [Option.isSome_map, ih]
      simp only [List.length_cons, List.mem_cons, forall_eq_or_imp, hc, hd, Option.isSome_some,
        true_and]
      have hparity : (text.length + 1 + 1) % 2 = text.length % 2 := by omega
      rw [hparity]
  | case4 c d text hno =>
      constructor
      · exact fun h => nomatch h
      · rintro ⟨-, hall⟩
        obtain ⟨hi, hc⟩ := Option.isSome_iff_exists.1 (hall c (by simp))
        obtain ⟨lo, hd⟩ := Option.isSome_iff_exists.1 (hall d (by simp))
        exact (hno hi lo hc hd).elim

end Hex
