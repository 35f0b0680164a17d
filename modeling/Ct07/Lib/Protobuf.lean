/-
# The wire format of protocol buffers

A message is a sequence of fields.  A field is a key, which gives its number and how its value is
written, and the value: a number, or a length and as many bytes.  Numbers are varints: seven bits
a byte, the lowest first, with the top bit set in every byte but the last.

* `Varint.codec`, `Field.codec` : numbers and fields as prefix codecs;
* `decode_encode` : a message is read back;
* `bytes_length_le` : no bytes come out of a message that is shorter than they are.
-/
import Ct07.Lib.PrefixCodec

namespace Protobuf

/-! ## Numbers -/

namespace Varint

def encode (n : ℕ) : List UInt8 :=
  if n < 128 then [UInt8.ofNat n] else UInt8.ofNat (n % 128 + 128) :: encode (n / 128)
termination_by n
decreasing_by omega

def decode : List UInt8 → Option (ℕ × List UInt8)
  | [] => none
  | b :: bs =>
    if b.toNat < 128 then some (b.toNat, bs)
    else (decode bs).map fun p => (b.toNat - 128 + 128 * p.1, p.2)

theorem encode_of_lt {n : ℕ} (h : n < 128) : encode n = [UInt8.ofNat n] := by
  rw [encode, if_pos h]

theorem encode_of_ge {n : ℕ} (h : 128 ≤ n) :
    encode n = UInt8.ofNat (n % 128 + 128) :: encode (n / 128) := by
  rw [encode, if_neg (by omega)]

theorem toNat_ofNat {n : ℕ} (h : n < 256) : (UInt8.ofNat n).toNat = n := by
  rw [UInt8.toNat_ofNat']
  omega

theorem decode_encode (n : ℕ) (rest : List UInt8) : decode (encode n ++ rest) = some (n, rest) := by
  induction n using Nat.strongRecOn with
  | ind n ih =>
      by_cases h : n < 128
      · rw [encode_of_lt h, List.singleton_append, decode, toNat_ofNat (by omega), if_pos h]
      · rw [encode_of_ge (by omega), List.cons_append, decode, toNat_ofNat (by omega),
          if_neg (by omega), ih (n / 128) (by omega)]
        show some (n % 128 + 128 - 128 + 128 * (n / 128), rest) = some (n, rest)
        rw [show n % 128 + 128 - 128 + 128 * (n / 128) = n by omega]

theorem decode_shorter {bs rest : List UInt8} {n : ℕ} (h : decode bs = some (n, rest)) :
    rest.length < bs.length := by
  induction bs generalizing n rest with
  | nil => exact absurd h (by simp [decode])
  | cons b bs ih =>
      rw [decode] at h
      split at h
      · cases h
        exact Nat.lt_succ_self _
      · obtain ⟨p, hp, h⟩ := Option.map_eq_some_iff.1 h
        cases h
        exact Nat.lt_succ_of_lt (ih hp)

def codec : PrefixCodec ℕ UInt8 where
  encode := encode
  decode := decode
  decode_encode := decode_encode
  decode_shorter := decode_shorter

theorem length_one {n : ℕ} (h : n < 128) : (encode n).length = 1 := by
  rw [encode_of_lt h, List.length_singleton]

theorem length_succ {n : ℕ} (h : 128 ≤ n) : (encode n).length = (encode (n / 128)).length + 1 := by
  rw [encode_of_ge h, List.length_cons]

theorem length_three {n : ℕ} (h : 16384 ≤ n) (h' : n < 2097152) : (encode n).length = 3 := by
  rw [length_succ (by omega), length_succ (by omega), length_one (by omega)]

theorem length_le_three {n : ℕ} (h : n < 2097152) : (encode n).length ≤ 3 := by
  by_cases hone : n < 128
  · rw [length_one hone]
    omega
  · by_cases htwo : n / 128 < 128
    · rw [length_succ (by omega), length_one htwo]
      omega
    · exact Nat.le_of_eq (length_three (by omega) h)

end Varint

/-! ## Fields -/

inductive Value where
  | varint (n : ℕ)
  | bytes (bs : List UInt8)
  deriving DecidableEq

/-- The bytes that a value has of its own. -/
def Value.length : Value → ℕ
  | .varint _ => 0
  | .bytes bs => bs.length

structure Field where
  number : ℕ
  value : Value
  deriving DecidableEq

namespace Field

def encode : Field → List UInt8
  | ⟨number, .varint n⟩ => Varint.encode (8 * number) ++ Varint.encode n
  | ⟨number, .bytes bs⟩ => Varint.encode (8 * number + 2) ++ (Varint.encode bs.length ++ bs)

/-- The value behind a key, as the lowest three bits of the key say. -/
def decodeValue (wireType : ℕ) (bs : List UInt8) : Option (Value × List UInt8) :=
  match wireType with
  | 0 => (Varint.decode bs).map fun p => (.varint p.1, p.2)
  | 2 => (Varint.decode bs).bind fun p =>
      if p.2.length < p.1 then none else some (.bytes (p.2.take p.1), p.2.drop p.1)
  | _ => none

def decode (bs : List UInt8) : Option (Field × List UInt8) :=
  (Varint.decode bs).bind fun key =>
    (decodeValue (key.1 % 8) key.2).map fun p => (⟨key.1 / 8, p.1⟩, p.2)

theorem decode_encode (f : Field) (rest : List UInt8) :
    decode (f.encode ++ rest) = some (f, rest) := by
  obtain ⟨number, value⟩ := f
  cases value with
  | varint n =>
      rw [encode, decode, List.append_assoc, Varint.decode_encode, Option.bind_some]
      have hkey : 8 * number % 8 = 0 := by omega
      have hnumber : 8 * number / 8 = number := by omega
      simp only [hkey, hnumber, decodeValue, Varint.decode_encode, Option.map_some]
  | bytes bs =>
      rw [encode, decode, List.append_assoc, Varint.decode_encode, Option.bind_some]
      have hkey : (8 * number + 2) % 8 = 2 := by omega
      have hnumber : (8 * number + 2) / 8 = number := by omega
      have hinside : ¬ (bs ++ rest).length < bs.length := by
        rw [List.length_append]
        omega
      simp only [hkey, hnumber, decodeValue, List.append_assoc, Varint.decode_encode,
        Option.bind_some, if_neg hinside, List.take_left, List.drop_left, Option.map_some]

theorem decodeValue_size {wireType : ℕ} {bs rest : List UInt8} {v : Value}
    (h : decodeValue wireType bs = some (v, rest)) : v.length + rest.length < bs.length := by
  unfold decodeValue at h
  split at h
  · obtain ⟨p, hp, h⟩ := Option.map_eq_some_iff.1 h
    cases h
    rw [Value.length, Nat.zero_add]
    exact Varint.decode_shorter hp
  · obtain ⟨p, hp, h⟩ := Option.bind_eq_some_iff.1 h
    have hlt := Varint.decode_shorter hp
    split at h
    · exact absurd h (by simp)
    · cases h
      rw [Value.length, List.length_take, List.length_drop]
      omega
  · exact absurd h (by simp)

theorem decode_size {bs rest : List UInt8} {f : Field} (h : decode bs = some (f, rest)) :
    f.value.length + rest.length < bs.length := by
  obtain ⟨key, hkey, h⟩ := Option.bind_eq_some_iff.1 h
  obtain ⟨p, hp, h⟩ := Option.map_eq_some_iff.1 h
  cases h
  exact Nat.lt_trans (decodeValue_size hp) (Varint.decode_shorter hkey)

def codec : PrefixCodec Field UInt8 where
  encode := encode
  decode := decode
  decode_encode := decode_encode
  decode_shorter := fun h => Nat.lt_of_le_of_lt (Nat.le_add_left _ _) (decode_size h)

end Field

/-! ## Messages -/

def encode (fields : List Field) : List UInt8 := fields.flatMap Field.encode

/-- The fields of a message, unless something else is left over. -/
def decode (bs : List UInt8) : Option (List Field) :=
  if (Field.codec.decodeAll bs).2 = [] then some (Field.codec.decodeAll bs).1 else none

theorem decode_encode (fields : List Field) : decode (encode fields) = some fields := by
  have h := PrefixCodec.decodeAll_flatMap (C := Field.codec) fields PrefixCodec.decode_nil
  rw [List.append_nil] at h
  change Field.codec.decodeAll (encode fields) = (fields, []) at h
  rw [decode, h, if_pos rfl]

/-- The value of a field: the last one in the message. -/
def lookup (number : ℕ) (fields : List Field) : Option Value :=
  ((fields.filter fun f => f.number = number).getLast?).map Field.value

theorem bytes_length_le {bs v : List UInt8} {fields : List Field} {number : ℕ}
    (hd : decode bs = some fields) (hv : lookup number fields = some (.bytes v)) :
    v.length ≤ bs.length := by
  obtain ⟨f, hf, hvalue⟩ := Option.map_eq_some_iff.1 hv
  have hmem : f ∈ fields := (List.mem_filter.1 (List.mem_of_getLast? hf)).1
  rw [decode] at hd
  split at hd
  · cases hd
    have hle := PrefixCodec.size_le_of_mem_decodeAll (C := Field.codec) (fun f => f.value.length)
      (fun h => Nat.le_of_lt (Field.decode_size h)) hmem
    rw [hvalue] at hle
    exact hle
  · exact absurd hd (by simp)

end Protobuf
