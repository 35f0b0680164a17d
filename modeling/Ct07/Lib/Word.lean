/-
# Machine words

Words of 32 bits as they go over a byte stream, and signed arithmetic that traps.

* `getLE`, `putLE`, `getBE`, `putBE` : the two byte orders, written with shifts and
  masks as C code writes them, and that reading gives back what was written;
* `takeLE`, `takeBE` : a word at the front of a sequence of bytes;
* `toInt32` : the conversion of an unsigned word to a signed one;
* `checkedInt32`, `checkedUInt32` : a result that fits its type, or a trap.
-/
import Mathlib.Algebra.Ring.Int.Defs
import Mathlib.Algebra.Ring.Nat

namespace Word

/-! ## Byte orders -/

/-- The word with the bytes `b0`, `b1`, `b2`, `b3`, the least significant first. -/
def getLE (b0 b1 b2 b3 : UInt8) : UInt32 :=
  b0.toUInt32 ||| (b1.toUInt32 <<< 8) ||| (b2.toUInt32 <<< 16) ||| (b3.toUInt32 <<< 24)

/-- The word with the bytes `b0`, `b1`, `b2`, `b3`, the most significant first. -/
def getBE (b0 b1 b2 b3 : UInt8) : UInt32 :=
  (b0.toUInt32 <<< 24) ||| (b1.toUInt32 <<< 16) ||| (b2.toUInt32 <<< 8) ||| b3.toUInt32

/-- The byte of `v` at bit `k`. -/
def byteAt (v k : UInt32) : UInt8 := ((v >>> k) &&& 0xff).toUInt8

/-- The bytes of a word, the least significant first. -/
def putLE (v : UInt32) : List UInt8 := [byteAt v 0, byteAt v 8, byteAt v 16, byteAt v 24]

/-- The bytes of a word, the most significant first. -/
def putBE (v : UInt32) : List UInt8 := [byteAt v 24, byteAt v 16, byteAt v 8, byteAt v 0]

@[simp] theorem length_putLE (v : UInt32) : (putLE v).length = 4 := rfl

@[simp] theorem length_putBE (v : UInt32) : (putBE v).length = 4 := rfl

/-- Both orders read the same bytes. -/
theorem getBE_eq_getLE (b0 b1 b2 b3 : UInt8) : getBE b0 b1 b2 b3 = getLE b3 b2 b1 b0 := by
  simp only [getBE, getLE, UInt32.or_comm, UInt32.or_assoc]

/-- Bits above `k` do not meet the bits of a number below `2 ^ k`. -/
theorem or_shift_eq_add {low k : ℕ} (high : ℕ) (h : low < 2 ^ k) :
    low ||| high <<< k = low + high * 2 ^ k := by
  rw [Nat.or_comm, ← Nat.shiftLeft_add_eq_or_of_lt h, Nat.shiftLeft_eq, Nat.add_comm]

/-- The value of a word from its bytes. -/
theorem toNat_getLE (b0 b1 b2 b3 : UInt8) : (getLE b0 b1 b2 b3).toNat =
    b0.toNat + b1.toNat * 2 ^ 8 + b2.toNat * 2 ^ 16 + b3.toNat * 2 ^ 24 := by
  have h0 := b0.toNat_lt
  have h1 := b1.toNat_lt
  have h2 := b2.toNat_lt
  have h3 := b3.toNat_lt
  have hshift : ∀ (b : UInt8) (k : UInt32), k.toNat ≤ 24 →
      (b.toUInt32 <<< k).toNat = b.toNat <<< k.toNat := by
    intro b k hk
    have hb := b.toNat_lt
    have hpow : b.toNat * 2 ^ k.toNat < 2 ^ 8 * 2 ^ 24 :=
      Nat.mul_lt_mul_of_lt_of_le hb (Nat.pow_le_pow_right (by decide) hk) (by decide)
    rw [UInt32.toNat_shiftLeft, UInt8.toNat_toUInt32, Nat.mod_eq_of_lt (by omega : k.toNat < 32),
      Nat.mod_eq_of_lt (by rw [Nat.shiftLeft_eq]; omega)]
  simp only [getLE, UInt32.toNat_or, UInt8.toNat_toUInt32]
  rw [hshift b1 8 (by decide), hshift b2 16 (by decide), hshift b3 24 (by decide)]
  change b0.toNat ||| b1.toNat <<< 8 ||| b2.toNat <<< 16 ||| b3.toNat <<< 24 = _
  rw [or_shift_eq_add _ h0, or_shift_eq_add (k := 16) _ (by omega),
    or_shift_eq_add (k := 24) _ (by omega)]

theorem toNat_byteAt (v k : UInt32) (hk : k.toNat < 32) :
    (byteAt v k).toNat = v.toNat / 2 ^ k.toNat % 256 := by
  have hand := Nat.and_two_pow_sub_one_eq_mod (v.toNat >>> k.toNat) 8
  simp only [byteAt, UInt32.toNat_toUInt8, UInt32.toNat_and, UInt32.toNat_shiftRight,
    Nat.mod_eq_of_lt hk]
  change (v.toNat >>> k.toNat &&& 255) % 256 = _
  rw [hand, Nat.shiftRight_eq_div_pow, Nat.mod_mod]

/-- Reading a word back that was written with the least significant byte first. -/
theorem getLE_byteAt (v : UInt32) :
    getLE (byteAt v 0) (byteAt v 8) (byteAt v 16) (byteAt v 24) = v := by
  have hv := v.toNat_lt
  apply UInt32.toNat_inj.1
  rw [toNat_getLE, toNat_byteAt v 0 (by decide), toNat_byteAt v 8 (by decide),
    toNat_byteAt v 16 (by decide), toNat_byteAt v 24 (by decide)]
  simp only [UInt32.reduceToNat]
  omega

/-- Reading a word back that was written with the most significant byte first. -/
theorem getBE_byteAt (v : UInt32) :
    getBE (byteAt v 24) (byteAt v 16) (byteAt v 8) (byteAt v 0) = v := by
  rw [getBE_eq_getLE, getLE_byteAt]

/-- The word at the front of a sequence of bytes, the least significant first. -/
def takeLE : List UInt8 → Option (UInt32 × List UInt8)
  | b0 :: b1 :: b2 :: b3 :: bs => some (getLE b0 b1 b2 b3, bs)
  | _ => none

/-- The word at the front of a sequence of bytes, the most significant first. -/
def takeBE : List UInt8 → Option (UInt32 × List UInt8)
  | b0 :: b1 :: b2 :: b3 :: bs => some (getBE b0 b1 b2 b3, bs)
  | _ => none

@[simp] theorem takeLE_putLE (v : UInt32) (bs : List UInt8) :
    takeLE (putLE v ++ bs) = some (v, bs) := by
  show some (getLE _ _ _ _, bs) = _
  rw [getLE_byteAt]

@[simp] theorem takeBE_putBE (v : UInt32) (bs : List UInt8) :
    takeBE (putBE v ++ bs) = some (v, bs) := by
  show some (getBE _ _ _ _, bs) = _
  rw [getBE_byteAt]

theorem length_takeBE {bs rest : List UInt8} {v : UInt32} (h : takeBE bs = some (v, rest)) :
    bs.length = rest.length + 4 := by
  unfold takeBE at h
  split at h
  · cases h
    rfl
  · exact absurd h (by simp)

/-- What follows the word stays behind it. -/
theorem takeBE_append {bs rest : List UInt8} {v : UInt32} (h : takeBE bs = some (v, rest))
    (more : List UInt8) : takeBE (bs ++ more) = some (v, rest ++ more) := by
  unfold takeBE at h
  split at h
  · cases h
    rfl
  · exact absurd h (by simp)

/-! ## Signed words and trapping arithmetic -/

/-- The signed word with the bits of `v`. -/
def toInt32 (v : UInt32) : ℤ := if v.toNat < 2 ^ 31 then v.toNat else (v.toNat : ℤ) - 2 ^ 32

/-- A result of signed 32-bit arithmetic; `none` is the trap on overflow. -/
def checkedInt32 (i : ℤ) : Option ℤ := if -2 ^ 31 ≤ i ∧ i < 2 ^ 31 then some i else none

/-- A result of unsigned 32-bit arithmetic; `none` is the trap on overflow. -/
def checkedUInt32 (n : ℕ) : Option ℕ := if n < 2 ^ 32 then some n else none

theorem checkedInt32_eq_some {i j : ℤ} :
    checkedInt32 i = some j ↔ i = j ∧ -2 ^ 31 ≤ i ∧ i < 2 ^ 31 := by
  unfold checkedInt32
  split
  · simp only [Option.some.injEq]
    omega
  · simp only [reduceCtorEq, false_iff]
    omega

theorem checkedUInt32_eq_some {n m : ℕ} : checkedUInt32 n = some m ↔ n = m ∧ n < 2 ^ 32 := by
  unfold checkedUInt32
  split
  · simp only [Option.some.injEq]
    omega
  · simp only [reduceCtorEq, false_iff]
    omega

end Word
