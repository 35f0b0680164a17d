/-
# Objects with tag, length and value

An object is its tag, the length of its value in one byte, and the value.  Objects stand one
behind another.  Bytes are natural numbers.

* `Tlv.codec` : objects as a prefix codec, so that a sequence of objects is split in one way;
* `Tlv.objects` : the objects that a sequence of bytes begins with.
-/
import Ct07.Lib.PrefixCodec

structure Tlv where
  tag : ℕ
  value : List ℕ
  deriving DecidableEq

namespace Tlv

def encode (t : Tlv) : List ℕ := t.tag :: t.value.length :: t.value

/-- The object at the front, if all of it is there. -/
def decode : List ℕ → Option (Tlv × List ℕ)
  | tag :: len :: bs => if bs.length < len then none else some (⟨tag, bs.take len⟩, bs.drop len)
  | _ => none

theorem decode_encode (t : Tlv) (rest : List ℕ) : decode (t.encode ++ rest) = some (t, rest) := by
  have hinside : ¬ (t.value ++ rest).length < t.value.length := by
    rw [List.length_append]
    omega
  show (if (t.value ++ rest).length < t.value.length then none
    else some (Tlv.mk t.tag ((t.value ++ rest).take t.value.length),
      (t.value ++ rest).drop t.value.length)) = _
  rw [if_neg hinside, List.take_left, List.drop_left]

theorem decode_shorter {bs rest : List ℕ} {t : Tlv} (h : decode bs = some (t, rest)) :
    rest.length < bs.length := by
  unfold decode at h
  split at h
  · split at h
    · exact absurd h (by simp)
    · cases h
      rw [List.length_drop, List.length_cons, List.length_cons]
      omega
  · exact absurd h (by simp)

def codec : PrefixCodec Tlv ℕ where
  encode := encode
  decode := decode
  decode_encode := decode_encode
  decode_shorter := decode_shorter

/-- The objects that a sequence of bytes begins with. -/
def objects (bs : List ℕ) : List Tlv := (codec.decodeAll bs).1

theorem objects_none {bs : List ℕ} (h : decode bs = none) : objects bs = [] := by
  rw [objects, PrefixCodec.decodeAll_none (C := codec) h]

theorem objects_some {bs rest : List ℕ} {t : Tlv} (h : decode bs = some (t, rest)) :
    objects bs = t :: objects rest := by
  rw [objects, PrefixCodec.decodeAll_some (C := codec) h, objects]

/-- A sequence of objects is read back. -/
theorem objects_flatMap (ts : List Tlv) : objects (ts.flatMap encode) = ts := by
  have h := PrefixCodec.decodeAll_flatMap (C := codec) ts PrefixCodec.decode_nil
  rw [List.append_nil] at h
  exact congrArg Prod.fst h

end Tlv
