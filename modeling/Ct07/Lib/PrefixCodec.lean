/-
# Codecs that say where a value ends

A prefix codec reads one value off the front of a sequence, and returns what is behind it.  So
values can be written one after another, and read back one after another.

* `PrefixCodec` : an encoder and a decoder that undoes it, whatever follows;
* `decodeAll` : the values at the front of a sequence, and what is left over;
* `decodeAll_flatMap` : a sequence of encoded values is split into these values;
* `size_le_of_mem_decodeAll` : what was read is no larger than what it was read from;
* `flatMap_encode_injective` : there is no other way to split it.
-/
import Mathlib.Data.List.Basic
import Mathlib.Data.Nat.Notation

/-- Values of type `α` as sequences of `β`. -/
structure PrefixCodec (α β : Type*) where
  encode : α → List β
  decode : List β → Option (α × List β)
  decode_encode : ∀ a rest, decode (encode a ++ rest) = some (a, rest)
  /-- what is decoded is taken off the sequence -/
  decode_shorter : ∀ {bs a rest}, decode bs = some (a, rest) → rest.length < bs.length

namespace PrefixCodec

variable {α β : Type*} (C : PrefixCodec α β)

/-- The values that a sequence begins with, and what is behind them. -/
def decodeAll (bs : List β) : List α × List β :=
  match _h : C.decode bs with
  | none => ([], bs)
  | some (a, rest) => ((decodeAll rest).1.cons a, (decodeAll rest).2)
termination_by bs.length
decreasing_by all_goals exact C.decode_shorter _h

variable {C}

theorem decodeAll_none {bs : List β} (h : C.decode bs = none) : C.decodeAll bs = ([], bs) := by
  rw [decodeAll]
  split <;> simp_all

theorem decodeAll_some {bs rest : List β} {a : α} (h : C.decode bs = some (a, rest)) :
    C.decodeAll bs = (a :: (C.decodeAll rest).1, (C.decodeAll rest).2) := by
  rw [decodeAll]
  split <;> simp_all

theorem decode_nil : C.decode [] = none := by
  cases h : C.decode [] with
  | none => rfl
  | some p => exact absurd (C.decode_shorter h) (Nat.not_lt_zero _)

/-- What is written can be read back, and what follows stays. -/
theorem decodeAll_flatMap (as : List α) {rest : List β} (h : C.decode rest = none) :
    C.decodeAll (as.flatMap C.encode ++ rest) = (as, rest) := by
  induction as with
  | nil => exact decodeAll_none h
  | cons a as ih =>
      rw [List.flatMap_cons, List.append_assoc, decodeAll_some (C.decode_encode a _), ih]

/-- A value that was read off a sequence is no larger than the sequence. -/
theorem size_le_of_mem_decodeAll (size : α → ℕ)
    (hsize : ∀ {bs a rest}, C.decode bs = some (a, rest) → size a + rest.length ≤ bs.length)
    {a : α} {bs : List β} (ha : a ∈ (C.decodeAll bs).1) : size a ≤ bs.length := by
  induction hn : bs.length using Nat.strongRecOn generalizing bs with
  | ind n ih =>
      subst hn
      cases hd : C.decode bs with
      | none =>
          rw [decodeAll_none hd] at ha
          exact absurd ha List.not_mem_nil
      | some p =>
          obtain ⟨b, rest⟩ := p
          have hle := hsize hd
          rw [decodeAll_some hd] at ha
          rcases List.mem_cons.1 ha with rfl | ha
          · omega
          · have := ih rest.length (C.decode_shorter hd) ha rfl
            omega

/-- A sequence of values is written in one way only. -/
theorem flatMap_encode_injective {as bs : List α}
    (h : as.flatMap C.encode = bs.flatMap C.encode) : as = bs := by
  have has := decodeAll_flatMap as (C := C) decode_nil
  have hbs := decodeAll_flatMap bs (C := C) decode_nil
  rw [List.append_nil] at has hbs
  rw [h, hbs] at has
  exact (congrArg Prod.fst has).symm

end PrefixCodec
