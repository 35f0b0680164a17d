/-
# Where a MAL request goes

`malDispatch` derives two numbers from the SIM id of a frame: the socket id it hands to
the vendor, and the channel whose mutex it holds meanwhile.  The library is built with
traps on integer overflow, signed and unsigned.

The main result, `routedToSlot_iff`, says for which SIM ids the two are what the rest of
libril expects.
-/
import Ct07.Lib.Word
import Ct07.Ril.ChannelQueue

open Word Ril

namespace Mal

/-! ## The arithmetic of `malDispatch` -/

/-- `RIL_SOCKET_1`. -/
def rilSocket1 : ℕ := 0

/-- The socket id and the channel of a MAL request. -/
structure Routing where
  socketId : ℕ
  chan : ℤ
  deriving DecidableEq

/-- The socket id and the channel that `malDispatch` computes for a SIM id.  `none` when
the arithmetic traps. -/
def malRouting (simCount : ℕ) (simId : UInt32) : Option Routing := do
  let next ← checkedUInt32 (simId.toNat + 1)
  let socketId := if next ≤ simCount then next else rilSocket1
  let chan ← checkedInt32 (toInt32 simId * 6)
  some ⟨socketId, chan⟩

/-- What a SIM id has to get: no trap, a socket id that names a slot, and, when it names a
slot itself, that slot's socket id and one of that SIM's channel mutexes. -/
def RoutedToSlot (simCount : ℕ) (simId : UInt32) : Prop :=
  ∃ r, malRouting simCount simId = some r ∧ r.socketId < rilSocket1 + simCount ∧
    (simId.toNat < simCount → r.socketId = rilSocket1 + simId.toNat ∧
      mtkChannelIndex r.chan / rilChannelOffset = simId.toNat)

/-- The SIM ids whose arithmetic does not trap: below 357913942, or close enough to `2 ^ 32`
to be small negative numbers, `2 ^ 32 - 1` excepted. -/
def NoOverflow (simId : UInt32) : Prop :=
  simId.toNat ≤ 357913941 ∨ 3937053355 ≤ simId.toNat ∧ simId.toNat < 2 ^ 32 - 1

instance (simId : UInt32) : Decidable (NoOverflow simId) := inferInstanceAs (Decidable (_ ∨ _))

/-! ## Which SIM ids are routed as they should be -/

/-- The arithmetic does not trap exactly for these SIM ids. -/
theorem malRouting_isSome_iff (simCount : ℕ) (simId : UInt32) :
    (∃ r, malRouting simCount simId = some r) ↔ NoOverflow simId := by
  have hlt := simId.toNat_lt
  simp only [malRouting, Option.bind_eq_bind, Option.bind_eq_some_iff, checkedUInt32_eq_some,
    checkedInt32_eq_some, toInt32, NoOverflow]
  constructor
  · rintro ⟨-, next, ⟨-, hnext⟩, chan, ⟨-, hlow, hhigh⟩, -⟩
    split at hlow <;> omega
  · intro h
    refine ⟨_, _, ⟨rfl, by omega⟩, _, ⟨rfl, ?_, ?_⟩, rfl⟩
    · split <;> omega
    · split <;> omega

/-- The socket id is one too high for the ids that name a slot, and the first socket's for
all others. -/
theorem malRouting_socketId {simCount : ℕ} {simId : UInt32} {r : Routing}
    (h : malRouting simCount simId = some r) :
    r.socketId = if simId.toNat < simCount then simId.toNat + 1 else rilSocket1 := by
  simp only [malRouting, Option.bind_eq_bind, Option.bind_eq_some_iff,
    checkedUInt32_eq_some, Option.some.injEq] at h
  obtain ⟨next, ⟨rfl, -⟩, chan, -, rfl⟩ := h
  by_cases hlt : simId.toNat < simCount
  · rw [if_pos hlt, if_pos (Nat.succ_le_of_lt hlt)]
  · rw [if_neg hlt, if_neg (by omega)]

/-- **Which SIM ids are routed as they should be.**  In a library for any number of SIMs:
exactly those that name no slot and do not trap. -/
theorem routedToSlot_iff (simCount : ℕ) (hcount : 0 < simCount) (simId : UInt32) :
    RoutedToSlot simCount simId ↔ simCount ≤ simId.toNat ∧ NoOverflow simId := by
  constructor
  · rintro ⟨r, hr, -, hslot⟩
    refine ⟨?_, (malRouting_isSome_iff simCount simId).1 ⟨r, hr⟩⟩
    by_contra hlt
    have hown := (hslot (by omega)).1
    rw [malRouting_socketId hr, if_pos (by omega), rilSocket1] at hown
    omega
  · rintro ⟨hle, hno⟩
    obtain ⟨r, hr⟩ := (malRouting_isSome_iff simCount simId).2 hno
    refine ⟨r, hr, ?_, fun hlt => by omega⟩
    rw [malRouting_socketId hr, if_neg (by omega), rilSocket1]
    omega

/-- `routedToSlot_iff` for the two SIMs of this build, at a SIM id that names none. -/
theorem routedToSlot_two : 0 < 2 ∧
    (RoutedToSlot 2 5 ↔ 2 ≤ (5 : UInt32).toNat ∧ NoOverflow 5) :=
  ⟨by decide, routedToSlot_iff 2 (by decide) 5⟩

/-- A frame for the first SIM is handed to the socket of the second. -/
theorem firstSim_not_routedToSlot :
    ¬ ∀ (simCount : ℕ), 0 < simCount → ∀ simId : UInt32, RoutedToSlot simCount simId := by
  intro hall
  obtain ⟨r, hr, -, hslot⟩ := hall 2 (by decide) 0
  have hrouting : malRouting 2 0 = some ⟨1, 0⟩ := by decide
  rw [hrouting] at hr
  cases hr
  exact absurd (hslot (by decide)).1 (by decide)

end Mal
