/-
# Arrays of records

Records that all take the same room stand one after another in an array, and record `i` begins
`width * i` elements behind the first one.  A loop over the indices reads the records back, and
so does one over an array of pointers, if each pointer leads to its record.

* `collect` : the results of a loop over the indices;
* `drop_flatMap` : where a record begins;
* `collect_getRecord` : the records are read back.
-/
import Ct07.Lib.PrefixCodec
import Mathlib.Algebra.Order.Group.Nat

namespace RecordArray

variable {α β : Type*}

/-- `for (k = i; k < i + n; k++)`, with what each round gives; `none` when a round fails. -/
def collect (f : ℕ → Option α) : ℕ → ℕ → Option (List α)
  | _, 0 => some []
  | i, n + 1 => do
      let a ← f i
      let rest ← collect f (i + 1) n
      return a :: rest

theorem collect_succ {f : ℕ → Option α} {i n : ℕ} {a : α} {as : List α} (ha : f i = some a)
    (has : collect f (i + 1) n = some as) : collect f i (n + 1) = some (a :: as) := by
  rw [collect, ha, has]
  rfl

/-- The loop gives the list that its rounds give the members of. -/
theorem collect_eq {f : ℕ → Option α} {i : ℕ} (as : List α)
    (h : ∀ k, k < as.length → f (i + k) = as[k]?) : collect f i as.length = some as := by
  induction as generalizing i with
  | nil => rfl
  | cons a as ih =>
      apply collect_succ
      · exact h 0 (Nat.succ_pos _)
      · apply ih
        intro k hk
        have hnext := h (k + 1) (Nat.succ_lt_succ hk)
        rw [Nat.add_right_comm, Nat.add_assoc, hnext]
        rfl

/-- The loop over a list of results, each passed on to `g`. -/
theorem collect_bind {γ : Type*} {f : ℕ → Option α} {g : α → Option γ} {i n : ℕ} {as : List α}
    {cs : List γ} (hf : collect f i n = some as) (hg : List.Forall₂ (fun a c => g a = some c) as cs) :
    collect (fun k => (f k).bind g) i n = some cs := by
  induction n generalizing i as cs with
  | zero =>
      cases Option.some.inj hf
      cases hg
      rfl
  | succ n ih =>
      simp only [collect, Option.bind_eq_bind, Option.bind_eq_some_iff, Option.pure_def,
        Option.some.injEq] at hf
      obtain ⟨a, ha, rest, hrest, rfl⟩ := hf
      cases hg with
      | cons hac hcs =>
          apply collect_succ
          · rw [ha]
            exact hac
          · exact ih hrest hcs

/-! ## Records -/

section Records

variable {f : α → List β} {width : ℕ} (hwidth : ∀ a, (f a).length = width)

include hwidth

/-- Record `i` begins behind `width * i` elements. -/
theorem drop_flatMap (as : List α) (i : ℕ) :
    (as.flatMap f).drop (width * i) = (as.drop i).flatMap f := by
  induction i generalizing as with
  | zero => rfl
  | succ i ih =>
      cases as with
      | nil => simp
      | cons a as =>
          rw [List.flatMap_cons, List.drop_succ_cons, Nat.mul_succ, Nat.add_comm,
            ← List.drop_drop, List.drop_left' (hwidth a)]
          exact ih as

theorem length_flatMap (as : List α) : (as.flatMap f).length = width * as.length := by
  induction as with
  | nil => rfl
  | cons a as ih =>
      rw [List.flatMap_cons, List.length_append, hwidth, ih, List.length_cons]
      exact (Nat.add_comm _ _).trans (Nat.mul_succ width as.length).symm

end Records

variable (C : PrefixCodec α β)

/-- Record `i` of an array. -/
def getRecord (width : ℕ) (cells : List β) (i : ℕ) : Option α :=
  (C.decode (cells.drop (width * i))).map Prod.fst

variable {C}

theorem getRecord_flatMap {width : ℕ} (hwidth : ∀ a, (C.encode a).length = width) (as : List α)
    {i : ℕ} (hi : i < as.length) : getRecord C width (as.flatMap C.encode) i = as[i]? := by
  rw [getRecord, drop_flatMap hwidth, List.drop_eq_getElem_cons hi, List.flatMap_cons,
    C.decode_encode, List.getElem?_eq_getElem hi]
  rfl

/-- **All records are read back.** -/
theorem collect_getRecord {width : ℕ} (hwidth : ∀ a, (C.encode a).length = width)
    (as : List α) :
    collect (getRecord C width (as.flatMap C.encode)) 0 as.length = some as := by
  apply collect_eq
  intro k hk
  rw [Nat.zero_add]
  exact getRecord_flatMap hwidth as hk

end RecordArray
