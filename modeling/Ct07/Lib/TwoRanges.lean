/-
# Tables numbered in two ranges

The rows of the table carry numbers: first the numbers from `base` on, then, from some row on,
those from `vendorBase` on.  A check that goes through the rows once finds the row at which
the second range starts; from then on a number is looked up by arithmetic alone.

* `check` : the check, and the start of the second range that it leaves behind;
* `index` : the row of a number;
* `index_of_mem` : in a table that passed the check, a number that some row carries is
  carried by the row at its index;
* `check_start_le` : the second range does not start later than the first one can end;
* `Rows`, `Rows.own_iff` : the same for an array that is read without a test of the index: the
  row that is read carries the number exactly when some row does.

The check takes a start of zero for "not found yet": a row of the second range at index zero
leaves it unset.
-/
import Mathlib.Data.Nat.Notation
import Mathlib.Data.List.Basic

namespace TwoRanges

/-- One row of the check: the new start, or `none` when the row is out of place. -/
def checkRow (base vendorBase i start number : ℕ) : Option ℕ :=
  if number < vendorBase then
    if i + base = number then some start else none
  else
    let start := if start = 0 then i else start
    if i + vendorBase - start = number then some start else none

/-- The check of the rows from index `i` on. -/
def checkFrom (base vendorBase i start : ℕ) : List ℕ → Option ℕ
  | [] => some start
  | number :: numbers =>
      (checkRow base vendorBase i start number).bind fun start =>
        checkFrom base vendorBase (i + 1) start numbers

/-- The check of a whole table. -/
def check (base vendorBase : ℕ) (numbers : List ℕ) : Option ℕ :=
  checkFrom base vendorBase 0 0 numbers

/-- The row that is looked up for a number. -/
def index (base vendorBase start number : ℕ) : ℕ :=
  if number < vendorBase then number - base else number - vendorBase + start

variable {base vendorBase : ℕ}

/-! ## What an accepted table looks like -/

/-- What one accepted row says, and what it does to the start. -/
theorem checkRow_eq_some {i start start' number : ℕ}
    (h : checkRow base vendorBase i start number = some start') :
    (number < vendorBase ∧ i + base = number ∧ start' = start) ∨
      (vendorBase ≤ number ∧ start' = (if start = 0 then i else start) ∧
        i + vendorBase - start' = number) := by
  unfold checkRow at h
  by_cases hrow : number < vendorBase
  · rw [if_pos hrow] at h
    by_cases hi : i + base = number
    · rw [if_pos hi] at h
      exact Or.inl ⟨hrow, hi, (Option.some.inj h).symm⟩
    · simp [hi] at h
  · simp only [if_neg hrow] at h
    by_cases hi : i + vendorBase - (if start = 0 then i else start) = number
    · rw [if_pos hi] at h
      have hstart := (Option.some.inj h).symm
      exact Or.inr ⟨Nat.le_of_not_lt hrow, hstart, hstart ▸ hi⟩
    · simp [hi] at h

theorem checkFrom_cons {i start final number : ℕ} {numbers : List ℕ}
    (h : checkFrom base vendorBase i start (number :: numbers) = some final) :
    ∃ start', checkRow base vendorBase i start number = some start' ∧
      checkFrom base vendorBase (i + 1) start' numbers = some final := by
  simpa [checkFrom, Option.bind_eq_some_iff] using h

/-- The start stays at or before the row it is left with. -/
theorem checkRow_start_le {i start start' number : ℕ} (hi : start ≤ i)
    (h : checkRow base vendorBase i start number = some start') : start' ≤ i := by
  rcases checkRow_eq_some h with ⟨-, -, hs⟩ | ⟨-, hs, -⟩
  · omega
  · rw [hs]
    split <;> omega

/-- Once the start is set, the rest of the table leaves it alone. -/
theorem checkFrom_start {i start final : ℕ} {numbers : List ℕ} (hstart : start ≠ 0)
    (h : checkFrom base vendorBase i start numbers = some final) : final = start := by
  induction numbers generalizing i with
  | nil => exact (Option.some.inj h).symm
  | cons number numbers ih =>
      obtain ⟨start', hrow, hrows⟩ := checkFrom_cons h
      have hkeep : start' = start := by
        rcases checkRow_eq_some hrow with ⟨-, -, hs⟩ | ⟨-, hs, -⟩
        · exact hs
        · rw [hs, if_neg hstart]
      exact ih (hkeep ▸ hrows)

/-- The rows of the first range sit at the index of their number. -/
theorem checkFrom_first {i start final j number : ℕ} {numbers : List ℕ}
    (h : checkFrom base vendorBase i start numbers = some final) (hj : numbers[j]? = some number)
    (hnum : number < vendorBase) : i + j + base = number := by
  induction numbers generalizing i start j with
  | nil => simp at hj
  | cons head numbers ih =>
      obtain ⟨start', hrow, hrows⟩ := checkFrom_cons h
      cases j with
      | zero =>
          have hhead : head = number := by simpa using hj
          rcases checkRow_eq_some hrow with ⟨-, hi, -⟩ | ⟨hge, -, -⟩
          · omega
          · omega
      | succ j =>
          have := ih hrows (by simpa using hj)
          omega

/-- The rows of the second range follow each other from `final` on.  The exception is such a
row at index 0, which does not set the start: its number is the base of the range. -/
theorem checkFrom_second {i start final j number : ℕ} {numbers : List ℕ} (hi : start ≤ i)
    (h : checkFrom base vendorBase i start numbers = some final) (hj : numbers[j]? = some number)
    (hnum : vendorBase ≤ number) :
    final ≤ i + j ∧ i + j + vendorBase = number + final ∨ i + j = 0 ∧ number = vendorBase := by
  induction numbers generalizing i start j with
  | nil => simp at hj
  | cons head numbers ih =>
      obtain ⟨start', hrow, hrows⟩ := checkFrom_cons h
      have hi' : start' ≤ i := checkRow_start_le hi hrow
      cases j with
      | zero =>
          have hhead : head = number := by simpa using hj
          rcases checkRow_eq_some hrow with ⟨hlt, -, -⟩ | ⟨-, hs', hindex⟩
          · omega
          · -- the start can still be 0 here, and only at index 0
            by_cases hs : start' = 0
            · right
              split at hs' <;> omega
            · left
              have := checkFrom_start hs hrows
              omega
      | succ j =>
          have := ih (Nat.le_succ_of_le hi') hrows (by simpa using hj)
          omega

/-- A start that the table sets is the index of a row that carries the base of the second
range, and all rows before it but that at index 0 are of the first. -/
theorem checkFrom_final {i final : ℕ} {numbers : List ℕ} (hfinal : final ≠ 0)
    (h : checkFrom base vendorBase i 0 numbers = some final) :
    ∃ j, numbers[j]? = some vendorBase ∧ i + j = final ∧
      ∀ k number, numbers[k]? = some number → k < j → i + k ≠ 0 → number < vendorBase := by
  induction numbers generalizing i with
  | nil => exact absurd (Option.some.inj h).symm hfinal
  | cons head numbers ih =>
      obtain ⟨start', hrow, hrows⟩ := checkFrom_cons h
      by_cases hs : start' = 0
      · obtain ⟨j, hj, hij, hbefore⟩ := ih (hs ▸ hrows)
        refine ⟨j + 1, by simpa using hj, by omega, fun k number hk hkj hne => ?_⟩
        cases k with
        | zero =>
            have hhead : head = number := by simpa using hk
            rcases checkRow_eq_some hrow with ⟨hlt, -, -⟩ | ⟨-, hs', -⟩
            · omega
            · rw [if_pos rfl] at hs'
              omega
        | succ k => exact hbefore k number (by simpa using hk) (by omega) (by omega)
      · have hkeep := checkFrom_start hs hrows
        rcases checkRow_eq_some hrow with ⟨-, -, hs'⟩ | ⟨-, hs', hindex⟩
        · exact absurd hs' hs
        · rw [if_pos rfl] at hs'
          have hhead : head = vendorBase := by omega
          exact ⟨0, by simp [hhead], by omega, fun k _ _ hk => absurd hk (by omega)⟩

/-! ## Looking a number up -/

/-- **In an accepted table, a number that some row carries is carried by the row at its
index.** -/
theorem index_of_mem {start number : ℕ} {numbers : List ℕ}
    (h : check base vendorBase numbers = some start) (hmem : number ∈ numbers) :
    numbers[index base vendorBase start number]? = some number := by
  obtain ⟨j, hj⟩ := List.mem_iff_getElem?.1 hmem
  by_cases hnum : number < vendorBase
  · have hindex := checkFrom_first h hj hnum
    rw [index, if_pos hnum, show number - base = j by omega, hj]
  · rw [index, if_neg hnum]
    -- at index 0 the row looked up may be another one with the same number
    rcases checkFrom_second (Nat.le_refl 0) h hj (Nat.le_of_not_lt hnum) with
      ⟨hle, hindex⟩ | ⟨hzero, hbase⟩
    · rw [show number - vendorBase + start = j by omega, hj]
    · by_cases hstart : start = 0
      · rw [show number - vendorBase + start = j by omega, hj]
      · obtain ⟨k, hk, hindex, -⟩ := checkFrom_final hstart h
        rw [show number - vendorBase + start = k by omega, hk, hbase]

/-- The second range starts within the numbers that are free for the first. -/
theorem check_start_le {start : ℕ} {numbers : List ℕ} (hbase : base < vendorBase)
    (h : check base vendorBase numbers = some start) : start + base ≤ vendorBase := by
  by_cases hstart : start = 0
  · omega
  · obtain ⟨j, hj, hindex, hbefore⟩ := checkFrom_final hstart h
    obtain ⟨hlt, -⟩ := List.getElem?_eq_some_iff.1 hj
    by_cases hone : start = 1
    · omega
    · -- the row before the start is of the first range
      have hprev : numbers[j - 1]? = some numbers[j - 1] := List.getElem?_eq_getElem (by omega)
      have hnum := hbefore _ _ hprev (by omega) (by omega)
      have := checkFrom_first h hprev hnum
      omega

/-! ## Reading the row -/

/-- An array as it lies in memory: its rows, and whatever follows them. -/
structure Rows (α : Type*) where
  table : List α
  beyond : ℕ → α

namespace Rows

variable {α : Type*}

/-- What is read at index `i`. -/
def read (rows : Rows α) (i : ℕ) : α := rows.table.getD i (rows.beyond (i - rows.table.length))

theorem read_of_getElem? {rows : Rows α} {i : ℕ} {row : α} (h : rows.table[i]? = some row) :
    i < rows.table.length ∧ rows.read i = row := by
  obtain ⟨hi, hrow⟩ := List.getElem?_eq_some_iff.1 h
  exact ⟨hi, by simp [read, hi, hrow]⟩

theorem read_mem {rows : Rows α} {i : ℕ} (h : i < rows.table.length) :
    rows.read i ∈ rows.table := by
  simp [read, h]

/-- **The row read for a number is its own exactly when the table has one.** -/
theorem own_iff (rows : Rows α) (number : α → ℕ) {start : ℕ}
    (h : check base vendorBase (rows.table.map number) = some start) (n : ℕ) :
    (index base vendorBase start n < rows.table.length ∧
        number (rows.read (index base vendorBase start n)) = n) ↔
      ∃ row ∈ rows.table, number row = n := by
  constructor
  · rintro ⟨hin, hnum⟩
    exact ⟨_, read_mem hin, hnum⟩
  · rintro ⟨row, hrow, rfl⟩
    have hown := index_of_mem h (List.mem_map_of_mem hrow)
    rw [List.getElem?_map] at hown
    obtain ⟨own, hget, hnum⟩ := Option.map_eq_some_iff.1 hown
    obtain ⟨hin, hread⟩ := read_of_getElem? hget
    exact ⟨hin, by rw [hread, hnum]⟩

end Rows

end TwoRanges
