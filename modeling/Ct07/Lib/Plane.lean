/-
# Planes of an image in memory

A plane is a number of rows of the same width, each a stride behind the one before it.  Copies
overwrite a part of an array and nothing else.

* `overwrite` : elements written over those at an offset;
* `rows` : the rows of a plane, one behind the other;
* `slice_moved`, `overwrite_moved` : when the rows of a plane are moved to the front one by one,
  from the first, none is overwritten before it is read;
* `foldlM_range'_inv` : the invariant of a loop over the numbers of rows.
-/
import Ct07.Lib.CheckedMemory

namespace Plane

open CheckedMemory

variable {α : Type*}

/-! ## Overwriting -/

/-- The elements `bs` written over those at `off`. -/
def overwrite (m : List α) (off : ℕ) (bs : List α) : Except Fault (List α) :=
  if off + bs.length ≤ m.length then .ok (m.take off ++ bs ++ m.drop (off + bs.length))
  else .error .write

theorem overwrite_append {pre old post bs : List α} {off : ℕ} (hoff : off = pre.length)
    (hlen : old.length = bs.length) :
    overwrite (pre ++ (old ++ post)) off bs = .ok (pre ++ (bs ++ post)) := by
  subst hoff
  have hfits : pre.length + bs.length ≤ (pre ++ (old ++ post)).length := by
    rw [List.length_append, List.length_append]
    omega
  have hdrop : (pre ++ (old ++ post)).drop (pre.length + bs.length) = post := by
    rw [← List.drop_drop, List.drop_left, ← hlen, List.drop_left]
  rw [overwrite, if_pos hfits, List.take_left, hdrop, List.append_assoc]

/-! ## Rows -/

/-- The first `n` rows of the plane at `off`. -/
def rows (m : List α) (off stride width n : ℕ) : List α :=
  (List.range n).flatMap fun r => (m.drop (off + r * stride)).take width

theorem rows_zero (m : List α) (off stride width : ℕ) : rows m off stride width 0 = [] := rfl

theorem rows_succ (m : List α) (off stride width n : ℕ) :
    rows m off stride width (n + 1) =
      rows m off stride width n ++ (m.drop (off + n * stride)).take width := by
  rw [rows, rows, List.range_succ, List.flatMap_append, List.flatMap_singleton]

theorem length_rows {m : List α} {off stride width n : ℕ}
    (h : ∀ r < n, off + r * stride + width ≤ m.length) :
    (rows m off stride width n).length = n * width := by
  induction n with
  | zero => rw [rows_zero, List.length_nil, Nat.zero_mul]
  | succ n ih =>
      have hlast := h n (Nat.lt_succ_self n)
      rw [rows_succ, List.length_append, ih fun r hr => h r (Nat.lt_succ_of_lt hr),
        List.length_take, List.length_drop, Nat.min_eq_left (by omega), Nat.succ_mul]

/-- One more row, written behind the rows before it over what is there. -/
theorem overwrite_row (pre post : List α) {m gap : List α} {off stride width n o : ℕ}
    (hrow : off + n * stride + width ≤ m.length) (hgap : width ≤ gap.length)
    (ho : o = (pre ++ rows m off stride width n).length) :
    overwrite (pre ++ (rows m off stride width n ++ (gap ++ post))) o
        ((m.drop (off + n * stride)).take width) =
      .ok (pre ++ (rows m off stride width (n + 1) ++ (gap.drop width ++ post))) := by
  have hone : (gap.take width).length = ((m.drop (off + n * stride)).take width).length := by
    rw [List.length_take, List.length_take, List.length_drop]
    omega
  have hshape : pre ++ (rows m off stride width n ++ (gap ++ post)) =
      (pre ++ rows m off stride width n) ++ (gap.take width ++ (gap.drop width ++ post)) := by
    rw [← List.append_assoc (gap.take width), List.take_append_drop, List.append_assoc]
  rw [hshape, overwrite_append ho hone, rows_succ]
  simp only [List.append_assoc]

/-- Rows without a gap are one piece. -/
theorem rows_packed (m : List α) (off width n : ℕ) :
    rows m off width width n = (m.drop off).take (n * width) := by
  induction n with
  | zero => rw [rows_zero, Nat.zero_mul, List.take_zero]
  | succ n ih => rw [rows_succ, ih, Nat.succ_mul, List.take_add, List.drop_drop]

/-- The rows in front of a row fit where it begins. -/
theorem row_fits {row n width stride : ℕ} (hrow : row < n) (h : width ≤ stride) :
    row * stride + width ≤ n * stride := by
  calc row * stride + width ≤ row * stride + stride := Nat.add_le_add_left h _
    _ = (row + 1) * stride := (Nat.succ_mul row stride).symm
    _ ≤ n * stride := Nat.mul_le_mul_right stride hrow

/-! ## Moving rows to the front -/

section Moving

variable {m : List α} {stride width k : ℕ}

/-- Row `k` is still there when the rows before it have been moved. -/
theorem slice_moved (hle : width ≤ stride) (hin : k * stride + width ≤ m.length)
    (hlen : (rows m 0 stride width k).length = k * width) :
    slice (rows m 0 stride width k ++ m.drop (k * width)) (k * stride) width =
      .ok ((m.drop (k * stride)).take width) := by
  have hk : k * width ≤ k * stride := Nat.mul_le_mul_left k hle
  have hfits : k * stride + width ≤ (rows m 0 stride width k ++ m.drop (k * width)).length := by
    rw [List.length_append, hlen, List.length_drop]
    omega
  have hdrop : (rows m 0 stride width k ++ m.drop (k * width)).drop (k * stride) =
      m.drop (k * stride) := by
    rw [List.drop_append, List.drop_eq_nil_of_le (by omega), List.nil_append, hlen,
      List.drop_drop, show k * width + (k * stride - k * width) = k * stride by omega]
  rw [slice_eq hfits, hdrop]

/-- Row `k` is moved behind the rows before it. -/
theorem overwrite_moved (hin : k * stride + width ≤ m.length)
    (hk : k * width + width ≤ m.length)
    (hlen : (rows m 0 stride width k).length = k * width) :
    overwrite (rows m 0 stride width k ++ m.drop (k * width)) (k * width)
        ((m.drop (k * stride)).take width) =
      .ok (rows m 0 stride width (k + 1) ++ m.drop ((k + 1) * width)) := by
  have hsplit : m.drop (k * width) =
      (m.drop (k * width)).take width ++ m.drop ((k + 1) * width) := by
    rw [Nat.succ_mul, ← List.drop_drop, List.take_append_drop]
  have hsame : ((m.drop (k * width)).take width).length =
      ((m.drop (k * stride)).take width).length := by
    rw [List.length_take, List.length_take, List.length_drop, List.length_drop]
    omega
  rw [hsplit, overwrite_append hlen.symm hsame, rows_succ, Nat.zero_add, List.append_assoc]

end Moving

/-! ## Loops -/

/-- A loop over a range: what one round does, all of them do. -/
theorem foldlM_range'_inv {ε σ : Type} {f : σ → ℕ → Except ε σ} (inv : ℕ → σ → Prop) (n : ℕ) :
    ∀ (start : ℕ) (s : σ), (∀ k s, start ≤ k → k < start + n → inv k s →
      ∃ s', f s k = .ok s' ∧ inv (k + 1) s') → inv start s →
        ∃ s', (List.range' start n).foldlM f s = .ok s' ∧ inv (start + n) s' := by
  induction n with
  | zero => exact fun start s _ hs => ⟨s, rfl, hs⟩
  | succ n ih =>
      intro start s hstep hs
      obtain ⟨t, ht, hinv⟩ := hstep start s (Nat.le_refl _) (by omega) hs
      obtain ⟨s', hs', hinv'⟩ := ih (start + 1) t (fun k s hk hlt => hstep k s (by omega)
        (by omega)) hinv
      refine ⟨s', ?_, ?_⟩
      · rw [List.range'_succ, List.foldlM_cons, ht]
        exact hs'
      · rw [show start + (n + 1) = start + 1 + n by omega]
        exact hinv'

end Plane
