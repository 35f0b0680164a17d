/-
# Strings in arrays

A C string is what an array holds before its first `nul`.  It can be read only if there is a
`nul` in the array, and a string that is put into an array needs one more element for it.

* `string` : the string that an array begins with;
* `putString` : a string and its end are written to the front of an array;
* `string_putString` : what is put into an array is read back from it;
* `strchr` : the first place of an element in a string;
* `splitOn_cases` : the fields of a string.
-/
import Ct07.Lib.CheckedMemory
import Mathlib.Data.List.Basic

open CheckedMemory

namespace CString

/-! ## Writing -/

section Writing

variable {α : Type*} (nul : α)

/-- A string and its end, written to the front of an array. -/
def putString (cells s : List α) : Except Fault (List α) :=
  if s.length < cells.length then .ok (s ++ nul :: cells.drop (s.length + 1)) else .error .write

variable {nul} {cells s : List α}

theorem putString_eq (h : s.length < cells.length) :
    putString nul cells s = .ok (s ++ nul :: cells.drop (s.length + 1)) := if_pos h

theorem putString_overrun (h : ¬ s.length < cells.length) :
    putString nul cells s = .error .write := if_neg h

end Writing

variable {α : Type*} [DecidableEq α] (nul : α)

/-! ## Reading -/

/-- The string that an array begins with. -/
def string : List α → Except Fault (List α)
  | [] => .error .read
  | c :: cells => if c = nul then .ok [] else (string cells).map (c :: ·)

variable {nul}

theorem string_append (s rest : List α) (hs : nul ∉ s) :
    string nul (s ++ nul :: rest) = .ok s := by
  induction s with
  | nil => exact if_pos rfl
  | cons c s ih =>
      have hc : c ≠ nul := fun heq => hs (heq ▸ List.mem_cons_self)
      have hmem : nul ∉ s := fun hmem => hs (List.mem_cons_of_mem c hmem)
      rw [List.cons_append, string, if_neg hc, ih hmem]
      rfl

/-- The first end counts. -/
theorem string_append_nul (s rest : List α) :
    string nul (s ++ nul :: rest) = .ok (s.takeWhile (· ≠ nul)) := by
  induction s with
  | nil => exact if_pos rfl
  | cons c s ih =>
      rw [List.cons_append, string]
      by_cases hc : c = nul
      · rw [if_pos hc, List.takeWhile_cons_of_neg (by simpa using hc)]
      · rw [if_neg hc, ih, List.takeWhile_cons_of_pos (by simpa using hc)]
        rfl

/-- An array without an end is read past its last element. -/
theorem string_eq_error {cells : List α} (h : nul ∉ cells) : string nul cells = .error .read := by
  induction cells with
  | nil => rfl
  | cons c cells ih =>
      have hc : c ≠ nul := fun heq => h (heq ▸ List.mem_cons_self)
      have hmem : nul ∉ cells := fun hmem => h (List.mem_cons_of_mem c hmem)
      rw [string, if_neg hc, ih hmem]
      rfl

/-- What is put into an array is read back from it. -/
theorem string_putString {cells s : List α} (h : s.length < cells.length) (hs : nul ∉ s) :
    ∃ cells', putString nul cells s = .ok cells' ∧ string nul cells' = .ok s :=
  ⟨_, putString_eq h, string_append s _ hs⟩

/-! ## Searching -/

/-- `strchr`: the first place of an element, `none` for a null pointer. -/
def strchr (s : List α) (c : α) : Option ℕ := s.idxOf? c

theorem strchr_append_cons {c : α} {s : List α} (rest : List α) (h : c ∉ s) :
    strchr (s ++ c :: rest) c = some s.length := by
  have hnone : s.findIdx? (· == c) = none := List.idxOf?_eq_none_iff.2 h
  rw [strchr, List.idxOf?, List.findIdx?_append, hnone, List.findIdx?_cons, BEq.rfl]
  simp

omit [DecidableEq α] in
/-- What is behind an element. -/
theorem drop_behind (s : List α) (c : α) (rest : List α) :
    (s ++ c :: rest).drop (s.length + 1) = rest := by
  have hlen : s.length + 1 = (s ++ [c]).length := by rw [List.length_append, List.length_singleton]
  rw [List.append_cons, hlen, List.drop_left]

theorem strchr_eq_none {c : α} {s : List α} (h : c ∉ s) : strchr s c = none :=
  List.idxOf?_eq_none_iff.2 h

/-- What is found is there. -/
theorem strchr_getElem? {c : α} {s : List α} {i : ℕ} (h : strchr s c = some i) :
    s[i]? = some c := by
  obtain ⟨hlt, hbeq, -⟩ := List.findIdx?_eq_some_iff_getElem.1 h
  rw [List.getElem?_eq_getElem hlt, eq_of_beq hbeq]

/-! ## Fields -/

/-- A string is one field, or a first field and the fields behind it. -/
theorem splitOn_cases (c : α) (s : List α) :
    (c ∉ s ∧ s.splitOn c = [s]) ∨
      ∃ first rest, c ∉ first ∧ s = first ++ c :: rest ∧
        s.splitOn c = first :: rest.splitOn c := by
  by_cases hmem : c ∈ s
  · obtain ⟨first, rest, rfl, hfirst⟩ := List.eq_append_cons_of_mem hmem
    exact .inr ⟨first, rest, hfirst, rfl, List.splitOn_append_cons_self_of_not_mem hfirst rest⟩
  · exact .inl ⟨hmem, List.splitOn_eq_singleton hmem⟩

/-- There is no separator in a field. -/
theorem not_mem_of_mem_splitOn {c : α} {s field : List α} (h : field ∈ s.splitOn c) :
    c ∉ field := by
  obtain ⟨hmem, hsplit⟩ | ⟨first, rest, hfirst, hs, hsplit⟩ := splitOn_cases c s
  · rw [hsplit, List.mem_singleton] at h
    rwa [h]
  · rw [hsplit, List.mem_cons] at h
    cases h with
    | inl h => rwa [h]
    | inr h =>
        have hshorter : rest.length < s.length := by
          rw [hs, List.length_append, List.length_cons]
          omega
        exact not_mem_of_mem_splitOn h
termination_by s.length

end CString
