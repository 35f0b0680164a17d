/-
# Checked memory accesses

C code that takes bytes apart computes lengths in machine words, reads at offsets, and copies
into blocks it has allocated.  The operations here do the same, and stop with a `Fault` at an
access outside of its block and at arithmetic that wraps.

* `add`, `sub` : arithmetic of 32-bit words;
* `readAt`, `slice` : an element of an array, and a number of bytes at an offset;
* `Block`, `malloc`, `write`, `contents` : allocated memory, and bytes written to it;
* `write_next` : a block is filled from the front.
-/
import Mathlib.Algebra.Ring.Nat
import Mathlib.Data.List.Basic
import Mathlib.Data.Nat.Notation

namespace CheckedMemory

/-- What goes wrong. -/
inductive Fault where
  | read
  | write
  | wrap
  deriving DecidableEq, Repr

theorem ok_bind {ε α β : Type} (a : α) (f : α → Except ε β) :
    (Except.ok a : Except ε α) >>= f = f a := rfl

/-- Nothing is done after a fault. -/
theorem error_bind {ε α β : Type} (e : ε) (f : α → Except ε β) :
    (Except.error e : Except ε α) >>= f = .error e := rfl

/-- A computation succeeds when its parts do. -/
theorem bind_eq_ok_iff {ε α β : Type} {x : Except ε α} {f : α → Except ε β} {b : β} :
    x >>= f = .ok b ↔ ∃ a, x = .ok a ∧ f a = .ok b := by
  cases x with
  | error e => simp [bind, Except.bind]
  | ok a => simp [bind, Except.bind]

/-! ## Words -/

/-- `a + b`, which must not wrap. -/
def add (a b : UInt32) : Except Fault UInt32 :=
  if a.toNat + b.toNat < 2 ^ 32 then .ok (a + b) else .error .wrap

/-- `a - b`, which must not wrap. -/
def sub (a b : UInt32) : Except Fault UInt32 :=
  if b ≤ a then .ok (a - b) else .error .wrap

theorem add_eq {a b : UInt32} (h : a.toNat + b.toNat < 2 ^ 32) :
    add a b = .ok (a + b) ∧ (a + b).toNat = a.toNat + b.toNat := by
  constructor
  · exact if_pos h
  · rw [UInt32.toNat_add, Nat.mod_eq_of_lt h]

theorem sub_eq {a b : UInt32} (h : b.toNat ≤ a.toNat) :
    sub a b = .ok (a - b) ∧ (a - b).toNat = a.toNat - b.toNat := by
  have hle : b ≤ a := UInt32.le_iff_toNat_le.2 h
  constructor
  · exact if_pos hle
  · exact UInt32.toNat_sub_of_le a b hle

/-! ## Reads -/

/-- The element `i` of an array. -/
def readAt {α : Type*} (xs : List α) (i : ℕ) : Except Fault α :=
  match xs[i]? with
  | some x => .ok x
  | none => .error .read

theorem readAt_eq_ok_iff {α : Type*} {xs : List α} {i : ℕ} {x : α} :
    readAt xs i = .ok x ↔ xs[i]? = some x := by
  unfold readAt
  cases xs[i]? with
  | none => simp
  | some y => simp

/-- An element is read exactly when it is there. -/
theorem readAt_isOk_iff {α : Type*} {xs : List α} {i : ℕ} :
    (∃ x, readAt xs i = .ok x) ↔ i < xs.length := by
  simp only [readAt_eq_ok_iff]
  constructor
  · rintro ⟨x, hx⟩
    exact (List.getElem?_eq_some_iff.1 hx).1
  · intro h
    exact ⟨xs[i], List.getElem?_eq_getElem h⟩

/-- The `n` elements at `off`. -/
def slice {α : Type*} (bs : List α) (off n : ℕ) : Except Fault (List α) :=
  if off + n ≤ bs.length then .ok ((bs.drop off).take n) else .error .read

theorem slice_eq {α : Type*} {bs : List α} {off n : ℕ} (h : off + n ≤ bs.length) :
    slice bs off n = .ok ((bs.drop off).take n) := if_pos h

/-! ## Elements that are replaced -/

/-- `xs[i] = x` -/
def writeAt {α : Type*} (xs : List α) (i : ℕ) (x : α) : Except Fault (List α) :=
  if i < xs.length then .ok (xs.set i x) else .error .write

/-- `xs[i]` is changed in place. -/
def modifyAt {α : Type*} (xs : List α) (i : ℕ) (f : α → α) : Except Fault (List α) :=
  if i < xs.length then .ok (xs.modify i f) else .error .write

/-- The first element behind others is read and replaced. -/
theorem readAt_append_cons {α : Type*} {xs ys : List α} {i : ℕ} (x : α) (hi : i = xs.length) :
    readAt (xs ++ x :: ys) i = .ok x := by
  subst hi
  rw [readAt_eq_ok_iff, List.getElem?_append_right (Nat.le_refl _), Nat.sub_self]
  rfl

theorem writeAt_append_cons {α : Type*} {xs ys : List α} {i : ℕ} (x y : α) (hi : i = xs.length) :
    writeAt (xs ++ x :: ys) i y = .ok (xs ++ y :: ys) := by
  subst hi
  have hinside : xs.length < (xs ++ x :: ys).length := by simp
  rw [writeAt, if_pos hinside, List.set_append_right _ _ (Nat.le_refl _), Nat.sub_self,
    List.set_cons_zero]

/-! ## Blocks -/

/-- A block of memory; `none` is a byte that has not been written. -/
abbrev Block := List (Option UInt8)

def malloc (n : ℕ) : Block := List.replicate n none

/-- The bytes `bs` written at `off`. -/
def write (m : Block) (off : ℕ) (bs : List UInt8) : Except Fault Block :=
  if off + bs.length ≤ m.length then
    .ok (m.take off ++ bs.map some ++ m.drop (off + bs.length))
  else .error .write

/-- The bytes of a block, all of which must have been written. -/
def contents : Block → Except Fault (List UInt8)
  | [] => .ok []
  | none :: _ => .error .read
  | some b :: m => (contents m).map (b :: ·)

/-- A block that is filled up to `done`, with `room` bytes to go. -/
def filled (done : List UInt8) (room : ℕ) : Block := done.map some ++ malloc room

theorem malloc_eq_filled (n : ℕ) : malloc n = filled [] n := rfl

@[simp] theorem filled_zero (done : List UInt8) : filled done 0 = done.map some := by
  rw [filled, malloc, List.replicate_zero, List.append_nil]

@[simp] theorem length_filled (done : List UInt8) (room : ℕ) :
    (filled done room).length = done.length + room := by
  rw [filled, malloc, List.length_append, List.length_map, List.length_replicate]

/-- Bytes written behind what is there already. -/
theorem write_next (done bs : List UInt8) {room off : ℕ} (hoff : off = done.length)
    (hroom : bs.length ≤ room) :
    write (filled done room) off bs = .ok (filled (done ++ bs) (room - bs.length)) := by
  subst hoff
  have hfits : done.length + bs.length ≤ (filled done room).length := by
    rw [length_filled]
    omega
  have htake : (filled done room).take done.length = done.map some := by
    rw [filled, List.take_left' (List.length_map _)]
  have hdrop : (filled done room).drop (done.length + bs.length) = malloc (room - bs.length) := by
    rw [filled, ← List.drop_drop, List.drop_left' (List.length_map _), malloc,
      List.drop_replicate, malloc]
  rw [write, if_pos hfits, htake, hdrop, filled, List.map_append]

/-- Bytes written to a new block. -/
theorem write_malloc {bs : List UInt8} {n : ℕ} (h : bs.length ≤ n) :
    write (malloc n) 0 bs = .ok (filled bs (n - bs.length)) :=
  write_next [] bs rfl h

theorem contents_map_some (bs : List UInt8) : contents (bs.map some) = .ok bs := by
  induction bs with
  | nil => rfl
  | cons b bs ih =>
      rw [List.map_cons, contents, ih]
      rfl

end CheckedMemory
