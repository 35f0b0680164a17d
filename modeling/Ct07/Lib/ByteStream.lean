/-
# Byte streams delivered in pieces

What a process sees of a connection is the sequence of what its `read` calls find:
pieces of data, interruptions, errors, and in the end the closed connection.  How
the bytes are cut into pieces is not up to either side.

* `Delivery` : one thing that turns up on the connection;
* `read` : one `read` call, which takes at most `len` bytes of the piece at the front;
* `bytes` : the bytes of a stream, whatever the pieces;
* `Healthy` : no `read` call fails;
* `Acceptance` : what a `write` call does, which need not take all it is given.
-/
import Mathlib.Data.List.Basic
import Mathlib.Data.Nat.Notation

namespace ByteStream

/-- What a `read` call can find.  A piece of data is not empty. -/
inductive Delivery where
  | data (b : UInt8) (bs : List UInt8)
  | interrupted
  | failed
  deriving DecidableEq

/-- What turns up on a connection, until the peer closes it. -/
abbrev Stream := List Delivery

/-- What a `read` call returns. -/
inductive ReadResult where
  | got (bs : List UInt8)
  | closed
  | interrupted
  | failed
  deriving DecidableEq

/-- The stream with the bytes `bs` still in front of it. -/
def pushBack : List UInt8 → Stream → Stream
  | [], s => s
  | b :: bs, s => .data b bs :: s

/-- One `read` call for at most `len` bytes. -/
def read (len : ℕ) : Stream → ReadResult × Stream
  | [] => (.closed, [])
  | .interrupted :: s => (.interrupted, s)
  | .failed :: s => (.failed, s)
  | .data b bs :: s => (.got ((b :: bs).take len), pushBack ((b :: bs).drop len) s)

/-- What a `write` call does with the bytes it is given. -/
inductive Acceptance where
  /-- it takes the first `n`, or all when there are fewer -/
  | took (n : ℕ)
  | interrupted
  | failed
  deriving DecidableEq

/-! ## The bytes of a stream -/

/-- The bytes of a stream. -/
def bytes : Stream → List UInt8
  | [] => []
  | .data b bs :: s => b :: bs ++ bytes s
  | _ :: s => bytes s

/-- No `read` call on the stream fails. -/
def Healthy (s : Stream) : Prop := .failed ∉ s

instance (s : Stream) : Decidable (Healthy s) := inferInstanceAs (Decidable (¬ _))

/-- What is left to read, counting interruptions and failures. -/
def size : Stream → ℕ
  | [] => 0
  | .data _ bs :: s => bs.length + 1 + size s
  | _ :: s => 1 + size s

@[simp] theorem bytes_pushBack (bs : List UInt8) (s : Stream) :
    bytes (pushBack bs s) = bs ++ bytes s := by
  cases bs <;> rfl

theorem size_pushBack (bs : List UInt8) (s : Stream) :
    size (pushBack bs s) = bs.length + size s := by
  cases bs with
  | nil => simp [pushBack]
  | cons b bs => simp [pushBack, size]

theorem Healthy.tail {d : Delivery} {s : Stream} (h : Healthy (d :: s)) : Healthy s :=
  fun hmem => h (List.mem_cons_of_mem d hmem)

theorem Healthy.pushBack {s : Stream} (h : Healthy s) (bs : List UInt8) :
    Healthy (pushBack bs s) := by
  cases bs with
  | nil => exact h
  | cons b bs =>
      intro hmem
      rcases List.mem_cons.1 hmem with heq | hmem
      · exact absurd heq (by simp)
      · exact h hmem

/-- A `read` call that does not find the end of the stream leaves less to read. -/
theorem size_read_lt {len : ℕ} (hlen : 0 < len) {s : Stream}
    (h : (read len s).1 ≠ .closed) : size (read len s).2 < size s := by
  cases s with
  | nil => exact absurd rfl h
  | cons d s =>
      cases d with
      | interrupted => simp [read, size]
      | failed => simp [read, size]
      | data b bs =>
          simp only [read, size_pushBack, size, List.length_drop, List.length_cons]
          omega

/-- What a `read` call returns is taken off the bytes of the stream. -/
theorem bytes_read {len : ℕ} {s s' : Stream} {bs : List UInt8}
    (h : read len s = (.got bs, s')) : bytes s = bs ++ bytes s' ∧ bs.length ≤ len := by
  cases s with
  | nil => simp [read] at h
  | cons d s =>
      cases d with
      | interrupted => simp [read] at h
      | failed => simp [read] at h
      | data b cs =>
          simp only [read, Prod.mk.injEq, ReadResult.got.injEq] at h
          obtain ⟨rfl, rfl⟩ := h
          refine ⟨?_, by rw [List.length_take]; omega⟩
          rw [bytes_pushBack, ← List.append_assoc, List.take_append_drop]
          rfl

theorem bytes_read_interrupted {len : ℕ} {s s' : Stream}
    (h : read len s = (.interrupted, s')) : bytes s = bytes s' := by
  cases s with
  | nil => simp [read] at h
  | cons d s =>
      cases d with
      | interrupted =>
          simp only [read, Prod.mk.injEq, true_and] at h
          rw [← h]
          rfl
      | failed => simp [read] at h
      | data b cs => simp [read] at h

theorem bytes_read_closed {len : ℕ} {s s' : Stream} (h : read len s = (.closed, s')) :
    bytes s = [] := by
  cases s with
  | nil => rfl
  | cons d s => cases d <;> simp [read] at h

/-- On a healthy stream no `read` call fails, and the rest is healthy. -/
theorem Healthy.read {s : Stream} (h : Healthy s) (len : ℕ) :
    (read len s).1 ≠ .failed ∧ Healthy (read len s).2 := by
  cases s with
  | nil => exact ⟨by simp [ByteStream.read], h⟩
  | cons d s =>
      cases d with
      | interrupted => exact ⟨by simp [ByteStream.read], h.tail⟩
      | failed => exact absurd List.mem_cons_self h
      | data b bs => exact ⟨by simp [ByteStream.read], h.tail.pushBack _⟩

end ByteStream
