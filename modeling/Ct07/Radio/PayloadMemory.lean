/-
# The memory of a request (`ril_service.cpp`)

A dispatcher copies the strings of a request to the heap and lays out arrays and structures,
there or in its own frame, which hold pointers to them.  Memory is that of one request: a block
has a number, which is never used again, and holds cells; an address is a cell of a block.
What is allocated and freed on the heap is recorded in a ledger.

* `Mem` : the blocks that are live, and the ledger;
* `copyHidlStringToRil`, `copyFields` : copies of strings, one or several in turn;
* `Copied` : what copying leaves, `copyFields_copied`;
* `owns_memsetAndFreeStrings` : freeing settles what it is given.

Padding is left out of the sizes.  An allocation that the source does not check succeeds.
-/
import Ct07.Lib.Ledger
import Ct07.Lib.PointerGraph
import Ct07.Lib.ScopedStorage
import Ct07.Radio.Reply
import Mathlib.Data.List.ReduceOption

open AllocationLedger ScopedStorage

namespace Radio.Payload

/-! ## Memory -/

/-- A place in memory: a cell of a block. -/
structure Addr where
  block : ℕ
  cell : ℕ
  deriving DecidableEq

/-- A C pointer, `none` when it is null. -/
abbrev Ptr := Option Addr

inductive Word where
  | int (n : ℤ)
  | char (c : Char)
  | byte (b : ℕ)
  /-- a pointer to a string literal, which nobody frees -/
  | literal (s : Text)
  deriving DecidableEq

abbrev Cell := PointerGraph.Cell Word Addr

namespace Cell

abbrev int (n : ℤ) : Cell := .word (.int n)

abbrev char (c : Char) : Cell := .word (.char c)

abbrev byte (b : ℕ) : Cell := .word (.byte b)

abbrev literal (s : Text) : Cell := .word (.literal s)

abbrev ptr (p : Ptr) : Cell := PointerGraph.Cell.ptr p

end Cell

/-- `sizeof(char *)` on the 32-bit target. -/
def sizeofPointer : ℕ := 4

def Cell.size : Cell → ℕ
  | .word (.int _) => 4
  | .word (.literal _) => sizeofPointer
  | .word _ => 1
  | .ptr _ => sizeofPointer

/-- `sizeof` of an array or a structure with these cells. -/
def sizeof : List Cell → ℕ
  | [] => 0
  | c :: cells => c.size + sizeof cells

/-- The pointer in cell `i`, if there is one. -/
def ptrAt (cells : List Cell) (i : ℕ) : Option Ptr :=
  match cells[i]? with
  | some (.ptr p) => some p
  | _ => none

structure Mem where
  objects : Store ℕ (List Cell)
  /-- the number of the next block -/
  next : ℕ
  /-- the blocks that end with the dispatcher: its local variables and its arguments -/
  frame : List ℕ
  ledger : Ledger Addr

namespace Mem

def init : Mem := ⟨fun _ => none, 0, [], []⟩

/-- The address of the next block. -/
def here (m : Mem) : Addr := ⟨m.next, 0⟩

/-- A block of the heap, with these cells. -/
def alloc (m : Mem) (cells : List Cell) : Mem :=
  { m with
    objects := m.objects.enter m.next cells
    next := m.next + 1
    ledger := .alloc m.here :: m.ledger }

/-- A block of the frame. -/
def push (m : Mem) (cells : List Cell) : Mem :=
  { m with
    objects := m.objects.enter m.next cells
    next := m.next + 1
    frame := m.next :: m.frame }

def write (m : Mem) (a : Addr) (cells : List Cell) : Mem :=
  { m with objects := m.objects.write a.block cells }

def free (m : Mem) (a : Addr) : Mem :=
  { m with objects := m.objects.leave a.block, ledger := .free a :: m.ledger }

/-- `free` of a pointer; nothing happens to a null pointer. -/
def freePtr (m : Mem) : Ptr → Mem
  | none => m
  | some a => m.free a

/-- The cells from an address on. -/
def cells (m : Mem) (a : Addr) : Option (List Cell) := (m.objects a.block).map (·.drop a.cell)

/-- The pointer in cell `i` from an address on. -/
def readPtr (m : Mem) (a : Addr) (i : ℕ) : Option Ptr := (m.cells a).bind (ptrAt · i)

end Mem

def memsetAndFreeStrings (m : Mem) (ptrs : List Ptr) : Mem := ptrs.foldl Mem.freePtr m

/-! ## Strings -/

/-- The byte that ends a C string. -/
def nul : Char := Char.ofNat 0

/-- What is left of a string as `const char *`: the bytes before the first zero. -/
def cStr (s : Text) : Text := s.takeWhile (· ≠ nul)

/-- `strncpy`: `n` bytes, the last ones zero when the string is shorter. -/
def strncpy (n : ℕ) (src : Text) : Text :=
  let s := (cStr src).take n
  s ++ List.replicate (n - s.length) nul

def charCells (s : Text) : List Cell := s.map Cell.char

/-- `copyHidlStringToRil`; `malloc` says for each block whether its allocation succeeds.  The
result is the pointer, or `none` when there is no memory. -/
def copyHidlStringToRil (malloc : ℕ → Bool) (m : Mem) (src : Text) (allowEmpty : Bool) :
    Option Ptr × Mem :=
  if src.length = 0 ∧ allowEmpty = false then (some none, m)
  else if malloc m.next then
    (some (some m.here), m.alloc (charCells (strncpy (src.length + 1) src)))
  else (none, m)

/-- A string and whether an empty one is copied. -/
abbrev Field := Text × Bool

/-- Several strings in turn, until one cannot be copied.  The pointers that are not reached
stay null. -/
def copyFields (malloc : ℕ → Bool) (m : Mem) : List Field → List Ptr × Bool × Mem
  | [] => ([], true, m)
  | (src, allowEmpty) :: srcs =>
      match copyHidlStringToRil malloc m src allowEmpty with
      | (some p, m) =>
          let (ps, success, m) := copyFields malloc m srcs
          (p :: ps, success, m)
      | (none, m) => (none :: List.replicate srcs.length none, false, m)

/-! ## What the operations do -/

section Operations

variable (m : Mem)

@[simp] theorem alloc_ledger (cells : List Cell) :
    (m.alloc cells).ledger = .alloc m.here :: m.ledger := rfl

@[simp] theorem alloc_next (cells : List Cell) : (m.alloc cells).next = m.next + 1 := rfl

@[simp] theorem alloc_frame (cells : List Cell) : (m.alloc cells).frame = m.frame := rfl

@[simp] theorem push_ledger (cells : List Cell) : (m.push cells).ledger = m.ledger := rfl

@[simp] theorem push_next (cells : List Cell) : (m.push cells).next = m.next + 1 := rfl

@[simp] theorem push_frame (cells : List Cell) : (m.push cells).frame = m.next :: m.frame := rfl

@[simp] theorem write_ledger (a : Addr) (cells : List Cell) :
    (m.write a cells).ledger = m.ledger := rfl

@[simp] theorem write_next (a : Addr) (cells : List Cell) : (m.write a cells).next = m.next := rfl

@[simp] theorem write_frame (a : Addr) (cells : List Cell) :
    (m.write a cells).frame = m.frame := rfl

@[simp] theorem free_ledger (a : Addr) : (m.free a).ledger = .free a :: m.ledger := rfl

@[simp] theorem alloc_objects_next (cells : List Cell) :
    (m.alloc cells).objects m.next = some cells := Store.enter_self m.objects cells

@[simp] theorem push_objects_next (cells : List Cell) :
    (m.push cells).objects m.next = some cells := Store.enter_self m.objects cells

theorem alloc_objects_of_ne {b : ℕ} (h : b ≠ m.next) (cells : List Cell) :
    (m.alloc cells).objects b = m.objects b := Store.enter_of_ne m.objects cells h

theorem push_objects_of_ne {b : ℕ} (h : b ≠ m.next) (cells : List Cell) :
    (m.push cells).objects b = m.objects b := Store.enter_of_ne m.objects cells h

theorem free_objects_of_ne {a : Addr} {b : ℕ} (h : b ≠ a.block) :
    (m.free a).objects b = m.objects b := Store.leave_of_ne m.objects h

@[simp] theorem free_objects_self (a : Addr) : (m.free a).objects a.block = none :=
  Store.leave_self m.objects

theorem write_objects_self {a : Addr} {old : List Cell} (h : m.objects a.block = some old)
    (cells : List Cell) : (m.write a cells).objects a.block = some cells := by
  show Function.update m.objects a.block _ a.block = some cells
  rw [Function.update_self, h]
  rfl

theorem write_objects_of_ne {a : Addr} {b : ℕ} (h : b ≠ a.block) (cells : List Cell) :
    (m.write a cells).objects b = m.objects b := Store.write_of_ne m.objects cells h

theorem push_cells_here {m : Mem} (cells : List Cell) :
    (m.push cells).cells m.here = some cells := by
  show ((m.push cells).objects m.next).map (·.drop 0) = some cells
  rw [push_objects_next]
  rfl

end Operations

/-! ## Freeing -/

section Freeing

variable {m : Mem} {o : List Addr}

/-- Freeing settles the pointers it is given. -/
theorem owns_memsetAndFreeStrings {ptrs : List Ptr} (h : Owns m.ledger (ptrs.reduceOption ++ o)) :
    Owns (memsetAndFreeStrings m ptrs).ledger o := by
  induction ptrs generalizing m with
  | nil => exact h
  | cons p ptrs ih =>
      show Owns (memsetAndFreeStrings (m.freePtr p) ptrs).ledger o
      cases p with
      | none => exact ih h
      | some a => exact ih (Owns.free h)

/-- A block to which no pointer leads is left alone. -/
theorem memsetAndFreeStrings_objects {ptrs : List Ptr} {b : ℕ}
    (h : ∀ a ∈ ptrs.reduceOption, b ≠ a.block) :
    (memsetAndFreeStrings m ptrs).objects b = m.objects b := by
  induction ptrs generalizing m with
  | nil => rfl
  | cons p ptrs ih =>
      show (memsetAndFreeStrings (m.freePtr p) ptrs).objects b = m.objects b
      cases p with
      | none => exact ih h
      | some a =>
          have hne : b ≠ a.block := h a List.mem_cons_self
          rw [ih fun c hc => h c (List.mem_cons_of_mem a hc)]
          exact free_objects_of_ne m hne

end Freeing

/-! ## Copying -/

/-- What copying leaves: the pointers lead to new blocks of characters, and nothing else is
changed. -/
structure Copied (m m' : Mem) (ps : List Ptr) : Prop where
  owns : ∀ o, Owns m.ledger o → Owns m'.ledger (ps.reduceOption ++ o)
  le : m.next ≤ m'.next
  frame : m'.frame = m.frame
  kept : ∀ b < m.next, m'.objects b = m.objects b
  fresh : ∀ a ∈ ps.reduceOption, m.next ≤ a.block ∧ a.block < m'.next
  chars : ∀ a ∈ ps.reduceOption, ∃ s, m'.cells a = some (charCells s)

theorem Copied.nothing (m : Mem) (ps : List Ptr) (h : ps.reduceOption = []) : Copied m m ps := by
  refine ⟨?_, Nat.le_refl _, rfl, fun _ _ => rfl, ?_, ?_⟩
  · intro o ho
    rw [h]
    exact ho
  · intro a ha
    rw [h] at ha
    cases ha
  · intro a ha
    rw [h] at ha
    cases ha

/-- What is copied first, and what is copied after it. -/
theorem Copied.trans {m m' m'' : Mem} {ps ns qs : List Ptr} (h : Copied m m' ps)
    (h' : Copied m' m'' ns)
    (hperm : qs.reduceOption.Perm (ps.reduceOption ++ ns.reduceOption)) : Copied m m'' qs := by
  refine ⟨?_, Nat.le_trans h.le h'.le, h'.frame.trans h.frame, ?_, ?_, ?_⟩
  · -- the later copies stand in front of the earlier ones
    intro o ho
    apply (h'.owns _ (h.owns o ho)).perm
    rw [← List.append_assoc]
    exact (List.perm_append_comm.trans hperm.symm).append_right o
  · intro b hb
    rw [h'.kept b (Nat.lt_of_lt_of_le hb h.le)]
    exact h.kept b hb
  · intro a ha
    rcases List.mem_append.1 (hperm.mem_iff.1 ha) with ha | ha
    · have ha' := h.fresh a ha
      exact ⟨ha'.1, Nat.lt_of_lt_of_le ha'.2 h'.le⟩
    · have ha' := h'.fresh a ha
      exact ⟨Nat.le_trans h.le ha'.1, ha'.2⟩
  · intro a ha
    rcases List.mem_append.1 (hperm.mem_iff.1 ha) with ha | ha
    · -- copying goes on in new blocks
      obtain ⟨s, hs⟩ := h.chars a ha
      refine ⟨s, ?_⟩
      rw [← hs]
      unfold Mem.cells
      rw [h'.kept a.block (h.fresh a ha).2]
    · exact h'.chars a ha

section Writing

variable {m m' : Mem} {ps : List Ptr} {a b : Addr}

/-- A block that was there before the copying is written. -/
theorem Copied.write_self (h : Copied m m' ps) {old : List Cell}
    (hold : m.objects a.block = some old) (hlt : a.block < m.next) (cells : List Cell) :
    (m'.write a cells).objects a.block = some cells := by
  apply write_objects_self
  rw [h.kept a.block hlt]
  exact hold

/-- Writing it leaves the copies alone. -/
theorem Copied.write_fresh (h : Copied m m' ps) (hb : b ∈ ps.reduceOption)
    (hlt : a.block < m.next) (cells : List Cell) :
    (m'.write a cells).objects b.block = m'.objects b.block := by
  apply write_objects_of_ne
  have hnew := (h.fresh b hb).1
  omega

end Writing

/-- A copy and those that follow. -/
theorem Copied.cons {m m' m'' : Mem} {p : Ptr} {ps : List Ptr} (h : Copied m m' [p])
    (h' : Copied m' m'' ps) : Copied m m'' (p :: ps) := by
  apply h.trans h'
  rw [← List.reduceOption_append]
  exact List.Perm.refl _

theorem alloc_copied (m : Mem) (s : Text) : Copied m (m.alloc (charCells s)) [some m.here] := by
  refine ⟨?_, Nat.le_succ _, rfl, ?_, ?_, ?_⟩
  · intro o ho
    exact ho.alloc m.here
  · intro b hb
    exact alloc_objects_of_ne m (Nat.ne_of_lt hb) _
  · intro a ha
    obtain rfl := List.mem_singleton.1 ha
    exact ⟨Nat.le_refl _, Nat.lt_succ_self _⟩
  · intro a ha
    obtain rfl := List.mem_singleton.1 ha
    refine ⟨s, ?_⟩
    show ((m.alloc _).objects m.next).map (·.drop 0) = _
    rw [alloc_objects_next]
    rfl

theorem copyHidlStringToRil_copied (malloc : ℕ → Bool) (m : Mem) (src : Text)
    (allowEmpty : Bool) :
    Copied m (copyHidlStringToRil malloc m src allowEmpty).2
      [(copyHidlStringToRil malloc m src allowEmpty).1.join] := by
  unfold copyHidlStringToRil
  split
  · exact Copied.nothing m _ rfl
  split
  · exact alloc_copied m _
  · exact Copied.nothing m _ rfl

theorem copyFields_copied (malloc : ℕ → Bool) (m : Mem) (srcs : List Field) :
    Copied m (copyFields malloc m srcs).2.2 (copyFields malloc m srcs).1 := by
  induction srcs generalizing m with
  | nil => exact Copied.nothing m [] rfl
  | cons src srcs ih =>
      obtain ⟨src, allowEmpty⟩ := src
      have hfirst := copyHidlStringToRil_copied malloc m src allowEmpty
      unfold copyFields
      split
      · rename_i p m' heq
        rw [heq] at hfirst
        exact hfirst.cons (ih m')
      · -- the pointers that are not reached stay null
        rename_i m' heq
        rw [heq] at hfirst
        refine hfirst.cons (Copied.nothing m' _ ?_)
        exact List.reduceOption_replicate_none

theorem copyFields_length (malloc : ℕ → Bool) (m : Mem) (srcs : List Field) :
    (copyFields malloc m srcs).1.length = srcs.length := by
  induction srcs generalizing m with
  | nil => rfl
  | cons src srcs ih =>
      obtain ⟨src, allowEmpty⟩ := src
      unfold copyFields
      split
      · exact congrArg Nat.succ (ih _)
      · rw [List.length_cons, List.length_replicate, List.length_cons]

end Radio.Payload
