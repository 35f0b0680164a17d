/-
# Counted copies

A loop that fills a vector from an array, element by element, where the number of rounds comes
from elsewhere: the vector has been resized to it, and each access is checked.

* `resize` : a vector of a signed size;
* `copyLoop` : the loop, from any index on;
* `Yields` : what its rounds give;
* `copyLoop_eq_ok_iff` : when the loop reaches its end, and with which vector;
* `copyArray_eq_ok_iff` : the same for rounds that each read the element of their index.
-/
import Ct07.Lib.CheckedMemory
import Mathlib.Data.Int.Notation
import Mathlib.Data.List.Forall2
import Mathlib.Data.List.ReduceOption

open CheckedMemory

namespace CountedCopy

variable {α β : Type}

/-- A vector with `n` elements; a negative number is a size that no vector has. -/
def resize (zero : β) (n : ℤ) : Except Fault (List β) :=
  if n < 0 then .error .wrap else .ok (List.replicate n.toNat zero)

/-- `for (k = i; k < i + n; k++) out[k] = f(k)` -/
def copyLoop (f : ℕ → Except Fault β) : ℕ → ℕ → List β → Except Fault (List β)
  | _, 0, out => .ok out
  | i, n + 1, out => do
      let b ← f i
      let out ← writeAt out i b
      copyLoop f (i + 1) n out

/-- The rounds from `i` on give `bs`. -/
def Yields (f : ℕ → Except Fault β) : ℕ → List β → Prop
  | _, [] => True
  | i, b :: bs => f i = .ok b ∧ Yields f (i + 1) bs

theorem resize_eq_ok_iff {zero : β} {n : ℤ} {out : List β} :
    resize zero n = .ok out ↔ 0 ≤ n ∧ out = List.replicate n.toNat zero := by
  unfold resize
  by_cases hn : n < 0
  · rw [if_pos hn]
    constructor
    · rintro ⟨⟩
    · rintro ⟨h, -⟩
      omega
  · rw [if_neg hn, Except.ok.injEq]
    constructor
    · exact fun h => ⟨by omega, h.symm⟩
    · exact fun h => h.2.symm

section Loop

variable {f : ℕ → Except Fault β}

/-- The rounds from the next index on are those of the rest. -/
theorem yields_succ_iff {g : ℕ → Except Fault β} (h : ∀ k, f (k + 1) = g k) {i : ℕ}
    {bs : List β} : Yields f (i + 1) bs ↔ Yields g i bs := by
  induction bs generalizing i with
  | nil => exact Iff.rfl
  | cons b bs ih => rw [Yields, Yields, ih, h]

/-- The loop, in the middle of a vector that is filled before `i`. -/
theorem copyLoop_append_eq_ok_iff {done room out : List β} {i : ℕ} (hi : i = done.length) :
    copyLoop f i room.length (done ++ room) = .ok out ↔
      ∃ bs, bs.length = room.length ∧ Yields f i bs ∧ out = done ++ bs := by
  induction room generalizing done i with
  | nil =>
      rw [List.append_nil, List.length_nil, copyLoop, Except.ok.injEq]
      constructor
      · rintro rfl
        exact ⟨[], rfl, trivial, (List.append_nil _).symm⟩
      · rintro ⟨bs, hbs, -, rfl⟩
        rw [List.length_eq_zero_iff.1 hbs, List.append_nil]
  | cons old room ih =>
      rw [List.length_cons, copyLoop]
      cases hf : f i with
      | error fault =>
          constructor
          · rintro ⟨⟩
          · rintro ⟨bs, hbs, hyields, -⟩
            cases bs with
            | nil => cases hbs
            | cons b bs =>
                have hb := hyields.1
                rw [hf] at hb
                cases hb
      | ok b =>
          have happend : done ++ b :: room = (done ++ [b]) ++ room := by
            rw [List.append_assoc, List.singleton_append]
          have hnext : i + 1 = (done ++ [b]).length := by
            rw [List.length_append, List.length_singleton, hi]
          rw [ok_bind, writeAt_append_cons old b hi, ok_bind, happend, ih hnext]
          constructor
          · rintro ⟨bs, hbs, hyields, rfl⟩
            refine ⟨b :: bs, by rw [List.length_cons, hbs], ⟨hf, hyields⟩, ?_⟩
            rw [List.append_assoc, List.singleton_append]
          · rintro ⟨bs, hbs, hyields, rfl⟩
            cases bs with
            | nil => cases hbs
            | cons b' bs =>
                obtain ⟨hb, hrest⟩ := hyields
                cases hf.symm.trans hb
                refine ⟨bs, Nat.succ.inj hbs, hrest, ?_⟩
                rw [List.append_assoc, List.singleton_append]

/-- The loop reaches its end exactly when each round gives something, and with all that. -/
theorem copyLoop_eq_ok_iff {zero : β} {n : ℕ} {out : List β} :
    copyLoop f 0 n (List.replicate n zero) = .ok out ↔ out.length = n ∧ Yields f 0 out := by
  have hloop := @copyLoop_append_eq_ok_iff β f [] (List.replicate n zero) out 0 rfl
  rw [List.length_replicate, List.nil_append] at hloop
  rw [hloop]
  constructor
  · rintro ⟨bs, hbs, hyields, rfl⟩
    exact ⟨hbs, hyields⟩
  · rintro ⟨hlength, hyields⟩
    exact ⟨out, hlength, hyields, rfl⟩

end Loop

/-! ## Elements of an array -/

section Array

variable {g : α → Except Fault β}

/-- Rounds that read the element of their index. -/
theorem yields_read_iff {xs : List α} {i : ℕ} {bs : List β} :
    Yields (fun k => readAt xs k >>= g) i bs ↔
      bs = [] ∨ i + bs.length ≤ xs.length ∧
        List.Forall₂ (fun a b => g a = .ok b) ((xs.drop i).take bs.length) bs := by
  induction bs generalizing i with
  | nil => exact iff_of_true trivial (Or.inl rfl)
  | cons b bs ih =>
      rw [Yields, ih, bind_eq_ok_iff, List.length_cons]
      simp only [readAt_eq_ok_iff, List.cons_ne_nil, false_or]
      constructor
      · rintro ⟨⟨a, ha, hb⟩, hrest⟩
        obtain ⟨hlt, hget⟩ := List.getElem?_eq_some_iff.1 ha
        rw [List.drop_eq_getElem_cons hlt, List.take_succ_cons, hget]
        obtain rfl | ⟨hlength, hrest⟩ := hrest
        · exact ⟨hlt, List.Forall₂.cons hb List.Forall₂.nil⟩
        · exact ⟨by omega, List.Forall₂.cons hb hrest⟩
      · rintro ⟨hlength, hall⟩
        have hlt : i < xs.length := by omega
        rw [List.drop_eq_getElem_cons hlt, List.take_succ_cons] at hall
        cases hall with
        | cons hb hrest =>
            exact ⟨⟨xs[i], List.getElem?_eq_getElem hlt, hb⟩, Or.inr ⟨by omega, hrest⟩⟩

/-- A vector of `n` elements is filled from the first `n` of an array. -/
def copyArray (zero : β) (g : α → Except Fault β) (xs : List α) (n : ℕ) :
    Except Fault (List β) :=
  copyLoop (fun k => readAt xs k >>= g) 0 n (List.replicate n zero)

/-- The vector is filled exactly when the array has the elements and each gives something. -/
theorem copyArray_eq_ok_iff {zero : β} {xs : List α} {n : ℕ} {out : List β} :
    copyArray zero g xs n = .ok out ↔
      n ≤ xs.length ∧ List.Forall₂ (fun a b => g a = .ok b) (xs.take n) out := by
  rw [copyArray, copyLoop_eq_ok_iff, yields_read_iff]
  constructor
  · rintro ⟨rfl, rfl | ⟨hlength, hall⟩⟩
    · exact ⟨Nat.zero_le _, List.Forall₂.nil⟩
    · rw [Nat.zero_add] at hlength
      exact ⟨hlength, hall⟩
  · rintro ⟨hlength, hall⟩
    have hout : out.length = n := by
      rw [← hall.length_eq, List.length_take, Nat.min_eq_left hlength]
    refine ⟨hout, Or.inr ⟨by omega, ?_⟩⟩
    rw [hout]
    exact hall

/-- Rounds that always give something. -/
theorem forall₂_ok_iff {h : α → β} {xs : List α} {out : List β} :
    List.Forall₂ (fun a b => (.ok (h a) : Except Fault β) = .ok b) xs out ↔ out = xs.map h := by
  induction xs generalizing out with
  | nil =>
      rw [List.forall₂_nil_left_iff]
      rfl
  | cons a xs ih =>
      rw [List.forall₂_cons_left_iff, List.map_cons]
      constructor
      · rintro ⟨b, bs, hb, hbs, rfl⟩
        rw [ih.1 hbs, ← Except.ok.inj hb]
      · rintro rfl
        exact ⟨h a, xs.map h, rfl, ih.2 rfl, rfl⟩

/-- A read through a pointer. -/
def deref (p : Option α) : Except Fault α :=
  match p with
  | some a => .ok a
  | none => .error .read

/-- Rounds that read through a pointer. -/
theorem forall₂_deref_iff {h : α → β} {ps : List (Option α)} {out : List β} :
    List.Forall₂ (fun p b => (deref p >>= fun a => .ok (h a)) = .ok b) ps out ↔
      (∀ p ∈ ps, p.isSome) ∧ out = ps.reduceOption.map h := by
  induction ps generalizing out with
  | nil =>
      rw [List.forall₂_nil_left_iff]
      constructor
      · rintro rfl
        refine ⟨?_, rfl⟩
        rintro p ⟨⟩
      · exact fun h => h.2
  | cons p ps ih =>
      rw [List.forall₂_cons_left_iff]
      cases p with
      | none =>
          constructor
          · rintro ⟨b, bs, ⟨⟩, -, -⟩
          · rintro ⟨hsome, -⟩
            cases hsome none List.mem_cons_self
      | some a =>
          rw [List.reduceOption_cons_of_some, List.map_cons, List.forall_mem_cons]
          constructor
          · rintro ⟨b, bs, hb, hbs, rfl⟩
            obtain ⟨hsome, rfl⟩ := ih.1 hbs
            cases hb
            exact ⟨⟨rfl, hsome⟩, rfl⟩
          · rintro ⟨⟨-, hsome⟩, rfl⟩
            exact ⟨h a, _, rfl, ih.2 ⟨hsome, rfl⟩, rfl⟩

end Array

end CountedCopy
