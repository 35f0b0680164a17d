/-
# The operator of the initial attach APN (`ril_service.cpp`)

`setInitialAttachApn` takes the operator that goes along with the APN from the property
`gsm.sim.operator.numeric`, which holds one field for each slot, with commas in between.

* `operatorNumeric` : what is put into the array of the request;
* `operatorNumeric_own_iff` : when it is the field of the slot.
-/
import Ct07.Lib.CString
import Ct07.Radio.InitialAttach
import Ct07.Radio.PayloadMemory
import Mathlib.Data.List.TakeWhile

open CheckedMemory CString

namespace Radio.OperatorNumeric

open Payload (nul strncpy cStr)

/-! ## The code -/

/-- The size of `prop`. -/
def sizeofProp : ℕ := 32

/-- The size of `iaa.operatorNumeric`. -/
def sizeofOperatorNumeric : ℕ := 8

/-- `p = strchr(prop, ','); if (p) *p++ = 0;`, with `p` as a place in the array `prop`. -/
def splitProp (prop : Text) : Except Fault (Text × Option ℕ) := do
  match strchr (← string nul prop) ',' with
  | some i => return (← writeAt prop i nul, some (i + 1))
  | none => return (prop, none)

/-- The array and the pointer into it, when `property_get` has returned. -/
def select (slotId : ℕ) (value : Text) (prop : Text) : Except Fault (Text × Option ℕ) := do
  if value.length = 0 then
    return (prop, some 0)
  else
    let (prop, p) ← splitProp prop
    return (prop, if slotId = 0 then some 0 else p)

/-- `strncpy(iaa.operatorNumeric, p, 8)` -/
def copyOperator (prop : Text) (p : Option ℕ) : Except Fault Text :=
  match p with
  | none => .error .read
  | some off => return strncpy sizeofOperatorNumeric (← string nul (prop.drop off))

/-- The array `iaa.operatorNumeric`.  The array `prop` holds `garbage` at first. -/
def operatorNumeric (slotId : ℕ) (garbage : Vector Char sizeofProp) (value : PropertyValue) :
    Except Fault Text := do
  let prop ← putString nul garbage.toList value.text
  let (prop, p) ← select slotId value.text prop
  copyOperator prop p

/-! ## What is copied -/

section Copied

variable (slotId : ℕ) (garbage : Vector Char sizeofProp) (value : PropertyValue)

/-- A long value is copied past the end of `prop`. -/
theorem operatorNumeric_overrun (hlong : ¬ value.text.length < sizeofProp) :
    operatorNumeric slotId garbage value = .error .write := by
  have hoverrun : ¬ value.text.length < garbage.toList.length := by
    rwa [Vector.length_toList]
  rw [operatorNumeric, putString_overrun hoverrun]
  rfl

variable {value}

/-- What the array `prop` holds behind the value does not matter. -/
theorem operatorNumeric_eq (hlen : value.text.length < sizeofProp) :
    ∃ tail, operatorNumeric slotId garbage value =
      select slotId value.text (value.text ++ nul :: tail) >>= fun selected =>
        copyOperator selected.1 selected.2 := by
  have hfits : value.text.length < garbage.toList.length := by
    rwa [Vector.length_toList]
  refine ⟨garbage.toList.drop (value.text.length + 1), ?_⟩
  rw [operatorNumeric, putString_eq hfits, ok_bind]

/-- The string that is found at a place in the array. -/
theorem copyOperator_some (before : Text) {s tail : Text} (hs : nul ∉ s) {off : ℕ}
    (hoff : off = before.length) :
    copyOperator (before ++ (s ++ nul :: tail)) (some off) =
      .ok (strncpy sizeofOperatorNumeric s) := by
  subst hoff
  rw [copyOperator, List.drop_left, string_append _ _ hs]
  rfl

theorem operatorNumeric_nil (hvalue : value.text = []) :
    operatorNumeric slotId garbage value = .ok (strncpy sizeofOperatorNumeric []) := by
  have hlen : value.text.length < sizeofProp := by
    rw [hvalue]
    decide
  obtain ⟨tail, heq⟩ := operatorNumeric_eq slotId garbage hlen
  rw [heq, hvalue]
  rfl

/-- Without a comma there is a string for the first slot only. -/
theorem operatorNumeric_field (hlen : value.text.length < sizeofProp) (hvalue : value.text ≠ [])
    (hcomma : ',' ∉ value.text) :
    operatorNumeric slotId garbage value =
      if slotId = 0 then .ok (strncpy sizeofOperatorNumeric value.text) else .error .read := by
  obtain ⟨tail, heq⟩ := operatorNumeric_eq slotId garbage hlen
  have hsplit : splitProp (value.text ++ nul :: tail) = .ok (value.text ++ nul :: tail, none) := by
    rw [splitProp, string_append _ _ value.nul_not_mem, ok_bind, strchr_eq_none hcomma]
    rfl
  rw [heq, select, if_neg fun h => hvalue (List.length_eq_zero_iff.1 h), hsplit, ok_bind]
  show copyOperator (value.text ++ nul :: tail) (if slotId = 0 then some 0 else none) = _
  by_cases hslot : slotId = 0
  · rw [if_pos hslot, if_pos hslot]
    exact copyOperator_some [] value.nul_not_mem rfl
  · rw [if_neg hslot, if_neg hslot]
    rfl

/-- With a comma there is a string before it and one behind it. -/
theorem operatorNumeric_fields (hlen : value.text.length < sizeofProp) {first rest : Text}
    (hvalue : value.text = first ++ ',' :: rest) (hfirst : ',' ∉ first) :
    operatorNumeric slotId garbage value =
      .ok (strncpy sizeofOperatorNumeric (if slotId = 0 then first else rest)) := by
  obtain ⟨tail, heq⟩ := operatorNumeric_eq slotId garbage hlen
  have hnul := value.nul_not_mem
  rw [hvalue, List.mem_append, List.mem_cons, not_or, not_or] at hnul
  have hprop : value.text ++ nul :: tail = first ++ ',' :: (rest ++ nul :: tail) := by
    rw [hvalue, List.append_assoc, List.cons_append]
  have hsplit : splitProp (value.text ++ nul :: tail) =
      .ok (first ++ nul :: (rest ++ nul :: tail), some (first.length + 1)) := by
    rw [splitProp, string_append _ _ value.nul_not_mem, ok_bind, hvalue,
      strchr_append_cons rest hfirst, ← hvalue, hprop]
    show (writeAt (first ++ ',' :: (rest ++ nul :: tail)) first.length nul >>= fun prop =>
      Except.ok (prop, some (first.length + 1))) = _
    rw [writeAt_append_cons ',' nul rfl, ok_bind]
  have hne : ¬ value.text.length = 0 := by
    rw [hvalue, List.length_append, List.length_cons]
    omega
  rw [heq, select, if_neg hne, hsplit, ok_bind]
  show copyOperator (first ++ nul :: (rest ++ nul :: tail))
    (if slotId = 0 then some 0 else some (first.length + 1)) = _
  by_cases hslot : slotId = 0
  · rw [if_pos hslot, if_pos hslot]
    exact copyOperator_some [] hnul.1 rfl
  · rw [if_neg hslot, if_neg hslot, List.append_cons first nul]
    exact copyOperator_some _ hnul.2.2 (by rw [List.length_append, List.length_singleton])

end Copied

/-! ## The field of a slot -/

/-- The field of a slot, empty when there is none. -/
def ownField (slotId : ℕ) (value : Text) : Text := (value.splitOn ',').getD slotId []

/-- The vendor is given the field of the slot, with its end. -/
def Own (slotId : ℕ) (garbage : Vector Char sizeofProp) (value : PropertyValue) : Prop :=
  ∃ cells, operatorNumeric slotId garbage value = .ok cells ∧
    string nul cells = .ok (ownField slotId value.text)

/-- What is read back of a string that `strncpy` copied. -/
theorem string_strncpy_iff {n : ℕ} {s t : Text} (hs : nul ∉ s) :
    string nul (strncpy n s) = .ok t ↔ s.length < n ∧ s = t := by
  have hcStr : cStr s = s := by
    apply List.takeWhile_eq_self_iff.2
    intro c hc
    simpa using fun h : c = nul => hs (h ▸ hc)
  rw [strncpy, hcStr]
  by_cases hlen : s.length < n
  · have hpad : n - (s.take n).length = (n - s.length - 1) + 1 := by
      rw [List.length_take]
      omega
    rw [hpad, List.replicate_succ, List.take_of_length_le (Nat.le_of_lt hlen),
      string_append _ _ hs, Except.ok.injEq, and_iff_right hlen]
  · have hpad : n - (s.take n).length = 0 := by
      rw [List.length_take]
      omega
    have hnul : nul ∉ s.take n := fun h => hs (List.mem_of_mem_take h)
    rw [hpad, List.replicate_zero, List.append_nil, string_eq_error hnul]
    exact iff_of_false (by simp) fun h => hlen h.1

variable {slotId : ℕ} {garbage : Vector Char sizeofProp} {value : PropertyValue}

theorem own_iff_of_ok {s : Text} (hs : nul ∉ s)
    (hok : operatorNumeric slotId garbage value = .ok (strncpy sizeofOperatorNumeric s)) :
    Own slotId garbage value ↔
      s.length < sizeofOperatorNumeric ∧ s = ownField slotId value.text := by
  rw [← string_strncpy_iff hs]
  constructor
  · rintro ⟨cells, hcells, hstring⟩
    rw [hok, Except.ok.injEq] at hcells
    rwa [hcells]
  · intro hstring
    exact ⟨_, hok, hstring⟩

theorem not_own_of_error {fault : Fault}
    (herror : operatorNumeric slotId garbage value = .error fault) :
    ¬ Own slotId garbage value := by
  rintro ⟨cells, hcells, -⟩
  rw [herror] at hcells
  exact absurd hcells (by simp)

/-- There are two fields, for the first two slots, or for the first one alone. -/
def TwoFields (slotId : ℕ) (value : Text) : Prop :=
  (value.splitOn ',').length = 2 ∧ (slotId = 1 ∨ ownField 1 value = [])

theorem ownField_zero {value first : Text} {fields : List Text}
    (hsplit : value.splitOn ',' = first :: fields) : ownField 0 value = first := by
  rw [ownField, hsplit]
  rfl

theorem comma_not_mem_ownField (slotId : ℕ) (value : Text) : ',' ∉ ownField slotId value := by
  unfold ownField
  rw [List.getD_eq_getElem?_getD]
  cases hfield : (value.splitOn ',')[slotId]? with
  | none => exact List.not_mem_nil
  | some field => exact not_mem_of_mem_splitOn (List.mem_of_getElem? hfield)

/-- What stands behind the first comma is the field of a later slot only if nothing else does. -/
theorem rest_eq_ownField_iff {value first rest : Text}
    (hsplit : value.splitOn ',' = first :: rest.splitOn ',') (hslot : slotId ≠ 0) :
    rest = ownField slotId value ↔ TwoFields slotId value := by
  obtain ⟨slot, rfl⟩ := Nat.exists_eq_succ_of_ne_zero hslot
  obtain ⟨-, hrest⟩ | ⟨second, others, -, hrest, hothers⟩ := splitOn_cases ',' rest
  · rw [hrest] at hsplit
    have hsecond : ownField 1 value = rest := by
      rw [ownField, hsplit]
      rfl
    have hlength : (value.splitOn ',').length = 2 := by
      rw [hsplit]
      rfl
    rw [TwoFields, hsecond, and_iff_right hlength]
    cases slot with
    | zero => exact iff_of_true hsecond.symm (.inl rfl)
    | succ slot =>
        have hnone : ownField (slot + 1 + 1) value = [] := by
          rw [ownField, hsplit]
          rfl
        rw [hnone]
        simp
  · -- a further comma belongs to no field
    apply iff_of_false
    · intro heq
      apply comma_not_mem_ownField (slot + 1) value
      rw [← heq, hrest]
      simp
    · rintro ⟨hlength, -⟩
      rw [hsplit, hothers, List.length_cons, List.length_cons] at hlength
      have hpos := List.length_pos_of_ne_nil (List.splitOn_ne_nil ',' others)
      omega

section Cases

variable (garbage) (hlen : value.text.length < sizeofProp)

include hlen

/-- One field is for the first slot. -/
theorem own_field_iff (hcomma : ',' ∉ value.text) (hsplit : value.text.splitOn ',' = [value.text]) :
    Own slotId garbage value ↔
      (ownField slotId value.text).length < sizeofOperatorNumeric ∧
      (slotId = 0 ∨ value.text = [] ∨ TwoFields slotId value.text) := by
  by_cases hnil : value.text = []
  · have hown : ownField slotId value.text = [] := by
      rw [ownField, hsplit, hnil]
      cases slotId <;> rfl
    rw [own_iff_of_ok List.not_mem_nil (operatorNumeric_nil slotId garbage hnil), hown]
    exact iff_of_true ⟨by decide, rfl⟩ ⟨by decide, .inr (.inl hnil)⟩
  · have hok := operatorNumeric_field slotId garbage hlen hnil hcomma
    by_cases hslot : slotId = 0
    · subst hslot
      rw [own_iff_of_ok value.nul_not_mem hok, ownField_zero hsplit]
      simp
    · rw [if_neg hslot] at hok
      apply iff_of_false (not_own_of_error hok)
      rintro ⟨-, h | h | ⟨hlength, -⟩⟩
      · exact hslot h
      · exact hnil h
      · rw [hsplit] at hlength
        exact absurd hlength (by simp)

/-- Of several fields, the first one is for the first slot, and the others are for all others. -/
theorem own_fields_iff {first rest : Text} (hfirst : ',' ∉ first)
    (hvalue : value.text = first ++ ',' :: rest)
    (hsplit : value.text.splitOn ',' = first :: rest.splitOn ',') :
    Own slotId garbage value ↔
      (ownField slotId value.text).length < sizeofOperatorNumeric ∧
      (slotId = 0 ∨ value.text = [] ∨ TwoFields slotId value.text) := by
  have hok := operatorNumeric_fields slotId garbage hlen hvalue hfirst
  have hnul := value.nul_not_mem
  rw [hvalue, List.mem_append, List.mem_cons, not_or, not_or] at hnul
  by_cases hslot : slotId = 0
  · subst hslot
    rw [own_iff_of_ok hnul.1 hok, ownField_zero hsplit]
    simp
  · have hnil : value.text ≠ [] := by
      rw [hvalue]
      simp
    rw [if_neg hslot] at hok
    rw [own_iff_of_ok hnul.2.2 hok, ← rest_eq_ownField_iff hsplit hslot, or_iff_right hslot,
      or_iff_right hnil]
    constructor
    · rintro ⟨hshort, heq⟩
      exact ⟨heq ▸ hshort, heq⟩
    · rintro ⟨hshort, heq⟩
      exact ⟨heq ▸ hshort, heq⟩

end Cases

/-- **The operator of a slot.**  The vendor is given the field of the slot exactly when value and
field fit their arrays and, for another slot than the first, the value is empty or has two fields
with nothing in the second one that is not the slot's own. -/
theorem operatorNumeric_own_iff :
    Own slotId garbage value ↔
      value.text.length < sizeofProp ∧
      (ownField slotId value.text).length < sizeofOperatorNumeric ∧
      (slotId = 0 ∨ value.text = [] ∨ TwoFields slotId value.text) := by
  by_cases hlen : value.text.length < sizeofProp
  · rw [and_iff_right hlen]
    obtain ⟨hcomma, hsplit⟩ | ⟨first, rest, hfirst, hvalue, hsplit⟩ := splitOn_cases ',' value.text
    · exact own_field_iff garbage hlen hcomma hsplit
    · exact own_fields_iff garbage hlen hfirst hvalue hsplit
  · apply iff_of_false
    · exact not_own_of_error (operatorNumeric_overrun slotId garbage value hlen)
    · exact fun h => hlen h.1

/-- One operator, and no comma. -/
def oneOperator : PropertyValue := ⟨⟨"46001".toList, by decide⟩, by decide⟩

/-- The second slot has no operator, and the null pointer is read. -/
theorem oneOperator_not_own :
    ¬ ∀ (slotId : ℕ) (garbage : Vector Char sizeofProp) (value : PropertyValue),
      Own slotId garbage value := by
  intro h
  obtain ⟨cells, hcells, -⟩ := h 1 (Vector.replicate sizeofProp nul) oneOperator
  have herror : operatorNumeric 1 (Vector.replicate sizeofProp nul) oneOperator =
      .error .read := by decide +kernel
  rw [herror] at hcells
  exact absurd hcells (by simp)

end Radio.OperatorNumeric
