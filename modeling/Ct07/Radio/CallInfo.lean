/-
# Call information of the vendor (`ril_service.cpp`)

The vendor tells of calls by two indications with an array of strings.  The first two fields are
the call id and the kind of message, and the last one is a sequence number.  An incoming call is
acknowledged with the call id and the sequence number, without which the modem does not proceed.

The vendor gives the length of the array in elements or in bytes, and the handlers guess which.
Every read of the array and of its strings is checked.

* `fieldCount_bytes`, `fieldCount_elements` : what the guess comes to;
* `callInfo_handled_iff` : when both handlers read inside of the array and acknowledge the call.
-/
import Ct07.Lib.CheckedMemory
import Ct07.Radio.Reply
import Ct07.Ril.Commands

open CheckedMemory

namespace Radio.CallInfo

/-! ## Operations -/

/-- What a handler does. -/
inductive Effect where
  | dispatchInts (request : Ril.RilRequest) (ints : List ℤ)
  | callStateChanged (type : IndicationType)
  deriving DecidableEq

/-- `nfields` -/
def fieldCount (responseLen : ℕ) : ℕ :=
  if responseLen ≥ sizeofPointer ∧ responseLen % sizeofPointer = 0 then
    responseLen / sizeofPointer
  else responseLen

/-- `strings[i]` -/
def stringAt (strings : Option Strings) (i : ℕ) : Except Fault (Option Text) :=
  match strings with
  | none => .error .read
  | some xs => readAt xs i

/-- The text of `strings[i]`, which must not be a null pointer. -/
def textAt (strings : Option Strings) (i : ℕ) : Except Fault Text := do
  match ← stringAt strings i with
  | none => .error .read
  | some s => return s

/-- The mode of the acknowledgement; `callindMode` is `persist.vendor.ril.callind_mode`, empty
when it is not set. -/
def mode (callindMode : Text) : ℤ := if callindMode = [] then 1 else atoi callindMode

/-- A sequence number, 0 for a null pointer. -/
def sequenceNumber (s : Option Text) : ℤ := atoiNullHandledDef s 0

def setCallIndication (callindMode callId : Text) (seq : ℤ) : Effect :=
  .dispatchInts .setCallIndication [mode callindMode, atoi callId, seq]

/-- The kind of an incoming call, with the caller's number. -/
def incomingCall : Text := "133".toList

/-- `radio::mtkEcpiInd` -/
def mtkEcpiInd (callindMode : Text) (response : Option Strings) (responseLen : ℕ) :
    Except Fault (List Effect) :=
  match response with
  | none => return []
  | some _ => do
      let nfields := fieldCount responseLen
      if nfields < 10 ∨ nfields > 32 then return []
      else
        match ← stringAt response 0 with
        | none => return []
        | some callId =>
            match ← stringAt response 1 with
            | none => return []
            | some kind =>
                if kind ≠ incomingCall then return []
                else
                  let seq ← stringAt response (nfields - 1)
                  return [setCallIndication callindMode callId (sequenceNumber seq)]

/-- The acknowledgement in `radio::callInfoInd`. -/
def acknowledge (callindMode : Text) (response : Option Strings) (nfields : ℕ) :
    Except Fault (List Effect) := do
  if nfields < 2 then return []
  else
    match ← stringAt response 0 with
    | none => return []
    | some callId =>
        match ← stringAt response 1 with
        | none => return []
        | some kind =>
            if kind ≠ incomingCall then return []
            else if nfields ≥ 10 ∧ nfields ≤ 32 then
              let seq ← stringAt response (nfields - 1)
              return [setCallIndication callindMode callId (sequenceNumber seq)]
            else return [setCallIndication callindMode callId 0]

/-- The end of `radio::callInfoInd`: a change of the calls. -/
def tellChange (indicationType : ℤ) (response : Option Strings) (responseLen : ℕ) :
    Except Fault (List Effect) := do
  if responseLen ≥ 2 then
    let kind ← textAt response 1
    if kind = "129".toList then
      return [.callStateChanged (convertIntToRadioIndicationType indicationType)]
    else return []
  else return []

/-- `radio::callInfoInd` -/
def callInfoInd (callindMode : Text) (connected : Bool) (indicationType : ℤ)
    (response : Option Strings) (responseLen : ℕ) : Except Fault (List Effect) :=
  if connected then do
    let acknowledgement ← acknowledge callindMode response (fieldCount responseLen)
    let change ← tellChange indicationType response responseLen
    return acknowledgement ++ change
  else return []

/-! ## Payloads -/

/-- A payload of `k` strings, or a null pointer. -/
structure Payload where
  strings : Option Strings
  k : ℕ
  length_eq : ∀ xs ∈ strings, xs.length = k

/-- What the vendor gives as the length. -/
inductive LengthForm where
  | elements
  | bytes
  deriving DecidableEq, Repr

def Payload.responseLen (p : Payload) : LengthForm → ℕ
  | .elements => p.k
  | .bytes => p.k * sizeofPointer

/-- A length in bytes is recognised. -/
theorem fieldCount_bytes (k : ℕ) : fieldCount (k * sizeofPointer) = k := by
  rw [fieldCount, sizeofPointer]
  split <;> omega

/-- A length in elements is taken for one in bytes when it can be one. -/
theorem fieldCount_elements (k : ℕ) :
    fieldCount k = if sizeofPointer ∣ k then k / sizeofPointer else k := by
  rw [fieldCount, sizeofPointer]
  split <;> split <;> omega

/-- No more fields are counted than there are. -/
theorem fieldCount_le (p : Payload) (form : LengthForm) :
    fieldCount (p.responseLen form) ≤ p.k := by
  cases form with
  | elements =>
      show fieldCount p.k ≤ p.k
      rw [fieldCount_elements]
      split
      · exact Nat.div_le_self _ _
      · exact Nat.le_refl _
  | bytes => exact Nat.le_of_eq (fieldCount_bytes p.k)

/-! ## Reads that stay inside -/

/-- A string that is read in an array of so many strings is there. -/
theorem stringAt_isOk {xs : Strings} {i : ℕ} (h : i < xs.length) :
    ∃ s, stringAt (some xs) i = .ok s := readAt_isOk_iff.2 h

/-- The acknowledgement of `callInfoInd` is read inside of an array with as many fields as are
counted. -/
theorem acknowledge_isOk (callindMode : Text) {xs : Strings} {nfields : ℕ}
    (h : nfields ≤ xs.length) :
    ∃ effects, acknowledge callindMode (some xs) nfields = .ok effects := by
  unfold acknowledge
  by_cases htwo : nfields < 2
  · exact ⟨_, if_pos htwo⟩
  · rw [if_neg htwo]
    obtain ⟨s0, h0⟩ := stringAt_isOk (show 0 < xs.length by omega)
    obtain ⟨s1, h1⟩ := stringAt_isOk (show 1 < xs.length by omega)
    obtain ⟨seq, hseq⟩ := stringAt_isOk (show nfields - 1 < xs.length by omega)
    rw [h0]
    cases s0 with
    | none => exact ⟨_, rfl⟩
    | some callId =>
        simp only [h1, bind, Except.bind]
        cases s1 with
        | none => exact ⟨_, rfl⟩
        | some kind =>
            by_cases hkind : kind ≠ incomingCall
            · exact ⟨_, if_pos hkind⟩
            · simp only [if_neg hkind, hseq]
              split <;> exact ⟨_, rfl⟩

/-- With 10 to 32 fields `mtkEcpiInd` is the acknowledgement of `callInfoInd`. -/
theorem mtkEcpiInd_eq_acknowledge (callindMode : Text) (xs : Strings) {responseLen : ℕ}
    (h : ¬ (fieldCount responseLen < 10 ∨ fieldCount responseLen > 32)) :
    mtkEcpiInd callindMode (some xs) responseLen =
      acknowledge callindMode (some xs) (fieldCount responseLen) := by
  have htwo : ¬ fieldCount responseLen < 2 := by omega
  have hrange : fieldCount responseLen ≥ 10 ∧ fieldCount responseLen ≤ 32 := by omega
  unfold mtkEcpiInd acknowledge
  simp only [if_neg h, if_neg htwo, if_pos hrange]

/-- `mtkEcpiInd` reads inside of every payload. -/
theorem mtkEcpiInd_isOk (callindMode : Text) (p : Payload) (form : LengthForm) :
    ∃ effects, mtkEcpiInd callindMode p.strings (p.responseLen form) = .ok effects := by
  cases hstrings : p.strings with
  | none => exact ⟨_, rfl⟩
  | some xs =>
      by_cases hrange : fieldCount (p.responseLen form) < 10 ∨
          fieldCount (p.responseLen form) > 32
      · exact ⟨_, if_pos hrange⟩
      · rw [mtkEcpiInd_eq_acknowledge callindMode xs hrange]
        apply acknowledge_isOk
        rw [p.length_eq xs hstrings]
        exact fieldCount_le p form

/-- The kind of the message can be read. -/
def HasKind (strings : Option Strings) : Prop :=
  ∃ xs kind, strings = some xs ∧ xs[1]? = some (some kind)

theorem textAt_eq_ok_iff {strings : Option Strings} {i : ℕ} {s : Text} :
    textAt strings i = .ok s ↔ ∃ xs, strings = some xs ∧ xs[i]? = some (some s) := by
  unfold textAt
  rw [bind_eq_ok_iff]
  cases strings with
  | none => simp [stringAt]
  | some xs =>
      simp only [stringAt, readAt_eq_ok_iff, Option.some.injEq, exists_eq_left']
      constructor
      · rintro ⟨x, hx, h⟩
        cases x with
        | none => exact absurd h (by simp)
        | some t =>
            cases h
            exact hx
      · intro h
        exact ⟨some s, h, rfl⟩

theorem textAt_isOk_iff (strings : Option Strings) :
    (∃ s, textAt strings 1 = .ok s) ↔ HasKind strings := by
  simp only [textAt_eq_ok_iff, HasKind]
  exact exists_comm

/-- A change is told without a fault when the length is below two, or the kind can be read. -/
theorem tellChange_isOk_iff (indicationType : ℤ) (strings : Option Strings) (responseLen : ℕ) :
    (∃ effects, tellChange indicationType strings responseLen = .ok effects) ↔
      responseLen < 2 ∨ HasKind strings := by
  unfold tellChange
  by_cases hlen : responseLen ≥ 2
  · rw [if_pos hlen, ← textAt_isOk_iff]
    have hlt : ¬ responseLen < 2 := Nat.not_lt.2 hlen
    constructor
    · rintro ⟨effects, h⟩
      obtain ⟨kind, hkind, -⟩ := bind_eq_ok_iff.1 h
      exact Or.inr ⟨kind, hkind⟩
    · intro h
      obtain ⟨kind, hkind⟩ := h.resolve_left hlt
      rw [hkind]
      simp only [bind, Except.bind]
      split <;> exact ⟨_, rfl⟩
  · exact iff_of_true ⟨_, if_neg hlen⟩ (Or.inl (Nat.not_le.1 hlen))

/-- What `callInfoInd` reads is inside exactly when its last comparison is. -/
theorem callInfoInd_isOk_iff (callindMode : Text) (indicationType : ℤ) (p : Payload)
    (form : LengthForm) :
    (∃ effects, callInfoInd callindMode true indicationType p.strings (p.responseLen form) =
      .ok effects) ↔ p.responseLen form < 2 ∨ HasKind p.strings := by
  rw [← tellChange_isOk_iff indicationType]
  unfold callInfoInd
  rw [if_pos rfl]
  constructor
  · rintro ⟨effects, h⟩
    obtain ⟨acknowledgement, -, h⟩ := bind_eq_ok_iff.1 h
    obtain ⟨change, hchange, -⟩ := bind_eq_ok_iff.1 h
    exact ⟨change, hchange⟩
  · rintro ⟨change, hchange⟩
    have hacknowledged : ∃ effects, acknowledge callindMode p.strings
        (fieldCount (p.responseLen form)) = .ok effects := by
      cases hstrings : p.strings with
      | some xs =>
          apply acknowledge_isOk
          rw [p.length_eq xs hstrings]
          exact fieldCount_le p form
      | none =>
          -- without strings, the length is below two
          have hshort : p.responseLen form < 2 := by
            have := (tellChange_isOk_iff indicationType p.strings _).1 ⟨change, hchange⟩
            rcases this with hlt | ⟨xs, kind, hsome, -⟩
            · exact hlt
            · rw [hstrings] at hsome
              exact absurd hsome (by simp)
          have hcount : fieldCount (p.responseLen form) < 2 := by
            rw [fieldCount, sizeofPointer]
            split <;> omega
          exact ⟨_, if_pos hcount⟩
    obtain ⟨acknowledgement, hacknowledged⟩ := hacknowledged
    rw [hacknowledged, hchange]
    exact ⟨_, rfl⟩

/-! ## Incoming calls -/

/-- A message of an incoming call with ten to 32 fields: its call id, and its last field. -/
structure Payload.IncomingCall (p : Payload) (callId : Text) (last : Option Text) : Prop where
  fields : 10 ≤ p.k ∧ p.k ≤ 32
  callId_at : ∃ xs, p.strings = some xs ∧ xs[0]? = some (some callId) ∧
    xs[1]? = some (some incomingCall) ∧ xs[p.k - 1]? = some last

/-- The acknowledgement of an incoming call. -/
def acknowledgement (callindMode callId : Text) (last : Option Text) : Effect :=
  setCallIndication callindMode callId (sequenceNumber last)

section IncomingCalls

variable {p : Payload} {callId : Text} {last : Option Text} (callindMode : Text)
  (h : p.IncomingCall callId last)

include h

/-- `mtkEcpiInd` acknowledges a call when it counts the fields right. -/
theorem mtkEcpiInd_right {responseLen : ℕ} (hcount : fieldCount responseLen = p.k) :
    mtkEcpiInd callindMode p.strings responseLen =
      .ok [acknowledgement callindMode callId last] := by
  obtain ⟨⟨hmin, hmax⟩, xs, hstrings, h0, h1, hlast⟩ := h
  have hrange : ¬ (p.k < 10 ∨ p.k > 32) := by omega
  rw [hstrings]
  simp only [mtkEcpiInd, hcount, if_neg hrange, stringAt, readAt_eq_ok_iff.2 h0,
    readAt_eq_ok_iff.2 h1, readAt_eq_ok_iff.2 hlast, bind, Except.bind, ne_eq, not_true_eq_false,
    if_false]
  rfl

/-- `mtkEcpiInd` passes over a call when it counts too few fields. -/
theorem mtkEcpiInd_few {responseLen : ℕ} (hcount : fieldCount responseLen < 10) :
    mtkEcpiInd callindMode p.strings responseLen = .ok [] := by
  obtain ⟨-, xs, hstrings, -⟩ := h
  rw [hstrings]
  exact if_pos (Or.inl hcount)

/-- `callInfoInd` acknowledges a call when it counts the fields right. -/
theorem callInfoInd_right (indicationType : ℤ) {responseLen : ℕ}
    (hcount : fieldCount responseLen = p.k) (hlen : responseLen ≥ 2) :
    callInfoInd callindMode true indicationType p.strings responseLen =
      .ok [acknowledgement callindMode callId last] := by
  obtain ⟨⟨hmin, hmax⟩, xs, hstrings, h0, h1, hlast⟩ := h
  have htwo : ¬ p.k < 2 := by omega
  have hrange : p.k ≥ 10 ∧ p.k ≤ 32 := ⟨hmin, hmax⟩
  have hother : incomingCall ≠ "129".toList := by decide
  have hkind : textAt (some xs) 1 = .ok incomingCall :=
    textAt_eq_ok_iff.2 ⟨xs, rfl, h1⟩
  have hack : acknowledge callindMode (some xs) p.k =
      .ok [acknowledgement callindMode callId last] := by
    simp only [acknowledge, if_neg htwo, if_pos hrange, stringAt, readAt_eq_ok_iff.2 h0,
      readAt_eq_ok_iff.2 h1, readAt_eq_ok_iff.2 hlast, bind, Except.bind, ne_eq,
      not_true_eq_false, if_false]
    rfl
  have hchange : tellChange indicationType (some xs) responseLen = .ok [] := by
    simp only [tellChange, if_pos hlen, hkind, bind, Except.bind, if_neg hother]
    rfl
  rw [hstrings, callInfoInd, if_pos rfl, hcount, hack, hchange]
  rfl

end IncomingCalls

/-! ## Main result -/

/-- Both handlers read inside of the payload, and acknowledge an incoming call. -/
def Handled (callindMode : Text) (connected : Bool) (indicationType : ℤ) (p : Payload)
    (form : LengthForm) : Prop :=
  ∃ ecpi info, mtkEcpiInd callindMode p.strings (p.responseLen form) = .ok ecpi ∧
    callInfoInd callindMode connected indicationType p.strings (p.responseLen form) = .ok info ∧
    ∀ callId last, p.IncomingCall callId last →
      ecpi = [acknowledgement callindMode callId last] ∧
      (connected → info = [acknowledgement callindMode callId last])

/-- A client gets no payload of a length of two or more without a kind; and the number of fields
of an incoming call cannot be taken for a length in bytes. -/
structure Unmistakable (connected : Bool) (p : Payload) (form : LengthForm) : Prop where
  kind : connected → p.responseLen form < 2 ∨ HasKind p.strings
  count : ∀ callId last, p.IncomingCall callId last → form = .bytes ∨ ¬ sizeofPointer ∣ p.k

/-- The fields are counted right exactly when their number is not taken for one of bytes. -/
theorem fieldCount_responseLen (p : Payload) (form : LengthForm) (hk : 0 < p.k) :
    fieldCount (p.responseLen form) = p.k ↔ form = .bytes ∨ ¬ sizeofPointer ∣ p.k := by
  cases form with
  | bytes => simp [Payload.responseLen, fieldCount_bytes]
  | elements =>
      show fieldCount p.k = p.k ↔ _
      rw [fieldCount_elements, sizeofPointer]
      split <;> simp <;> omega

/-- A wrong count of the fields is a quarter of their number. -/
theorem fieldCount_lt_ten (p : Payload) (form : LengthForm) (hk : p.k ≤ 32)
    (hwrong : fieldCount (p.responseLen form) ≠ p.k) : fieldCount (p.responseLen form) < 10 := by
  cases form with
  | bytes => exact absurd (fieldCount_bytes p.k) hwrong
  | elements =>
      have hquarter := fieldCount_elements p.k
      change fieldCount p.k ≠ p.k at hwrong
      show fieldCount p.k < 10
      rw [sizeofPointer] at hquarter
      split at hquarter <;> omega

theorem two_le_responseLen (p : Payload) (form : LengthForm) (hk : 2 ≤ p.k) :
    p.responseLen form ≥ 2 := by
  cases form with
  | elements => exact hk
  | bytes =>
      show p.k * sizeofPointer ≥ 2
      rw [sizeofPointer]
      omega

/-- **Call information.**  For every payload and both ways to give its length, the handlers read
inside of it and acknowledge an incoming call exactly when the payload cannot be mistaken. -/
theorem callInfo_handled_iff (callindMode : Text) (connected : Bool) (indicationType : ℤ)
    (p : Payload) (form : LengthForm) :
    Handled callindMode connected indicationType p form ↔ Unmistakable connected p form := by
  constructor
  · rintro ⟨ecpi, info, hecpi, hinfo, hcalls⟩
    constructor
    · rintro rfl
      exact (callInfoInd_isOk_iff callindMode indicationType p form).1 ⟨info, hinfo⟩
    · intro callId last hcall
      have hfields := hcall.fields
      rw [← fieldCount_responseLen p form (by omega)]
      by_contra hwrong
      -- the wrong count is too small for `mtkEcpiInd`
      have hfew := fieldCount_lt_ten p form hfields.2 hwrong
      have hnone := mtkEcpiInd_few callindMode hcall hfew
      have hacknowledged := (hcalls callId last hcall).1
      rw [hecpi, Except.ok.injEq, hacknowledged] at hnone
      exact absurd hnone (by simp)
  · rintro ⟨hkind, hcount⟩
    obtain ⟨ecpi, hecpi⟩ := mtkEcpiInd_isOk callindMode p form
    have hinfo : ∃ info, callInfoInd callindMode connected indicationType p.strings
        (p.responseLen form) = .ok info := by
      cases connected with
      | false => exact ⟨[], rfl⟩
      | true => exact (callInfoInd_isOk_iff callindMode indicationType p form).2 (hkind rfl)
    obtain ⟨info, hinfo⟩ := hinfo
    refine ⟨ecpi, info, hecpi, hinfo, fun callId last hcall => ?_⟩
    have hfields := hcall.fields
    have hright := (fieldCount_responseLen p form (by omega)).2 (hcount callId last hcall)
    have hlen := two_le_responseLen p form (by omega)
    constructor
    · rw [mtkEcpiInd_right callindMode hcall hright, Except.ok.injEq] at hecpi
      exact hecpi.symm
    · rintro rfl
      rw [callInfoInd_right callindMode hcall indicationType hright hlen, Except.ok.injEq] at hinfo
      exact hinfo.symm

/-- A call with twelve fields, whose number is given as the length. -/
def twelveFields : Payload where
  strings := some (some "1".toList :: some incomingCall :: List.replicate 9 (some []) ++
    [some "77".toList])
  k := 12
  length_eq := by
    rintro xs ⟨⟩
    rfl

/-- A call of twelve fields is not acknowledged. -/
theorem twelveFields_not_handled :
    ¬ ∀ (callindMode : Text) (connected : Bool) (indicationType : ℤ) (p : Payload)
      (form : LengthForm), Handled callindMode connected indicationType p form := by
  intro hall
  obtain ⟨ecpi, info, hecpi, -, hcalls⟩ := hall [] true 1 twelveFields .elements
  have hcall : twelveFields.IncomingCall "1".toList (some "77".toList) := by
    refine ⟨by decide, _, rfl, rfl, rfl, rfl⟩
  have hnone : mtkEcpiInd [] twelveFields.strings (twelveFields.responseLen .elements) = .ok [] :=
    by decide
  rw [hecpi, Except.ok.injEq, (hcalls _ _ hcall).1] at hnone
  exact absurd hnone (by simp)

end Radio.CallInfo
