/-
# Current calls (`getCurrentCallsResponse`, `ril_service.cpp`)

The vendor's calls are converted one by one into a vector that has the size of their number.  A
call with user-to-user data goes with a vector of its own, for one element.

Every access to a vector is checked.

* `fillCalls_eq`, `fillCalls_error` : what the loop makes of the vendor's calls;
* `currentCalls_decoded_iff` : when the client gets the calls of the vendor.
-/
import Ct07.Lib.CheckedMemory
import Ct07.Radio.Reply

open CheckedMemory

namespace Radio.CurrentCalls

/-! ## Records and results -/

/-- `RIL_UUS_Info` -/
structure RilUusInfo where
  uusType : ℤ
  uusDcs : ℤ
  uusLength : ℤ
  uusData : Option Text
  deriving DecidableEq

/-- `RIL_Call` -/
structure RilCall where
  state : ℤ
  index : ℤ
  toa : ℤ
  isMpty : UInt8
  isMT : UInt8
  als : UInt8
  isVoice : UInt8
  isVoicePrivacy : UInt8
  number : Option Text
  numberPresentation : ℤ
  name : Option Text
  namePresentation : ℤ
  uusInfo : Option RilUusInfo
  deriving DecidableEq

/-- `UusInfo` -/
structure UusInfo where
  uusType : ℤ
  uusDcs : ℤ
  uusData : Text
  deriving DecidableEq

/-- `Call` -/
structure Call where
  state : ℤ
  index : ℤ
  toa : ℤ
  isMpty : Bool
  isMT : Bool
  als : UInt8
  isVoice : Bool
  isVoicePrivacy : Bool
  number : Text
  numberPresentation : ℤ
  name : Text
  namePresentation : ℤ
  uusInfo : List UusInfo
  deriving DecidableEq

/-- An element of a vector that has been resized. -/
def Call.zero : Call := ⟨0, 0, 0, false, false, 0, false, false, [], 0, [], 0, []⟩

/-! ## Operations -/

/-- The characters that `convertCharPtrToHidlString` refers to. -/
def charPtrText (ptr : Option Text) : Text := ptr.getD []

/-- `strndup`; a negative length becomes a large one. -/
def strndup (s : Text) (n : ℤ) : Text := if n < 0 then s else s.take n.toNat

/-- The user-to-user data of a call, when both pointers to it are there. -/
def RilCall.userData (p : RilCall) : Option (RilUusInfo × Text) := do
  let uusInfo ← p.uusInfo
  let uusData ← uusInfo.uusData
  return (uusInfo, uusData)

/-- The loop body: `calls[i]` for the vendor's call `i`. -/
def fillCall (call : Call) (p : RilCall) : Except Fault Call := do
  let call := { call with
    state := p.state
    index := p.index
    toa := p.toa
    isMpty := p.isMpty ≠ 0
    isMT := p.isMT ≠ 0
    als := p.als
    isVoice := p.isVoice ≠ 0
    isVoicePrivacy := p.isVoicePrivacy ≠ 0
    number := charPtrText p.number
    numberPresentation := p.numberPresentation
    name := charPtrText p.name
    namePresentation := p.namePresentation }
  match p.userData with
  | none => return call
  | some (uusInfo, uusData) =>
      let uus ← modifyAt call.uusInfo 0 fun u => { u with uusType := uusInfo.uusType }
      let uus ← modifyAt uus 0 fun u => { u with uusDcs := uusInfo.uusDcs }
      let uus ← modifyAt uus 0 fun u => { u with uusData := strndup uusData uusInfo.uusLength }
      return { call with uusInfo := uus }

/-- The first turns of the loop. -/
def fillCalls (response : List RilCall) (calls : List Call) : ℕ → Except Fault (List Call)
  | 0 => .ok calls
  | i + 1 => do
      let calls ← fillCalls response calls i
      let p ← readAt response i
      let call ← readAt calls i
      let call ← fillCall call p
      writeAt calls i call

/-- `radio::getCurrentCallsResponse` -/
def getCurrentCallsResponse (connected : Bool) (responseType serial e : ℤ)
    (response : Option (List RilCall)) (responseLen : ℕ) :
    Except Fault (Option (RadioResponseInfo × List Call)) :=
  if connected then
    let info := populateResponseInfo serial responseType e
    match response with
    | none => return some (info.invalidResponse e, [])
    | some response =>
        if responseLen % sizeofPointer ≠ 0 then return some (info.invalidResponse e, [])
        else do
          let num := responseLen / sizeofPointer
          let calls ← fillCalls response (List.replicate num .zero) num
          return some (info, calls)
  else return none

/-! ## What the loop makes of the calls -/

/-- The call of the vendor, for the client. -/
def decoded (p : RilCall) : Call where
  state := p.state
  index := p.index
  toa := p.toa
  isMpty := p.isMpty ≠ 0
  isMT := p.isMT ≠ 0
  als := p.als
  isVoice := p.isVoice ≠ 0
  isVoicePrivacy := p.isVoicePrivacy ≠ 0
  number := charPtrText p.number
  numberPresentation := p.numberPresentation
  name := charPtrText p.name
  namePresentation := p.namePresentation
  uusInfo := match p.userData with
    | none => []
    | some (uusInfo, uusData) =>
        [⟨uusInfo.uusType, uusInfo.uusDcs, strndup uusData uusInfo.uusLength⟩]

/-- A call without user-to-user data is decoded. -/
theorem fillCall_eq {p : RilCall} (h : p.userData = none) : fillCall .zero p = .ok (decoded p) := by
  unfold fillCall decoded
  rw [h]
  rfl

/-- The vector for the user-to-user data of a call has no element. -/
theorem fillCall_error {p : RilCall} (h : p.userData ≠ none) :
    fillCall .zero p = .error .write := by
  obtain ⟨⟨uusInfo, uusData⟩, hdata⟩ := Option.ne_none_iff_exists'.1 h
  unfold fillCall
  rw [hdata]
  rfl

section Loop

variable (response : List RilCall)

/-- The calls so far, in a vector for all of them. -/
def filledCalls (n : ℕ) : List Call :=
  (response.take n).map decoded ++ List.replicate (response.length - n) .zero

/-- One turn of the loop, behind the turns before it. -/
theorem fillCalls_succ {n : ℕ} (hn : n < response.length)
    (h : fillCalls response (List.replicate response.length .zero) n =
      .ok (filledCalls response n)) :
    fillCalls response (List.replicate response.length .zero) (n + 1) =
      if response[n].userData = none then .ok (filledCalls response (n + 1))
      else .error .write := by
  have hcalls : filledCalls response n = (response.take n).map decoded ++
      Call.zero :: List.replicate (response.length - (n + 1)) .zero := by
    rw [filledCalls, ← List.replicate_succ]
    congr 2
    omega
  have hlength : n = ((response.take n).map decoded).length := by
    rw [List.length_map, List.length_take]
    omega
  have hp : readAt response n = .ok response[n] :=
    readAt_eq_ok_iff.2 (List.getElem?_eq_getElem hn)
  rw [fillCalls, h, hcalls]
  simp only [bind, Except.bind, hp, readAt_append_cons Call.zero hlength]
  by_cases hdata : response[n].userData = none
  · rw [if_pos hdata, fillCall_eq hdata]
    simp only []
    rw [writeAt_append_cons _ _ hlength, filledCalls, List.take_succ_eq_append_getElem hn,
      List.map_append, List.append_assoc]
    rfl
  · rw [if_neg hdata, fillCall_error hdata]

/-- **The loop.**  It decodes the calls as long as none has user-to-user data, and writes
outside of a vector at the first that has. -/
theorem fillCalls_eq {n : ℕ} (hn : n ≤ response.length) :
    fillCalls response (List.replicate response.length .zero) n =
      if ∀ p ∈ response.take n, p.userData = none then .ok (filledCalls response n)
      else .error .write := by
  induction n with
  | zero =>
      have hnone : ∀ p ∈ response.take 0, p.userData = none := by simp
      rw [if_pos hnone, filledCalls]
      rfl
  | succ n ih =>
      have hlt : n < response.length := hn
      have hstep := ih (Nat.le_of_lt hlt)
      have hall : (∀ p ∈ response.take (n + 1), p.userData = none) ↔
          (∀ p ∈ response.take n, p.userData = none) ∧ response[n].userData = none := by
        rw [List.take_succ_eq_append_getElem hlt, List.forall_mem_append, List.forall_mem_singleton]
      by_cases hbefore : ∀ p ∈ response.take n, p.userData = none
      · rw [if_pos hbefore] at hstep
        rw [fillCalls_succ response hlt hstep]
        by_cases hdata : response[n].userData = none
        · rw [if_pos hdata, if_pos (hall.2 ⟨hbefore, hdata⟩)]
        · rw [if_neg hdata, if_neg fun h => hdata (hall.1 h).2]
      · rw [if_neg hbefore] at hstep
        rw [if_neg fun h => hbefore (hall.1 h).1, fillCalls, hstep]
        rfl

/-- All turns of the loop. -/
theorem fillCalls_all :
    fillCalls response (List.replicate response.length .zero) response.length =
      if ∀ p ∈ response, p.userData = none then .ok (response.map decoded)
      else .error .write := by
  have hloop := fillCalls_eq response (Nat.le_refl _)
  rw [filledCalls, List.take_length, Nat.sub_self, List.replicate_zero, List.append_nil] at hloop
  exact hloop

end Loop

/-! ## Main result -/

/-- The client gets the vendor's calls, and no access is outside of a vector. -/
def Decoded (connected : Bool) (responseType serial e : ℤ) (calls : List RilCall) : Prop :=
  getCurrentCallsResponse connected responseType serial e (some calls)
      (calls.length * sizeofPointer) =
    .ok (if connected then
      some (populateResponseInfo serial responseType e, calls.map decoded) else none)

/-- **Current calls.**  The client gets the calls of the vendor, in their order and with all
their fields, exactly when none of them has user-to-user data. -/
theorem currentCalls_decoded_iff (connected : Bool) (responseType serial e : ℤ)
    (calls : List RilCall) :
    Decoded connected responseType serial e calls ↔
      (connected → ∀ p ∈ calls, p.userData = none) := by
  unfold Decoded getCurrentCallsResponse
  cases connected with
  | false => exact iff_of_true rfl (by simp)
  | true =>
      have haligned : ¬ calls.length * sizeofPointer % sizeofPointer ≠ 0 := by
        rw [Nat.mul_mod_left]
        exact not_not.2 rfl
      have hnum : calls.length * sizeofPointer / sizeofPointer = calls.length :=
        Nat.mul_div_cancel _ (by decide)
      simp only [if_true, if_neg haligned, hnum, fillCalls_all, true_implies]
      by_cases hnone : ∀ p ∈ calls, p.userData = none
      · rw [if_pos hnone]
        exact iff_of_true rfl hnone
      · rw [if_neg hnone]
        exact iff_of_false (fun h => absurd h (by simp [bind, Except.bind])) hnone

/-- An incoming call with user-to-user data. -/
def callWithData : RilCall where
  state := 4
  index := 1
  toa := 145
  isMpty := 0
  isMT := 1
  als := 0
  isVoice := 1
  isVoicePrivacy := 0
  number := some "+4912".toList
  numberPresentation := 0
  name := none
  namePresentation := 2
  uusInfo := some ⟨0, 4, 2, some "hi".toList⟩

/-- A call with user-to-user data is written outside of its vector. -/
theorem callWithData_not_decoded :
    ¬ ∀ (connected : Bool) (responseType serial e : ℤ) (calls : List RilCall),
      Decoded connected responseType serial e calls := by
  intro hall
  have hdecoded := hall true 0 1 0 [callWithData]
  have herror : getCurrentCallsResponse true 0 1 0 (some [callWithData]) 4 = .error .write := by
    decide
  exact absurd (herror.symm.trans hdecoded) (by simp)

end Radio.CurrentCalls
