/-
# What the dispatchers have built (`ril_service.cpp`)

One lemma for each way of building a payload: when `my_enqueue` is called, all strings have been
copied, and the memory, the arguments and the pointers to free are these.

* `sendStrings_built`, `sendRecord_built`, `sendProfiles_built` : the families;
* `dispatchString_built`, `iccIOForApp_built`, … : the others.
-/
import Ct07.Radio.Payload

open Ril (RilRequest BufFmts)

namespace Radio.Payload

variable {env : Env} {r : RilRequest} {srcs : List Field} {c : Call}

theorem copyFields_success {malloc : ℕ → Bool} {m m' : Mem} {ps : List Ptr} {success : Bool}
    (h : copyFields malloc m srcs = (ps, success, m')) :
    Copied m m' ps ∧ ps.length = srcs.length := by
  have hcopied := copyFields_copied malloc m srcs
  have hlength := copyFields_length malloc m srcs
  rw [h] at hcopied hlength
  exact ⟨hcopied, hlength⟩

/-- The strings are all copied, or a copy has failed. -/
theorem copyFields_cases (malloc : ℕ → Bool) (m : Mem) (srcs : List Field) :
    (∃ ps m', copyFields malloc m srcs = (ps, true, m') ∧ Copied m m' ps ∧
      ps.length = srcs.length) ∨
    ∃ ps m', copyFields malloc m srcs = (ps, false, m') ∧ Copied m m' ps := by
  rcases hcopy : copyFields malloc m srcs with ⟨ps, success, m'⟩
  obtain ⟨hcopied, hlength⟩ := copyFields_success hcopy
  cases success with
  | true => exact .inl ⟨ps, m', rfl, hcopied, hlength⟩
  | false => exact .inr ⟨ps, m', rfl, hcopied⟩

/-- What is known of all that is prepared is known of the call. -/
theorem call_of_eq {p : Prepared} {m : Mem} {c' : Call} {after : List Ptr}
    (heq : p = ⟨m, some c', after⟩) (h : p.call = some c) : c' = c := by
  rw [heq] at h
  exact Option.some.inj h

theorem dispatchString_built {str : Text} (h : (dispatchString env r str).call = some c) :
    ∃ p m, copyHidlStringToRil env.malloc Mem.init (cStr str) false = (some p, m) ∧
      dispatchString env r str =
        ⟨m, some ⟨r.code, p, sizeofPointer, if ignoreBF env r then .ignore else .str⟩,
          if ignoreBF env r then [p] else []⟩ := by
  unfold dispatchString at h ⊢
  cases hcopy : copyHidlStringToRil env.malloc Mem.init (cStr str) false with
  | mk copy m =>
      cases copy with
      | none =>
          rw [hcopy] at h
          cases h
      | some p =>
          refine ⟨p, m, rfl, ?_⟩
          simp only
          split <;> rfl

theorem sendStrings_built (h : (sendStrings env r srcs).call = some c) :
    ∃ ps m, ps.length = srcs.length ∧
      Copied (Mem.init.alloc (List.replicate srcs.length (.ptr none))) m ps ∧
      sendStrings env r srcs =
        ⟨m.write Mem.init.here (ps.map Cell.ptr),
          some ⟨r.code, some Mem.init.here, sizeof (ps.map Cell.ptr),
            if ignoreBF env r then .ignore else .strs⟩,
          if ignoreBF env r then ps ++ [some Mem.init.here] else []⟩ := by
  unfold sendStrings at h ⊢
  simp only at h ⊢
  split at h
  · rename_i hmalloc
    rcases copyFields_cases env.malloc
      (Mem.init.alloc (List.replicate srcs.length (.ptr none))) srcs with
      ⟨ps, m, hcopy, hcopied, hlength⟩ | ⟨ps, m, hcopy, -⟩
    · refine ⟨ps, m, hlength, hcopied, ?_⟩
      rw [if_pos hmalloc, hcopy]
      simp only
      split <;> rfl
    · rw [hcopy] at h
      cases h
  · cases h

theorem sendRecord_built {record : List Ptr → List Cell} {bf : BufFmts}
    (h : (sendRecord env r srcs record bf).call = some c) :
    ∃ ps m, ps.length = srcs.length ∧ Copied Mem.init m ps ∧
      sendRecord env r srcs record bf =
        ⟨m.push (record ps), some ⟨r.code, some m.here, sizeof (record ps), bf⟩,
          if bf = .ignore then ps else []⟩ := by
  unfold sendRecord at h ⊢
  rcases copyFields_cases env.malloc Mem.init srcs with
    ⟨ps, m, hcopy, hcopied, hlength⟩ | ⟨ps, m, hcopy, -⟩
  · rw [hcopy]
    exact ⟨ps, m, hlength, hcopied, rfl⟩
  · rw [hcopy] at h
    cases h

theorem sendRecord_call {record : List Ptr → List Cell} {bf : BufFmts}
    (h : (sendRecord env r srcs record bf).call = some c) : c.request = r.code ∧ c.bf = bf := by
  obtain ⟨ps, m, -, -, heq⟩ := sendRecord_built h
  obtain rfl := call_of_eq heq h
  exact ⟨rfl, rfl⟩

/-- Only strings are allocated for a call, and they are freed after it. -/
theorem dial_built {dialInfo : Dial} (h : (dial env dialInfo).call = some c) :
    c.request = RilRequest.dial.code ∧ c.bf = .ignore ∧
      ∃ m, Copied Mem.init m (dial env dialInfo).after ∧
        (dial env dialInfo).mem.ledger = m.ledger := by
  unfold dial at h ⊢
  simp only at h ⊢
  rcases copyFields_cases env.malloc Mem.init [(dialInfo.address, false),
      ((dialInfo.uusInfo.headD ⟨0, 0, []⟩).uusData, false)] with
    ⟨ps, m, hcopy, hcopied, -⟩ | ⟨ps, m, hcopy, -⟩
  · rw [hcopy] at h ⊢
    cases h
    exact ⟨rfl, rfl, m, hcopied, rfl⟩
  · rw [hcopy] at h
    cases h

theorem iccIOForApp_built {iccIo : IccIo} (h : (iccIOForApp env iccIo).call = some c) :
    ∃ path m ps m',
      copyHidlStringToRil env.malloc Mem.init iccIo.path false = (some path, m) ∧
      Copied m m' ps ∧ ps.length = 3 ∧
      let cells := rilSimIo env iccIo (if isBareMf iccIo.path then none else path) ps
      iccIOForApp env iccIo =
        ⟨m'.push cells,
          some ⟨RilRequest.simIo.code, some m'.here, sizeof cells, .simio⟩, []⟩ := by
  unfold iccIOForApp at h ⊢
  cases hpath : copyHidlStringToRil env.malloc Mem.init iccIo.path false with
  | mk copy m =>
      cases copy with
      | none =>
          rw [hpath] at h
          cases h
      | some path =>
          rw [hpath] at h
          simp only at h ⊢
          rcases copyFields_cases env.malloc m
              [(iccIo.data, false), (iccIo.pin2, false), (iccIo.aid, false)] with
            ⟨ps, m', hcopy, hcopied, hlength⟩ | ⟨ps, m', hcopy, -⟩
          · rw [hcopy]
            exact ⟨path, m, ps, m', rfl, hcopied, hlength, rfl⟩
          · rw [hcopy] at h
            cases h

/-- Empty strings that are allocated, for the pointers that were null. -/
theorem fillEmpty_copied (m : Mem) (ps : List Ptr) :
    ∃ ns, Copied m (fillEmpty m ps).2 ns ∧
      (fillEmpty m ps).1.reduceOption.Perm (ps.reduceOption ++ ns.reduceOption) ∧
      (fillEmpty m ps).1.length = ps.length := by
  induction ps generalizing m with
  | nil => exact ⟨[], Copied.nothing m [] rfl, List.Perm.refl _, rfl⟩
  | cons p ps ih =>
      cases p with
      | some a =>
          obtain ⟨ns, hcopied, hperm, hlength⟩ := ih m
          exact ⟨ns, hcopied, hperm.cons a, congrArg Nat.succ hlength⟩
      | none =>
          -- a new block comes in the place of a null pointer, between those that are there
          obtain ⟨ns, hcopied, hperm, hlength⟩ := ih (m.alloc [.char nul])
          refine ⟨some m.here :: ns, (alloc_copied m [nul]).cons hcopied, ?_,
            congrArg Nat.succ hlength⟩
          exact (hperm.cons m.here).trans List.perm_middle.symm

/-- Up to version 14 the attach APN is sent with four strings of the profile, none of them null,
and the operator. -/
theorem setInitialAttachApn_built {p : DataProfileInfo} {modemCognitive isRoaming : Bool}
    (hversion : env.version ≤ 14)
    (h : (setInitialAttachApn env p modemCognitive isRoaming).call = some c) :
    ∃ ps, ∃ m : Mem, ps.length = 4 ∧
      let m' := m.alloc (charCells (strncpy 8 env.operatorNumeric))
      let cells := rilInitialAttachApn p.authType ps (some m.here)
      Copied Mem.init m' (ps ++ [some m.here]) ∧
      setInitialAttachApn env p modemCognitive isRoaming =
        ⟨m'.push cells,
          some ⟨RilRequest.setInitialAttachApn.code, some m'.here, sizeof cells - sizeofPointer,
            .attchApn⟩, []⟩ := by
  unfold setInitialAttachApn at h ⊢
  rw [if_pos hversion] at h ⊢
  simp only at h ⊢
  rcases copyFields_cases env.malloc Mem.init [(p.apn, true),
      (if isRoaming then p.roamingProtocol else p.protocol, false), (p.user, false),
      (p.password, false)] with
    ⟨ps, m, hcopy, hcopied, hlength⟩ | ⟨ps, m, hcopy, -⟩
  · -- the strings, the empty ones that stand for null pointers, and the operator
    obtain ⟨ns, hfilled, hperm, hlength'⟩ := fillEmpty_copied m ps
    have hstrings := hcopied.trans hfilled hperm
    rw [hcopy]
    refine ⟨(fillEmpty m ps).1, (fillEmpty m ps).2, hlength'.trans hlength, ?_, rfl⟩
    apply hstrings.trans (alloc_copied _ _)
    rw [List.reduceOption_append]
  · rw [hcopy] at h
    cases h

theorem dispatchImsGsmSms_built {message : ImsSmsMessage}
    (h : (dispatchImsGsmSms env message).call = some c) :
    ∃ ps m, ps.length = 2 ∧ Copied (Mem.init.alloc (List.replicate 2 (.ptr none))) m ps ∧
      dispatchImsGsmSms env message =
        ⟨(m.write Mem.init.here (ps.map Cell.ptr)).push
            (rilImsSmsMessage radioTech3gpp message (some Mem.init.here)),
          some ⟨RilRequest.imsSendSms.code, some m.here,
            sizeofImsHeader + sizeof (ps.map Cell.ptr), .imsSms⟩, []⟩ := by
  unfold dispatchImsGsmSms at h ⊢
  split at h
  · rename_i gsmMessage hgsm
    simp only at h ⊢
    split at h
    · rename_i hmalloc
      rcases copyFields_cases env.malloc (Mem.init.alloc (List.replicate 2 (.ptr none)))
          [(gsmMessage.smscPdu, false), (gsmMessage.pdu, false)] with
        ⟨ps, m, hcopy, hcopied, hlength⟩ | ⟨ps, m, hcopy, -⟩
      · refine ⟨ps, m, hlength, hcopied, ?_⟩
        rw [if_pos hmalloc, hcopy]
        rfl
      · rw [hcopy] at h
        cases h
    · cases h
  · cases h

theorem dispatchImsCdmaSms_built {message : ImsSmsMessage}
    (h : (dispatchImsCdmaSms message).call = some c) :
    ∃ cdmaMessage, dispatchImsCdmaSms message =
      ⟨(Mem.init.push (constructCdmaSms cdmaMessage)).push
          (rilImsSmsMessage radioTech3gpp2 message (some Mem.init.here)),
        some ⟨RilRequest.imsSendSms.code, some ⟨1, 0⟩,
          sizeofImsHeader + sizeof (constructCdmaSms cdmaMessage), .raw⟩, []⟩ := by
  unfold dispatchImsCdmaSms at h ⊢
  split at h
  · rename_i cdmaMessage hcdma
    exact ⟨cdmaMessage, rfl⟩
  · cases h

/-- The pointers of the profiles, row by row; they need not all be reached. -/
theorem copyProfiles_copied (malloc : ℕ → Bool) (fields : DataProfileInfo → List Field)
    (m : Mem) (profiles : List DataProfileInfo) :
    Copied m (copyProfiles malloc fields m profiles).2.2
        (copyProfiles malloc fields m profiles).1.flatten ∧
      (copyProfiles malloc fields m profiles).1.map List.length =
        profiles.map fun p => (fields p).length := by
  induction profiles generalizing m with
  | nil => exact ⟨Copied.nothing m [] rfl, rfl⟩
  | cons p profiles ih =>
      unfold copyProfiles
      split
      · rename_i row m' hcopy
        obtain ⟨hcopied, hlength⟩ := copyFields_success hcopy
        obtain ⟨hrest, hlengths⟩ := ih m'
        refine ⟨hcopied.trans hrest ?_, congrArg₂ List.cons hlength hlengths⟩
        rw [← List.reduceOption_append]
        exact List.Perm.refl _
      · rename_i row m' hcopy
        obtain ⟨hcopied, hlength⟩ := copyFields_success hcopy
        refine ⟨hcopied.trans (Copied.nothing m' [] rfl) ?_, ?_⟩
        · -- the rows after the one that fails are null
          have hnull : (profiles.map fun p =>
              List.replicate (fields p).length (none : Ptr)).flatten.reduceOption = [] := by
            rw [List.eq_nil_iff_forall_not_mem]
            intro a ha
            rw [List.reduceOption_mem_iff, List.mem_flatten] at ha
            obtain ⟨nulls, hnulls, ha⟩ := ha
            obtain ⟨q, -, rfl⟩ := List.mem_map.1 hnulls
            cases List.eq_of_mem_replicate ha
          show (row ++ _).reduceOption.Perm _
          rw [List.reduceOption_append, hnull]
          exact List.Perm.refl _
        · simp [hlength]

theorem sendProfiles_built {profiles : List DataProfileInfo} {width numfields : ℕ}
    {fields : DataProfileInfo → List Field} {record : DataProfileInfo → List Ptr → List Cell}
    {bf : BufFmts}
    (h : (sendProfiles env profiles width numfields fields record bf).call = some c) :
    ∃ rows, ∃ m : Mem,
      Copied ((Mem.init.alloc (List.replicate (width * profiles.length) (.int 0))).alloc
        (List.replicate profiles.length (.ptr none))) m rows.flatten ∧
      rows.map List.length = profiles.map (fun p => (fields p).length) ∧
      let ptrs := pointersInto ⟨0, 0⟩ width profiles.length
      sendProfiles env profiles width numfields fields record bf =
        ⟨(m.write ⟨0, 0⟩ (List.zipWith record profiles rows).flatten).write ⟨1, 0⟩ ptrs,
          some ⟨RilRequest.setDataProfile.code, some ⟨1, 0⟩, sizeof ptrs, bf⟩,
          if bf = .ignore then freeSetDataProfileData numfields rows ⟨0, 0⟩ ⟨1, 0⟩ else []⟩ := by
  unfold sendProfiles at h ⊢
  simp only at h ⊢
  split at h
  · rename_i hfirst
    split at h
    · rename_i hsecond
      rw [if_pos hfirst, if_pos hsecond]
      have hcopied := copyProfiles_copied env.malloc fields
        ((Mem.init.alloc (List.replicate (width * profiles.length) (.int 0))).alloc
          (List.replicate profiles.length (.ptr none))) profiles
      cases hcopy : copyProfiles env.malloc fields
          ((Mem.init.alloc (List.replicate (width * profiles.length) (.int 0))).alloc
            (List.replicate profiles.length (.ptr none))) profiles with
      | mk rows rest =>
          obtain ⟨success, m⟩ := rest
          rw [hcopy] at hcopied
          cases success with
          | false =>
              rw [hcopy] at h
              cases h
          | true => exact ⟨rows, m, hcopied.1, hcopied.2, rfl⟩
    · cases h
  · cases h

/-- The array of the profiles and that of the pointers, when both are filled. -/
theorem profiles_written {m : Mem} {xs ys : List Cell} {ps : List Ptr}
    (h : Copied ((Mem.init.alloc xs).alloc ys) m ps) (cells ptrs : List Cell) :
    ((m.write ⟨0, 0⟩ cells).write ⟨1, 0⟩ ptrs).objects 0 = some cells ∧
      ((m.write ⟨0, 0⟩ cells).write ⟨1, 0⟩ ptrs).objects 1 = some ptrs := by
  constructor
  · rw [write_objects_of_ne (a := ⟨1, 0⟩) _ Nat.zero_ne_one]
    exact h.write_self (a := ⟨0, 0⟩) rfl Nat.zero_lt_two cells
  · have hkept : (m.write ⟨0, 0⟩ cells).objects 1 = some ys := by
      rw [write_objects_of_ne (a := ⟨0, 0⟩) m Nat.one_ne_zero]
      exact h.kept 1 Nat.one_lt_two
    exact write_objects_self (a := ⟨1, 0⟩) _ hkept ptrs

@[simp] theorem pushStrings_ledger (m : Mem) (ss : List Text) :
    (pushStrings m ss).2.ledger = m.ledger := by
  induction ss generalizing m with
  | nil => rfl
  | cons s ss ih => exact ih (m.push (charCells (s ++ [nul])))

@[simp] theorem rilCarriers_ledger (m : Mem) (carriers : List Carrier) :
    (rilCarriers m carriers).2.ledger = m.ledger := by
  induction carriers generalizing m with
  | nil => rfl
  | cons c cs ih =>
      show (rilCarriers (pushStrings m [c.mcc, c.mnc, c.matchData]).2 cs).2.ledger = m.ledger
      rw [ih, pushStrings_ledger]

/-- What is left when the carriers are sent: the two arrays, which are freed after the call. -/
theorem setAllowedCarriers_built {carriers : CarrierRestrictions}
    (h : (setAllowedCarriers env carriers).call = some c) :
    c.request = RilRequest.setCarrierRestrictions.code ∧ c.bf = .ignore ∧
      (setAllowedCarriers env carriers).mem.ledger = [.alloc ⟨1, 0⟩, .alloc ⟨0, 0⟩] ∧
      (setAllowedCarriers env carriers).after = [some ⟨0, 0⟩, some ⟨1, 0⟩] := by
  unfold setAllowedCarriers at h ⊢
  simp only at h ⊢
  split at h
  · rename_i hfirst
    split at h
    · rename_i hsecond
      rw [if_pos hfirst, if_pos hsecond]
      cases h
      refine ⟨rfl, rfl, ?_, rfl⟩
      simp only [push_ledger, write_ledger, rilCarriers_ledger]
      rfl
    · cases h
  · cases h

theorem dispatchInts_call {ints : List ℤ} (h : (dispatchInts env r ints).call = some c) :
    c.request = r.code := by
  unfold dispatchInts at h
  simp only at h
  split at h
  · split at h <;> cases h <;> rfl
  · cases h

theorem sendImsSms_call {message : ImsSmsMessage} (h : (sendImsSms env message).call = some c) :
    c.request = RilRequest.imsSendSms.code := by
  unfold sendImsSms at h
  split at h
  · obtain ⟨ps, m, -, -, heq⟩ := dispatchImsGsmSms_built h
    obtain rfl := call_of_eq heq h
    rfl
  split at h
  · obtain ⟨cdmaMessage, heq⟩ := dispatchImsCdmaSms_built h
    obtain rfl := call_of_eq heq h
    rfl
  · cases h

theorem setInitialAttachApn_call {p : DataProfileInfo} {modemCognitive isRoaming : Bool}
    (h : (setInitialAttachApn env p modemCognitive isRoaming).call = some c) :
    c.request = RilRequest.setInitialAttachApn.code := by
  by_cases hversion : env.version ≤ 14
  · obtain ⟨ps, m, -, -, heq⟩ := setInitialAttachApn_built hversion h
    obtain rfl := call_of_eq heq h
    rfl
  · have hbranch : setInitialAttachApn env p modemCognitive isRoaming = sendRecord env _ _ _ _ :=
      if_neg hversion
    rw [hbranch] at h
    exact (sendRecord_call h).1

theorem setDataProfile_call {profiles : List DataProfileInfo} {isRoaming : Bool}
    (h : (setDataProfile env profiles isRoaming).call = some c) :
    c.request = RilRequest.setDataProfile.code := by
  unfold setDataProfile at h
  split at h <;>
  · obtain ⟨rows, m, -, -, heq⟩ := sendProfiles_built h
    obtain rfl := call_of_eq heq h
    rfl

theorem sendStrings_call (h : (sendStrings env r srcs).call = some c) : c.request = r.code := by
  obtain ⟨ps, m, -, -, heq⟩ := sendStrings_built h
  obtain rfl := call_of_eq heq h
  rfl

/-- A dispatcher hands on the request it is for. -/
theorem dispatch_request {d : Dispatcher} (h : (dispatch env d).call = some c) :
    c.request = d.request.code := by
  cases d with
  | dispatchVoid r =>
      cases h
      rfl
  | dispatchString r str =>
      obtain ⟨p, m, -, heq⟩ := dispatchString_built h
      obtain rfl := call_of_eq heq h
      rfl
  | dispatchStrings r allowEmpty strs => exact sendStrings_call h
  | dispatchStringVec r data => exact sendStrings_call h
  | dispatchInts r ints => exact dispatchInts_call h
  | dispatchRaw r rawBytes =>
      cases h
      rfl
  | dispatchCallForwardStatus r callInfo => exact (sendRecord_call h).1
  | dispatchIccApdu r message => exact (sendRecord_call h).1
  | dial dialInfo => exact (dial_built h).1
  | iccIOForApp iccIo =>
      obtain ⟨path, m, ps, m', -, -, -, heq⟩ := iccIOForApp_built h
      obtain rfl := call_of_eq heq h
      rfl
  | writeSmsToSim smsWriteArgs => exact (sendRecord_call h).1
  | requestIccSimAuthentication a => exact (sendRecord_call h).1
  | nvReadItem itemId => exact (sendRecord_call h).1
  | nvWriteItem item => exact (sendRecord_call h).1
  | setUiccSubscription uiccSub => exact (sendRecord_call h).1
  | sendCdmaSms sms => exact (sendRecord_call h).1
  | writeSmsToRuim cdmaSms => exact (sendRecord_call h).1
  | acknowledgeLastIncomingCdmaSms smsAck => exact (sendRecord_call h).1
  | setGsmBroadcastConfig configInfo =>
      cases h
      rfl
  | setCdmaBroadcastConfig configInfo =>
      cases h
      rfl
  | setInitialAttachApn p modemCognitive isRoaming => exact setInitialAttachApn_call h
  | sendInitialAttachApnAgain =>
      cases h
      rfl
  | sendImsSms message => exact sendImsSms_call h
  | setDataProfile profiles isRoaming => exact setDataProfile_call h
  | setAllowedCarriers carriers => exact (setAllowedCarriers_built h).1

end Radio.Payload
