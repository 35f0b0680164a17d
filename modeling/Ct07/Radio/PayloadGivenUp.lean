/-
# Payloads that are given up (`ril_service.cpp`)

When there is no memory for a block, a dispatcher answers the request with an error and frees
what it has allocated so far; so does one that is not given what it takes.

Main result: `dispatch_gaveUp_iff`.
-/
import Ct07.Radio.PayloadOwnership

open AllocationLedger Ril

namespace Radio.Payload

section GivingUp

variable {env : Env} {r : RilRequest}

theorem gaveUp_settled_iff {m : Mem} {o : List Addr} (h : Owns m.ledger o) :
    Settled (gaveUp m) ↔ o = [] := by
  have hfinish : (gaveUp m).finish = some m := rfl
  unfold Settled
  rw [hfinish]
  simp only [Option.mem_some_iff, exists_eq_left']
  exact h.balanced_iff

/-- What has been copied so far is freed. -/
theorem Copied.freed {m m' : Mem} {ps : List Ptr} (h : Copied m m' ps) {o : List Addr}
    (howns : Owns m.ledger o) : Owns (memsetAndFreeStrings m' ps).ledger o :=
  owns_memsetAndFreeStrings (h.owns o howns)

theorem dispatchString_gaveUp {str : Text} (h : (dispatchString env r str).call = none) :
    Settled (dispatchString env r str) := by
  unfold dispatchString at h ⊢
  have hcopied := copyHidlStringToRil_copied env.malloc Mem.init (cStr str) false
  cases hcopy : copyHidlStringToRil env.malloc Mem.init (cStr str) false with
  | mk copy m =>
      rw [hcopy] at h hcopied
      cases copy with
      | none => exact (gaveUp_settled_iff (hcopied.owns [] owns_nil)).2 rfl
      | some p =>
          simp only at h
          split at h <;> cases h

theorem sendStrings_gaveUp {srcs : List Field} (h : (sendStrings env r srcs).call = none) :
    Settled (sendStrings env r srcs) := by
  unfold sendStrings at h ⊢
  simp only at h ⊢
  split
  · rename_i hmalloc
    rw [if_pos hmalloc] at h
    rcases copyFields_cases env.malloc
      (Mem.init.alloc (List.replicate srcs.length (.ptr none))) srcs with
      ⟨ps, m, hcopy, -⟩ | ⟨ps, m, hcopy, hcopied⟩
    · rw [hcopy] at h
      simp only at h
      split at h <;> cases h
    · rw [hcopy]
      have hfreed := hcopied.freed (owns_nil.alloc Mem.init.here)
      exact (gaveUp_settled_iff (Owns.free hfreed)).2 rfl
  · exact (gaveUp_settled_iff owns_nil).2 rfl

theorem sendRecord_gaveUp {srcs : List Field} {record : List Ptr → List Cell} {bf : BufFmts}
    (h : (sendRecord env r srcs record bf).call = none) :
    Settled (sendRecord env r srcs record bf) := by
  unfold sendRecord at h ⊢
  rcases copyFields_cases env.malloc Mem.init srcs with
    ⟨ps, m, hcopy, -⟩ | ⟨ps, m, hcopy, hcopied⟩
  · rw [hcopy] at h
    cases h
  · rw [hcopy]
    exact (gaveUp_settled_iff (hcopied.freed owns_nil)).2 rfl

theorem dispatchInts_gaveUp {ints : List ℤ} (h : (dispatchInts env r ints).call = none) :
    Settled (dispatchInts env r ints) := by
  unfold dispatchInts at h ⊢
  simp only at h ⊢
  split
  · rename_i hmalloc
    rw [if_pos hmalloc] at h
    split at h <;> cases h
  · exact (gaveUp_settled_iff owns_nil).2 rfl

theorem dial_gaveUp {dialInfo : Dial} (h : (dial env dialInfo).call = none) :
    Settled (dial env dialInfo) := by
  unfold dial at h ⊢
  simp only at h ⊢
  rcases copyFields_cases env.malloc Mem.init [(dialInfo.address, false),
      ((dialInfo.uusInfo.headD ⟨0, 0, []⟩).uusData, false)] with
    ⟨ps, m, hcopy, -⟩ | ⟨ps, m, hcopy, hcopied⟩
  · rw [hcopy] at h
    cases h
  · rw [hcopy]
    exact (gaveUp_settled_iff (hcopied.freed owns_nil)).2 rfl

/-- When the other strings cannot be copied, a path that names the MF alone is lost, too. -/
theorem iccIOForApp_gaveUp_iff {iccIo : IccIo} (h : (iccIOForApp env iccIo).call = none) :
    Settled (iccIOForApp env iccIo) ↔ isBareMf iccIo.path = false ∨ env.malloc 0 = false := by
  unfold iccIOForApp at h ⊢
  have hfirst := copyHidlStringToRil_copied env.malloc Mem.init iccIo.path false
  cases hpath : copyHidlStringToRil env.malloc Mem.init iccIo.path false with
  | mk copy m =>
      rw [hpath] at h hfirst
      cases copy with
      | none =>
          have hmalloc : env.malloc 0 = false := by
            unfold copyHidlStringToRil at hpath
            split at hpath
            · cases hpath
            · split at hpath
              · cases hpath
              · rename_i hmalloc
                exact Bool.eq_false_iff.2 hmalloc
          exact iff_of_true ((gaveUp_settled_iff (hfirst.owns [] owns_nil)).2 rfl) (Or.inr hmalloc)
      | some path =>
          change Copied Mem.init m [path] at hfirst
          simp only at h ⊢
          rcases copyFields_cases env.malloc m
              [(iccIo.data, false), (iccIo.pin2, false), (iccIo.aid, false)] with
            ⟨ps, m', hcopy, -⟩ | ⟨ps, m', hcopy, hcopied⟩
          · rw [hcopy] at h
            cases h
          · rw [hcopy]
            have howns := owns_lostPath hfirst hcopied rfl (isBareMf iccIo.path)
            apply (gaveUp_settled_iff howns).trans
            cases hbare : isBareMf iccIo.path with
            | false => exact iff_of_true rfl (Or.inl rfl)
            | true =>
                -- the copy was made, and the pointer to it overwritten
                obtain ⟨rfl, hmalloc⟩ := path_of_isBareMf hbare hpath
                rw [hmalloc]
                decide

theorem setInitialAttachApn_gaveUp {p : DataProfileInfo} {modemCognitive isRoaming : Bool}
    (h : (setInitialAttachApn env p modemCognitive isRoaming).call = none) :
    Settled (setInitialAttachApn env p modemCognitive isRoaming) := by
  unfold setInitialAttachApn at h ⊢
  split
  · rename_i hversion
    rw [if_pos hversion] at h
    simp only at h ⊢
    rcases copyFields_cases env.malloc Mem.init [(p.apn, true),
        (if isRoaming then p.roamingProtocol else p.protocol, false), (p.user, false),
        (p.password, false)] with
      ⟨ps, m, hcopy, -⟩ | ⟨ps, m, hcopy, hcopied⟩
    · rw [hcopy] at h
      cases h
    · rw [hcopy]
      exact (gaveUp_settled_iff (hcopied.freed owns_nil)).2 rfl
  · rename_i hversion
    rw [if_neg hversion] at h
    exact sendRecord_gaveUp h

theorem sendImsSms_gaveUp {message : ImsSmsMessage} (h : (sendImsSms env message).call = none) :
    Settled (sendImsSms env message) := by
  have hnothing : Settled (gaveUp Mem.init) := (gaveUp_settled_iff owns_nil).2 rfl
  unfold sendImsSms at h ⊢
  split
  · rename_i hgsm
    rw [if_pos hgsm] at h
    unfold dispatchImsGsmSms at h ⊢
    split at h
    · rename_i gsmMessage _
      simp only at h ⊢
      split
      · rename_i hmalloc
        rw [if_pos hmalloc] at h
        rcases copyFields_cases env.malloc (Mem.init.alloc (List.replicate 2 (.ptr none)))
            [(gsmMessage.smscPdu, false), (gsmMessage.pdu, false)] with
          ⟨ps, m, hcopy, -⟩ | ⟨ps, m, hcopy, hcopied⟩
        · rw [hcopy] at h
          cases h
        · rw [hcopy]
          have hfreed := hcopied.freed (owns_nil.alloc Mem.init.here)
          exact (gaveUp_settled_iff (Owns.free hfreed)).2 rfl
      · exact hnothing
    · exact hnothing
  split
  · rename_i hgsm hcdma
    rw [if_neg hgsm, if_pos hcdma] at h
    unfold dispatchImsCdmaSms at h ⊢
    split at h
    · cases h
    · exact hnothing
  · exact hnothing

theorem sendProfiles_gaveUp {profiles : List DataProfileInfo} {width numfields : ℕ}
    {fields : DataProfileInfo → List Field} {record : DataProfileInfo → List Ptr → List Cell}
    {bf : BufFmts} (hfields : ∀ p, (fields p).length = numfields)
    (h : (sendProfiles env profiles width numfields fields record bf).call = none) :
    Settled (sendProfiles env profiles width numfields fields record bf) := by
  unfold sendProfiles at h ⊢
  simp only at h ⊢
  split
  · rename_i hfirst
    rw [if_pos hfirst] at h
    split
    · rename_i hsecond
      rw [if_pos hsecond] at h
      obtain ⟨hcopied, hlengths⟩ := copyProfiles_copied env.malloc fields
        ((Mem.init.alloc (List.replicate (width * profiles.length) (.int 0))).alloc
          (List.replicate profiles.length (.ptr none))) profiles
      cases hcopy : copyProfiles env.malloc fields
          ((Mem.init.alloc (List.replicate (width * profiles.length) (.int 0))).alloc
            (List.replicate profiles.length (.ptr none))) profiles with
      | mk rows rest =>
          obtain ⟨success, m⟩ := rest
          rw [hcopy] at h hcopied hlengths
          cases success with
          | true => cases h
          | false =>
              have howns : Owns m.ledger (rows.flatten.reduceOption ++ [⟨1, 0⟩, ⟨0, 0⟩]) :=
                hcopied.owns _ ((owns_nil.alloc _).alloc _)
              have hfreed := owns_memsetAndFreeStrings (o := [])
                (owns_freeSetDataProfileData (rows_length hfields hlengths) howns)
              exact (gaveUp_settled_iff hfreed).2 rfl
    · exact (gaveUp_settled_iff (Owns.free (owns_nil.alloc _))).2 rfl
  · exact (gaveUp_settled_iff owns_nil).2 rfl

theorem setAllowedCarriers_gaveUp {carriers : CarrierRestrictions}
    (h : (setAllowedCarriers env carriers).call = none) :
    Settled (setAllowedCarriers env carriers) := by
  unfold setAllowedCarriers at h ⊢
  simp only at h ⊢
  split
  · rename_i hfirst
    rw [if_pos hfirst] at h
    split
    · rename_i hsecond
      rw [if_pos hsecond] at h
      cases h
    · exact (gaveUp_settled_iff (Owns.free (owns_nil.alloc _))).2 rfl
  · exact (gaveUp_settled_iff owns_nil).2 rfl

end GivingUp

/-- No copy of a path is lost. -/
def Dispatcher.KeepsPath (env : Env) : Dispatcher → Prop
  | .iccIOForApp iccIo => isBareMf iccIo.path = false ∨ env.malloc 0 = false
  | _ => True

/-- **Giving up.**  A dispatcher that does not come to call `my_enqueue` has freed each block that
it allocated, once, except for the path of a SIM file that names the MF alone. -/
theorem dispatch_gaveUp_iff (env : Env) (d : Dispatcher) (h : (dispatch env d).call = none) :
    Settled (dispatch env d) ↔ d.KeepsPath env := by
  cases d with
  | dispatchString r str => exact iff_of_true (dispatchString_gaveUp h) trivial
  | dispatchStrings r allowEmpty strs => exact iff_of_true (sendStrings_gaveUp h) trivial
  | dispatchStringVec r data => exact iff_of_true (sendStrings_gaveUp h) trivial
  | dispatchInts r ints => exact iff_of_true (dispatchInts_gaveUp h) trivial
  | dial dialInfo => exact iff_of_true (dial_gaveUp h) trivial
  | iccIOForApp iccIo => exact iccIOForApp_gaveUp_iff h
  | setInitialAttachApn p modemCognitive isRoaming =>
      exact iff_of_true (setInitialAttachApn_gaveUp h) trivial
  | sendImsSms message => exact iff_of_true (sendImsSms_gaveUp h) trivial
  | setDataProfile profiles isRoaming =>
      refine iff_of_true ?_ trivial
      by_cases hversion : env.version ≤ 14
      · have hbranch : dispatch env (.setDataProfile profiles isRoaming) =
            sendProfiles env profiles 11 4 _ rilDataProfileInfo .dataProf := if_pos hversion
        rw [hbranch] at h ⊢
        exact sendProfiles_gaveUp (fun _ => rfl) h
      · have hbranch : dispatch env (.setDataProfile profiles isRoaming) =
            sendProfiles env profiles 17 6 _ rilDataProfileInfoV15 .ignore := if_neg hversion
        rw [hbranch] at h ⊢
        exact sendProfiles_gaveUp (fun _ => rfl) h
  | setAllowedCarriers carriers => exact iff_of_true (setAllowedCarriers_gaveUp h) trivial
  | dispatchVoid | dispatchRaw | setGsmBroadcastConfig | setCdmaBroadcastConfig
  | sendInitialAttachApnAgain => cases h
  | _ => exact iff_of_true (sendRecord_gaveUp h) trivial

end Radio.Payload
