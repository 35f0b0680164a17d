/-
# Interface ids of data calls (`ril_service.cpp`)

`setupDataCall` hands the vendor an interface id: the number of the first free entry of the
table `dataCallCids`, or zero when there is none.  The entry is not taken before the
response, which stores the id of the call in the entry that is the first free one then;
`deactivateDataCall` frees the entry that holds the id of the call.  The table serves all
slots.

Main result: `dataCalls_consistent`.
-/
import Ct07.Lib.Run
import Mathlib.Data.List.Basic
import Mathlib.Data.List.Nodup
import Mathlib.Data.List.Perm.Basic
import Mathlib.Data.Int.Notation

open PartialStep

namespace Radio.DataCalls

/-! ## State -/

/-- A set-up that is not answered yet. -/
structure Pending where
  slot : ℕ
  /-- the interface id handed to the vendor, zero for none -/
  ifid : ℕ
  deriving DecidableEq

/-- A call that was set up and is not deactivated. -/
structure Active where
  slot : ℕ
  cid : ℤ
  /-- the interface id of its set-up -/
  ifid : ℕ
  deriving DecidableEq

/-- `pending` and `active` are records beside the code's data. -/
structure State where
  /-- `dataCallCids` -/
  table : List ℤ
  /-- the slots whose `mRadioResponse` is set -/
  registered : List ℕ
  pending : List Pending
  active : List Active

def State.init : State := ⟨[-1, -1, -1, -1, -1], [], [], []⟩

/-- The part of `RIL_Data_Call_Response_v11` that is read here. -/
structure Payload where
  status : ℤ
  cid : ℤ
  deriving DecidableEq

/-! ## Operations -/

/-- `i = 0; while ((i<4) && (dataCallCids[i] != c)) i++;` -/
def search (table : List ℤ) (c : ℤ) : ℕ := (table.take 4).idxOf c

/-- The interface id that `setupDataCall` hands to the vendor. -/
def interfaceId (table : List ℤ) : ℕ := if search table (-1) < 4 then search table (-1) + 1 else 0

def setupDataCall (s : State) (slot : ℕ) : State :=
  { s with pending := s.pending ++ [⟨slot, interfaceId s.table⟩] }

def deactivateDataCall (s : State) (slot : ℕ) (cid : ℤ) : State :=
  { s with
    table := if search s.table cid < 4 then s.table.set (search s.table cid) (-1) else s.table
    active := s.active.filter fun a => !(decide (a.slot = slot) && decide (a.cid = cid)) }

def rilESuccess : ℤ := 0

/-- The call is set up: no error, and a payload with status `NONE`. -/
def Success (e : ℤ) (response : Option Payload) : Prop :=
  e = rilESuccess ∧ ∃ r, response = some r ∧ r.status = 0

instance (e : ℤ) (response : Option Payload) : Decidable (Success e response) :=
  match response with
  | none => isFalse (by simp [Success])
  | some r => decidable_of_iff (e = rilESuccess ∧ r.status = 0) (by simp [Success])

/-- The calls that a response makes active. -/
def activated (p : Pending) (e : ℤ) (response : Option Payload) : List Active :=
  match response with
  | some r => if Success e (some r) then [⟨p.slot, r.cid, p.ifid⟩] else []
  | none => []

/-- `radio::setupDataCallResponse` for the `k`-th pending set-up.  A payload that is too short
counts as none. -/
def setupDataCallResponse (s : State) (k : ℕ) (p : Pending) (e : ℤ) (response : Option Payload) :
    State :=
  { s with
    table :=
      match response with
      | some r => if p.slot ∈ s.registered then s.table.set (search s.table (-1)) r.cid else s.table
      | none => s.table
    pending := s.pending.eraseIdx k
    active := s.active ++ activated p e response }

/-- What can happen next. -/
inductive Event where
  | register (slot : ℕ)
  | unregister (slot : ℕ)
  | setup (slot : ℕ)
  | response (k : ℕ) (e : ℤ) (response : Option Payload)
  | deactivate (slot : ℕ) (cid : ℤ)
  deriving DecidableEq

def step (s : State) : Event → Option State
  | .register slot => some { s with registered := slot :: s.registered }
  | .unregister slot => some { s with registered := s.registered.filter fun t => decide (t ≠ slot) }
  | .setup slot => some (setupDataCall s slot)
  | .response k e response =>
      (s.pending[k]?).map fun p => setupDataCallResponse s k p e response
  | .deactivate slot cid => some (deactivateDataCall s slot cid)

/-! ## The property, and when it holds -/

/-- The interface ids that are in use. -/
def State.ifids (s : State) : List ℕ :=
  (s.pending.map Pending.ifid ++ s.active.map Active.ifid).filter fun i => decide (i ≠ 0)

/-- The call ids in the table. -/
def State.cids (s : State) : List ℤ := s.table.filter fun c => decide (c ≠ -1)

/-- No interface id is in use twice, the table holds the ids of the active calls, and it is
empty when there are none. -/
structure State.Consistent (s : State) : Prop where
  ifids : s.ifids.Nodup
  cids : s.cids.Perm (s.active.map Active.cid)
  empty : s.active = [] → ∀ c ∈ s.table, c = -1

/-- A success is stored, under an id of its own, in the entry that was handed out, and not
behind a full table; a failure stores nothing. -/
def State.Stores (s : State) (p : Pending) (e : ℤ) (r : Payload) : Prop :=
  if Success e (some r) then
    p.slot ∈ s.registered ∧ r.cid ≠ -1 ∧ (∀ a ∈ s.active, a.cid ≠ r.cid) ∧
      interfaceId s.table ≠ 0 ∧ (p.ifid = 0 ∨ p.ifid = interfaceId s.table)
  else p.slot ∈ s.registered → r.cid = -1

instance (s : State) (p : Pending) (e : ℤ) (r : Payload) : Decidable (s.Stores p e r) := by
  unfold State.Stores
  infer_instance

/-- No set-up is made while another one waits that was handed the same entry, every response
is stored as it should be, and a slot only deactivates its own calls. -/
def Event.Apart (s : State) : Event → Prop
  | .setup _ => interfaceId s.table = 0 ∨ ∀ p ∈ s.pending, p.ifid ≠ interfaceId s.table
  | .response k e payload =>
      (s.pending[k]?).all fun p => payload.all fun r => decide (s.Stores p e r)
  | .deactivate slot cid => ∀ a ∈ s.active, a.cid = cid → a.slot = slot
  | _ => True

instance (s : State) (e : Event) : Decidable (e.Apart s) := by
  unfold Event.Apart
  cases e <;> infer_instance

/-! ## Entries of the table -/

theorem search_le (table : List ℤ) (c : ℤ) : search table c ≤ 4 :=
  Nat.le_trans List.idxOf_le_length (List.length_take_le 4 table)

/-- An entry that is found holds what was looked for. -/
theorem getElem?_search {table : List ℤ} {c : ℤ} (h : search table c < 4)
    (hlen : table.length = 5) : table[search table c]? = some c := by
  have hlt : (table.take 4).idxOf c < (table.take 4).length := by
    rw [List.length_take, hlen]
    exact h
  have hget := List.getElem?_eq_getElem hlt
  rw [List.getElem_idxOf hlt] at hget
  exact (List.getElem?_take_of_lt h).symm.trans hget

/-- What is in one of the first four entries is found. -/
theorem search_lt {table : List ℤ} {c : ℤ} (h : c ∈ table.take 4) (hlen : table.length = 5) :
    search table c < 4 := by
  have hlt := List.idxOf_lt_length_of_mem h
  rw [List.length_take, hlen] at hlt
  exact hlt

/-- An interface id is the number of a free entry. -/
theorem interfaceId_eq {table : List ℤ} (h : interfaceId table ≠ 0) :
    search table (-1) < 4 ∧ interfaceId table = search table (-1) + 1 := by
  have hfree : search table (-1) < 4 := by
    by_contra hfull
    exact h (if_neg hfull)
  exact ⟨hfree, if_pos hfree⟩

/-- Writing what an entry holds. -/
theorem set_of_getElem? {α : Type*} {l : List α} {i : ℕ} {c : α} (h : l[i]? = some c) :
    l.set i c = l := by
  obtain ⟨hlen, rfl⟩ := List.getElem?_eq_some_iff.1 h
  exact List.set_getElem_self hlen

/-- Writing an entry that the filter passes over one that it does not. -/
theorem perm_filter_set {α : Type*} {p : α → Bool} {l : List α} {i : ℕ} {c d : α}
    (hi : l[i]? = some d) (hd : p d = false) (hc : p c = true) :
    ((l.set i c).filter p).Perm (c :: l.filter p) := by
  induction l generalizing i with
  | nil => simp at hi
  | cons a l ih =>
      cases i with
      | zero =>
          cases Option.some.inj hi
          simp [hc, hd]
      | succ i =>
          have hrest := ih (i := i) (by simpa using hi)
          cases ha : p a with
          | true =>
              simp only [List.set_cons_succ, List.filter_cons, ha, if_true]
              exact (hrest.cons a).trans (List.Perm.swap c a _)
          | false =>
              simpa only [List.set_cons_succ, List.filter_cons, ha, if_neg Bool.false_ne_true]
                using hrest

/-- Clearing an entry takes what it held out of the filtered list. -/
theorem perm_filter_clear {α : Type*} {p : α → Bool} {l : List α} {i : ℕ} {c d : α}
    (hi : l[i]? = some c) (hd : p d = false) (hc : p c = true) :
    (l.filter p).Perm (c :: (l.set i d).filter p) := by
  obtain ⟨hlt, rfl⟩ := List.getElem?_eq_some_iff.1 hi
  have hd' : (l.set i d)[i]? = some d := List.getElem?_set_self hlt
  have hperm := perm_filter_set hd' hd hc
  rw [List.set_set, List.set_getElem_self] at hperm
  exact hperm

/-! ## Invariant -/

/-- Every active call that was handed an interface id is in the entry of that id, and the last
entry is not used. -/
structure Inv (s : State) : Prop where
  length : s.table.length = 5
  last : s.table[4]? = some (-1)
  ifids : s.ifids.Nodup
  cids : s.cids.Perm (s.active.map Active.cid)
  distinct : (s.active.map Active.cid).Nodup
  entry : ∀ a ∈ s.active, a.ifid ≠ 0 → s.table[a.ifid - 1]? = some a.cid

theorem inv_init : Inv State.init where
  length := rfl
  last := rfl
  ifids := List.nodup_nil
  cids := List.Perm.refl []
  distinct := List.nodup_nil
  entry := by simp [State.init]

section Steps

variable {s : State}

theorem Inv.cid_ne (h : Inv s) {a : Active} (ha : a ∈ s.active) : a.cid ≠ -1 := by
  have hmem := h.cids.mem_iff.2 (List.mem_map.2 ⟨a, ha, rfl⟩)
  simpa using (List.mem_filter.1 hmem).2

/-- What the table holds is the id of an active call. -/
theorem Inv.mem_active (h : Inv s) {c : ℤ} (hc : c ∈ s.table) (hne : c ≠ -1) :
    c ∈ s.active.map Active.cid :=
  h.cids.mem_iff.1 (List.mem_filter.2 ⟨hc, by simpa using hne⟩)

/-- The id of an active call is in one of the first four entries. -/
theorem Inv.search_lt_of_active (h : Inv s) {a : Active} (ha : a ∈ s.active) :
    search s.table a.cid < 4 := by
  have hmem : a.cid ∈ s.table :=
    (List.mem_filter.1 (h.cids.mem_iff.2 (List.mem_map.2 ⟨a, ha, rfl⟩))).1
  refine search_lt ?_ h.length
  obtain ⟨i, hi⟩ := List.mem_iff_getElem?.1 hmem
  have hi4 : i < 4 := by
    have hlt := (List.getElem?_eq_some_iff.1 hi).1
    rw [h.length] at hlt
    by_contra hge
    have heq : i = 4 := by omega
    subst heq
    exact h.cid_ne ha (Option.some.inj (hi.symm.trans h.last))
  exact List.mem_iff_getElem?.2 ⟨i, (List.getElem?_take_of_lt hi4).trans hi⟩

theorem Inv.consistent (h : Inv s) : s.Consistent where
  ifids := h.ifids
  cids := h.cids
  empty := by
    intro hnil c hc
    by_contra hne
    have hmem := h.mem_active hc hne
    simp [hnil] at hmem

/-- A step that changes neither the table nor the active calls. -/
theorem Inv.congr (h : Inv s) {t : State} (htable : t.table = s.table)
    (hactive : t.active = s.active) (hifids : t.ifids.Nodup) : Inv t where
  length := htable ▸ h.length
  last := htable ▸ h.last
  ifids := hifids
  cids := by
    rw [State.cids, htable, hactive]
    exact h.cids
  distinct := by
    rw [hactive]
    exact h.distinct
  entry := by
    rw [hactive, htable]
    exact h.entry

/-- **A set-up.**  No active call has the interface id that is handed out. -/
theorem setup_inv (h : Inv s) (slot : ℕ)
    (hok : interfaceId s.table = 0 ∨ ∀ p ∈ s.pending, p.ifid ≠ interfaceId s.table) :
    Inv (setupDataCall s slot) := by
  refine h.congr rfl rfl ?_
  have hperm : (setupDataCall s slot).ifids.Perm
      ((interfaceId s.table ::
        (s.pending.map Pending.ifid ++ s.active.map Active.ifid)).filter
          fun i => decide (i ≠ 0)) := by
    apply List.Perm.filter _
    simp only [setupDataCall, List.map_append, List.map_cons, List.map_nil, List.append_assoc]
    exact List.perm_middle
  apply hperm.nodup_iff.2
  by_cases hzero : interfaceId s.table = 0
  · rw [List.filter_cons_of_neg (by simp [hzero])]
    exact h.ifids
  · rw [List.filter_cons_of_pos (by simpa using hzero)]
    refine List.nodup_cons.2 ⟨fun hmem => ?_, h.ifids⟩
    have hpending := hok.resolve_left hzero
    obtain ⟨hfree, hid⟩ := interfaceId_eq hzero
    rcases List.mem_append.1 (List.mem_filter.1 hmem).1 with hmem | hmem
    · obtain ⟨p, hp, hpid⟩ := List.mem_map.1 hmem
      exact hpending p hp hpid
    · obtain ⟨a, ha, haid⟩ := List.mem_map.1 hmem
      have hentry := h.entry a ha (by rw [haid]; exact hzero)
      rw [haid, hid, Nat.add_sub_cancel, getElem?_search hfree h.length] at hentry
      exact h.cid_ne ha (Option.some.inj hentry).symm

/-- The entry of an active call is kept when another one is written. -/
theorem Inv.entry_set (h : Inv s) {i : ℕ} {c d : ℤ} (hi : s.table[i]? = some d) {a : Active}
    (ha : a ∈ s.active) (had : a.cid ≠ d) (hid : a.ifid ≠ 0) :
    (s.table.set i c)[a.ifid - 1]? = some a.cid := by
  have hentry := h.entry a ha hid
  have hne : i ≠ a.ifid - 1 := by
    rintro rfl
    exact had (Option.some.inj (hentry.symm.trans hi))
  rw [List.getElem?_set_ne hne]
  exact hentry

/-- The calls that stay after a deactivation have other ids. -/
theorem deactivate_keeps {slot : ℕ} {cid : ℤ} (hok : ∀ a ∈ s.active, a.cid = cid → a.slot = slot) :
    ∀ a ∈ (deactivateDataCall s slot cid).active, a ∈ s.active ∧ a.cid ≠ cid := by
  intro a ha
  obtain ⟨ha, hnot⟩ := List.mem_filter.1 ha
  refine ⟨ha, fun hcid => ?_⟩
  simp [hok a ha hcid, hcid] at hnot

/-- The active calls are the one that is deactivated and those that stay. -/
theorem deactivate_active (h : Inv s) {slot : ℕ} {a : Active} (ha : a ∈ s.active)
    (hok : ∀ b ∈ s.active, b.cid = a.cid → b.slot = slot) :
    (s.active.map Active.cid).Perm
      (a.cid :: (deactivateDataCall s slot a.cid).active.map Active.cid) := by
  have hsub : (deactivateDataCall s slot a.cid).active.Sublist s.active := List.filter_sublist
  have hnd : (a.cid :: (deactivateDataCall s slot a.cid).active.map Active.cid).Nodup := by
    refine List.nodup_cons.2 ⟨fun hm => ?_, h.distinct.sublist (hsub.map Active.cid)⟩
    obtain ⟨b, hb, hbcid⟩ := List.mem_map.1 hm
    exact (deactivate_keeps hok b hb).2 hbcid
  refine (List.perm_ext_iff_of_nodup h.distinct hnd).2 fun c => ?_
  rw [List.mem_cons]
  constructor
  · intro hc
    obtain ⟨b, hb, rfl⟩ := List.mem_map.1 hc
    by_cases hcid : b.cid = a.cid
    · exact .inl hcid
    · refine .inr (List.mem_map.2 ⟨b, List.mem_filter.2 ⟨hb, ?_⟩, rfl⟩)
      simp [hcid]
  · rintro (rfl | hc)
    · exact List.mem_map.2 ⟨a, ha, rfl⟩
    · exact (hsub.map Active.cid).subset hc

/-- A call id that is not active is not in the table, unless it marks the free entries. -/
theorem deactivate_unknown (h : Inv s) {cid : ℤ} (hnone : ∀ a ∈ s.active, a.cid ≠ cid)
    (slot : ℕ) : (deactivateDataCall s slot cid).table = s.table := by
  by_cases hlt : search s.table cid < 4
  · have hfound := getElem?_search hlt h.length
    have hcid : cid = -1 := by
      by_contra hne
      obtain ⟨a, ha, hacid⟩ := List.mem_map.1
        (h.mem_active (List.mem_iff_getElem?.2 ⟨_, hfound⟩) hne)
      exact hnone a ha hacid
    rw [deactivateDataCall, if_pos hlt, hcid]
    exact set_of_getElem? (hcid ▸ hfound)
  · exact if_neg hlt

/-- **A deactivation.**  The entry that is freed is that of the call. -/
theorem deactivate_inv (h : Inv s) {slot : ℕ} {cid : ℤ}
    (hok : ∀ a ∈ s.active, a.cid = cid → a.slot = slot) :
    Inv (deactivateDataCall s slot cid) := by
  have hsub : (deactivateDataCall s slot cid).active.Sublist s.active := List.filter_sublist
  have hkeep := deactivate_keeps hok
  have hifids : (deactivateDataCall s slot cid).ifids.Nodup :=
    ((List.Sublist.refl _).append (hsub.map Active.ifid)).filter _ |>.nodup h.ifids
  by_cases hmem : ∃ a ∈ s.active, a.cid = cid
  · obtain ⟨a, ha, rfl⟩ := hmem
    have hlt := h.search_lt_of_active ha
    have hfound := getElem?_search hlt h.length
    have htable : (deactivateDataCall s slot a.cid).table =
        s.table.set (search s.table a.cid) (-1) := if_pos hlt
    have hcids := perm_filter_clear (p := fun c => decide (c ≠ -1)) (d := -1) hfound (by simp)
      (by simpa using h.cid_ne ha)
    refine ⟨?_, ?_, hifids, ?_, h.distinct.sublist (hsub.map Active.cid), ?_⟩
    · rw [htable, List.length_set]
      exact h.length
    · rw [htable, List.getElem?_set_ne (by omega)]
      exact h.last
    · rw [State.cids, htable]
      exact (hcids.symm.trans (h.cids.trans (deactivate_active h ha hok))).cons_inv
    · intro b hb hid
      rw [htable]
      exact h.entry_set hfound (hkeep b hb).1 (hkeep b hb).2 hid
  · have hnone : ∀ a ∈ s.active, a.cid ≠ cid := fun a ha hcid => hmem ⟨a, ha, hcid⟩
    have hactive : (deactivateDataCall s slot cid).active = s.active := by
      refine List.filter_eq_self.2 fun a ha => ?_
      simp [hnone a ha]
    exact h.congr (deactivate_unknown h hnone slot) hactive hifids

/-- A response makes at most one call active, that of its set-up. -/
theorem activated_cases (p : Pending) (e : ℤ) (payload : Option Payload) :
    activated p e payload = [] ∨ ∃ cid, activated p e payload = [⟨p.slot, cid, p.ifid⟩] := by
  cases payload with
  | none => exact .inl rfl
  | some r =>
      by_cases hsuccess : Success e (some r)
      · exact .inr ⟨r.cid, if_pos hsuccess⟩
      · exact .inl (if_neg hsuccess)

/-- The interface ids in use after a response: that of the set-up is kept or given up. -/
theorem response_ifids (h : Inv s) {k : ℕ} {p : Pending} (hk : s.pending[k]? = some p) (e : ℤ)
    (payload : Option Payload) : (setupDataCallResponse s k p e payload).ifids.Nodup := by
  obtain ⟨hlt, hget⟩ := List.getElem?_eq_some_iff.1 hk
  have hperm : s.pending.Perm (p :: s.pending.eraseIdx k) := by
    rw [← hget]
    exact (List.getElem_cons_eraseIdx_perm hlt).symm
  have hsub : ((activated p e payload).map Active.ifid).Sublist [p.ifid] := by
    rcases activated_cases p e payload with hnone | ⟨cid, hone⟩
    · rw [hnone]
      exact List.nil_sublist _
    · rw [hone]
      exact List.Sublist.refl _
  have hall : (s.pending.map Pending.ifid ++ s.active.map Active.ifid).Perm
      ((s.pending.eraseIdx k).map Pending.ifid ++ s.active.map Active.ifid ++ [p.ifid]) := by
    apply ((hperm.map Pending.ifid).append_right _).trans
    rw [List.map_cons, List.cons_append]
    exact (List.perm_append_singleton _ _).symm
  have hids : (setupDataCallResponse s k p e payload).ifids.Sublist
      (((s.pending.eraseIdx k).map Pending.ifid ++ s.active.map Active.ifid ++ [p.ifid]).filter
        fun i => decide (i ≠ 0)) := by
    apply List.Sublist.filter _
    simp only [setupDataCallResponse, List.map_append, List.append_assoc]
    exact (List.Sublist.refl _).append ((List.Sublist.refl _).append hsub)
  exact hids.nodup ((hall.filter _).nodup_iff.1 h.ifids)

/-- **A success** is stored in the entry that was handed out. -/
theorem response_success (h : Inv s) {k : ℕ} {p : Pending} (hk : s.pending[k]? = some p) {e : ℤ}
    {r : Payload} (hsuccess : Success e (some r)) (hok : s.Stores p e r) :
    Inv (setupDataCallResponse s k p e (some r)) := by
  unfold State.Stores at hok
  rw [if_pos hsuccess] at hok
  obtain ⟨hreg, hcid, hnew, hroom, hown⟩ := hok
  obtain ⟨hfree, hid⟩ := interfaceId_eq hroom
  have hfound := getElem?_search hfree h.length
  have htable : (setupDataCallResponse s k p e (some r)).table =
      s.table.set (search s.table (-1)) r.cid := if_pos hreg
  have hactive : (setupDataCallResponse s k p e (some r)).active =
      s.active ++ [⟨p.slot, r.cid, p.ifid⟩] := by
    simp only [setupDataCallResponse, activated, if_pos hsuccess]
  refine ⟨?_, ?_, response_ifids h hk e (some r), ?_, ?_, ?_⟩
  · rw [htable, List.length_set]
    exact h.length
  · rw [htable, List.getElem?_set_ne (by omega)]
    exact h.last
  · rw [State.cids, htable, hactive, List.map_append]
    have hcids := perm_filter_set (p := fun c => decide (c ≠ -1)) (c := r.cid) hfound
      (by simp) (by simpa using hcid)
    exact hcids.trans ((h.cids.cons _).trans (List.perm_append_singleton _ _).symm)
  · rw [hactive, List.map_append]
    apply List.Nodup.append h.distinct (List.nodup_singleton _)
    intro c hc hc'
    obtain ⟨a, ha, rfl⟩ := List.mem_map.1 hc
    exact hnew a ha (List.mem_singleton.1 hc')
  · intro a ha hne
    rw [hactive] at ha
    rw [htable]
    rcases List.mem_append.1 ha with ha | ha
    · exact h.entry_set hfound ha (h.cid_ne ha) hne
    · rw [List.mem_singleton.1 ha] at hne ⊢
      have hentry : p.ifid - 1 = search s.table (-1) := by
        rw [hown.resolve_left hne, hid, Nat.add_sub_cancel]
      change (s.table.set (search s.table (-1)) r.cid)[p.ifid - 1]? = some r.cid
      rw [hentry, List.getElem?_set_self (by rw [h.length]; omega)]

/-- What the first free entry holds; when there is none, the last entry is read. -/
theorem Inv.getElem?_free (h : Inv s) : s.table[search s.table (-1)]? = some (-1) := by
  by_cases hfree : search s.table (-1) < 4
  · exact getElem?_search hfree h.length
  · have hfull : search s.table (-1) = 4 :=
      Nat.le_antisymm (search_le _ _) (Nat.le_of_not_lt hfree)
    rw [hfull]
    exact h.last

/-- **A failure** is stored nowhere, as its call id is that of a free entry. -/
theorem response_failure (h : Inv s) {k : ℕ} {p : Pending} (hk : s.pending[k]? = some p) {e : ℤ}
    {r : Payload} (hfailure : ¬ Success e (some r)) (hok : s.Stores p e r) :
    Inv (setupDataCallResponse s k p e (some r)) := by
  unfold State.Stores at hok
  rw [if_neg hfailure] at hok
  have hactive : (setupDataCallResponse s k p e (some r)).active = s.active := by
    simp only [setupDataCallResponse, activated, if_neg hfailure, List.append_nil]
  have htable : (setupDataCallResponse s k p e (some r)).table = s.table := by
    by_cases hreg : p.slot ∈ s.registered
    · simp only [setupDataCallResponse, if_pos hreg, hok hreg]
      exact set_of_getElem? h.getElem?_free
    · exact if_neg hreg
  exact h.congr htable hactive (response_ifids h hk e (some r))

/-- **A response.**  A success is stored in the entry that was handed out, a failure nowhere. -/
theorem response_inv (h : Inv s) {k : ℕ} {p : Pending} (hk : s.pending[k]? = some p) {e : ℤ}
    {payload : Option Payload} (hok : (Event.response k e payload).Apart s) :
    Inv (setupDataCallResponse s k p e payload) := by
  cases payload with
  | none => exact h.congr rfl (List.append_nil _) (response_ifids h hk e none)
  | some r =>
      have hok : s.Stores p e r := by
        simpa only [Event.Apart, hk, Option.all_some, decide_eq_true_eq] using hok
      by_cases hsuccess : Success e (some r)
      · exact response_success h hk hsuccess hok
      · exact response_failure h hk hsuccess hok

end Steps

/-- **One step.** -/
theorem step_inv {s s' : State} {e : Event} (h : Inv s) (hok : e.Apart s)
    (hs : step s e = some s') : Inv s' := by
  cases e with
  | register slot =>
      cases Option.some.inj hs
      exact h.congr rfl rfl h.ifids
  | unregister slot =>
      cases Option.some.inj hs
      exact h.congr rfl rfl h.ifids
  | setup slot =>
      cases Option.some.inj hs
      exact setup_inv h slot hok
  | response k e payload =>
      obtain ⟨p, hk, rfl⟩ := Option.map_eq_some_iff.1 hs
      exact response_inv h hk hok
  | deactivate slot cid =>
      cases Option.some.inj hs
      exact deactivate_inv h hok

/-! ## Main result -/

/-- **The interface ids are consistent, when set-ups do not overlap.**  For every interleaving of
set-ups, responses and deactivations of all slots whose steps keep apart, no interface id is
in use twice, and the table holds exactly the ids of the active calls. -/
theorem dataCalls_consistent (es : List Event)
    (h : Meets step (fun s e => e.Apart s) State.init es) :
    Always step State.Consistent State.init es :=
  (always_of_meets (fun _ _ _ hi hok hs => step_inv hi hok hs) inv_init h).mono
    fun _ hi => hi.consistent

/-- Calls of two slots, one after the other, and a failed set-up between them. -/
theorem dataCalls_consistent_twoSlots :
    Always step State.Consistent State.init
      [.register 0, .register 1, .setup 0, .response 0 0 (some ⟨0, 7⟩), .setup 1,
        .response 0 2 none, .setup 1, .response 0 0 (some ⟨0, 8⟩), .deactivate 0 7, .setup 0,
        .deactivate 1 8] :=
  dataCalls_consistent _ (by decide)

/-- Two set-ups that overlap are handed the same interface id. -/
theorem overlappingSetups_not_consistent :
    ¬ ∀ es : List Event, Always step State.Consistent State.init es := by
  intro hall
  have hrun : (run step State.init [.setup 0, .setup 1]).map State.ifids = some [1, 1] := by decide
  obtain ⟨s', hs', hids⟩ := Option.map_eq_some_iff.1 hrun
  have hnodup := ((hall _).last hs').ifids
  rw [hids] at hnodup
  exact absurd hnodup (by decide)

end Radio.DataCalls
