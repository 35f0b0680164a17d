/-
# The channels of threads (`ril.cpp`)

`threadPid` keeps the channel of the threads that asked for a callback of a proxy.  `addThreadPid`
moves a thread to the front, and `RIL_myProxyIdByThread` looks for its caller.

* `addThreadPid`, `scan` : the code, with checked accesses;
* `addCalls_eq` : the table after a sequence of calls has the most recent threads;
* `scan_absent` : a thread that is not in the table is looked for behind its end;
* `lookup_correct_iff` : the threads that are found.
-/
import Ct07.Lib.CheckedMemory
import Ct07.Lib.Recency
import Ct07.Ril.Context

open CheckedMemory Recency

namespace Ril.ThreadPid

/-! ## Model -/

structure ThreadProxyId where
  cid : ℤ
  pthread : ℤ
  deriving DecidableEq

/-- The table after `memset`. -/
def cleared (maxRilChannels : ℕ) : List ThreadProxyId := List.replicate maxRilChannels ⟨0, 0⟩

section Code

variable (maxRilChannels : ℕ) (threadPid : List ThreadProxyId)

/-- The first loop of `addThreadPid`, from `i` on: a place that is free or has the thread. -/
def findPlace (tid : ℤ) (i : ℕ) : Except Fault ℕ :=
  if i < maxRilChannels then do
    let e ← readAt threadPid i
    if e.pthread ≠ 0 ∧ e.pthread ≠ tid then findPlace tid (i + 1) else .ok i
  else .ok i
termination_by maxRilChannels - i

/-- The second loop: the entries before `j` move on by one. -/
def moveOn : ℕ → List ThreadProxyId → Except Fault (List ThreadProxyId)
  | 0, threadPid => .ok threadPid
  | j + 1, threadPid => do
    let e ← readAt threadPid j
    let threadPid ← writeAt threadPid (j + 1) e
    moveOn j threadPid

def addThreadPid (cid tid : ℤ) : Except Fault (List ThreadProxyId) := do
  let i ← findPlace maxRilChannels threadPid tid 0
  -- when the table is full the last entry is dropped
  let threadPid ← moveOn (if i = maxRilChannels then maxRilChannels - 1 else i) threadPid
  writeAt threadPid 0 ⟨cid, tid⟩

/-- The loop of `RIL_myProxyIdByThread`, from `i` on; the entry is read before `i` is tested. -/
def scan (self : ℤ) (i : ℕ) : Except Fault ℕ := do
  let e ← readAt threadPid i
  if _h : e.pthread ≠ self ∧ i < maxRilChannels then scan self (i + 1) else .ok i
termination_by maxRilChannels - i

/-- `cid`, which is logged only. -/
def cidAt (i : ℕ) : Except Fault ℤ :=
  if i < maxRilChannels then (readAt threadPid i).map (·.cid) else .ok (-1)

end Code

/-- `MAX_RIL_CHANNELS`, as the length of the table. -/
def maxRilChannels (simCount : ℕ) : ℕ := (Dispatch.maxRilChannels simCount).toNat

/-- `RIL_myProxyIdByThread`: the `cid` of the log, and the result. -/
def myProxyIdByThread (simCount : ℕ) (s : Dispatch.State ℤ) (armed : Bool)
    (threadPid : List ThreadProxyId) (self lookup : ℤ) : Except Fault (ℤ × ℤ) := do
  let i ← scan (maxRilChannels simCount) threadPid self 0
  let cid ← cidAt (maxRilChannels simCount) threadPid i
  .ok (cid, s.myProxyIdByThread simCount armed self lookup)

/-! ## Calls -/

/-- The thread and the channel of a call of `addThreadPid`. -/
abbrev Call := Σ _ : ℤ, ℤ

/-- A sequence of calls, from the cleared table on. -/
def addCalls (max : ℕ) (calls : List Call) : Except Fault (List ThreadProxyId) :=
  calls.foldlM (fun threadPid c => addThreadPid max threadPid c.2 c.1) (cleared max)

def cell (c : Call) : ThreadProxyId := ⟨c.2, c.1⟩

/-- A table with the entries of some threads, and free places behind them. -/
def tableOf (max : ℕ) (l : List Call) : List ThreadProxyId :=
  l.map cell ++ cleared (max - l.length)

/-! ## Loops -/

section Loops

variable {max : ℕ} {threadPid : List ThreadProxyId}

/-- The place that `addThreadPid` takes. -/
def isPlace (tid : ℤ) (e : ThreadProxyId) : Bool := e.pthread = 0 ∨ e.pthread = tid

theorem findPlace_stop {tid : ℤ} {seen rest : List ThreadProxyId} {e : ThreadProxyId}
    (he : isPlace tid e = true) (hin : seen.length < max) :
    findPlace max (seen ++ e :: rest) tid seen.length = .ok seen.length := by
  have hstop : ¬ (e.pthread ≠ 0 ∧ e.pthread ≠ tid) := by
    simpa [isPlace, or_iff_not_imp_left] using he
  rw [findPlace, if_pos hin, readAt_append_cons e rfl, ok_bind, if_neg hstop]

theorem findPlace_next {tid : ℤ} {seen rest : List ThreadProxyId} {e : ThreadProxyId}
    (he : isPlace tid e = false) (hin : seen.length < max) :
    findPlace max (seen ++ e :: rest) tid seen.length =
      findPlace max (seen ++ [e] ++ rest) tid (seen ++ [e]).length := by
  have hgo : e.pthread ≠ 0 ∧ e.pthread ≠ tid := by
    simpa [isPlace] using he
  rw [findPlace, if_pos hin, readAt_append_cons e rfl, ok_bind, if_pos hgo, List.append_assoc,
    List.length_append]
  rfl

/-- The loop stops at the first place, or behind the table. -/
theorem findPlace_eq (tid : ℤ) (seen rest : List ThreadProxyId)
    (hlen : (seen ++ rest).length = max) :
    findPlace max (seen ++ rest) tid seen.length =
      .ok (seen.length + rest.findIdx (isPlace tid)) := by
  induction rest generalizing seen with
  | nil =>
      rw [List.append_nil] at hlen
      rw [findPlace, if_neg (by omega)]
      rfl
  | cons e rest ih =>
      have hin : seen.length < max := by
        rw [← hlen, List.length_append, List.length_cons]
        omega
      rw [List.findIdx_cons]
      by_cases hplace : isPlace tid e = true
      · rw [findPlace_stop hplace hin, hplace]
        rfl
      · rw [Bool.not_eq_true] at hplace
        rw [findPlace_next hplace hin, ih (seen ++ [e]) (by rwa [List.append_assoc]), hplace,
          cond_false, List.length_append, List.length_singleton, Nat.add_assoc, Nat.add_comm 1]

/-- The entries before a place move over it; what is left in front is overwritten later. -/
theorem moveOn_append (before after : List ThreadProxyId) (e : ThreadProxyId) :
    ∃ first, moveOn before.length (before ++ e :: after) = .ok (first :: (before ++ after)) := by
  induction before using List.reverseRecOn generalizing e after with
  | nil => exact ⟨e, rfl⟩
  | append_singleton before x ih =>
      obtain ⟨first, hfirst⟩ := ih (x :: after) x
      refine ⟨first, ?_⟩
      have hplace : before.length + 1 = (before ++ [x]).length := by
        rw [List.length_append, List.length_singleton]
      have hread : readAt (before ++ [x] ++ e :: after) before.length = .ok x := by
        rw [List.append_assoc]
        exact readAt_append_cons x rfl
      rw [← hplace, moveOn, hread, ok_bind, writeAt_append_cons e x hplace, ok_bind,
        List.append_assoc, List.singleton_append, hfirst, List.append_assoc,
        List.singleton_append]

theorem moveOn_eq (j : ℕ) (h : j < threadPid.length) :
    ∃ first, moveOn j threadPid = .ok (first :: threadPid.eraseIdx j) := by
  obtain ⟨first, hfirst⟩ := moveOn_append (threadPid.take j) (threadPid.drop (j + 1)) threadPid[j]
  rw [List.length_take, Nat.min_eq_left (by omega), List.getElem_cons_drop,
    List.take_append_drop] at hfirst
  exact ⟨first, by rw [hfirst, List.eraseIdx_eq_take_drop_succ]⟩

/-- **One call** puts the thread in front; the entry at its place, or the last one, goes. -/
theorem addThreadPid_eq (hlen : threadPid.length = max) (hmax : 0 < max) (cid tid : ℤ) :
    addThreadPid max threadPid cid tid =
      .ok (⟨cid, tid⟩ ::
        threadPid.eraseIdx (min (threadPid.findIdx (isPlace tid)) (max - 1))) := by
  have hplace := findPlace_eq tid [] threadPid hlen
  have hle : threadPid.findIdx (isPlace tid) ≤ max := hlen ▸ List.findIdx_le_length
  rw [List.nil_append, List.length_nil, Nat.zero_add] at hplace
  have hindex : (if threadPid.findIdx (isPlace tid) = max then max - 1
      else threadPid.findIdx (isPlace tid)) = min (threadPid.findIdx (isPlace tid)) (max - 1) := by
    split <;> omega
  obtain ⟨first, hmove⟩ := moveOn_eq (min (threadPid.findIdx (isPlace tid)) (max - 1))
    (show _ < threadPid.length by omega)
  rw [addThreadPid, hplace, ok_bind, hindex, hmove, ok_bind]
  rfl

/-! ## The table -/

theorem length_tableOf {l : List Call} (h : l.length ≤ max) : (tableOf max l).length = max := by
  rw [tableOf, cleared, List.length_append, List.length_map, List.length_replicate]
  omega

theorem tableOf_nil : tableOf max [] = cleared max := rfl

theorem tableOf_cons (c : Call) (l : List Call) :
    tableOf (max + 1) (c :: l) = cell c :: tableOf max l := by
  rw [tableOf, tableOf, List.length_cons, Nat.add_sub_add_right]
  rfl

/-- The entry of the thread is taken out of the table, or the first free one, or the last one. -/
theorem eraseIdx_tableOf {l : List Call} (hl : l.length ≤ max + 1) (hthreads : ∀ c ∈ l, c.1 ≠ 0)
    (tid : ℤ) :
    (tableOf (max + 1) l).eraseIdx (min ((tableOf (max + 1) l).findIdx (isPlace tid)) max) =
      tableOf max ((l.kerase tid).take max) := by
  induction l generalizing max with
  | nil =>
      rw [tableOf_nil, cleared, List.replicate_succ, List.findIdx_cons]
      have hfree : isPlace tid ⟨0, 0⟩ = true := by simp [isPlace]
      rw [hfree, cond_true, Nat.zero_min, List.eraseIdx_cons_zero, List.kerase_nil, List.take_nil]
      rfl
  | cons c l ih =>
      rw [List.length_cons] at hl
      rw [tableOf_cons, List.findIdx_cons]
      by_cases htid : tid = c.1
      · have hplace : isPlace tid (cell c) = true := by simp [isPlace, cell, htid]
        rw [hplace, cond_true, Nat.zero_min, List.eraseIdx_cons_zero, List.kerase_cons_eq htid,
          List.take_of_length_le (by omega)]
      · have hplace : isPlace tid (cell c) = false := by
          simp [isPlace, cell, Ne.symm htid, hthreads c List.mem_cons_self]
        rw [hplace, cond_false, List.kerase_cons_ne htid]
        cases max with
        | zero =>
            have hnil : l = [] := List.eq_nil_of_length_eq_zero (by omega)
            rw [Nat.min_zero, List.eraseIdx_cons_zero, List.take_zero, hnil]
        | succ max =>
            rw [Nat.add_min_add_right, List.eraseIdx_cons_succ,
              ih (by omega) fun c hc => hthreads c (List.mem_cons_of_mem _ hc), List.take_succ_cons,
              tableOf_cons]

end Loops

theorem maxRilChannels_pos (simCount : ℕ) : 0 < maxRilChannels simCount := by
  unfold maxRilChannels Dispatch.maxRilChannels
  split
  · decide
  · split
    · decide
    · split <;> decide

section Calls

variable {max : ℕ} {calls : List Call}

/-- One call moves the thread to the front of the most recent ones. -/
theorem addThreadPid_tableOf {l : List Call} (hmax : 0 < max) (hl : l.length ≤ max)
    (hthreads : ∀ c ∈ l, c.1 ≠ 0) (c : Call) :
    addThreadPid max (tableOf max l) c.2 c.1 = .ok (tableOf max (remember max l c)) := by
  obtain ⟨n, rfl⟩ : ∃ n, max = n + 1 := ⟨max - 1, by omega⟩
  rw [addThreadPid_eq (length_tableOf hl) hmax, Nat.add_sub_cancel,
    eraseIdx_tableOf hl hthreads, remember, List.kinsert_def, List.take_succ_cons, tableOf_cons]
  rfl

/-- **The table has the most recent threads**, with their latest channels. -/
theorem addCalls_eq (hmax : 0 < max) (hcalls : ∀ c ∈ calls, c.1 ≠ 0) :
    addCalls max calls = .ok (tableOf max (recent max calls)) := by
  induction calls using List.reverseRecOn with
  | nil =>
      rw [recent, List.reverse_nil]
      show _ = Except.ok (tableOf max ([].take max))
      rw [List.take_nil, tableOf_nil]
      rfl
  | append_singleton calls c ih =>
      have hold := ih fun c hc => hcalls c (List.mem_append_left _ hc)
      have hthreads : ∀ c ∈ recent max calls, c.1 ≠ 0 := fun c hc =>
        hcalls c (List.mem_append_left _ (mem_of_mem_recent hc))
      rw [addCalls] at hold
      rw [addCalls, List.foldlM_append, hold, ok_bind, List.foldlM_cons,
        addThreadPid_tableOf hmax (length_recent_le max calls) hthreads, ← recent_concat]
      rfl

/-! ## The scan -/

theorem scan_next {self : ℤ} {seen rest : List ThreadProxyId} {e : ThreadProxyId}
    (he : e.pthread ≠ self) (hin : seen.length < max) :
    scan max (seen ++ e :: rest) self seen.length =
      scan max (seen ++ [e] ++ rest) self (seen ++ [e]).length := by
  rw [scan, readAt_append_cons e rfl, ok_bind, dif_pos ⟨he, hin⟩, List.append_assoc,
    List.length_append]
  rfl

/-- The scan stops at the first entry of the thread. -/
theorem scan_present (seen before after : List ThreadProxyId) (e : ThreadProxyId)
    (hlen : (seen ++ (before ++ e :: after)).length ≤ max)
    (hbefore : ∀ x ∈ before, x.pthread ≠ e.pthread) :
    scan max (seen ++ (before ++ e :: after)) e.pthread seen.length =
      .ok (seen.length + before.length) := by
  induction before generalizing seen with
  | nil =>
      rw [scan, List.nil_append, readAt_append_cons e rfl, ok_bind, dif_neg fun h => h.1 rfl]
      rfl
  | cons x before ih =>
      have hin : seen.length < max := by
        rw [List.length_append, List.cons_append, List.length_cons] at hlen
        omega
      rw [List.cons_append, scan_next (hbefore x List.mem_cons_self) hin,
        ih (seen ++ [x]) (by rwa [List.append_assoc])
          fun y hy => hbefore y (List.mem_cons_of_mem x hy),
        List.length_append, List.length_singleton, List.length_cons, Nat.add_assoc,
        Nat.add_comm 1]

/-- **An absent thread** is looked for behind the end of the table. -/
theorem scan_absent {self : ℤ} (seen rest : List ThreadProxyId)
    (hlen : (seen ++ rest).length = max) (h : ∀ e ∈ rest, e.pthread ≠ self) :
    scan max (seen ++ rest) self seen.length = .error .read := by
  induction rest generalizing seen with
  | nil =>
      have hread : readAt (seen ++ []) seen.length = .error .read := by
        rw [List.append_nil, readAt, List.getElem?_eq_none (Nat.le_refl _)]
      rw [scan, hread]
      rfl
  | cons e rest ih =>
      have hin : seen.length < max := by
        rw [← hlen, List.length_append, List.length_cons]
        omega
      rw [scan_next (h e List.mem_cons_self) hin]
      apply ih (seen ++ [e])
      · rwa [List.append_assoc]
      · intro x hx
        exact h x (List.mem_cons_of_mem e hx)

/-- The scan of a table with the thread. -/
theorem scan_tableOf {l : List Call} (hl : l.length ≤ max) (hnodup : l.NodupKeys) {self cid : ℤ}
    (h : ⟨self, cid⟩ ∈ l) :
    ∃ i < max, scan max (tableOf max l) self 0 = .ok i ∧
      (tableOf max l)[i]? = some ⟨cid, self⟩ := by
  obtain ⟨before, after, rfl⟩ := List.append_of_mem h
  have hbefore : ∀ x ∈ before.map cell, x.pthread ≠ self := by
    intro x hx
    obtain ⟨c, hc, rfl⟩ := List.mem_map.1 hx
    rw [List.nodupKeys_middle, List.nodupKeys_cons] at hnodup
    intro hthread
    have hkey : c.1 ∈ (before ++ after).keys :=
      List.mem_keys_of_mem (List.mem_append_left after hc)
    change c.1 = self at hthread
    rw [hthread] at hkey
    exact hnodup.1 hkey
  have hshape : tableOf max (before ++ ⟨self, cid⟩ :: after) = before.map cell ++ ⟨cid, self⟩ ::
      (after.map cell ++ cleared (max - (before ++ ⟨self, cid⟩ :: after : List Call).length)) := by
    rw [tableOf, List.map_append, List.map_cons, List.append_assoc]
    rfl
  have hscan := scan_present [] _ _ _ (hshape ▸ (length_tableOf hl).le) hbefore
  rw [List.nil_append, ← hshape, List.length_nil, Nat.zero_add, List.length_map] at hscan
  refine ⟨before.length, ?_, hscan, ?_⟩
  · rw [List.length_append, List.length_cons] at hl
    omega
  · have hlength : before.length = (before.map cell).length := (List.length_map _).symm
    rw [hshape, hlength, List.getElem?_append_right (Nat.le_refl _), Nat.sub_self]
    rfl

/-- The entries of a thread are those of the threads that the table is of. -/
theorem mem_of_mem_tableOf {l : List Call} {e : ThreadProxyId} (h : e ∈ tableOf max l)
    (hthread : e.pthread ≠ 0) : ⟨e.pthread, e.cid⟩ ∈ l := by
  rcases List.mem_append.1 h with hmem | hfree
  · obtain ⟨c, hc, rfl⟩ := List.mem_map.1 hmem
    exact hc
  · rw [List.eq_of_mem_replicate hfree] at hthread
    exact absurd rfl hthread

theorem scan_tableOf_absent {l : List Call} (hl : l.length ≤ max) {self : ℤ} (hself : self ≠ 0)
    (h : self ∉ l.keys) : scan max (tableOf max l) self 0 = .error .read := by
  apply scan_absent [] (tableOf max l) (length_tableOf hl)
  rintro e he rfl
  exact h (List.mem_keys_of_mem (mem_of_mem_tableOf he hself))

end Calls

/-! ## The caller -/

section Caller

variable {simCount : ℕ} {calls : List Call} {self : ℤ} (s : Dispatch.State ℤ) (armed : Bool)
  (lookup : ℤ)

/-- The log has the latest channel of a recent thread. -/
theorem myProxyIdByThread_of_recent {cid : ℤ}
    (h : ⟨self, cid⟩ ∈ recent (maxRilChannels simCount) calls) :
    myProxyIdByThread simCount s armed
        (tableOf (maxRilChannels simCount) (recent (maxRilChannels simCount) calls)) self lookup =
      .ok (cid, s.myProxyIdByThread simCount armed self lookup) := by
  obtain ⟨i, hi, hscan, hentry⟩ :=
    scan_tableOf (length_recent_le _ calls) (nodupKeys_recent _ calls) h
  rw [myProxyIdByThread, hscan, ok_bind, cidAt, if_pos hi, readAt_eq_ok_iff.2 hentry]
  rfl

/-- No result for another thread: the entry behind the table is read. -/
theorem myProxyIdByThread_of_absent (hself : self ≠ 0)
    (h : self ∉ (recent (maxRilChannels simCount) calls).keys) :
    myProxyIdByThread simCount s armed
        (tableOf (maxRilChannels simCount) (recent (maxRilChannels simCount) calls)) self lookup =
      .error .read := by
  rw [myProxyIdByThread, scan_tableOf_absent (length_recent_le _ calls) hself h, error_bind]

end Caller

/-! ## Main result -/

/-- The table is that of the most recent threads, with the latest channel of each; the scan for a
thread reads inside of it, and stops at the entry of the thread, if it has one. -/
structure Correct (max : ℕ) (calls : List Call) (tid : ℤ) : Prop where
  table : addCalls max calls = .ok (tableOf max (recent max calls))
  found : ∀ threadPid, addCalls max calls = .ok threadPid →
    ∃ i, scan max threadPid tid 0 = .ok i ∧
      ∀ e ∈ threadPid, e.pthread = tid → threadPid[i]? = some e

/-- **Table and scan are correct, exactly for the threads in the table**: those after whose last
call fewer than `MAX_RIL_CHANNELS` other threads have been added. -/
theorem lookup_correct_iff (simCount : ℕ) (calls : List Call) (self : ℤ)
    (hcalls : ∀ c ∈ calls, c.1 ≠ 0) (hself : self ≠ 0) :
    Correct (maxRilChannels simCount) calls self ↔
      ∃ (earlier : List Call) (cid : ℤ) (later : List Call),
        calls = earlier ++ ⟨self, cid⟩ :: later ∧ self ∉ later.keys ∧
          later.keys.toFinset.card < maxRilChannels simCount := by
  have htable := addCalls_eq (maxRilChannels_pos simCount) hcalls
  have hlen := length_recent_le (maxRilChannels simCount) calls
  rw [← mem_keys_recent_iff]
  constructor
  · intro h
    by_contra habsent
    obtain ⟨i, hscan, -⟩ := h.found _ htable
    rw [scan_tableOf_absent hlen hself habsent] at hscan
    exact nomatch hscan
  · intro h
    obtain ⟨cid, hmem⟩ := List.mem_keys.1 h
    refine ⟨htable, fun threadPid hadded => ?_⟩
    cases htable.symm.trans hadded
    obtain ⟨i, -, hscan, hentry⟩ := scan_tableOf hlen (nodupKeys_recent _ calls) hmem
    refine ⟨i, hscan, ?_⟩
    rintro e he rfl
    have hlatest := dlookup_of_mem_recent (mem_of_mem_tableOf he hself)
    have hcid : cid = e.cid :=
      Option.some.inj ((dlookup_of_mem_recent hmem).symm.trans hlatest)
    rw [hentry, hcid]

/-- A thread that another one has been added after. -/
theorem lookup_correct_second : Correct (maxRilChannels 2) [⟨7, 3⟩, ⟨8, 1⟩, ⟨7, 2⟩] 8 :=
  (lookup_correct_iff 2 [⟨7, 3⟩, ⟨8, 1⟩, ⟨7, 2⟩] 8 (by decide) (by decide)).2
    ⟨[⟨7, 3⟩], 1, [⟨7, 2⟩], rfl, by decide, by decide⟩

/-- A thread that has not been added, when the table is not full. -/
theorem absentThread_not_correct : ¬ Correct (maxRilChannels 2) [⟨7, 3⟩] 8 := by
  intro h
  obtain ⟨i, hscan, -⟩ := h.found _ h.table
  rw [scan_tableOf_absent (length_recent_le _ _) (by decide) (by decide)] at hscan
  exact nomatch hscan

end Ril.ThreadPid
