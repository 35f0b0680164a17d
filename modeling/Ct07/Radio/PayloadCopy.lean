/-
# Queued payloads (`ril.cpp`, `ril_service.cpp`)

In a build with `RIL_CHANNEL_QUEUING` a request whose channel is busy waits with a flat copy of
its buffer, and the vendor is called for it when the dispatcher has returned and its frame is
gone.  What the vendor finds then is compared with what it would have found at once: the same
code and length, and the same contents, wherever the pointers lead.

* `enqueuePending`, `ProxyReqInfo.call` : the copy, and the call that is made with it;
* `payloadAgrees_of_kept`, `not_payloadAgrees_of_frame` : copies whose pointers lead to blocks that
  stay, and copies with a pointer to the frame;
* `queued_as_direct_iff` : when a request that waits is served like one that does not.
-/
import Ct07.Radio.PayloadBuilt
import Ct07.Ril.Queuing
import Mathlib.Data.List.TakeWhile

open PartialStep PointerGraph Ril

namespace Radio.Payload

/-! ## Copying and serving -/

/-- The cells that lie within the first `n` bytes. -/
def within : ℕ → List Cell → List Cell
  | _, [] => []
  | n, c :: cs => if c.size ≤ n then c :: within (n - c.size) cs else []

/-- `ProxyReqInfo`; of `pRI` the number of its row. -/
structure ProxyReqInfo where
  requestNumber : ℕ
  buf : Ptr
  buflen : ℕ
  bf : BufFmts

/-- The end of `my_enqueue` for a request that waits: `memcpy` of the buffer to a new block, which
is undefined when there is nothing to read. -/
def enqueuePending (requestNumber : ℕ) (c : Call) (m : Mem) : Option (ProxyReqInfo × Mem) :=
  if c.bf ≠ .void ∧ c.buflen ≠ 0 then
    (c.buf.bind m.cells).map fun cells =>
      (⟨requestNumber, some m.here, c.buflen, c.bf⟩, m.alloc (within c.buflen cells))
  else some (⟨requestNumber, none, c.buflen, c.bf⟩, m)

/-- The arguments with which `my_dequeue` calls the vendor. -/
def ProxyReqInfo.call (p : ProxyReqInfo) : Call := ⟨p.requestNumber, p.buf, p.buflen, p.bf⟩

/-- The dispatcher returns, and its frame ends. -/
def Mem.ret (m : Mem) : Mem :=
  { m with objects := fun b => if b ∈ m.frame then none else m.objects b, frame := [] }

/-! ## What the vendor finds -/

/-- The C string that the cells begin with, if it ends. -/
def readText : List Cell → Option Text
  | .word (.char c) :: cells => if c = nul then some [] else (readText cells).map (c :: ·)
  | _ => none

/-- The `n` bytes at a pointer. -/
def Mem.contents (m : Mem) (buf : Ptr) (n : ℕ) : Option (List Cell) :=
  if n = 0 then some [] else (buf.bind m.cells).map (within n)

/-- Two calls have the same payload: a string as such, anything else byte by byte for its length,
with all that the pointers lead to. -/
def SamePayload (m m' : Mem) (c c' : Call) : Prop :=
  match c.bf with
  | .str => ∃ s, (c.buf.bind m.cells).bind readText = some s ∧
      (c'.buf.bind m'.cells).bind readText = some s
  | _ => ∃ xs ys, m.contents c.buf c.buflen = some xs ∧ m'.contents c'.buf c'.buflen = some ys ∧
      Same m.cells m'.cells xs ys

/-- The call that is made for the copy is the one that would have been made at once. -/
def CopyAgrees (requestNumber : ℕ) (m : Mem) (c : Call) : Prop :=
  ∃ p m', enqueuePending requestNumber c m = some (p, m') ∧
    p.call.request = c.request ∧ p.call.buflen = c.buflen ∧ SamePayload m m'.ret c p.call

/-- What `my_enqueue` reads of a request that is dispatched. -/
def Env.request (env : Env) (d : Dispatcher) (c : Call) : Request :=
  ⟨c.request, c.bf, env.slotId, (env.commandInfo d.request).proxyId,
    (newRequestInfo env.commands 0 0 env.slotId d.request.code).cid⟩

/-- In every state in which the request has to wait, it is served later as it would have been
served at once. -/
def QueuedAsDirect (env : Env) (d : Dispatcher) : Prop :=
  ∀ c, (dispatch env d).call = some c →
    ∀ es s, run Queuing.step Queuing.State.init es = some s →
      (s.queues.enqueue (env.request d c)).2 = true →
        CopyAgrees (env.commandInfo d.request).requestNumber (dispatch env d).mem c

/-! ## When a request can wait -/

section Waiting

variable {env : Env} {d : Dispatcher} {c : Call}

theorem lane_eq_none_iff (r : Request) : Queuing.lane r = none ↔ isQueuing r.proxyId = false := by
  unfold Queuing.lane isQueuing
  by_cases h1 : r.proxyId = rilCmdProxy1
  · simp [h1]
  · by_cases h3 : r.proxyId = rilCmdProxy3
    · have hne : rilCmdProxy3 ≠ rilCmdProxy1 := by decide
      simp [h3, hne]
    · simp [h1, h3]

/-- A request that is not ignored waits behind one like it. -/
theorem exists_waiting (env : Env) (d : Dispatcher) (hbf : c.bf ≠ .ignore)
    (hproxy : isQueuing (env.commandInfo d.request).proxyId = true) :
    ∃ es s, run Queuing.step Queuing.State.init es = some s ∧
      (s.queues.enqueue (env.request d c)).2 = true := by
  cases hlane : Queuing.lane (env.request d c) with
  | none =>
      have hnot : isQueuing (env.commandInfo d.request).proxyId = false :=
        (lane_eq_none_iff _).1 hlane
      rw [hproxy] at hnot
      cases hnot
  | some l =>
      -- the first of two such requests sets the flag that the second one finds
      obtain ⟨-, hset, -⟩ := Queuing.enqueue_lane Queues.empty (env.request d c) hbf hlane
      have hstep : Queuing.step Queuing.State.init (.enqueue (env.request d c)) =
          some (Queuing.enqueue Queuing.State.init (env.request d c)) := if_pos env.slotId_lt
      have hqueues : (Queuing.enqueue Queuing.State.init (env.request d c)).queues =
          (Queues.empty.enqueue (env.request d c)).1 := by
        unfold Queuing.enqueue
        simp only [hlane]
        split <;> rfl
      refine ⟨[.enqueue (env.request d c)], _, (run_cons _ hstep []).trans rfl, ?_⟩
      rw [hqueues, (Queuing.enqueue_lane _ _ hbf hlane).1, hset]
      exact Function.update_self _ _ _

theorem queuedAsDirect_iff_copyAgrees (h : (dispatch env d).call = some c) :
    QueuedAsDirect env d ↔
      (c.bf ≠ .ignore → isQueuing (env.commandInfo d.request).proxyId = true →
        CopyAgrees (env.commandInfo d.request).requestNumber (dispatch env d).mem c) := by
  constructor
  · intro hall hbf hproxy
    obtain ⟨es, s, hrun, hwaits⟩ := exists_waiting env d hbf hproxy
    exact hall c h es s hrun hwaits
  · intro hall c' hc' es s _ hwaits
    obtain rfl : c = c' := Option.some.inj (h.symm.trans hc')
    have hpass := Queuing.enqueue_pass s.queues (env.request d c)
    refine hall ?_ ?_
    · intro hbf
      rw [hpass (Or.inl hbf)] at hwaits
      cases hwaits
    · by_contra hproxy
      have hnot : Queuing.lane (env.request d c) = none :=
        (lane_eq_none_iff _).2 (Bool.eq_false_iff.2 hproxy)
      rw [hpass (Or.inr hnot)] at hwaits
      cases hwaits

end Waiting

/-! ## Copies whose pointers lead to the heap -/

section Within

theorem mem_within {n : ℕ} {cells : List Cell} {c : Cell} (h : c ∈ within n cells) : c ∈ cells := by
  induction cells generalizing n with
  | nil => cases h
  | cons d cells ih =>
      unfold within at h
      split at h
      · rcases List.mem_cons.1 h with rfl | h
        · exact List.mem_cons_self
        · exact List.mem_cons_of_mem d (ih h)
      · cases h

theorem targets_within {n : ℕ} {cells : List Cell} {a : Addr} (h : a ∈ targets (within n cells)) :
    a ∈ targets cells := mem_targets.2 (mem_within (mem_targets.1 h))

/-- What has been copied once is copied whole. -/
theorem within_within (n : ℕ) (cells : List Cell) : within n (within n cells) = within n cells := by
  induction cells generalizing n with
  | nil => rfl
  | cons c cells ih =>
      by_cases hc : c.size ≤ n
      · have hfirst : within n (c :: cells) = c :: within (n - c.size) cells := if_pos hc
        rw [hfirst]
        show (if c.size ≤ n then c :: within (n - c.size) (within (n - c.size) cells) else []) = _
        rw [if_pos hc, ih]
      · have hfirst : within n (c :: cells) = [] := if_neg hc
        rw [hfirst]
        rfl

/-- A length that is large enough leaves nothing out. -/
theorem within_of_le {n : ℕ} {cells : List Cell} (h : sizeof cells ≤ n) :
    within n cells = cells := by
  induction cells generalizing n with
  | nil => rfl
  | cons c cells ih =>
      have hsum : c.size + sizeof cells ≤ n := h
      have hrest : sizeof cells ≤ n - c.size := by omega
      unfold within
      rw [if_pos (by omega), ih hrest]

/-- Of characters as many as there are bytes. -/
theorem within_charCells (n : ℕ) (s : Text) : within n (charCells s) = charCells (s.take n) := by
  induction s generalizing n with
  | nil =>
      rw [List.take_nil]
      rfl
  | cons c s ih =>
      cases n with
      | zero => rfl
      | succ n =>
          show (if 1 ≤ n + 1 then Cell.char c :: within n (charCells s) else []) = _
          rw [if_pos (Nat.le_add_left 1 n), ih]
          rfl

theorem targets_charCells (s : Text) : targets (charCells s) = [] := targets_map_word Word.char s

end Within

section Copying

variable {m : Mem} {c : Call} {a b : Addr} {cells : List Cell}

/-- The copy is a new block with the cells that are within its length. -/
theorem enqueuePending_eq (requestNumber : ℕ) (hbuf : c.buf = some a)
    (hcells : m.cells a = some cells) (hvoid : c.bf ≠ .void) (hlength : c.buflen ≠ 0) :
    enqueuePending requestNumber c m =
      some (⟨requestNumber, some m.here, c.buflen, c.bf⟩, m.alloc (within c.buflen cells)) := by
  unfold enqueuePending
  rw [if_pos ⟨hvoid, hlength⟩, hbuf]
  show (m.cells a).map _ = _
  rw [hcells]
  rfl

theorem ret_cells_of_frame (h : a.block ∈ m.frame) : m.ret.cells a = none := by
  show (if a.block ∈ m.frame then none else m.objects a.block).map _ = _
  rw [if_pos h]
  rfl

theorem ret_cells_of_not_frame (h : a.block ∉ m.frame) : m.ret.cells a = m.cells a := by
  show (if a.block ∈ m.frame then none else m.objects a.block).map _ = _
  rw [if_neg h]
  rfl

/-- The copy is still there when the dispatcher has returned. -/
theorem ret_cells_alloc (hfresh : m.next ∉ m.frame) :
    (m.alloc cells).ret.cells m.here = some cells := by
  rw [ret_cells_of_not_frame (m := m.alloc cells) (a := m.here) hfresh]
  show ((m.alloc cells).objects m.next).map _ = _
  rw [alloc_objects_next]
  rfl

/-- So is a block that is not in the frame. -/
theorem ret_cells_alloc_of_ne (hnew : b.block ≠ m.next) (hframe : b.block ∉ m.frame) :
    (m.alloc cells).ret.cells b = m.cells b := by
  rw [ret_cells_of_not_frame (m := m.alloc cells) hframe]
  unfold Mem.cells
  rw [alloc_objects_of_ne m hnew]

theorem contents_of_ne_zero {n : ℕ} (hlength : n ≠ 0) (hcells : m.cells a = some cells) :
    m.contents (some a) n = some (within n cells) := by
  unfold Mem.contents
  rw [if_neg hlength]
  show (m.cells a).map _ = _
  rw [hcells]
  rfl

end Copying

section Agreement

variable {m : Mem} {c : Call} {requestNumber : ℕ}

/-- The row's number is one matter and the copy is another. -/
def PayloadAgrees (m : Mem) (c : Call) : Prop := CopyAgrees c.request m c

theorem copyAgrees_iff :
    CopyAgrees requestNumber m c ↔ requestNumber = c.request ∧ PayloadAgrees m c := by
  constructor
  · rintro ⟨p, m', hcopy, hrequest, hbuflen, hsame⟩
    have hnumber : requestNumber = c.request := by
      rw [← hrequest]
      unfold enqueuePending at hcopy
      split at hcopy
      · obtain ⟨cells, -, hcopy⟩ := Option.map_eq_some_iff.1 hcopy
        cases hcopy
        rfl
      · cases hcopy
        rfl
    subst hnumber
    exact ⟨rfl, p, m', hcopy, hrequest, hbuflen, hsame⟩
  · rintro ⟨rfl, h⟩
    exact h

/-- A copy of cells whose pointers lead to blocks that stay. -/
theorem payloadAgrees_of_kept (kept : Addr → Prop) {a : Addr} {cells : List Cell}
    (hbuf : c.buf = some a) (hcells : m.cells a = some cells) (hstr : c.bf ≠ .str)
    (hvoid : c.bf ≠ .void) (hfresh : m.next ∉ m.frame)
    (hkept : ∀ b, kept b → b.block ≠ m.next ∧ b.block ∉ m.frame ∧
      ∃ xs, m.cells b = some xs ∧ ∀ d ∈ targets xs, kept d)
    (htargets : ∀ b ∈ targets cells, kept b) : PayloadAgrees m c := by
  obtain ⟨request, buf, buflen, bf⟩ := c
  obtain rfl : buf = some a := hbuf
  by_cases hlength : buflen = 0
  · -- nothing is copied, and nothing is read
    subst hlength
    refine ⟨⟨request, none, 0, bf⟩, m, if_neg fun h => h.2 rfl, rfl, rfl, ?_⟩
    have hsame : ∃ xs ys, m.contents (some a) 0 = some xs ∧
        m.ret.contents none 0 = some ys ∧ Same m.cells m.ret.cells xs ys :=
      ⟨[], [], rfl, rfl, same_nil⟩
    cases bf <;> first | exact absurd rfl hstr | exact hsame
  · refine ⟨_, _, enqueuePending_eq request rfl hcells hvoid hlength, rfl, rfl, ?_⟩
    have hstays : ∀ b, kept b → ∃ xs, m.cells b = some xs ∧
        (m.alloc (within buflen cells)).ret.cells b = some xs ∧ ∀ d ∈ targets xs, kept d := by
      intro b hb
      obtain ⟨hnew, hframe, xs, hxs, hclosed⟩ := hkept b hb
      refine ⟨xs, hxs, ?_, hclosed⟩
      rw [ret_cells_alloc_of_ne hnew hframe]
      exact hxs
    have hsame : ∃ xs ys, m.contents (some a) buflen = some xs ∧
        (m.alloc (within buflen cells)).ret.contents (some m.here) buflen = some ys ∧
        Same m.cells (m.alloc (within buflen cells)).ret.cells xs ys := by
      refine ⟨_, _, contents_of_ne_zero hlength hcells,
        contents_of_ne_zero hlength (ret_cells_alloc hfresh), ?_⟩
      rw [within_within]
      apply same_of_kept hstays
      intro b hb
      exact htargets b (targets_within hb)
    cases bf <;> first | exact absurd rfl hstr | exact hsame

/-- A copy with a pointer to the dispatcher's frame. -/
theorem not_payloadAgrees_of_frame {a b : Addr} {cells : List Cell} (hbuf : c.buf = some a)
    (hcells : m.cells a = some cells) (hraw : c.bf = .raw) (hfresh : m.next ∉ m.frame)
    (hb : b ∈ targets (within c.buflen cells)) (hframe : b.block ∈ m.frame) :
    ¬ PayloadAgrees m c := by
  obtain ⟨request, buf, buflen, bf⟩ := c
  obtain rfl : buf = some a := hbuf
  obtain rfl : bf = .raw := hraw
  -- a pointer has a size, so that the length is not zero
  have hlength : buflen ≠ 0 := by
    rintro rfl
    cases cells with
    | nil => cases hb
    | cons d cells =>
        have hsize : ¬ d.size ≤ 0 := by
          rcases d with (_ | _ | _ | _) | _ <;> exact Nat.not_succ_le_zero _
        have hnothing : within 0 (d :: cells) = [] := if_neg hsize
        rw [hnothing] at hb
        cases hb
  have hcopy := enqueuePending_eq (c := ⟨request, some a, buflen, .raw⟩) request rfl hcells
    (by simp) hlength
  rintro ⟨p, m', hcopied, -, -, xs, ys, hxs, hys, hsame⟩
  obtain ⟨rfl, rfl⟩ := Prod.mk.inj (Option.some.inj (hcopy.symm.trans hcopied))
  obtain rfl : within buflen cells = xs :=
    Option.some.inj ((contents_of_ne_zero hlength hcells).symm.trans hxs)
  obtain rfl : within buflen cells = ys := by
    rw [← within_within]
    exact Option.some.inj
      ((contents_of_ne_zero hlength (ret_cells_alloc hfresh)).symm.trans hys)
  refine not_same_of_dangling hb ?_ hsame
  exact ret_cells_of_frame hframe

end Agreement

/-! ## Strings -/

section Strings

theorem readText_nul (s : Text) (h : nul ∉ s) : readText (charCells (s ++ [nul])) = some s := by
  induction s with
  | nil => rfl
  | cons c s ih =>
      have hc : c ≠ nul := fun heq => h (heq ▸ List.mem_cons_self)
      have hs : nul ∉ s := fun hmem => h (List.mem_cons_of_mem c hmem)
      show (if c = nul then some [] else (readText (charCells (s ++ [nul]))).map (c :: ·)) = _
      rw [if_neg hc, ih hs]
      rfl

/-- Without the byte that ends it a string cannot be read. -/
theorem readText_none (s : Text) (h : nul ∉ s) : readText (charCells s) = none := by
  induction s with
  | nil => rfl
  | cons c s ih =>
      have hc : c ≠ nul := fun heq => h (heq ▸ List.mem_cons_self)
      have hs : nul ∉ s := fun hmem => h (List.mem_cons_of_mem c hmem)
      show (if c = nul then some [] else (readText (charCells s)).map (c :: ·)) = _
      rw [if_neg hc, ih hs]
      rfl

theorem nul_not_mem_cStr (s : Text) : nul ∉ cStr s := by
  intro h
  have hne := List.mem_takeWhile_imp h
  simp at hne

theorem cStr_cStr (s : Text) : cStr (cStr s) = cStr s := by
  unfold cStr
  rw [List.takeWhile_idem]

/-- The copy of a C string is the string and the byte that ends it. -/
theorem strncpy_cStr (s : Text) : strncpy ((cStr s).length + 1) (cStr s) = cStr s ++ [nul] := by
  unfold strncpy
  simp only
  rw [cStr_cStr, List.take_of_length_le (Nat.le_succ _), Nat.add_sub_cancel_left]
  rfl

/-- The bytes of a pointer's size hold the string when it is shorter than that. -/
theorem readText_within (s : Text) :
    readText (within sizeofPointer (charCells (cStr s ++ [nul]))) = some (cStr s) ↔
      (cStr s).length < sizeofPointer := by
  rw [within_charCells]
  by_cases h : (cStr s).length < sizeofPointer
  · have hall : (cStr s ++ [nul]).take sizeofPointer = cStr s ++ [nul] := by
      apply List.take_of_length_le
      rw [List.length_append]
      exact h
    rw [hall]
    exact iff_of_true (readText_nul _ (nul_not_mem_cStr s)) h
  · -- the byte that ends the string is not copied
    have hpart : (cStr s ++ [nul]).take sizeofPointer = (cStr s).take sizeofPointer :=
      List.take_append_of_le_length (Nat.le_of_not_lt h)
    have hnul : nul ∉ (cStr s).take sizeofPointer :=
      fun hmem => nul_not_mem_cStr s (List.mem_of_mem_take hmem)
    rw [hpart, readText_none _ hnul]
    exact iff_of_false (fun heq => by cases heq) h

theorem sizeofPointer_ne_zero : sizeofPointer ≠ 0 := by decide

/-- A string that is copied by the size of its pointer. -/
theorem payloadAgrees_str_iff {m : Mem} {c : Call} {a : Addr} {s : Text} (hbuf : c.buf = some a)
    (hcells : m.cells a = some (charCells (cStr s ++ [nul]))) (hbuflen : c.buflen = sizeofPointer)
    (hstr : c.bf = .str) (hfresh : m.next ∉ m.frame) :
    PayloadAgrees m c ↔ (cStr s).length < sizeofPointer := by
  obtain ⟨request, buf, buflen, bf⟩ := c
  obtain rfl : buf = some a := hbuf
  obtain rfl : buflen = sizeofPointer := hbuflen
  obtain rfl : bf = .str := hstr
  have hcopy := enqueuePending_eq (c := ⟨request, some a, sizeofPointer, .str⟩) request rfl hcells
    (by simp) sizeofPointer_ne_zero
  have hdirect : (m.cells a).bind readText = some (cStr s) := by
    rw [hcells]
    exact readText_nul _ (nul_not_mem_cStr s)
  constructor
  · rintro ⟨p, m', hcopied, -, -, text, htext, htext'⟩
    obtain ⟨rfl, rfl⟩ := Prod.mk.inj (Option.some.inj (hcopy.symm.trans hcopied))
    obtain rfl : cStr s = text := Option.some.inj (hdirect.symm.trans htext)
    change ((m.alloc _).ret.cells m.here).bind readText = _ at htext'
    rw [ret_cells_alloc hfresh] at htext'
    exact (readText_within s).1 htext'
  · intro hlength
    refine ⟨_, _, hcopy, rfl, rfl, cStr s, hdirect, ?_⟩
    show ((m.alloc _).ret.cells m.here).bind readText = _
    rw [ret_cells_alloc hfresh]
    exact (readText_within s).2 hlength

/-- A null pointer cannot be copied from. -/
theorem not_payloadAgrees_null {m : Mem} {c : Call} (hbuf : c.buf = none)
    (hbuflen : c.buflen ≠ 0) (hvoid : c.bf ≠ .void) : ¬ PayloadAgrees m c := by
  rintro ⟨p, m', hcopied, -⟩
  unfold enqueuePending at hcopied
  rw [if_pos ⟨hvoid, hbuflen⟩, hbuf] at hcopied
  cases hcopied

theorem dispatchString_agrees_iff {env : Env} {r : RilRequest} {str : Text} {c : Call}
    (h : (dispatchString env r str).call = some c) (hbf : c.bf ≠ .ignore) :
    PayloadAgrees (dispatchString env r str).mem c ↔
      cStr str ≠ [] ∧ (cStr str).length < sizeofPointer := by
  obtain ⟨p, m, hcopy, heq⟩ := dispatchString_built h
  rw [heq] at h ⊢
  cases hignore : ignoreBF env r with
  | true =>
      rw [hignore] at h
      cases h
      exact absurd rfl hbf
  | false =>
      rw [hignore] at h
      cases h
      unfold copyHidlStringToRil at hcopy
      split at hcopy
      · rename_i hempty
        cases hcopy
        have hnull := not_payloadAgrees_null (m := Mem.init)
          (c := ⟨r.code, none, sizeofPointer, .str⟩) rfl sizeofPointer_ne_zero (by simp)
        exact iff_of_false hnull fun hne => hne.1 (List.length_eq_zero_iff.1 hempty.1)
      · rename_i hempty
        split at hcopy
        · cases hcopy
          have hne : cStr str ≠ [] := fun hnil => hempty ⟨by rw [hnil]; rfl, rfl⟩
          have hcells : (Mem.init.alloc (charCells (strncpy ((cStr str).length + 1)
              (cStr str)))).cells Mem.init.here = some (charCells (cStr str ++ [nul])) := by
            show ((Mem.init.alloc _).objects Mem.init.next).map _ = _
            rw [alloc_objects_next, strncpy_cStr]
            rfl
          have hstr := payloadAgrees_str_iff
            (c := ⟨r.code, some Mem.init.here, sizeofPointer, .str⟩) rfl hcells rfl rfl
            (fun hmem => by cases hmem)
          exact hstr.trans (and_iff_right hne).symm
        · cases hcopy

end Strings

/-! ## The other payloads -/

section Payloads

variable {env : Env} {r : RilRequest} {c : Call}

theorem dispatchVoid_agrees : PayloadAgrees Mem.init ⟨r.code, none, 0, .void⟩ :=
  ⟨_, _, rfl, rfl, rfl, [], [], rfl, rfl, same_nil⟩

/-- No pointer leads on from a copied string, wherever its block is left alone. -/
theorem Copied.string_ends {m m' m'' : Mem} {ps : List Ptr} (h : Copied m m' ps) {b : Addr}
    (hb : b ∈ ps.reduceOption) (hsame : m''.objects b.block = m'.objects b.block)
    (kept : Addr → Prop) : ∃ xs, m''.cells b = some xs ∧ ∀ d ∈ targets xs, kept d := by
  obtain ⟨s, hs⟩ := h.chars b hb
  refine ⟨charCells s, ?_, ?_⟩
  · rw [← hs]
    unfold Mem.cells
    rw [hsame]
  · rw [targets_charCells]
    intro d hd
    cases hd

/-- A structure whose pointers lead to copied strings. -/
theorem payloadAgrees_push {m : Mem} {ps : List Ptr} {cells : List Cell}
    (hcopied : Copied Mem.init m ps) (htargets : ∀ b ∈ targets cells, b ∈ ps.reduceOption)
    (hbuf : c.buf = some m.here) (hstr : c.bf ≠ .str) (hvoid : c.bf ≠ .void) :
    PayloadAgrees (m.push cells) c := by
  have hframe : (m.push cells).frame = [m.next] := by
    rw [push_frame, hcopied.frame]
    rfl
  refine payloadAgrees_of_kept (fun b => b ∈ ps.reduceOption) hbuf
    (push_cells_here cells) hstr hvoid ?_ ?_ htargets
  · rw [hframe, push_next, List.mem_singleton]
    exact Nat.succ_ne_self m.next
  · intro b hb
    have hlt := (hcopied.fresh b hb).2
    refine ⟨?_, ?_, ?_⟩
    · rw [push_next]
      omega
    · rw [hframe, List.mem_singleton]
      omega
    · apply hcopied.string_ends hb
      exact push_objects_of_ne m (by omega) cells

theorem sendRecord_agrees {srcs : List Field} {record : List Ptr → List Cell} {bf : BufFmts}
    (hrecord : ∀ ps, ∀ b ∈ targets (record ps), b ∈ ps.reduceOption)
    (hstr : bf ≠ .str) (hvoid : bf ≠ .void)
    (h : (sendRecord env r srcs record bf).call = some c) :
    PayloadAgrees (sendRecord env r srcs record bf).mem c := by
  obtain ⟨ps, m, -, hcopied, heq⟩ := sendRecord_built h
  rw [heq] at h ⊢
  cases h
  exact payloadAgrees_push hcopied (hrecord ps) rfl hstr hvoid

/-- A pointer out of a list is one of its pointers. -/
theorem mem_reduceOption_of_getD {ps : List Ptr} {i : ℕ} {b : Addr}
    (h : some b = ps.getD i none) : b ∈ ps.reduceOption := by
  rw [List.reduceOption_mem_iff]
  by_cases hi : i < ps.length
  · have hget : ps.getD i none = ps[i] := by simp [hi]
    rw [h, hget]
    exact List.getElem_mem hi
  · have hnone : ps.getD i none = none := by simp [Nat.le_of_not_lt hi]
    rw [hnone] at h
    cases h

theorem targets_constructCdmaSms (sms : CdmaSmsMessage) : targets (constructCdmaSms sms) = [] := by
  have hbytes (bytes : List ℕ) : targets (bytes.map Cell.byte) = [] :=
    targets_map_word Word.byte bytes
  unfold constructCdmaSms byteArray
  simp only [targets_append, hbytes]
  exact hbytes _

theorem targets_ptrs (ps : List Ptr) : targets (ps.map Cell.ptr) = ps.reduceOption := by
  induction ps with
  | nil => rfl
  | cons p ps ih =>
      cases p with
      | none => exact ih
      | some a => exact congrArg (List.cons a) ih

/-- The array of the strings is on the heap, and so are they. -/
theorem sendStrings_agrees {srcs : List Field} (h : (sendStrings env r srcs).call = some c)
    (hbf : c.bf ≠ .ignore) : PayloadAgrees (sendStrings env r srcs).mem c := by
  obtain ⟨ps, m, -, hcopied, heq⟩ := sendStrings_built h
  rw [heq] at h ⊢
  have hframe : (m.write Mem.init.here (ps.map Cell.ptr)).frame = [] := hcopied.frame
  have harray : (m.write Mem.init.here (ps.map Cell.ptr)).cells Mem.init.here =
      some (ps.map Cell.ptr) := by
    have hwritten : (m.write Mem.init.here (ps.map Cell.ptr)).objects 0 =
        some (ps.map Cell.ptr) := hcopied.write_self (a := Mem.init.here) rfl Nat.zero_lt_one _
    show Option.map _ (Mem.objects _ 0) = _
    rw [hwritten]
    rfl
  cases hignore : ignoreBF env r with
  | true =>
      rw [hignore] at h
      cases h
      exact absurd rfl hbf
  | false =>
      rw [hignore] at h
      cases h
      refine payloadAgrees_of_kept (fun b => b ∈ ps.reduceOption) rfl harray (by simp)
        (by simp) ?_ ?_ ?_
      · rw [hframe]
        exact List.not_mem_nil
      · intro b hb
        refine ⟨Nat.ne_of_lt (hcopied.fresh b hb).2, ?_, ?_⟩
        · rw [hframe]
          exact List.not_mem_nil
        · apply hcopied.string_ends hb
          exact hcopied.write_fresh (a := Mem.init.here) hb Nat.zero_lt_one _
      · rw [targets_ptrs]
        exact fun b hb => hb

theorem dispatchInts_agrees {ints : List ℤ} (h : (dispatchInts env r ints).call = some c)
    (hbf : c.bf ≠ .ignore) : PayloadAgrees (dispatchInts env r ints).mem c := by
  unfold dispatchInts at h ⊢
  simp only at h ⊢
  split at h
  · rename_i hmalloc
    rw [if_pos hmalloc]
    have hcells : (Mem.init.alloc (ints.map Cell.int)).cells Mem.init.here =
        some (ints.map Cell.int) := by
      show ((Mem.init.alloc _).objects Mem.init.next).map _ = _
      rw [alloc_objects_next]
      rfl
    have hwords : targets (ints.map Cell.int) = [] := targets_map_word Word.int ints
    cases hignore : ignoreBF env r with
    | true =>
        rw [hignore] at h
        cases h
        exact absurd rfl hbf
    | false =>
        rw [hignore] at h
        cases h
        refine payloadAgrees_of_kept (fun _ => False) rfl hcells (by simp) (by simp) ?_ ?_ ?_
        · exact List.not_mem_nil
        · exact fun b hb => hb.elim
        · rw [hwords]
          intro b hb
          cases hb
  · cases h

theorem iccIOForApp_agrees {iccIo : IccIo} (h : (iccIOForApp env iccIo).call = some c) :
    PayloadAgrees (iccIOForApp env iccIo).mem c := by
  obtain ⟨path, m, ps, m', hpath, hcopied, -, heq⟩ := iccIOForApp_built h
  have hfirst := copyHidlStringToRil_copied env.malloc Mem.init iccIo.path false
  rw [hpath] at hfirst
  have hall : Copied Mem.init m' (path :: ps) := hfirst.cons hcopied
  rw [heq] at h ⊢
  cases h
  refine payloadAgrees_push hall ?_ rfl (by simp) (by simp)
  intro b hb
  have hmem := mem_targets.1 hb
  have hcases : some b = (if isBareMf iccIo.path then none else path) ∨ some b = ps.getD 0 none ∨
      some b = ps.getD 1 none ∨ some b = ps.getD 2 none := by
    simpa [rilSimIo] using hmem
  have hsplit : (path :: ps).reduceOption = [path].reduceOption ++ ps.reduceOption :=
    List.reduceOption_append [path] ps
  rw [hsplit, List.mem_append]
  rcases hcases with hb | hb | hb | hb
  · split at hb
    · cases hb
    · exact Or.inl (by rw [← hb]; exact List.mem_singleton_self b)
  · exact Or.inr (mem_reduceOption_of_getD hb)
  · exact Or.inr (mem_reduceOption_of_getD hb)
  · exact Or.inr (mem_reduceOption_of_getD hb)

theorem setInitialAttachApn_agrees {p : DataProfileInfo} {modemCognitive isRoaming : Bool}
    (h : (setInitialAttachApn env p modemCognitive isRoaming).call = some c)
    (hbf : c.bf ≠ .ignore) :
    PayloadAgrees (setInitialAttachApn env p modemCognitive isRoaming).mem c := by
  by_cases hversion : env.version ≤ 14
  · obtain ⟨ps, m, -, hcopied, heq⟩ := setInitialAttachApn_built hversion h
    rw [heq] at h ⊢
    cases h
    refine payloadAgrees_push hcopied ?_ rfl (by simp) (by simp)
    intro b hb
    have hmem := mem_targets.1 hb
    have hcases : some b = ps.getD 0 none ∨ some b = ps.getD 1 none ∨ some b = ps.getD 2 none ∨
        some b = ps.getD 3 none ∨ b = m.here := by
      simpa [rilInitialAttachApn] using hmem
    rw [List.reduceOption_append, List.mem_append]
    rcases hcases with hb | hb | hb | hb | rfl
    · exact Or.inl (mem_reduceOption_of_getD hb)
    · exact Or.inl (mem_reduceOption_of_getD hb)
    · exact Or.inl (mem_reduceOption_of_getD hb)
    · exact Or.inl (mem_reduceOption_of_getD hb)
    · exact Or.inr List.mem_cons_self
  · have hbranch : setInitialAttachApn env p modemCognitive isRoaming = sendRecord env _ _ _ _ :=
      if_neg hversion
    rw [hbranch] at h
    obtain ⟨ps, m, -, -, heq⟩ := sendRecord_built h
    rw [heq] at h
    cases h
    exact absurd rfl hbf

/-- The message of IMS that leads to the strings on the heap. -/
theorem dispatchImsGsmSms_agrees {message : ImsSmsMessage}
    (h : (dispatchImsGsmSms env message).call = some c) :
    PayloadAgrees (dispatchImsGsmSms env message).mem c := by
  obtain ⟨ps, m, -, hcopied, heq⟩ := dispatchImsGsmSms_built h
  rw [heq] at h ⊢
  cases h
  have hle : (1 : ℕ) ≤ m.next := hcopied.le
  have hframe : ((m.write Mem.init.here (ps.map Cell.ptr)).push
      (rilImsSmsMessage radioTech3gpp message (some Mem.init.here))).frame = [m.next] := by
    rw [push_frame, write_frame, hcopied.frame]
    rfl
  have hobjects (b : ℕ) (hb : b ≠ m.next) : ((m.write Mem.init.here (ps.map Cell.ptr)).push
      (rilImsSmsMessage radioTech3gpp message (some Mem.init.here))).objects b =
      (m.write Mem.init.here (ps.map Cell.ptr)).objects b :=
    push_objects_of_ne (m.write Mem.init.here (ps.map Cell.ptr)) hb _
  -- what is reached: the array, and from it the two strings
  refine payloadAgrees_of_kept (fun b => b = Mem.init.here ∨ b ∈ ps.reduceOption) rfl
    (push_cells_here (m := m.write Mem.init.here (ps.map Cell.ptr)) _) (by simp) (by simp) ?_ ?_ ?_
  · rw [hframe, push_next, write_next, List.mem_singleton]
    exact Nat.succ_ne_self m.next
  · rintro b (rfl | hb)
    · have hzero : (Mem.init.here).block = 0 := rfl
      have hwritten : (m.write Mem.init.here (ps.map Cell.ptr)).objects 0 =
          some (ps.map Cell.ptr) :=
        hcopied.write_self (a := Mem.init.here) rfl Nat.zero_lt_one _
      refine ⟨?_, ?_, ps.map Cell.ptr, ?_, ?_⟩
      · rw [hzero, push_next, write_next]
        exact (Nat.succ_ne_zero _).symm
      · rw [hframe, hzero, List.mem_singleton]
        omega
      · unfold Mem.cells
        rw [hzero, hobjects 0 (by omega), hwritten]
        rfl
      · rw [targets_ptrs]
        exact fun d hd => Or.inr hd
    · have hlt := (hcopied.fresh b hb).2
      refine ⟨?_, ?_, ?_⟩
      · rw [push_next, write_next]
        omega
      · rw [hframe, List.mem_singleton]
        omega
      · apply hcopied.string_ends hb
        rw [hobjects b.block (by omega)]
        exact hcopied.write_fresh (a := Mem.init.here) hb Nat.zero_lt_one _
  · intro b hb
    have hmem := mem_targets.1 hb
    have hb : b = Mem.init.here := by
      simpa [rilImsSmsMessage] using hmem
    exact Or.inl hb

/-- The frame of a dispatcher with two local variables. -/
theorem two_not_mem_frame : (2 : ℕ) ∉ [1, 0] := by decide

theorem zero_mem_frame : (0 : ℕ) ∈ [1, 0] := by decide

/-- The message of IMS that leads to the dispatcher's frame. -/
theorem dispatchImsCdmaSms_not_agrees {message : ImsSmsMessage}
    (h : (dispatchImsCdmaSms message).call = some c) :
    ¬ PayloadAgrees (dispatchImsCdmaSms message).mem c := by
  obtain ⟨cdmaMessage, heq⟩ := dispatchImsCdmaSms_built h
  rw [heq] at h ⊢
  cases h
  have hsize : 4 ≤ sizeof (constructCdmaSms cdmaMessage) := Nat.le_add_right 4 _
  have hall : within (sizeofImsHeader + sizeof (constructCdmaSms cdmaMessage))
      (rilImsSmsMessage radioTech3gpp2 message (some Mem.init.here)) =
      rilImsSmsMessage radioTech3gpp2 message (some Mem.init.here) :=
    within_of_le (Nat.add_le_add_left hsize sizeofImsHeader)
  refine not_payloadAgrees_of_frame (a := ⟨1, 0⟩) (b := Mem.init.here) rfl
    (push_cells_here (m := Mem.init.push (constructCdmaSms cdmaMessage)) _) rfl
    two_not_mem_frame ?_ zero_mem_frame
  rw [hall]
  exact List.mem_singleton_self _

/-- Configurations are in the dispatcher's frame. -/
theorem sendConfigs_agrees_iff {width : ℕ} {configs : List (List Cell)}
    (h : (sendConfigs r width configs).call = some c) :
    PayloadAgrees (sendConfigs r width configs).mem c ↔ configs = [] := by
  have hcells : (sendConfigs r width configs).mem.cells ⟨1, 0⟩ =
      some (pointersInto Mem.init.here width configs.length) :=
    push_cells_here (m := Mem.init.push configs.flatten) _
  cases h
  by_cases hconfigs : configs = []
  · subst hconfigs
    refine iff_of_true ?_ rfl
    exact payloadAgrees_of_kept (fun _ => False) rfl hcells (by simp) (by simp)
      two_not_mem_frame (fun b hb => hb.elim) fun b hb => by cases hb
  · refine iff_of_false ?_ hconfigs
    have hall : within (sizeof (pointersInto Mem.init.here width configs.length))
        (pointersInto Mem.init.here width configs.length) =
        pointersInto Mem.init.here width configs.length := within_of_le (Nat.le_refl _)
    have hpos : 0 ∈ List.range configs.length :=
      List.mem_range.2 (List.length_pos_iff.2 hconfigs)
    refine not_payloadAgrees_of_frame (a := ⟨1, 0⟩) (b := ⟨0, 0 + width * 0⟩) rfl hcells rfl
      two_not_mem_frame ?_ zero_mem_frame
    show _ ∈ targets (within (sizeof _) _)
    rw [hall, mem_targets]
    exact List.mem_map_of_mem hpos

/-- The pointers of the profiles are those of their rows. -/
theorem targets_records {record : DataProfileInfo → List Ptr → List Cell}
    (hrecord : ∀ p row, ∀ b ∈ targets (record p row), b ∈ row.reduceOption)
    {profiles : List DataProfileInfo} {rows : List (List Ptr)} {b : Addr}
    (hb : b ∈ targets (List.zipWith record profiles rows).flatten) :
    b ∈ rows.flatten.reduceOption := by
  induction profiles generalizing rows with
  | nil => cases hb
  | cons p profiles ih =>
      cases rows with
      | nil => cases hb
      | cons row rows =>
          rw [List.zipWith_cons_cons, List.flatten_cons, targets_append, List.mem_append] at hb
          rw [List.flatten_cons, List.reduceOption_append, List.mem_append]
          exact hb.imp (hrecord p row b) ih

/-- The profiles are on the heap, and so are their strings. -/
theorem sendProfiles_agrees {profiles : List DataProfileInfo} {width numfields : ℕ}
    {fields : DataProfileInfo → List Field} {record : DataProfileInfo → List Ptr → List Cell}
    {bf : BufFmts} (hrecord : ∀ p row, ∀ b ∈ targets (record p row), b ∈ row.reduceOption)
    (hstr : bf ≠ .str) (hvoid : bf ≠ .void)
    (h : (sendProfiles env profiles width numfields fields record bf).call = some c) :
    PayloadAgrees (sendProfiles env profiles width numfields fields record bf).mem c := by
  obtain ⟨rows, m, hcopied, -, heq⟩ := sendProfiles_built h
  rw [heq] at h ⊢
  cases h
  have hframe : m.frame = [] := hcopied.frame
  have hle : (2 : ℕ) ≤ m.next := hcopied.le
  generalize hcells : (List.zipWith record profiles rows).flatten = cells
  have htargets : ∀ b ∈ targets cells, b ∈ rows.flatten.reduceOption := by
    rw [← hcells]
    exact fun b hb => targets_records hrecord hb
  obtain ⟨hprofiles, hptrs⟩ := profiles_written hcopied cells
    (pointersInto ⟨0, 0⟩ width profiles.length)
  have harray : ((m.write ⟨0, 0⟩ cells).write ⟨1, 0⟩
      (pointersInto ⟨0, 0⟩ width profiles.length)).cells ⟨1, 0⟩ =
      some (pointersInto ⟨0, 0⟩ width profiles.length) := by
    show Option.map _ (Mem.objects _ 1) = _
    rw [hptrs]
    rfl
  -- what is reached: places in the array of the profiles, and from there the strings
  refine payloadAgrees_of_kept
    (fun b => b.block = 0 ∨ b ∈ rows.flatten.reduceOption) rfl harray hstr hvoid ?_ ?_ ?_
  · show m.next ∉ m.frame
    rw [hframe]
    exact List.not_mem_nil
  · rintro b (hb | hb)
    · refine ⟨?_, ?_, cells.drop b.cell, ?_, ?_⟩
      · show b.block ≠ m.next
        omega
      · show b.block ∉ m.frame
        rw [hframe]
        exact List.not_mem_nil
      · unfold Mem.cells
        rw [hb, hprofiles]
        rfl
      · intro d hd
        have hmem := List.mem_of_mem_drop (mem_targets.1 hd)
        exact Or.inr (htargets d (mem_targets.2 hmem))
    · obtain ⟨hge, hlt⟩ := hcopied.fresh b hb
      refine ⟨Nat.ne_of_lt hlt, ?_, ?_⟩
      · show b.block ∉ m.frame
        rw [hframe]
        exact List.not_mem_nil
      · have hsecond : b.block ≠ (⟨1, 0⟩ : Addr).block := Nat.ne_of_gt hge
        apply hcopied.string_ends hb
        rw [write_objects_of_ne _ hsecond]
        exact hcopied.write_fresh (a := ⟨0, 0⟩) hb Nat.zero_lt_two cells
  · intro b hb
    obtain ⟨i, -, hi⟩ := List.mem_map.1 (mem_targets.1 hb)
    cases hi
    exact Or.inl rfl

theorem dispatchCallForwardStatus_agrees {callInfo : CallForwardInfo}
    (h : (dispatchCallForwardStatus env r callInfo).call = some c) :
    PayloadAgrees (dispatchCallForwardStatus env r callInfo).mem c := by
  have hbf : ∀ b : Bool, (if b then BufFmts.ignore else .callFwst) ≠ .str ∧
      (if b then BufFmts.ignore else .callFwst) ≠ .void := by decide
  refine sendRecord_agrees ?_ (hbf _).1 (hbf _).2 h
  intro ps b hb
  have hmem := mem_targets.1 hb
  have hb : some b = ps.getD 0 none := by
    simpa [rilCallForwardInfo] using hmem
  exact mem_reduceOption_of_getD hb

theorem dispatchIccApdu_agrees {message : SimApdu}
    (h : (dispatchIccApdu env r message).call = some c) :
    PayloadAgrees (dispatchIccApdu env r message).mem c := by
  refine sendRecord_agrees ?_ (by simp) (by simp) h
  intro ps b hb
  have hmem := mem_targets.1 hb
  have hb : some b = ps.getD 0 none := by
    simpa [rilSimApdu] using hmem
  exact mem_reduceOption_of_getD hb

/-- A structure with two strings behind a number. -/
theorem mem_of_two {n : ℤ} {ps : List Ptr} {b : Addr}
    (hb : b ∈ targets [Cell.int n, .ptr (ps.getD 0 none), .ptr (ps.getD 1 none)]) :
    b ∈ ps.reduceOption := by
  have hmem := mem_targets.1 hb
  have hcases : some b = ps.getD 0 none ∨ some b = ps.getD 1 none := by
    simpa using hmem
  exact hcases.elim mem_reduceOption_of_getD mem_reduceOption_of_getD

/-- A structure without strings. -/
theorem sendRecord_agrees_nil (env : Env) {cells : List Cell} (hcells : targets cells = [])
    (h : (sendRecord env r [] (fun _ => cells) .raw).call = some c) :
    PayloadAgrees (sendRecord env r [] (fun _ => cells) .raw).mem c := by
  refine sendRecord_agrees ?_ (by simp) (by simp) h
  intro ps b hb
  rw [hcells] at hb
  cases hb

theorem setDataProfile_agrees {profiles : List DataProfileInfo} {isRoaming : Bool}
    (h : (setDataProfile env profiles isRoaming).call = some c) :
    PayloadAgrees (setDataProfile env profiles isRoaming).mem c := by
  by_cases hversion : env.version ≤ 14
  · have hbranch : setDataProfile env profiles isRoaming =
        sendProfiles env profiles 11 4 _ rilDataProfileInfo .dataProf := if_pos hversion
    rw [hbranch] at h ⊢
    refine sendProfiles_agrees ?_ (by simp) (by simp) h
    intro p row b hb
    have hmem := mem_targets.1 hb
    have hcases : some b = row.getD 0 none ∨ some b = row.getD 1 none ∨
        some b = row.getD 2 none ∨ some b = row.getD 3 none := by
      simpa [rilDataProfileInfo] using hmem
    rcases hcases with hb | hb | hb | hb <;> exact mem_reduceOption_of_getD hb
  · have hbranch : setDataProfile env profiles isRoaming =
        sendProfiles env profiles 17 6 _ rilDataProfileInfoV15 .ignore := if_neg hversion
    rw [hbranch] at h ⊢
    refine sendProfiles_agrees ?_ (by simp) (by simp) h
    intro p row b hb
    have hmem := mem_targets.1 hb
    have hcases : some b = row.getD 0 none ∨ some b = row.getD 1 none ∨
        some b = row.getD 2 none ∨ some b = row.getD 3 none ∨ some b = row.getD 4 none ∨
        some b = row.getD 5 none := by
      simpa [rilDataProfileInfoV15] using hmem
    rcases hcases with hb | hb | hb | hb | hb | hb <;> exact mem_reduceOption_of_getD hb

end Payloads

/-! ## All dispatchers -/

/-- A flat copy is enough: a string fits into the size of a pointer and is not null, and the
buffer has no pointer to the dispatcher's frame. -/
def Dispatcher.CopiesFlat : Dispatcher → Prop
  | .dispatchString _ str => cStr str ≠ [] ∧ (cStr str).length < sizeofPointer
  | .setGsmBroadcastConfig configInfo => configInfo = []
  | .setCdmaBroadcastConfig configInfo => configInfo = []
  | .sendImsSms message => message.tech ≠ radioTech3gpp2
  | _ => True

section Dispatchers

variable {env : Env} {d : Dispatcher} {c : Call}

theorem sendImsSms_agrees_iff {message : ImsSmsMessage}
    (h : (sendImsSms env message).call = some c) :
    PayloadAgrees (sendImsSms env message).mem c ↔ message.tech ≠ radioTech3gpp2 := by
  unfold sendImsSms at h ⊢
  by_cases hgsm : message.tech = radioTech3gpp
  · rw [if_pos hgsm] at h ⊢
    have hne : message.tech ≠ radioTech3gpp2 := by
      rw [hgsm]
      decide
    exact iff_of_true (dispatchImsGsmSms_agrees h) hne
  · rw [if_neg hgsm] at h ⊢
    by_cases hcdma : message.tech = radioTech3gpp2
    · rw [if_pos hcdma] at h ⊢
      exact iff_of_false (dispatchImsCdmaSms_not_agrees h) fun hne => hne hcdma
    · rw [if_neg hcdma] at h
      cases h

theorem dispatch_agrees_iff (h : (dispatch env d).call = some c) (hbf : c.bf ≠ .ignore) :
    PayloadAgrees (dispatch env d).mem c ↔ d.CopiesFlat := by
  cases d with
  | dispatchVoid r =>
      cases h
      exact iff_of_true dispatchVoid_agrees trivial
  | dispatchString r str => exact dispatchString_agrees_iff h hbf
  | dispatchStrings r allowEmpty strs => exact iff_of_true (sendStrings_agrees h hbf) trivial
  | dispatchStringVec r data => exact iff_of_true (sendStrings_agrees h hbf) trivial
  | dispatchInts r ints => exact iff_of_true (dispatchInts_agrees h hbf) trivial
  | dispatchRaw r rawBytes =>
      cases h
      exact absurd rfl hbf
  | dispatchCallForwardStatus r callInfo =>
      exact iff_of_true (dispatchCallForwardStatus_agrees h) trivial
  | dispatchIccApdu r message => exact iff_of_true (dispatchIccApdu_agrees h) trivial
  | dial dialInfo => exact absurd (dial_built h).2.1 hbf
  | iccIOForApp iccIo => exact iff_of_true (iccIOForApp_agrees h) trivial
  | writeSmsToSim smsWriteArgs =>
      exact iff_of_true (sendRecord_agrees (fun _ _ => mem_of_two) (by simp) (by simp) h) trivial
  | requestIccSimAuthentication a =>
      exact iff_of_true (sendRecord_agrees (fun _ _ => mem_of_two) (by simp) (by simp) h) trivial
  | nvReadItem itemId => exact absurd (sendRecord_call h).2 hbf
  | nvWriteItem item => exact absurd (sendRecord_call h).2 hbf
  | setUiccSubscription uiccSub => exact iff_of_true (sendRecord_agrees_nil env rfl h) trivial
  | sendCdmaSms sms =>
      exact iff_of_true (sendRecord_agrees_nil env (targets_constructCdmaSms sms) h) trivial
  | writeSmsToRuim cdmaSms =>
      exact iff_of_true
        (sendRecord_agrees_nil env (targets_constructCdmaSms cdmaSms.message) h) trivial
  | acknowledgeLastIncomingCdmaSms smsAck =>
      exact iff_of_true (sendRecord_agrees_nil env rfl h) trivial
  | setGsmBroadcastConfig configInfo =>
      exact (sendConfigs_agrees_iff h).trans List.map_eq_nil_iff
  | setCdmaBroadcastConfig configInfo =>
      exact (sendConfigs_agrees_iff h).trans List.map_eq_nil_iff
  | setInitialAttachApn p modemCognitive isRoaming =>
      exact iff_of_true (setInitialAttachApn_agrees h hbf) trivial
  | sendInitialAttachApnAgain =>
      cases h
      exact absurd rfl hbf
  | sendImsSms message => exact sendImsSms_agrees_iff h
  | setDataProfile profiles isRoaming => exact iff_of_true (setDataProfile_agrees h) trivial
  | setAllowedCarriers carriers => exact absurd (setAllowedCarriers_built h).2.1 hbf

/-- **Queued equals direct.**  In every state in which a request waits, the call that is made
for its copy is the one that would have been made at once, exactly when its row of the command
table has its number and a flat copy is enough. -/
theorem queued_as_direct_iff (env : Env) (d : Dispatcher) {c : Call}
    (h : (dispatch env d).call = some c) :
    QueuedAsDirect env d ↔
      (c.bf ≠ .ignore → isQueuing (env.commandInfo d.request).proxyId = true →
        (env.commandInfo d.request).requestNumber = d.request.code ∧ d.CopiesFlat) := by
  rw [queuedAsDirect_iff_copyAgrees h]
  refine forall_congr' fun hbf => forall_congr' fun _ => ?_
  rw [copyAgrees_iff, dispatch_request h, dispatch_agrees_iff h hbf]

end Dispatchers

/-- `getIccCardStatus` -/
theorem queued_as_direct_void :
    (dispatch plainEnv (.dispatchVoid .getSimStatus)).call =
        some ⟨RilRequest.getSimStatus.code, none, 0, .void⟩ ∧
      (QueuedAsDirect plainEnv (.dispatchVoid .getSimStatus) ↔
        (BufFmts.void ≠ .ignore →
          isQueuing (plainEnv.commandInfo .getSimStatus).proxyId = true →
            (plainEnv.commandInfo .getSimStatus).requestNumber = RilRequest.getSimStatus.code ∧
              (Dispatcher.dispatchVoid .getSimStatus).CopiesFlat)) :=
  ⟨rfl, queued_as_direct_iff plainEnv (.dispatchVoid .getSimStatus) rfl⟩

/-- `setNetworkSelectionModeManual("46001")`: of the string four bytes are copied. -/
theorem manualSelection_truncated : ¬ ∀ (env : Env) (d : Dispatcher), QueuedAsDirect env d := by
  intro hall
  have hcall : (dispatchString plainEnv .setNetworkSelectionManual "46001".toList).call =
      some ⟨RilRequest.setNetworkSelectionManual.code, some ⟨0, 0⟩, sizeofPointer, .str⟩ := by
    decide +kernel
  have hcopy := (queuedAsDirect_iff_copyAgrees
    (d := .dispatchString .setNetworkSelectionManual "46001".toList) hcall).1 (hall _ _)
    (by simp) (by decide +kernel)
  have hagrees := (copyAgrees_iff.1 hcopy).2
  exact absurd ((dispatchString_agrees_iff hcall (by simp)).1 hagrees).2 (by decide)

end Radio.Payload
