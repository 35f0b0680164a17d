/-
# Who frees the payload of a request (`ril.cpp`, `ril_service.cpp`)

In the build without channel queuing `my_enqueue` calls the vendor and then cleans the payload
up: `clearPendingBuffer` finds from the format alone what there is to free.  For the requests
whose payload has the format `FMT_IGNORE` it frees nothing, and the dispatcher frees what it
has allocated.

* `clearPendingBuffer`, `myEnqueue` : the cleaning up, undefined when it reads a block that is
  not live;
* `Settled` : each block that was allocated is freed once, through its base address;
* `payload_settled_iff` : when a payload is settled.

What `memset` writes before a block is freed is left out.
-/
import Ct07.Radio.PayloadBuilt

open AllocationLedger Ril

namespace Radio.Payload

/-! ## Cleaning up -/

/-- `memsetAndFreeStrings` of some fields of the structure at `a`. -/
def freeFields (fields : List ℕ) (a : Addr) (m : Mem) : Option Mem :=
  (fields.mapM (m.readPtr a)).map (memsetAndFreeStrings m)

/-- The pointers of an array, each one read when it is its turn. -/
def freeEach (a : Addr) : List ℕ → Mem → Option Mem
  | [], m => some m
  | i :: is, m => (freeFields [i] a m).bind (freeEach a is)

/-- The profiles of an array of pointers: four strings, and then the profile. -/
def freeProfiles (a : Addr) : List ℕ → Mem → Option Mem
  | [], m => some m
  | i :: is, m =>
      match m.readPtr a i with
      | some (some dp) => (freeFields [1, 2, 4, 5] dp m).bind fun m => freeProfiles a is (m.free dp)
      | _ => none

/-- `clearPendingBuffer`; the numbers are those of the fields that are freed. -/
def clearPendingBuffer (bf : BufFmts) (buf : Ptr) (buflen : ℕ) (m : Mem) : Option Mem :=
  match bf, buf with
  | .ints, some a => some (m.write a (List.replicate (buflen / 4) (.int 0)))
  | .str, pString => some (memsetAndFreeStrings m [pString])
  | .strs, some a => freeEach a (List.range (buflen / sizeofPointer)) m
  | .callFwst, some a => freeFields [4] a m
  | .iccApdu, some a => freeFields [6] a m
  | .simio, some a => freeFields [2, 6, 7, 8] a m
  | .wrSmsSim, some a => freeFields [2, 1] a m
  | .attchApn, some a => freeFields [0, 1, 3, 4, 5] a m
  | .imsSms, some a =>
      match m.readPtr a 3 with
      | some (some pStrings) => (freeFields [0, 1] pStrings m).map (·.free pStrings)
      | _ => none
  | .simAuth, some a => freeFields [1, 2] a m
  | .dataProf, some a => freeProfiles a (List.range (buflen / sizeofPointer)) m
  | .ignore, _ => some m
  | .void, _ => some m
  | .raw, _ => some m
  | _, none => none

/-- `my_enqueue` after the vendor's function has returned, in the build without queuing. -/
def myEnqueue (c : Call) (m : Mem) : Option Mem :=
  if c.bf = .ignore then some m else clearPendingBuffer c.bf c.buf c.buflen m

/-- The memory when the dispatcher returns. -/
def Prepared.finish (p : Prepared) : Option Mem :=
  match p.call with
  | none => some p.mem
  | some c => (myEnqueue c p.mem).map fun m => memsetAndFreeStrings m p.after

/-- Everything that was allocated is freed, once and through its base address. -/
def Settled (p : Prepared) : Prop := ∃ m ∈ p.finish, Balanced m.ledger

/-! ## Rules -/

section Rules

variable {p : Prepared} {c : Call} {m m' : Mem} {a : Addr} {o : List Addr}

/-- What is left over when the dispatcher has freed its own pointers decides. -/
theorem settled_iff (hcall : p.call = some c) (hclear : myEnqueue c p.mem = some m')
    (howns : Owns m'.ledger (p.after.reduceOption ++ o)) : Settled p ↔ o = [] := by
  have hfinish : p.finish = some (memsetAndFreeStrings m' p.after) := by
    unfold Prepared.finish
    rw [hcall]
    show (myEnqueue c p.mem).map _ = _
    rw [hclear]
    rfl
  unfold Settled
  rw [hfinish]
  simp only [Option.mem_some_iff, exists_eq_left']
  exact (owns_memsetAndFreeStrings howns).balanced_iff

/-- Nothing is settled when the cleaning up is undefined. -/
theorem not_settled_of_none (hcall : p.call = some c) (hclear : myEnqueue c p.mem = none) :
    ¬ Settled p := by
  rintro ⟨m, hm, -⟩
  unfold Prepared.finish at hm
  rw [hcall] at hm
  change (myEnqueue c p.mem).map _ = some m at hm
  rw [hclear] at hm
  cases hm

theorem readPtr_eq {cells : List Cell} (h : m.cells a = some cells) :
    m.readPtr a = ptrAt cells := by
  funext i
  unfold Mem.readPtr
  rw [h]
  rfl

theorem freeFields_eq {cells : List Cell} (h : m.cells a = some cells) {fields : List ℕ}
    {ptrs : List Ptr} (hfields : fields.mapM (ptrAt cells) = some ptrs) :
    freeFields fields a m = some (memsetAndFreeStrings m ptrs) := by
  unfold freeFields
  rw [readPtr_eq h, hfields]
  rfl

/-- The pointers of an array are freed as one list, as none of them leads back to the array. -/
theorem freeEach_eq {cells : List Cell} (h : m.objects a.block = some cells) {is : List ℕ}
    {ptrs : List Ptr} (his : is.mapM (ptrAt (cells.drop a.cell)) = some ptrs)
    (hptrs : ∀ b ∈ ptrs.reduceOption, a.block ≠ b.block) :
    freeEach a is m = some (memsetAndFreeStrings m ptrs) := by
  induction is generalizing m ptrs with
  | nil =>
      cases his
      rfl
  | cons i is ih =>
      rw [List.mapM_cons] at his
      obtain ⟨p, hp, his⟩ := Option.bind_eq_some_iff.1 his
      obtain ⟨ps, hps, his⟩ := Option.bind_eq_some_iff.1 his
      cases his
      have hcells : m.cells a = some (cells.drop a.cell) := by
        unfold Mem.cells
        rw [h]
        rfl
      have hfirst : freeFields [i] a m = some (memsetAndFreeStrings m [p]) := by
        apply freeFields_eq hcells
        rw [List.mapM_cons, hp]
        rfl
      have hsplit : (p :: ps).reduceOption = [p].reduceOption ++ ps.reduceOption :=
        List.reduceOption_append [p] ps
      rw [hsplit] at hptrs
      unfold freeEach
      rw [hfirst]
      -- the array is still there when the first pointer has been freed
      refine ih ?_ hps fun b hb => hptrs b (List.mem_append_right _ hb)
      rw [memsetAndFreeStrings_objects fun b hb => hptrs b (List.mem_append_left _ hb), h]

/-- Reading a list back by its indices. -/
theorem map_getD_range {α : Type*} (d : α) {xs : List α} {n : ℕ} (h : xs.length = n) :
    ((List.range n).map fun i => xs.getD i d) = xs := by
  apply List.ext_getElem (by simp [h])
  intro i hi hi'
  simp [hi']

theorem mapM_of_forall {α β : Type*} {f : α → Option β} {g : α → β} {xs : List α}
    (h : ∀ x ∈ xs, f x = some (g x)) : xs.mapM f = some (xs.map g) := by
  induction xs with
  | nil => rfl
  | cons x xs ih =>
      rw [List.mapM_cons, h x List.mem_cons_self, ih fun y hy => h y (List.mem_cons_of_mem x hy)]
      rfl

/-- All pointers of an array of pointers. -/
theorem mapM_ptrAt {ps : List Ptr} {n : ℕ} (h : ps.length = n) :
    (List.range n).mapM (ptrAt (ps.map Cell.ptr)) = some ps := by
  have hread : ∀ i ∈ List.range n, ptrAt (ps.map Cell.ptr) i = some (ps.getD i none) := by
    intro i hi
    have hlt : i < ps.length := by
      rw [h]
      exact List.mem_range.1 hi
    unfold ptrAt
    rw [List.getElem?_map, List.getElem?_eq_getElem hlt]
    simp [hlt]
  rw [mapM_of_forall hread, map_getD_range none h]

theorem sizeof_ptrs (ps : List Ptr) : sizeof (ps.map Cell.ptr) / sizeofPointer = ps.length := by
  have hsum : sizeof (ps.map Cell.ptr) = sizeofPointer * ps.length := by
    induction ps with
    | nil => rfl
    | cons p ps ih =>
        show sizeofPointer + sizeof (ps.map Cell.ptr) = sizeofPointer * (ps.length + 1)
        rw [ih, Nat.mul_succ, Nat.add_comm]
  rw [hsum]
  exact Nat.mul_div_cancel_left _ (by decide)

end Rules

/-! ## Structures in the dispatcher's frame -/

section Records

variable {env : Env} {r : RilRequest} {srcs : List Field} {c : Call}

/-- The payload is settled when the format frees the fields with the copied strings. -/
theorem sendRecord_settled {record : List Ptr → List Cell} {bf : BufFmts}
    (h : (sendRecord env r srcs record bf).call = some c)
    (hbf : bf ≠ .ignore → ∀ ps, ps.length = srcs.length →
      ∃ ptrs : List Ptr, ptrs.reduceOption.Perm ps.reduceOption ∧
        ∀ a n m, m.cells a = some (record ps) →
          clearPendingBuffer bf (some a) n m = some (memsetAndFreeStrings m ptrs)) :
    Settled (sendRecord env r srcs record bf) := by
  obtain ⟨ps, m, hlength, hcopied, heq⟩ := sendRecord_built h
  have howns : Owns (m.push (record ps)).ledger (ps.reduceOption ++ []) :=
    hcopied.owns [] owns_nil
  rw [heq]
  by_cases hignore : bf = .ignore
  · subst hignore
    exact (settled_iff rfl rfl howns).2 rfl
  · obtain ⟨ptrs, hperm, hclear⟩ := hbf hignore ps hlength
    have henqueue : myEnqueue ⟨r.code, some m.here, sizeof (record ps), bf⟩
        (m.push (record ps)) = some (memsetAndFreeStrings (m.push (record ps)) ptrs) := by
      unfold myEnqueue
      rw [if_neg hignore]
      exact hclear _ _ _ (push_cells_here _)
    refine (settled_iff rfl henqueue ?_).2 rfl
    rw [if_neg hignore]
    exact owns_memsetAndFreeStrings (howns.perm (hperm.symm.append_right []))

/-- A structure without strings. -/
theorem sendRecord_settled_nil {record : List Ptr → List Cell} {bf : BufFmts}
    (hbf : bf = .ignore ∨ bf = .raw) (h : (sendRecord env r [] record bf).call = some c) :
    Settled (sendRecord env r [] record bf) := by
  apply sendRecord_settled h
  intro hignore ps hps
  obtain rfl := List.length_eq_zero_iff.1 hps
  obtain rfl := hbf.resolve_left hignore
  exact ⟨[], List.Perm.refl _, fun _ _ _ _ => rfl⟩

theorem dispatchCallForwardStatus_settled {callInfo : CallForwardInfo}
    (h : (dispatchCallForwardStatus env r callInfo).call = some c) :
    Settled (dispatchCallForwardStatus env r callInfo) := by
  refine sendRecord_settled h fun hbf ps hlength => ⟨ps, List.Perm.refl _, ?_⟩
  intro a n m hcells
  have hps : [ps.getD 0 none] = ps := map_getD_range none hlength
  cases hignore : ignoreBF env r with
  | true => exact absurd (if_pos hignore) hbf
  | false =>
      apply freeFields_eq hcells
      show some [ps.getD 0 none] = some ps
      rw [hps]

theorem dispatchIccApdu_settled {message : SimApdu}
    (h : (dispatchIccApdu env r message).call = some c) :
    Settled (dispatchIccApdu env r message) := by
  refine sendRecord_settled h fun _ ps hlength => ⟨ps, List.Perm.refl _, ?_⟩
  intro a n m hcells
  have hps : [ps.getD 0 none] = ps := map_getD_range none hlength
  apply freeFields_eq hcells
  show some [ps.getD 0 none] = some ps
  rw [hps]

/-- The two strings are freed in the other order. -/
theorem writeSmsToSim_settled {smsWriteArgs : SmsWriteArgs}
    (h : (writeSmsToSim env smsWriteArgs).call = some c) :
    Settled (writeSmsToSim env smsWriteArgs) := by
  refine sendRecord_settled h fun _ ps hlength =>
    ⟨[ps.getD 1 none, ps.getD 0 none], ?_, fun a n m hcells => freeFields_eq hcells rfl⟩
  have hps : [ps.getD 0 none, ps.getD 1 none] = ps := map_getD_range none hlength
  nth_rewrite 3 [← hps]
  exact (List.Perm.swap _ _ _).filterMap id

theorem requestIccSimAuthentication_settled {a : SimAuthentication}
    (h : (requestIccSimAuthentication env a).call = some c) :
    Settled (requestIccSimAuthentication env a) := by
  refine sendRecord_settled h fun _ ps hlength => ⟨ps, List.Perm.refl _, ?_⟩
  intro b n m hcells
  have hps : [ps.getD 0 none, ps.getD 1 none] = ps := map_getD_range none hlength
  apply freeFields_eq hcells
  show some [ps.getD 0 none, ps.getD 1 none] = some ps
  rw [hps]

end Records

/-! ## The helpers -/

section Helpers

variable {env : Env} {r : RilRequest} {c : Call}

theorem dispatchString_settled {str : Text} (h : (dispatchString env r str).call = some c) :
    Settled (dispatchString env r str) := by
  obtain ⟨p, m, hcopy, heq⟩ := dispatchString_built h
  have hcopied := copyHidlStringToRil_copied env.malloc Mem.init (cStr str) false
  rw [hcopy] at hcopied
  have howns : Owns m.ledger ([p].reduceOption ++ []) := hcopied.owns [] owns_nil
  rw [heq]
  cases ignoreBF env r with
  | true => exact (settled_iff rfl rfl howns).2 rfl
  | false => exact (settled_iff rfl rfl (owns_memsetAndFreeStrings howns)).2 rfl

/-- The array of the strings is freed only when the format is ignored. -/
theorem sendStrings_settled_iff {srcs : List Field} (h : (sendStrings env r srcs).call = some c) :
    Settled (sendStrings env r srcs) ↔ ignoreBF env r = true := by
  obtain ⟨ps, m, -, hcopied, heq⟩ := sendStrings_built h
  have howns : Owns (m.write Mem.init.here (ps.map Cell.ptr)).ledger
      (ps.reduceOption ++ [Mem.init.here]) := hcopied.owns _ (owns_nil.alloc _)
  rw [heq]
  cases ignoreBF env r with
  | true =>
      refine iff_of_true ((settled_iff rfl rfl ?_).2 rfl) rfl
      show Owns _ ((ps ++ [some Mem.init.here]).reduceOption ++ [])
      rw [List.reduceOption_append, List.append_nil]
      exact howns
  | false =>
      -- `clearPendingBuffer` frees the strings, and the array is left over
      have harray : (m.write Mem.init.here (ps.map Cell.ptr)).objects 0 =
          some (ps.map Cell.ptr) :=
        hcopied.write_self (a := Mem.init.here) rfl Nat.zero_lt_one _
      have hne : ∀ b ∈ ps.reduceOption, 0 ≠ b.block := by
        intro b hb
        have hnew : (1 : ℕ) ≤ b.block := (hcopied.fresh b hb).1
        omega
      have hclear := freeEach_eq (a := Mem.init.here) harray (mapM_ptrAt (Eq.refl ps.length)) hne
      have henqueue : myEnqueue ⟨r.code, some Mem.init.here, sizeof (ps.map Cell.ptr), .strs⟩
          (m.write Mem.init.here (ps.map Cell.ptr)) =
          some (memsetAndFreeStrings (m.write Mem.init.here (ps.map Cell.ptr)) ps) := by
        rw [← hclear, ← sizeof_ptrs ps]
        rfl
      have hleft := settled_iff
        (p := ⟨m.write Mem.init.here (ps.map Cell.ptr), some _, []⟩) rfl henqueue
        (owns_memsetAndFreeStrings howns)
      exact hleft.trans (by decide)

/-- Nor are integers. -/
theorem dispatchInts_settled_iff {ints : List ℤ} (h : (dispatchInts env r ints).call = some c) :
    Settled (dispatchInts env r ints) ↔ ignoreBF env r = true := by
  unfold dispatchInts at h ⊢
  simp only at h ⊢
  split at h
  · rename_i hmalloc
    rw [if_pos hmalloc]
    have howns : Owns (Mem.init.alloc (ints.map Cell.int)).ledger [Mem.init.here] :=
      owns_nil.alloc _
    cases ignoreBF env r with
    | true => exact iff_of_true ((settled_iff rfl rfl howns).2 rfl) rfl
    | false => exact (settled_iff rfl rfl howns).trans (by decide)
  · cases h

end Helpers

/-! ## Structures of their own -/

section Methods

variable {env : Env} {c : Call}

/-- Nothing is allocated. -/
theorem settled_of_frame {m : Mem} {call : Call} (hbf : call.bf = .ignore ∨ call.bf = .raw)
    (hledger : m.ledger = []) : Settled ⟨m, some call, []⟩ := by
  have henqueue : myEnqueue call m = some m := by
    obtain ⟨request, buf, buflen, bf⟩ := call
    rcases hbf with rfl | rfl <;> rfl
  refine (settled_iff rfl henqueue ?_).2 rfl
  rw [hledger]
  exact owns_nil

/-- The format is the one that is ignored. -/
theorem settled_of_ignore {p : Prepared} {m : Mem} (hcall : p.call = some c) (hbf : c.bf = .ignore)
    (hledger : p.mem.ledger = m.ledger) (howns : Owns m.ledger (p.after.reduceOption ++ [])) :
    Settled p := by
  have henqueue : myEnqueue c p.mem = some p.mem := if_pos hbf
  rw [← hledger] at howns
  exact (settled_iff hcall henqueue howns).2 rfl

theorem dial_settled {dialInfo : Dial} (h : (dial env dialInfo).call = some c) :
    Settled (dial env dialInfo) := by
  obtain ⟨-, hbf, m, hcopied, hledger⟩ := dial_built h
  exact settled_of_ignore h hbf hledger (hcopied.owns [] owns_nil)

/-- The pointers that are passed on are freed; the copy of a path that is passed on as null is
not. -/
theorem owns_lostPath {m m' m'' : Mem} {path : Ptr} {ps : List Ptr}
    (hfirst : Copied Mem.init m [path]) (hcopied : Copied m m' ps)
    (hledger : m''.ledger = m'.ledger) (bare : Bool) :
    Owns (memsetAndFreeStrings m'' ((if bare then none else path) :: ps)).ledger
      (if bare then [path].reduceOption else []) := by
  have howns : Owns m''.ledger (ps.reduceOption ++ ([path].reduceOption ++ [])) := by
    rw [hledger]
    exact hcopied.owns _ (hfirst.owns [] owns_nil)
  rw [List.append_nil] at howns
  apply owns_memsetAndFreeStrings
  cases bare with
  | true => exact howns
  | false =>
      have hsplit : (path :: ps).reduceOption = [path].reduceOption ++ ps.reduceOption :=
        List.reduceOption_append [path] ps
      show Owns m''.ledger ((path :: ps).reduceOption ++ [])
      rw [hsplit, List.append_nil]
      exact howns.perm List.perm_append_comm

/-- A path that names the MF alone is not empty, so that it has been copied. -/
theorem path_of_isBareMf {malloc : ℕ → Bool} {src : Text} {path : Ptr} {m : Mem}
    (hbare : isBareMf src = true)
    (hpath : copyHidlStringToRil malloc Mem.init src false = (some path, m)) :
    path = some Mem.init.here ∧ malloc 0 = true := by
  unfold copyHidlStringToRil at hpath
  split at hpath
  · rename_i hempty
    rw [List.length_eq_zero_iff.1 hempty.1] at hbare
    exact absurd hbare (by decide)
  · split at hpath
    · rename_i hmalloc
      cases hpath
      exact ⟨rfl, hmalloc⟩
    · cases hpath

/-- The copy of a path that names the MF alone is lost. -/
theorem iccIOForApp_settled_iff {iccIo : IccIo} (h : (iccIOForApp env iccIo).call = some c) :
    Settled (iccIOForApp env iccIo) ↔ isBareMf iccIo.path = false := by
  obtain ⟨path, m, ps, m', hpath, hcopied, hlength, heq⟩ := iccIOForApp_built h
  have hfirst := copyHidlStringToRil_copied env.malloc Mem.init iccIo.path false
  rw [hpath] at hfirst
  change Copied Mem.init m [path] at hfirst
  rw [heq]
  generalize hlost : (if isBareMf iccIo.path = true then none else path) = path'
  have hfields : [2, 6, 7, 8].mapM (ptrAt (rilSimIo env iccIo path' ps)) = some (path' :: ps) := by
    have hps : [ps.getD 0 none, ps.getD 1 none, ps.getD 2 none] = ps := map_getD_range none hlength
    show some [path', ps.getD 0 none, ps.getD 1 none, ps.getD 2 none] = some (path' :: ps)
    rw [hps]
  have hclear : myEnqueue ⟨RilRequest.simIo.code, some m'.here,
      sizeof (rilSimIo env iccIo path' ps), .simio⟩ (m'.push (rilSimIo env iccIo path' ps)) =
      some (memsetAndFreeStrings (m'.push (rilSimIo env iccIo path' ps)) (path' :: ps)) :=
    freeFields_eq (push_cells_here _) hfields
  have hledger : (m'.push (rilSimIo env iccIo path' ps)).ledger = m'.ledger := rfl
  have howns := owns_lostPath hfirst hcopied hledger (isBareMf iccIo.path)
  rw [hlost] at howns
  apply (settled_iff rfl hclear howns).trans
  cases hbare : isBareMf iccIo.path with
  | false => exact iff_of_true rfl rfl
  | true =>
      obtain ⟨rfl, -⟩ := path_of_isBareMf hbare hpath
      decide

theorem setInitialAttachApn_settled {p : DataProfileInfo} {modemCognitive isRoaming : Bool}
    (h : (setInitialAttachApn env p modemCognitive isRoaming).call = some c) :
    Settled (setInitialAttachApn env p modemCognitive isRoaming) := by
  by_cases hversion : env.version ≤ 14
  · obtain ⟨ps, m, hlength, hcopied, heq⟩ := setInitialAttachApn_built hversion h
    have howns := hcopied.owns [] owns_nil
    have hfields : [0, 1, 3, 4, 5].mapM (ptrAt (rilInitialAttachApn p.authType ps
        (some m.here))) = some (ps ++ [some m.here]) := by
      have hps : [ps.getD 0 none, ps.getD 1 none, ps.getD 2 none, ps.getD 3 none] = ps :=
        map_getD_range none hlength
      show some ([ps.getD 0 none, ps.getD 1 none, ps.getD 2 none, ps.getD 3 none] ++
        [some m.here]) = some (ps ++ [some m.here])
      rw [hps]
    rw [heq]
    generalize m.alloc (charCells (strncpy 8 env.operatorNumeric)) = m' at howns ⊢
    have hclear : myEnqueue ⟨RilRequest.setInitialAttachApn.code, some m'.here,
        sizeof (rilInitialAttachApn p.authType ps (some m.here)) - sizeofPointer, .attchApn⟩
        (m'.push (rilInitialAttachApn p.authType ps (some m.here))) =
        some (memsetAndFreeStrings (m'.push (rilInitialAttachApn p.authType ps (some m.here)))
          (ps ++ [some m.here])) := freeFields_eq (push_cells_here _) hfields
    exact (settled_iff rfl hclear (owns_memsetAndFreeStrings howns)).2 rfl
  · have hbranch : setInitialAttachApn env p modemCognitive isRoaming = sendRecord env _ _ _ _ :=
      if_neg hversion
    rw [hbranch] at h ⊢
    exact sendRecord_settled h fun hbf => absurd rfl hbf

theorem sendInitialAttachApnAgain_settled : Settled sendInitialAttachApnAgain := by
  obtain ⟨ns, hcopied, hperm, -⟩ := fillEmpty_copied Mem.init [none, none, none, none, none]
  have howns := (hcopied.owns [] owns_nil).perm (hperm.symm.append_right [])
  exact (settled_iff rfl rfl howns).2 rfl

theorem clearPendingBuffer_imsSms {m : Mem} {a b : Addr} {cells : List Cell} {ps : List Ptr}
    (ha : m.cells a = some cells) (hb : ptrAt cells 3 = some (some b))
    (hps : m.cells b = some (ps.map Cell.ptr)) (hlength : ps.length = 2) (n : ℕ) :
    clearPendingBuffer .imsSms (some a) n m = some ((memsetAndFreeStrings m ps).free b) := by
  have hstrings : freeFields [0, 1] b m = some (memsetAndFreeStrings m ps) :=
    freeFields_eq hps (mapM_ptrAt hlength)
  have hread : m.readPtr a 3 = some (some b) := by
    rw [readPtr_eq ha]
    exact hb
  unfold clearPendingBuffer
  simp only [hread, hstrings]
  rfl

theorem dispatchImsGsmSms_settled {message : ImsSmsMessage}
    (h : (dispatchImsGsmSms env message).call = some c) :
    Settled (dispatchImsGsmSms env message) := by
  obtain ⟨ps, m, hlength, hcopied, heq⟩ := dispatchImsGsmSms_built h
  have howns : Owns m.ledger (ps.reduceOption ++ [Mem.init.here]) :=
    hcopied.owns _ (owns_nil.alloc _)
  have harray : ((m.write Mem.init.here (ps.map Cell.ptr)).push
      (rilImsSmsMessage radioTech3gpp message (some Mem.init.here))).cells Mem.init.here =
      some (ps.map Cell.ptr) := by
    have hne : 0 ≠ (m.write Mem.init.here (ps.map Cell.ptr)).next := by
      have hle : (1 : ℕ) ≤ m.next := hcopied.le
      rw [write_next]
      omega
    have hwritten : (m.write Mem.init.here (ps.map Cell.ptr)).objects 0 =
        some (ps.map Cell.ptr) :=
      hcopied.write_self (a := Mem.init.here) rfl Nat.zero_lt_one _
    show Option.map _ (Mem.objects _ 0) = _
    rw [push_objects_of_ne _ hne, hwritten]
    rfl
  rw [heq]
  generalize hm' : (m.write Mem.init.here (ps.map Cell.ptr)).push
    (rilImsSmsMessage radioTech3gpp message (some Mem.init.here)) = m' at harray ⊢
  have hmessage : m'.cells m.here =
      some (rilImsSmsMessage radioTech3gpp message (some Mem.init.here)) := by
    rw [← hm']
    exact push_cells_here (m := m.write Mem.init.here (ps.map Cell.ptr)) _
  have hledger : Owns m'.ledger (ps.reduceOption ++ [Mem.init.here]) := by
    rw [← hm']
    exact howns
  have hclear : myEnqueue ⟨RilRequest.imsSendSms.code, some m.here,
      sizeofImsHeader + sizeof (ps.map Cell.ptr), .imsSms⟩ m' =
      some ((memsetAndFreeStrings m' ps).free Mem.init.here) :=
    clearPendingBuffer_imsSms hmessage rfl harray hlength
      (sizeofImsHeader + sizeof (ps.map Cell.ptr))
  have hfreed : Owns ((memsetAndFreeStrings m' ps).free Mem.init.here).ledger [] :=
    Owns.free (owns_memsetAndFreeStrings hledger)
  exact (settled_iff rfl hclear hfreed).2 rfl

theorem sendImsSms_settled {message : ImsSmsMessage} (h : (sendImsSms env message).call = some c) :
    Settled (sendImsSms env message) := by
  unfold sendImsSms at h ⊢
  split at h
  · rename_i hgsm
    rw [if_pos hgsm]
    exact dispatchImsGsmSms_settled h
  · rename_i hgsm
    rw [if_neg hgsm]
    split at h
    · rename_i hcdma
      rw [if_pos hcdma]
      obtain ⟨cdmaMessage, heq⟩ := dispatchImsCdmaSms_built h
      rw [heq]
      exact settled_of_frame (Or.inr rfl) rfl
    · cases h

theorem setAllowedCarriers_settled {carriers : CarrierRestrictions}
    (h : (setAllowedCarriers env carriers).call = some c) :
    Settled (setAllowedCarriers env carriers) := by
  obtain ⟨-, hbf, hledger, hafter⟩ := setAllowedCarriers_built h
  apply settled_of_ignore (m := (Mem.init.alloc []).alloc []) h hbf hledger
  rw [hafter]
  exact ((owns_nil.alloc _).alloc _).perm (List.Perm.swap _ _ _)

end Methods

/-! ## Data profiles -/

section Profiles

variable {env : Env} {c : Call}

/-- The strings of all profiles, field by field, are those of one profile after the other. -/
theorem transpose_perm {k : ℕ} {rows : List (List Ptr)} (h : ∀ row ∈ rows, row.length = k) :
    ((List.range k).flatMap fun i => rows.map fun row => row.getD i none).Perm rows.flatten := by
  induction rows with
  | nil =>
      have hnil : ((List.range k).flatMap fun i =>
          ([] : List (List Ptr)).map fun row => row.getD i none) = [] :=
        List.flatMap_eq_nil_iff.2 fun _ _ => rfl
      rw [hnil]
      exact List.Perm.refl _
  | cons row rows ih =>
      have hrow := map_getD_range none (h row List.mem_cons_self)
      have hrows := ih fun r hr => h r (List.mem_cons_of_mem row hr)
      rw [List.flatten_cons]
      refine List.Perm.trans ?_ (hrows.append_left row)
      nth_rewrite 2 [← hrow]
      exact (List.map_append_flatMap_perm (List.range k) (fun i => row.getD i none)
        fun i => rows.map fun row => row.getD i none).symm

/-- Every profile has as many pointers as it has strings. -/
theorem rows_length {profiles : List DataProfileInfo} {fields : DataProfileInfo → List Field}
    {k : ℕ} (hfields : ∀ p, (fields p).length = k) {rows : List (List Ptr)}
    (h : rows.map List.length = profiles.map fun p => (fields p).length) :
    ∀ row ∈ rows, row.length = k := by
  intro row hrow
  have hmem : row.length ∈ profiles.map fun p => (fields p).length := by
    rw [← h]
    exact List.mem_map_of_mem hrow
  obtain ⟨p, -, hp⟩ := List.mem_map.1 hmem
  exact hp.symm.trans (hfields p)

/-- All strings of the profiles and both arrays are freed. -/
theorem owns_freeSetDataProfileData {m : Mem} {k : ℕ} {rows : List (List Ptr)}
    (hrows : ∀ row ∈ rows, row.length = k)
    (howns : Owns m.ledger (rows.flatten.reduceOption ++ [⟨1, 0⟩, ⟨0, 0⟩])) :
    Owns m.ledger ((freeSetDataProfileData k rows ⟨0, 0⟩ ⟨1, 0⟩).reduceOption ++ []) := by
  apply howns.perm
  unfold freeSetDataProfileData
  rw [List.append_nil, List.reduceOption_append]
  exact ((transpose_perm hrows).symm.filterMap id).append (List.Perm.swap _ _ _)

/-- The first turn of the loop: the array of the profiles is freed with the first one. -/
theorem freeProfiles_first {m : Mem} {p : DataProfileInfo} {row : List Ptr} {more ptrs : List Cell}
    (hlength : row.length = 4) (hprofiles : m.objects 0 = some (rilDataProfileInfo p row ++ more))
    (hptrs : m.objects 1 = some (.ptr (some ⟨0, 0⟩) :: ptrs)) (is : List ℕ) :
    freeProfiles ⟨1, 0⟩ (0 :: is) m =
      freeProfiles ⟨1, 0⟩ is ((memsetAndFreeStrings m row).free ⟨0, 0⟩) := by
  have hcells : m.cells ⟨0, 0⟩ = some (rilDataProfileInfo p row ++ more) := by
    show (m.objects 0).map _ = _
    rw [hprofiles]
    rfl
  have hread : m.readPtr ⟨1, 0⟩ 0 = some (some ⟨0, 0⟩) := by
    show ((m.objects 1).map _).bind _ = _
    rw [hptrs]
    rfl
  have hfields : [1, 2, 4, 5].mapM (ptrAt (rilDataProfileInfo p row ++ more)) = some row := by
    have hrow : [row.getD 0 none, row.getD 1 none, row.getD 2 none, row.getD 3 none] = row :=
      map_getD_range none hlength
    show some [row.getD 0 none, row.getD 1 none, row.getD 2 none, row.getD 3 none] = some row
    rw [hrow]
  rw [freeProfiles, hread]
  show (freeFields [1, 2, 4, 5] ⟨0, 0⟩ m).bind _ = _
  rw [freeFields_eq hcells hfields]
  rfl

/-- The second turn reads the profiles, which are not there any more. -/
theorem freeProfiles_second {m : Mem} (dp : Addr) {ptr : Cell} {ptrs : List Cell}
    (hprofiles : m.objects dp.block = none)
    (hptrs : m.objects 1 = some (ptr :: .ptr (some dp) :: ptrs)) (is : List ℕ) :
    freeProfiles ⟨1, 0⟩ (1 :: is) m = none := by
  have hread : m.readPtr ⟨1, 0⟩ 1 = some (some dp) := by
    show ((m.objects 1).map _).bind _ = _
    rw [hptrs]
    rfl
  have hcells : m.cells dp = none := by
    unfold Mem.cells
    rw [hprofiles]
    rfl
  have hfields : freeFields [1, 2, 4, 5] dp m = none := by
    unfold freeFields
    rw [List.mapM_cons]
    unfold Mem.readPtr
    rw [hcells]
    rfl
  rw [freeProfiles, hread]
  show (freeFields [1, 2, 4, 5] dp m).bind _ = none
  rw [hfields]
  rfl

theorem sizeof_pointersInto (a : Addr) (width n : ℕ) :
    sizeof (pointersInto a width n) / sizeofPointer = n := by
  have hptrs : pointersInto a width n = ((List.range n).map fun i =>
      (some ⟨a.block, a.cell + width * i⟩ : Ptr)).map Cell.ptr := by
    rw [List.map_map]
    rfl
  rw [hptrs, sizeof_ptrs, List.length_map, List.length_range]

/-- Up to version 14 no payload is settled: the array of pointers stays, the profiles stay if
there is none, and a second profile lies in a block that is freed with the first one. -/
theorem sendProfiles_not_settled {profiles : List DataProfileInfo}
    {fields : DataProfileInfo → List Field} (hfields : ∀ p, (fields p).length = 4)
    (h : (sendProfiles env profiles 11 4 fields rilDataProfileInfo .dataProf).call = some c) :
    ¬ Settled (sendProfiles env profiles 11 4 fields rilDataProfileInfo .dataProf) := by
  obtain ⟨rows, m, hcopied, hlengths, heq⟩ := sendProfiles_built h
  have howns : Owns m.ledger (rows.flatten.reduceOption ++ [⟨1, 0⟩, ⟨0, 0⟩]) :=
    hcopied.owns _ ((owns_nil.alloc _).alloc _)
  have hfresh : ∀ a ∈ rows.flatten.reduceOption, 2 ≤ a.block := fun a ha => (hcopied.fresh a ha).1
  have hrows := rows_length hfields hlengths
  have hcount : rows.length = profiles.length := by
    simpa using congrArg List.length hlengths
  rw [heq]
  generalize hm' : (m.write ⟨0, 0⟩ (List.zipWith rilDataProfileInfo profiles rows).flatten).write
    ⟨1, 0⟩ (pointersInto ⟨0, 0⟩ 11 profiles.length) = m'
  have hledger : Owns m'.ledger (rows.flatten.reduceOption ++ [⟨1, 0⟩, ⟨0, 0⟩]) := by
    rw [← hm']
    exact howns
  have hwritten := profiles_written hcopied (List.zipWith rilDataProfileInfo profiles rows).flatten
    (pointersInto ⟨0, 0⟩ 11 profiles.length)
  rw [hm'] at hwritten
  obtain ⟨hprofiles, hptrs⟩ := hwritten
  have hclear (c : Call) (hc : c = ⟨RilRequest.setDataProfile.code, some ⟨1, 0⟩,
      sizeof (pointersInto ⟨0, 0⟩ 11 profiles.length), .dataProf⟩) :
      myEnqueue c m' = freeProfiles ⟨1, 0⟩ (List.range profiles.length) m' := by
    rw [hc]
    show freeProfiles ⟨1, 0⟩ (List.range (_ / sizeofPointer)) m' = _
    rw [sizeof_pointersInto]
  cases profiles with
  | nil =>
      -- no turn of the loop: both arrays are left over
      obtain rfl := List.length_eq_zero_iff.1 hcount
      have hleft := settled_iff (p := ⟨m', some _, []⟩) rfl (hclear _ rfl) hledger
      exact fun hsettled => absurd (hleft.1 hsettled) (by decide)
  | cons p profiles =>
      obtain _ | ⟨row, rows⟩ := rows
      · cases hcount
      have hrow := hrows row List.mem_cons_self
      have hrowFresh : ∀ a ∈ row.reduceOption, 2 ≤ a.block := by
        intro a ha
        apply hfresh a
        rw [List.flatten_cons, List.reduceOption_append]
        exact List.mem_append_left _ ha
      rw [List.flatten_cons, List.reduceOption_append, List.append_assoc] at hledger
      cases profiles with
      | nil =>
          -- one turn: the array of the profiles goes with its first one, that of the pointers stays
          obtain rfl := List.length_eq_zero_iff.1 (Nat.succ.inj hcount)
          have hturn := (hclear _ rfl).trans (freeProfiles_first hrow hprofiles hptrs [])
          have hfreed : Owns ((memsetAndFreeStrings m' row).free ⟨0, 0⟩).ledger [⟨1, 0⟩] :=
            Owns.free ((owns_memsetAndFreeStrings hledger).perm (List.Perm.swap _ _ _))
          have hleft := settled_iff (p := ⟨m', some _, []⟩) rfl hturn hfreed
          exact fun hsettled => absurd (hleft.1 hsettled) (by decide)
      | cons q profiles =>
          -- the second turn reads a profile in the block that the first one has freed
          have hrange : List.range (p :: q :: profiles).length =
              0 :: 1 :: (List.range profiles.length).map (· + 2) := by
            simp [List.range_succ_eq_map]
          have harray : pointersInto ⟨0, 0⟩ 11 (p :: q :: profiles).length =
              .ptr (some ⟨0, 0⟩) :: .ptr (some ⟨0, 11⟩) ::
                ((List.range profiles.length).map (· + 2)).map fun i =>
                  .ptr (some ⟨0, 0 + 11 * i⟩) := by
            unfold pointersInto
            rw [hrange]
            rfl
          rw [harray] at hptrs
          have hdead : ((memsetAndFreeStrings m' row).free ⟨0, 0⟩).objects 0 = none :=
            free_objects_self _ ⟨0, 0⟩
          have hstill : ((memsetAndFreeStrings m' row).free ⟨0, 0⟩).objects 1 = m'.objects 1 := by
            rw [free_objects_of_ne (a := ⟨0, 0⟩) _ Nat.one_ne_zero]
            refine memsetAndFreeStrings_objects fun a ha => ?_
            have hnew := hrowFresh a ha
            omega
          refine not_settled_of_none rfl ((hclear _ rfl).trans ?_)
          rw [hrange, freeProfiles_first hrow hprofiles hptrs]
          exact freeProfiles_second ⟨0, 11⟩ hdead (hstill.trans hptrs) _

/-- From version 15 on the dispatcher frees everything itself. -/
theorem sendProfiles_settled {profiles : List DataProfileInfo} {width numfields : ℕ}
    {fields : DataProfileInfo → List Field} {record : DataProfileInfo → List Ptr → List Cell}
    (hfields : ∀ p, (fields p).length = numfields)
    (h : (sendProfiles env profiles width numfields fields record .ignore).call = some c) :
    Settled (sendProfiles env profiles width numfields fields record .ignore) := by
  obtain ⟨rows, m, hcopied, hlengths, heq⟩ := sendProfiles_built h
  have howns : Owns m.ledger (rows.flatten.reduceOption ++ [⟨1, 0⟩, ⟨0, 0⟩]) :=
    hcopied.owns _ ((owns_nil.alloc _).alloc _)
  have hrows := rows_length hfields hlengths
  rw [heq]
  have hleft : Owns _ ((freeSetDataProfileData numfields rows ⟨0, 0⟩ ⟨1, 0⟩).reduceOption ++ []) :=
    owns_freeSetDataProfileData hrows howns
  exact (settled_iff rfl rfl hleft).2 rfl

end Profiles

/-! ## All dispatchers -/

/-- The dispatcher and `clearPendingBuffer` agree on who frees what: an array of strings or of
integers has the format that is ignored, the path of a SIM file is not the MF alone, and the
profiles are those of version 15. -/
def Dispatcher.CleansUp (env : Env) : Dispatcher → Prop
  | .dispatchStrings r _ _ => ignoreBF env r = true
  | .dispatchStringVec r _ => ignoreBF env r = true
  | .dispatchInts r _ => ignoreBF env r = true
  | .iccIOForApp iccIo => isBareMf iccIo.path = false
  | .setDataProfile _ _ => 14 < env.version
  | _ => True

/-- **Payload ownership.**  Whatever a dispatcher builds, the blocks it allocates are freed once
each and through their base addresses exactly when it and `clearPendingBuffer` agree. -/
theorem payload_settled_iff (env : Env) (d : Dispatcher) {c : Call}
    (h : (dispatch env d).call = some c) : Settled (dispatch env d) ↔ d.CleansUp env := by
  cases d with
  | dispatchVoid r => exact iff_of_true ((settled_iff rfl rfl owns_nil).2 rfl) trivial
  | dispatchString r str => exact iff_of_true (dispatchString_settled h) trivial
  | dispatchStrings r allowEmpty strs => exact sendStrings_settled_iff h
  | dispatchStringVec r data => exact sendStrings_settled_iff h
  | dispatchInts r ints => exact dispatchInts_settled_iff h
  | dispatchRaw r rawBytes => exact iff_of_true (settled_of_frame (Or.inl rfl) rfl) trivial
  | dispatchCallForwardStatus r callInfo =>
      exact iff_of_true (dispatchCallForwardStatus_settled h) trivial
  | dispatchIccApdu r message => exact iff_of_true (dispatchIccApdu_settled h) trivial
  | dial dialInfo => exact iff_of_true (dial_settled h) trivial
  | iccIOForApp iccIo => exact iccIOForApp_settled_iff h
  | writeSmsToSim smsWriteArgs => exact iff_of_true (writeSmsToSim_settled h) trivial
  | requestIccSimAuthentication a =>
      exact iff_of_true (requestIccSimAuthentication_settled h) trivial
  | nvReadItem itemId => exact iff_of_true (sendRecord_settled_nil (Or.inl rfl) h) trivial
  | nvWriteItem item =>
      exact iff_of_true (sendRecord_settled h fun hbf => absurd rfl hbf) trivial
  | setUiccSubscription uiccSub =>
      exact iff_of_true (sendRecord_settled_nil (Or.inr rfl) h) trivial
  | sendCdmaSms sms => exact iff_of_true (sendRecord_settled_nil (Or.inr rfl) h) trivial
  | writeSmsToRuim cdmaSms => exact iff_of_true (sendRecord_settled_nil (Or.inr rfl) h) trivial
  | acknowledgeLastIncomingCdmaSms smsAck =>
      exact iff_of_true (sendRecord_settled_nil (Or.inr rfl) h) trivial
  | setGsmBroadcastConfig configInfo =>
      exact iff_of_true (settled_of_frame (Or.inr rfl) rfl) trivial
  | setCdmaBroadcastConfig configInfo =>
      exact iff_of_true (settled_of_frame (Or.inr rfl) rfl) trivial
  | setInitialAttachApn p modemCognitive isRoaming =>
      exact iff_of_true (setInitialAttachApn_settled h) trivial
  | sendInitialAttachApnAgain => exact iff_of_true sendInitialAttachApnAgain_settled trivial
  | sendImsSms message => exact iff_of_true (sendImsSms_settled h) trivial
  | setDataProfile profiles isRoaming =>
      by_cases hversion : env.version ≤ 14
      · have hbranch : dispatch env (.setDataProfile profiles isRoaming) =
            sendProfiles env profiles 11 4 _ rilDataProfileInfo .dataProf := if_pos hversion
        rw [hbranch] at h ⊢
        exact iff_of_false (sendProfiles_not_settled (fun _ => rfl) h) (Int.not_lt.2 hversion)
      · have hbranch : dispatch env (.setDataProfile profiles isRoaming) =
            sendProfiles env profiles 17 6 _ rilDataProfileInfoV15 .ignore := if_neg hversion
        rw [hbranch] at h ⊢
        exact iff_of_true (sendProfiles_settled (fun _ => rfl) h) (Int.not_le.1 hversion)
  | setAllowedCarriers carriers => exact iff_of_true (setAllowedCarriers_settled h) trivial

/-- `getIccCardStatus` -/
theorem payload_settled_void :
    (dispatch plainEnv (.dispatchVoid .getSimStatus)).call =
        some ⟨RilRequest.getSimStatus.code, none, 0, .void⟩ ∧
      (Settled (dispatch plainEnv (.dispatchVoid .getSimStatus)) ↔
        (Dispatcher.dispatchVoid .getSimStatus).CleansUp plainEnv) :=
  ⟨rfl, payload_settled_iff plainEnv (.dispatchVoid .getSimStatus) rfl⟩

/-- `setRadioPower(true)`: the array of the one integer is not freed. -/
theorem radioPower_leaks : ¬ ∀ (env : Env) (d : Dispatcher) (c : Call),
    (dispatch env d).call = some c → Settled (dispatch env d) := by
  intro hall
  have hsettled := hall plainEnv (.dispatchInts .radioPower [1])
    ⟨RilRequest.radioPower.code, some ⟨0, 0⟩, 4, .ints⟩ (by decide +kernel)
  have hcall : (dispatchInts plainEnv .radioPower [1]).call =
      some ⟨RilRequest.radioPower.code, some ⟨0, 0⟩, 4, .ints⟩ := by decide +kernel
  have hignore := (dispatchInts_settled_iff hcall).1 hsettled
  exact absurd hignore (by decide +kernel)

end Radio.Payload
