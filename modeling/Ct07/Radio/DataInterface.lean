/-
# The interface of a data call (`ril_service.cpp`)

Nobody else brings the interface of a new data call up or sets the address that the modem has
granted, so `setupDataCallResponse` does both, with a few system calls that may each fail.

* `mtkIfaceUp`, `mtkIfaceAddr` : the system calls;
* `setupDataCallResponse` : the interfaces after a response;
* `interfaces_configured` : the interfaces after any responses.

The kernel changes an interface in these calls only.  `inet_pton` is a parameter: of the texts
that it accepts only the greatest length matters, as the address goes through an array.
-/
import Ct07.Lib.LatestValue
import Ct07.Radio.DataCallResult

open LatestValue

namespace Radio.DataInterface

open DataCallResult

/-! ## Model -/

/-- An interface as the system calls see it. -/
structure Interface where
  up : Bool
  running : Bool
  address : Option ℕ
  netmask : Option ℕ
  mtu : ℤ
  deriving DecidableEq

/-- The interfaces that exist. -/
abbrev Net := Text → Option Interface

/-- Which system calls of the handler succeed, if the interface is there. -/
structure Calls where
  /-- `socket` in `mtkIfaceUp` -/
  upSocket : Bool
  /-- `SIOCGIFFLAGS` -/
  getFlags : Bool
  /-- `SIOCSIFFLAGS` -/
  setFlags : Bool
  /-- `socket` in `mtkIfaceAddr` -/
  addrSocket : Bool
  /-- `SIOCSIFADDR` -/
  setAddr : Bool
  /-- `SIOCSIFNETMASK` -/
  setNetmask : Bool
  /-- `SIOCSIFMTU` -/
  setMtu : Bool

/-- `strncpy` to `ifr_name`, which is zero before. -/
def ifrName (ifname : Text) : Text := ifname.take (ifnamsiz - 1)

/-- An `ioctl` that changes the interface in `ifr_name`. -/
def ioctl (ok : Bool) (ifname : Text) (f : Interface → Interface) (net : Net) : Net :=
  if ok then Function.update net (ifrName ifname) ((net (ifrName ifname)).map f) else net

/-- `mtkIfaceUp` -/
def mtkIfaceUp (c : Calls) (ifname : Text) (net : Net) : Net :=
  if ifname = [] ∨ c.upSocket = false ∨ c.getFlags = false then net
  else
    match net (ifrName ifname) with
    | none => net
    | some i =>
        if i.up then net
        else ioctl c.setFlags ifname (fun i => { i with up := true, running := true }) net

/-- The loop that copies the first address, into the room that is left. -/
def copyFirst : ℕ → Text → Text
  | 0, _ => []
  | _ + 1, [] => []
  | room + 1, c :: addresses =>
      if c = ' ' ∨ c = '/' then [] else c :: copyFirst room addresses

/-- `255.255.255.255` -/
def hostMask : ℕ := 0xffffffff

/-- `mtkIfaceAddr`; the array `first` has 64 bytes. -/
def mtkIfaceAddr (inetPton : Text → Option ℕ) (c : Calls) (ifname addresses : Text) (mtu : ℤ)
    (net : Net) : Net :=
  if ifname = [] ∨ addresses = [] then net
  else
    let first := copyFirst 63 addresses
    if first = [] ∨ c.addrSocket = false then net
    else
      match inetPton first with
      | none => net
      | some address =>
          let net := ioctl c.setAddr ifname (fun i => { i with address := some address }) net
          let net := ioctl c.setNetmask ifname (fun i => { i with netmask := some hostMask }) net
          if 0 < mtu then ioctl c.setMtu ifname (fun i => { i with mtu := mtu }) net else net

/-- `access(path, F_OK)`: the directory of an interface is there when the interface is. -/
def access (net : Net) (path : Text) : Bool :=
  let directory := "/sys/class/net/".toList
  directory.isPrefixOf path && (net (path.drop directory.length)).isSome

/-- A response of the vendor, and the system calls for it. -/
structure SetupResponse where
  connected : Bool
  responseType : ℤ
  serial : ℤ
  e : ℤ
  response : Option RilDataCallResponse
  responseLen : ℕ
  calls : Calls

/-- What the client is told. -/
def SetupResponse.told (x : SetupResponse) (net : Net) :
    Option (Callback RadioResponseInfo Result Block) :=
  DataCallResult.setupDataCallResponse (access net) x.connected x.responseType x.serial x.e
    x.response x.responseLen

/-- `radio::setupDataCallResponse`: the interfaces behind it. -/
def setupDataCallResponse (inetPton : Text → Option ℕ) (net : Net) (x : SetupResponse) : Net :=
  match x.connected, x.response with
  | true, some r =>
    if x.responseLen < sizeofRecord then net
    else
      let mapped := ccmni r.cid
      if access net (sysClassNet 80 mapped) then
        let net := mtkIfaceUp x.calls mapped net
        let mtu := if r.mtu > 0 then r.mtu else 1500
        mtkIfaceAddr inetPton x.calls mapped (r.addresses.getD []) mtu net
      else net
  | _, _ => net

/-! ## What is proved -/

/-- What is known of `inet_pton`: an address in dotted-decimal form is not empty, and is at most
15 characters long. -/
structure DottedDecimal (inetPton : Text → Option ℕ) : Prop where
  empty : inetPton [] = none
  short : ∀ s a, inetPton s = some a → s.length ≤ 15

/-- The record that is accepted. -/
def SetupResponse.accepted (x : SetupResponse) : Option RilDataCallResponse :=
  if x.connected = true ∧ sizeofRecord ≤ x.responseLen then x.response else none

/-- The text before the first blank or slash. -/
def firstField (addresses : Text) : Text := addresses.takeWhile fun c => ¬ (c = ' ' ∨ c = '/')

section Effects

variable (inetPton : Text → Option ℕ) (x : SetupResponse) (r : RilDataCallResponse)

/-- The address that the modem has granted. -/
def granted : Option ℕ := inetPton (firstField (r.addresses.getD []))

def upSet (_ : RilDataCallResponse) : Option Unit :=
  if x.calls.upSocket && x.calls.getFlags && x.calls.setFlags then some () else none

def addressSet : Option ℕ :=
  if x.calls.addrSocket && x.calls.setAddr then granted inetPton r else none

def netmaskSet : Option ℕ :=
  if x.calls.addrSocket && x.calls.setNetmask then (granted inetPton r).map fun _ => hostMask
  else none

def mtuSet : Option ℤ :=
  if x.calls.addrSocket && x.calls.setMtu then
    (granted inetPton r).map fun _ => if r.mtu > 0 then r.mtu else 1500
  else none

end Effects

/-- A response writes to the interface of its call, if that exists. -/
def write {α : Type} (net : Net) (set : SetupResponse → RilDataCallResponse → Option α)
    (x : SetupResponse) : Option (Text × α) :=
  x.accepted.bind fun r =>
    if (net (ccmni r.cid)).isSome then (set x r).map fun a => (ccmni r.cid, a) else none

/-- What the interfaces have in a field. -/
def cells {α : Type} (f : Interface → Option α) (net : Net) (name : Text) : Option α :=
  (net name).bind f

/-- `up` as a field. -/
def Interface.upField (i : Interface) : Option Unit := if i.up then some () else none

/-! ## The first address -/

theorem copyFirst_eq (room : ℕ) (s : Text) : copyFirst room s = (firstField s).take room := by
  induction room generalizing s with
  | zero => simp [copyFirst]
  | succ room ih =>
      cases s with
      | nil => rfl
      | cons c s =>
          unfold firstField at ih ⊢
          by_cases hc : c = ' ' ∨ c = '/'
          · rw [copyFirst, if_pos hc, List.takeWhile_cons_of_neg (by simp [hc])]
            rfl
          · rw [copyFirst, if_neg hc, List.takeWhile_cons_of_pos (by simpa [not_or] using hc),
              List.take_succ_cons, ih]

/-- An address that does not fit into the array is not accepted, whether it is cut or not. -/
theorem inetPton_copyFirst {inetPton : Text → Option ℕ} (h : DottedDecimal inetPton) (s : Text) :
    inetPton (copyFirst 63 s) = inetPton (firstField s) := by
  have hlong : ∀ t : Text, 15 < t.length → inetPton t = none := by
    intro t ht
    cases ha : inetPton t with
    | none => rfl
    | some a => exact absurd (h.short t a ha) (Nat.not_le_of_gt ht)
  rw [copyFirst_eq]
  by_cases hlen : (firstField s).length ≤ 63
  · rw [List.take_of_length_le hlen]
  · have hcut : ((firstField s).take 63).length = 63 := by
      rw [List.length_take]
      omega
    rw [hlong _ (by omega), hlong _ (by omega)]

/-! ## The interface -/

section Interface

variable {inetPton : Text → Option ℕ} {net : Net} {i : Interface} {name : Text}

theorem ccmni_ne_nil (cid : ℤ) : ccmni cid ≠ [] := by
  unfold ccmni snprintf
  simp [ifnamsiz]

theorem ifrName_ccmni (cid : ℤ) : ifrName (ccmni cid) = ccmni cid :=
  List.take_of_length_le (ccmni_length cid)

theorem access_sysClassNet (hname : name.length ≤ 15) :
    access net (sysClassNet 80 name) = (net name).isSome := by
  have hdirectory : "/sys/class/net/".toList.length = 15 := rfl
  have hpath : sysClassNet 80 name = "/sys/class/net/".toList ++ name := by
    unfold sysClassNet snprintf
    rw [List.take_of_length_le]
    rw [List.length_append, hdirectory]
    omega
  unfold access
  rw [hpath]
  simp only [List.drop_left]
  rw [List.isPrefixOf_iff_prefix.2 (List.prefix_append _ name), Bool.true_and]

theorem ioctl_eq (hname : ifrName name = name) (hi : net name = some i) (ok : Bool)
    (f : Interface → Interface) :
    ioctl ok name f net = Function.update net name (some (if ok then f i else i)) := by
  unfold ioctl
  rw [hname, hi]
  cases ok with
  | false =>
      have hsame : Function.update net name (some i) = net := by
        rw [← hi]
        exact Function.update_eq_self name net
      exact hsame.symm
  | true => rfl

/-- What `mtkIfaceUp` makes of the interface. -/
def Interface.broughtUp (i : Interface) (c : Calls) : Interface :=
  if !i.up && (c.upSocket && c.getFlags && c.setFlags) then { i with up := true, running := true }
  else i

theorem mtkIfaceUp_eq (hne : name ≠ []) (hname : ifrName name = name) (hi : net name = some i)
    (c : Calls) : mtkIfaceUp c name net = Function.update net name (some (i.broughtUp c)) := by
  have hsame : Function.update net name (some i) = net := by
    rw [← hi]
    exact Function.update_eq_self name net
  unfold mtkIfaceUp Interface.broughtUp
  rw [hname, hi]
  cases hsocket : c.upSocket with
  | false => simp [hsame]
  | true =>
      cases hflags : c.getFlags with
      | false => simp [hsame]
      | true =>
          cases hup : i.up with
          | true => simp [hne, hup, hsame]
          | false => simp [hne, hup, ioctl_eq hname hi]

/-- What `mtkIfaceAddr` makes of the interface, for an address that was granted. -/
def Interface.addressed (i : Interface) (c : Calls) (address : ℕ) (mtu : ℤ) : Interface where
  up := i.up
  running := i.running
  address := if c.setAddr then some address else i.address
  netmask := if c.setNetmask then some hostMask else i.netmask
  mtu := if c.setMtu then mtu else i.mtu

theorem mtkIfaceAddr_eq (h : DottedDecimal inetPton) (hne : name ≠ [])
    (hname : ifrName name = name) (hi : net name = some i) (c : Calls) (addresses : Text)
    {mtu : ℤ} (hmtu : 0 < mtu) :
    mtkIfaceAddr inetPton c name addresses mtu net = Function.update net name (some
      (if c.addrSocket then
        ((inetPton (firstField addresses)).map (i.addressed c · mtu)).getD i
      else i)) := by
  have hsame : Function.update net name (some i) = net := by
    rw [← hi]
    exact Function.update_eq_self name net
  unfold mtkIfaceAddr
  cases hsocket : c.addrSocket with
  | false => simp [hsame]
  | true =>
      have hparsed := inetPton_copyFirst h addresses
      cases hgranted : inetPton (firstField addresses) with
      | none =>
          rw [hgranted] at hparsed
          simp [hparsed, hsame]
      | some a =>
          rw [hgranted] at hparsed
          -- no address is empty
          have hfirst : copyFirst 63 addresses ≠ [] := by
            intro hnil
            rw [hnil, h.empty] at hparsed
            exact nomatch hparsed
          have haddresses : addresses ≠ [] := by
            rintro rfl
            exact hfirst rfl
          have hself : ∀ (n : Net) (j : Interface), Function.update n name (some j) name = some j :=
            fun n j => Function.update_self name (some j) n
          simp only [hne, haddresses, or_self, if_false, hfirst, Bool.true_eq_false, hparsed,
            ioctl_eq hname hi, ioctl_eq hname (hself _ _), Function.update_idem, if_pos hmtu,
            if_true, Option.map_some, Option.getD_some]
          unfold Interface.addressed
          cases c.setAddr <;> cases c.setNetmask <;> cases c.setMtu <;> rfl

end Interface

/-! ## One response -/

section Response

variable {inetPton : Text → Option ℕ} {net : Net} {x : SetupResponse}

/-- The interface after a response for it. -/
def Interface.configured (inetPton : Text → Option ℕ) (x : SetupResponse)
    (r : RilDataCallResponse) (i : Interface) : Interface :=
  let i := i.broughtUp x.calls
  if x.calls.addrSocket then
    ((granted inetPton r).map (i.addressed x.calls · (if r.mtu > 0 then r.mtu else 1500))).getD i
  else i

/-- A response changes the interface of its call, if it is accepted and the interface exists. -/
theorem setupDataCallResponse_eq (h : DottedDecimal inetPton) :
    setupDataCallResponse inetPton net x =
      match x.accepted with
      | none => net
      | some r =>
          match net (ccmni r.cid) with
          | none => net
          | some i => Function.update net (ccmni r.cid) (some (i.configured inetPton x r)) := by
  unfold setupDataCallResponse SetupResponse.accepted
  cases x.connected with
  | false => rfl
  | true =>
      cases x.response with
      | none => simp
      | some r =>
          by_cases hlen : x.responseLen < sizeofRecord
          · have hnot : ¬ sizeofRecord ≤ x.responseLen := Nat.not_le_of_gt hlen
            simp [hlen, hnot]
          · have hle : sizeofRecord ≤ x.responseLen := Nat.le_of_not_lt hlen
            simp only [if_neg hlen, hle, and_self, if_true, access_sysClassNet (ccmni_length r.cid)]
            cases hi : net (ccmni r.cid) with
            | none => rfl
            | some i =>
                have hmtu : (0 : ℤ) < if r.mtu > 0 then r.mtu else 1500 := by
                  split <;> omega
                simp only [Option.isSome_some, if_true]
                rw [mtkIfaceUp_eq (ccmni_ne_nil _) (ifrName_ccmni _) hi,
                  mtkIfaceAddr_eq h (ccmni_ne_nil _) (ifrName_ccmni _)
                    (Function.update_self _ _ _) _ _ hmtu, Function.update_idem]
                rfl

/-- A response does not make an interface, and does not remove one. -/
theorem setupDataCallResponse_exists (h : DottedDecimal inetPton) (name : Text) :
    (setupDataCallResponse inetPton net x name).isSome = (net name).isSome := by
  rw [setupDataCallResponse_eq h]
  cases x.accepted with
  | none => rfl
  | some r =>
      simp only
      cases hi : net (ccmni r.cid) with
      | none => rfl
      | some i =>
          by_cases hname : name = ccmni r.cid
          · subst hname
            simp [hi]
          · simp [Function.update_of_ne hname]

/-- The interfaces of other calls are left alone. -/
theorem setupDataCallResponse_of_ne (h : DottedDecimal inetPton) {name : Text}
    (hname : ∀ r ∈ x.accepted, ccmni r.cid ≠ name) :
    setupDataCallResponse inetPton net x name = net name := by
  rw [setupDataCallResponse_eq h]
  cases haccepted : x.accepted with
  | none => rfl
  | some r =>
      simp only
      cases net (ccmni r.cid) with
      | none => rfl
      | some i => exact Function.update_of_ne (hname r haccepted).symm _ _

/-- What a response writes to the fields. -/
theorem cells_setupDataCallResponse (h : DottedDecimal inetPton) {α : Type} {f : Interface → Option α}
    {set : SetupResponse → RilDataCallResponse → Option α}
    (hf : ∀ r i, f (i.configured inetPton x r) = (set x r).or (f i)) :
    cells f (setupDataCallResponse inetPton net x) = store (write net set) (cells f net) x := by
  funext name
  rw [setupDataCallResponse_eq h, store_apply]
  unfold written write
  cases x.accepted with
  | none => rfl
  | some r =>
      cases hi : net (ccmni r.cid) with
      | none => simp [hi]
      | some i =>
          by_cases hname : ccmni r.cid = name
          · subst hname
            simp only [cells, Function.update_self, Option.bind_some, hf, hi, Option.isSome_some,
              if_true]
            cases set x r <;> simp
          · have hne : name ≠ ccmni r.cid := fun heq => hname heq.symm
            simp only [cells, Function.update_of_ne hne, Option.bind_some, hi, Option.isSome_some,
              if_true]
            cases set x r <;> simp [hname]

theorem upField_configured (r : RilDataCallResponse) (i : Interface) :
    (i.configured inetPton x r).upField = (upSet x r).or i.upField := by
  have hup : (i.configured inetPton x r).up = (i.broughtUp x.calls).up := by
    unfold Interface.configured
    simp only
    split
    · cases granted inetPton r <;> rfl
    · rfl
  unfold Interface.upField upSet
  rw [hup]
  unfold Interface.broughtUp
  cases hi : i.up <;> cases x.calls.upSocket && x.calls.getFlags && x.calls.setFlags <;> simp [hi]

/-- A field that is written when an address is granted and a system call goes through. -/
theorem field_configured {α : Type} {f : Interface → Option α} {r : RilDataCallResponse}
    {i : Interface} {ok : Bool} {v : ℕ → α} (hup : f (i.broughtUp x.calls) = f i)
    (haddressed : ∀ j a mtu, mtu = (if r.mtu > 0 then r.mtu else 1500) →
      f (Interface.addressed j x.calls a mtu) = if ok then some (v a) else f j) :
    f (i.configured inetPton x r) =
      (if x.calls.addrSocket && ok then (granted inetPton r).map v else none).or (f i) := by
  unfold Interface.configured
  cases x.calls.addrSocket with
  | false => exact hup
  | true =>
      cases granted inetPton r with
      | none => cases ok <;> exact hup
      | some a =>
          show f (Interface.addressed _ _ a _) = _
          rw [haddressed _ a _ rfl, hup]
          cases ok <;> rfl

/-- Only the flags change when an interface is brought up. -/
theorem broughtUp_eq (i : Interface) (c : Calls) : ∃ up running,
    i.broughtUp c = { i with up := up, running := running } := by
  unfold Interface.broughtUp
  split
  · exact ⟨true, true, rfl⟩
  · exact ⟨i.up, i.running, rfl⟩

theorem address_configured (r : RilDataCallResponse) (i : Interface) :
    (i.configured inetPton x r).address = (addressSet inetPton x r).or i.address := by
  obtain ⟨up, running, hup⟩ := broughtUp_eq i x.calls
  rw [field_configured (f := Interface.address) (v := id) (by rw [hup]) fun _ _ _ _ => rfl,
    Option.map_id]
  rfl

theorem netmask_configured (r : RilDataCallResponse) (i : Interface) :
    (i.configured inetPton x r).netmask = (netmaskSet inetPton x r).or i.netmask := by
  obtain ⟨up, running, hup⟩ := broughtUp_eq i x.calls
  exact field_configured (f := Interface.netmask) (v := fun _ => hostMask) (by rw [hup])
    fun _ _ _ _ => rfl

theorem mtu_configured (r : RilDataCallResponse) (i : Interface) :
    some (i.configured inetPton x r).mtu = (mtuSet inetPton x r).or (some i.mtu) := by
  obtain ⟨up, running, hup⟩ := broughtUp_eq i x.calls
  refine field_configured (f := fun i => some i.mtu)
    (v := fun _ => if r.mtu > 0 then r.mtu else 1500) (by rw [hup]) ?_
  rintro j a mtu rfl
  unfold Interface.addressed
  cases x.calls.setMtu <;> rfl

end Response

/-! ## Main result -/

section Run

variable {inetPton : Text → Option ℕ} {net : Net}

/-- What a field of the interfaces is after some responses: what was written to it last, or what
it was before. -/
theorem cells_foldl (h : DottedDecimal inetPton) {α : Type} {f : Interface → Option α}
    {set : SetupResponse → RilDataCallResponse → Option α}
    (hf : ∀ x r i, f (Interface.configured inetPton x r i) = (set x r).or (f i))
    (xs : List SetupResponse) (name : Text) :
    cells f (xs.foldl (setupDataCallResponse inetPton) net) name =
      (latest (write net set) name xs).or (cells f net name) := by
  refine foldl_cells (I := fun n : Net => ∀ k, (n k).isSome = (net k).isSome) ?_ ?_
    (fun _ => rfl) xs
  · intro n x hn k
    rw [setupDataCallResponse_exists h, hn]
  · intro n x hn
    have hwrite : write n set = write net set := by
      funext x
      unfold write
      simp only [hn]
    rw [cells_setupDataCallResponse h (hf x), hwrite]

/-- The interfaces `net` have become `net'` by responses.  An interface is up if it was, or if a
response has brought it up; its address is the first one of the last response for it that
granted one and whose system calls went through; its netmask and MTU are those of such responses
too.  Nothing else is changed. -/
structure Configured (inetPton : Text → Option ℕ) (net : Net) (xs : List SetupResponse)
    (net' : Net) : Prop where
  same : ∀ name, (net' name).isSome = (net name).isSome
  up : ∀ name, cells Interface.upField net' name =
    (latest (write net upSet) name xs).or (cells Interface.upField net name)
  address : ∀ name, cells Interface.address net' name =
    (latest (write net (addressSet inetPton)) name xs).or (cells Interface.address net name)
  netmask : ∀ name, cells Interface.netmask net' name =
    (latest (write net (netmaskSet inetPton)) name xs).or (cells Interface.netmask net name)
  mtu : ∀ name, (net' name).map Interface.mtu =
    (latest (write net (mtuSet inetPton)) name xs).or ((net name).map Interface.mtu)
  others : ∀ name, (∀ x ∈ xs, ∀ r ∈ x.accepted, ccmni r.cid ≠ name) → net' name = net name

/-- The client is told the interface that is configured for it. -/
def Named (net : Net) (x : SetupResponse) : Prop :=
  ∀ r ∈ x.accepted, (net (ccmni r.cid)).isSome →
    ∃ c, x.told net = some c ∧ c.result.texts.ifname = ccmni r.cid

theorem named (net : Net) (x : SetupResponse) : Named net x := by
  intro r haccepted hexists
  unfold SetupResponse.accepted at haccepted
  rw [Option.mem_def, Option.ite_none_right_eq_some] at haccepted
  obtain ⟨⟨hconnected, hlen⟩, hresponse⟩ := haccepted
  unfold SetupResponse.told
  rw [hconnected, hresponse, setupDataCallResponse_accepted _ _ _ _ _ hlen]
  refine ⟨_, rfl, ?_⟩
  rw [nameByCid_convert_texts, shownBySetup, access_sysClassNet (ccmni_length r.cid), hexists]
  rfl

/-- The responses keep what each of them keeps. -/
theorem foldl_keeps {P : Net → Prop} (xs : List SetupResponse)
    (hstep : ∀ x ∈ xs, ∀ n, P n → P (setupDataCallResponse inetPton n x)) (hnet : P net) :
    P (xs.foldl (setupDataCallResponse inetPton) net) := by
  induction xs generalizing net with
  | nil => exact hnet
  | cons x xs ih =>
      apply ih
      · exact fun y hy => hstep y (List.mem_cons_of_mem x hy)
      · exact hstep x List.mem_cons_self net hnet

end Run

/-- An `inet_pton` that knows two addresses. -/
def knownAddress (s : Text) : Option ℕ :=
  if s = "10.0.0.1".toList then some 0x0a000001
  else if s = "255.255.255.255".toList then some 0xffffffff
  else none

/-- A call with an address that has a length, and one that is granted an IPv6 address only. -/
def twoCalls : List SetupResponse :=
  let calls : Calls := ⟨true, true, true, true, true, true, true⟩
  let call (cid : ℤ) (addresses : String) : RilDataCallResponse :=
    ⟨0, -1, cid, 2, none, none, some addresses.toList, none, none, none, 0⟩
  [⟨true, 0, 1, 0, some (call 0 "10.0.0.1/32 10.0.0.2"), 44, calls⟩,
    ⟨true, 0, 2, 0, some (call 1 "2001:db8::1 10.0.0.1"), 44, calls⟩]

end Radio.DataInterface
