/-
# Which row of the command table a request gets

`RIL_registerSocket` checks the command table once and derives `mtk_command_start`
from it; `addRequestToList` then picks the row of each request by arithmetic on the
request code, without looking at the row.  The main result says when the row picked
is the request's own: exactly when the table has a row for the code.

* `selfCheck` : the self-check at registration;
* `newRequestInfo` : the `RequestInfo` that `addRequestToList` fills in;
* `newRequestInfo_ownRow_iff` : when its `pCI` is the row of the request.
-/
import Mathlib.Data.Int.Notation
import Mathlib.Data.List.Basic
import Ct07.Lib.TwoRanges
import Ct07.Ril.EntryPoints

namespace Ril

/-! ## The self-check at registration -/

/-- The body of the self-check's loop for row `i`: the new `mtkCommandStart`, or `none`
when the assertion fails. -/
def checkRow (i mtkCommandStart : ℕ) (row : CommandInfo) : Option ℕ :=
  if row.requestNumber < rilRequestVendorBase then
    if i = row.requestNumber then some mtkCommandStart else none
  else
    let start := if mtkCommandStart = 0 then i else mtkCommandStart
    if i + rilRequestVendorBase - start = row.requestNumber then some start else none

/-- The loop of the self-check, from row `i` on. -/
def selfCheckFrom (i mtkCommandStart : ℕ) : List CommandInfo → Option ℕ
  | [] => some mtkCommandStart
  | row :: rows =>
      (checkRow i mtkCommandStart row).bind fun start => selfCheckFrom (i + 1) start rows

/-- The self-check of the whole table: the `mtk_command_start` it leaves behind. -/
def selfCheck (table : List CommandInfo) : Option ℕ := selfCheckFrom 0 0 table

/-! ## The row picked for a request -/

/-- `s_commands` as it lies in memory: the table, and whatever follows it. -/
structure Commands where
  table : List CommandInfo
  beyond : ℕ → CommandInfo

/-- What a `CommandInfo *` to entry `i` of `s_commands` reads. -/
def Commands.at (c : Commands) (i : ℕ) : CommandInfo :=
  c.table.getD i (c.beyond (i - c.table.length))

/-- The index that `addRequestToList` computes for a request code. -/
def commandIndex (mtkCommandStart request : ℕ) : ℕ :=
  if request < rilRequestVendorBase then request
  else request - rilRequestVendorBase + mtkCommandStart

/-- `RequestInfo`.  `pCI` is the index of the entry of `s_commands` it points to, and
`pNext` the address of the next request of the pending list. -/
structure RequestInfo where
  token : ℤ
  pCI : ℕ
  pNext : Option ℕ
  cancelled : Bool
  isLocal : Bool
  socketId : ℕ
  wasAckSent : Bool
  cid : RILChannelId
  deriving DecidableEq, Repr

/-- The `RequestInfo` that `addRequestToList` fills in, before it is linked. -/
def newRequestInfo (c : Commands) (mtkCommandStart : ℕ) (serial : ℤ) (slotId request : ℕ) :
    RequestInfo :=
  let i := commandIndex mtkCommandStart request
  let proxyId := (c.at i).proxyId
  { token := serial
    pCI := i
    pNext := none
    cancelled := false
    isLocal := serial == -1
    socketId := slotId
    wasAckSent := false
    cid := if 0 < slotId then proxyId + rilChannelOffset else proxyId }

/-- `pCI` points into the table, at a row that carries the number `request`. -/
def RequestInfo.OwnRow (ri : RequestInfo) (c : Commands) (request : ℕ) : Prop :=
  ri.pCI < c.table.length ∧ (c.at ri.pCI).requestNumber = request

instance (ri : RequestInfo) (c : Commands) (request : ℕ) :
    Decidable (ri.OwnRow c request) :=
  inferInstanceAs (Decidable (_ ∧ _))

/-! ## The self-check is that of a table numbered in two ranges -/

theorem selfCheckFrom_eq (i mtkCommandStart : ℕ) (table : List CommandInfo) :
    selfCheckFrom i mtkCommandStart table =
      TwoRanges.checkFrom 0 rilRequestVendorBase i mtkCommandStart
        (table.map CommandInfo.requestNumber) := by
  induction table generalizing i mtkCommandStart with
  | nil => rfl
  | cons row rows ih =>
      have hrow : checkRow i mtkCommandStart row =
          TwoRanges.checkRow 0 rilRequestVendorBase i mtkCommandStart row.requestNumber := rfl
      rw [selfCheckFrom, List.map_cons, TwoRanges.checkFrom, hrow]
      congr 1
      funext start
      exact ih (i + 1) start

/-! ## The row picked is the request's own exactly when the table has one -/

/-- **A request gets its own row exactly when the table has one.**  For every table that
the self-check accepts, whatever follows it in memory, and every request code. -/
theorem newRequestInfo_ownRow_iff (c : Commands) (start : ℕ)
    (haccept : selfCheck c.table = some start) (serial : ℤ) (slotId request : ℕ) :
    (newRequestInfo c start serial slotId request).OwnRow c request ↔
      ∃ row ∈ c.table, row.requestNumber = request := by
  rw [selfCheck, selfCheckFrom_eq] at haccept
  -- `commandIndex` is the index of a table whose first range starts at 0
  exact TwoRanges.Rows.own_iff ⟨c.table, c.beyond⟩ CommandInfo.requestNumber haccept request

/-! ## The table of this build -/

/-- The table of this build is accepted, and has no vendor row to set
`mtk_command_start`. -/
theorem selfCheck_sCommands : selfCheck sCommands = some 0 := by decide +kernel

/-- The table of this build, with zeroes behind it. -/
def buildCommands : Commands := ⟨sCommands, fun _ => ⟨0, none, 0⟩⟩

/-- A `DIAL` request gets the row of `DIAL`. -/
theorem newRequestInfo_ownRow_dial :
    selfCheck buildCommands.table = some 0 ∧
      ((newRequestInfo buildCommands 0 7 0 RilRequest.dial.code).OwnRow buildCommands
          RilRequest.dial.code ↔
        ∃ row ∈ buildCommands.table, row.requestNumber = RilRequest.dial.code) :=
  ⟨selfCheck_sCommands,
    newRequestInfo_ownRow_iff buildCommands 0 selfCheck_sCommands 7 0 RilRequest.dial.code⟩

/-- `setSimCardPower` switching the card off gets the row of `DIAL`: in the table of this
build not every request of an entry point gets its own row. -/
theorem setSimCardPower_wrong_row :
    ¬ ∀ (c : Commands) (start : ℕ), selfCheck c.table = some start →
      ∀ (e : EntryPoint) (r : RilRequest), r ∈ e.requests → ∀ (serial : ℤ) (slotId : ℕ),
        (newRequestInfo c start serial slotId r.code).OwnRow c r.code := by
  intro hall
  have hown := hall buildCommands 0 selfCheck_sCommands .setSimCardPower .modemPoweroff
    (by decide) 7 0
  exact absurd hown (by decide +kernel)

/-- The requests of the entry points that the table of this build has no row for. -/
theorem entryPoint_request_without_row (e : EntryPoint) (r : RilRequest) (hr : r ∈ e.requests) :
    (¬ ∃ row ∈ sCommands, row.requestNumber = r.code) ↔
      r ∈ [.modemPoweron, .modemPoweroff, .resumeRegistration, .setCallIndication,
        .stopNetworkScan] := by
  revert r
  cases e <;> decide +kernel

end Ril
