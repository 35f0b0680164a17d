/-
# Channels: queues and mutexes

Two of the AT channels of each SIM take one request at a time in a build with
`RIL_CHANNEL_QUEUING`: `my_enqueue` keeps further requests in a queue, and
`my_dequeue` takes the next one when the vendor has completed the one before.  Every
channel has a mutex, whose index `mtkChannelIndex` computes.

The queues are lists here, the first request to go in front.
-/
import Mathlib.Data.Int.Notation
import Mathlib.Logic.Function.Basic
import Ct07.Ril.Commands

namespace Ril

/-! ## The mutex of a channel -/

/-- `MTK_CHANNEL_COUNT`. -/
def mtkChannelCount : ℕ := 24

/-- `mtkChannelIndex`: the index of a channel's mutex. -/
def mtkChannelIndex (cid : ℤ) : ℕ :=
  if cid < 0 then 0 else (cid % mtkChannelCount).toNat

/-! ## The channel queues -/

/-- `BUF_FMTS`: what the payload of a request is made of. -/
inductive BufFmts where
  | ignore | void | ints | str | strs | callFwst | iccApdu | simio | wrSmsSim | raw
  | attchApn | imsSms | simAuth | dataProf
  deriving DecidableEq, Repr

/-- What `my_enqueue` reads of a request: the code, the buffer format, and of its
`RequestInfo` the socket, the proxy and the channel. -/
structure Request where
  request : ℕ
  bf : BufFmts
  socketId : ℕ
  proxyId : RILChannelId
  cid : RILChannelId
  deriving DecidableEq, Repr

/-- `proxyCmd1`, `proxyCmd3` and their busy flags, one of each for each SIM. -/
structure Queues where
  proxyCmd1 : Fin 2 → List Request
  proxyCmd3 : Fin 2 → List Request
  cmdProxy1busy : Fin 2 → Bool
  cmdProxy3busy : Fin 2 → Bool

/-- No request queued, no channel busy. -/
def Queues.empty : Queues := ⟨fun _ => [], fun _ => [], fun _ => false, fun _ => false⟩

/-- The queueing part of `my_enqueue`.  The second component is `pending`: the request
waits in the queue and does not go to the vendor now. -/
def Queues.enqueue (q : Queues) (r : Request) : Queues × Bool :=
  let slot : Fin 2 := if r.socketId = 1 then 1 else 0
  -- the caller frees the payload itself after the call, so the request cannot wait
  if r.bf = .ignore then (q, false)
  else if r.proxyId = rilCmdProxy1 then
    -- RADIO_POWER looks at the flag of the first SIM, whatever its own
    let flag : Fin 2 := if r.request = RilRequest.radioPower.code then 0 else slot
    let pending := q.cmdProxy1busy flag
    let queue := if pending then q.proxyCmd1 slot ++ [r] else q.proxyCmd1 slot
    ({ q with
        cmdProxy1busy := Function.update q.cmdProxy1busy flag true
        proxyCmd1 := Function.update q.proxyCmd1 slot queue }, pending)
  else if r.proxyId = rilCmdProxy3 then
    let pending := q.cmdProxy3busy slot
    let queue := if pending then q.proxyCmd3 slot ++ [r] else q.proxyCmd3 slot
    ({ q with
        cmdProxy3busy := Function.update q.cmdProxy3busy slot true
        proxyCmd3 := Function.update q.proxyCmd3 slot queue }, pending)
  else (q, false)

/-- The queueing part of `my_dequeue`: the request that goes to the vendor next. -/
def Queues.dequeue (q : Queues) (slot : Fin 2) (proxyId : RILChannelId) :
    Queues × Option Request :=
  if proxyId = rilCmdProxy1 then
    match q.proxyCmd1 slot with
    | [] => ({ q with cmdProxy1busy := Function.update q.cmdProxy1busy slot false }, none)
    | r :: rs =>
        ({ q with
            proxyCmd1 := Function.update q.proxyCmd1 slot rs
            cmdProxy1busy := Function.update q.cmdProxy1busy slot true }, some r)
  else if proxyId = rilCmdProxy3 then
    match q.proxyCmd3 slot with
    | [] => ({ q with cmdProxy3busy := Function.update q.cmdProxy3busy slot false }, none)
    | r :: rs =>
        ({ q with
            proxyCmd3 := Function.update q.proxyCmd3 slot rs
            cmdProxy3busy := Function.update q.cmdProxy3busy slot true }, some r)
  else (q, none)

/-- What `RIL_onRequestComplete` does to the queues for a request of socket `socketId` on
proxy `proxyId`: its channel is free again, and the next request is taken. -/
def Queues.complete (q : Queues) (socketId : ℕ) (proxyId : RILChannelId) :
    Queues × Option Request :=
  let slot : Fin 2 := if socketId = 0 then 0 else 1
  if proxyId = rilCmdProxy1 then
    { q with cmdProxy1busy := Function.update q.cmdProxy1busy slot false }.dequeue slot proxyId
  else if proxyId = rilCmdProxy3 then
    { q with cmdProxy3busy := Function.update q.cmdProxy3busy slot false }.dequeue slot proxyId
  else (q, none)

/-! ## Lanes -/

namespace Queuing

/-- The channels that are queued. -/
inductive Channel where
  /-- `RIL_CMD_PROXY_1` -/
  | proxy1
  /-- `RIL_CMD_PROXY_3` -/
  | proxy3
  deriving DecidableEq, Repr

/-- A queued channel of a SIM. -/
abbrev Lane := Fin 2 × Channel

def Channel.proxyId : Channel → RILChannelId
  | .proxy1 => rilCmdProxy1
  | .proxy3 => rilCmdProxy3

/-- The lane of a request, if its channel is queued. -/
def lane (r : Request) : Option Lane :=
  let slot : Fin 2 := if r.socketId = 1 then 1 else 0
  if r.proxyId = rilCmdProxy1 then some (slot, .proxy1)
  else if r.proxyId = rilCmdProxy3 then some (slot, .proxy3)
  else none

/-- The lane whose flag `my_enqueue` looks at: for RADIO_POWER it is the first SIM's. -/
def flagLane (r : Request) (l : Lane) : Lane :=
  match l.2 with
  | .proxy1 => if r.request = RilRequest.radioPower.code then (0, .proxy1) else l
  | .proxy3 => l

/-- The requests that wait in a lane. -/
def queue (q : Queues) : Lane → List Request
  | (slot, .proxy1) => q.proxyCmd1 slot
  | (slot, .proxy3) => q.proxyCmd3 slot

/-- The flag of a lane. -/
def busy (q : Queues) : Lane → Bool
  | (slot, .proxy1) => q.cmdProxy1busy slot
  | (slot, .proxy3) => q.cmdProxy3busy slot

/-- The socket of a slot. -/
def socketId (l : Lane) : ℕ := if l.1 = 0 then 0 else 1

end Queuing

end Ril
