import SimpleSDN.Router.Messages
import SimpleSDN.Timers.Queue

/-!
# The state of a primary router's loop

`Primary` is what a loop of the primary router keeps from one iteration to the
next: the router, the timers, the flags of the loop and, in stage 9, the last
unauthenticated flow. Two histories come with it that the program does not
keep: `sent`, everything it has sent, and `created`, the control messages it has
taken a sequence number for, newest first, each as the timer that resends it.
`Config` holds the stage and the addresses that are fixed before the loop.
-/

/-- `struct sockaddr_in`. -/
structure SockAddr where
  sinAddr : UInt32
  sinPort : UInt16
deriving DecidableEq

/-- A port of the local host. -/
def SockAddr.local (sinPort : UInt16) : SockAddr := ⟨inetAddr ⟨127, 0, 0, 1⟩, sinPort⟩

/-- `cOctaneTimer`. -/
structure OctaneTimer where
  iOctaneMsg : OctaneControl
  iSeq : ℤ
  rou2Addr : SockAddr
deriving DecidableEq

/-- What a router sends: a control message or a packet in a datagram, or a
packet to the tunnel. -/
inductive Sent
  | control (addr : SockAddr) (msg : OctaneControl)
  | data (addr : SockAddr) (buffer : Packet)
  | tunnel (buffer : Packet)
deriving DecidableEq

/-- The datagram that `cOctaneTimer::Expire` sends. -/
def OctaneTimer.expire (t : OctaneTimer) : Sent := .control t.rou2Addr t.iOctaneMsg

/-- The stages with a reliable control channel. -/
inductive Stage
  | s4
  | s5
  | s6
  | s7
  | s9
  | s10
deriving DecidableEq

/-- Stages 4 and 5 route ICMP only. -/
def Stage.tcp : Stage → Bool
  | s4 | s5 => false
  | _ => true

/-- What a loop is started with; the ports are in network byte order. -/
structure Config where
  stage : Stage
  rou2Addr : SockAddr
  secondRouter1Port : UInt16
  secondRouter2Port : UInt16
  secondRouter3Port : UInt16

/-- The configuration from the child ports in the order of the process ids, and
in stages 4 and 5 from the parameter `rou2Addr`. There is none when a loop would
step past the last child. -/
def Config.start (stage : Stage) (rou2Addr : SockAddr) (mChildPort : IntMap) : Option Config :=
  let port (p : ℤ × ℤ) : UInt16 := htons (UInt16.ofInt p.2)
  match stage, mChildPort.toList with
  | .s4, _ | .s5, _ => some ⟨stage, rou2Addr, 0, 0, 0⟩
  | .s9, p₁ :: p₂ :: p₃ :: _ => some ⟨.s9, .local (port p₁), port p₁, port p₂, port p₃⟩
  | .s6, p₁ :: p₂ :: _ | .s7, p₁ :: p₂ :: _ | .s10, p₁ :: p₂ :: _ =>
      some ⟨stage, .local (port p₁), port p₁, port p₂, 0⟩
  | _, _ => none

/-- The state of the loop. -/
structure Primary where
  router : CRouter
  timersManager : Timers OctaneTimer
  bRefreshTimeout : Bool
  isAuthenticated : Bool
  authOctMsg : OctaneControl
  authOctMsgRev : OctaneControl
  sent : List Sent
  created : List OctaneTimer

namespace Primary

/-- The state in which a loop starts; `auth` and `authRev` are the initial
contents of the two messages of stage 9. -/
def start (router : CRouter) (auth authRev : OctaneControl) : Primary where
  router := router
  timersManager := .init
  bRefreshTimeout := true
  isAuthenticated := false
  authOctMsg := auth
  authOctMsgRev := authRev
  sent := []
  created := []

/-- `sendMsg` or `cwrite`. -/
def send (s : Primary) (x : Sent) : Primary := { s with sent := s.sent ++ [x] }

/-- The log line for a rule that is hit, if there is one. -/
def logHit (s : Primary) (sCheck : String) : Primary :=
  if sCheck = "" then s else { s with router := s.router.pushLog sCheck }

/-- `dbInsert` with its log lines. -/
def dbInsert (s : Primary) (msg : OctaneControl) (newFwdPort : UInt16) : Primary :=
  let (table, tempLog) := s.router.rouFlowTable.dbInsert msg newFwdPort
  { s with router := { s.router with rouFlowTable := table }.pushLogs tempLog }

/-- `m_unAckBuffer[iSeqno] = t`, one after the other. -/
def register (unAckBuffer : IntMap) (seqHandles : List (ℤ × ℤ)) : IntMap :=
  seqHandles.foldl (fun m p => m.insert p.1 p.2) unAckBuffer

/-- New control messages: all are sent, then a timer is added for each, then the
handles are registered. -/
def dispatch (s : Primary) (clock : ℕ → Timeval) (octaneTimers : List OctaneTimer) :
    Option Primary :=
  (Timers.addTimers 2000 s.timersManager clock octaneTimers).map fun (T, handles) =>
    { s with
      router := { s.router with
        unAckBuffer := register s.router.unAckBuffer
          ((octaneTimers.map OctaneTimer.iSeq).zip handles) }
      timersManager := T
      sent := s.sent ++ octaneTimers.map OctaneTimer.expire
      created := octaneTimers.reverse ++ s.created }

/-- An acknowledgement of `iSeqno`: the handle is read with `operator[]`, which
inserts 0 when there is none, and the entry is erased. -/
def acknowledge (s : Primary) (iSeqno : ℤ) : Primary :=
  let iRmvHandle := s.router.unAckBuffer.getD iSeqno 0
  let unAckBuffer := s.router.unAckBuffer.insertIfNew iSeqno 0
  { s with
    router := { s.router with unAckBuffer := unAckBuffer.erase iSeqno }
    timersManager := (s.timersManager.removeTimer iRmvHandle).1 }

end Primary
