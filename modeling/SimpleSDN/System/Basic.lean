import SimpleSDN.Primary.Reliable
import SimpleSDN.Secondary.DropAfter

/-!
# The primary router with its secondary routers

`System` puts the primary router of stage 9 together with three secondary
routers and the control messages and acknowledgements in flight between them.
A step is a reaction of one router. Datagrams in flight may be delivered in any
order, lost and repeated. Two kinds of datagrams come from outside: packets,
which the secondary routers pass on, and action-5 messages.
-/

/-- The ports of the secondary routers. -/
def Config.secondPort (c : Config) : Fin 3 → UInt16
  | 0 => c.secondRouter1Port
  | 1 => c.secondRouter2Port
  | 2 => c.secondRouter3Port

/-- The control messages among what is sent. -/
def controls (l : List Sent) : List (SockAddr × OctaneControl) :=
  l.filterMap fun
    | .control addr msg => some (addr, msg)
    | _ => none

/-- The routers and what is in flight between them. -/
structure System where
  primary : Primary
  secondary : Fin 3 → CRouter
  control : List (SockAddr × OctaneControl)
  acks : List OctaneControl

/-- What happens in the system. -/
inductive SysEvent
  | tunnel (st : Stack) (buffer : Packet) (clock : ℕ → Timeval)
  | expire (now : Timeval)
  | packet (st : Stack) (buffer : Packet) (iPort : ℤ)
  | portal (st : Stack) (buffer : Packet) (iPort : ℤ)
  | ack (st : Stack) (buffer : Packet) (iPort : ℤ)
  | deliver (i : Fin 3) (msg : OctaneControl)
  | network (control : List (SockAddr × OctaneControl)) (acks : List OctaneControl)

/-- The control message that the primary router receives in the event. -/
def SysEvent.received : SysEvent → Option OctaneControl
  | .portal _ buffer _ | .ack _ buffer _ => some buffer.octane
  | _ => none

namespace System

/-- Nothing is in flight when the loop starts. -/
def start (primary : Primary) (secondary : Fin 3 → CRouter) : System where
  primary := primary
  secondary := secondary
  control := []
  acks := []

/-- A reaction of the primary router puts its control messages in flight. -/
def react (c : Config) (sys : System) (e : PrimEvent) : Option System :=
  (primStep c sys.primary e).map fun primary =>
    { sys with
      primary := primary
      control := sys.control ++ controls (primary.sent.drop sys.primary.sent.length) }

/-- A secondary router receives a control message. -/
def receive (sys : System) (i : Fin 3) (msg : OctaneControl) : System :=
  let (Router, ack) := (sys.secondary i).receiveControl msg
  { sys with
    secondary := Function.update sys.secondary i Router
    acks := sys.acks ++ ack.toList }

/-- The messages in flight, in either direction. -/
def inFlight (sys : System) : List OctaneControl := sys.control.map Prod.snd ++ sys.acks

end System

/-- One step of the system; `none` for an event that cannot happen. -/
def sysStep (c : Config) (sys : System) : SysEvent → Option System
  | .tunnel st buffer clock => sys.react c (.tunnel st buffer clock)
  | .expire now => sys.react c (.expire now)
  | .packet st buffer iPort =>
      if buffer.ipP ≠ octaneProtocolNum then sys.react c (.socket st buffer iPort) else none
  | .portal st buffer iPort =>
      if buffer.ipP = octaneProtocolNum ∧ buffer.octane.octaneAction = 5 then
        sys.react c (.socket st buffer iPort)
      else none
  | .ack st buffer iPort =>
      if buffer.ipP = octaneProtocolNum ∧ buffer.octane ∈ sys.acks then
        { sys with acks := sys.acks.erase buffer.octane }.react c (.socket st buffer iPort)
      else none
  | .deliver i msg =>
      let datagram := (SockAddr.local (c.secondPort i), msg)
      if datagram ∈ sys.control then
        some ({ sys with control := sys.control.erase datagram }.receive i msg)
      else none
  | .network control acks =>
      if control ⊆ sys.control ∧ acks ⊆ sys.acks then
        some { sys with control := control, acks := acks }
      else none
