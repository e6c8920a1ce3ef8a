import SimpleSDN.Primary.Flows
import SimpleSDN.Primary.Portal
import SimpleSDN.System.Chain
import SimpleSDN.System.Refines

/-!
# The service chain of stage 7

When the loops of the two secondary routers have received the control messages of a
primary router in stage 7, in any order and with any packets between them, a packet to
port 443 travels from the first secondary router to the second and to its raw socket, and
a datagram with the reverse of its flow travels back. The replies arrive on the raw TCP
socket, where the loop writes the one address into them that it has kept, `oriSrcAddr`:
they return as long as that is the address of their client (`serviceChain_iff_of_run`).
-/

/-- The packet on the raw TCP socket answers `q`, and has a TCP header. -/
structure Packet.Answers (q : Packet) (packet : List UInt8) : Prop where
  answers : q.AnsweredBy 6 (Second.tcpBuffer packet)
  segment : (Second.tcpBuffer packet).iIpHeaderLen + 20 ≤ (Second.tcpBuffer packet).ipLen

/-- The loop at `addr` has started, and of all that it has received since then the control
messages are those of `A`, in any order. -/
def HasReceived (node : SockAddr → Option Second) (addr : SockAddr) (A : Set OctaneControl) :
    Prop :=
  ∃ (Router : CRouter) (oriSrcAddr ext : UInt32) (es : List SecondEvent) (s : Second),
    Router.rouFlowTable.entries = [] ∧ Router.droppedMsg.entries = [] ∧
      (∀ e ∈ es, e.WellFormed) ∧ (∀ m, m ∈ es.filterMap SecondEvent.octane ↔ m ∈ A) ∧
      run secondStep (.start Router oriSrcAddr ext) es = some s ∧ node addr = some s

/-- It has the rules of these messages then. -/
theorem HasReceived.installed {node : SockAddr → Option Second} {addr : SockAddr}
    {A : Set OctaneControl} (h : HasReceived node addr A) (hA : Coherent A) :
    ∃ s, node addr = some s ∧ s.router.rouFlowTable.TcpRules ∧
      ∀ m ∈ A, s.router.Installed m := by
  obtain ⟨Router, oriSrcAddr, ext, es, s, htable, hdropped, hes, hmsgs, hrun, hnode⟩ := h
  have hdefault : (Second.start Router oriSrcAddr ext).router.rouFlowTable.entries =
      [(FlowTable.defaultEntry, ⟨0xFFFF, 3⟩)] := StdMap.entries_set_of_entries_eq_nil htable _ _
  obtain ⟨hinstalling, hinstalled⟩ :=
    (CRouter.installing_of_default hdefault hdropped).receiveAll hA fun m hm => (hmsgs m).1 hm
  have hsame : s.router.rouFlowTable = _ :=
    (Second.control_of_run Router oriSrcAddr ext es hes s hrun).1.rouFlowTable
  refine ⟨s, hnode, hsame ▸ hinstalling.table, fun m hm => ?_⟩
  rw [CRouter.Installed, hsame]
  exact hinstalled m hm (Or.inr ((hmsgs m).2 hm))

namespace Primary

variable {c : Config} {s : Primary} {flows : List FlowEntry} {node : SockAddr → Option Second}
  {addr : SockAddr} {f e : FlowEntry} {port : UInt16}

/-- A secondary router that has received the messages for it has the rules of all
flows. -/
theorem Served.find (h : Served c s flows)
    (hports : c.secondRouter1Port ≠ c.secondRouter2Port)
    (hnode : HasReceived node addr (s.messagesFor addr)) {a : FlowAction} (hf : f ∈ flows)
    (hrule : (addr, e, a) ∈ c.flowRules (UInt16.ofInt s.router.iPortNum) f) :
    ∃ loop, node addr = some loop ∧
      loop.router.rouFlowTable.mTable.find e = some (e, a) := by
  have hA := h.coherent hports addr
  obtain ⟨loop, hloop, htable, hinstalled⟩ := hnode.installed hA
  obtain ⟨m, hm, hentry, haction⟩ := exists_messagesFor ((h.rules _).2 ⟨f, hf, hrule⟩)
  have hinst := hinstalled m hm
  rw [CRouter.Installed, hentry, haction] at hinst
  have htcp : e.Tcp := hentry ▸ (hA.forwards m hm).1
  exact ⟨loop, hloop, (htable.find_eq_some_iff htcp _).2 ⟨hinst, rfl⟩⟩

end Primary

open Primary

variable {t : Primary} {port : UInt16} {flows : List (List UInt8)}
