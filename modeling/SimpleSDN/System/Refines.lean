import SimpleSDN.System.Datagrams
import SimpleSDN.System.Recipients

/-!
# Bytes as messages

Read as control messages, the datagrams in flight are the messages of `System`. `Shows`
says so, and `Shows.step` that every step of the routers on bytes is a step of the routers
on messages, or none: a packet that a secondary router gets changes nothing there.
-/

/-- What the primary router at `rou1Addr` has sent as a control message, and to whom. -/
def Datagram.control (rou1Addr : SockAddr) (d : Datagram) : Option (SockAddr × OctaneControl) :=
  if d.src = rou1Addr then (octaneOf d.bytes).map fun msg => (d.dst, msg) else none

/-- What somebody else has sent as a control message. -/
def Datagram.ack (rou1Addr : SockAddr) (d : Datagram) : Option OctaneControl :=
  if d.src = rou1Addr then none else octaneOf d.bytes

/-- A datagram of the protocol of control messages carries one; it is from the primary
router to another one, or from another one to it. -/
structure Datagram.Sound (rou1Addr : SockAddr) (d : Datagram) : Prop where
  carries : (Buffer.ofList d.bytes).ipP = octaneProtocolNum →
    ∃ m, (Buffer.ofList d.bytes).CarriesControl m
  between : (Buffer.ofList d.bytes).ipP = octaneProtocolNum →
    (d.src = rou1Addr ↔ d.dst ≠ rou1Addr)

/-- What the event is for the routers on messages. -/
def NetEvent.sysEvent (rou1Addr : SockAddr) : NetEvent → Option SysEvent
  | .tunnel st packet clock _ => some (.tunnel st (tunnelBuffer packet).packet clock)
  | .expire now _ => some (.expire now)
  | .socket st d _ =>
      if (socketBuffer d).ipP = octaneProtocolNum then
        some (.ack st (socketBuffer d).packet d.iPort)
      else some (.packet st (socketBuffer d).packet d.iPort)
  | .portal st d _ => some (.portal st (socketBuffer d).packet d.iPort)
  | .udp i _ d => (octaneOf d.bytes).map (.deliver i)
  | .icmp _ _ _ _ _ => none
  | .tcp _ _ _ _ => none
  | .network flight =>
      some (.network (flight.filterMap (Datagram.control rou1Addr))
        (flight.filterMap (Datagram.ack rou1Addr)))

/-- The configuration of stage 6, 7, 9 or 10, in which the primary router has a port that
no secondary router has. -/
structure Config.Apart (c : Config) (m : IntMap) (rou1Addr : SockAddr) : Prop where
  stage : c.stage.tcp = true
  children : c.OfChildren m
  child : ∀ addr, ChildAddr m addr → addr ≠ rou1Addr
  second : ∀ i, SockAddr.local (c.secondPort i) ≠ rou1Addr

/-- The system is what the routers on bytes look like. -/
structure System.Shows (m : IntMap) (rou1Addr : SockAddr) (sys : System) (net : Net) : Prop where
  primary : sys.primary = net.primary
  secondary : ∀ i, (net.secondary i).router.SameControl (sys.secondary i)
  control : sys.control.Perm (net.flight.filterMap (Datagram.control rou1Addr))
  acks : sys.acks.Perm (net.flight.filterMap (Datagram.ack rou1Addr))
  sound : ∀ d ∈ net.flight, d.Sound rou1Addr
  timers : net.primary.ChildTimers m

/-- A list without an entry, read through a partial function. -/
theorem perm_filterMap_erase {α β : Type} [DecidableEq α] (f : α → Option β) {l : List α} {a : α}
    (ha : a ∈ l) : (l.filterMap f).Perm ((f a).toList ++ (l.erase a).filterMap f) := by
  have hperm := (List.perm_cons_erase ha).filterMap f
  cases hf : f a with
  | none => rwa [List.filterMap_cons_none hf] at hperm
  | some b => rwa [List.filterMap_cons_some hf] at hperm

/-! ### What is put in flight -/

theorem octaneOf_controlBytes {IpHeader : Buffer} {msg : OctaneControl} {bytes : List UInt8}
    (h : controlBytes IpHeader msg = some bytes) : octaneOf bytes = some msg :=
  have hcarries := Buffer.carriesControl_of_controlBytes h
  (if_pos hcarries.ipP).trans hcarries.octaneUnpack

section Primary

variable {m : IntMap} {rou1Addr : SockAddr} {e : PrimEvent} {buffer : Buffer} {xs : List Sent}

theorem exists_of_mem_datagrams {IpHeader : ℕ → Buffer} {d : Datagram}
    (h : d ∈ Sent.datagrams rou1Addr buffer IpHeader xs) :
    ∃ x ∈ xs, ∃ k, x.datagram rou1Addr (IpHeader k) buffer = some d := by
  induction xs generalizing IpHeader with
  | nil => exact absurd h List.not_mem_nil
  | cons x xs ih =>
      rcases List.mem_append.1 h with h | h
      · exact ⟨x, List.mem_cons_self, 0, Option.mem_toList.1 h⟩
      · obtain ⟨y, hy, k, hd⟩ := ih h
        exact ⟨y, List.mem_cons_of_mem x hy, k + 1, hd⟩

theorem src_of_datagram {x : Sent} {IpHeader : Buffer} {d : Datagram}
    (h : x.datagram rou1Addr IpHeader buffer = some d) : d.src = rou1Addr := by
  cases x with
  | control addr msg =>
      rw [Sent.datagram] at h
      obtain ⟨bytes, -, rfl⟩ := Option.map_eq_some_iff.1 h
      rfl
  | data addr p =>
      obtain rfl := Option.some.inj h
      rfl
  | tunnel p => exact absurd h.symm (Option.some_ne_none d)

/-- The control messages among the datagrams are those that are sent. -/
theorem control_datagrams (IpHeader : ℕ → Buffer)
    (hdata : ∀ addr p, .data addr p ∈ xs → buffer.ipP ≠ octaneProtocolNum) :
    (Sent.datagrams rou1Addr buffer IpHeader xs).filterMap (Datagram.control rou1Addr) =
      controls xs := by
  induction xs generalizing IpHeader with
  | nil => rfl
  | cons x xs ih =>
      have hrest := ih (fun k => IpHeader (k + 1)) fun addr p hp =>
        hdata addr p (List.mem_cons_of_mem x hp)
      rw [Sent.datagrams, List.filterMap_append, hrest]
      cases x with
      | control addr msg =>
          obtain ⟨bytes, hbytes⟩ :=
            Option.isSome_iff_exists.1 (Buffer.controlBytes_isSome (IpHeader 0) msg)
          have hcontrol : Datagram.control rou1Addr ⟨rou1Addr, addr, bytes⟩ = some (addr, msg) := by
            rw [Datagram.control, if_pos rfl, octaneOf_controlBytes hbytes, Option.map_some]
          rw [Sent.datagram, hbytes, Option.map_some, Option.toList_some,
            List.filterMap_cons_some hcontrol]
          rfl
      | data addr p =>
          have hp := hdata addr p List.mem_cons_self
          have hcontrol : Datagram.control rou1Addr ⟨rou1Addr, addr, buffer.bytes 0 2048⟩ =
              none := by
            rw [Datagram.control, if_pos rfl, octaneOf_eq_none (Buffer.ipP_bytes_ne hp),
              Option.map_none]
          rw [Sent.datagram, Option.toList_some, List.filterMap_cons_none hcontrol]
          rfl
      | tunnel p => rfl

/-- What the primary router sends is sound. -/
theorem sound_of_datagram (hchild : ∀ addr, ChildAddr m addr → addr ≠ rou1Addr) {x : Sent}
    (hx : x.Proper m e) (hbuffer : ∀ st p clock, e = .tunnel st p clock → p.ipP = buffer.ipP)
    {IpHeader : Buffer} {d : Datagram} (h : x.datagram rou1Addr IpHeader buffer = some d) :
    d.Sound rou1Addr := by
  cases x with
  | control addr msg =>
      rw [Sent.datagram] at h
      obtain ⟨bytes, hbytes, rfl⟩ := Option.map_eq_some_iff.1 h
      have hcarries := Buffer.carriesControl_of_controlBytes hbytes
      exact ⟨fun _ => ⟨msg, hcarries⟩, fun _ => iff_of_true rfl (hchild addr hx)⟩
  | data addr p =>
      obtain ⟨⟨st, clock, he⟩, hp⟩ := hx
      rw [Sent.datagram] at h
      generalize hbytes : buffer.bytes 0 2048 = bytes at h
      obtain rfl := Option.some.inj h
      have hnot : (Buffer.ofList bytes).ipP ≠ octaneProtocolNum := by
        rw [hbuffer st p clock he] at hp
        exact hbytes ▸ Buffer.ipP_bytes_ne hp
      exact ⟨fun hp => absurd hp hnot, fun hp => absurd hp hnot⟩
  | tunnel p => exact absurd h.symm (Option.some_ne_none d)

end Primary

/-! ### The steps -/

namespace System.Shows

variable {c : Config} {m : IntMap} {rou1Addr : SockAddr} {sys : System} {net net' : Net}

/-- A reaction of the primary router. -/
theorem react (hc : c.Apart m rou1Addr) (h : sys.Shows m rou1Addr net) {e : PrimEvent}
    {buffer : Buffer} {IpHeader : ℕ → Buffer}
    (hbuffer : ∀ st p clock, e = .tunnel st p clock → p.ipP = buffer.ipP)
    (hstep : net.react c rou1Addr e buffer IpHeader = some net') :
    ∃ sys', sys.react c e = some sys' ∧ sys'.Shows m rou1Addr net' := by
  obtain ⟨primary, hprim, rfl⟩ := Option.map_eq_some_iff.1 hstep
  obtain ⟨htimers, hproper⟩ := Primary.proper_of_step hc.children hc.stage h.timers hprim
  have hmem : ∀ d ∈ Sent.datagrams rou1Addr buffer IpHeader
      (primary.sent.drop net.primary.sent.length), d.Sound rou1Addr ∧ d.src = rou1Addr := by
    intro d hd
    obtain ⟨x, hx, k, hxd⟩ := exists_of_mem_datagrams hd
    exact ⟨sound_of_datagram hc.child (hproper x hx) hbuffer hxd, src_of_datagram hxd⟩
  refine ⟨_, by rw [System.react, h.primary, hprim, Option.map_some], ?_⟩
  refine ⟨rfl, h.secondary, ?_, ?_, ?_, htimers⟩
  · have hdata : ∀ addr p, Sent.data addr p ∈ primary.sent.drop net.primary.sent.length →
        buffer.ipP ≠ octaneProtocolNum := by
      intro addr p hp
      obtain ⟨⟨st, clock, he⟩, hp⟩ := hproper _ hp
      rwa [← hbuffer st p clock he]
    rw [List.filterMap_append, control_datagrams IpHeader hdata]
    exact h.control.append_right _
  · have hnone : (Sent.datagrams rou1Addr buffer IpHeader
        (primary.sent.drop net.primary.sent.length)).filterMap (Datagram.ack rou1Addr) = [] :=
      List.filterMap_eq_nil_iff.2 fun d hd => if_pos (hmem d hd).2
    rw [List.filterMap_append, hnone, List.append_nil]
    exact h.acks
  · intro d hd
    rcases List.mem_append.1 hd with hd | hd
    · exact h.sound d hd
    · exact (hmem d hd).1

/-- A datagram leaves the network. -/
theorem erase (h : sys.Shows m rou1Addr net) {d : Datagram} (hd : d ∈ net.flight)
    (control : List (SockAddr × OctaneControl)) (acks : List OctaneControl)
    (hcontrol : sys.control.Perm ((Datagram.control rou1Addr d).toList ++ control))
    (hacks : sys.acks.Perm ((Datagram.ack rou1Addr d).toList ++ acks)) :
    { sys with control := control, acks := acks }.Shows m rou1Addr
      { net with flight := net.flight.erase d } where
  primary := h.primary
  secondary := h.secondary
  control := (List.perm_append_left_iff _).1 <| hcontrol.symm.trans <|
    h.control.trans (perm_filterMap_erase _ hd)
  acks := (List.perm_append_left_iff _).1 <| hacks.symm.trans <|
    h.acks.trans (perm_filterMap_erase _ hd)
  sound := fun d' hd' => h.sound d' (List.mem_of_mem_erase hd')
  timers := h.timers

/-- The primary router receives a datagram. -/
theorem receive (hc : c.Apart m rou1Addr) (h : sys.Shows m rou1Addr net) {st : Stack}
    {d : Datagram} {IpHeader : ℕ → Buffer}
    (hstep : net.receive c rou1Addr st d IpHeader = some net') :
    (socketBuffer d).Decodes ∧
      ∃ sys', sys.react c (.socket st (socketBuffer d).packet d.iPort) = some sys' ∧
        sys'.Shows m rou1Addr net' := by
  obtain ⟨hdecodes, hstep⟩ := Option.ite_none_right_eq_some.1 hstep
  exact ⟨hdecodes, h.react hc (fun _ _ _ he => PrimEvent.noConfusion he) hstep⟩

/-- A reaction of a secondary router. -/
theorem second (h : sys.Shows m rou1Addr net) {i : Fin 3} {s : Second} {Router : CRouter}
    (hs : s.router.SameControl Router) (flight : List Datagram) {acks : List OctaneControl}
    (hcontrol : flight.filterMap (Datagram.control rou1Addr) = [])
    (hacks : flight.filterMap (Datagram.ack rou1Addr) = acks)
    (hsound : ∀ d ∈ flight, d.Sound rou1Addr) :
    { sys with
      secondary := Function.update sys.secondary i Router
      acks := sys.acks ++ acks }.Shows m rou1Addr
      { net with
        secondary := Function.update net.secondary i s
        flight := net.flight ++ flight } := by
  refine ⟨h.primary, fun j => ?_, ?_, ?_, ?_, h.timers⟩
  · dsimp only
    rcases eq_or_ne j i with rfl | hj
    · rwa [Function.update_self, Function.update_self]
    · rw [Function.update_of_ne hj, Function.update_of_ne hj]
      exact h.secondary j
  · rw [List.filterMap_append, hcontrol, List.append_nil]
    exact h.control
  · rw [List.filterMap_append, hacks]
    exact h.acks.append_right acks
  · intro d hd
    rcases List.mem_append.1 hd with hd | hd
    · exact h.sound d hd
    · exact hsound d hd

/-- A packet at a secondary router. -/
theorem forwarded (h : sys.Shows m rou1Addr net) {i : Fin 3} {s : Second} {addr : SockAddr}
    (hs : (net.secondary i).Forwarded s) :
    sys.Shows m rou1Addr
      { net with
        secondary := Function.update net.secondary i s
        flight := net.flight ++
          (s.sent.drop (net.secondary i).sent.length).filterMap (SecondOut.datagram addr) } := by
  obtain ⟨out, hsent, hout⟩ := hs.sent
  have hdrop : s.sent.drop (net.secondary i).sent.length = out := by
    rw [hsent, List.drop_left]
  have hnew : ∀ d ∈ out.filterMap (SecondOut.datagram addr),
      (Buffer.ofList d.bytes).ipP ≠ octaneProtocolNum := by
    intro d hd
    obtain ⟨x, hx, hxd⟩ := List.mem_filterMap.1 hd
    cases x with
    | udp dst bytes =>
        obtain rfl := Option.some.inj hxd
        exact hout _ hx
    | raw p dst bytes => exact absurd hxd.symm (Option.some_ne_none d)
  have hcontrol : (out.filterMap (SecondOut.datagram addr)).filterMap
      (Datagram.control rou1Addr) = [] := List.filterMap_eq_nil_iff.2 fun d hd => by
    rw [Datagram.control, octaneOf_eq_none (hnew d hd), Option.map_none, ite_self]
  have hacks : (out.filterMap (SecondOut.datagram addr)).filterMap
      (Datagram.ack rou1Addr) = [] := List.filterMap_eq_nil_iff.2 fun d hd => by
    rw [Datagram.ack, octaneOf_eq_none (hnew d hd), ite_self]
  have hshows := h.second (i := i) (hs.sameControl.trans (h.secondary i)) _ hcontrol hacks
    fun d hd => ⟨fun hp => absurd hp (hnew d hd), fun hp => absurd hp (hnew d hd)⟩
  rwa [Function.update_eq_self, List.append_nil, ← hdrop] at hshows

/-- A control message at a secondary router. -/
theorem received (h : sys.Shows m rou1Addr net) {i : Fin 3} {s : Second} {addr : SockAddr}
    (haddr : addr ≠ rou1Addr) {datagram : List UInt8} {msg : OctaneControl}
    (hcarries : (Buffer.ofList datagram).CarriesControl msg)
    (hs : (net.secondary i).Received s datagram rou1Addr msg) :
    (sys.receive i msg).Shows m rou1Addr
      { net with
        secondary := Function.update net.secondary i s
        flight := net.flight ++
          (s.sent.drop (net.secondary i).sent.length).filterMap (SecondOut.datagram addr) } := by
  obtain ⟨hsame, hack⟩ := (h.secondary i).receiveControl msg
  have hdrop : s.sent.drop (net.secondary i).sent.length =
      if ((sys.secondary i).receiveControl msg).2.isSome then
        [.udp rou1Addr (ackBytes datagram)] else [] := by
    rw [hs.sent, List.drop_left, hack]
  have hreceive : sys.receive i msg =
      { sys with
        secondary := Function.update sys.secondary i ((sys.secondary i).receiveControl msg).1
        acks := sys.acks ++ ((sys.secondary i).receiveControl msg).2.toList } := rfl
  rw [← hs.router] at hsame
  rw [hdrop, hreceive]
  cases hmsg : ((sys.secondary i).receiveControl msg).2 with
  | none =>
      have hshows := h.second (i := i) hsame [] rfl rfl (by simp)
      exact hshows
  | some ack =>
      have heq : ack = octaneReplyEdit msg :=
        CRouter.eq_of_mem_receiveControl (by rw [hmsg]; exact List.mem_singleton_self ack)
      have hoctane : octaneOf (ackBytes datagram) = some ack := by
        rw [heq, octaneOf_ackBytes hs.octane hcarries.iIpHeaderLen.ge]
      have hackbytes := Buffer.carriesControl_ackBytes hcarries
      -- The acknowledgement is one of 65500 bytes.
      generalize ackBytes datagram = bytes at hoctane hackbytes ⊢
      have hsound : Datagram.Sound rou1Addr ⟨addr, rou1Addr, bytes⟩ :=
        ⟨fun _ => ⟨_, hackbytes⟩, fun _ => iff_of_false haddr (not_not_intro rfl)⟩
      have hshows := h.second (i := i) hsame [⟨addr, rou1Addr, bytes⟩]
        (List.filterMap_cons_none (if_neg haddr))
        (List.filterMap_cons_some ((if_neg haddr).trans hoctane))
        (by simpa using hsound)
      exact hshows

/-- A datagram with a control message is read as it has been sent. -/
theorem octane_of_sound {d : Datagram} (hd : d.Sound rou1Addr)
    (hp : (Buffer.ofList d.bytes).ipP = octaneProtocolNum) :
    ∃ msg, octaneOf d.bytes = some msg ∧ (Buffer.ofList d.bytes).CarriesControl msg ∧
      (socketBuffer d).packet.octane = msg := by
  obtain ⟨msg, hmsg⟩ := hd.carries hp
  refine ⟨msg, (if_pos hp).trans hmsg.octaneUnpack, hmsg, ?_⟩
  exact (hmsg.ofList_take (by omega)).packet_octane

theorem ipP_socketBuffer (d : Datagram) : (socketBuffer d).ipP = (Buffer.ofList d.bytes).ipP :=
  Buffer.ofList_take (by omega)

/-- A datagram that arrives at the primary router. -/
theorem socket (hc : c.Apart m rou1Addr) (h : sys.Shows m rou1Addr net) {st : Stack}
    {d : Datagram} {IpHeader : ℕ → Buffer} (hd : d ∈ net.flight) (hdst : d.dst = rou1Addr)
    (hstep : { net with flight := net.flight.erase d }.receive c rou1Addr st d IpHeader =
      some net') :
    ∃ sys', run (sysStep c) sys
        ((NetEvent.socket st d IpHeader).sysEvent rou1Addr).toList = some sys' ∧
      sys'.Shows m rou1Addr net' := by
  have hsound := h.sound d hd
  have hp := ipP_socketBuffer d
  have hcontrol : Datagram.control rou1Addr d = none := by
    rw [Datagram.control]
    split_ifs with hsrc
    · refine Option.map_eq_none_iff.2 (octaneOf_eq_none fun hp => ?_)
      exact ((hsound.between hp).1 hsrc) hdst
    · rfl
  by_cases hoctane : (socketBuffer d).ipP = octaneProtocolNum
  · rw [NetEvent.sysEvent, if_pos hoctane]
    have hoctane' := hp.symm.trans hoctane
    obtain ⟨msg, hmsg, -, hpacket⟩ := octane_of_sound hsound hoctane'
    have hack : Datagram.ack rou1Addr d = some msg :=
      (if_neg fun hsrc => (hsound.between hoctane').1 hsrc hdst).trans hmsg
    have hmem : msg ∈ sys.acks :=
      h.acks.mem_iff.2 (List.mem_filterMap.2 ⟨d, hd, hack⟩)
    have hshows := h.erase hd sys.control (sys.acks.erase msg)
      (by rw [hcontrol]; rfl) (by rw [hack]; exact List.perm_cons_erase hmem)
    obtain ⟨-, sys', hreact, hsys'⟩ := hshows.receive hc hstep
    refine ⟨sys', run_cons.2 ⟨sys', ?_, rfl⟩, hsys'⟩
    rw [← hpacket] at hmem hreact
    exact (if_pos ⟨hoctane, hmem⟩).trans hreact
  · rw [NetEvent.sysEvent, if_neg hoctane]
    have hack : Datagram.ack rou1Addr d = none := by
      rw [Datagram.ack, octaneOf_eq_none (hp ▸ hoctane), ite_self]
    have hshows := h.erase hd sys.control sys.acks
      (by rw [hcontrol]; rfl) (by rw [hack]; rfl)
    obtain ⟨-, sys', hreact, hsys'⟩ := hshows.receive hc hstep
    exact ⟨sys', run_cons.2 ⟨sys', (if_pos hoctane).trans hreact, rfl⟩, hsys'⟩

/-- A datagram that arrives at a secondary router. -/
theorem udp (hc : c.Apart m rou1Addr) (h : sys.Shows m rou1Addr net) {i : Fin 3} {u : Uninit}
    {d : Datagram} (hd : d ∈ net.flight) (hdst : d.dst = .local (c.secondPort i))
    (hstep : { net with flight := net.flight.erase d }.second c i (.udp u d.bytes d.src) =
      some net') :
    ∃ sys', run (sysStep c) sys ((NetEvent.udp i u d).sysEvent rou1Addr).toList = some sys' ∧
      sys'.Shows m rou1Addr net' := by
  have hsound := h.sound d hd
  have hto : d.dst ≠ rou1Addr := hdst ▸ hc.second i
  have hwf : (SecondEvent.udp u d.bytes d.src).WellFormed := by
    intro hsome
    by_cases hp : (Buffer.ofList d.bytes).ipP = octaneProtocolNum
    · obtain ⟨msg, hmsg⟩ := hsound.carries hp
      exact hmsg.iIpHeaderLen.ge
    · rw [octaneOf_eq_none hp] at hsome
      exact absurd hsome (by decide)
  obtain ⟨s, hsecond, rfl⟩ := Option.map_eq_some_iff.1 hstep
  rcases Second.secondStep_cases hwf hsecond with ⟨u', datagram, addr, msg, heq, hrec⟩ |
    ⟨hnone, hforwarded⟩
  · obtain ⟨rfl, rfl, rfl⟩ : u = u' ∧ d.bytes = datagram ∧ d.src = addr := by
      injection heq with hu hb hs
      exact ⟨hu, hb, hs⟩
    have hoctane := hrec.octane
    have hp := ipP_of_octaneOf hoctane
    have hsrc : d.src = rou1Addr := (hsound.between hp).2 hto
    obtain ⟨msg', hmsg', hcarries, -⟩ := octane_of_sound hsound hp
    obtain rfl := Option.some.inj (hoctane.symm.trans hmsg')
    have hcontrol : Datagram.control rou1Addr d = some (d.dst, msg) := by
      rw [Datagram.control, if_pos hsrc, hoctane, Option.map_some]
    have hack : Datagram.ack rou1Addr d = none := if_pos hsrc
    have hmem : (SockAddr.local (c.secondPort i), msg) ∈ sys.control :=
      h.control.mem_iff.2 (List.mem_filterMap.2 ⟨d, hd, hdst ▸ hcontrol⟩)
    have hshows := h.erase hd
      (sys.control.erase (.local (c.secondPort i), msg)) sys.acks
      (by rw [hcontrol, hdst]; exact List.perm_cons_erase hmem) (by rw [hack]; rfl)
    have hevent : (NetEvent.udp i u d).sysEvent rou1Addr = some (.deliver i msg) := by
      rw [NetEvent.sysEvent, hoctane, Option.map_some]
    rw [hevent]
    rw [hsrc] at hrec
    exact ⟨_, run_cons.2 ⟨_, if_pos hmem, rfl⟩, hshows.received (hc.second i) hcarries hrec⟩
  · have hnone' : octaneOf d.bytes = none := hnone
    have hcontrol : Datagram.control rou1Addr d = none := by
      rw [Datagram.control, hnone', Option.map_none, ite_self]
    have hack : Datagram.ack rou1Addr d = none := by rw [Datagram.ack, hnone', ite_self]
    have hshows := h.erase hd sys.control sys.acks
      (by rw [hcontrol]; rfl) (by rw [hack]; rfl)
    have hevent : (NetEvent.udp i u d).sysEvent rou1Addr = none := by
      rw [NetEvent.sysEvent, hnone', Option.map_none]
    rw [hevent]
    exact ⟨sys, rfl, hshows.forwarded hforwarded⟩

/-- A packet on a raw socket of a secondary router. -/
theorem raw (h : sys.Shows m rou1Addr net) {i : Fin 3} {e : SecondEvent} (he : e.WellFormed)
    (hnone : e.octane = none) (hstep : net.second c i e = some net') :
    sys.Shows m rou1Addr net' := by
  obtain ⟨s, hs, rfl⟩ := Option.map_eq_some_iff.1 hstep
  rcases Second.secondStep_cases he hs with ⟨u, bytes, addr, msg, rfl, hrec⟩ | ⟨-, hforwarded⟩
  · exact absurd (hnone.symm.trans hrec.octane) (Option.some_ne_none msg).symm
  · exact h.forwarded hforwarded

/-- Some datagrams are lost, repeated or overtaken. -/
theorem network (h : sys.Shows m rou1Addr net) {flight : List Datagram}
    (hsub : flight ⊆ net.flight) :
    ∃ sys', run (sysStep c) sys ((NetEvent.network flight).sysEvent rou1Addr).toList = some sys' ∧
      sys'.Shows m rou1Addr { net with flight := flight } := by
  have hcontrol : flight.filterMap (Datagram.control rou1Addr) ⊆ sys.control := fun x hx =>
    h.control.mem_iff.2 (List.filterMap_subset _ hsub hx)
  have hacks : flight.filterMap (Datagram.ack rou1Addr) ⊆ sys.acks := fun x hx =>
    h.acks.mem_iff.2 (List.filterMap_subset _ hsub hx)
  refine ⟨_, run_cons.2 ⟨_, if_pos ⟨hcontrol, hacks⟩, rfl⟩, ?_⟩
  exact ⟨h.primary, h.secondary, .refl _, .refl _, fun d hd => h.sound d (hsub hd), h.timers⟩

/-- Every step on bytes is a step on messages, or none. -/
theorem step (hc : c.Apart m rou1Addr) (h : sys.Shows m rou1Addr net) {e : NetEvent}
    (hstep : netStep c rou1Addr net e = some net') :
    ∃ sys', run (sysStep c) sys (e.sysEvent rou1Addr).toList = some sys' ∧
      sys'.Shows m rou1Addr net' := by
  have hone : ∀ {e' : SysEvent}, e.sysEvent rou1Addr = some e' →
      (∃ sys', sysStep c sys e' = some sys' ∧ sys'.Shows m rou1Addr net') →
      ∃ sys', run (sysStep c) sys (e.sysEvent rou1Addr).toList = some sys' ∧
        sys'.Shows m rou1Addr net' := by
    rintro e' he ⟨sys', hsys, hshows⟩
    rw [he]
    exact ⟨sys', run_cons.2 ⟨sys', hsys, rfl⟩, hshows⟩
  cases e with
  | tunnel st packet clock IpHeader =>
      refine hone rfl (h.react hc (fun st' p clock' he => ?_) hstep)
      injection he with _ hpacket
      rw [← hpacket]
      rfl
  | expire now IpHeader =>
      exact hone rfl (h.react hc (fun _ _ _ he => PrimEvent.noConfusion he) hstep)
  | socket st d IpHeader =>
      obtain ⟨⟨hd, hdst⟩, hstep⟩ := Option.ite_none_right_eq_some.1 hstep
      exact h.socket hc hd hdst hstep
  | portal st d IpHeader =>
      obtain ⟨hportal, hstep⟩ := Option.ite_none_right_eq_some.1 hstep
      obtain ⟨-, sys', hreact, hsys'⟩ := h.receive hc hstep
      exact hone rfl ⟨sys', (if_pos hportal).trans hreact, hsys'⟩
  | udp i u d =>
      obtain ⟨⟨hd, hdst⟩, hstep⟩ := Option.ite_none_right_eq_some.1 hstep
      exact h.udp hc hd hdst hstep
  | icmp i u memory packet iPort =>
      obtain ⟨hpacket, hstep⟩ := Option.ite_none_right_eq_some.1 hstep
      exact ⟨sys, rfl, h.raw (e := .icmp u memory packet iPort) hpacket rfl hstep⟩
  | tcp i u packet iPort =>
      obtain ⟨hpacket, hstep⟩ := Option.ite_none_right_eq_some.1 hstep
      exact ⟨sys, rfl, h.raw (e := .tcp u packet iPort) hpacket rfl hstep⟩
  | network flight =>
      obtain ⟨hsub, hstep⟩ := Option.ite_none_right_eq_some.1 hstep
      obtain rfl := Option.some.inj hstep
      exact h.network hsub

/-- The run lemma. -/
theorem of_run (hc : c.Apart m rou1Addr) (h : sys.Shows m rou1Addr net) {es : List NetEvent}
    (hrun : run (netStep c rou1Addr) net es = some net') :
    ∃ sys', run (sysStep c) sys (es.filterMap (NetEvent.sysEvent rou1Addr)) = some sys' ∧
      sys'.Shows m rou1Addr net' :=
  run_simulate (fun _ _ _ _ h hstep => h.step hc hstep) h hrun

/-- When the loops start, nothing is in flight. -/
theorem start {primary : Primary} (htimers : primary.ChildTimers m) (secondary : Fin 3 → Second) :
    (System.start primary fun i => (secondary i).router).Shows m rou1Addr
      (.start primary secondary) where
  primary := rfl
  secondary _ := .refl _
  control := .refl _
  acks := .refl _
  sound _ hd := absurd hd List.not_mem_nil
  timers := htimers

end System.Shows

/-! ### Runs -/

namespace Net

/-- Every run of the routers on bytes is a run of the routers on messages: whatever comes
in between, the datagrams with control messages are the messages in flight, and the
routers keep the same. -/
theorem shows_of_run (c : Config) (m : IntMap) (rou1Addr : SockAddr) (hc : c.Apart m rou1Addr)
    (primary : Primary) (htimers : primary.ChildTimers m) (secondary : Fin 3 → Second)
    (es : List NetEvent) (net : Net)
    (hrun : run (netStep c rou1Addr) (start primary secondary) es = some net) :
    ∃ sys, run (sysStep c) (System.start primary fun i => (secondary i).router)
        (es.filterMap (NetEvent.sysEvent rou1Addr)) = some sys ∧
      sys.Shows m rou1Addr net :=
  System.Shows.of_run hc (.start htimers secondary) hrun

/-- The children of stage 9. -/
def sampleChildren : IntMap := (((∅ : IntMap).insert 101 35).insert 102 36).insert 103 37

theorem childAddr_sample {addr : SockAddr} (h : ChildAddr sampleChildren addr) :
    addr ≠ .local 0x2200 := by
  obtain ⟨pid, port, hport, rfl⟩ := h
  have hports : port = 35 ∨ port = 36 ∨ port = 37 := by
    simp only [sampleChildren, Std.ExtTreeMap.getElem?_insert] at hport
    split_ifs at hport <;> simp_all
  rcases hports with rfl | rfl | rfl <;> decide

theorem apart_sample : System.sampleConfig.Apart sampleChildren (.local 0x2200) where
  stage := rfl
  children := ⟨⟨101, 35, by decide, by decide⟩, ⟨101, 35, by decide, by decide⟩,
    ⟨102, 36, by decide, by decide⟩, fun _ => ⟨103, 37, by decide, by decide⟩⟩
  child _ := childAddr_sample
  second := by decide

/-- A datagram from the primary router to the secondary router at `port`. -/
def controlDatagram (port : UInt16) (msg : OctaneControl) : List Datagram :=
  ((controlBytes .zero msg).map fun bytes => ⟨.local 0x2200, .local port, bytes⟩).toList

/-- A packet of an HTTP flow, whose forward rule is delivered. -/
def httpEvents (u : Uninit) : List NetEvent :=
  .tunnel default (tcpDatagram Second.sampleFlow) (fun _ => ⟨0, 0⟩) (fun _ => .zero) ::
    (controlDatagram 0x2500 ⟨1, 0, 1, 0x0F02000A, 0x0433050A, 0x409C, 0x5000, 6, 0⟩).map
      (.udp (Fin.last 2) u)

/-- Three secondary routers that have just been made. -/
def sampleSecondary (_ : Fin 3) : Second :=
  .start (.init 0 (.none _ _) (.none _ _) (.none _ _)) 0 0

/-- What is not initialised. -/
def sampleUninit : Uninit :=
  ⟨⟨0, 0, 0, 0⟩, FlowTable.defaultEntry, 0, ⟨0, 0⟩, SockAddr.local 0, 0⟩

theorem isSome_run_http :
    (run (netStep System.sampleConfig (.local 0x2200)) (start sampleStart sampleSecondary)
      (httpEvents sampleUninit)).isSome = true := by
  decide +kernel

/-- Its acknowledgement is in flight then. -/
theorem shows_of_run_http : ∃ (net : Net) (sys : System),
    run (netStep System.sampleConfig (.local 0x2200)) (start sampleStart sampleSecondary)
        (httpEvents sampleUninit) = some net ∧
      sys.Shows sampleChildren (.local 0x2200) net ∧
      sys.acks = [⟨1, 1, 1, 0x0F02000A, 0x0433050A, 0x409C, 0x5000, 6, 0⟩] := by
  obtain ⟨net, hnet⟩ := Option.isSome_iff_exists.1 isSome_run_http
  obtain ⟨sys, hsys, hshows⟩ := shows_of_run _ sampleChildren _ apart_sample sampleStart
    (fun p hp => absurd hp List.not_mem_nil) _ _ net hnet
  have hacks : (run (sysStep System.sampleConfig)
      (System.start sampleStart fun i => (sampleSecondary i).router)
      ((httpEvents sampleUninit).filterMap (NetEvent.sysEvent (.local 0x2200)))).map System.acks =
        some [⟨1, 1, 1, 0x0F02000A, 0x0433050A, 0x409C, 0x5000, 6, 0⟩] := by decide +kernel
  refine ⟨net, sys, hnet, hshows, ?_⟩
  obtain ⟨sys', hsys', hacks'⟩ := Option.map_eq_some_iff.1 hacks
  obtain rfl := Option.some.inj (hsys.symm.trans hsys')
  exact hacks'

end Net
