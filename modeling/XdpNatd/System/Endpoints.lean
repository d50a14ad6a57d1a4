import XdpNatd.Conntrack.Exposure
import XdpNatd.Ebpf.Passes
import XdpNatd.System.Ports

namespace XdpNatd

open XdpNatd.Data XdpNatd.Ebpf XdpNatd.Daemon

variable {control : Control} {system : System} {port lower upper : UInt16} {calls : Calls}
variable {req : ExposeRequest} {response : Response} {rule : DnatRule} {info : ContainerInfo}
variable {ctx : XdpContext} {kernel : Kernel} {key : ConnectionTuple}

theorem rule_of_exposure (balanced : control.Balanced lower upper)
    (exposed : control.state.exposeMap.get port = some info) :
    ⟨port, info.containerIp, info.containerPort⟩ ∈ control.rules :=
  (balanced.rules ⟨port, info.containerIp, info.containerPort⟩).mpr ⟨info, exposed, rfl⟩

theorem exposure_of_rule (balanced : control.Balanced lower upper) (member : rule ∈ control.rules)
    (toPort : rule.hostPort = port) : ∃ info, control.state.exposeMap.get port = some info ∧
      rule = ⟨port, info.containerIp, info.containerPort⟩ := by
  obtain ⟨info, exposed, shape⟩ := (balanced.rules rule).mp member
  subst toPort
  exact ⟨info, exposed, shape⟩

theorem rule_unique {other : DnatRule} (balanced : control.Balanced lower upper)
    (member : rule ∈ control.rules) (second : other ∈ control.rules)
    (same : rule.hostPort = other.hostPort) : rule = other := by
  obtain ⟨info, exposed, shape⟩ := exposure_of_rule balanced member same
  obtain ⟨found, exposedToo, otherShape⟩ := exposure_of_rule balanced second rfl
  cases exposed.symm.trans exposedToo
  rw [shape, otherShape]

/-- The lookup of the way back that `process_udp_dnat` makes for a frame. -/
def routeBack (kernel : Kernel) (ctx : XdpContext) (key : ConnectionTuple) : Option FibMacs :=
  getFibMacs kernel (swap32 key.dstAddr) (swap32 key.srcAddr) .udp
    (swap16 (loadU16 ctx.data (Ipv4Hdr.totLen ipv4))) ctx.ingressIfindex

/-- A frame to a port opens a flow if the port is exposed and there is a way back. -/
theorem newFlow_isSome {maps : Maps} (tuple : frameTuple ctx.data = some key)
    (routed : (routeBack kernel ctx key).isSome) :
    (newFlow .dnat kernel maps ctx).isSome = (maps.exposeMap.get key.dstPort).isSome := by
  obtain ⟨⟨srcIp, dstIp⟩, parsed, rfl⟩ := Option.map_eq_some_iff.mp tuple
  obtain ⟨fibMacs, route⟩ := Option.isSome_iff_exists.mp routed
  have route : getFibMacs kernel (swap32 dstIp) (swap32 srcIp) .udp
    (swap16 (loadU16 ctx.data (Ipv4Hdr.totLen ipv4))) ctx.ingressIfindex = some fibMacs := route
  simp only [newFlow, parsed, Option.bind_some, dnatFlow, Option.bind_eq_bind, route]
  cases maps.exposeMap.get (udpDstPort ctx.data udp) <;> rfl

theorem translation_isSome_of_missed (tuple : frameTuple ctx.data = some key)
    (routed : (routeBack kernel ctx key).isSome) (missed : system.udpConntrack.get key = none) :
    (translation .dnat kernel system.maps ctx).isSome = (system.exposeMap.get key.dstPort).isSome := by
  have opens := @newFlow_isSome ctx kernel key system.maps tuple routed
  have missed : system.maps.udpConntrack.get key = none := missed
  rw [translation_eq, outcome_missed tuple missed]
  refine Eq.trans ?_ opens
  cases newFlow .dnat kernel system.maps ctx <;> rfl

/-- In every reachable state no port has two rules.  A UDP datagram that no flow on
file claims, and that has a way back, is headed for the container that the rule for
its port names, and leaves for the endpoint of the rule if it has a UDP checksum or no
port to change; without a rule it is passed as it came. -/
theorem udp_led_like_tcp {containers : ContainerMap} {redirectMap : DevMapHash} {nic : NICInfo}
    {events : List Event}
    (guarded : Guarded System.step (fun _ event => event.KeepsExposures)
      (System.boot containers redirectMap nic lower upper) events)
    (tuple : frameTuple ctx.data = some key) (routed : (routeBack kernel ctx key).isSome) :
    let system := run System.step (System.boot containers redirectMap nic lower upper) events
    let rules := system.control.rules
    let verdict := system.verdict .dnat ctx kernel
    (∀ rule ∈ rules, ∀ other ∈ rules, rule.hostPort = other.hostPort → rule = other) ∧
    (system.udpConntrack.get key = none →
      (∀ rule ∈ rules, rule.hostPort = key.dstPort → verdict.devmapKey = some rule.containerIp ∧
        (LeavesFor rule.containerIp rule.containerPort key verdict ↔
          loadU16 ctx.data (UdpHdr.check udp) ≠ 0 ∨ rule.containerPort = key.dstPort)) ∧
      ((∀ rule ∈ rules, rule.hostPort ≠ key.dstPort) →
        verdict.action = .pass ∧ verdict.data = ctx.data ∧
          verdict.udpConntrack = system.udpConntrack)) := by
  intro system rules verdict
  have balanced : system.control.Balanced lower upper := balanced_run guarded
  refine ⟨fun _ member _ second => rule_unique balanced member second, fun missed => ⟨?_, ?_⟩⟩
  · intro rule member toPort
    obtain ⟨info, exposed, rfl⟩ := exposure_of_rule balanced member toPort
    have present : (system.exposeMap.get key.dstPort).isSome := Option.isSome_iff_exists.mpr ⟨info, exposed⟩
    rw [← translation_isSome_of_missed tuple routed missed] at present
    obtain ⟨nat, translated⟩ := Option.isSome_iff_exists.mp present
    rcases translation_dnat_cases tuple translated with stored | ⟨_, found, exposedToo, leads⟩
    · cases (natAt_eq_none.mpr missed).symm.trans stored
    · cases exposed.symm.trans exposedToo
      refine ⟨?_, leavesFor_iff tuple translated leads⟩
      change (system.verdict .dnat ctx kernel).devmapKey = _
      rw [System.verdict_devmapKey, translated, Option.map_some, leads.devmapKey]
  · intro unruled
    have closed : system.exposeMap.get key.dstPort = none := by
      cases exposed : system.exposeMap.get key.dstPort with
      | none => rfl
      | some info => exact absurd rfl (unruled _ (rule_of_exposure balanced exposed))
    have untranslated : translation .dnat kernel system.maps ctx = none := by
      have absent := translation_isSome_of_missed tuple routed missed
      rw [closed] at absent
      simpa using absent
    change (system.verdict .dnat ctx kernel).action = _ ∧ (system.verdict .dnat ctx kernel).data = _ ∧
      (system.verdict .dnat ctx kernel).udpConntrack = _
    rw [System.verdict_eq]
    exact verdict_untranslated untranslated

open Testbed in
theorem udp_to_port_10000_led_like_tcp :
    LeavesFor nodeB 5201 ⟨remote, hostIp, 7000, 10000⟩
      ((run System.step host [.exposePort ⟨nodeB, 5201⟩ succeeding]).verdict .dnat
        (fromNic ⟨remote, hostIp, 7000, 10000⟩ 0x1234) (kernelAt 1)) :=
  (((@udp_led_like_tcp 10000 12000 (fromNic ⟨remote, hostIp, 7000, 10000⟩ 0x1234) (kernelAt 1)
    ⟨remote, hostIp, 7000, 10000⟩ containers redirectMap ⟨hostIp, 2⟩ [.exposePort ⟨nodeB, 5201⟩ succeeding]
    (by decide) (frameTuple_fromNic _ _) rfl).2 (by decide +kernel)).1 ⟨10000, nodeB, 5201⟩
    (by decide +kernel) rfl).2.mpr (Or.inl (by decide +kernel))

/-- What `exposePort` writes for a granted port, and that `unexposePort` takes it
back. -/
theorem unexposePort_exposePort {container : ContainerMetadata} {ports : List UInt16} {calls' : Calls}
    (balanced : control.Balanced lower upper)
    (queue : control.state.portAllocator.ports = port :: ports)
    (accepts : control.state.exposeMap.Accepts port) (deletes : calls'.iptables = .succeeded) :
    unexposePort calls' port
      { rules := control.rules ++ [⟨port, container.ipv4Address, req.containerPort⟩]
        state := { control.state with
          exposeMap := control.state.exposeMap.tryInsert port (exposure container req)
          portAllocator := ⟨ports⟩ } } =
      (.ok ⟨200, s!"Unexposed host port {port}"⟩,
        { control with state := { control.state with
          portAllocator := ⟨control.state.portAllocator.ports.rotate 1⟩ } }) := by
  have unruled : (⟨port, container.ipv4Address, req.containerPort⟩ : DnatRule) ∉ control.rules := by
    intro member
    obtain ⟨info, exposed, _⟩ := (balanced.rules _).mp member
    cases accepts.1.symm.trans exposed
  have granted := @unexposePort_granted calls'
    { rules := control.rules ++ [⟨port, container.ipv4Address, req.containerPort⟩]
      state := { control.state with
        exposeMap := control.state.exposeMap.tryInsert port (exposure container req)
        portAllocator := ⟨ports⟩ } } port (exposure container req)
    (BoundedMap.get_tryInsert_self accepts) (List.mem_append_right _ (List.mem_singleton_self _)) deletes
  rw [granted]
  simp only [exposure, List.erase_append_right _ unruled, List.erase_cons_head, List.append_nil, queue,
    PortAllocator.deallocate, List.rotate_cons_succ, List.rotate_zero]
  exact congrArg (fun exposeMap => (_, { control with state := { control.state with
    exposeMap, portAllocator := ⟨ports ++ [port]⟩ } })) (remove_tryInsert (exposure container req) accepts)

/-- In every reachable state a granted `expose_port` names the one port that gets an
exposure and a rule, those requested, and `unexpose_port` for this port undoes it if
its own call of `iptables` succeeds, but for the port's place in the queue. -/
theorem exposure_undone {containers : ContainerMap} {redirectMap : DevMapHash} {nic : NICInfo}
    {events : List Event}
    (guarded : Guarded System.step (fun _ event => event.KeepsExposures)
      (System.boot containers redirectMap nic lower upper) events)
    (granted : (exposePort calls req (run System.step
      (System.boot containers redirectMap nic lower upper) events).control).1 = .ok response) :
    let control := (run System.step (System.boot containers redirectMap nic lower upper) events).control
    let exposing := (exposePort calls req control).2
    ∃ port, response = ⟨200, s!"exposing container port {req.containerPort} on host port {port}"⟩ ∧
      (∀ rule ∈ control.rules, rule.hostPort ≠ port) ∧
      (∀ rule, rule ∈ exposing.rules ↔
        rule ∈ control.rules ∨ rule = ⟨port, req.containerIp, req.containerPort⟩) ∧
      (∀ other, (exposing.state.exposeMap.get other).map (fun info => (info.containerIp, info.containerPort)) =
        if other = port then some (req.containerIp, req.containerPort)
        else (control.state.exposeMap.get other).map fun info => (info.containerIp, info.containerPort)) ∧
      ∀ calls', calls'.iptables = .succeeded →
        unexposePort calls' port exposing = (.ok ⟨200, s!"Unexposed host port {port}"⟩,
          { control with state := { control.state with
            portAllocator := ⟨control.state.portAllocator.ports.rotate 1⟩ } }) := by
  intro control exposing
  have balanced : control.Balanced lower upper := balanced_run guarded
  obtain ⟨port, ports, queue, rfl⟩ := exposePort_response granted
  rcases exposePort_cases calls req control with
    ⟨_, _, answer, _⟩ | ⟨_, allocated, rest, container, answer, known, allocation, accepts⟩
  · rw [answer] at granted
    cases granted
  · obtain ⟨rfl, rfl⟩ := List.cons_eq_cons.mp (queue.symm.trans allocation)
    have written : exposing = _ := congrArg Prod.snd answer
    have own : container.ipv4Address = req.containerIp := control.state.containerMetas.keyed _ _ known
    refine ⟨port, rfl, ?_, ?_, ?_, ?_⟩
    · intro rule member toPort
      obtain ⟨info, exposed, _⟩ := exposure_of_rule balanced member toPort
      cases accepts.1.symm.trans exposed
    · intro rule
      rw [written, ← own, List.mem_append, List.mem_singleton]
    · intro other
      rw [written]
      by_cases same : other = port
      · rw [if_pos same, same, BoundedMap.get_tryInsert_self accepts, ← own]
        rfl
      · rw [if_neg same, BoundedMap.get_tryInsert_other same]
    · intro calls' deletes
      rw [written]
      exact unexposePort_exposePort balanced queue accepts deletes

open Testbed in
theorem exposure_of_node_c_undone :
    let control := (run System.step host [.exposePort ⟨nodeB, 5201⟩ succeeding]).control
    ∃ port, ⟨port, nodeC, 11111⟩ ∈ (exposePort succeeding ⟨nodeC, 11111⟩ control).2.rules ∧
      ∀ rule ∈ control.rules, rule.hostPort ≠ port := by
  intro control
  obtain ⟨port, _, unruled, ruled, _⟩ := @exposure_undone 10000 12000 succeeding ⟨nodeC, 11111⟩
    ⟨200, "exposing container port 11111 on host port 10001"⟩ containers redirectMap ⟨hostIp, 2⟩
    [.exposePort ⟨nodeB, 5201⟩ succeeding] (by decide) (by decide +kernel)
  exact ⟨port, (ruled ⟨port, nodeC, 11111⟩).mpr (Or.inr rfl), unruled⟩

end XdpNatd
