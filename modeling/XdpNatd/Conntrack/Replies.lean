import XdpNatd.Conntrack.Links
import XdpNatd.Ebpf.Reference
import XdpNatd.Testbed

namespace XdpNatd

open XdpNatd.Data XdpNatd.Ebpf XdpNatd.Daemon

variable {system start : System} {event : Event} {events earlier later : List Event}
variable {ctx : XdpContext} {kernel : Kernel} {key : ConnectionTuple} {nat : NATData}

theorem run_natAt_kept (guarded : Guarded System.step Event.Growing system events)
    (stored : natAt system.udpConntrack key = some nat) :
    natAt (run System.step system events).udpConntrack key = some nat := by
  let kept (system : System) : Prop := natAt system.udpConntrack key = some nat
  have preserved : ∀ state event, kept state → event.Growing state → kept (state.step event) :=
    fun state event stored growing => step_natAt_kept growing.keepsEntries stored
  exact guarded.invariant preserved stored

structure PairedSide (side : Flags) (containers : ContainerMap) (system : System) : Prop where
  unchanged : system.containers = containers
  exposes : system.ExposesContainers
  paired : PairedOn (natLink containers.addresses) {key | OnSide containers.addresses key side}
    (natAt system.udpConntrack)

theorem PairedSide.initial {side : Flags} (exposes : start.ExposesContainers)
    (empty : start.udpConntrack = .empty) : PairedSide side start.containers start where
  unchanged := rfl
  exposes := exposes
  paired := .empty fun key => by simp [natAt, empty]

structure Event.Outbound (system : System) (event : Event) : Prop where
  growing : event.Growing system
  outside : event.SentOutside system.containers.addresses
  ownMac : event.SentFromOwnMac system.containers

instance (system : System) : DecidablePred (Event.Outbound system) := fun event =>
  decidable_of_iff (event.Growing system ∧ event.SentOutside system.containers.addresses ∧
      event.SentFromOwnMac system.containers)
    ⟨fun ⟨growing, outside, ownMac⟩ => ⟨growing, outside, ownMac⟩,
      fun outbound => ⟨outbound.growing, outbound.outside, outbound.ownMac⟩⟩

/-- NAT data that leads back into a container is complete: the frame goes to the
interface and the MAC address of the container that it names. -/
def LeadsToContainers (containers : ContainerMap) (conntrack : Conntrack) : Prop :=
  ∀ key nat, OnSide containers.addresses key .dnat → natAt conntrack key = some nat →
    nat.devmapKey = nat.natAddr ∧
      ∀ container ∈ containers.get nat.natAddr, nat.fibMacs.fibDmac = container.macAddress

theorem LeadsToContainers.step {containers : ContainerMap} (known : system.containers = containers)
    (exposes : system.ExposesContainers) (leads : LeadsToContainers containers system.udpConntrack)
    (outbound : event.Outbound system) :
    LeadsToContainers containers (system.step event).udpConntrack := by
  subst known
  cases event with
  | sweepAtOnce now => exact outbound.growing.keepsEntries.elim
  | removeNext => exact outbound.growing.keepsEntries.elim
  | exposePort | unexposePort | writeExposeMap | writePnic | beginSweep | examine | endScan =>
      exact leads
  | frame flag ctx kernel =>
      intro key nat outside stored
      rw [step_frame_conntrack] at stored
      rcases natAt_new stored with before | ⟨_, flow, side, _, opened, rfl, rfl⟩
      · exact leads key nat outside before
      have skeySide : OnSide system.containers.addresses flow.skey .snat :=
        newFlow_skey_side outbound.growing.sent exposes.exposesInto opened
      cases side with
      | snat => exact absurd skeySide outside
      | dnat =>
          cases flag with
          | snat =>
              obtain ⟨_, _, _, devmapKey, mac⟩ := snatFlow_spec opened
              refine ⟨devmapKey, fun container found => mac.trans ?_⟩
              have source : flow.skey.srcAddr = flow.dnat.natAddr := by rw [flow.skey_eq]; rfl
              exact outbound.ownMac flow.skey (newFlow_key opened) container (source ▸ found)
          | dnat =>
              obtain ⟨info, exposed, address, _, devmapKey, mac, _⟩ := dnatFlow_spec opened
              obtain ⟨owner, ownerKnown, ownerMac⟩ := exposes _ info exposed
              refine ⟨devmapKey.trans address.symm, fun container found => ?_⟩
              have same : owner = container := by
                have found : system.containers.get flow.dnat.natAddr = some container := found
                rw [address, ownerKnown] at found
                exact Option.some.inj found
              rw [← same, ← ownerMac]
              exact mac

theorem PairedSide.outbound {containers : ContainerMap} (known : PairedSide .snat containers system)
    (outbound : event.Outbound system) (free : event.FindsReplyKeyFree .snat system) :
    PairedSide .snat containers (system.step event) where
  unchanged := step_containers.trans known.unchanged
  exposes := known.exposes.step outbound.growing.keepsExposures
  paired := by
    obtain ⟨rfl, exposes, paired⟩ := known
    refine outbound.growing.pairedOn paired (fun flag ctx kernel flow shape opened => ?_) free
    subst shape
    refine newFlow_dkey_side outbound.growing.sent (fun own => ?_) opened
    subst own
    exact outbound.outside

/-- NIC frames that answer the container frame `ctx`, which was looked up under
`key` and left with the tuple `sent`, go back to its sender. -/
def RepliesReturn (system : System) (ctx : XdpContext) (key sent : ConnectionTuple) : Prop :=
  ∀ reply kernel, frameTuple reply.data = some sent.reversed →
    ∃ back, translation .dnat kernel system.maps reply = some back ∧
      back.natAddr = key.srcAddr ∧ back.natPort = key.srcPort ∧
      back.fibMacs.fibDmac = loadArray 6 ctx.data (EthHdr.srcAddr eth) ∧
      back.devmapKey = key.srcAddr

/-- Frames of the container flow on file under `key` that carry the port which they
are given leave with the tuple `sent`. -/
def LeavesWith (system : System) (key sent : ConnectionTuple) : Prop :=
  OnSide system.containers.addresses key .snat ∧ (system.udpConntrack.get key).isSome ∧
    ∃ ctx kernel, frameTuple ctx.data = some key ∧ CarriesPort .snat system.maps ctx.data key ∧
      frameTuple (system.verdict .snat ctx kernel).data = some sent

def ExternalTuplesDistinct (system : System) : Prop :=
  ∀ left right sent, LeavesWith system left sent → LeavesWith system right sent → left = right

theorem natAt_of_leavesWith {sent : ConnectionTuple} (leaves : LeavesWith system key sent) :
    ∃ nat, natAt system.udpConntrack key = some nat ∧ sent = translateTuple .snat nat key := by
  obtain ⟨_, found, ctx, kernel, tuple, carries, left⟩ := leaves
  obtain ⟨state, stored⟩ := Option.isSome_iff_exists.mp found
  have own : natAt system.udpConntrack key = some state.nat := natAt_eq_some.mpr ⟨state, stored, rfl⟩
  have translated : translation .snat kernel system.maps ctx = some state.nat :=
    translation_of_natAt tuple own
  rw [System.verdict_eq, (translated_tuple_iff_carriesPort tuple translated).mpr carries] at left
  exact ⟨state.nat, own, (Option.some.inj left).symm⟩

theorem repliesReturn_of_paired {containers : ContainerMap} {container : ContainerMetadata}
    (known : PairedSide .snat containers system)
    (leads : LeadsToContainers containers system.udpConntrack)
    (stored : natAt system.udpConntrack key = some nat)
    (sender : containers.get key.srcAddr = some container)
    (ownMac : loadArray 6 ctx.data (EthHdr.srcAddr eth) = container.macAddress) :
    RepliesReturn system ctx key (translateTuple .snat nat key) := by
  intro reply kernel replyTuple
  have inside : OnSide containers.addresses key .snat :=
    Option.isSome_iff_exists.mpr ⟨container, sender⟩
  obtain ⟨partner, back, found, linked⟩ := known.paired key inside nat stored
  obtain ⟨rfl, partnerSide, backward⟩ := linked_of_onSide inside linked
  obtain ⟨devmapKey, mac⟩ := leads _ back partnerSide found
  have address : key.srcAddr = back.natAddr := congrArg ConnectionTuple.srcAddr backward
  have port : key.srcPort = back.natPort := congrArg ConnectionTuple.srcPort backward
  refine ⟨back, translation_of_natAt replyTuple found, address.symm, port.symm, ?_,
    devmapKey.trans address.symm⟩
  rw [ownMac]
  exact mac container (by rw [← address]; exact sender)

theorem externalTuplesDistinct_of_paired {containers : ContainerMap}
    (known : PairedSide .snat containers system) : ExternalTuplesDistinct system := by
  obtain ⟨rfl, _, paired⟩ := known
  intro left right sent leftLeaves rightLeaves
  obtain ⟨leftNat, leftStored, rfl⟩ := natAt_of_leavesWith leftLeaves
  obtain ⟨rightNat, rightStored, same⟩ := natAt_of_leavesWith rightLeaves
  have leftInside := leftLeaves.1
  have rightInside := rightLeaves.1
  have replies : reverseKey .snat left leftNat = reverseKey .snat right rightNat :=
    congrArg ConnectionTuple.reversed same
  refine paired.injective leftInside rightInside leftStored rightStored ?_
  intro first _ second _ leftLinked rightLinked
  rw [(linked_of_onSide leftInside leftLinked).1, (linked_of_onSide rightInside rightLinked).1, replies]

/-- In every run whose outbound flows find their reply keys free, a translated
container frame that carries the port which it is given leaves with an external
tuple whose answers reach the container, and no other container flow leaves with it. -/
theorem replies_reach_originator
    (empty : start.udpConntrack = .empty) (exposes : start.ExposesContainers)
    (guarded : Guarded System.step
      (fun system event => event.Outbound system ∧ event.FindsReplyKeyFree .snat system)
      start (earlier ++ .frame .snat ctx kernel :: later))
    (tuple : frameTuple ctx.data = some key)
    (translated : translation .snat kernel (run System.step start earlier).maps ctx = some nat)
    (carries : CarriesPort .snat (run System.step start earlier).maps ctx.data key) :
    let sent : ConnectionTuple := ⟨nat.natAddr, key.dstAddr, nat.natPort, key.dstPort⟩
    let final := run System.step start (earlier ++ .frame .snat ctx kernel :: later)
    frameTuple ((run System.step start earlier).verdict .snat ctx kernel).data = some sent ∧
      RepliesReturn final ctx key sent ∧ ExternalTuplesDistinct final := by
  let invariant (system : System) : Prop :=
    PairedSide .snat start.containers system ∧
      LeadsToContainers start.containers system.udpConntrack
  have initially : invariant start :=
    ⟨.initial exposes empty, fun key nat _ stored => by simp [natAt, empty] at stored⟩
  have preserved : ∀ state event, invariant state →
      (event.Outbound state ∧ event.FindsReplyKeyFree .snat state) → invariant (state.step event) := by
    rintro state event ⟨known, leads⟩ ⟨outbound, free⟩
    exact ⟨known.outbound outbound free, leads.step known.unchanged known.exposes outbound⟩
  intro sent final
  obtain ⟨known, leads⟩ : invariant final := guarded.invariant preserved initially
  obtain ⟨before, after⟩ := guarded_append.mp guarded
  have sending := before.invariant preserved initially
  obtain ⟨⟨outbound, _⟩, rest⟩ := after
  -- the frame leaves its NAT data in the table, and nothing removes it
  have recorded : natAt ((run System.step start earlier).step (.frame .snat ctx kernel)).udpConntrack
      key = some nat := natAt_step_translated tuple translated outbound.growing.room
  have stored : natAt final.udpConntrack key = some nat := by
    change natAt (run System.step start _).udpConntrack key = some nat
    rw [run_append, run_cons]
    exact run_natAt_kept (rest.weaken fun _ _ both => both.1.growing) recorded
  have inside : (start.containers.get key.srcAddr).isSome := by
    have own := outbound.growing.sent key tuple
    rwa [sending.1.unchanged] at own
  obtain ⟨container, sender⟩ := Option.isSome_iff_exists.mp inside
  have ownMac := outbound.ownMac key tuple container (by rw [sending.1.unchanged]; exact sender)
  refine ⟨?_, repliesReturn_of_paired known leads stored sender ownMac,
    externalTuplesDistinct_of_paired known⟩
  rw [System.verdict_eq]
  exact (translated_tuple_iff_carriesPort tuple translated).mpr carries

open Testbed in
theorem replies_reach_node_a :
    RepliesReturn
      (run System.step exposing
        ([.frame .dnat (fromNic ⟨remote, hostIp, 7000, 10000⟩ 0x1234) (kernelAt 0)] ++
          .frame .snat (fromContainer 10 ⟨nodeA, remote, 4000, 53⟩ 0x1234) (kernelAt 1) ::
          [.frame .snat (fromContainer 20 ⟨nodeB, remote, 4001, 53⟩ 0) (kernelAt 2)]))
      (fromContainer 10 ⟨nodeA, remote, 4000, 53⟩ 0x1234) ⟨nodeA, remote, 4000, 53⟩
      ⟨hostIp, remote, 4000, 53⟩ :=
  (@replies_reach_originator exposing _ _ _ _ _ ⟨hostIp, 4000, ⟨hostMac, gatewayMac⟩, 0⟩ rfl
    exposing_exposesContainers (by decide +kernel)
    (frameTuple_fromContainer 10 ⟨nodeA, remote, 4000, 53⟩ 0x1234) (by decide +kernel)
    (by decide +kernel)).2.1

open Testbed in
/-- Nodes A and B ask the same resolver from the same port: the reply key is
taken by node A when node B sends, and the answer to node B goes to node A. And an
answer of node B without a UDP checksum leaves from its own port instead of the
exposed one, so that what the peer sends back is not translated at all. -/
theorem replies_reach_another_container :
    (¬ ∀ (start : System) (earlier later : List Event) (ctx : XdpContext) (kernel : Kernel)
        (key sent : ConnectionTuple),
      start.udpConntrack = .empty → start.ExposesContainers →
      Guarded System.step Event.Outbound start (earlier ++ .frame .snat ctx kernel :: later) →
      frameTuple ctx.data = some key →
      (translation .snat kernel (run System.step start earlier).maps ctx).isSome →
      frameTuple ((run System.step start earlier).verdict .snat ctx kernel).data = some sent →
      RepliesReturn (run System.step start (earlier ++ .frame .snat ctx kernel :: later)) ctx key sent) ∧
    let answer : XdpContext := fromContainer 20 ⟨nodeB, remote, 5201, 7000⟩ 0
    let asked := run System.step exposing
      [.frame .dnat (fromNic ⟨remote, hostIp, 7000, 10000⟩ 0x1234) (kernelAt 0)]
    frameTuple (asked.verdict .snat answer (kernelAt 1)).data = some ⟨hostIp, remote, 5201, 7000⟩ ∧
      translation .dnat (kernelAt 2) (asked.step (.frame .snat answer (kernelAt 1))).maps
        (fromNic ⟨remote, hostIp, 7000, 5201⟩ 0x1234) = none := by
  constructor
  · intro always
    have answered := always host
      [.frame .snat (fromContainer 10 ⟨nodeA, remote, 4000, 53⟩ 0x1234) (kernelAt 0)] []
      (fromContainer 20 ⟨nodeB, remote, 4000, 53⟩ 0x1234) (kernelAt 1)
      ⟨nodeB, remote, 4000, 53⟩ ⟨hostIp, remote, 4000, 53⟩
      rfl boot_exposesContainers (by decide +kernel) (frameTuple_fromContainer _ _ _)
      (by decide +kernel) (by decide +kernel)
    obtain ⟨back, translated, address, _⟩ := answered
      (fromNic ⟨remote, hostIp, 53, 4000⟩ 0x1234) (kernelAt 2) (frameTuple_fromNic _ _)
    have toNodeA : translation .dnat (kernelAt 2)
        (run System.step host
          ([.frame .snat (fromContainer 10 ⟨nodeA, remote, 4000, 53⟩ 0x1234) (kernelAt 0)] ++
            [.frame .snat (fromContainer 20 ⟨nodeB, remote, 4000, 53⟩ 0x1234) (kernelAt 1)])).maps
        (fromNic ⟨remote, hostIp, 53, 4000⟩ 0x1234) =
          some ⟨nodeA, 4000, ⟨hostMac, containerMac 10⟩, nodeA⟩ := by decide +kernel
    cases toNodeA.symm.trans translated
    exact absurd address (by decide)
  · decide +kernel

theorem PairedSide.inbound {containers : ContainerMap} (known : PairedSide .dnat containers system)
    (growing : event.Growing system) (free : event.FindsReplyKeyFree .dnat system) :
    PairedSide .dnat containers (system.step event) where
  unchanged := step_containers.trans known.unchanged
  exposes := known.exposes.step growing.keepsExposures
  paired := by
    obtain ⟨rfl, exposes, paired⟩ := known
    refine growing.pairedOn paired (fun flag ctx kernel flow shape opened => ?_) free
    subst shape
    exact newFlow_skey_side growing.sent exposes.exposesInto opened

/-- The container frame `answer` to an inbound frame that was looked up under
`key` and translated with `nat` is given the address and port that the inbound
frame was sent to, and carries them if it has a UDP checksum or no port to change. -/
def AnswerLeavesFrom (system : System) (key : ConnectionTuple) (nat : NATData) : Prop :=
  ∀ answer kernel,
    frameTuple answer.data = some ⟨nat.natAddr, key.srcAddr, nat.natPort, key.srcPort⟩ →
    (∃ back, translation .snat kernel system.maps answer = some back ∧
      back.natAddr = key.dstAddr ∧ back.natPort = key.dstPort) ∧
    (frameTuple (system.verdict .snat answer kernel).data =
        some ⟨key.dstAddr, key.srcAddr, key.dstPort, key.srcPort⟩ ↔
      loadU16 answer.data (UdpHdr.check udp) ≠ 0 ∨ nat.natPort = key.dstPort)

theorem answerLeavesFrom_of_paired {containers : ContainerMap}
    (known : PairedSide .dnat containers system)
    (stored : natAt system.udpConntrack key = some nat)
    (outside : OnSide containers.addresses key .dnat) : AnswerLeavesFrom system key nat := by
  intro answer kernel answerTuple
  obtain ⟨partner, back, found, linked⟩ := known.paired key outside nat stored
  obtain ⟨rfl, _, backward⟩ := linked_of_onSide outside linked
  have address : key.dstAddr = back.natAddr := congrArg ConnectionTuple.dstAddr backward
  have port : key.dstPort = back.natPort := congrArg ConnectionTuple.dstPort backward
  have translated : translation .snat kernel system.maps answer = some back :=
    translation_of_natAt answerTuple found
  refine ⟨⟨back, translated, address.symm, port.symm⟩, ?_⟩
  rw [address, port, eq_comm (a := nat.natPort)]
  exact translated_tuple_iff answerTuple translated

/-- In every run whose inbound flows find their reply keys free, the answers of a
container to each translated NIC frame leave from the port that the frame was
sent to. -/
theorem answers_leave_from_addressed_port
    (empty : start.udpConntrack = .empty) (exposes : start.ExposesContainers)
    (guarded : Guarded System.step
      (fun system event => event.Growing system ∧ event.FindsReplyKeyFree .dnat system)
      start (earlier ++ .frame .dnat ctx kernel :: later))
    (tuple : frameTuple ctx.data = some key)
    (translated : translation .dnat kernel (run System.step start earlier).maps ctx = some nat) :
    AnswerLeavesFrom (run System.step start (earlier ++ .frame .dnat ctx kernel :: later)) key nat := by
  have preserved : ∀ state event, PairedSide .dnat start.containers state →
      (event.Growing state ∧ event.FindsReplyKeyFree .dnat state) →
      PairedSide .dnat start.containers (state.step event) := by
    rintro state event known ⟨growing, free⟩
    exact known.inbound growing free
  have known := guarded.invariant preserved (.initial exposes empty)
  obtain ⟨before, after⟩ := guarded_append.mp guarded
  have arriving := before.invariant preserved (.initial exposes empty)
  obtain ⟨⟨growing, _⟩, rest⟩ := after
  have recorded : natAt ((run System.step start earlier).step (.frame .dnat ctx kernel)).udpConntrack
      key = some nat := natAt_step_translated tuple translated growing.room
  have stored := run_natAt_kept (rest.weaken fun _ _ both => both.1) recorded
  rw [run_append, run_cons] at known ⊢
  have outside := growing.sent key tuple
  rw [arriving.unchanged] at outside
  exact answerLeavesFrom_of_paired known stored outside

open Testbed in
theorem answers_of_node_b_leave_from_port_10000 :
    AnswerLeavesFrom
      (run System.step exposing
        ([.frame .snat (fromContainer 20 ⟨nodeB, remote, 5202, 7000⟩ 0x1234) (kernelAt 0)] ++
          .frame .dnat (fromNic ⟨remote, hostIp, 7000, 10000⟩ 0x1234) (kernelAt 1) ::
          [.exposePort ⟨nodeB, 5201⟩ succeeding]))
      ⟨remote, hostIp, 7000, 10000⟩ ⟨nodeB, 5201, ⟨hostMac, containerMac 20⟩, nodeB⟩ :=
  answers_leave_from_addressed_port rfl exposing_exposesContainers (by decide +kernel)
    (frameTuple_fromNic ⟨remote, hostIp, 7000, 10000⟩ 0x1234) (by decide +kernel)

open Testbed in
/-- The same container port is exposed on ports 10000 and 10001, and one peer
uses both from the same port: the answers on 10001 leave from port 10000. -/
theorem answers_leave_from_another_port :
    ¬ ∀ (start : System) (earlier later : List Event) (ctx : XdpContext) (kernel : Kernel)
        (key : ConnectionTuple) (nat : NATData),
      start.udpConntrack = .empty → start.ExposesContainers →
      Guarded System.step Event.Growing start (earlier ++ .frame .dnat ctx kernel :: later) →
      frameTuple ctx.data = some key →
      translation .dnat kernel (run System.step start earlier).maps ctx = some nat →
      ∀ answer kernel,
        frameTuple answer.data = some ⟨nat.natAddr, key.srcAddr, nat.natPort, key.srcPort⟩ →
        frameTuple ((run System.step start (earlier ++ .frame .dnat ctx kernel :: later)).verdict
            .snat answer kernel).data =
          some ⟨key.dstAddr, key.srcAddr, key.dstPort, key.srcPort⟩ := by
  intro always
  have answered := always exposing
    [.exposePort ⟨nodeB, 5201⟩ succeeding,
      .frame .dnat (fromNic ⟨remote, hostIp, 7000, 10000⟩ 0x1234) (kernelAt 0)] []
    (fromNic ⟨remote, hostIp, 7000, 10001⟩ 0x1234) (kernelAt 1)
    ⟨remote, hostIp, 7000, 10001⟩ ⟨nodeB, 5201, ⟨hostMac, containerMac 20⟩, nodeB⟩
    rfl exposing_exposesContainers (by decide +kernel) (frameTuple_fromNic _ _) (by decide +kernel)
    (fromContainer 20 ⟨nodeB, remote, 5201, 7000⟩ 0x1234) (kernelAt 2) (frameTuple_fromContainer _ _ _)
  exact absurd answered (by decide +kernel)

end XdpNatd
