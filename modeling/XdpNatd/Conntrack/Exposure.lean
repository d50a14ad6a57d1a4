import XdpNatd.Conntrack.Links
import XdpNatd.Conntrack.Origin
import XdpNatd.Testbed

namespace XdpNatd

open XdpNatd.Data XdpNatd.Ebpf XdpNatd.Daemon

variable {system start : System} {event : Event} {events : List Event}
variable {ctx : XdpContext} {kernel : Kernel} {key : ConnectionTuple} {nat : NATData}
variable {port : UInt16} {info : ContainerInfo}

structure LeadsTo (info : ContainerInfo) (nat : NATData) : Prop where
  address : nat.natAddr = info.containerIp
  port : nat.natPort = info.containerPort
  devmapKey : nat.devmapKey = info.containerIp

/-- The frame that was looked up under `key` leaves for this endpoint. -/
structure LeavesFor (address : UInt32) (port : UInt16) (key : ConnectionTuple) (verdict : Verdict) :
    Prop where
  tuple : frameTuple verdict.data = some ⟨key.srcAddr, address, key.srcPort, port⟩
  devmapKey : verdict.devmapKey = some address

/-- NAT data for the endpoint bring a frame there if it has a UDP checksum, or no
port to change. -/
theorem leavesFor_iff (tuple : frameTuple ctx.data = some key)
    (translated : translation .dnat kernel system.maps ctx = some nat) (leads : LeadsTo info nat) :
    LeavesFor info.containerIp info.containerPort key (system.verdict .dnat ctx kernel) ↔
      loadU16 ctx.data (UdpHdr.check udp) ≠ 0 ∨ info.containerPort = key.dstPort := by
  obtain ⟨address, port, devmapKey⟩ := leads
  have rewritten := system.verdict_tuple_iff tuple translated
  rw [port] at rewritten
  refine Iff.trans ⟨fun leaves => ?_, fun own => ⟨?_, ?_⟩⟩ rewritten
  · rw [leaves.tuple, ← address, ← port]
    rfl
  · rw [own, ← address, ← port]
    rfl
  · rw [System.verdict_devmapKey, translated, Option.map_some, devmapKey]

theorem newFlow_leadsTo {maps : Maps} {flow : NewFlow}
    (opened : newFlow .dnat kernel maps ctx = some flow) :
    ∃ info, maps.exposeMap.get flow.dkey.dstPort = some info ∧ LeadsTo info flow.dnat := by
  obtain ⟨info, exposed, address, port, devmapKey, _⟩ := dnatFlow_spec opened
  exact ⟨info, exposed, address, port, devmapKey⟩

theorem translation_dnat_cases (tuple : frameTuple ctx.data = some key)
    (translated : translation .dnat kernel system.maps ctx = some nat) :
    natAt system.udpConntrack key = some nat ∨
    (system.udpConntrack.get key = none ∧
      ∃ info, system.exposeMap.get key.dstPort = some info ∧ LeadsTo info nat) := by
  rcases translation_cases translated with
    ⟨hitKey, state, _, hitTuple, found, sameNat⟩ | ⟨flow, _, opened, flowTuple, missed, rfl⟩
  · cases hitTuple.symm.trans tuple
    exact Or.inl (natAt_eq_some.mpr ⟨state, found, sameNat⟩)
  · cases flowTuple.symm.trans tuple
    exact Or.inr ⟨missed, newFlow_leadsTo opened⟩

def Event.KeepsExposed (port : UInt16) : Event → Prop
  | .unexposePort hostPort _ => hostPort ≠ port
  | .writeExposeMap _ => False
  | _ => True

instance (port : UInt16) : DecidablePred (Event.KeepsExposed port) := fun event =>
  decidable_of_bool
    (match event with | .unexposePort hostPort _ => hostPort ≠ port | .writeExposeMap _ => false | _ => true)
    (by cases event <;> simp [Event.KeepsExposed])

theorem Event.KeepsExposed.keepsExposures (keeps : event.KeepsExposed port) : event.KeepsExposures := by
  cases event with
  | writeExposeMap => exact keeps.elim
  | frame | exposePort | unexposePort | writePnic | sweepAtOnce | beginSweep | examine | endScan
  | removeNext => trivial

theorem step_exposed (exposed : system.exposeMap.get port = some info)
    (keeps : event.KeepsExposed port) : (system.step event).exposeMap.get port = some info := by
  cases event with
  | exposePort req calls =>
      change (exposePort calls req system.control).2.state.exposeMap.get port = _
      rcases exposePort_cases calls req system.control with
        ⟨_, _, answer, _⟩ | ⟨_, allocated, _, container, answer, _, _, _⟩ <;> rw [answer]
      · exact exposed
      · exact BoundedMap.get_tryInsert_present exposed
  | unexposePort hostPort calls =>
      change (unexposePort calls hostPort system.control).2.state.exposeMap.get port = _
      rcases unexposePort_cases calls hostPort system.control with
        ⟨_, answer⟩ | ⟨_, _, answer, _, _⟩ <;> rw [answer]
      · exact exposed
      · exact (BoundedMap.get_remove_other keeps.symm).trans exposed
  | writeExposeMap => exact keeps.elim
  | frame | writePnic | sweepAtOnce | beginSweep | examine | endScan | removeNext => exact exposed

/-- A container frame that is about to open a flow comes from a container or does
not go to the port; and it does not come from the port, or its reply entry finds
the key taken or no slot. A full table takes neither entry. -/
def Event.AvoidsPort (port : UInt16) (system : System) : Event → Prop :=
  Event.OnContainerFrames fun ctx kernel => ∀ key ∈ frameTuple ctx.data,
    system.udpConntrack.get key = none →
    (newFlow .snat kernel system.maps ctx).isSome → system.udpConntrack.size < 65536 →
      (key.srcAddr ∈ system.containers.addresses ∨ key.dstPort ≠ port) ∧
      (key.srcPort ≠ port ∨ (∃ reply ∈ replyKey .snat system.maps key,
          (system.udpConntrack.get reply).isSome) ∨
        ¬ system.udpConntrack.size + 1 < 65536)

instance (port : UInt16) (system : System) : DecidablePred (Event.AvoidsPort port system) :=
  Event.OnContainerFrames.decidable

def ReplyRefused (system : System) (kernel : Kernel) (flow : NewFlow) : Prop :=
  ¬ (system.udpConntrack.tryInsert flow.skey
      (.new flow.snat .original (kernel.ktimeGetCoarseNs + timeoutNew))).Accepts flow.dkey

theorem replyRefused_of_avoidsPort {flow : NewFlow}
    (opens : outcome .snat kernel system.maps ctx = .opens flow)
    (avoids : Event.AvoidsPort port system (.frame .snat ctx kernel))
    (captures : flow.dkey.dstPort = port) : ReplyRefused system kernel flow := by
  obtain ⟨opened, missed⟩ := opens_spec opens
  have missed : system.udpConntrack.get flow.skey = none := missed
  rintro ⟨absent, slot⟩
  have room : system.udpConntrack.size < 65536 := BoundedMap.size_le_tryInsert.trans_lt slot
  obtain ⟨_, notFrom⟩ := avoids flow.skey (newFlow_key opened) missed (by rw [opened]; rfl) room
  rcases notFrom with elsewhere | ⟨reply, sameReply, taken⟩ | short
  · obtain ⟨_, sourcePort, _⟩ := snatFlow_spec opened
    rw [flow.dkey_eq] at captures
    exact elsewhere (sourcePort.symm.trans captures)
  · cases sameReply.symm.trans (newFlow_replyKey opened)
    obtain ⟨state, found⟩ := Option.isSome_iff_exists.mp taken
    cases absent.symm.trans (BoundedMap.get_tryInsert_present found)
  · rw [BoundedMap.size_tryInsert_accepted ⟨missed, room⟩] at slot
    exact short slot

/-- What the table knows of a port that stays exposed: entries that a remote
address can reach through it lead to the endpoint. -/
structure PortKept (containers : ContainerMap) (port : UInt16) (info : ContainerInfo)
    (system : System) : Prop where
  unchanged : system.containers = containers
  exposes : system.ExposesContainers
  exposed : system.exposeMap.get port = some info
  leads : ∀ key nat, natAt system.udpConntrack key = some nat → key.dstPort = port →
    key.srcAddr ∉ containers.addresses → LeadsTo info nat

theorem PortKept.step {containers : ContainerMap} (known : PortKept containers port info system)
    (keeps : event.KeepsExposed port) (avoids : event.AvoidsPort port system) :
    PortKept containers port info (system.step event) where
  unchanged := step_containers.trans known.unchanged
  exposes := known.exposes.step keeps.keepsExposures
  exposed := step_exposed known.exposed keeps
  leads := by
    obtain ⟨rfl, exposes, exposed, leads⟩ := known
    intro key nat stored samePort outside
    rcases step_natAt_new stored with
      before | ⟨absent, flag, ctx, kernel, flow, side, rfl, opens, rfl, rfl⟩
    · exact leads key nat before samePort outside
    obtain ⟨opened, missed⟩ := opens_spec opens
    have recorded : (system.step (.frame flag ctx kernel)).udpConntrack =
        record system.udpConntrack kernel.ktimeGetCoarseNs (flow.key flag) (flow.nat flag)
          (flow.key flag.other) (flow.nat flag.other) :=
      step_opens_conntrack opens
    rw [recorded] at stored
    cases flag with
    | dnat =>
        obtain ⟨found, foundExposed, leadsTo⟩ := newFlow_leadsTo opened
        cases side with
        | dnat =>
            have samePort : flow.dkey.dstPort = port := samePort
            rw [samePort] at foundExposed
            cases exposed.symm.trans foundExposed
            exact leadsTo
        | snat =>
            have source : flow.skey.srcAddr = found.containerIp := by
              rw [flow.skey_eq]
              exact leadsTo.address
            exact absurd (source ▸ exposes.exposesInto _ found foundExposed) outside
    | snat =>
        have room : system.udpConntrack.size < 65536 := by
          by_contra full
          rw [record_full full] at stored
          cases absent.symm.trans stored
        have fromContainer := (avoids flow.skey (newFlow_key opened) missed (by rw [opened]; rfl) room).1
        -- a forward entry with this key would come from a forged source
        have notForward : flow.key side ≠ flow.skey := by
          intro same
          rw [same] at samePort outside
          exact fromContainer.elim outside fun elsewhere => elsewhere samePort
        cases side with
        | snat => exact absurd rfl notForward
        | dnat =>
            have refused := replyRefused_of_avoidsPort opens avoids samePort
            have nothing : (record system.udpConntrack kernel.ktimeGetCoarseNs flow.skey flow.snat
                flow.dkey flow.dnat).get flow.dkey = none :=
              (record_refused notForward refused).trans (natAt_eq_none.mp absent)
            cases (natAt_eq_none.mpr nothing).symm.trans stored

/-- In every run that keeps a port exposed and whose container frames avoid it,
each translated frame of a remote peer to the port is given the exposed endpoint,
and leaves for it if the frame has a UDP checksum or no port to change; and no
outbound flow gets a reply entry under the port. -/
theorem exposed_port_not_captured (empty : start.udpConntrack = .empty)
    (exposes : start.ExposesContainers) (exposed : start.exposeMap.get port = some info)
    (guarded : Guarded System.step
      (fun system event => event.KeepsExposed port ∧ event.AvoidsPort port system) start events) :
    (∀ ctx kernel key nat, frameTuple ctx.data = some key → key.dstPort = port →
      key.srcAddr ∉ start.containers.addresses →
      translation .dnat kernel (run System.step start events).maps ctx = some nat →
      LeadsTo info nat ∧
        (LeavesFor info.containerIp info.containerPort key
            ((run System.step start events).verdict .dnat ctx kernel) ↔
          loadU16 ctx.data (UdpHdr.check udp) ≠ 0 ∨ info.containerPort = port)) ∧
    (∀ before ctx kernel after flow, events = before ++ .frame .snat ctx kernel :: after →
      outcome .snat kernel (run System.step start before).maps ctx = .opens flow →
      flow.dkey.dstPort = port → ReplyRefused (run System.step start before) kernel flow) := by
  have initially : PortKept start.containers port info start :=
    ⟨rfl, exposes, exposed, fun key nat stored => by simp [natAt, empty] at stored⟩
  have preserved : ∀ state event, PortKept start.containers port info state →
      (event.KeepsExposed port ∧ event.AvoidsPort port state) →
      PortKept start.containers port info (state.step event) := by
    rintro state event known ⟨keeps, avoids⟩
    exact known.step keeps avoids
  constructor
  · intro ctx kernel key nat tuple samePort outside translated
    have known := guarded.invariant preserved initially
    have leads : LeadsTo info nat := by
      rcases translation_dnat_cases tuple translated with stored | ⟨_, found, foundExposed, leads⟩
      · exact known.leads key nat stored samePort outside
      · rw [samePort] at foundExposed
        cases known.exposed.symm.trans foundExposed
        exact leads
    refine ⟨leads, ?_⟩
    rw [leavesFor_iff tuple translated leads, samePort]
  · intro before ctx kernel after flow shape opens captures
    rw [shape] at guarded
    exact replyRefused_of_avoidsPort opens (guarded_append.mp guarded).2.1.2 captures

open Testbed in
theorem port_10000_leads_to_node_b :
    LeavesFor nodeB 5201 ⟨remote, hostIp, 53, 10000⟩
      ((run System.step exposing
        [.frame .snat (fromContainer 10 ⟨nodeA, remote, 4000, 53⟩ 0x1234) (kernelAt 0),
          .frame .dnat (fromNic ⟨remote, hostIp, 53, 10000⟩ 0x1234) (kernelAt 1)]).verdict .dnat
        (fromNic ⟨remote, hostIp, 53, 10000⟩ 0x1234) (kernelAt 2)) :=
  ((@exposed_port_not_captured exposing _ 10000 ⟨nodeB, containerMac 20, 5201, 12⟩ rfl
    exposing_exposesContainers (by decide +kernel) (by decide +kernel)).1
    (fromNic ⟨remote, hostIp, 53, 10000⟩ 0x1234) (kernelAt 2) ⟨remote, hostIp, 53, 10000⟩
    ⟨nodeB, 5201, ⟨hostMac, containerMac 20⟩, nodeB⟩ (frameTuple_fromNic _ _) rfl (by decide)
    (by decide +kernel)).2.mpr (Or.inl (by decide +kernel))

open Testbed in
/-- Node A asks a resolver from the port that is exposed for node B: what the
resolver sends to that port goes to node A. And a datagram without a UDP checksum
reaches node B on the host port. -/
theorem outbound_flow_captures_port :
    (¬ ∀ (start : System) (events : List Event) (port : UInt16) (info : ContainerInfo)
        (ctx : XdpContext) (kernel : Kernel) (key : ConnectionTuple),
      start.udpConntrack = .empty → start.ExposesContainers →
      start.exposeMap.get port = some info →
      Guarded System.step (fun system event => event.KeepsExposed port ∧
        event.SentFromOwnSide system.containers.addresses) start events →
      frameTuple ctx.data = some key → key.dstPort = port →
      key.srcAddr ∉ start.containers.addresses →
      (translation .dnat kernel (run System.step start events).maps ctx).isSome →
      LeavesFor info.containerIp info.containerPort key
        ((run System.step start events).verdict .dnat ctx kernel)) ∧
    frameTuple (exposing.verdict .dnat (fromNic ⟨remote, hostIp, 53, 10000⟩ 0) (kernelAt 0)).data =
      some ⟨remote, nodeB, 53, 10000⟩ := by
  constructor
  · intro always
    have leaves := always exposing
      [.frame .snat (fromContainer 10 ⟨nodeA, remote, 10000, 53⟩ 0x1234) (kernelAt 0)] 10000
      ⟨nodeB, containerMac 20, 5201, 12⟩ (fromNic ⟨remote, hostIp, 53, 10000⟩ 0x1234) (kernelAt 1)
      ⟨remote, hostIp, 53, 10000⟩ rfl exposing_exposesContainers (by decide +kernel) (by decide +kernel)
      (frameTuple_fromNic _ _) rfl (by decide) (by decide +kernel)
    exact absurd leaves.devmapKey (by decide +kernel)
  · decide +kernel

def Event.SourceOutsideRange (lower upper : UInt16) : Event → Prop :=
  Event.OnContainerFrames fun ctx _ => ∀ key ∈ frameTuple ctx.data,
    ¬ (lower ≤ key.srcPort ∧ key.srcPort ≤ upper)

instance (lower upper : UInt16) : DecidablePred (Event.SourceOutsideRange lower upper) :=
  Event.OnContainerFrames.decidable

/-- A step of the runs that interleave requests and traffic. -/
structure Event.Served (lower upper : UInt16) (system : System) (event : Event) : Prop where
  sent : event.SentFromOwnSide system.containers.addresses
  source : event.SourceOutsideRange lower upper
  keeps : event.KeepsExposures

instance (lower upper : UInt16) (system : System) : DecidablePred (Event.Served lower upper system) :=
  fun event => decidable_of_iff (event.SentFromOwnSide system.containers.addresses ∧
      event.SourceOutsideRange lower upper ∧ event.KeepsExposures)
    ⟨fun ⟨sent, source, keeps⟩ => ⟨sent, source, keeps⟩,
      fun served => ⟨served.sent, served.source, served.keeps⟩⟩

/-- The frame under `key` belongs to a flow that an earlier frame of the run
opened, when `EXPOSE_MAP` held `info` for its port, and that was in the table
with the same NAT data ever since. -/
def OpenedThrough (start : System) (events : List Event) (key : ConnectionTuple) (nat : NATData)
    (info : ContainerInfo) : Prop :=
  ∃ before ctx kernel after, events = before ++ .frame .dnat ctx kernel :: after ∧
    frameTuple ctx.data = some key ∧ (run System.step start before).udpConntrack.get key = none ∧
    (run System.step start before).exposeMap.get key.dstPort = some info ∧
    ∀ kept rest, after = kept ++ rest →
      natAt (run System.step start (before ++ .frame .dnat ctx kernel :: kept)).udpConntrack key =
        some nat

section Served

variable {lower upper : UInt16}

theorem served_exposes (exposes : start.ExposesContainers)
    (guarded : Guarded System.step (Event.Served lower upper) start events) :
    (run System.step start events).ExposesContainers := by
  have preserved : ∀ state event, System.ExposesContainers state → event.Served lower upper state →
      (state.step event).ExposesContainers :=
    fun state event exposes served => exposes.step served.keeps
  exact guarded.invariant preserved exposes

theorem openedThrough_of_stored (empty : start.udpConntrack = .empty)
    (exposes : start.ExposesContainers)
    (guarded : Guarded System.step (Event.Served lower upper) start events)
    (stored : natAt (run System.step start events).udpConntrack key = some nat)
    (outside : key.srcAddr ∉ start.containers.addresses)
    (range : lower ≤ key.dstPort ∧ key.dstPort ≤ upper) :
    ∃ info, LeadsTo info nat ∧ OpenedThrough start events key nat info := by
  obtain ⟨before, flag, ctx, kernel, after, flow, side, rfl, rfl, opens, rfl, absent, since⟩ :=
    exists_createdBy empty stored
  obtain ⟨early, served, _⟩ := guarded_append.mp guarded
  obtain ⟨opened, missed⟩ := opens_spec opens
  have exposesBefore := served_exposes exposes early
  have skeySide := newFlow_skey_side served.sent exposesBefore.exposesInto opened
  rw [run_containers] at skeySide
  cases side with
  | snat => exact absurd skeySide outside
  | dnat =>
      cases flag with
      | snat =>
          -- the reply port of an outbound flow is the source port of its frame
          obtain ⟨_, sourcePort, _⟩ := snatFlow_spec opened
          have captured : flow.skey.srcPort = (flow.key .dnat).dstPort := by
            rw [← sourcePort]
            exact congrArg ConnectionTuple.dstPort flow.dkey_eq.symm
          rw [← captured] at range
          exact absurd range (served.source flow.skey (newFlow_key opened))
      | dnat =>
          obtain ⟨info, exposed, leads⟩ := newFlow_leadsTo opened
          exact ⟨info, leads, before, ctx, kernel, after, rfl, newFlow_key opened, absent, exposed, since⟩

theorem unexposed_until_request {before after : List Event} {calls : Calls} {response : Response}
    (guarded : Guarded System.step (Event.Served lower upper) start
      (before ++ .unexposePort port calls :: after))
    (answered : (unexposePort calls port (run System.step start before).control).1 = .ok response)
    (never : ∀ mid req calls' rest, after = mid ++ .exposePort req calls' :: rest →
      (run System.step start
        (before ++ .unexposePort port calls :: (mid ++ [.exposePort req calls']))).exposeMap.get port =
          none) :
    (run System.step start (before ++ .unexposePort port calls :: after)).exposeMap.get port = none := by
  obtain ⟨_, _, later⟩ := guarded_append.mp guarded
  let property (system : System) : Prop := (system.exposeMap.get port).isSome
  have taken : ((run System.step start before).step (.unexposePort port calls)).exposeMap.get port =
      none := by
    change (unexposePort calls port (run System.step start before).control).2.state.exposeMap.get port = _
    rcases unexposePort_cases calls port (run System.step start before).control with
      ⟨_, answer⟩ | ⟨_, _, answer, _, _⟩ <;> rw [answer] at answered ⊢
    · cases answered
    · exact BoundedMap.get_remove_self
  have absent : ¬ property ((run System.step start before).step (.unexposePort port calls)) := by
    simp [property, taken]
  by_contra present
  rw [run_append, run_cons] at present
  obtain ⟨mid, event, rest, rfl, missing, lasting⟩ :=
    exists_established absent (Option.ne_none_iff_isSome.mp present)
  obtain ⟨info, exposed⟩ := Option.isSome_iff_exists.mp (lasting [] rest rfl)
  rw [run_append] at exposed
  obtain ⟨_, served, _⟩ := guarded_append.mp later
  rcases step_exposeMap_cases served.keeps exposed with earlier | ⟨req, calls', _, rfl, _⟩
  · exact missing (Option.isSome_iff_exists.mpr ⟨info, earlier⟩)
  · have nothing := never mid req calls' rest rfl
    rw [run_append, run_cons, run_append] at nothing
    cases nothing.symm.trans exposed

/-- A frame of a remote peer to a port of the range is translated to the endpoint
that `EXPOSE_MAP` holds now if it has no entry, and to the endpoint that it held
when the flow was opened if it has one; the frame leaves for this endpoint if it has
a UDP checksum or no port to change. Once a port was taken back, no frame
without an entry is translated until a request exposes the port again. -/
theorem exposure_decides_new_flows {containers : ContainerMap} {redirectMap : DevMapHash} {nic : NICInfo}
    (guarded : Guarded System.step (Event.Served lower upper)
      (.boot containers redirectMap nic lower upper) events) :
    let start := System.boot containers redirectMap nic lower upper
    let final := run System.step start events
    (∀ ctx kernel key nat, frameTuple ctx.data = some key → key.srcAddr ∉ containers.addresses →
      lower ≤ key.dstPort ∧ key.dstPort ≤ upper → translation .dnat kernel final.maps ctx = some nat →
      ∃ info, LeadsTo info nat ∧
        (LeavesFor info.containerIp info.containerPort key (final.verdict .dnat ctx kernel) ↔
          loadU16 ctx.data (UdpHdr.check udp) ≠ 0 ∨ info.containerPort = key.dstPort) ∧
        ((final.udpConntrack.get key = none ∧ final.exposeMap.get key.dstPort = some info) ∨
          OpenedThrough start events key nat info)) ∧
    (∀ before port calls response after, events = before ++ .unexposePort port calls :: after →
      (unexposePort calls port (run System.step start before).control).1 = .ok response →
      (∀ mid req calls' rest, after = mid ++ .exposePort req calls' :: rest →
        (run System.step start (before ++ .unexposePort port calls ::
          (mid ++ [.exposePort req calls']))).exposeMap.get port = none) →
      ∀ ctx kernel key, frameTuple ctx.data = some key → key.dstPort = port →
        final.udpConntrack.get key = none → translation .dnat kernel final.maps ctx = none) := by
  constructor
  · intro ctx kernel key nat tuple outside range translated
    rcases translation_dnat_cases tuple translated with stored | ⟨missed, info, exposed, leads⟩
    · obtain ⟨info, leads, opened⟩ :=
        openedThrough_of_stored rfl boot_exposesContainers guarded stored outside range
      exact ⟨info, leads, leavesFor_iff tuple translated leads, Or.inr opened⟩
    · exact ⟨info, leads, leavesFor_iff tuple translated leads, Or.inl ⟨missed, exposed⟩⟩
  · rintro before port calls response after rfl answered never ctx kernel key tuple rfl missed
    have closed := unexposed_until_request guarded answered never
    cases translated : translation .dnat kernel _ ctx with
    | none => rfl
    | some nat =>
        rcases translation_dnat_cases tuple translated with stored | ⟨_, info, exposed, _⟩
        · cases (natAt_eq_none.mpr missed).symm.trans stored
        · cases closed.symm.trans exposed

end Served

open Testbed in
/-- A port is exposed, used by one peer, and taken back. -/
def Testbed.portClosed : List Event :=
  [.exposePort ⟨nodeB, 5201⟩ succeeding,
    .frame .dnat (fromNic ⟨remote, hostIp, 7000, 10000⟩ 0x1234) (kernelAt 0),
    .unexposePort 10000 succeeding]

open Testbed in
theorem new_peer_not_translated_after_unexpose :
    translation .dnat (kernelAt 3) (run System.step host portClosed).maps
      (fromNic ⟨remote, hostIp, 7001, 10000⟩ 0x1234) = none :=
  (@exposure_decides_new_flows portClosed 10000 12000 containers redirectMap ⟨hostIp, 2⟩
    (by decide +kernel)).2
    (portClosed.take 2)
    10000 succeeding { status := 200, message := "Unexposed host port 10000" } [] rfl
    (by decide +kernel) (fun mid _ _ _ shape => by simp at shape) _ _ _
    (frameTuple_fromNic ⟨remote, hostIp, 7001, 10000⟩ 0x1234) rfl (by decide +kernel)

open Testbed in
/-- A peer of node B is still translated after the port was taken back; a datagram
without a UDP checksum reaches node B on the host port; and a container frame with
the peer's address as its source makes the program translate the peer to something
that no exposure ever named. -/
theorem translations_outlive_exposures :
    (¬ ∀ (events : List Event) (ctx : XdpContext) (kernel : Kernel) (key : ConnectionTuple)
        (nat : NATData),
      Guarded System.step (Event.Served portRange.1 portRange.2) host events →
      frameTuple ctx.data = some key → key.srcAddr ∉ containers.addresses →
      portRange.1 ≤ key.dstPort ∧ key.dstPort ≤ portRange.2 →
      translation .dnat kernel (run System.step host events).maps ctx = some nat →
      ∃ info, (run System.step host events).exposeMap.get key.dstPort = some info ∧
        LeadsTo info nat) ∧
    (exposing.exposeMap.get 10000 = some ⟨nodeB, containerMac 20, 5201, 12⟩ ∧
      frameTuple (exposing.verdict .dnat (fromNic ⟨remote, hostIp, 7000, 10000⟩ 0) (kernelAt 0)).data =
        some ⟨remote, nodeB, 7000, 10000⟩) ∧
    ∃ forged : List Event,
      (Guarded System.step (fun _ event => event.SourceOutsideRange portRange.1 portRange.2 ∧
        event.KeepsExposures) host forged) ∧
      translation .dnat (kernelAt 2) (run System.step host forged).maps
          (fromNic ⟨remote, hostIp, 7000, 10000⟩ 0x1234) =
        some ⟨hostIp, 7000, ⟨hostMac, gatewayMac⟩, 0⟩ ∧
      (run System.step host forged).exposeMap.get 10000 = some ⟨nodeB, containerMac 20, 5201, 12⟩ := by
  refine ⟨?_, by decide +kernel, ?_⟩
  · intro always
    obtain ⟨info, exposed, _⟩ := always portClosed
      (fromNic ⟨remote, hostIp, 7000, 10000⟩ 0x1234) (kernelAt 1) ⟨remote, hostIp, 7000, 10000⟩
      ⟨nodeB, 5201, ⟨hostMac, containerMac 20⟩, nodeB⟩ (by decide +kernel) (frameTuple_fromNic _ _)
      (by decide) (by decide) (by decide +kernel)
    have closed : (run System.step host portClosed).exposeMap.get 10000 = none := by decide +kernel
    cases closed.symm.trans exposed
  · exact ⟨[.exposePort ⟨nodeB, 5201⟩ succeeding,
      .frame .snat (fromContainer 10 ⟨remote, hostIp, 7000, 10000⟩ 0x1234) (kernelAt 0)],
      by decide +kernel, by decide +kernel, by decide +kernel⟩

end XdpNatd
