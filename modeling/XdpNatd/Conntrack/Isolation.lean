import XdpNatd.Conntrack.Pairing
import XdpNatd.Ebpf.Passes

namespace XdpNatd

open XdpNatd.Data XdpNatd.Ebpf XdpNatd.Daemon

variable {inside : Set UInt32} {start system : System} {event : Event} {events : List Event}
variable {flag side : Flags} {ctx : XdpContext} {kernel : Kernel} {maps : Maps} {flow : NewFlow}
variable {key : ConnectionTuple} {state : FlowState} {nat : NATData}

/-- To the NIC on the way out, to a container on the way in. -/
def LeadsAcross (inside : Set UInt32) (nat : NATData) : Flags → Prop
  | .snat => nat.devmapKey = 0
  | .dnat => nat.devmapKey ∈ inside

theorem newFlow_leadsAcross (skeySide : OnSide inside flow.skey .snat)
    (opened : newFlow flag kernel maps ctx = some flow) (side : Flags) :
    LeadsAcross inside (flow.nat side) side := by
  have container : flow.dnat.natAddr ∈ inside := by
    rw [OnSide, flow.skey_eq] at skeySide
    exact skeySide
  cases flag with
  | snat =>
      obtain ⟨_, _, outward, inward, _⟩ := snatFlow_spec opened
      cases side with
      | snat => exact outward
      | dnat =>
          change flow.dnat.devmapKey ∈ inside
          rw [inward]
          exact container
  | dnat =>
      obtain ⟨info, _, address, _, inward, _, outward⟩ := dnatFlow_spec opened
      cases side with
      | snat => exact outward
      | dnat =>
          change flow.dnat.devmapKey ∈ inside
          rw [inward, ← address]
          exact container

/-- A program that follows an entry follows one that was created for it. -/
theorem createdFrom_of_hit (empty : start.udpConntrack = .empty)
    (exposes : ExposesInto inside start.exposeMap)
    (guarded : Guarded System.step (fun _ event => event.Sided inside) start events)
    (own : OnSide inside key flag)
    (stored : natAt (run System.step start events).udpConntrack key = some nat) :
    ∃ before creator ctx kernel flow, outcome creator kernel (run System.step start before).maps ctx =
        .opens flow ∧ flow.key flag = key ∧ flow.nat flag = nat ∧ OnSide inside flow.skey .snat ∧
      CreatedFrom start events key flag := by
  obtain ⟨before, creator, ctx, kernel, after, flow, side, shape, sameNat, created⟩ :=
    exists_createdBy empty stored
  have origin : CreatedFrom start events key side :=
    ⟨before, creator, ctx, kernel, after, flow, shape, created⟩
  cases onSide_unique (origin.onSide exposes guarded) own
  subst shape
  obtain ⟨early, sided, _⟩ := guarded_append.mp guarded
  have known := exposesInto_run exposes (fun _ _ sided => sided.writes) early
  exact ⟨before, creator, ctx, kernel, flow, created.opens, created.under, sameNat,
    sided.newFlow_side known (opens_spec created.opens).1 .snat, origin⟩

theorem translation_leadsAcross (empty : start.udpConntrack = .empty)
    (exposes : ExposesInto inside start.exposeMap)
    (guarded : Guarded System.step (fun _ event => event.Sided inside) start events)
    (sided : Event.Sided inside (.frame flag ctx kernel))
    (translated : translation flag kernel (run System.step start events).maps ctx = some nat) :
    LeadsAcross inside nat flag := by
  rcases translation_cases translated with
    ⟨key, state, _, tuple, found, rfl⟩ | ⟨flow, _, opened, _, _, rfl⟩
  · obtain ⟨before, creator, ctx', kernel', flow, opens, _, sameNat, skeySide, _⟩ :=
      createdFrom_of_hit empty exposes guarded (sided.sent key tuple)
        (natAt_eq_some.mpr ⟨state, found, rfl⟩)
    rw [← sameNat]
    exact newFlow_leadsAcross skeySide (opens_spec opens).1 flag
  · have known := exposesInto_run exposes (fun _ _ sided => sided.writes) guarded
    exact newFlow_leadsAcross (sided.newFlow_side known opened .snat) opened flag

theorem action_of_translation (translated : translation flag kernel maps ctx = some nat) :
    (tryXdpRedirect kernel maps ctx flag).action = .pass ∨
      (tryXdpRedirect kernel maps ctx flag).action = .redirect := by
  rw [tryXdpRedirect_action, translated]
  by_cases target : (maps.redirectMap.get nat.devmapKey).isSome <;> simp [target]

/-- With frames that come from their own side and leave it, container frames go
to the NIC or are passed, NIC frames go to a container (and so not back to the NIC,
whose key is the address 0 of no container) or are passed, and neither
program follows an entry that was created for the other. -/
theorem programs_isolated (empty : start.udpConntrack = .empty)
    (exposes : ExposesInto inside start.exposeMap)
    (guarded : Guarded System.step (fun _ event => event.Sided inside) start events) :
    let system := run System.step start events
    (∀ ctx kernel, Event.Sided inside (.frame .snat ctx kernel) →
      let verdict := system.verdict .snat ctx kernel
      verdict.action = .pass ∨
      (verdict.action = .redirect ∧ verdict.devmapKey = some 0 ∧ ∃ nat,
        translation .snat kernel system.maps ctx = some nat ∧
        swap32 (loadU32 verdict.data (Ipv4Hdr.srcAddr ipv4)) = nat.natAddr)) ∧
    (∀ ctx kernel, Event.Sided inside (.frame .dnat ctx kernel) →
      let verdict := system.verdict .dnat ctx kernel
      verdict.action = .pass ∨
      (verdict.action = .redirect ∧ (∃ address ∈ inside, verdict.devmapKey = some address) ∧
        (0 ∉ inside → verdict.devmapKey ≠ some 0))) ∧
    (∀ flag ctx kernel key state, Event.Sided inside (.frame flag ctx kernel) →
      outcome flag kernel system.maps ctx = .hits key state →
      CreatedFrom start events key flag ∧
        ∀ side, CreatedFrom start events key side → side = flag) := by
  intro system
  refine ⟨?_, ?_, ?_⟩
  · intro ctx kernel sided verdict
    cases translated : translation .snat kernel system.maps ctx with
    | none => exact Or.inl (verdict_untranslated translated).1
    | some nat =>
        refine (action_of_translation translated).imp_right fun redirected => ?_
        have target := translation_leadsAcross empty exposes guarded sided translated
        refine ⟨redirected, ?_, nat, rfl, ?_⟩
        · simp only [verdict, System.verdict_devmapKey, translated, Option.map_some]
          exact congrArg some target
        · have accepted : Accepted ctx.data := by
            cases tuple : frameTuple ctx.data with
            | none => cases (translation_untupled tuple).symm.trans translated
            | some key => exact accepted_of_frameTuple tuple
          have written : loadU32 (translateFrame .snat nat ctx.data) (Ipv4Hdr.srcAddr ipv4) = _ :=
            translateFrame_addr accepted
          simp only [verdict, System.verdict_data, translated, written, swap32_swap32]
  · intro ctx kernel sided verdict
    cases translated : translation .dnat kernel system.maps ctx with
    | none => exact Or.inl (verdict_untranslated translated).1
    | some nat =>
        refine (action_of_translation translated).imp_right fun redirected => ?_
        have target : nat.devmapKey ∈ inside :=
          translation_leadsAcross empty exposes guarded sided translated
        have assigned : verdict.devmapKey = some nat.devmapKey := by
          simp only [verdict, System.verdict_devmapKey, translated, Option.map_some]
        refine ⟨redirected, ⟨nat.devmapKey, target, assigned⟩, fun unspecified toNic => ?_⟩
        rw [assigned] at toNic
        exact unspecified (Option.some.inj toNic ▸ target)
  · intro flag ctx kernel key state sided hits
    obtain ⟨tuple, found⟩ := hits_spec hits
    have own := sided.sent key tuple
    obtain ⟨_, _, _, _, _, _, _, _, _, created⟩ := createdFrom_of_hit empty exposes guarded own
      (natAt_eq_some.mpr ⟨state, found, rfl⟩)
    exact ⟨created, fun side other => onSide_unique (other.onSide exposes guarded) own⟩

open Testbed in
theorem testbed_programs_isolated :
    CreatedFrom exposing twoFlows ⟨remote, hostIp, 53, 4000⟩ .dnat ∧
      ¬ CreatedFrom exposing twoFlows ⟨remote, hostIp, 53, 4000⟩ .snat :=
  have isolated := (@programs_isolated exposing.containers.addresses exposing twoFlows rfl
    exposing_exposesContainers.exposesInto (by decide +kernel)).2.2 .dnat
    (fromNic ⟨remote, hostIp, 53, 4000⟩ 0x1234) (kernelAt 2) ⟨remote, hostIp, 53, 4000⟩
    ⟨⟨nodeA, 4000, ⟨hostMac, containerMac 10⟩, nodeA⟩, .reply, false, 30_000_000_001⟩
    (by decide +kernel) (outcome_hits (frameTuple_fromNic _ _) (by decide +kernel))
  ⟨isolated.1, fun other => by cases isolated.2 .snat other⟩

open Testbed in
/-- Three ways into an entry of the other program: a container that claims the
address of a remote peer, a container that answers another container through the
host, and a NIC frame that claims the address of a container. -/
theorem programs_follow_foreign_entries :
    let outbound := run System.step host
      [.frame .snat (fromContainer 10 ⟨nodeA, remote, 4000, 53⟩ 0x1234) (kernelAt 0)]
    let neighbours := run System.step host
      [.frame .snat (fromContainer 10 ⟨nodeA, nodeB, 4000, 5201⟩ 0x1234) (kernelAt 0)]
    let forged := outbound.verdict .snat (fromContainer 20 ⟨remote, hostIp, 53, 4000⟩ 0x1234) (kernelAt 1)
    let answer := neighbours.verdict .snat (fromContainer 20 ⟨nodeB, hostIp, 5201, 4000⟩ 0x1234)
      (kernelAt 1)
    let inbound := outbound.verdict .dnat (fromNic ⟨nodeA, remote, 4000, 53⟩ 0x1234) (kernelAt 1)
    (forged.action = .redirect ∧ forged.devmapKey = some nodeA) ∧
      (answer.action = .redirect ∧ answer.devmapKey = some nodeA) ∧
      inbound.action = .redirect ∧ inbound.devmapKey = some 0 := by
  decide +kernel

def Event.KeepsNic (nicIp : UInt32) : Event → Prop
  | .writePnic info => info.nicIp = nicIp
  | _ => True

instance (nicIp : UInt32) : DecidablePred (Event.KeepsNic nicIp) := fun event =>
  decidable_of_bool (match event with | .writePnic info => info.nicIp = nicIp | _ => true)
    (by cases event <;> simp [Event.KeepsNic])

def System.HoldsNic (nicIp : UInt32) (system : System) : Prop :=
  system.pnicArray[0]?.map NICInfo.nicIp = some nicIp

/-- Frames come from their own side, exposures lead into it, and the NIC keeps
its address. -/
structure Event.Homed (inside : Set UInt32) (nicIp : UInt32) (event : Event) : Prop where
  sent : event.SentFromOwnSide inside
  writes : event.WritesInto inside
  keepsNic : event.KeepsNic nicIp

instance (inside : Set UInt32) [DecidablePred (· ∈ inside)] (nicIp : UInt32) :
    DecidablePred (Event.Homed inside nicIp) := fun event =>
  decidable_of_iff (event.SentFromOwnSide inside ∧ event.WritesInto inside ∧ event.KeepsNic nicIp)
    ⟨fun ⟨sent, writes, keepsNic⟩ => ⟨sent, writes, keepsNic⟩,
      fun homed => ⟨homed.sent, homed.writes, homed.keepsNic⟩⟩

/-- A NIC frame of the run had this tuple, found no entry for it, and went to a
port that was exposed then. -/
def ExposedFrame (start : System) (events : List Event) (key : ConnectionTuple) : Prop :=
  ∃ before ctx kernel after, events = before ++ .frame .dnat ctx kernel :: after ∧
    frameTuple ctx.data = some key ∧ (run System.step start before).udpConntrack.get key = none ∧
    ((run System.step start before).exposeMap.get key.dstPort).isSome

section Host

variable {nicIp : UInt32}

theorem holdsNic_step (nic : system.HoldsNic nicIp) (keeps : event.KeepsNic nicIp) :
    (system.step event).HoldsNic nicIp := by
  cases event with
  | writePnic info => exact congrArg some keeps
  | frame | exposePort | unexposePort | writeExposeMap | sweepAtOnce | beginSweep | examine | endScan
  | removeNext => exact nic

theorem holdsNic_run (nic : start.HoldsNic nicIp)
    (guarded : Guarded System.step (fun _ event => event.Homed inside nicIp) start events) :
    (run System.step start events).HoldsNic nicIp := by
  have preserved : ∀ (system : System) (event : Event), system.HoldsNic nicIp →
      event.Homed inside nicIp → (system.step event).HoldsNic nicIp :=
    fun _ _ nic homed => holdsNic_step nic homed.keepsNic
  exact guarded.invariant preserved nic

theorem snat_natAddr (nic : system.HoldsNic nicIp)
    (opened : newFlow .snat kernel system.maps ctx = some flow) : flow.snat.natAddr = nicIp := by
  obtain ⟨address, _⟩ := snatFlow_spec opened
  rw [address]
  simpa [System.HoldsNic, System.maps] using nic

theorem newFlow_host (nic : system.HoldsNic nicIp)
    (opened : newFlow flag kernel system.maps ctx = some flow) :
    flow.dkey.dstAddr = nicIp ∨ flag = .dnat ∧ (system.exposeMap.get flow.dkey.dstPort).isSome := by
  cases flag with
  | snat =>
      left
      rw [flow.dkey_eq]
      exact snat_natAddr nic opened
  | dnat =>
      obtain ⟨info, exposed, _⟩ := dnatFlow_spec opened
      exact Or.inr ⟨rfl, Option.isSome_iff_exists.mpr ⟨info, exposed⟩⟩

/-- The flow that an entry of the run belongs to. -/
theorem exists_flow_of_stored (empty : start.udpConntrack = .empty)
    (exposes : ExposesInto inside start.exposeMap) (nic : start.HoldsNic nicIp)
    (guarded : Guarded System.step (fun _ event => event.Homed inside nicIp) start events)
    (stored : natAt (run System.step start events).udpConntrack key = some nat) :
    ∃ flow side, NewFlow.key flow side = key ∧ flow.nat side = nat ∧
      OnSide inside flow.skey .snat ∧ LeadsAcross inside (flow.nat side) side ∧
      (flow.dkey.dstAddr = nicIp ∨ ExposedFrame start events flow.dkey) := by
  obtain ⟨before, creator, ctx, kernel, after, flow, side, rfl, sameNat, opens, under, _, _⟩ :=
    exists_createdBy empty stored
  obtain ⟨early, homed, _⟩ := guarded_append.mp guarded
  have known := exposesInto_run exposes (fun _ _ homed => homed.writes) early
  obtain ⟨opened, missed⟩ := opens_spec opens
  have skeySide := newFlow_skey_side homed.sent known opened
  refine ⟨flow, side, under, sameNat, skeySide, newFlow_leadsAcross skeySide opened side, ?_⟩
  refine (newFlow_host (holdsNic_run nic early) opened).imp_right fun asked => ?_
  obtain ⟨rfl, exposed⟩ := asked
  exact ⟨before, ctx, kernel, after, rfl, newFlow_key opened, missed, exposed⟩

/-- Only traffic for the host or for an exposed port is translated on the way in,
and answers leave with the address that they were asked at. -/
theorem only_host_traffic_translated (empty : start.udpConntrack = .empty)
    (exposes : ExposesInto inside start.exposeMap) (nic : start.HoldsNic nicIp)
    (guarded : Guarded System.step (fun _ event => event.Homed inside nicIp) start events) :
    let system := run System.step start events
    (∀ ctx kernel, Event.SentFromOwnSide inside (.frame .dnat ctx kernel) →
      (∀ key ∈ frameTuple ctx.data, key.dstAddr ≠ nicIp ∧
        system.exposeMap.get key.dstPort = none ∧ ¬ ExposedFrame start events key) →
      let verdict := system.verdict .dnat ctx kernel
      verdict.action = .pass ∧ verdict.data = ctx.data ∧ verdict.udpConntrack = system.udpConntrack) ∧
    (∀ key, key.srcAddr ∉ inside → (system.udpConntrack.get key).isSome →
      key.dstAddr = nicIp ∨ ExposedFrame start events key) ∧
    (∀ ctx kernel key nat, Event.SentFromOwnSide inside (.frame .snat ctx kernel) →
      frameTuple ctx.data = some key → translation .snat kernel system.maps ctx = some nat →
      nat.devmapKey ∉ inside →
      swap32 (loadU32 (system.verdict .snat ctx kernel).data (Ipv4Hdr.srcAddr ipv4)) = nat.natAddr ∧
        (nat.natAddr = nicIp ∨ ExposedFrame start events (reverseKey .snat key nat))) := by
  intro system
  have inbound : ∀ key, key.srcAddr ∉ inside → (system.udpConntrack.get key).isSome →
      key.dstAddr = nicIp ∨ ExposedFrame start events key := by
    intro key outside present
    obtain ⟨state, found⟩ := Option.isSome_iff_exists.mp present
    obtain ⟨flow, side, rfl, _, skeySide, _, host⟩ :=
      exists_flow_of_stored empty exposes nic guarded (natAt_eq_some.mpr ⟨state, found, rfl⟩)
    cases side with
    | snat => exact absurd skeySide outside
    | dnat => exact host
  refine ⟨?_, inbound, ?_⟩
  · intro ctx kernel sent foreign verdict
    have untranslated : translation .dnat kernel system.maps ctx = none := by
      refine Option.eq_none_iff_forall_ne_some.mpr fun nat translated => ?_
      rcases translation_cases translated with
        ⟨key, state, _, tuple, found, _⟩ | ⟨flow, _, opened, tuple, _, _⟩
      · obtain ⟨elsewhere, _, fresh⟩ := foreign key tuple
        have present : (system.udpConntrack.get key).isSome :=
          Option.isSome_iff_exists.mpr ⟨state, found⟩
        rcases inbound key (sent key tuple) present with addressed | exposedFrame
        · exact absurd addressed elsewhere
        · exact absurd exposedFrame fresh
      · obtain ⟨_, unexposed, _⟩ := foreign _ tuple
        obtain ⟨info, exposed, _⟩ := dnatFlow_spec opened
        cases unexposed.symm.trans exposed
    exact verdict_untranslated untranslated
  · intro ctx kernel key nat sent tuple translated outward
    have written : loadU32 (translateFrame .snat nat ctx.data) (Ipv4Hdr.srcAddr ipv4) = _ :=
      translateFrame_addr (accepted_of_frameTuple tuple)
    refine ⟨by simp only [System.verdict_data, translated, written, swap32_swap32], ?_⟩
    rcases translation_cases translated with
      ⟨hitKey, state, _, hitTuple, found, rfl⟩ | ⟨flow, _, opened, _, _, rfl⟩
    · cases hitTuple.symm.trans tuple
      obtain ⟨flow, side, rfl, sameNat, _, leads, host⟩ :=
        exists_flow_of_stored empty exposes nic guarded (natAt_eq_some.mpr ⟨state, found, rfl⟩)
      cases side with
      | snat =>
          rw [← sameNat, flow.reverseKey_key .snat]
          have answered : flow.snat.natAddr = flow.dkey.dstAddr :=
            congrArg ConnectionTuple.dstAddr flow.dkey_eq.symm
          change flow.snat.natAddr = nicIp ∨ ExposedFrame start events flow.dkey
          rw [answered]
          exact host
      | dnat =>
          rw [sameNat] at leads
          exact absurd leads outward
    · exact Or.inl (snat_natAddr (holdsNic_run nic guarded) opened)

end Host

open Testbed in
/-- The answer to a datagram for 192.168.6.99:10000 leaves from that address. -/
theorem answer_leaves_from_foreign_address :
    let asked := run System.step exposing
      [.frame .dnat (fromNic ⟨remote, 0xC0A80663, 7000, 10000⟩ 0x1234) (kernelAt 0)]
    let verdict := asked.verdict .snat (fromContainer 20 ⟨nodeB, remote, 5201, 7000⟩ 0x1234) (kernelAt 1)
    swap32 (loadU32 verdict.data (Ipv4Hdr.srcAddr ipv4)) = 0xC0A80663 ∧
      ((0xC0A80663 : UInt32) = hostIp ∨ ExposedFrame exposing
        [.frame .dnat (fromNic ⟨remote, 0xC0A80663, 7000, 10000⟩ 0x1234) (kernelAt 0)]
        ⟨remote, 0xC0A80663, 7000, 10000⟩) :=
  (@only_host_traffic_translated exposing.containers.addresses exposing
    [.frame .dnat (fromNic ⟨remote, 0xC0A80663, 7000, 10000⟩ 0x1234) (kernelAt 0)] hostIp rfl
    exposing_exposesContainers.exposesInto rfl (by decide +kernel)).2.2
    (fromContainer 20 ⟨nodeB, remote, 5201, 7000⟩ 0x1234) (kernelAt 1) ⟨nodeB, remote, 5201, 7000⟩
    ⟨0xC0A80663, 10000, ⟨hostMac, gatewayMac⟩, 0⟩ (by decide +kernel) (frameTuple_fromContainer _ _ _)
    (by decide +kernel) (by decide +kernel)

open Testbed in
/-- Frames for 192.168.6.99 and for a remote peer that the NIC program translates:
to an exposed port, after a container has sent a frame with that very tuple, and
with the source address of a container. -/
theorem foreign_traffic_is_translated :
    let exposed := fromNic ⟨remote, 0xC0A80663, 7000, 10000⟩ 0x1234
    let forged := run System.step host
      [.frame .snat (fromContainer 20 ⟨remote, 0xC0A80663, 53, 4000⟩ 0x1234) (kernelAt 0)]
    let outbound := run System.step host
      [.frame .snat (fromContainer 10 ⟨nodeA, remote, 4000, 53⟩ 0x1234) (kernelAt 0)]
    let echoed := fromNic ⟨remote, 0xC0A80663, 53, 4000⟩ 0x1234
    let claimed := fromNic ⟨nodeA, remote, 4000, 53⟩ 0x1234
    (exposing.verdict .dnat exposed (kernelAt 1)).data ≠ exposed.data ∧
      (forged.verdict .dnat echoed (kernelAt 1)).data ≠ echoed.data ∧
      (outbound.verdict .dnat claimed (kernelAt 1)).data ≠ claimed.data := by
  decide +kernel

end XdpNatd
