import XdpNatd.Conntrack.Flows
import XdpNatd.Ebpf.Rewrite

namespace XdpNatd

open XdpNatd.Data XdpNatd.Ebpf XdpNatd.Daemon

/-! # Several hosts

In the testbed client and server are containers on two guests, and a datagram
between them is translated twice on its way: on the sender's host to the address
of the host, and on the receiver's host to the container that the port leads to.
No host knows of the other's table.  That the answer comes back, and from where
the sender sent to, rests on both tables at once, whatever the hosts do between
the four translations.
-/

/-- The addresses of a host: those of its containers and that of its NIC. -/
structure Site where
  inside : Set UInt32
  nic : UInt32

/-- The hosts, and the datagrams that have left through a NIC so far. They may
arrive late, out of order, more than once, or never. -/
structure Network (ι : Type) where
  hosts : ι → System
  wire : List (List UInt8)

/-- What the host puts on the wire: a frame that is redirected to the NIC. -/
def System.emits (system : System) : Event → List (List UInt8)
  | .frame flag ctx kernel =>
      let verdict := system.verdict flag ctx kernel
      if verdict.action = .redirect ∧ verdict.devmapKey = some 0 then [verdict.data] else []
  | _ => []

def Network.step {ι : Type} [DecidableEq ι] (network : Network ι) (move : ι × Event) : Network ι where
  hosts := Function.update network.hosts move.1 ((network.hosts move.1).step move.2)
  wire := network.wire ++ (network.hosts move.1).emits move.2

def Checked (data : List UInt8) : Prop := loadU16 data (UdpHdr.check udp) ≠ 0

/-- Datagrams have UDP checksums. Those at a NIC are for its address, and those
that come from a peer's address were put on the wire. -/
def Event.Delivered (nic : UInt32) (peers : List UInt32) (wire : List (List UInt8)) : Event → Prop
  | .frame .snat ctx _ => ∀ _ ∈ frameTuple ctx.data, Checked ctx.data
  | .frame .dnat ctx _ => ∀ key ∈ frameTuple ctx.data, Checked ctx.data ∧ key.dstAddr = nic ∧
      (key.srcAddr ∈ peers → ∃ sent ∈ wire, frameTuple sent = some key)
  | .writePnic info => info.nicIp = nic
  | _ => True

/-- A step of a host, as in the runs whose table files flows, with datagrams that
the network may deliver. -/
structure Fair {ι : Type} (sites : ι → Site) (peers : List UInt32) (network : Network ι)
    (move : ι × Event) : Prop where
  whole : move.2.Whole (sites move.1).inside (network.hosts move.1)
  delivered : move.2.Delivered (sites move.1).nic peers network.wire

section Decidable

instance (data : List UInt8) : Decidable (Checked data) := inferInstanceAs (Decidable (_ ≠ _))

instance (nic : UInt32) (peers : List UInt32) (wire : List (List UInt8)) :
    DecidablePred (Event.Delivered nic peers wire) := fun event =>
  match event with
  | .frame .snat ctx _ => inferInstanceAs (Decidable (∀ _ ∈ frameTuple ctx.data, Checked ctx.data))
  | .frame .dnat ctx _ => inferInstanceAs (Decidable (∀ key ∈ frameTuple ctx.data, Checked ctx.data ∧
      key.dstAddr = nic ∧ (key.srcAddr ∈ peers → ∃ sent ∈ wire, frameTuple sent = some key)))
  | .writePnic info => inferInstanceAs (Decidable (info.nicIp = nic))
  | .exposePort .. | .unexposePort .. | .writeExposeMap _ | .sweepAtOnce _ | .beginSweep | .examine ..
  | .endScan | .removeNext => isTrue trivial

instance {ι : Type} (sites : ι → Site) [∀ host, DecidablePred (· ∈ (sites host).inside)]
    (peers : List UInt32) (network : Network ι) : DecidablePred (Fair sites peers network) :=
  fun move => decidable_of_iff (move.2.Whole (sites move.1).inside (network.hosts move.1) ∧
      move.2.Delivered (sites move.1).nic peers network.wire)
    ⟨fun ⟨whole, delivered⟩ => ⟨whole, delivered⟩, fun fair => ⟨fair.whole, fair.delivered⟩⟩

end Decidable

/-- Out through the NIC and under its address, in to a container. -/
def Site.Leads (site : Site) (nat : NATData) : Flags → Prop
  | .snat => nat.natAddr = site.nic ∧ nat.devmapKey = 0
  | .dnat => nat.devmapKey = nat.natAddr ∧ nat.natAddr ∈ site.inside

structure System.Serves (site : Site) (system : System) : Prop where
  files : ∃ flows, system.Files site.inside flows
  pnic : ∀ info ∈ system.pnicArray[0]?, info.nicIp = site.nic
  leads : ∀ side key nat, OnSide site.inside key side → natAt system.udpConntrack key = some nat →
    site.Leads nat side

variable {site : Site} {system : System} {event : Event} {flag side : Flags} {ctx : XdpContext}
variable {kernel : Kernel} {key : ConnectionTuple} {nat : NATData} {flow : NewFlow}
variable {peers : List UInt32} {wire : List (List UInt8)}

theorem newFlow_leads (pnic : ∀ info ∈ system.pnicArray[0]?, info.nicIp = site.nic)
    (skeySide : OnSide site.inside flow.skey .snat)
    (delivered : Event.Delivered site.nic peers wire (.frame flag ctx kernel))
    (opened : newFlow flag kernel system.maps ctx = some flow) (side : Flags) :
    site.Leads (flow.nat side) side := by
  have container : flow.dnat.natAddr ∈ site.inside := by
    rw [OnSide, flow.skey_eq] at skeySide
    exact skeySide
  have tuple := newFlow_key opened
  cases flag with
  | snat =>
      obtain ⟨address, _, outward, inward, _⟩ := snatFlow_spec opened
      cases side with
      | snat => exact ⟨address.trans (pnic _ (by simp [System.maps])), outward⟩
      | dnat => exact ⟨inward, container⟩
  | dnat =>
      obtain ⟨info, _, address, _, inward, _, outward⟩ := dnatFlow_spec opened
      cases side with
      | snat =>
          obtain ⟨_, addressed, _⟩ := delivered _ tuple
          have own : flow.dkey.dstAddr = flow.snat.natAddr := by rw [flow.dkey_eq]; rfl
          exact ⟨own.symm.trans addressed, outward⟩
      | dnat => exact ⟨inward.trans address.symm, container⟩

theorem System.Serves.step (serves : system.Serves site) (whole : event.Whole site.inside system)
    (delivered : event.Delivered site.nic peers wire) : (system.step event).Serves site where
  files := by
    obtain ⟨flows, files⟩ := serves.files
    exact ⟨_, files.step whole.orderly whole.sweeps whole.fits⟩
  pnic := by
    cases event with
    | writePnic info =>
        intro written found
        cases found
        exact delivered
    | frame | exposePort | unexposePort | writeExposeMap | sweepAtOnce | beginSweep | examine | endScan
    | removeNext => exact serves.pnic
  leads := by
    intro side key nat keySide stored
    obtain ⟨flows, files⟩ := serves.files
    rcases step_natAt_new stored with
      before | ⟨_, flag, ctx, kernel, flow, filed, rfl, opens, rfl, rfl⟩
    · exact serves.leads side key nat keySide before
    · have opened := (opens_spec opens).1
      have sides := whole.orderly.newFlow_side files.exposes opened
      cases onSide_unique (sides filed) keySide
      exact newFlow_leads serves.pnic (sides .snat) delivered opened side

/-- A frame is translated as the host leads its flows. -/
theorem System.Serves.translation_leads (serves : system.Serves site)
    (whole : Event.Whole site.inside system (.frame flag ctx kernel))
    (delivered : Event.Delivered site.nic peers wire (.frame flag ctx kernel))
    (translated : translation flag kernel system.maps ctx = some nat) : site.Leads nat flag := by
  obtain ⟨flows, files⟩ := serves.files
  rcases translation_cases translated with
    ⟨key, state, _, tuple, found, rfl⟩ | ⟨flow, _, opened, _, _, rfl⟩
  · exact serves.leads flag key state.nat (whole.orderly.sent key tuple)
      (natAt_eq_some.mpr ⟨state, found, rfl⟩)
  · have sides := whole.orderly.newFlow_side files.exposes opened
    exact newFlow_leads serves.pnic (sides .snat) delivered opened flag

/-- The other half of a flow on file leads back. -/
theorem System.Serves.way_back (serves : system.Serves site) (keySide : OnSide site.inside key side)
    (stored : natAt system.udpConntrack key = some nat) :
    ∃ back, natAt system.udpConntrack (reverseKey side key nat) = some back ∧
      reverseKey side.other (reverseKey side key nat) back = key ∧ site.Leads back side.other := by
  obtain ⟨flows, files⟩ := serves.files
  obtain ⟨state, found, rfl⟩ := natAt_eq_some.mp stored
  obtain ⟨flow, member, rfl, rfl⟩ := (files.found_iff keySide).mp found
  have reverse : reverseKey side (flow.ends.key side) (flow.ends.nat side) = flow.ends.key side.other :=
    flow.ends.reverseKey_key side
  have partner : natAt system.udpConntrack (flow.ends.key side.other) = some (flow.ends.nat side.other) :=
    natAt_eq_some.mpr ⟨_, files.represents.found member side.other, rfl⟩
  have again := flow.ends.reverseKey_key side.other
  rw [Flags.other_other] at again
  refine ⟨flow.ends.nat side.other, ?_, ?_, ?_⟩
  · exact (congrArg (natAt system.udpConntrack) reverse).trans partner
  · exact (congrArg (fun key => reverseKey side.other key (flow.ends.nat side.other)) reverse).trans again
  · exact serves.leads _ _ _ (files.sides flow member side.other) partner

/-- A checked frame of a flow on file is rewritten for it and handed on. -/
theorem verdict_of_natAt (tuple : frameTuple ctx.data = some key) (checked : Checked ctx.data)
    (stored : natAt system.udpConntrack key = some nat) :
    frameTuple (system.verdict flag ctx kernel).data = some (translateTuple flag nat key) ∧
      (system.verdict flag ctx kernel).devmapKey = some nat.devmapKey := by
  have translated : translation flag kernel system.maps ctx = some nat := translation_of_natAt tuple stored
  refine ⟨(system.verdict_tuple_iff tuple translated).mpr (Or.inl checked), ?_⟩
  rw [System.verdict_devmapKey, translated, Option.map_some]

/-- A host puts on the wire what its containers send. -/
theorem System.Serves.emits_spec {data : List UInt8} (serves : system.Serves site)
    (unspecified : 0 ∉ site.inside) (whole : event.Whole site.inside system)
    (delivered : event.Delivered site.nic peers wire) (emitted : data ∈ system.emits event)
    (tuple : frameTuple data = some key) :
    ∃ sent kernel sentKey sentNat, event = .frame .snat sent kernel ∧
      frameTuple sent.data = some sentKey ∧
      translation .snat kernel system.maps sent = some sentNat ∧
      translateTuple .snat sentNat sentKey = key ∧ sentNat.natAddr = site.nic := by
  cases event with
  | frame flag sent kernel =>
      simp only [System.emits] at emitted
      split at emitted
      · next toNic =>
          obtain rfl := List.mem_singleton.mp emitted
          have assigned := @System.verdict_devmapKey system flag sent kernel
          rw [toNic.2] at assigned
          obtain ⟨sentNat, translated, nicKey⟩ := Option.map_eq_some_iff.mp assigned.symm
          obtain ⟨sentKey, sentTuple⟩ : ∃ sentKey, frameTuple sent.data = some sentKey := by
            rcases translation_cases translated with ⟨sentKey, _, _, own, _⟩ | ⟨flow, _, _, own, _⟩
            · exact ⟨sentKey, own⟩
            · exact ⟨flow.key flag, own⟩
          have leads := serves.translation_leads whole delivered translated
          cases flag with
          | dnat =>
              obtain ⟨home, container⟩ := leads
              exact absurd (nicKey ▸ home ▸ container) unspecified
          | snat =>
              have out : frameTuple (system.verdict .snat sent kernel).data = _ :=
                (system.verdict_tuple_iff sentTuple translated).mpr (Or.inl (delivered sentKey sentTuple))
              exact ⟨sent, kernel, sentKey, sentNat, rfl, sentTuple, translated,
                Option.some.inj (out.symm.trans tuple), leads.1⟩
      · cases emitted
  | exposePort | unexposePort | writeExposeMap | writePnic | sweepAtOnce | beginSweep | examine | endScan
  | removeNext => cases emitted

section Network

variable {ι : Type} [DecidableEq ι] {sites : ι → Site} {network start : Network ι}
variable {move : ι × Event} {moves earlier later : List (ι × Event)} {here there : ι}
variable {got : XdpContext} {gotKernel : Kernel}

structure Network.Serves (sites : ι → Site) (network : Network ι) : Prop where
  hosts : ∀ host, (network.hosts host).Serves (sites host)

theorem Network.Serves.step (serves : network.Serves sites) (fair : Fair sites peers network move) :
    (network.step move).Serves sites where
  hosts host := by
    change (Function.update network.hosts move.1 _ host).Serves (sites host)
    by_cases own : host = move.1
    · subst own
      rw [Function.update_self]
      exact (serves.hosts move.1).step fair.whole fair.delivered
    · rw [Function.update_of_ne own]
      exact serves.hosts host

/-- A network that starts: no flow on file, exposures that lead into containers,
the right NIC, and nothing on the wire. -/
structure Network.Fresh (sites : ι → Site) (network : Network ι) : Prop where
  empty : ∀ host, (network.hosts host).udpConntrack = .empty
  exposes : ∀ host, ExposesInto (sites host).inside (network.hosts host).exposeMap
  pnic : ∀ host, ∀ info ∈ (network.hosts host).pnicArray[0]?, info.nicIp = (sites host).nic
  silent : network.wire = []

omit [DecidableEq ι] in
theorem Network.Fresh.serves (fresh : network.Fresh sites) : network.Serves sites where
  hosts host :=
    { files := ⟨∅, ⟨.empty fun key => by rw [fresh.empty, BoundedMap.get_empty],
        fun flow member => member.elim, fresh.exposes host⟩⟩
      pnic := fresh.pnic host
      leads := fun side key nat _ stored => by simp [natAt, fresh.empty] at stored }

theorem serves_run (fresh : start.Fresh sites)
    (guarded : Guarded Network.step (fun network move => Fair sites peers network move) start moves) :
    (run Network.step start moves).Serves sites :=
  guarded.invariant (fun _ _ serves fair => serves.step fair) fresh.serves

theorem run_wire : (run Network.step start moves).wire =
    start.wire ++ trace Network.step (fun network move => (network.hosts move.1).emits move.2) start
      moves := by
  induction moves generalizing start with
  | nil => simp
  | cons move moves ih =>
      rw [run_cons, ih, trace, ← List.append_assoc]
      rfl

/-- What is on the wire was sent by a container, and translated on its host. -/
theorem wire_sent (fresh : start.Fresh sites) (unspecified : ∀ host, 0 ∉ (sites host).inside)
    (guarded : Guarded Network.step (fun network move => Fair sites peers network move) start moves)
    {data : List UInt8} (member : data ∈ (run Network.step start moves).wire)
    (tuple : frameTuple data = some key) :
    ∃ before here sent kernel after sentKey sentNat,
      moves = before ++ (here, .frame .snat sent kernel) :: after ∧
      frameTuple sent.data = some sentKey ∧ sentKey.srcAddr ∈ (sites here).inside ∧
      translation .snat kernel ((run Network.step start before).hosts here).maps sent = some sentNat ∧
      translateTuple .snat sentNat sentKey = key ∧ sentNat.natAddr = (sites here).nic := by
  rw [run_wire, fresh.silent, List.nil_append, mem_trace] at member
  obtain ⟨before, ⟨here, event⟩, after, rfl, emitted⟩ := member
  obtain ⟨early, fair, _⟩ := guarded_append.mp guarded
  have serves := (serves_run fresh early).hosts here
  obtain ⟨sent, kernel, sentKey, sentNat, rfl, sentTuple, translated, crossing, address⟩ :=
    serves.emits_spec (unspecified here) fair.whole fair.delivered emitted tuple
  exact ⟨before, here, sent, kernel, after, sentKey, sentNat, rfl, sentTuple,
    fair.whole.orderly.sent sentKey sentTuple, translated, crossing, address⟩

end Network

/-- A container of `there` answers to the datagram that it got, which was on the
wire as `crossing` and was sent by a container of `here`.  The answer crosses the
wire the other way, and from there it reaches the sender as from the endpoint that
this one sent to. -/
structure AnswersReturn (there here : System) (got crossing sent : ConnectionTuple) : Prop where
  leaves : ∀ answer kernel, frameTuple answer.data = some got.reversed → Checked answer.data →
    frameTuple (there.verdict .snat answer kernel).data = some crossing.reversed ∧
      (there.verdict .snat answer kernel).devmapKey = some 0
  arrives : ∀ answer kernel, frameTuple answer.data = some crossing.reversed → Checked answer.data →
    frameTuple (here.verdict .dnat answer kernel).data = some sent.reversed ∧
      (here.verdict .dnat answer kernel).devmapKey = some sent.srcAddr

theorem answersReturn {there here : System} {thereSite hereSite : Site} {sentKey : ConnectionTuple}
    {sentNat : NATData} (thereServes : there.Serves thereSite) (hereServes : here.Serves hereSite)
    (outside : key.srcAddr ∉ thereSite.inside) (inside : sentKey.srcAddr ∈ hereSite.inside)
    (crossing : translateTuple .snat sentNat sentKey = key)
    (thereStored : natAt there.udpConntrack key = some nat)
    (hereStored : natAt here.udpConntrack sentKey = some sentNat) :
    AnswersReturn there here (translateTuple .dnat nat key) key sentKey where
  leaves := by
    intro answer kernel answers checked
    obtain ⟨back, stored, returns, leads⟩ := @System.Serves.way_back _ _ .dnat _ _ thereServes outside thereStored
    obtain ⟨tuple, devmapKey⟩ := @verdict_of_natAt there .snat answer kernel _ _ answers checked stored
    refine ⟨?_, devmapKey.trans (congrArg some leads.2)⟩
    rw [tuple, ← returns]
    rfl
  arrives := by
    subst crossing
    intro answer kernel answers checked
    obtain ⟨home, stored, returns, leads⟩ := @System.Serves.way_back _ _ .snat _ _ hereServes inside hereStored
    obtain ⟨tuple, devmapKey⟩ := @verdict_of_natAt here .dnat answer kernel _ _ answers checked stored
    have sender : home.natAddr = sentKey.srcAddr := congrArg ConnectionTuple.srcAddr returns
    refine ⟨?_, devmapKey.trans (congrArg some (leads.1.trans sender))⟩
    rw [tuple, ← returns]
    rfl

section Network

variable {ι : Type} [DecidableEq ι] {sites : ι → Site} {start : Network ι}
variable {earlier later : List (ι × Event)} {there : ι} {got : XdpContext} {gotKernel : Kernel}

end Network

namespace Testbed

def clientIp : UInt32 := 0xC0A8060B

def guestSites (serving : Bool) : Site :=
  { inside := containers.addresses, nic := if serving then hostIp else clientIp }

instance (serving : Bool) : DecidablePred (· ∈ (guestSites serving).inside) :=
  inferInstanceAs (DecidablePred (· ∈ containers.addresses))

/-- Two guests with the same containers; the serving one exposes node B. -/
def guests : Network Bool where
  hosts serving :=
    if serving then exposing
    else .boot containers redirectMap ⟨clientIp, 2⟩ portRange.1 portRange.2
  wire := []

theorem guests_fresh : guests.Fresh guestSites where
  empty serving := by cases serving <;> rfl
  exposes serving := by
    cases serving with
    | false => exact boot_exposesContainers.exposesInto
    | true => exact exposing_exposesContainers.exposesInto
  pnic serving info found := by
    cases serving <;>
      · cases found
        rfl
  silent := rfl

end Testbed

end XdpNatd
