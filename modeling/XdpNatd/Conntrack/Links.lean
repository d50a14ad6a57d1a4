import XdpNatd.Data.Pairing
import XdpNatd.System.Steps

namespace XdpNatd

open XdpNatd.Data XdpNatd.Ebpf XdpNatd.Daemon

/-- The tuple of an answer. -/
def ConnectionTuple.reversed (key : ConnectionTuple) : ConnectionTuple :=
  ⟨key.dstAddr, key.srcAddr, key.dstPort, key.srcPort⟩

/-- The keys under which the program of a direction looks its frames up.  The table
does not say which program an entry is for; the source address does. -/
def OnSide (inside : Set UInt32) (key : ConnectionTuple) : Flags → Prop
  | .snat => key.srcAddr ∈ inside
  | .dnat => key.srcAddr ∉ inside

instance (inside : Set UInt32) [DecidablePred (· ∈ inside)] (key : ConnectionTuple) :
    DecidablePred (OnSide inside key) := fun side =>
  match side with
  | .snat => inferInstanceAs (Decidable (key.srcAddr ∈ inside))
  | .dnat => inferInstanceAs (Decidable (key.srcAddr ∉ inside))

section Sides

variable {inside : Set UInt32} {key : ConnectionTuple} {side left right : Flags}

@[simp] theorem Flags.other_other : side.other.other = side := by
  cases side <;> rfl

theorem Flags.eq_or_other (left right : Flags) : left = right ∨ left = right.other := by
  cases left <;> cases right <;> simp [Flags.other]

theorem onSide_other : OnSide inside key side.other ↔ ¬ OnSide inside key side := by
  cases side with
  | snat => exact Iff.rfl
  | dnat => exact not_not.symm

theorem onSide_unique (first : OnSide inside key left) (second : OnSide inside key right) :
    left = right := by
  rcases Flags.eq_or_other left right with same | opposite
  · exact same
  · rw [opposite] at first
    exact absurd second (onSide_other.mp first)

end Sides

/-- Two entries are the halves of a flow when each program recomputes the key of
the other from its own entry. -/
def natLink (inside : Set UInt32) : Link ConnectionTuple NATData where
  linked key nat partner back := ∃ side, OnSide inside key side ∧ OnSide inside partner side.other ∧
    partner = reverseKey side key nat ∧ key = reverseKey side.other partner back
  symm := by
    rintro key nat partner back ⟨side, keySide, partnerSide, forward, backward⟩
    exact ⟨side.other, partnerSide, by rwa [Flags.other_other], backward, by rwa [Flags.other_other]⟩
  unique := by
    rintro key nat partner back partner' back' ⟨side, keySide, _, rfl, _⟩ ⟨side', keySide', _, rfl, _⟩
    rw [onSide_unique keySide keySide']

theorem linked_of_onSide {inside : Set UInt32} {key partner : ConnectionTuple} {nat back : NATData}
    {side : Flags} (keySide : OnSide inside key side)
    (linked : (natLink inside).linked key nat partner back) :
    partner = reverseKey side key nat ∧ OnSide inside partner side.other ∧
      key = reverseKey side.other partner back := by
  obtain ⟨side', keySide', partnerSide, forward, backward⟩ := linked
  cases onSide_unique keySide' keySide
  exact ⟨forward, partnerSide, backward⟩

theorem NewFlow.linked {inside : Set UInt32} {flow : NewFlow} {side : Flags}
    (keySide : OnSide inside (flow.key side) side)
    (otherSide : OnSide inside (flow.key side.other) side.other) :
    (natLink inside).linked (flow.key side) (flow.nat side) (flow.key side.other)
      (flow.nat side.other) := by
  refine ⟨side, keySide, otherSide, (flow.reverseKey_key side).symm, ?_⟩
  rw [flow.reverseKey_key side.other, Flags.other_other]

def Daemon.ContainerMap.addresses (containers : ContainerMap) : Set UInt32 :=
  {address | (containers.get address).isSome}

instance (containers : ContainerMap) : DecidablePred (· ∈ containers.addresses) :=
  fun address => inferInstanceAs (Decidable ((containers.get address).isSome = true))

/-- Container frames carry a container source address, NIC frames carry none. -/
def Event.SentFromOwnSide (inside : Set UInt32) : Event → Prop :=
  Event.OnFrames fun flag ctx _ => ∀ key ∈ frameTuple ctx.data, OnSide inside key flag

def Event.SentOutside (inside : Set UInt32) : Event → Prop :=
  Event.OnContainerFrames fun ctx _ => ∀ key ∈ frameTuple ctx.data, key.dstAddr ∉ inside

def Event.SentFromOwnMac (containers : ContainerMap) : Event → Prop :=
  Event.OnContainerFrames fun ctx _ => ∀ key ∈ frameTuple ctx.data,
    ∀ container ∈ containers.get key.srcAddr,
      loadArray 6 ctx.data (EthHdr.srcAddr eth) = container.macAddress

instance (inside : Set UInt32) [DecidablePred (· ∈ inside)] :
    DecidablePred (Event.SentFromOwnSide inside) :=
  Event.OnFrames.decidable

instance (inside : Set UInt32) [DecidablePred (· ∈ inside)] : DecidablePred (Event.SentOutside inside) :=
  Event.OnContainerFrames.decidable

instance (containers : ContainerMap) : DecidablePred (Event.SentFromOwnMac containers) :=
  Event.OnContainerFrames.decidable

def ExposesInto (inside : Set UInt32) (exposeMap : ExposeMap) : Prop :=
  ∀ port info, exposeMap.get port = some info → info.containerIp ∈ inside

instance (inside : Set UInt32) [DecidablePred (· ∈ inside)] (exposeMap : ExposeMap) :
    Decidable (ExposesInto inside exposeMap) :=
  -- through the stored ports, not through all ports there are
  @decidable_of_iff _ (∀ port ∈ exposeMap.keys, ∀ info ∈ exposeMap.get port, info.containerIp ∈ inside)
    ⟨fun all port info exposed => all port (BoundedMap.mem_keys.mpr ⟨info, exposed⟩) info exposed,
      fun all port _ info => all port info⟩
    Finset.decidableDforallFinset

theorem System.ExposesContainers.exposesInto {system : System} (exposes : system.ExposesContainers) :
    ExposesInto system.containers.addresses system.exposeMap := by
  intro port info exposed
  obtain ⟨container, known, _⟩ := exposes port info exposed
  exact Option.isSome_iff_exists.mpr ⟨container, known⟩

/-- The tuple that answers to the flow of a frame will carry: to the NIC address
and the frame's own port on the way out, from the exposed endpoint on the way in. -/
def replyKey (flag : Flags) (maps : Maps) (key : ConnectionTuple) : Option ConnectionTuple :=
  match flag with
  | .snat => maps.pnicArray[0]?.map fun pnic => ⟨key.dstAddr, pnic.nicIp, key.dstPort, key.srcPort⟩
  | .dnat => (maps.exposeMap.get key.dstPort).map fun info =>
      ⟨info.containerIp, key.srcAddr, info.containerPort, key.srcPort⟩

theorem newFlow_replyKey {flag : Flags} {kernel : Kernel} {maps : Maps} {ctx : XdpContext}
    {flow : NewFlow} (opened : newFlow flag kernel maps ctx = some flow) :
    replyKey flag maps (flow.key flag) = some (flow.key flag.other) := by
  rw [← flow.reverseKey_key flag]
  cases flag with
  | snat =>
      obtain ⟨address, port, _⟩ := snatFlow_spec opened
      simp [replyKey, reverseKey, NewFlow.key, NewFlow.nat, address, port]
  | dnat =>
      obtain ⟨info, exposed, address, port, _⟩ := dnatFlow_spec opened
      simp only [replyKey, reverseKey, NewFlow.key, NewFlow.nat, exposed, address, port,
        Option.map_some]

/-- A frame of this direction that is about to open a flow finds the key free
that answers to the flow will be looked up under. -/
def Event.FindsReplyKeyFree (side : Flags) (system : System) : Event → Prop :=
  Event.OnFrames fun flag ctx kernel => flag = side → (newFlow flag kernel system.maps ctx).isSome →
    ∀ key ∈ frameTuple ctx.data, system.udpConntrack.get key = none →
      ∀ reply ∈ replyKey flag system.maps key, system.udpConntrack.get reply = none

/-- What the runs share in which a table only grows: each frame comes from its
own side, nothing is removed, the exposures are those of the requests, and the
table is never full. -/
structure Event.Growing (system : System) (event : Event) : Prop where
  sent : event.SentFromOwnSide system.containers.addresses
  keepsEntries : event.KeepsEntries
  keepsExposures : event.KeepsExposures
  room : (system.step event).udpConntrack.size < 65536

instance (side : Flags) (system : System) : DecidablePred (Event.FindsReplyKeyFree side system) :=
  Event.OnFrames.decidable

instance (system : System) : DecidablePred (Event.Growing system) := fun event =>
  decidable_of_iff (event.SentFromOwnSide system.containers.addresses ∧ event.KeepsEntries ∧
      event.KeepsExposures ∧ (system.step event).udpConntrack.size < 65536)
    ⟨fun ⟨sent, entries, exposures, room⟩ => ⟨sent, entries, exposures, room⟩,
      fun growing => ⟨growing.sent, growing.keepsEntries, growing.keepsExposures, growing.room⟩⟩

section Frame

variable {inside : Set UInt32} {flag side : Flags} {kernel : Kernel} {maps : Maps} {ctx : XdpContext}
variable {flow : NewFlow}

theorem newFlow_own_side (sent : ∀ key ∈ frameTuple ctx.data, OnSide inside key flag)
    (opened : newFlow flag kernel maps ctx = some flow) : OnSide inside (flow.key flag) flag :=
  sent _ (newFlow_key opened)

theorem newFlow_skey_side (sent : ∀ key ∈ frameTuple ctx.data, OnSide inside key flag)
    (exposes : ExposesInto inside maps.exposeMap)
    (opened : newFlow flag kernel maps ctx = some flow) : OnSide inside flow.skey .snat := by
  cases flag with
  | snat => exact newFlow_own_side sent opened
  | dnat =>
      obtain ⟨info, exposed, address, _⟩ := dnatFlow_spec opened
      rw [OnSide, flow.skey_eq, reverseKey, address]
      exact exposes _ info exposed

theorem newFlow_dkey_side (sent : ∀ key ∈ frameTuple ctx.data, OnSide inside key flag)
    (outside : flag = .snat → ∀ key ∈ frameTuple ctx.data, key.dstAddr ∉ inside)
    (opened : newFlow flag kernel maps ctx = some flow) : OnSide inside flow.dkey .dnat := by
  cases flag with
  | dnat => exact newFlow_own_side sent opened
  | snat =>
      rw [OnSide, flow.dkey_eq, reverseKey]
      exact outside rfl _ (newFlow_key opened)

/-- What a frame does to one side of the table: a new entry on it comes with its
partner, if the partner's key is free or was the key of the frame. -/
theorem pairedOn_frame
    (paired : PairedOn (natLink inside) {key | OnSide inside key side} (natAt maps.udpConntrack))
    (apart : ∀ flow, newFlow flag kernel maps ctx = some flow →
      OnSide inside (flow.key side.other) side.other)
    (free : flag = side → ∀ flow, outcome flag kernel maps ctx = .opens flow →
      maps.udpConntrack.get (flow.key side.other) = none)
    (room : (tryXdpRedirect kernel maps ctx flag).udpConntrack.size < 65536) :
    PairedOn (natLink inside) {key | OnSide inside key side}
      (natAt (tryXdpRedirect kernel maps ctx flag).udpConntrack) := by
  refine paired.extend (fun key nat => natAt_kept) ?_
  intro key onSide nat absent stored
  rcases natAt_new stored with before | ⟨_, flow, created, opens, opened, rfl, rfl⟩
  · cases absent.symm.trans before
  have otherSide := apart flow opened
  have own : created = side := by
    rcases Flags.eq_or_other created side with same | opposite
    · exact same
    · rw [opposite] at onSide
      exact absurd onSide (onSide_other.mp otherSide)
  subst own
  have different : flow.key created.other ≠ flow.key created := fun same =>
    onSide_other.mp (same ▸ otherSide) onSide
  refine ⟨flow.key created.other, flow.nat created.other, ?_, NewFlow.linked onSide otherSide⟩
  rw [opens_conntrack opens] at room ⊢
  have missed := (opens_spec opens).2
  rcases Flags.eq_or_other flag created with same | opposite
  · subst same
    exact natAt_eq_some.mpr
      ⟨_, record_backward missed (free rfl flow opens) different (record_room missed room), rfl⟩
  · subst opposite
    exact natAt_eq_some.mpr ⟨_, record_forward missed (size_le_record.trans_lt room), rfl⟩

theorem free_of_findsReplyKeyFree {system : System}
    (free : Event.FindsReplyKeyFree side system (.frame flag ctx kernel)) (own : flag = side)
    (opens : outcome flag kernel system.maps ctx = .opens flow) :
    system.udpConntrack.get (flow.key side.other) = none := by
  subst own
  obtain ⟨opened, missed⟩ := opens_spec opens
  exact free rfl (by rw [opened]; rfl) _ (newFlow_key opened) missed _ (newFlow_replyKey opened)

theorem Event.Growing.pairedOn {system : System} {event : Event} (growing : event.Growing system)
    (paired : PairedOn (natLink inside) {key | OnSide inside key side} (natAt system.udpConntrack))
    (apart : ∀ flag ctx kernel flow, event = .frame flag ctx kernel →
      newFlow flag kernel system.maps ctx = some flow →
      OnSide inside (flow.key side.other) side.other)
    (free : event.FindsReplyKeyFree side system) :
    PairedOn (natLink inside) {key | OnSide inside key side}
      (natAt (system.step event).udpConntrack) := by
  cases event with
  | frame flag ctx kernel =>
      have room := growing.room
      rw [step_frame_conntrack] at room ⊢
      exact pairedOn_frame paired (fun flow => apart flag ctx kernel flow rfl)
        (fun own flow => free_of_findsReplyKeyFree free own) room
  | sweepAtOnce now => exact growing.keepsEntries.elim
  | removeNext => exact growing.keepsEntries.elim
  | exposePort | unexposePort | writeExposeMap | writePnic | beginSweep | examine | endScan =>
      exact paired

end Frame

end XdpNatd
