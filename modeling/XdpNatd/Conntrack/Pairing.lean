import XdpNatd.Conntrack.Links
import XdpNatd.Conntrack.Origin
import XdpNatd.Testbed

namespace XdpNatd

open XdpNatd.Data XdpNatd.Ebpf XdpNatd.Daemon

variable {inside : Set UInt32} {system start : System} {event : Event} {events : List Event}
variable {flag side : Flags} {ctx : XdpContext} {kernel : Kernel} {key : ConnectionTuple}
variable {state : FlowState}

/-- Partners translate to each other, expire together, and point opposite ways. -/
def flowLink (inside : Set UInt32) : Link ConnectionTuple FlowState where
  linked key state partner back :=
    (natLink inside).linked key state.nat partner back.nat ∧ back.direction ≠ state.direction ∧
      back.seenReply = state.seenReply ∧ back.timeout = state.timeout
  symm := by
    rintro key state partner back ⟨linked, direction, seenReply, timeout⟩
    exact ⟨(natLink inside).symm linked, direction.symm, seenReply.symm, timeout.symm⟩
  unique := by
    rintro key state partner back partner' back' ⟨linked, _⟩ ⟨linked', _⟩
    exact (natLink inside).unique linked linked'

def Event.InsertsSucceed (system : System) : Event → Prop :=
  Event.OnFrames fun flag ctx kernel => ∀ flow ∈ newFlow flag kernel system.maps ctx,
    system.udpConntrack.get (flow.key flag) = none →
      system.udpConntrack.Accepts (flow.key flag) ∧
      (system.udpConntrack.tryInsert (flow.key flag)
        (.new (flow.nat flag) .original (kernel.ktimeGetCoarseNs + timeoutNew))).Accepts
          (flow.key flag.other)

instance (system : System) : DecidablePred (Event.InsertsSucceed system) :=
  Event.OnFrames.decidable

def Event.WritesInto (inside : Set UInt32) : Event → Prop
  | .writeExposeMap exposeMap => ExposesInto inside exposeMap
  | .exposePort req _ => req.containerIp ∈ inside
  | _ => True

instance (inside : Set UInt32) [DecidablePred (· ∈ inside)] :
    DecidablePred (Event.WritesInto inside) := fun event =>
  decidable_of_bool
    (match event with
      | .writeExposeMap exposeMap => ExposesInto inside exposeMap
      | .exposePort req _ => req.containerIp ∈ inside
      | _ => true)
    (by cases event <;> simp [Event.WritesInto])

def Event.SweepsWhole : Event → Prop
  | .removeNext => False
  | _ => True

instance : DecidablePred Event.SweepsWhole := fun event =>
  decidable_of_bool (match event with | .removeNext => false | _ => true)
    (by cases event <;> simp [Event.SweepsWhole])

/-- Frames come from their own side and leave it, and exposures lead into it. -/
structure Event.Sided (inside : Set UInt32) (event : Event) : Prop where
  sent : event.SentFromOwnSide inside
  outside : event.SentOutside inside
  writes : event.WritesInto inside

instance (inside : Set UInt32) [DecidablePred (· ∈ inside)] :
    DecidablePred (Event.Sided inside) := fun event =>
  decidable_of_iff (event.SentFromOwnSide inside ∧ event.SentOutside inside ∧ event.WritesInto inside)
    ⟨fun ⟨sent, outside, writes⟩ => ⟨sent, outside, writes⟩,
      fun sided => ⟨sided.sent, sided.outside, sided.writes⟩⟩

/-- A step of the runs in which halves of flows should stay together. -/
structure Event.Orderly (inside : Set UInt32) (system : System) (event : Event) : Prop
    extends Event.Sided inside event where
  inserts : event.InsertsSucceed system

instance (inside : Set UInt32) [DecidablePred (· ∈ inside)] (system : System) :
    DecidablePred (Event.Orderly inside system) := fun event =>
  decidable_of_iff (event.Sided inside ∧ event.InsertsSucceed system)
    ⟨fun ⟨sided, inserts⟩ => ⟨sided, inserts⟩, fun orderly => ⟨orderly.toSided, orderly.inserts⟩⟩

theorem ExposesInto.step (exposes : ExposesInto inside system.exposeMap)
    (writes : event.WritesInto inside) : ExposesInto inside (system.step event).exposeMap := by
  intro port info exposed
  by_cases keeps : event.KeepsExposures
  · rcases step_exposeMap_cases keeps exposed with
      before | ⟨req, calls, container, rfl, known, _, _, rfl⟩
    · exact exposes port info before
    · have own := system.containers.keyed _ _ known
      change container.ipv4Address ∈ inside
      rw [own]
      exact writes
  · cases event with
    | writeExposeMap exposeMap => exact writes port info exposed
    | frame | exposePort | unexposePort | writePnic | sweepAtOnce | beginSweep | examine | endScan
    | removeNext => exact absurd trivial keeps

theorem exposesInto_run {guard : System → Event → Prop} (exposes : ExposesInto inside start.exposeMap)
    (writes : ∀ system event, guard system event → event.WritesInto inside)
    (guarded : Guarded System.step guard start events) :
    ExposesInto inside (run System.step start events).exposeMap := by
  have preserved : ∀ system event, ExposesInto inside system.exposeMap → guard system event →
      ExposesInto inside (System.step system event).exposeMap :=
    fun system event exposes guards => exposes.step (writes system event guards)
  exact guarded.invariant preserved exposes

section Frame

variable {maps : Maps} {flow : NewFlow}

theorem Event.Sided.newFlow_side (sided : Event.Sided inside (.frame flag ctx kernel))
    (exposes : ExposesInto inside maps.exposeMap)
    (opened : newFlow flag kernel maps ctx = some flow) (side : Flags) :
    OnSide inside (flow.key side) side := by
  cases side with
  | snat => exact newFlow_skey_side sided.sent exposes opened
  | dnat =>
      refine newFlow_dkey_side sided.sent (fun own => ?_) opened
      subst own
      exact sided.outside

theorem Event.Orderly.newFlow_side (orderly : Event.Orderly inside system (.frame flag ctx kernel))
    (exposes : ExposesInto inside system.exposeMap)
    (opened : newFlow flag kernel system.maps ctx = some flow) (side : Flags) :
    OnSide inside (flow.key side) side :=
  @Event.Sided.newFlow_side inside flag ctx kernel system.maps flow orderly.toSided exposes opened side

theorem Event.Orderly.opened (orderly : Event.Orderly inside system (.frame flag ctx kernel))
    (opens : outcome flag kernel system.maps ctx = .opens flow) :
    (system.step (.frame flag ctx kernel)).udpConntrack.get (flow.key flag) =
        some (.new (flow.nat flag) .original (kernel.ktimeGetCoarseNs + timeoutNew)) ∧
      (system.step (.frame flag ctx kernel)).udpConntrack.get (flow.key flag.other) =
        some (.new (flow.nat flag.other) .reply (kernel.ktimeGetCoarseNs + timeoutNew)) := by
  obtain ⟨opened, missed⟩ := opens_spec opens
  obtain ⟨forward, backward⟩ := orderly.inserts flow opened missed
  rw [step_opens_conntrack opens]
  exact get_record forward backward

theorem Event.Orderly.absent (orderly : Event.Orderly inside system (.frame flag ctx kernel))
    (opens : outcome flag kernel system.maps ctx = .opens flow) (side : Flags) :
    system.udpConntrack.get (flow.key side) = none := by
  obtain ⟨opened, missed⟩ := opens_spec opens
  obtain ⟨_, backward⟩ := orderly.inserts flow opened missed
  rcases Flags.eq_or_other side flag with rfl | rfl
  · exact missed
  · cases found : system.udpConntrack.get (flow.key flag.other) with
    | none => rfl
    | some old => cases backward.1.symm.trans (BoundedMap.get_tryInsert_present found)

theorem Event.Orderly.room (orderly : Event.Orderly inside system (.frame flag ctx kernel))
    (opens : outcome flag kernel system.maps ctx = .opens flow) :
    system.udpConntrack.size + 2 ≤ 65536 := by
  obtain ⟨opened, missed⟩ := opens_spec opens
  obtain ⟨forward, backward⟩ := orderly.inserts flow opened missed
  have short := backward.2
  rw [BoundedMap.size_tryInsert_accepted forward] at short
  exact short

end Frame

/-- The partner of an entry is under the key that the entry's program recomputes. -/
theorem exists_partner (paired : PairedOn (flowLink inside) Set.univ system.udpConntrack.get)
    (keySide : OnSide inside key side) (stored : system.udpConntrack.get key = some state) :
    ∃ back, system.udpConntrack.get (reverseKey side key state.nat) = some back ∧
      reverseKey side key state.nat ≠ key ∧
      (flowLink inside).linked key state (reverseKey side key state.nat) back := by
  obtain ⟨partner, back, found, linked⟩ := paired key trivial state stored
  obtain ⟨rfl, partnerSide, _⟩ := linked_of_onSide keySide linked.1
  refine ⟨back, found, fun same => ?_, linked⟩
  rw [same] at partnerSide
  exact onSide_other.mp partnerSide keySide

theorem pairs_frame (paired : PairedOn (flowLink inside) Set.univ system.udpConntrack.get)
    (exposes : ExposesInto inside system.exposeMap)
    (orderly : Event.Orderly inside system (.frame flag ctx kernel)) :
    PairedOn (flowLink inside) Set.univ (system.step (.frame flag ctx kernel)).udpConntrack.get := by
  rcases outcome_cases flag kernel system.maps ctx with
    passes | ⟨key, state, hits, tuple, found⟩ | ⟨flow, opens, opened, tuple, missed⟩
  · rw [step_frame_conntrack, tryXdpRedirect_conntrack, passes]
    exact paired
  · have found : system.udpConntrack.get key = some state := found
    have keySide : OnSide inside key flag := orderly.sent key tuple
    obtain ⟨back, backFound, different, linked, direction, seenReply, timeout⟩ :=
      exists_partner paired keySide found
    rw [step_frame_conntrack, tryXdpRedirect_conntrack, hits]
    change PairedOn _ _ (touch system.udpConntrack _ _ _ _).get
    cases refreshed : refresh kernel.ktimeGetCoarseNs state with
    | none =>
        rw [touch_unrefreshed refreshed]
        exact paired
    | some written =>
        obtain ⟨keyAfter, partnerAfter⟩ := get_touch found different refreshed
        rw [backFound, Option.map_some] at partnerAfter
        refine paired.replace found ⟨linked, direction, seenReply, timeout⟩ keyAfter partnerAfter
          ⟨?_, ?_, rfl, rfl⟩ (fun next => get_touch_other) backFound
        · rw [refresh_nat refreshed]
          exact linked
        · rw [refresh_direction refreshed]
          exact direction
  · obtain ⟨forward, backward⟩ := orderly.opened opens
    have sides := orderly.newFlow_side exposes opened
    have linked : (flowLink inside).linked (flow.key flag)
        (.new (flow.nat flag) .original (kernel.ktimeGetCoarseNs + timeoutNew)) (flow.key flag.other)
        (.new (flow.nat flag.other) .reply (kernel.ktimeGetCoarseNs + timeoutNew)) :=
      ⟨NewFlow.linked (sides flag) (sides flag.other), by simp [FlowState.new], rfl, rfl⟩
    refine paired.extend (fun key state stored => ?_) (fun key _ state absent stored => ?_)
    · rw [step_opens_conntrack opens]
      exact record_present stored
    · have origin := stored
      rw [step_opens_conntrack opens] at origin
      rcases record_cases origin with before | ⟨_, ⟨rfl, rfl⟩ | ⟨rfl, rfl⟩⟩
      · cases absent.symm.trans before
      · exact ⟨_, _, backward, linked⟩
      · exact ⟨_, _, forward, (flowLink inside).symm linked⟩

theorem pairs_sweepAtOnce (now : UInt64)
    (paired : PairedOn (flowLink inside) Set.univ system.udpConntrack.get) :
    PairedOn (flowLink inside) Set.univ (sweepAtOnce system.udpConntrack now).get := by
  refine paired.shrink (fun key _ state stored => ⟨trivial, (get_sweepAtOnce.mp stored).1⟩) ?_
  intro key _ state partner back stored found linked
  refine get_sweepAtOnce.mpr ⟨found, ?_⟩
  rw [expired, linked.2.2.2]
  exact (get_sweepAtOnce.mp stored).2

theorem pairs_step (paired : PairedOn (flowLink inside) Set.univ system.udpConntrack.get)
    (exposes : ExposesInto inside system.exposeMap) (orderly : event.Orderly inside system)
    (whole : event.SweepsWhole) :
    PairedOn (flowLink inside) Set.univ (system.step event).udpConntrack.get := by
  cases event with
  | frame flag ctx kernel => exact pairs_frame paired exposes orderly
  | sweepAtOnce now => exact pairs_sweepAtOnce now paired
  | removeNext => exact whole.elim
  | exposePort | unexposePort | writeExposeMap | writePnic | beginSweep | examine | endScan =>
      exact paired

/-- The entry under `key` was created from the local `snat`, or from the local
`dnat`, of a program that ran on a frame of the run. -/
def CreatedFrom (start : System) (events : List Event) (key : ConnectionTuple) (side : Flags) : Prop :=
  ∃ before flag ctx kernel after flow, events = before ++ .frame flag ctx kernel :: after ∧
    CreatedBy start before flag ctx kernel after flow side key

theorem exists_createdFrom (empty : start.udpConntrack = .empty)
    (present : (run System.step start events).udpConntrack.get key = some state) :
    ∃ side, CreatedFrom start events key side := by
  obtain ⟨before, flag, ctx, kernel, after, flow, side, shape, _, created⟩ :=
    exists_createdBy empty (natAt_eq_some.mpr ⟨state, present, rfl⟩)
  exact ⟨side, before, flag, ctx, kernel, after, flow, shape, created⟩

def PairsKept (inside : Set UInt32) (system : System) : Prop :=
  PairedOn (flowLink inside) Set.univ system.udpConntrack.get ∧ ExposesInto inside system.exposeMap

theorem PairsKept.step (kept : PairsKept inside system) (orderly : event.Orderly inside system)
    (whole : event.SweepsWhole) : PairsKept inside (system.step event) :=
  ⟨pairs_step kept.1 kept.2 orderly whole, kept.2.step orderly.writes⟩

theorem PairsKept.initial (empty : start.udpConntrack = .empty)
    (exposes : ExposesInto inside start.exposeMap) : PairsKept inside start := by
  refine ⟨.empty fun key => ?_, exposes⟩
  rw [empty, BoundedMap.get_empty]

theorem PairsKept.run (empty : start.udpConntrack = .empty)
    (exposes : ExposesInto inside start.exposeMap)
    (guarded : Guarded System.step
      (fun system event => event.Orderly inside system ∧ event.SweepsWhole) start events) :
    PairsKept inside (run System.step start events) := by
  have preserved : ∀ state event, PairsKept inside state → (event.Orderly inside state ∧ event.SweepsWhole) →
      PairsKept inside (state.step event) :=
    fun state event kept both => kept.step both.1 both.2
  exact guarded.invariant preserved (.initial empty exposes)

/-- The key of an entry says which half it was created as. -/
theorem CreatedFrom.onSide (created : CreatedFrom start events key side)
    (exposes : ExposesInto inside start.exposeMap)
    (guarded : Guarded System.step (fun _ event => event.Sided inside) start events) :
    OnSide inside key side := by
  obtain ⟨before, flag, ctx, kernel, after, flow, rfl, opens, rfl, _, _⟩ := created
  obtain ⟨early, sided, _⟩ := guarded_append.mp guarded
  have known := exposesInto_run exposes (fun _ _ sided => sided.writes) early
  exact sided.newFlow_side known (opens_spec opens).1 side

/-- In every run whose insertions succeed and whose sweeps are single steps, each
entry created as one half of a flow has the other half in the table under the key
that its own program recomputes. Nothing else than the two halves of flows is in
the table, and the key that the fast path recomputes for a hit is the partner's. -/
theorem conntrack_paired (empty : start.udpConntrack = .empty)
    (exposes : ExposesInto inside start.exposeMap)
    (guarded : Guarded System.step
      (fun system event => event.Orderly inside system ∧ event.SweepsWhole) start events) :
    let conntrack := (run System.step start events).udpConntrack
    (∀ key state, conntrack.get key = some state → ∃ side, CreatedFrom start events key side) ∧
    (∀ side key state, conntrack.get key = some state → CreatedFrom start events key side →
      let partner := reverseKey side key state.nat
      ∃ back, conntrack.get partner = some back ∧ CreatedFrom start events partner side.other ∧
        reverseKey side.other partner back.nat = key ∧ back.direction ≠ state.direction ∧
        back.seenReply = state.seenReply ∧ back.timeout = state.timeout) ∧
    (∀ flag ctx kernel key state, Event.SentFromOwnSide inside (.frame flag ctx kernel) →
      frameTuple ctx.data = some key → conntrack.get key = some state →
      ∃ back, conntrack.get (reverseKey flag key state.nat) = some back ∧
        reverseKey flag.other (reverseKey flag key state.nat) back.nat = key) := by
  obtain ⟨paired, _⟩ := PairsKept.run empty exposes guarded
  have sided : Guarded System.step (fun _ event => event.Sided inside) start events :=
    guarded.weaken fun _ _ both => both.1.toSided
  refine ⟨fun key state stored => exists_createdFrom empty stored, ?_, ?_⟩
  · intro side key state stored created
    have keySide := created.onSide exposes sided
    obtain ⟨back, found, _, linked, direction, seenReply, timeout⟩ := exists_partner paired keySide stored
    obtain ⟨_, partnerSide, backward⟩ := linked_of_onSide keySide linked
    obtain ⟨other, partnerCreated⟩ := exists_createdFrom empty found
    cases onSide_unique (partnerCreated.onSide exposes sided) partnerSide
    exact ⟨back, found, partnerCreated, backward.symm, direction, seenReply, timeout⟩
  · intro flag ctx kernel key state sent tuple stored
    obtain ⟨back, found, _, linked, _⟩ := exists_partner paired (sent key tuple) stored
    exact ⟨back, found, (linked_of_onSide (sent key tuple) linked).2.2.symm⟩

open Testbed in
theorem answer_of_node_b_finds_partner :
    ∃ back, (run System.step exposing
        [.frame .dnat (fromNic ⟨remote, hostIp, 7000, 10000⟩ 0x1234) (kernelAt 0),
          .frame .snat (fromContainer 10 ⟨nodeA, remote, 4000, 53⟩ 0x1234) (kernelAt 1),
          .frame .snat (fromContainer 20 ⟨nodeB, remote, 5201, 7000⟩ 0x1234) (kernelAt 2),
          .writePnic ⟨0xC0A8060B, 2⟩, .sweepAtOnce 30_000_000_001]).udpConntrack.get
        ⟨remote, hostIp, 7000, 10000⟩ = some back ∧
      reverseKey .dnat ⟨remote, hostIp, 7000, 10000⟩ back.nat = ⟨nodeB, remote, 5201, 7000⟩ :=
  (@conntrack_paired exposing.containers.addresses exposing _ rfl
    exposing_exposesContainers.exposesInto (by decide +kernel)).2.2 .snat
    (fromContainer 20 ⟨nodeB, remote, 5201, 7000⟩ 0x1234) (kernelAt 30_000_000_002) _
    ⟨⟨hostIp, 10000, ⟨hostMac, gatewayMac⟩, 0⟩, .reply, true, 180_000_000_002⟩
    (by decide +kernel) (frameTuple_fromContainer _ _ _) (by decide +kernel)

end XdpNatd
