import XdpNatd.Daemon.Requests
import XdpNatd.Ebpf.Rewrite
import XdpNatd.System

namespace XdpNatd

open XdpNatd.Data XdpNatd.Ebpf XdpNatd.Daemon

variable {system : System} {event : Event} {key : ConnectionTuple} {nat : NATData}

/-- A condition on frames that nothing else which happens can fail. -/
def Event.OnFrames (condition : Flags → XdpContext → Kernel → Prop) : Event → Prop
  | .frame flag ctx kernel => condition flag ctx kernel
  | _ => True

/-- The same for the frames of containers. -/
def Event.OnContainerFrames (condition : XdpContext → Kernel → Prop) : Event → Prop
  | .frame .snat ctx kernel => condition ctx kernel
  | _ => True

instance Event.OnFrames.decidable {condition : Flags → XdpContext → Kernel → Prop}
    [∀ flag ctx kernel, Decidable (condition flag ctx kernel)] :
    DecidablePred (Event.OnFrames condition) := fun event =>
  decidable_of_bool (match event with | .frame flag ctx kernel => condition flag ctx kernel | _ => true)
    (by cases event <;> simp [Event.OnFrames])

instance Event.OnContainerFrames.decidable {condition : XdpContext → Kernel → Prop}
    [∀ ctx kernel, Decidable (condition ctx kernel)] :
    DecidablePred (Event.OnContainerFrames condition) := fun event =>
  decidable_of_bool (match event with | .frame .snat ctx kernel => condition ctx kernel | _ => true)
    (by rcases event with ⟨_ | _⟩ <;> simp [Event.OnContainerFrames])

def Event.KeepsEntries : Event → Prop
  | .sweepAtOnce _ | .removeNext => False
  | _ => True

instance : DecidablePred Event.KeepsEntries := fun event =>
  decidable_of_bool (match event with | .sweepAtOnce _ | .removeNext => false | _ => true)
    (by cases event <;> simp [Event.KeepsEntries])

/-- An event after which `EXPOSE_MAP` holds what the requests put there. -/
def Event.KeepsExposures : Event → Prop
  | .writeExposeMap _ => False
  | _ => True

instance : DecidablePred Event.KeepsExposures := fun event =>
  decidable_of_bool (match event with | .writeExposeMap _ => false | _ => true)
    (by cases event <;> simp [Event.KeepsExposures])

theorem clock_le_step : system.clock ≤ (system.step event).clock := by
  change system.clock ≤ laterReading system.clock event.reading
  unfold laterReading
  split
  · exact UInt64.le_refl _
  · split
    · assumption
    · exact UInt64.le_refl _

theorem reading_le_step {now : UInt64} (read : event.reading = some now) :
    now ≤ (system.step event).clock := by
  change now ≤ laterReading system.clock event.reading
  rw [read, laterReading]
  split
  · exact UInt64.le_refl _
  · next earlier => exact (UInt64.le_total _ _).resolve_left earlier

/-- A clock reading is no earlier than the readings before it. -/
def Event.ReadsForward (system : System) (event : Event) : Prop :=
  ∀ now ∈ event.reading, system.clock ≤ now

instance (system : System) : DecidablePred (Event.ReadsForward system) := fun event =>
  -- through the option: a search over all clock values would not end
  Option.decidableForallMem event.reading

theorem System.verdict_eq (flag : Flags) (ctx : XdpContext) (kernel : Kernel) :
    system.verdict flag ctx kernel = tryXdpRedirect kernel system.maps ctx flag := by
  cases flag <;> rfl

/-- The same host, at another reading of the clock. -/
def SameButClock (left right : System) : Prop := { left with clock := 0 } = { right with clock := 0 }

theorem SameButClock.step {left right : System} {event : Event} (same : SameButClock left right) :
    SameButClock (left.step event) (right.step event) := by
  obtain ⟨_, _, _, _, _, _⟩ := left
  obtain ⟨_, _, _, _, _, _⟩ := right
  cases same
  cases event <;> rfl

theorem SameButClock.of_fields {left right : System} (table : left.udpConntrack = right.udpConntrack)
    (pnic : left.pnicArray = right.pnicArray) (redirects : left.redirectMap = right.redirectMap)
    (control : left.control = right.control) (expiry : left.expiry = right.expiry) :
    SameButClock left right := by
  obtain ⟨_, _, _, _, _, _⟩ := left
  obtain ⟨_, _, _, _, _, _⟩ := right
  cases table
  cases pnic
  cases redirects
  cases control
  cases expiry
  rfl

theorem SameButClock.trans {first second third : System} (left : SameButClock first second)
    (right : SameButClock second third) : SameButClock first third :=
  Eq.trans left right

section Verdict

variable {flag : Flags} {ctx : XdpContext} {kernel : Kernel}

theorem System.verdict_data : (system.verdict flag ctx kernel).data =
    match translation flag kernel system.maps ctx with
    | none => ctx.data
    | some nat => translateFrame flag nat ctx.data := by
  rw [System.verdict_eq]
  exact tryXdpRedirect_data

theorem System.verdict_devmapKey : (system.verdict flag ctx kernel).devmapKey =
    (translation flag kernel system.maps ctx).map NATData.devmapKey := by
  rw [System.verdict_eq]
  exact tryXdpRedirect_devmapKey

theorem System.verdict_action : (system.verdict flag ctx kernel).action =
    match translation flag kernel system.maps ctx with
    | none => .pass
    | some nat => if (system.redirectMap.get nat.devmapKey).isSome then .redirect else .pass := by
  rw [System.verdict_eq]
  exact tryXdpRedirect_action

theorem System.verdict_tuple_iff (tuple : frameTuple ctx.data = some key)
    (translated : translation flag kernel system.maps ctx = some nat) :
    frameTuple (system.verdict flag ctx kernel).data = some (translateTuple flag nat key) ↔
      loadU16 ctx.data (UdpHdr.check udp) ≠ 0 ∨ nat.natPort = ownPort flag key := by
  rw [System.verdict_eq]
  exact translated_tuple_iff tuple translated

end Verdict

theorem step_frame_conntrack (flag : Flags) (ctx : XdpContext) (kernel : Kernel) :
    (system.step (.frame flag ctx kernel)).udpConntrack =
      (tryXdpRedirect kernel system.maps ctx flag).udpConntrack :=
  congrArg Verdict.udpConntrack (system.verdict_eq flag ctx kernel)

theorem step_opens_conntrack {flag : Flags} {ctx : XdpContext} {kernel : Kernel} {flow : NewFlow}
    (opens : outcome flag kernel system.maps ctx = .opens flow) :
    (system.step (.frame flag ctx kernel)).udpConntrack =
      record system.udpConntrack kernel.ktimeGetCoarseNs (flow.key flag) (flow.nat flag)
        (flow.key flag.other) (flow.nat flag.other) :=
  (step_frame_conntrack flag ctx kernel).trans (opens_conntrack opens)

theorem natAt_step_translated {flag : Flags} {ctx : XdpContext} {kernel : Kernel}
    (tuple : frameTuple ctx.data = some key)
    (translated : translation flag kernel system.maps ctx = some nat)
    (room : (system.step (.frame flag ctx kernel)).udpConntrack.size < 65536) :
    natAt (system.step (.frame flag ctx kernel)).udpConntrack key = some nat := by
  rw [step_frame_conntrack] at room ⊢
  exact natAt_of_translation tuple translated room

theorem step_natAt_kept (keeps : event.KeepsEntries)
    (stored : natAt system.udpConntrack key = some nat) :
    natAt (system.step event).udpConntrack key = some nat := by
  cases event with
  | frame flag ctx kernel =>
      rw [step_frame_conntrack]
      exact natAt_kept stored
  | sweepAtOnce now => exact keeps.elim
  | removeNext => exact keeps.elim
  | exposePort | unexposePort | writeExposeMap | writePnic | beginSweep | examine | endScan =>
      exact stored

theorem step_containers : (system.step event).containers = system.containers := by
  cases event with
  | exposePort req calls =>
      change (exposePort calls req system.control).2.state.containerMetas = _
      rcases exposePort_cases calls req system.control with
        ⟨_, _, answer, _⟩ | ⟨_, _, _, _, answer, _, _, _⟩ <;> rw [answer] <;> rfl
  | unexposePort hostPort calls =>
      change (unexposePort calls hostPort system.control).2.state.containerMetas = _
      rcases unexposePort_cases calls hostPort system.control with
        ⟨_, answer⟩ | ⟨_, _, answer, _, _⟩ <;> rw [answer] <;> rfl
  | frame | writeExposeMap | writePnic | sweepAtOnce | beginSweep | examine | endScan | removeNext => rfl

theorem run_containers {events : List Event} :
    (run System.step system events).containers = system.containers := by
  induction events generalizing system with
  | nil => rfl
  | cons event rest ih => exact ih.trans step_containers

theorem step_redirectMap : (system.step event).redirectMap = system.redirectMap := by
  cases event <;> rfl

theorem run_redirectMap {events : List Event} :
    (run System.step system events).redirectMap = system.redirectMap := by
  induction events generalizing system with
  | nil => rfl
  | cons event rest ih => exact ih.trans step_redirectMap

/-- Where an exposure comes from: it was there, or an `expose_port` for a known
container has just filed it under the first free port. -/
theorem step_exposeMap_cases {port : UInt16} {info : ContainerInfo} (keeps : event.KeepsExposures)
    (exposed : (system.step event).exposeMap.get port = some info) :
    system.exposeMap.get port = some info ∨
    ∃ req calls container, event = .exposePort req calls ∧
      system.containers.get req.containerIp = some container ∧
      system.control.state.portAllocator.ports.head? = some port ∧
      system.exposeMap.get port = none ∧ info = exposure container req := by
  cases event with
  | exposePort req calls =>
      change (exposePort calls req system.control).2.state.exposeMap.get port = _ at exposed
      rcases exposePort_cases calls req system.control with
        ⟨_, _, answer, _⟩ | ⟨_, allocated, _, container, answer, known, queue, accepts⟩
      · rw [answer] at exposed
        exact Or.inl exposed
      · rw [answer] at exposed
        rcases BoundedMap.get_tryInsert_cases exposed with before | ⟨rfl, rfl, _⟩
        · exact Or.inl before
        · exact Or.inr ⟨req, calls, container, rfl, known, by rw [queue]; rfl, accepts.1, rfl⟩
  | unexposePort hostPort calls =>
      change (unexposePort calls hostPort system.control).2.state.exposeMap.get port = _ at exposed
      rcases unexposePort_cases calls hostPort system.control with
        ⟨_, answer⟩ | ⟨_, _, answer, _, _⟩
      · rw [answer] at exposed
        exact Or.inl exposed
      · rw [answer] at exposed
        by_cases same : port = hostPort
        · subst same
          cases BoundedMap.get_remove_self.symm.trans exposed
        · exact Or.inl ((BoundedMap.get_remove_other same).symm.trans exposed)
  | writeExposeMap => exact keeps.elim
  | frame | writePnic | sweepAtOnce | beginSweep | examine | endScan | removeNext =>
      exact Or.inl exposed

def System.ExposesContainers (system : System) : Prop :=
  ∀ port info, system.exposeMap.get port = some info →
    ∃ container, system.containers.get info.containerIp = some container ∧
      info.containerMac = container.macAddress

theorem boot_exposesContainers {containers : ContainerMap} {redirectMap : DevMapHash} {nic : NICInfo}
    {lower upper : UInt16} : (System.boot containers redirectMap nic lower upper).ExposesContainers := by
  intro port info exposed
  cases BoundedMap.get_empty.symm.trans exposed

theorem System.ExposesContainers.step (exposes : system.ExposesContainers) (keeps : event.KeepsExposures) :
    (system.step event).ExposesContainers := by
  intro port info exposed
  rw [step_containers]
  rcases step_exposeMap_cases keeps exposed with
    before | ⟨req, _, container, _, known, _, _, rfl⟩
  · exact exposes port info before
  · have own := system.containers.keyed _ _ known
    exact ⟨container, by rw [exposure, own]; exact known, rfl⟩

end XdpNatd
