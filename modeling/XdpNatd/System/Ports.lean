import XdpNatd.System.Steps
import XdpNatd.Testbed

namespace XdpNatd

open XdpNatd.Data XdpNatd.Ebpf XdpNatd.Daemon

/-- The three stores agree on every port of the range. -/
structure Daemon.Control.Balanced (lower upper : UInt16) (control : Control) : Prop where
  nodup : control.state.portAllocator.ports.Nodup
  free : ∀ port ∈ control.state.portAllocator.ports, control.state.exposeMap.get port = none
  range : ∀ port, (port ∈ control.state.portAllocator.ports ∨
    (control.state.exposeMap.get port).isSome) ↔ lower ≤ port ∧ port ≤ upper
  rulesNodup : control.rules.Nodup
  rules : ∀ rule, rule ∈ control.rules ↔ ∃ info,
    control.state.exposeMap.get rule.hostPort = some info ∧
      rule = ⟨rule.hostPort, info.containerIp, info.containerPort⟩

section Requests

variable {control : Control} {calls : Calls} {req : ExposeRequest} {hostPort lower upper : UInt16}

theorem mem_new_ports {port : UInt16} :
    port ∈ (PortAllocator.new lower upper).ports ↔ lower ≤ port ∧ port ≤ upper := by
  simp only [PortAllocator.new, List.mem_map, List.mem_range'_1, UInt16.le_iff_toNat_le]
  constructor
  · intro listed
    obtain ⟨number, ⟨above, below⟩, rfl⟩ := listed
    have bound := upper.toNat_lt
    rw [UInt16.toNat_ofNat']
    omega
  · intro between
    obtain ⟨above, below⟩ := between
    exact ⟨port.toNat, by omega, UInt16.ofNat_toNat⟩

theorem new_ports_nodup : (PortAllocator.new lower upper).ports.Nodup := by
  refine List.Nodup.map_on ?_ (List.nodup_range')
  intro left leftMember right rightMember same
  rw [List.mem_range'_1] at leftMember rightMember
  have bound := upper.toNat_lt
  have numbers := congrArg UInt16.toNat same
  rw [UInt16.toNat_ofNat', UInt16.toNat_ofNat'] at numbers
  omega

theorem Daemon.Control.Balanced.permuted {ports : List UInt16}
    (balanced : control.Balanced lower upper) (same : ports.Perm control.state.portAllocator.ports) :
    Control.Balanced lower upper
      { control with state := { control.state with portAllocator := ⟨ports⟩ } } where
  nodup := same.nodup_iff.mpr balanced.nodup
  free port waiting := balanced.free port (same.mem_iff.mp waiting)
  range port := by
    rw [← balanced.range port, same.mem_iff]
  rulesNodup := balanced.rulesNodup
  rules := balanced.rules

theorem Daemon.Control.Balanced.exposed {port : UInt16} {ports : List UInt16} {info : ContainerInfo}
    (balanced : control.Balanced lower upper)
    (queue : control.state.portAllocator.ports = port :: ports)
    (accepts : control.state.exposeMap.Accepts port) :
    Control.Balanced lower upper
      { rules := control.rules ++ [⟨port, info.containerIp, info.containerPort⟩]
        state := { control.state with
          exposeMap := control.state.exposeMap.tryInsert port info
          portAllocator := ⟨ports⟩ } } := by
  obtain ⟨nodup, free, range, rulesNodup, rules⟩ := balanced
  rw [queue] at nodup free range
  obtain ⟨notWaiting, restNodup⟩ := List.nodup_cons.mp nodup
  have inserted : (control.state.exposeMap.tryInsert port info).get port = some info :=
    BoundedMap.get_tryInsert_self accepts
  have elsewhere : ∀ other, other ≠ port →
      (control.state.exposeMap.tryInsert port info).get other = control.state.exposeMap.get other :=
    fun other different => BoundedMap.get_tryInsert_other different
  have unruled : ∀ rule ∈ control.rules, rule.hostPort ≠ port := by
    intro rule member same
    obtain ⟨old, found, _⟩ := (rules rule).mp member
    rw [same, accepts.1] at found
    cases found
  refine ⟨restNodup, ?_, ?_, ?_, ?_⟩
  · intro other waiting
    have different : other ≠ port := fun same => notWaiting (same ▸ waiting)
    exact (elsewhere other different).trans (free other (List.mem_cons_of_mem _ waiting))
  · intro other
    rw [← range other, List.mem_cons]
    by_cases same : other = port
    · subst same
      simp [inserted]
    · simp [same, elsewhere other same]
  · refine List.nodup_append.mpr ⟨rulesNodup, List.nodup_singleton _, ?_⟩
    intro rule member added single same
    rw [List.mem_singleton.mp single] at same
    exact unruled rule member (congrArg DnatRule.hostPort same)
  · intro rule
    rw [List.mem_append, List.mem_singleton, rules rule]
    by_cases same : rule.hostPort = port
    · constructor
      · intro ruled
        rcases ruled with ⟨old, found, _⟩ | rfl
        · rw [same, accepts.1] at found
          cases found
        · exact ⟨info, inserted, rfl⟩
      · intro exposed
        obtain ⟨stored, found, shape⟩ := exposed
        rw [same] at found
        cases inserted.symm.trans found
        exact Or.inr (same ▸ shape)
    · constructor
      · intro ruled
        rcases ruled with ⟨old, found, shape⟩ | rfl
        · exact ⟨old, (elsewhere _ same).trans found, shape⟩
        · exact absurd rfl same
      · intro exposed
        obtain ⟨stored, found, shape⟩ := exposed
        exact Or.inl ⟨stored, (elsewhere _ same).symm.trans found, shape⟩

theorem Daemon.Control.Balanced.unexposed {info : ContainerInfo}
    (balanced : control.Balanced lower upper)
    (found : control.state.exposeMap.get hostPort = some info) :
    Control.Balanced lower upper
      { rules := control.rules.erase ⟨hostPort, info.containerIp, info.containerPort⟩
        state := { control.state with
          exposeMap := control.state.exposeMap.remove hostPort
          portAllocator := control.state.portAllocator.deallocate hostPort } } := by
  obtain ⟨nodup, free, range, rulesNodup, rules⟩ := balanced
  have gone : (control.state.exposeMap.remove hostPort).get hostPort = none :=
    BoundedMap.get_remove_self
  have elsewhere : ∀ other, other ≠ hostPort →
      (control.state.exposeMap.remove hostPort).get other = control.state.exposeMap.get other :=
    fun other different => BoundedMap.get_remove_other different
  have notWaiting : hostPort ∉ control.state.portAllocator.ports := by
    intro waiting
    cases (free hostPort waiting).symm.trans found
  refine ⟨?_, ?_, ?_, rulesNodup.erase _, ?_⟩
  · refine List.nodup_append.mpr ⟨nodup, List.nodup_singleton _, ?_⟩
    intro other waiting last single same
    rw [List.mem_singleton.mp single] at same
    exact notWaiting (same ▸ waiting)
  · intro other waiting
    rcases List.mem_append.mp waiting with earlier | last
    · have different : other ≠ hostPort := fun same => notWaiting (same ▸ earlier)
      exact (elsewhere other different).trans (free other earlier)
    · rw [List.mem_singleton.mp last]
      exact gone
  · intro other
    rw [← range other]
    change (other ∈ control.state.portAllocator.ports ++ [hostPort] ∨ _) ↔ _
    rw [List.mem_append, List.mem_singleton]
    by_cases same : other = hostPort
    · subst same
      simp [found]
    · simp [same, elsewhere other same]
  · intro rule
    rw [rulesNodup.mem_erase_iff, rules rule]
    by_cases same : rule.hostPort = hostPort
    · rw [same]
      constructor
      · intro ruled
        obtain ⟨other, stored, storedFound, shape⟩ := ruled
        cases found.symm.trans storedFound
        exact absurd shape other
      · intro exposed
        obtain ⟨stored, storedFound, _⟩ := exposed
        cases gone.symm.trans storedFound
    · have different : rule ≠ ⟨hostPort, info.containerIp, info.containerPort⟩ :=
        fun equal => same (congrArg DnatRule.hostPort equal)
      rw [elsewhere _ same]
      exact and_iff_right different

theorem Daemon.Control.Balanced.exposePort (balanced : control.Balanced lower upper) :
    Control.Balanced lower upper (exposePort calls req control).2 := by
  rcases exposePort_cases calls req control with
    ⟨_, ports, answer, same⟩ | ⟨_, port, ports, container, answer, _, queue, accepts⟩
  · rw [answer]
    exact balanced.permuted same
  · rw [answer]
    exact @Control.Balanced.exposed control lower upper port ports (exposure container req)
      balanced queue accepts

theorem Daemon.Control.Balanced.unexposePort (balanced : control.Balanced lower upper) :
    Control.Balanced lower upper (unexposePort calls hostPort control).2 := by
  rcases unexposePort_cases calls hostPort control with ⟨_, answer⟩ | ⟨_, info, answer, found, _⟩
  · rw [answer]
    exact balanced
  · rw [answer]
    exact balanced.unexposed found

end Requests

section Runs

variable {containers : ContainerMap} {redirectMap : DevMapHash} {nic : NICInfo}
variable {system : System} {event : Event} {events : List Event} {lower upper : UInt16}

theorem boot_balanced :
    (System.boot containers redirectMap nic lower upper).control.Balanced lower upper where
  nodup := new_ports_nodup
  free port _ := BoundedMap.get_empty
  range port := by
    change (port ∈ (PortAllocator.new lower upper).ports ∨
      (BoundedMap.empty.get port).isSome = true) ↔ _
    rw [mem_new_ports, BoundedMap.get_empty]
    simp
  rulesNodup := List.nodup_nil
  rules rule := by
    change rule ∈ [] ↔ ∃ info, BoundedMap.empty.get rule.hostPort = some info ∧ _
    simp

theorem balanced_step (balanced : system.control.Balanced lower upper)
    (keeps : event.KeepsExposures) : (system.step event).control.Balanced lower upper := by
  cases event with
  | exposePort req calls => exact balanced.exposePort
  | unexposePort hostPort calls => exact balanced.unexposePort
  | writeExposeMap exposeMap => exact keeps.elim
  | frame | writePnic | sweepAtOnce | beginSweep | examine | endScan | removeNext => exact balanced

theorem balanced_run
    (guarded : Guarded System.step (fun _ event => event.KeepsExposures)
      (System.boot containers redirectMap nic lower upper) events) :
    (run System.step (System.boot containers redirectMap nic lower upper) events).control.Balanced
      lower upper := by
  have preserved : ∀ (system : System) (event : Event), system.control.Balanced lower upper →
      event.KeepsExposures → (system.step event).control.Balanced lower upper :=
    fun _ _ => balanced_step
  exact guarded.invariant preserved boot_balanced

/-- Every port of the range is free or exposed, and never both. -/
theorem Daemon.Control.Balanced.count {control : Control} (balanced : control.Balanced lower upper) :
    control.state.portAllocator.ports.length + control.state.exposeMap.size =
      upper.toNat + 1 - lower.toNat := by
  obtain ⟨nodup, free, range, _, _⟩ := balanced
  have apart : Disjoint control.state.portAllocator.ports.toFinset control.state.exposeMap.keys := by
    rw [Finset.disjoint_left]
    intro port waiting exposed
    obtain ⟨info, found⟩ := BoundedMap.mem_keys.mp exposed
    cases (free port (List.mem_toFinset.mp waiting)).symm.trans found
  have together : control.state.portAllocator.ports.toFinset ∪ control.state.exposeMap.keys =
      (PortAllocator.new lower upper).ports.toFinset := by
    ext port
    rw [Finset.mem_union, List.mem_toFinset, List.mem_toFinset, mem_new_ports, ← range port,
      BoundedMap.mem_keys, Option.isSome_iff_exists]
  have cards := congrArg Finset.card together
  rw [Finset.card_union_of_disjoint apart, List.toFinset_card_of_nodup nodup,
    List.toFinset_card_of_nodup new_ports_nodup] at cards
  rw [BoundedMap.size, cards, PortAllocator.new, List.length_map, List.length_range']

end Runs

/-- A refused request leaves exposures, rules and the set of free ports alone. -/
def Daemon.Control.SamePorts (before after : Control) : Prop :=
  after.state.exposeMap = before.state.exposeMap ∧ after.rules = before.rules ∧
    after.state.portAllocator.ports.Perm before.state.portAllocator.ports

/-- After any sequence of requests, whatever their calls returned, every port of
the range is either free or exposed and the rules are those of the exposures. -/
theorem host_ports_balanced {containers : ContainerMap} {redirectMap : DevMapHash} {nic : NICInfo}
    {lower upper : UInt16} {events : List Event}
    (guarded : Guarded System.step (fun _ event => event.KeepsExposures)
      (System.boot containers redirectMap nic lower upper) events) :
    let control := (run System.step (System.boot containers redirectMap nic lower upper) events).control
    control.Balanced lower upper ∧
    (∀ calls req error, (exposePort calls req control).1 = .error error →
      control.SamePorts (exposePort calls req control).2) ∧
    (∀ calls hostPort error, (unexposePort calls hostPort control).1 = .error error →
      control.SamePorts (unexposePort calls hostPort control).2) := by
  intro control
  refine ⟨balanced_run guarded, ?_, ?_⟩
  · intro calls req error refused
    rcases exposePort_cases calls req control with
      ⟨_, ports, answer, same⟩ | ⟨_, _, _, _, answer, _, _, _⟩
    · rw [answer]
      exact ⟨rfl, rfl, same⟩
    · rw [answer] at refused
      cases refused
  · intro calls hostPort error refused
    rcases unexposePort_cases calls hostPort control with ⟨_, answer⟩ | ⟨_, _, answer, _, _⟩
    · rw [answer]
      exact ⟨rfl, rfl, .refl _⟩
    · rw [answer] at refused
      cases refused

/-- Requests whose calls fail at each of the three points. -/
def Testbed.failingRequests : List Event :=
  [.exposePort ⟨nodeB, 5201⟩ succeeding,
    .exposePort ⟨nodeB, 5202⟩ { succeeding with iptables := .failed },
    .exposePort ⟨nodeC, 5201⟩ { succeeding with mapInsert := false },
    .unexposePort 10000 { succeeding with iptables := .notExecuted }]

open Testbed in
theorem host_ports_balanced_after_rollbacks :
    let control := (run System.step host failingRequests).control
    control.Balanced 10000 12000 ∧
      control.SamePorts (exposePort succeeding ⟨remote, 5201⟩ control).2 :=
  have balanced := @host_ports_balanced containers redirectMap ⟨hostIp, 2⟩ portRange.1 portRange.2
    failingRequests (by decide)
  ⟨balanced.1, balanced.2.1 succeeding ⟨remote, 5201⟩
    (.notFound "Container with IP 8.8.8.8 doesn't exist") (by decide +kernel)⟩

/-- The answer to a request is `Capacity` when no port is free, and success
otherwise; it is never an internal error. -/
def CapacityExact (calls : Calls) (req : ExposeRequest) (control : Control) : Prop :=
  let answer := (exposePort calls req control).1
  let free := control.state.portAllocator.ports
  (free ≠ [] → ∃ response, answer = .ok response) ∧
    ((∃ message, answer = .error (.capacity message)) ↔ free = []) ∧
    ∀ message, answer ≠ .error (.internal message)

section Capacity

variable {containers : ContainerMap} {redirectMap : DevMapHash} {nic : NICInfo}
variable {control : Control} {container : ContainerMetadata} {calls : Calls} {req : ExposeRequest}
variable {events : List Event} {lower upper : UInt16}

theorem capacityExact_of_room (balanced : control.Balanced lower upper)
    (known : control.state.containerMetas.get req.containerIp = some container)
    (inserts : calls.mapInsert = true) (adds : calls.iptables = .succeeded)
    (room : control.state.exposeMap.size < 256) : CapacityExact calls req control := by
  cases queue : control.state.portAllocator.ports with
  | nil =>
      have answer := @exposePort_exhausted calls req control container known queue
      simp [CapacityExact, queue, answer]
  | cons port ports =>
      have unexposed := balanced.free port (by simp [queue])
      obtain ⟨response, answer⟩ :=
        exposePort_granted known queue ⟨unexposed, room⟩ inserts adds
      simp [CapacityExact, queue, answer]

theorem not_capacityExact_of_full
    (known : control.state.containerMetas.get req.containerIp = some container)
    (free : control.state.portAllocator.ports ≠ [])
    (full : ¬ control.state.exposeMap.size < 256) : ¬ CapacityExact calls req control := by
  cases queue : control.state.portAllocator.ports with
  | nil => exact absurd queue free
  | cons port ports =>
      intro exact
      obtain ⟨message, answer⟩ :=
        @exposePort_refused calls req control container port ports known queue
          fun accepts => full accepts.2
      exact exact.2.2 message answer

/-- 2001 ports are handed out for a map of 256 entries: the map is full first. -/
theorem free_ports_remain (balanced : control.Balanced portRange.1 portRange.2) :
    control.state.portAllocator.ports ≠ [] := by
  intro exhausted
  have count := balanced.count
  have bounded : control.state.exposeMap.size ≤ 256 := control.state.exposeMap.bounded
  rw [exhausted, List.length_nil] at count
  have ports : portRange.2.toNat + 1 - portRange.1.toNat = 2001 := rfl
  omega

theorem size_exposePort (balanced : control.Balanced lower upper)
    (known : control.state.containerMetas.get req.containerIp = some container)
    (inserts : calls.mapInsert = true) (adds : calls.iptables = .succeeded)
    (free : control.state.portAllocator.ports ≠ []) (room : control.state.exposeMap.size < 256) :
    (exposePort calls req control).2.state.exposeMap.size = control.state.exposeMap.size + 1 := by
  obtain ⟨response, granted⟩ := (capacityExact_of_room balanced known inserts adds room).1 free
  rcases exposePort_cases calls req control with
    ⟨_, _, answer, _⟩ | ⟨_, _, _, _, answer, _, _, accepts⟩
  · rw [answer] at granted
    cases granted
  · rw [answer]
    exact BoundedMap.size_tryInsert_accepted accepts

/-- After any sequence of requests the next one for a known container is answered
as the free ports say exactly when fewer than 256 ports are exposed. -/
theorem capacity_exact_iff
    (guarded : Guarded System.step (fun _ event => event.KeepsExposures)
      (System.boot containers redirectMap nic portRange.1 portRange.2) events)
    (known : containers.get req.containerIp = some container)
    (inserts : calls.mapInsert = true) (adds : calls.iptables = .succeeded) :
    let system := run System.step (System.boot containers redirectMap nic portRange.1 portRange.2) events
    CapacityExact calls req system.control ↔ system.exposeMap.size < 256 := by
  intro system
  have balanced : system.control.Balanced portRange.1 portRange.2 := balanced_run guarded
  have stillKnown : system.containers.get req.containerIp = some container := by
    rw [run_containers]
    exact known
  constructor
  · intro capacity
    by_contra full
    exact not_capacityExact_of_full stillKnown (free_ports_remain balanced) full capacity
  · exact capacityExact_of_room balanced stillKnown inserts adds

end Capacity

open Testbed in
theorem capacity_exact_after_rollbacks :
    let system := run System.step host failingRequests
    CapacityExact succeeding ⟨nodeC, 5201⟩ system.control ↔ system.exposeMap.size < 256 :=
  @capacity_exact_iff containers redirectMap ⟨hostIp, 2⟩ ⟨nodeC, 13, containerMac 30⟩ succeeding
    ⟨nodeC, 5201⟩ failingRequests (by decide) rfl rfl rfl

section Full

open Testbed

def Testbed.exposures (count : Nat) : List Event :=
  List.replicate count (.exposePort ⟨nodeB, 5201⟩ succeeding)

variable {count : Nat}

private theorem exposures_guarded :
    Guarded System.step (fun _ event => event.KeepsExposures) host (exposures count) := by
  induction count with
  | zero => trivial
  | succ count ih =>
      rw [exposures, List.replicate_succ', guarded_append]
      exact ⟨ih, trivial, trivial⟩

private theorem exposures_balanced :
    (run System.step host (exposures count)).control.Balanced portRange.1 portRange.2 :=
  balanced_run exposures_guarded

private theorem exposures_known :
    (run System.step host (exposures count)).control.state.containerMetas.get nodeB =
      some ⟨nodeB, 12, containerMac 20⟩ := by
  change (run System.step host (exposures count)).containers.get nodeB = _
  rw [run_containers]
  rfl

theorem exposures_size (room : count ≤ 256) :
    (run System.step host (exposures count)).exposeMap.size = count := by
  induction count with
  | zero => rfl
  | succ count ih =>
      have size := ih (Nat.le_of_succ_le room)
      have next : exposures (count + 1) =
          exposures count ++ [.exposePort ⟨nodeB, 5201⟩ succeeding] := List.replicate_succ'
      rw [next, run_append, run_cons, run_nil]
      exact (size_exposePort exposures_balanced exposures_known rfl rfl
        (free_ports_remain exposures_balanced) (size.trans_lt room)).trans (congrArg Nat.succ size)

private theorem refused_when_full (full : count = 256) :
    let control := (run System.step host (exposures count)).control
    control.state.portAllocator.ports.length = 1745 ∧
      (∃ message, (exposePort succeeding ⟨nodeB, 5201⟩ control).1 = .error (.internal message)) ∧
      ¬ CapacityExact succeeding ⟨nodeB, 5201⟩ control := by
  intro control
  have size : control.state.exposeMap.size = count := exposures_size full.le
  have balanced : control.Balanced portRange.1 portRange.2 := exposures_balanced
  have total := balanced.count
  have ports : portRange.2.toNat + 1 - portRange.1.toNat = 2001 := rfl
  have noRoom : ¬ control.state.exposeMap.size < 256 := by omega
  refine ⟨by omega, ?_,
    not_capacityExact_of_full exposures_known (free_ports_remain balanced) noRoom⟩
  cases queue : control.state.portAllocator.ports with
  | nil => exact absurd queue (free_ports_remain balanced)
  | cons port rest => exact exposePort_refused exposures_known queue fun accepts => noRoom accepts.2

/-- The 257th exposure is answered with an internal error, with 1745 ports free. -/
theorem exposure_257_is_internal :
    let control := (run System.step host (exposures 256)).control
    control.state.portAllocator.ports.length = 1745 ∧
      (∃ message, (exposePort succeeding ⟨nodeB, 5201⟩ control).1 = .error (.internal message)) ∧
      ¬ CapacityExact succeeding ⟨nodeB, 5201⟩ control :=
  refused_when_full rfl

end Full

end XdpNatd
