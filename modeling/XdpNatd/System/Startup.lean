import XdpNatd.Conntrack.Links
import XdpNatd.Conntrack.Origin
import XdpNatd.Ebpf.Passes
import XdpNatd.Testbed

namespace XdpNatd

open XdpNatd.Data XdpNatd.Ebpf XdpNatd.Daemon

/-! # From `main` to the first flow

The programs start to run one interface at a time, while `main` is still filling
the maps that they read, and any step of `main` may fail and end the process.  A
frame that the programs translate but cannot redirect would go up the host's own
stack in a state that nobody expects.  The order of the steps keeps this from
happening: nothing can open a flow before the redirect map is complete.
-/

/-- One `?` of `main`, or one statement that lets something else begin. -/
inductive Startup where
  | attachContainer (container : ContainerMetadata)
  | redirectContainer (container : ContainerMetadata)
  | redirectNic (nicIfindex : UInt32)
  | attachHost (nicIfindex : UInt32)
  | spawnExpiry
  | setPnic (info : NICInfo)
  | serve
deriving DecidableEq

/-- `attach_container_xdp`, `setup_devmap` and, with a NIC in the configuration,
`setup_pnic` and the rest of `main` up to the server. -/
def startup (containers : List ContainerMetadata) (pnic : Option NICInfo) : List Startup :=
  containers.map .attachContainer ++ containers.map .redirectContainer ++
    match pnic with
    | none => []
    | some info =>
        [.redirectNic info.nicIfindex, .attachHost info.nicIfindex, .spawnExpiry, .setPnic info, .serve]

structure Host where
  system : System
  /-- The interfaces that run `xdp_redirect_containers`. -/
  containerLinks : List UInt32
  /-- The interface that runs `xdp_redirect_host`. -/
  hostLink : Option UInt32
  expiring : Bool
  serving : Bool
  running : Bool
  todo : List Startup

def Daemon.ContainerMap.ofList (containers : List ContainerMetadata) : ContainerMap where
  get address := containers.find? fun container => container.ipv4Address = address
  keyed _ _ found := by simpa using List.find?_some found

/-- The maps as `Ebpf::load` creates them, with the whole of `main` still to do. -/
def Host.loaded (containers : List ContainerMetadata) (pnic : Option NICInfo) (lower upper : UInt16) :
    Host :=
  { system := .boot (.ofList containers) .empty ⟨0, 0⟩ lower upper
    containerLinks := []
    hostLink := none
    expiring := false
    serving := false
    running := true
    todo := startup containers pnic }

/-- `devmap.insert(key, ifindex, None, 0)?` -/
def Host.redirect (host : Host) (ok : Bool) (key ifindex : UInt32) : Option Host :=
  match ok, host.system.redirectMap.insertAny key ifindex with
  | true, .ok redirectMap => some { host with system := { host.system with redirectMap } }
  | _, _ => none

/-- One step of `main`, given whether its calls into the kernel succeed; nothing
is left if an error is handed up. The result of `pnic_array.set` is not looked at. -/
def Host.perform (host : Host) (ok : Bool) : Startup → Option Host
  | .attachContainer container =>
      if ok then some { host with containerLinks := container.ifindex :: host.containerLinks } else none
  | .redirectContainer container => host.redirect ok container.ipv4Address container.ifindex
  | .redirectNic nicIfindex => host.redirect ok 0 nicIfindex
  | .attachHost nicIfindex => if ok then some { host with hostLink := some nicIfindex } else none
  | .spawnExpiry => some { host with expiring := true }
  | .setPnic info =>
      some (if ok then { host with system := host.system.act (.writePnic info) } else host)
  | .serve => if ok then some { host with serving := true } else none

/-- Which events can happen yet. The process never writes the exposures but on a
request, and `PNIC_ARRAY` only in `main`. -/
def Host.Enables (host : Host) : Event → Prop
  | .frame .snat ctx _ => host.running ∧ ctx.ingressIfindex ∈ host.containerLinks
  | .frame .dnat ctx _ => host.running ∧ host.hostLink = some ctx.ingressIfindex
  | .exposePort .. | .unexposePort .. => host.running ∧ host.serving
  | .sweepAtOnce _ | .beginSweep | .examine .. | .endScan | .removeNext => host.running ∧ host.expiring
  | .writeExposeMap _ | .writePnic _ => False

instance (host : Host) : DecidablePred host.Enables := fun event =>
  match event with
  | .frame .snat .. | .frame .dnat .. | .exposePort .. | .unexposePort .. | .sweepAtOnce _ | .beginSweep
  | .examine .. | .endScan | .removeNext => inferInstanceAs (Decidable (_ ∧ _))
  | .writeExposeMap _ | .writePnic _ => isFalse id

inductive Occurrence where
  /-- `main` takes its next step. -/
  | proceeds (ok : Bool)
  | happens (event : Event)

def Host.step (host : Host) : Occurrence → Host
  | .proceeds ok =>
      match host.running, host.todo with
      | true, action :: todo =>
          match host.perform ok action with
          | some next => { next with todo }
          | none => { host with running := false }
      | _, _ => host
  | .happens event => if host.Enables event then { host with system := host.system.step event } else host

/-- A container sends from the address of a container. -/
def Occurrence.FromContainers (containers : List ContainerMetadata) : Occurrence → Prop
  | .proceeds _ => True
  | .happens event => event.OnContainerFrames fun ctx _ => ∀ key ∈ frameTuple ctx.data,
      ∃ container ∈ containers, container.ipv4Address = key.srcAddr

instance (containers : List ContainerMetadata) :
    DecidablePred (Occurrence.FromContainers containers) := fun occurrence =>
  match occurrence with
  | .proceeds _ => isTrue trivial
  | .happens event => inferInstanceAs (Decidable (event.OnContainerFrames _))

/-- There is no interface with the index 0 to look a route up from. -/
def Ebpf.Kernel.NoDeviceZero (kernel : Kernel) : Prop :=
  ∀ fib, fib.ifindex = 0 → (kernel.fibLookup fib).1 ≠ 0

theorem Ebpf.Kernel.NoDeviceZero.getFibMacs {kernel : Kernel} {srcIp dstIp : UInt32} {proto : IpProto}
    {totLen : UInt16} (noDevice : kernel.NoDeviceZero) :
    Ebpf.getFibMacs kernel srcIp dstIp proto totLen 0 = none := by
  have failed : (doFibLookup kernel .zeroed proto.toByte srcIp dstIp totLen 0).1 ≠ 0 := noDevice _ rfl
  simp [Ebpf.getFibMacs, failed]

def Startup.rank : Startup → Nat
  | .attachContainer _ => 0
  | .redirectContainer _ => 1
  | .redirectNic _ => 2
  | .attachHost _ => 3
  | .spawnExpiry => 4
  | .setPnic _ => 5
  | .serve => 6

/-- One step may come before the other; only those for containers come more than once. -/
def Startup.Precedes (first second : Startup) : Prop :=
  first.rank < second.rank ∨ (first.rank = second.rank ∧ first.rank < 2)

variable {containers : List ContainerMetadata} {pnic : Option NICInfo} {host : Host}
variable {action : Startup} {rest : List Startup} {system : System}

theorem startup_ordered : (startup containers pnic).Pairwise Startup.Precedes := by
  have same {make : ContainerMetadata → Startup} (rank : Nat) (early : rank < 2)
      (ranked : ∀ container, (make container).rank = rank) :
      (containers.map make).Pairwise Startup.Precedes := by
    refine List.pairwise_map.mpr (List.pairwise_of_forall fun first second => Or.inr ?_)
    rw [ranked, ranked]
    exact ⟨rfl, early⟩
  unfold startup
  rw [List.pairwise_append, List.pairwise_append]
  refine ⟨⟨same 0 (by decide) fun _ => rfl, same 1 (by decide) fun _ => rfl, ?_⟩, ?_, ?_⟩
  · intro first firstMember second secondMember
    obtain ⟨_, _, rfl⟩ := List.mem_map.mp firstMember
    obtain ⟨_, _, rfl⟩ := List.mem_map.mp secondMember
    exact Or.inl Nat.zero_lt_one
  · cases pnic with
    | none => exact .nil
    | some info => simp [Startup.Precedes, Startup.rank]
  · intro first firstMember second secondMember
    cases pnic with
    | none => cases secondMember
    | some info =>
        have early : first.rank < 2 := by
          rcases List.mem_append.mp firstMember with member | member <;>
            obtain ⟨_, _, rfl⟩ := List.mem_map.mp member <;> simp [Startup.rank]
        have late : 2 ≤ second.rank := by
          simp only [List.mem_cons, List.not_mem_nil, or_false] at secondMember
          rcases secondMember with rfl | rfl | rfl | rfl | rfl <;> simp [Startup.rank]
        exact Or.inl (by omega)

theorem setPnic_planned {info : NICInfo} (planned : .setPnic info ∈ startup containers pnic) :
    pnic ≠ none := by
  intro absent
  simp [startup, absent] at planned

theorem serve_planned (planned : .serve ∈ startup containers pnic) : pnic ≠ none := by
  intro absent
  simp [startup, absent] at planned

/-- `PNIC_ARRAY` is still as it was created. -/
def Host.Early (pnic : Option NICInfo) (host : Host) : Prop :=
  pnic = none ∨ ∃ info, .setPnic info ∈ host.todo

structure Host.Sound (containers : List ContainerMetadata) (pnic : Option NICInfo) (host : Host) :
    Prop where
  ordered : host.todo.Pairwise Startup.Precedes
  planned : ∀ action ∈ host.todo, action ∈ startup containers pnic
  known : host.system.containers = .ofList containers
  exposes : host.system.ExposesContainers
  redirects : ∀ container ∈ containers, .redirectContainer container ∈ host.todo ∨
    (host.system.redirectMap.get container.ipv4Address).isSome
  redirectsNic : ∀ info ∈ pnic, .redirectNic info.nicIfindex ∈ host.todo ∨
    (host.system.redirectMap.get 0).isSome
  late : ¬ host.Early pnic → ∀ action ∈ host.todo, action.rank = 6
  early : host.Early pnic → (∀ key, host.system.udpConntrack.get key = none) ∧
    (∀ port, host.system.exposeMap.get port = none) ∧ host.system.pnicArray = #v[⟨0, 0⟩] ∧
    host.serving = false
  stored : ∀ key nat, natAt host.system.udpConntrack key = some nat →
    (host.system.redirectMap.get nat.devmapKey).isSome

theorem loaded_sound {lower upper : UInt16} :
    (Host.loaded containers pnic lower upper).Sound containers pnic where
  ordered := startup_ordered
  planned _ member := member
  known := rfl
  exposes := boot_exposesContainers
  redirects container member := Or.inl (by
    simp only [Host.loaded, startup, List.mem_append, List.mem_map]
    exact Or.inl (Or.inr ⟨container, member, rfl⟩))
  redirectsNic info configured := Or.inl (by simp [Host.loaded, startup, Option.mem_def.mp configured])
  late ready := by
    refine absurd ?_ ready
    cases pnic with
    | none => exact Or.inl rfl
    | some info => exact Or.inr ⟨info, by simp [Host.loaded, startup]⟩
  early _ := ⟨fun _ => BoundedMap.get_empty, fun _ => BoundedMap.get_empty, rfl, rfl⟩
  stored key nat stored := by
    have nothing : natAt (BoundedMap.empty : Conntrack) key = some nat := stored
    rw [natAt, BoundedMap.get_empty] at nothing
    cases nothing

namespace Host.Sound

/-- Once the NIC is set, every address that a flow can lead to is in the redirect map. -/
theorem complete (sound : host.Sound containers pnic) (ready : ¬ host.Early pnic) :
    (∀ container ∈ containers, (host.system.redirectMap.get container.ipv4Address).isSome) ∧
      (host.system.redirectMap.get 0).isSome := by
  obtain ⟨unset, _⟩ := not_or.mp ready
  obtain ⟨info, configured⟩ := Option.ne_none_iff_exists'.mp unset
  have noneLeft := sound.late ready
  constructor
  · intro container member
    rcases sound.redirects container member with left | present
    · cases noneLeft _ left
    · exact present
  · rcases sound.redirectsNic info configured with left | present
    · cases noneLeft _ left
    · exact present

/-- A step of `main` that neither sets the NIC nor starts the server. -/
theorem prepares {next : Host} {redirectMap : DevMapHash} (sound : host.Sound containers pnic)
    (todo : host.todo = action :: rest) (shorter : next.todo = rest)
    (system : next.system = { host.system with redirectMap }) (serving : next.serving = host.serving)
    (grown : ∀ key, (host.system.redirectMap.get key).isSome → (redirectMap.get key).isSome)
    (container : ∀ container, action = .redirectContainer container →
      (redirectMap.get container.ipv4Address).isSome)
    (nic : ∀ ifindex, action = .redirectNic ifindex → (redirectMap.get 0).isSome)
    (unset : ∀ info, action ≠ .setPnic info) : next.Sound containers pnic := by
  have inBefore {other : Startup} (member : other ∈ rest) : other ∈ host.todo := by
    rw [todo]
    exact List.mem_cons_of_mem _ member
  have ordered := sound.ordered
  rw [todo] at ordered
  constructor
  · rw [shorter]
    exact ordered.of_cons
  · intro other member
    exact sound.planned other (inBefore (shorter ▸ member))
  · rw [system]
    exact sound.known
  · rw [system]
    exact sound.exposes
  · intro other member
    rw [shorter, system]
    rcases sound.redirects other member with left | present
    · rw [todo] at left
      rcases List.mem_cons.mp left with now | later
      · exact Or.inr (container other now.symm)
      · exact Or.inl later
    · exact Or.inr (grown _ present)
  · intro info configured
    rw [shorter, system]
    rcases sound.redirectsNic info configured with left | present
    · rw [todo] at left
      rcases List.mem_cons.mp left with now | later
      · exact Or.inr (nic _ now.symm)
      · exact Or.inl later
    · exact Or.inr (grown _ present)
  · intro ready other member
    refine sound.late (fun early => ready ?_) other (inBefore (shorter ▸ member))
    rcases early with absent | ⟨info, left⟩
    · exact Or.inl absent
    · rw [todo] at left
      rcases List.mem_cons.mp left with now | later
      · exact absurd now.symm (unset info)
      · exact Or.inr ⟨info, shorter ▸ later⟩
  · intro early
    have earlyBefore : host.Early pnic := by
      rcases early with absent | ⟨info, left⟩
      · exact Or.inl absent
      · exact Or.inr ⟨info, inBefore (shorter ▸ left)⟩
    rw [system, serving]
    exact sound.early earlyBefore
  · rw [system]
    intro key nat stored
    exact grown _ (sound.stored key nat stored)

/-- After the NIC is set, nothing is left but to serve, and then nothing. -/
theorem after_late (sound : host.Sound containers pnic) (todo : host.todo = action :: rest)
    (late : 5 ≤ action.rank) :
    pnic ≠ none ∧ ∀ other ∈ rest, action.rank < 6 ∧ other.rank = 6 := by
  have ordered := sound.ordered
  have planned := sound.planned action (by rw [todo]; exact List.mem_cons_self)
  rw [todo] at ordered
  constructor
  · cases action with
    | setPnic info => exact setPnic_planned planned
    | serve => exact serve_planned planned
    | attachContainer | redirectContainer | redirectNic | attachHost | spawnExpiry =>
        simp [Startup.rank] at late
  · intro other member
    rcases List.rel_of_pairwise_cons ordered member with later | ⟨_, twice⟩
    · have last : other.rank ≤ 6 := by cases other <;> simp [Startup.rank]
      omega
    · omega

/-- The step that sets the NIC, or the one that starts the server. -/
theorem finishes {next : Host} (sound : host.Sound containers pnic) (todo : host.todo = action :: rest)
    (late : 5 ≤ action.rank) (shorter : next.todo = rest)
    (same : next.system.udpConntrack = host.system.udpConntrack ∧
      next.system.redirectMap = host.system.redirectMap ∧ next.system.control = host.system.control) :
    next.Sound containers pnic := by
  obtain ⟨udpConntrack, redirectMap, control⟩ := same
  obtain ⟨configured, serves⟩ := sound.after_late todo late
  have inRest {other : Startup} (early : other.rank < 5) (member : other ∈ host.todo) : other ∈ next.todo := by
    rw [todo] at member
    rw [shorter]
    rcases List.mem_cons.mp member with rfl | later
    · omega
    · exact later
  have ordered := sound.ordered
  rw [todo] at ordered
  have exposeMap : next.system.exposeMap = host.system.exposeMap := by
    rw [System.exposeMap, control, System.exposeMap]
  have known : next.system.containers = host.system.containers := by
    rw [System.containers, control, System.containers]
  constructor
  · rw [shorter]
    exact ordered.of_cons
  · intro other member
    exact sound.planned other (by rw [todo]; exact List.mem_cons_of_mem _ (shorter ▸ member))
  · rw [known]
    exact sound.known
  · unfold System.ExposesContainers
    rw [known, exposeMap]
    exact sound.exposes
  · intro container member
    rw [redirectMap]
    exact (sound.redirects container member).imp_left (inRest (by simp [Startup.rank]))
  · intro info configured
    rw [redirectMap]
    exact (sound.redirectsNic info configured).imp_left (inRest (by simp [Startup.rank]))
  · intro _ other member
    exact (serves other (shorter ▸ member)).2
  · intro early
    rcases early with absent | ⟨info, left⟩
    · exact absurd absent configured
    · cases (serves _ (shorter ▸ left)).2
  · rw [udpConntrack, redirectMap]
    exact sound.stored

theorem redirect {next : Host} {ok : Bool} {key ifindex : UInt32}
    (performed : host.redirect ok key ifindex = some next) :
    ∃ redirectMap, next = { host with system := { host.system with redirectMap } } ∧
      (redirectMap.get key).isSome ∧
      ∀ other, (host.system.redirectMap.get other).isSome → (redirectMap.get other).isSome := by
  unfold Host.redirect at performed
  split at performed
  · next redirectMap inserted =>
      cases performed
      have stored := BoundedMap.get_insertAny_self inserted
      refine ⟨redirectMap, rfl, by rw [stored]; rfl, fun other present => ?_⟩
      by_cases same : other = key
      · rw [same, stored]
        rfl
      · rw [BoundedMap.get_insertAny_other inserted same]
        exact present
  · cases performed

theorem proceeds (sound : host.Sound containers pnic) (ok : Bool) :
    (host.step (.proceeds ok)).Sound containers pnic := by
  unfold Host.step
  dsimp only
  split
  · next action rest _ todo =>
      split
      · next next performed =>
          cases action with
          | attachContainer container =>
              obtain ⟨_, same⟩ := Option.ite_none_right_eq_some.mp performed
              cases same
              exact sound.prepares todo rfl rfl rfl (fun _ present => present) nofun nofun nofun
          | redirectContainer container =>
              obtain ⟨redirectMap, rfl, present, grown⟩ := redirect performed
              refine sound.prepares todo rfl rfl rfl grown ?_ nofun nofun
              intro other same
              cases same
              exact present
          | redirectNic ifindex =>
              obtain ⟨redirectMap, rfl, present, grown⟩ := redirect performed
              exact sound.prepares todo rfl rfl rfl grown nofun (fun _ _ => present) nofun
          | attachHost ifindex =>
              obtain ⟨_, same⟩ := Option.ite_none_right_eq_some.mp performed
              cases same
              exact sound.prepares todo rfl rfl rfl (fun _ present => present) nofun nofun nofun
          | spawnExpiry =>
              cases performed
              exact sound.prepares todo rfl rfl rfl (fun _ present => present) nofun nofun nofun
          | setPnic info =>
              refine sound.finishes todo (Nat.le_refl 5) rfl ?_
              cases ok <;> cases performed <;> exact ⟨rfl, rfl, rfl⟩
          | serve =>
              obtain ⟨_, same⟩ := Option.ite_none_right_eq_some.mp performed
              cases same
              exact sound.finishes todo (by decide) rfl ⟨rfl, rfl, rfl⟩
      · exact ⟨sound.ordered, sound.planned, sound.known, sound.exposes, sound.redirects,
          sound.redirectsNic, sound.late, sound.early, sound.stored⟩
  · exact sound

/-- As long as the maps are as they were created, no program opens a flow. -/
theorem passes_early {flag : Flags} {ctx : XdpContext} {kernel : Kernel}
    (sound : host.Sound containers pnic) (early : host.Early pnic) (noDevice : kernel.NoDeviceZero) :
    outcome flag kernel host.system.maps ctx = .passes := by
  obtain ⟨empty, unexposed, unset, _⟩ := sound.early early
  rcases outcome_cases flag kernel host.system.maps ctx with
    passes | ⟨key, state, _, _, found⟩ | ⟨flow, _, opened, _, _⟩
  · exact passes
  · cases (empty key).symm.trans found
  · obtain ⟨⟨srcIp, dstIp⟩, _, opened⟩ := Option.bind_eq_some_iff.mp opened
    cases flag with
    | dnat =>
        simp only [dnatFlow, Option.bind_eq_bind, Option.bind_eq_some_iff] at opened
        obtain ⟨info, exposed, _⟩ := opened
        cases (unexposed _).symm.trans exposed
    | snat =>
        simp only [snatFlow, Option.bind_eq_bind, Option.bind_eq_some_iff] at opened
        obtain ⟨nic, found, macs, looked, _⟩ := opened
        have zero : nic = ⟨0, 0⟩ := by
          have first : host.system.maps.pnicArray = #v[⟨0, 0⟩] := unset
          rw [first] at found
          exact (Option.some.inj found).symm
        subst zero
        cases noDevice.getFibMacs.symm.trans looked

/-- Every flow that a frame opens is redirected to an interface that is known. -/
theorem opened_redirects {flag : Flags} {ctx : XdpContext} {kernel : Kernel} {flow : NewFlow}
    (sound : host.Sound containers pnic) (ready : ¬ host.Early pnic)
    (sent : Occurrence.FromContainers containers (.happens (.frame flag ctx kernel)))
    (opened : newFlow flag kernel host.system.maps ctx = some flow) (side : Flags) :
    (host.system.redirectMap.get (flow.nat side).devmapKey).isSome := by
  obtain ⟨ofContainers, ofNic⟩ := sound.complete ready
  cases flag with
  | snat =>
      obtain ⟨_, _, toNic, toContainer, _⟩ := snatFlow_spec opened
      cases side with
      | snat => rwa [NewFlow.nat, toNic]
      | dnat =>
          obtain ⟨container, member, address⟩ := sent _ (newFlow_key opened)
          have own : flow.dnat.natAddr = flow.skey.srcAddr := by
            have key := congrArg ConnectionTuple.srcAddr flow.skey_eq
            exact key.symm
          rw [NewFlow.nat, toContainer, own]
          change (host.system.redirectMap.get (flow.key .snat).srcAddr).isSome
          rw [← address]
          exact ofContainers container member
  | dnat =>
      obtain ⟨info, exposed, _, _, toContainer, _, toNic⟩ := dnatFlow_spec opened
      cases side with
      | snat => rwa [NewFlow.nat, toNic]
      | dnat =>
          obtain ⟨container, known, _⟩ := sound.exposes _ info exposed
          rw [sound.known] at known
          have address := (ContainerMap.ofList containers).keyed _ _ known
          rw [NewFlow.nat, toContainer, ← address]
          exact ofContainers container (List.mem_of_find?_eq_some known)

theorem frame {flag : Flags} {ctx : XdpContext} {kernel : Kernel} (sound : host.Sound containers pnic)
    (sent : Occurrence.FromContainers containers (.happens (.frame flag ctx kernel)))
    (noDevice : kernel.NoDeviceZero) :
    (host.Early pnic → (host.system.step (.frame flag ctx kernel)).udpConntrack =
      host.system.udpConntrack) ∧
    (∀ key nat, natAt (host.system.step (.frame flag ctx kernel)).udpConntrack key = some nat →
      (host.system.redirectMap.get nat.devmapKey).isSome) := by
  have unchanged (early : host.Early pnic) : (host.system.step (.frame flag ctx kernel)).udpConntrack =
      host.system.udpConntrack := by
    rw [step_frame_conntrack, tryXdpRedirect_conntrack, sound.passes_early early noDevice]
    rfl
  refine ⟨unchanged, fun key nat stored => ?_⟩
  by_cases early : host.Early pnic
  · rw [unchanged early] at stored
    exact sound.stored key nat stored
  · rw [step_frame_conntrack] at stored
    rcases natAt_new stored with before | ⟨_, flow, side, _, opened, _, rfl⟩
    · exact sound.stored key nat before
    · exact sound.opened_redirects early sent opened side

theorem happens {event : Event} (sound : host.Sound containers pnic)
    (sent : Occurrence.FromContainers containers (.happens event))
    (noDevice : ∀ flag ctx kernel, event = .frame flag ctx kernel → kernel.NoDeviceZero) :
    (host.step (.happens event)).Sound containers pnic := by
  unfold Host.step
  dsimp only
  split
  · next enabled =>
      have keeps : event.KeepsExposures := by
        cases event with
        | writeExposeMap => exact enabled.elim
        | frame | exposePort | unexposePort | writePnic | sweepAtOnce | beginSweep | examine | endScan
        | removeNext => trivial
      refine ⟨sound.ordered, sound.planned, step_containers.trans sound.known,
        sound.exposes.step keeps, ?_, ?_, sound.late, ?_, ?_⟩
      · rw [step_redirectMap]
        exact sound.redirects
      · rw [step_redirectMap]
        exact sound.redirectsNic
      · intro early
        obtain ⟨empty, unexposed, unset, idle⟩ := sound.early early
        cases event with
        | frame flag ctx kernel =>
            refine ⟨?_, unexposed, unset, idle⟩
            rw [(sound.frame sent (noDevice _ _ _ rfl)).1 early]
            exact empty
        | exposePort | unexposePort => cases idle.symm.trans enabled.2
        | writeExposeMap | writePnic => exact enabled.elim
        | beginSweep | examine | endScan => exact ⟨empty, unexposed, unset, idle⟩
        | sweepAtOnce now =>
            refine ⟨fun key => ?_, unexposed, unset, idle⟩
            cases stored : (sweepAtOnce host.system.udpConntrack now).get key with
            | none => exact stored
            | some state => cases (empty key).symm.trans (get_sweepAtOnce.mp stored).1
        | removeNext =>
            refine ⟨fun key => ?_, unexposed, unset, idle⟩
            cases stored : (host.system.step .removeNext).udpConntrack.get key with
            | none => rfl
            | some state => cases (empty key).symm.trans (removeNext_get stored)
      · rw [step_redirectMap]
        intro key nat stored
        cases event with
        | frame flag ctx kernel => exact (sound.frame sent (noDevice _ _ _ rfl)).2 key nat stored
        | writeExposeMap | writePnic => exact enabled.elim
        | sweepAtOnce | removeNext | exposePort | unexposePort | beginSweep | examine | endScan =>
            rcases step_natAt_new stored with before | ⟨_, _, _, _, _, _, isFrame, _⟩
            · exact sound.stored key nat before
            · cases isFrame
  · exact sound

end Host.Sound

variable {occurrences : List Occurrence}

/-- The kernels of all frames know no device 0. -/
def NoDeviceZero (occurrences : List Occurrence) : Prop :=
  ∀ flag ctx kernel, .happens (.frame flag ctx kernel) ∈ occurrences → kernel.NoDeviceZero

theorem sound_run {lower upper : UInt16} (noDevice : NoDeviceZero occurrences)
    (sent : ∀ occurrence ∈ occurrences, occurrence.FromContainers containers) :
    (run Host.step (.loaded containers pnic lower upper) occurrences).Sound containers pnic := by
  induction occurrences using List.reverseRecOn with
  | nil => exact loaded_sound
  | append_singleton earlier last ih =>
      have sound := ih (fun flag ctx kernel member => noDevice flag ctx kernel (List.mem_append_left _ member))
        (fun occurrence member => sent occurrence (List.mem_append_left _ member))
      rw [run_append, run_cons, run_nil]
      cases last with
      | proceeds ok => exact sound.proceeds ok
      | happens event =>
          refine sound.happens (sent _ (by simp)) ?_
          intro flag ctx kernel same
          subst same
          exact noDevice flag ctx kernel (by simp)

/-- From the moment the maps are created, in every order of the steps of `main`,
whichever of them fail, with frames, requests and sweeps: a frame that a program
sees is redirected, or it is passed on as it came and no flow is opened or followed
for it. Without a NIC in the configuration no frame is redirected. -/
theorem startup_strands_no_frame {lower upper : UInt16} {flag : Flags} {ctx : XdpContext} {kernel : Kernel}
    (noDevice : NoDeviceZero (occurrences ++ [.happens (.frame flag ctx kernel)]))
    (sent : ∀ occurrence ∈ occurrences ++ [.happens (.frame flag ctx kernel)],
      occurrence.FromContainers containers) :
    let host := run Host.step (.loaded containers pnic lower upper) occurrences
    let verdict := host.system.verdict flag ctx kernel
    (verdict.action = .redirect ∧ pnic ≠ none) ∨
      (verdict.action = .pass ∧ verdict.data = ctx.data ∧
        verdict.udpConntrack = host.system.udpConntrack) := by
  have sound := @sound_run containers pnic occurrences lower upper
    (fun flag ctx kernel member => noDevice flag ctx kernel (List.mem_append_left _ member))
    (fun occurrence member => sent occurrence (List.mem_append_left _ member))
  have zero : kernel.NoDeviceZero := noDevice flag ctx kernel (by simp)
  have own : Occurrence.FromContainers containers (.happens (.frame flag ctx kernel)) :=
    sent _ (by simp)
  intro host verdict
  cases translated : translation flag kernel host.system.maps ctx with
  | none =>
      have untouched := verdict_untranslated translated
      rw [← System.verdict_eq] at untouched
      exact Or.inr untouched
  | some nat =>
      have action : verdict.action = _ := host.system.verdict_action
      rw [translated] at action
      have present : (host.system.redirectMap.get nat.devmapKey).isSome := by
        rcases translation_cases translated with
          ⟨key, state, _, _, found, sameNat⟩ | ⟨flow, opens, opened, _, _, sameNat⟩
        · exact sound.stored key nat (natAt_eq_some.mpr ⟨state, found, sameNat⟩)
        · have ready : ¬ host.Early pnic := by
            intro early
            cases (sound.passes_early early zero).symm.trans opens
          exact sameNat ▸ sound.opened_redirects ready own opened flag
      refine Or.inl ⟨action.trans (if_pos present), fun absent => ?_⟩
      have passes : outcome flag kernel host.system.maps ctx = .passes :=
        sound.passes_early (Or.inl absent) zero
      rw [translation_eq, passes] at translated
      cases translated

namespace Testbed

def containerList : List ContainerMetadata :=
  [⟨nodeA, 11, containerMac 10⟩, ⟨nodeB, 12, containerMac 20⟩, ⟨nodeC, 13, containerMac 30⟩]

/-- A kernel that has a route from every interface but the one with the index 0. -/
def routedAt (time : UInt64) : Kernel :=
  { ktimeGetCoarseNs := time
    fibLookup := fun fib =>
      (if fib.ifindex = 0 then -19 else 0, { fib with smac := hostMac, dmac := gatewayMac }) }

theorem routedAt_noDeviceZero (time : UInt64) : (routedAt time).NoDeviceZero := by
  intro fib zero
  simp [routedAt, zero]

end Testbed

open Testbed in
/-- Node A sends while the redirect map is still empty, and once it is filled. -/
theorem early_frame_of_node_a_kept :
    let host := run Host.step (.loaded containerList (some ⟨hostIp, 2⟩) 10000 12000)
      (.proceeds true :: .happens (.frame .snat (fromContainer 10 ⟨nodeA, remote, 4000, 53⟩ 0x1234)
        (routedAt 0)) :: List.replicate 9 (.proceeds true))
    let verdict := host.system.verdict .snat (fromContainer 10 ⟨nodeA, remote, 4000, 53⟩ 0x1234)
      (routedAt 1)
    (verdict.action = .redirect ∧ (some ⟨hostIp, 2⟩ : Option NICInfo) ≠ none) ∨
      (verdict.action = .pass ∧
        verdict.data = (fromContainer 10 ⟨nodeA, remote, 4000, 53⟩ 0x1234).data ∧
        verdict.udpConntrack = host.system.udpConntrack) := by
  refine @startup_strands_no_frame containerList (some ⟨hostIp, 2⟩)
    (.proceeds true :: .happens (.frame .snat (fromContainer 10 ⟨nodeA, remote, 4000, 53⟩ 0x1234)
      (routedAt 0)) :: List.replicate 9 (.proceeds true)) 10000 12000 .snat
    (fromContainer 10 ⟨nodeA, remote, 4000, 53⟩ 0x1234) (routedAt 1) ?_ (by decide +kernel)
  intro flag ctx kernel member
  have frames : kernel = routedAt 0 ∨ kernel = routedAt 1 := by
    simp only [List.replicate, List.cons_append, List.nil_append, List.mem_cons, reduceCtorEq,
      Occurrence.happens.injEq, Event.frame.injEq, List.not_mem_nil, or_false, false_or] at member
    rcases member with ⟨_, _, same⟩ | ⟨_, _, same⟩
    · exact Or.inl same
    · exact Or.inr same
  rcases frames with rfl | rfl
  · exact routedAt_noDeviceZero 0
  · exact routedAt_noDeviceZero 1

/-- What a step of `main` files under a key of the redirect map. -/
def Startup.assigns (key : UInt32) (before : Option UInt32) : Startup → Option UInt32
  | .redirectContainer container => if key = container.ipv4Address then some container.ifindex else before
  | .redirectNic nicIfindex => if key = 0 then some nicIfindex else before
  | _ => before

def redirected (key : UInt32) (performed : List Startup) : Option UInt32 :=
  performed.foldl (Startup.assigns key) none

/-- What `main` has done is what is no longer to do, and the redirect map shows it. -/
structure Host.Filled (containers : List ContainerMetadata) (pnic : Option NICInfo) (host : Host)
    (performed : List Startup) : Prop where
  split : startup containers pnic = performed ++ host.todo
  filled : ∀ key, host.system.redirectMap.get key = redirected key performed
  last : host.serving = true → host.todo = []

theorem redirect_assigns {next : Host} {ok : Bool} {key ifindex : UInt32}
    (performed : host.redirect ok key ifindex = some next) (other : UInt32) :
    next.system.redirectMap.get other =
      (if other = key then some ifindex else host.system.redirectMap.get other) ∧
    next.serving = host.serving := by
  unfold Host.redirect at performed
  split at performed
  · next redirectMap inserted =>
      cases performed
      refine ⟨?_, rfl⟩
      by_cases same : other = key
      · rw [if_pos same, same]
        exact BoundedMap.get_insertAny_self inserted
      · rw [if_neg same]
        exact BoundedMap.get_insertAny_other inserted same
  · cases performed

theorem perform_assigns {next : Host} {ok : Bool} (performed : host.perform ok action = some next) :
    (∀ key, next.system.redirectMap.get key = action.assigns key (host.system.redirectMap.get key)) ∧
      (next.serving = true → host.serving = true ∨ action = .serve) := by
  cases action with
  | redirectContainer container =>
      have assigns := redirect_assigns performed
      exact ⟨fun key => (assigns key).1, fun serving => Or.inl ((assigns 0).2.symm.trans serving)⟩
  | redirectNic ifindex =>
      have assigns := redirect_assigns performed
      exact ⟨fun key => (assigns key).1, fun serving => Or.inl ((assigns 0).2.symm.trans serving)⟩
  | attachContainer | attachHost =>
      obtain ⟨_, same⟩ := Option.ite_none_right_eq_some.mp performed
      cases same
      exact ⟨fun _ => rfl, Or.inl⟩
  | serve =>
      obtain ⟨_, same⟩ := Option.ite_none_right_eq_some.mp performed
      cases same
      exact ⟨fun _ => rfl, fun _ => Or.inr rfl⟩
  | spawnExpiry =>
      cases performed
      exact ⟨fun _ => rfl, Or.inl⟩
  | setPnic info =>
      cases ok <;> cases performed <;> exact ⟨fun _ => rfl, Or.inl⟩

theorem Host.Filled.step {performed : List Startup} {occurrence : Occurrence}
    (filled : host.Filled containers pnic performed) :
    ∃ later, (host.step occurrence).Filled containers pnic later := by
  cases occurrence with
  | happens event =>
      refine ⟨performed, ?_⟩
      unfold Host.step
      dsimp only
      split
      · exact ⟨filled.split, by rw [step_redirectMap]; exact filled.filled, filled.last⟩
      · exact filled
  | proceeds ok =>
      unfold Host.step
      dsimp only
      split
      · next action rest _ todo =>
          split
          · next next done =>
              obtain ⟨assigns, serving⟩ := perform_assigns done
              have split := filled.split
              rw [todo] at split
              refine ⟨performed ++ [action], ⟨by simp [split], fun key => ?_, fun serves => ?_⟩⟩
              · rw [redirected, List.foldl_append]
                exact (assigns key).trans (congrArg (action.assigns key ·) (filled.filled key))
              · rcases serving serves with already | rfl
                · cases (filled.last already).symm.trans todo
                · -- nothing comes after the server
                  have ordered := @startup_ordered containers pnic
                  rw [split] at ordered
                  refine List.eq_nil_iff_forall_not_mem.mpr fun other member => ?_
                  have after := List.rel_of_pairwise_cons (List.pairwise_append.mp ordered).2.1 member
                  cases other <;> simp [Startup.Precedes, Startup.rank] at after
          · exact ⟨performed, filled.split, filled.filled, filled.last⟩
      · exact ⟨performed, filled⟩

theorem redirected_containers (key : UInt32) (before : Option UInt32)
    (distinct : (containers.map ContainerMetadata.ipv4Address).Nodup) :
    (containers.map Startup.redirectContainer).foldl (Startup.assigns key) before =
      (((ContainerMap.ofList containers).get key).map ContainerMetadata.ifindex).or before := by
  induction containers generalizing before with
  | nil => rfl
  | cons container others ih =>
      obtain ⟨new, distinct⟩ := List.nodup_cons.mp distinct
      rw [List.map_cons, List.foldl_cons, ih _ distinct]
      by_cases same : container.ipv4Address = key
      · have absent : (ContainerMap.ofList others).get key = none := by
          refine List.find?_eq_none.mpr fun other member => ?_
          rw [decide_eq_true_eq]
          intro twice
          exact new (List.mem_map.mpr ⟨other, member, twice.trans same.symm⟩)
        have found : (ContainerMap.ofList (container :: others)).get key = some container := by
          simp [ContainerMap.ofList, same]
        rw [absent, found]
        simp [Startup.assigns, same]
      · have passed : (ContainerMap.ofList (container :: others)).get key =
            (ContainerMap.ofList others).get key := by
          simp [ContainerMap.ofList, same]
        rw [passed]
        simp [Startup.assigns, Ne.symm same]

theorem redirected_startup {info : NICInfo} (key : UInt32)
    (distinct : (containers.map ContainerMetadata.ipv4Address).Nodup) :
    redirected key (startup containers (some info)) =
      if key = 0 then some info.nicIfindex
      else ((ContainerMap.ofList containers).get key).map ContainerMetadata.ifindex := by
  have attached : (containers.map Startup.attachContainer).foldl (Startup.assigns key) none = none := by
    induction containers with
    | nil => rfl
    | cons container others ih => exact ih (List.nodup_cons.mp distinct).2
  rw [redirected, startup, List.foldl_append, List.foldl_append, attached,
    redirected_containers key none distinct, Option.or_none]
  rfl

theorem filled_run {lower upper : UInt16} : ∃ performed,
    (run Host.step (.loaded containers pnic lower upper) occurrences).Filled containers pnic performed := by
  induction occurrences using List.reverseRecOn with
  | nil => exact ⟨[], rfl, fun key => BoundedMap.get_empty, nofun⟩
  | append_singleton earlier last ih =>
      obtain ⟨performed, filled⟩ := ih
      rw [run_append]
      exact filled.step

/-- Once requests are served, whatever happened on the way there and happens from
then on, the redirect map leads from 0 to the NIC, from each container's address to
its interface, and from nowhere else. -/
theorem redirect_map_when_serving {lower upper : UInt16} {info : NICInfo}
    (distinct : (containers.map ContainerMetadata.ipv4Address).Nodup)
    (serving : (run Host.step (.loaded containers (some info) lower upper) occurrences).serving = true)
    (key : UInt32) :
    (run Host.step (.loaded containers (some info) lower upper) occurrences).system.redirectMap.get key =
      if key = 0 then some info.nicIfindex
      else ((ContainerMap.ofList containers).get key).map ContainerMetadata.ifindex := by
  obtain ⟨performed, filled⟩ := @filled_run containers (some info) occurrences lower upper
  have all : startup containers (some info) = performed := by
    rw [filled.split, filled.last serving, List.append_nil]
  rw [filled.filled, ← all, redirected_startup key distinct]

end XdpNatd
