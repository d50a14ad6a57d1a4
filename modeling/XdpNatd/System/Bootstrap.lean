import XdpNatd.Daemon.Discovery
import XdpNatd.System.Ports
import XdpNatd.System.Startup

namespace XdpNatd

open XdpNatd.Data XdpNatd.Ebpf XdpNatd.Daemon

variable {parseMac : Text → Except String Mac} {inquiries : List Inquiry} {found order : List Discovered}
variable {containers : List ContainerMetadata} {pnic : Option NICInfo} {host next : Host}
variable {occurrences : List Occurrence} {occurrence : Occurrence} {action : Startup}
variable {lower upper : UInt16} {ok : Bool}

theorem perform_control (performed : host.perform ok action = some next) :
    next.system.control = host.system.control := by
  cases action with
  | redirectContainer | redirectNic =>
      change host.redirect ok _ _ = some next at performed
      unfold Host.redirect at performed
      split at performed
      · cases performed
        rfl
      · cases performed
  | attachContainer | attachHost | serve =>
      obtain ⟨_, same⟩ := Option.ite_none_right_eq_some.mp performed
      cases same
      rfl
  | spawnExpiry =>
      cases performed
      rfl
  | setPnic info =>
      cases ok <;> cases performed <;> rfl

/-- `main` leaves what the requests act on alone, and nothing but a request writes it. -/
theorem control_step : (host.step occurrence).system.control = host.system.control ∨
    ∃ event, event.KeepsExposures ∧
      (host.step occurrence).system.control = (host.system.step event).control := by
  cases occurrence with
  | proceeds ok =>
      refine Or.inl ?_
      unfold Host.step
      dsimp only
      split
      · split
        · next next performed => exact @perform_control host next _ _ performed
        · rfl
      · rfl
  | happens event =>
      by_cases enabled : host.Enables event
      · refine Or.inr ⟨event, ?_, by simp [Host.step, enabled]⟩
        cases event with
        | writeExposeMap => exact enabled.elim
        | frame | exposePort | unexposePort | writePnic | sweepAtOnce | beginSweep | examine | endScan
        | removeNext => trivial
      · exact Or.inl (by simp [Host.step, enabled])

theorem control_run :
    let control := (run Host.step (.loaded containers pnic lower upper) occurrences).system.control
    control.Balanced lower upper ∧ control.state.containerMetas = .ofList containers := by
  induction occurrences using List.reverseRecOn with
  | nil => exact ⟨boot_balanced, rfl⟩
  | append_singleton earlier last ih =>
      obtain ⟨balanced, known⟩ := ih
      rw [run_append, run_cons, run_nil]
      rcases @control_step (run Host.step (.loaded containers pnic lower upper) earlier) last with
        same | ⟨event, keeps, same⟩
      · rw [same]
        exact ⟨balanced, known⟩
      · rw [same]
        exact ⟨balanced_step balanced keeps, step_containers.trans known⟩

theorem ofList_get (address : UInt32) :
    (ContainerMap.ofList (order.map Discovered.metadata)).get address =
      (under Discovered.address order address).map Discovered.metadata :=
  List.find?_map

/-- Both maps are those of the containers that were found, in whatever order they
come out of the hash map. -/
theorem served_as_found {info : NICInfo} (keyed : Keyed Discovered.address found) (same : order.Perm found)
    (serving : (run Host.step (.loaded (order.map Discovered.metadata) (some info) lower upper)
      occurrences).serving = true) (address : UInt32) :
    let system := (run Host.step (.loaded (order.map Discovered.metadata) (some info) lower upper)
      occurrences).system
    system.containers.get address = (under Discovered.address found address).map Discovered.metadata ∧
    system.redirectMap.get address = if address = 0 then some info.nicIfindex
      else (under Discovered.address found address).map fun container => container.metadata.ifindex := by
  intro system
  have distinct : ((order.map Discovered.metadata).map ContainerMetadata.ipv4Address).Nodup := by
    rw [List.map_map]
    exact (same.map _).nodup_iff.mpr keyed
  have known : (ContainerMap.ofList (order.map Discovered.metadata)).get address =
      (under Discovered.address found address).map Discovered.metadata := by
    rw [ofList_get, under_perm keyed same]
  have containers : system.containers = _ := control_run.2
  have redirects : system.redirectMap.get address = _ := redirect_map_when_serving distinct serving address
  rw [containers, redirects, known, Option.map_map]
  exact ⟨rfl, rfl⟩

/-- Whatever Docker, the containers and the kernel answered, and in whatever order the
containers come out of the hash map: once requests are served, an address is known
to them as the last container of the network that was found under it, the redirect
map leads to the interface that this container named, and 0 leads to the NIC. -/
theorem served_as_discovered {info : NICInfo}
    (discovered : getContainers parseMac (.ok (some inquiries)) = .ok found) (same : order.Perm found)
    (serving : (run Host.step (.loaded (order.map Discovered.metadata) (some info) lower upper)
      occurrences).serving = true) (address : UInt32) :
    let system := (run Host.step (.loaded (order.map Discovered.metadata) (some info) lower upper)
      occurrences).system
    let last := under Discovered.address (inquiries.filterMap (Inquiry.named parseMac)).reverse address
    system.containers.get address = last.map Discovered.metadata ∧
    system.redirectMap.get address =
      (if address = 0 then some info.nicIfindex else last.map fun container => container.metadata.ifindex) ∧
    ∀ container ∈ last, container.address = address ∧ ∃ asked ∈ inquiries, asked.Names container := by
  intro system last
  obtain ⟨keyed, filed⟩ := getContainers_ok discovered
  obtain ⟨known, redirects⟩ := served_as_found keyed same serving address
  rw [filed] at known redirects
  refine ⟨known, redirects, ?_⟩
  intro container isLast
  have member := List.mem_reverse.mp (List.mem_of_find?_eq_some isLast)
  obtain ⟨asked, askedMember, named⟩ := List.mem_filterMap.mp member
  exact ⟨by simpa using List.find?_some isLast, asked, askedMember,
    discover_names (Inquiry.named_eq_some.mp named)⟩

namespace Testbed

def nodes : List Discovered :=
  [⟨⟨nodeA, 11, containerMac 10⟩, "test-node-a".toList, "veth5c1e0a7".toList, some 4101⟩,
    ⟨⟨nodeB, 12, containerMac 20⟩, "test-node-b".toList, "vethb8d03f2".toList, some 4188⟩,
    ⟨⟨nodeC, 13, containerMac 30⟩, "test-node-c".toList, "veth90a44c6".toList, some 4275⟩]

def interfaces : List Interface :=
  ⟨1, "lo".toList⟩ :: ⟨2, "enp3s0f3u3".toList⟩ :: nodes.map fun node => ⟨node.metadata.ifindex, node.veth⟩

/-- The addresses that Docker derives from those of the containers. -/
def macText (node : Discovered) : Text :=
  "02:42:ac:14:00:".toList ++
    (if node.address = nodeA then "0a" else if node.address = nodeB then "14" else "1e").toList

def readMac (text : Text) : Except String Mac :=
  match nodes.find? fun node => macText node = text with
  | some node => .ok node.metadata.macAddress
  | none => .error "invalid MAC address"

def inquire (node : Discovered) : Inquiry where
  container := ⟨some node.name, some (macText node), some (ipv4Text node.address ++ "/24".toList)⟩
  pid := .ok node.pid
  output := .ok [.ok (.stdOut (decimal node.metadata.ifindex.toNat ++ ['\n']))]
  interfaces := .ok interfaces

theorem nodes_pluggedIn : ∀ node ∈ nodes, (inquire node).PluggedIn readMac node := by
  intro node member
  refine ⟨rfl, ⟨[], [], ['\n'], [], rfl, nofun, nofun, by simp [whitespace]⟩,
    ⟨interfaces, rfl, by decide, ?_⟩, ?_, ⟨"24".toList, rfl⟩, rfl⟩
  · exact List.mem_cons_of_mem _ (List.mem_cons_of_mem _ (List.mem_map.mpr ⟨node, member, rfl⟩))
  · revert member
    revert node
    decide +kernel

end Testbed

open Testbed in
theorem test_nodes_served_as_discovered :
    (run Host.step (.loaded (nodes.reverse.map Discovered.metadata) (some ⟨hostIp, 2⟩) 10000 12000)
      (List.replicate 11 (.proceeds true))).system.redirectMap.get nodeB = some 12 :=
  (@served_as_discovered readMac (nodes.map inquire) nodes.reverse nodes.reverse
    (List.replicate 11 (.proceeds true)) 10000 12000 ⟨hostIp, 2⟩ (by rfl) (.refl _) (by decide +kernel) nodeB).2.1

/-- A network whose containers are all plugged in, each under an address of its own, is
found as a whole, and once requests are served the redirect map leads from the address
of each container to the interface at the other end of its eth0 and from nowhere else. -/
theorem plugged_network_served {info : NICInfo} {plugged : List (Inquiry × Discovered)}
    (plugs : ∀ pair ∈ plugged, pair.1.PluggedIn parseMac pair.2)
    (distinct : Keyed Discovered.address (plugged.map Prod.snd)) :
    ∃ found, getContainers parseMac (.ok (some (plugged.map Prod.fst))) = .ok found ∧
      ∀ (order : List Discovered) (occurrences : List Occurrence), order.Perm found →
        let host := run Host.step (.loaded (order.map Discovered.metadata) (some info) lower upper) occurrences
        host.serving = true → ∀ address ifindex, address ≠ 0 →
          (host.system.redirectMap.get address = some ifindex ↔
            ∃ pair ∈ plugged, pair.2.address = address ∧ pair.2.metadata.ifindex = ifindex) := by
  have names : ∀ pair ∈ plugged, discover parseMac pair.1 = .ok (some pair.2) := fun pair member =>
    discover_pluggedIn (plugs pair member)
  have described : (plugged.map Prod.fst).filterMap (Inquiry.named parseMac) = plugged.map Prod.snd := by
    rw [List.filterMap_map, ← List.filterMap_eq_map]
    refine List.filterMap_congr fun pair member => ?_
    exact Inquiry.named_eq_some.mpr (names pair member)
  have answered : ∀ asked ∈ plugged.map Prod.fst, ∃ answer, discover parseMac asked = .ok answer := by
    intro asked member
    obtain ⟨pair, pairMember, rfl⟩ := List.mem_map.mp member
    exact ⟨_, names pair pairMember⟩
  obtain ⟨found, discovered⟩ := @collectContainers_of_answered parseMac [] (plugged.map Prod.fst) answered
  refine ⟨found, discovered, ?_⟩
  intro order occurrences same host serving address ifindex nonzero
  obtain ⟨keyed, filed⟩ := getContainers_ok discovered
  have keyedReverse : Keyed Discovered.address (plugged.map Prod.snd).reverse :=
    ((List.reverse_perm _).map _).nodup_iff.mpr distinct
  obtain ⟨_, redirects⟩ := served_as_found keyed same serving address
  rw [filed, described, if_neg nonzero] at redirects
  rw [redirects, Option.map_eq_some_iff]
  constructor
  · intro led
    obtain ⟨container, isLast, rfl⟩ := led
    obtain ⟨member, under⟩ := (under_eq_some keyedReverse).mp isLast
    obtain ⟨pair, pairMember, rfl⟩ := List.mem_map.mp (List.mem_reverse.mp member)
    exact ⟨pair, pairMember, under, rfl⟩
  · intro plug
    obtain ⟨pair, member, under, rfl⟩ := plug
    refine ⟨pair.2, (under_eq_some keyedReverse).mpr ⟨?_, under⟩, rfl⟩
    exact List.mem_reverse.mpr (List.mem_map.mpr ⟨pair, member, rfl⟩)

open Testbed in
theorem test_nodes_served : ∃ found, getContainers readMac (.ok (some (nodes.map inquire))) = .ok found ∧
    (run Host.step (.loaded (found.map Discovered.metadata) (some ⟨hostIp, 2⟩) 10000 12000)
      (List.replicate 11 (.proceeds true))).system.redirectMap.get nodeC = some 13 := by
  obtain ⟨found, discovered, served⟩ := @plugged_network_served readMac 10000 12000 ⟨hostIp, 2⟩
    (nodes.map fun node => (inquire node, node)) (by
      intro pair member
      obtain ⟨node, nodeMember, rfl⟩ := List.mem_map.mp member
      exact nodes_pluggedIn node nodeMember) (by decide)
  have all : found = nodes.reverse := by
    have computed : getContainers readMac (.ok (some (nodes.map inquire))) = .ok nodes.reverse := by rfl
    cases discovered.symm.trans computed
    rfl
  subst all
  refine ⟨_, discovered, ?_⟩
  exact (served _ (List.replicate 11 (.proceeds true)) (.refl _) (by decide +kernel) nodeC 13 (by decide)).mpr
    ⟨(inquire nodes[2], nodes[2]), List.mem_map.mpr ⟨nodes[2], by simp [nodes], rfl⟩, rfl, rfl⟩

/-- The line that is written before the server starts reserves, for as long as the
daemon runs, what was reserved before and the ports that wait for a request or are
exposed, and no others. -/
theorem offered_ports_reserved {file : ReservedPortsFile} {existing : Text} {bounds : UInt16 × UInt16}
    {written : Option Text} (read : file.existing = .ok existing)
    (reserved : reserveKernelPorts file (rangeText lower upper) = (.ok bounds, written)) :
    ∃ content, written = some content ∧ ∀ containers pnic occurrences number,
      let control := (run Host.step (.loaded containers pnic bounds.1 bounds.2) occurrences).system.control
      Reserves content number ↔ Reserves (trim existing) number ∨ ∃ port, port.toNat = number ∧
        (port ∈ control.state.portAllocator.ports ∨ (control.state.exposeMap.get port).isSome) := by
  obtain ⟨rfl, content, rfl, reserves⟩ := reserveKernelPorts_reserves read reserved
  refine ⟨content, rfl, fun containers pnic occurrences number => ?_⟩
  intro control
  have balanced : control.Balanced lower upper := control_run.1
  rw [reserves number]
  refine or_congr_right ?_
  constructor
  · intro between
    have small : number < UInt16.size := between.2.trans_lt upper.toNat_lt
    have number' : (UInt16.ofNat number).toNat = number := UInt16.toNat_ofNat_of_lt' small
    refine ⟨.ofNat number, number', (balanced.range _).mpr ?_⟩
    rw [UInt16.le_iff_toNat_le, UInt16.le_iff_toNat_le, number']
    exact between
  · intro offered
    obtain ⟨port, rfl, offered⟩ := offered
    exact (balanced.range port).mp offered

theorem port_range_reserved :
    ∃ content, some content = some "8080,9000-9100,10000-12000".toList ∧
      ∀ containers pnic occurrences number,
        let control := (run Host.step (.loaded containers pnic 10000 12000) occurrences).system.control
        Reserves content number ↔ Reserves "8080,9000-9100".toList number ∨ ∃ port, port.toNat = number ∧
          (port ∈ control.state.portAllocator.ports ∨ (control.state.exposeMap.get port).isSome) := by
  obtain ⟨content, written, reserves⟩ := @offered_ports_reserved 10000 12000
    ⟨.ok "8080,9000-9100\n".toList, none⟩ "8080,9000-9100\n".toList (10000, 12000)
    (some "8080,9000-9100,10000-12000".toList) rfl (by rfl)
  exact ⟨content, written.symm, reserves⟩

end XdpNatd
