import XdpNatd.System.Ports

namespace XdpNatd

open XdpNatd.Data XdpNatd.Ebpf XdpNatd.Daemon

/-- Whether an event may take a port from the queue. -/
def Event.allocates : Event → Bool
  | .exposePort .. => true
  | _ => false

/-- The port waits in the queue with at least so many ports ahead of it. -/
def Daemon.Control.Waits (control : Control) (port : UInt16) (ahead : Nat) : Prop :=
  ∃ front back, control.state.portAllocator.ports = front ++ port :: back ∧ ahead ≤ front.length

variable {system : System} {event : Event} {events earlier later : List Event} {port lower upper : UInt16}
variable {ahead : Nat}

theorem waits_step (waits : system.control.Waits port (ahead + event.allocates.toNat)) :
    (system.step event).control.Waits port ahead := by
  obtain ⟨front, back, queue, enough⟩ := waits
  cases event with
  | exposePort req calls =>
      rcases exposePort_ports calls req system.control with same | ⟨first, ports, shape, moved⟩
      · exact ⟨front, back, same.trans queue, Nat.le_of_succ_le enough⟩
      · cases front with
        | nil => cases enough
        | cons next front =>
            rw [queue, List.cons_append, List.cons.injEq] at shape
            obtain ⟨rfl, rfl⟩ := shape
            have shorter : ahead ≤ front.length := Nat.le_of_succ_le_succ enough
            rcases moved with granted | refused
            · exact ⟨front, back, granted, shorter⟩
            · refine ⟨front, back ++ [next], refused.trans ?_, shorter⟩
              rw [List.append_assoc, List.cons_append]
  | unexposePort hostPort calls =>
      rcases unexposePort_cases calls hostPort system.control with ⟨_, answer⟩ | ⟨_, _, answer, _, _⟩
      · refine ⟨front, back, ?_, enough⟩
        change (unexposePort calls hostPort system.control).2.state.portAllocator.ports = _
        rw [answer, queue]
      · refine ⟨front, back ++ [hostPort], ?_, enough⟩
        change (unexposePort calls hostPort system.control).2.state.portAllocator.ports = _
        rw [answer]
        change system.control.state.portAllocator.ports ++ [hostPort] = _
        rw [queue, List.append_assoc, List.cons_append]
  | frame | writeExposeMap | writePnic | sweepAtOnce | beginSweep | examine | endScan | removeNext =>
      exact ⟨front, back, queue, enough⟩

theorem waits_run (waits : system.control.Waits port (ahead + events.countP Event.allocates)) :
    (run System.step system events).control.Waits port ahead := by
  induction events generalizing system with
  | nil => exact waits
  | cons event events ih =>
      refine ih (waits_step ?_)
      have count : (event :: events).countP Event.allocates =
          events.countP Event.allocates + event.allocates.toNat := by
        rw [List.countP_cons]
        cases event.allocates <;> rfl
      rwa [count, ← Nat.add_assoc] at waits

theorem Daemon.Control.Waits.unexposed {control : Control} (waits : control.Waits port ahead)
    (balanced : control.Balanced lower upper) : control.state.exposeMap.get port = none := by
  obtain ⟨front, back, queue, _⟩ := waits
  exact balanced.free port (by simp [queue])

/-- A port that is given back has at least 1745 ports ahead of it. -/
theorem waits_unexposePort {calls : Calls} {response : Response}
    (balanced : system.control.Balanced portRange.1 portRange.2)
    (unexposed : (unexposePort calls port system.control).1 = .ok response) :
    (system.step (.unexposePort port calls)).control.Waits port 1745 := by
  have count := balanced.count
  have ports : portRange.2.toNat + 1 - portRange.1.toNat = 2001 := rfl
  have bounded : system.control.state.exposeMap.size ≤ 256 := system.control.state.exposeMap.bounded
  rcases unexposePort_cases calls port system.control with ⟨_, answer⟩ | ⟨_, _, answer, _, _⟩
  · rw [answer] at unexposed
    cases unexposed
  · refine ⟨system.control.state.portAllocator.ports, [], ?_, by omega⟩
    change (unexposePort calls port system.control).2.state.portAllocator.ports = _
    rw [answer]
    rfl

/-- After a port was given back, none of the next 1745 `expose_port` requests hands
it out, however they end and whatever else the host does. Until then a NIC frame to
the port is translated only if it belongs to a flow on file. -/
theorem unexposed_port_rests {containers : ContainerMap} {redirectMap : DevMapHash} {nic : NICInfo}
    {calls : Calls} {response : Response}
    (guarded : Guarded System.step (fun _ event => event.KeepsExposures)
      (System.boot containers redirectMap nic portRange.1 portRange.2)
      (earlier ++ .unexposePort port calls :: later))
    (unexposed : (unexposePort calls port (run System.step
      (System.boot containers redirectMap nic portRange.1 portRange.2) earlier).control).1 = .ok response)
    (few : later.countP Event.allocates ≤ 1745) :
    let system := run System.step (System.boot containers redirectMap nic portRange.1 portRange.2)
      (earlier ++ .unexposePort port calls :: later)
    system.exposeMap.get port = none ∧
      ∀ ctx kernel key nat, frameTuple ctx.data = some key → key.dstPort = port →
        translation .dnat kernel system.maps ctx = some nat → natAt system.udpConntrack key = some nat := by
  obtain ⟨early, _⟩ := guarded_append.mp guarded
  have rests := @waits_unexposePort _ _ _ _ (balanced_run early) unexposed
  have waits := @waits_run _ later port 0 (by
    obtain ⟨front, back, queue, enough⟩ := rests
    exact ⟨front, back, queue, by omega⟩)
  intro system
  have reached : system = run System.step ((run System.step
      (System.boot containers redirectMap nic portRange.1 portRange.2) earlier).step
        (.unexposePort port calls)) later := by
    rw [← run_cons, ← run_append]
  rw [← reached] at waits
  have free : system.exposeMap.get port = none := waits.unexposed (balanced_run guarded)
  refine ⟨free, ?_⟩
  intro ctx kernel key nat tuple toPort translated
  rcases translation_cases translated with
    ⟨hit, state, _, hitTuple, found, rfl⟩ | ⟨flow, _, opened, flowTuple, _, _⟩
  · cases hitTuple.symm.trans tuple
    exact natAt_eq_some.mpr ⟨state, found, rfl⟩
  · obtain ⟨info, exposed, _⟩ := dnatFlow_spec opened
    cases flowTuple.symm.trans tuple
    rw [← toPort] at free
    cases free.symm.trans exposed

open Testbed in
theorem port_10000_rests :
    (run System.step host ([.exposePort ⟨nodeB, 5201⟩ succeeding] ++ .unexposePort 10000 succeeding ::
      [.exposePort ⟨nodeC, 5201⟩ succeeding])).exposeMap.get 10000 = none :=
  (@unexposed_port_rests [.exposePort ⟨nodeB, 5201⟩ succeeding] [.exposePort ⟨nodeC, 5201⟩ succeeding]
    10000 containers redirectMap ⟨hostIp, 2⟩ succeeding ⟨200, "Unexposed host port 10000"⟩ (by decide)
    (by decide +kernel) (by decide)).1

end XdpNatd
