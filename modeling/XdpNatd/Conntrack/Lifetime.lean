import XdpNatd.Conntrack.Origin
import XdpNatd.Ebpf.Passes

namespace XdpNatd

open XdpNatd.Data XdpNatd.Ebpf XdpNatd.Daemon

variable {system start : System} {event : Event} {events : List Event}
variable {flag : Flags} {ctx again : XdpContext} {kernel later : Kernel} {maps : Maps}
variable {key : ConnectionTuple} {nat : NATData}

/-- The entry under the key is there after the event. -/
def Event.Keeps (key : ConnectionTuple) (system : System) (event : Event) : Prop :=
  ((system.step event).udpConntrack.get key).isSome

instance (key : ConnectionTuple) (system : System) : DecidablePred (Event.Keeps key system) :=
  fun event => inferInstanceAs (Decidable (((system.step event).udpConntrack.get key).isSome = true))

/-- The entry that a new flow leaves under the tuple of its frame is the one
that the frame was translated with. -/
theorem natAt_opened (tuple : frameTuple ctx.data = some key)
    (missed : system.udpConntrack.get key = none)
    (translated : translation flag kernel system.maps ctx = some nat)
    (inserted : Event.Keeps key system (.frame flag ctx kernel)) :
    natAt (system.step (.frame flag ctx kernel)).udpConntrack key = some nat := by
  rcases translation_cases translated with
    ⟨hitKey, state, _, hitTuple, found, _⟩ | ⟨flow, opens, _, flowTuple, absent, rfl⟩
  · cases hitTuple.symm.trans tuple
    cases missed.symm.trans found
  · cases flowTuple.symm.trans tuple
    have absent : system.udpConntrack.get (flow.key flag) = none := absent
    rw [Event.Keeps, step_opens_conntrack opens] at inserted
    rw [step_opens_conntrack opens]
    by_cases room : system.udpConntrack.size < 65536
    · exact natAt_eq_some.mpr ⟨_, record_forward absent room, rfl⟩
    · rw [record_full room, absent] at inserted
      cases inserted

theorem natAt_while_kept (stored : natAt system.udpConntrack key = some nat)
    (keeps : event.Keeps key system) :
    natAt (system.step event).udpConntrack key = some nat := by
  obtain ⟨state, found⟩ := Option.isSome_iff_exists.mp keeps
  have present : natAt (system.step event).udpConntrack key = some state.nat :=
    natAt_eq_some.mpr ⟨state, found, rfl⟩
  rcases step_natAt_new present with before | ⟨absent, _⟩
  · exact present.trans (before.symm.trans stored)
  · cases absent.symm.trans stored

theorem natAt_run_kept (stored : natAt system.udpConntrack key = some nat)
    (kept : Guarded System.step (Event.Keeps key) system events) :
    natAt (run System.step system events).udpConntrack key = some nat := by
  have preserved : ∀ state event, natAt state.udpConntrack key = some nat →
      Event.Keeps key state event → natAt (state.step event).udpConntrack key = some nat :=
    fun _ _ => natAt_while_kept
  exact kept.invariant preserved stored

/-- As long as the entry stays, a frame like the first one of its flow follows it
and leaves as the first one did, whatever exposures, NIC and route are by then. -/
theorem fast_path_agrees (tuple : frameTuple ctx.data = some key)
    (missed : start.udpConntrack.get key = none)
    (translated : translation flag kernel start.maps ctx = some nat)
    (inserted : Event.Keeps key start (.frame flag ctx kernel))
    (kept : Guarded System.step (Event.Keeps key) (start.step (.frame flag ctx kernel)) events)
    (current : maps.udpConntrack =
      (run System.step (start.step (.frame flag ctx kernel)) events).udpConntrack)
    (same : again.data = ctx.data) :
    let first := start.verdict flag ctx kernel
    let second := tryXdpRedirect later maps again flag
    (∃ state, outcome flag later maps again = .hits key state) ∧ second.data = first.data ∧
      second.devmapKey = first.devmapKey := by
  have stored : natAt maps.udpConntrack key = some nat := by
    rw [current]
    exact natAt_run_kept (natAt_opened tuple missed translated inserted) kept
  have tupleAgain : frameTuple again.data = some key := by
    rw [same]
    exact tuple
  obtain ⟨state, found, _⟩ := natAt_eq_some.mp stored
  have translatedAgain : translation flag later maps again = some nat :=
    translation_of_natAt tupleAgain stored
  refine ⟨⟨state, outcome_hits tupleAgain found⟩, ?_, ?_⟩
  · rw [System.verdict_data, tryXdpRedirect_data, translatedAgain, translated, same]
  · rw [System.verdict_devmapKey, tryXdpRedirect_devmapKey, translatedAgain, translated]

open Testbed in
/-- Port 10000 has been given to node C by the time of the second datagram, and
the NIC has changed its address. -/
theorem second_datagram_leaves_as_the_first :
    let datagram := fromNic ⟨remote, hostIp, 7000, 10000⟩ 0x1234
    let changed := run System.step (exposing.step (.frame .dnat datagram (kernelAt 0)))
      [.unexposePort 10000 succeeding, .writeExposeMap (BoundedMap.empty.tryInsert 10000
          ⟨nodeC, containerMac 30, 5201, 13⟩), .writePnic ⟨0xC0A8060B, 2⟩,
        .frame .snat (fromContainer 20 ⟨nodeB, remote, 5201, 7000⟩ 0x1234) (kernelAt 1),
        .sweepAtOnce 30_000_000_000]
    (∃ state, outcome .dnat (kernelAt 30_000_000_001) changed.maps datagram =
      .hits ⟨remote, hostIp, 7000, 10000⟩ state) ∧
    (tryXdpRedirect (kernelAt 30_000_000_001) changed.maps datagram .dnat).data =
      (exposing.verdict .dnat datagram (kernelAt 0)).data ∧
    (tryXdpRedirect (kernelAt 30_000_000_001) changed.maps datagram .dnat).devmapKey =
      (exposing.verdict .dnat datagram (kernelAt 0)).devmapKey :=
  @fast_path_agrees exposing _ .dnat (fromNic ⟨remote, hostIp, 7000, 10000⟩ 0x1234)
    (fromNic ⟨remote, hostIp, 7000, 10000⟩ 0x1234) (kernelAt 0) (kernelAt 30_000_000_001) _
    ⟨remote, hostIp, 7000, 10000⟩
    ⟨nodeB, 5201, ⟨hostMac, containerMac 20⟩, nodeB⟩ (frameTuple_fromNic _ _) (by decide +kernel)
    (by decide +kernel) (by decide +kernel) (by decide +kernel) rfl rfl

end XdpNatd
