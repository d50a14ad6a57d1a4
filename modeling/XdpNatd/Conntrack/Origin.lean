import XdpNatd.System.Steps

namespace XdpNatd

open XdpNatd.Data XdpNatd.Ebpf XdpNatd.Daemon

variable {system start : System} {event : Event} {events : List Event}
variable {key : ConnectionTuple} {nat : NATData} {side : Flags}

theorem removeNext_get {state : FlowState}
    (stored : (system.step .removeNext).udpConntrack.get key = some state) :
    system.udpConntrack.get key = some state := by
  change (removeNext system.udpConntrack system.expiry).1.get key = some state at stored
  unfold removeNext at stored
  split at stored
  · next first rest _ =>
      by_cases same : key = first
      · subst same
        cases BoundedMap.get_remove_self.symm.trans stored
      · exact (BoundedMap.get_remove_other same).symm.trans stored
  · exact stored

/-- NAT data in the table was there before the event, or the event is a frame
that has just opened the flow it belongs to. -/
theorem step_natAt_new (stored : natAt (system.step event).udpConntrack key = some nat) :
    natAt system.udpConntrack key = some nat ∨
    (natAt system.udpConntrack key = none ∧ ∃ flag ctx kernel flow side,
      event = .frame flag ctx kernel ∧ outcome flag kernel system.maps ctx = .opens flow ∧
      flow.key side = key ∧ flow.nat side = nat) := by
  cases event with
  | frame flag ctx kernel =>
      rw [step_frame_conntrack] at stored
      rcases natAt_new stored with before | ⟨absent, flow, side, opens, _, sameKey, sameNat⟩
      · exact Or.inl before
      · exact Or.inr ⟨absent, flag, ctx, kernel, flow, side, rfl, opens, sameKey.symm, sameNat.symm⟩
  | sweepAtOnce now =>
      obtain ⟨state, found, sameNat⟩ := natAt_eq_some.mp stored
      exact Or.inl (natAt_eq_some.mpr ⟨state, (get_sweepAtOnce.mp found).1, sameNat⟩)
  | removeNext =>
      obtain ⟨state, found, sameNat⟩ := natAt_eq_some.mp stored
      exact Or.inl (natAt_eq_some.mpr ⟨state, removeNext_get found, sameNat⟩)
  | exposePort | unexposePort | writeExposeMap | writePnic | beginSweep | examine | endScan =>
      exact Or.inl stored

/-- The entry under `key` was created by the frame after `before`, as the local
`snat` or as the local `dnat` of the flow that it opened, and has been in the
table since. -/
structure CreatedBy (start : System) (before : List Event) (flag : Flags) (ctx : XdpContext)
    (kernel : Kernel) (after : List Event) (flow : NewFlow) (side : Flags) (key : ConnectionTuple) :
    Prop where
  opens : outcome flag kernel (run System.step start before).maps ctx = .opens flow
  under : flow.key side = key
  absent : (run System.step start before).udpConntrack.get key = none
  since : ∀ kept rest, after = kept ++ rest →
    natAt (run System.step start (before ++ .frame flag ctx kernel :: kept)).udpConntrack key =
      some (flow.nat side)

theorem exists_createdBy (empty : start.udpConntrack = .empty)
    (stored : natAt (run System.step start events).udpConntrack key = some nat) :
    ∃ before flag ctx kernel after flow side, events = before ++ .frame flag ctx kernel :: after ∧
      flow.nat side = nat ∧ CreatedBy start before flag ctx kernel after flow side key := by
  let property (system : System) : Prop := natAt system.udpConntrack key = some nat
  have absent : ¬ property start := by simp [property, natAt, empty]
  have holds : property (run System.step start events) := stored
  obtain ⟨before, event, after, shape, missing, lasting⟩ := exists_established absent holds
  have added := lasting [] after rfl
  simp only [property, run_append] at added
  rcases step_natAt_new added with earlier |
    ⟨missed, flag, ctx, kernel, flow, side, rfl, opens, under, sameNat⟩
  · exact absurd earlier missing
  · exact ⟨before, flag, ctx, kernel, after, flow, side, shape, sameNat, opens, under,
      natAt_eq_none.mp missed, sameNat.symm ▸ lasting⟩

end XdpNatd
