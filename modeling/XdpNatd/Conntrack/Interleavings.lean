import XdpNatd.Conntrack.Collection
import XdpNatd.Conntrack.Isolation
import XdpNatd.Conntrack.Parallel
import XdpNatd.Conntrack.Timeouts

namespace XdpNatd

open XdpNatd.Data XdpNatd.Ebpf XdpNatd.Daemon

variable {inside : Set UInt32} {start : System} {parallel : Parallel} {execution : Execution}
variable {index : Nat} {moves : List Move} {built new : List NewFlow} {flow : NewFlow}
variable {key : ConnectionTuple} {nat : NATData}

/-- The flow that the next access of an execution builds. -/
def Execution.builds (system : System) (execution : Execution) : List NewFlow :=
  match execution.phase with
  | .opens => (newFlow execution.flag execution.kernel system.maps execution.ctx).toList
  | _ => []

def Parallel.builds (parallel : Parallel) : Move → List NewFlow
  | .arrives .. | .other _ => []
  | .advances index =>
      match parallel.executions[index]? with
      | none => []
      | some execution => execution.builds parallel.system

/-- The tuple is that of one of the flows, and the NAT data are those for it. -/
def Supplies (built : List NewFlow) (key : ConnectionTuple) (nat : NATData) : Prop :=
  ∃ flow ∈ built, ∃ side, flow.key side = key ∧ flow.nat side = nat

/-- Frames come from their own side and leave it, exposures lead into it, and
nothing is removed. -/
def Move.Sided (inside : Set UInt32) : Move → Prop
  | .arrives flag ctx kernel => Event.Sided inside (.frame flag ctx kernel)
  | .advances _ => True
  | .other event => event.KeepsEntries ∧ ¬ event.IsFrame ∧ event.WritesInto inside

instance (inside : Set UInt32) [DecidablePred (· ∈ inside)] : DecidablePred (Move.Sided inside) :=
  fun move =>
    match move with
    | .arrives flag ctx kernel => inferInstanceAs (Decidable (Event.Sided inside (.frame flag ctx kernel)))
    | .advances _ => isTrue trivial
    | .other event =>
        inferInstanceAs (Decidable (event.KeepsEntries ∧ ¬ event.IsFrame ∧ event.WritesInto inside))

/-- What is filed, and what a frame is translated with, comes from a flow built by now. -/
structure Supplied (inside : Set UInt32) (built : List NewFlow) (parallel : Parallel) : Prop where
  sided : ∀ flow ∈ built, ∀ side, OnSide inside (flow.key side) side ∧
    LeadsAcross inside (flow.nat side) side
  exposes : ExposesInto inside parallel.system.exposeMap
  sent : ∀ execution ∈ parallel.executions, execution.event.Sided inside
  filed : ∀ key nat, parallel.Files key nat → Supplies built key nat
  settled : ∀ execution ∈ parallel.executions, execution.decided = true → ∃ translated,
    execution.result parallel.system.udpConntrack = some translated ∧
      ∀ nat ∈ translated, ∃ key, frameTuple execution.ctx.data = some key ∧ Supplies built key nat

section Executions

variable {property : Execution → Prop} {after : Execution}

theorem forall_arrived {flag : Flags} {ctx : XdpContext} {kernel : Kernel}
    (before : ∀ execution ∈ parallel.executions, property execution)
    (new : property ⟨flag, ctx, kernel, .looksUp⟩) :
    ∀ execution ∈ (parallel.step (.arrives flag ctx kernel)).executions, property execution := by
  intro execution member
  rcases List.mem_append.mp member with earlier | last
  · exact before execution earlier
  · rw [List.mem_singleton.mp last]
    exact new

theorem forall_advanced (before : ∀ execution ∈ parallel.executions, property execution)
    (new : property after) : ∀ execution ∈ parallel.executions.set index after, property execution := by
  intro execution member
  rcases List.mem_or_eq_of_mem_set member with earlier | rfl
  · exact before execution earlier
  · exact new

end Executions

theorem Supplies.later (supplies : Supplies built key nat) : Supplies (built ++ new) key nat := by
  obtain ⟨flow, member, side, same⟩ := supplies
  exact ⟨flow, List.mem_append_left _ member, side, same⟩

theorem mem_builds {system : System} : flow ∈ execution.builds system ↔
    execution.phase = .opens ∧
      newFlow execution.flag execution.kernel system.maps execution.ctx = some flow := by
  unfold Execution.builds
  split
  · next opens => simp [opens]
  · next elsewhere =>
      constructor
      · intro member
        cases member
      · intro opens
        exact (elsewhere opens.1).elim

namespace Supplied

theorem start_supplied (empty : start.udpConntrack = .empty) (exposes : ExposesInto inside start.exposeMap) :
    Supplied inside [] (.of start) where
  sided _ member := by cases member
  exposes := exposes
  sent _ member := by cases member
  filed key nat files := by
    rcases files with stored | ⟨_, member, _⟩
    · have nothing : natAt start.udpConntrack key = some nat := stored
      rw [empty, natAt, BoundedMap.get_empty] at nothing
      cases nothing
    · cases member
  settled _ member := by cases member

theorem arrives {flag : Flags} {ctx : XdpContext} {kernel : Kernel}
    (supplied : Supplied inside built parallel) (sided : Event.Sided inside (.frame flag ctx kernel)) :
    Supplied inside built (parallel.step (.arrives flag ctx kernel)) where
  sided := supplied.sided
  exposes := supplied.exposes
  sent := forall_arrived supplied.sent sided
  filed key nat files := by
    refine supplied.filed key nat (files.imp_right fun waiting => ?_)
    obtain ⟨execution, member, pending⟩ := waiting
    rcases List.mem_append.mp member with earlier | last
    · exact ⟨execution, earlier, pending⟩
    · rw [List.mem_singleton.mp last] at pending
      cases pending
  settled := forall_arrived supplied.settled nofun

theorem other {event : Event} (supplied : Supplied inside built parallel) (keeps : event.KeepsEntries)
    (notFrame : ¬ event.IsFrame) (writes : event.WritesInto inside) :
    Supplied inside built (parallel.step (.other event)) := by
  have table : natAt (parallel.system.step event).udpConntrack = natAt parallel.system.udpConntrack :=
    congrArg natAt (step_table keeps notFrame)
  refine ⟨supplied.sided, supplied.exposes.step writes, supplied.sent, ?_, ?_⟩
  · intro key nat files
    refine supplied.filed key nat ?_
    simpa only [Parallel.Files, Parallel.step, table] using files
  · intro execution member decided
    obtain ⟨translated, settles, supplies⟩ := supplied.settled execution member decided
    refine ⟨translated, ?_, supplies⟩
    simpa only [Execution.result, Parallel.step, table] using settles

/-- An access that settles the translation takes it from the table or from the flow
that it builds. -/
theorem settling {translated : Option NATData} {pending : List (ConnectionTuple × NATData)}
    (supplied : Supplied inside built parallel)
    (settles : Settles parallel.system execution translated pending) :
    let all := built ++ execution.builds parallel.system
    (∀ key nat, (key, nat) ∈ pending → Supplies all key nat) ∧
      ∀ nat ∈ translated, ∃ key, frameTuple execution.ctx.data = some key ∧ Supplies all key nat := by
  intro all
  cases settles with
  | untracked | declines => exact ⟨nofun, nofun⟩
  | @hits hit state tuple found =>
      refine ⟨nofun, fun nat translates => ⟨hit, tuple, ?_⟩⟩
      cases translates
      exact (supplied.filed hit _ (Or.inl (natAt_eq_some.mpr ⟨state, found, rfl⟩))).later
  | @opens flow phase opened =>
      have new : flow ∈ all := List.mem_append_right _ (mem_builds.mpr ⟨phase, opened⟩)
      constructor
      · intro key nat member
        simp only [List.mem_cons, List.not_mem_nil, or_false, Prod.mk.injEq] at member
        rcases member with ⟨rfl, rfl⟩ | ⟨rfl, rfl⟩
        · exact ⟨flow, new, execution.flag, rfl, rfl⟩
        · exact ⟨flow, new, execution.flag.other, rfl, rfl⟩
      · intro nat translates
        cases translates
        exact ⟨flow.key execution.flag, newFlow_key opened, flow, new, execution.flag, rfl, rfl⟩

/-- A step of one execution: what it leaves filed, and how it is settled, comes from
the flows built by then. -/
theorem advanced {conntrack : Conntrack} {clock : UInt64} {after : Execution}
    (supplied : Supplied inside built parallel)
    (present : parallel.executions[index]? = some execution)
    (sided : ∀ flow ∈ new, ∀ side, OnSide inside (flow.key side) side ∧
      LeadsAcross inside (flow.nat side) side)
    (sent : after.event = execution.event)
    (kept : ∀ key nat, natAt parallel.system.udpConntrack key = some nat → natAt conntrack key = some nat)
    (stored : ∀ key nat, natAt conntrack key = some nat → Supplies (built ++ new) key nat)
    (pending : ∀ key nat, (key, nat) ∈ after.pending → Supplies (built ++ new) key nat)
    (own : after.decided = true → ∃ translated, after.result conntrack = some translated ∧
      ∀ nat ∈ translated, ∃ key, frameTuple after.ctx.data = some key ∧ Supplies (built ++ new) key nat) :
    Supplied inside (built ++ new) ⟨{ parallel.system with udpConntrack := conntrack, clock },
      parallel.executions.set index after⟩ := by
  have member := List.mem_of_getElem? present
  refine ⟨?_, supplied.exposes, forall_advanced supplied.sent ?_, ?_, forall_advanced ?_ own⟩
  · intro flow flowMember
    exact (List.mem_append.mp flowMember).elim (supplied.sided flow) (sided flow)
  · rw [sent]
    exact supplied.sent execution member
  · intro key nat files
    rcases (files_advance present).mp files with inTable | waiting | ⟨_, other, _, found, waiting⟩
    · exact stored key nat inTable
    · exact pending key nat waiting
    · exact (supplied.filed key nat (Or.inr ⟨other, List.mem_of_getElem? found, waiting⟩)).later
  · intro other before decided
    obtain ⟨translated, settles, supplies⟩ := supplied.settled other before decided
    refine ⟨translated, result_kept kept settles, fun nat translates => ?_⟩
    obtain ⟨key, tuple, suppliesKey⟩ := supplies nat translates
    exact ⟨key, tuple, suppliesKey.later⟩

theorem advances (supplied : Supplied inside built parallel)
    (present : parallel.executions[index]? = some execution) :
    Supplied inside (built ++ execution.builds parallel.system) (parallel.step (.advances index)) := by
  have access := execution_access parallel.system execution
  have member := List.mem_of_getElem? present
  have sided : ∀ flow ∈ execution.builds parallel.system, ∀ side,
      OnSide inside (flow.key side) side ∧ LeadsAcross inside (flow.nat side) side := by
    intro flow isBuilt side
    obtain ⟨_, opened⟩ := mem_builds.mp isBuilt
    have own := (supplied.sent execution member).newFlow_side supplied.exposes opened
    exact ⟨own side, newFlow_leadsAcross (own .snat) opened side⟩
  have tabled : ∀ key nat, natAt parallel.system.udpConntrack key = some nat →
      Supplies (built ++ execution.builds parallel.system) key nat := fun key nat inTable =>
    (supplied.filed key nat (Or.inl inTable)).later
  have waiting : ∀ key nat, (key, nat) ∈ execution.pending →
      Supplies (built ++ execution.builds parallel.system) key nat := fun key nat pending =>
    (supplied.filed key nat (Or.inr ⟨execution, member, pending⟩)).later
  have before : execution.decided = true → ∃ translated,
      execution.result parallel.system.udpConntrack = some translated ∧ ∀ nat ∈ translated, ∃ key,
        frameTuple execution.ctx.data = some key ∧
          Supplies (built ++ execution.builds parallel.system) key nat := by
    intro decided
    obtain ⟨translated, settles, supplies⟩ := supplied.settled execution member decided
    refine ⟨translated, settles, fun nat translates => ?_⟩
    obtain ⟨key, tuple, suppliesKey⟩ := supplies nat translates
    exact ⟨key, tuple, suppliesKey.later⟩
  simp only [Parallel.step, present]
  generalize afterShape : ({ execution with phase := (execution.next parallel.system).2 } : Execution) =
    after at access ⊢
  have sent : after.event = execution.event := by rw [← afterShape]; rfl
  have sameData : after.ctx = execution.ctx := by rw [← afterShape]
  generalize (execution.next parallel.system).1 = conntrack at access ⊢
  cases access with
  | keeps same pending result decided _ =>
      refine supplied.advanced present sided sent ?_ ?_ ?_ ?_
      · intro key nat stored
        rw [same, stored]
      · intro key nat stored
        exact tabled key nat ((same key).symm.trans stored)
      · intro key nat isPending
        exact waiting key nat (pending ▸ isPending)
      · intro isDecided
        rw [result, sameData]
        exact before (decided.symm.trans isDecided)
  | @inserts _ key state pending result decided _ =>
      refine supplied.advanced present sided sent ?_ ?_ ?_ ?_
      · intro other nat stored
        obtain ⟨held, found, rfl⟩ := natAt_eq_some.mp stored
        exact natAt_eq_some.mpr ⟨held, BoundedMap.get_tryInsert_present found, rfl⟩
      · intro other nat stored
        obtain ⟨held, found, rfl⟩ := natAt_eq_some.mp stored
        rcases BoundedMap.get_tryInsert_cases found with earlier | ⟨rfl, rfl, _⟩
        · exact tabled other held.nat (natAt_eq_some.mpr ⟨held, earlier, rfl⟩)
        · exact waiting _ _ (by rw [pending]; exact List.mem_cons_self)
      · intro other nat isPending
        exact waiting other nat (by rw [pending]; exact List.mem_cons_of_mem _ isPending)
      · intro isDecided
        rw [result, sameData]
        exact before (decided.symm.trans isDecided)
  | @settles _ translated settles _ _ result _ _ =>
      obtain ⟨pending, supplies⟩ := supplied.settling settles
      refine supplied.advanced present sided sent (fun _ _ stored => stored) tabled pending fun _ => ?_
      rw [sameData]
      exact ⟨translated, result, supplies⟩

end Supplied

theorem supplied_step {move : Move} (supplied : Supplied inside built parallel) (sided : move.Sided inside) :
    Supplied inside (built ++ parallel.builds move) (parallel.step move) := by
  cases move with
  | arrives flag ctx kernel =>
      simp only [Parallel.builds, List.append_nil]
      exact supplied.arrives sided
  | advances index =>
      cases present : parallel.executions[index]? with
      | none =>
          simp only [Parallel.builds, Parallel.step, present, List.append_nil]
          exact supplied
      | some execution =>
          simp only [Parallel.builds, present]
          exact supplied.advances present
  | other event =>
      simp only [Parallel.builds, List.append_nil]
      exact supplied.other sided.1 sided.2.1 sided.2.2

theorem supplied_run (empty : start.udpConntrack = .empty) (exposes : ExposesInto inside start.exposeMap)
    (guarded : Guarded Parallel.step (fun _ move => move.Sided inside) (.of start) moves) :
    Supplied inside (trace Parallel.step Parallel.builds (.of start) moves)
      (run Parallel.step (.of start) moves) :=
  guarded.traced (Supplied.start_supplied empty exposes) fun _ _ _ supplied sided => supplied_step supplied sided

/-- In every interleaving, whichever flows meet and whatever is inserted or refused,
each entry of the table belongs to a flow that some execution has built, and an
execution that is through has either left its frame alone or translated it with the
data of such a flow for that very tuple, towards the NIC on the way out and towards
a container on the way in. -/
theorem interleavings_isolated (empty : start.udpConntrack = .empty)
    (exposes : ExposesInto inside start.exposeMap)
    (guarded : Guarded Parallel.step (fun _ move => move.Sided inside) (.of start) moves) :
    let parallel := run Parallel.step (.of start) moves
    let flows := trace Parallel.step Parallel.builds (.of start) moves
    (∀ key nat, natAt parallel.system.udpConntrack key = some nat → Supplies flows key nat) ∧
    ∀ execution ∈ parallel.executions, ∀ nat, execution.finished = some (some nat) →
      LeadsAcross inside nat execution.flag ∧ ∃ flow ∈ flows,
        frameTuple execution.ctx.data = some (flow.key execution.flag) ∧ flow.nat execution.flag = nat := by
  intro parallel flows
  have supplied : Supplied inside flows parallel := supplied_run empty exposes guarded
  refine ⟨fun key nat stored => supplied.filed key nat (Or.inl stored), ?_⟩
  intro execution member nat finished
  obtain ⟨flag, ctx, kernel, phase⟩ := execution
  cases phase with
  | done translated =>
      cases finished
      obtain ⟨_, settles, supplies⟩ := supplied.settled _ member rfl
      cases settles
      obtain ⟨_, tuple, flow, flowMember, side, rfl, rfl⟩ := supplies nat rfl
      obtain ⟨onSide, across⟩ := supplied.sided flow flowMember side
      have own : OnSide inside (flow.key side) flag := (supplied.sent _ member).sent _ tuple
      have same : side = flag := onSide_unique onSide own
      subst same
      exact ⟨across, flow, flowMember, tuple, rfl⟩
  | _ => cases finished

open Testbed in
/-- Nodes A and B race for the answers of one remote endpoint. -/
theorem race_for_answers_isolated :
    let moves : List Move :=
      [.arrives .snat (fromContainer 10 ⟨nodeA, remote, 4000, 53⟩ 0x1234) (kernelAt 0),
        .arrives .snat (fromContainer 20 ⟨nodeB, remote, 4000, 53⟩ 0x1234) (kernelAt 0),
        .advances 0, .advances 1, .advances 0, .advances 1, .advances 0, .advances 1, .advances 0,
        .advances 1, .advances 1, .advances 0]
    Supplies (trace Parallel.step Parallel.builds (.of exposing) moves) ⟨remote, hostIp, 53, 4000⟩
      ⟨nodeB, 4000, ⟨hostMac, containerMac 20⟩, nodeB⟩ := by
  intro moves
  exact (@interleavings_isolated exposing.containers.addresses exposing moves rfl
    exposing_exposesContainers.exposesInto (by decide +kernel)).1 ⟨remote, hostIp, 53, 4000⟩
    ⟨nodeB, 4000, ⟨hostMac, containerMac 20⟩, nodeB⟩ (by decide +kernel)

/-- The timeout that an execution is about to write. -/
def Ebpf.Phase.timeouts : Phase → List UInt64
  | .marks _ timeout | .renews _ timeout | .storesTimeout _ _ timeout => [timeout]
  | _ => []

/-- Whether an execution has the clock reading that it will use. -/
def Ebpf.Phase.clocked : Phase → Bool
  | .reads _ | .compares .. | .records _ | .answers _ => true
  | _ => false

/-- No execution is underway. -/
def Parallel.Quiet (parallel : Parallel) : Prop :=
  ∀ execution ∈ parallel.executions, execution.finished.isSome

/-- Times that fit, and removals only while no execution is underway: an execution
does not outlive the entry that it has a pointer to. -/
def Move.Dated (parallel : Parallel) : Move → Prop
  | .arrives _ _ kernel => Fits kernel.ktimeGetCoarseNs
  | .advances _ => True
  | .other event => ¬ event.IsFrame ∧ (event.KeepsEntries ∨ parallel.Quiet)

instance : DecidablePred Parallel.Quiet := fun parallel =>
  inferInstanceAs (Decidable (∀ execution ∈ parallel.executions, execution.finished.isSome = true))

instance (parallel : Parallel) : DecidablePred (Move.Dated parallel) := fun move =>
  match move with
  | .arrives _ _ kernel => inferInstanceAs (Decidable (Fits kernel.ktimeGetCoarseNs))
  | .advances _ => isTrue trivial
  | .other event => inferInstanceAs (Decidable (¬ event.IsFrame ∧ (event.KeepsEntries ∨ parallel.Quiet)))

section Advance

variable {flag : Flags} {ctx : XdpContext} {kernel : Kernel} {maps : Maps} {phase : Phase}
variable {conntrack : Conntrack} {state written : FlowState} {property : UInt64 → Prop}

theorem refresh_timeout {time : UInt64} (refreshed : refresh time state = some written) :
    ∃ seenReply, written.timeout = time + lifetime seenReply := by
  rcases refresh_cases refreshed with ⟨_, rfl⟩ | ⟨_, rfl⟩
  · exact ⟨state.seenReply, rfl⟩
  · exact ⟨true, rfl⟩

theorem modify_timeouts {change : FlowState → FlowState}
    (stored : ∀ key state, conntrack.get key = some state → property state.timeout)
    (changed : ∀ state, property state.timeout → property (change state).timeout) :
    ∀ other state, (conntrack.modify key change).get other = some state → property state.timeout := by
  intro other state found
  by_cases same : other = key
  · subst same
    rw [BoundedMap.get_modify_self] at found
    obtain ⟨before, present, rfl⟩ := Option.map_eq_some_iff.mp found
    exact changed before (stored other before present)
  · rw [BoundedMap.get_modify_other same] at found
    exact stored other state found

theorem tryInsert_timeouts {value : FlowState}
    (stored : ∀ key state, conntrack.get key = some state → property state.timeout)
    (inserted : property value.timeout) :
    ∀ other state, (conntrack.tryInsert key value).get other = some state → property state.timeout := by
  intro other state found
  rcases BoundedMap.get_tryInsert_cases found with before | ⟨_, rfl, _⟩
  · exact stored other state before
  · exact inserted

/-- An access writes into the table only timeouts that are there, that the execution
carries, or that it makes of its clock reading. -/
theorem advance_timeouts
    (stored : ∀ key state, maps.udpConntrack.get key = some state → property state.timeout)
    (carried : ∀ timeout ∈ phase.timeouts, property timeout)
    (clocked : phase.clocked = true → ∀ seenReply, property (kernel.ktimeGetCoarseNs + lifetime seenReply)) :
    (∀ key state, (advance kernel maps ctx flag phase).1.get key = some state → property state.timeout) ∧
      ∀ timeout ∈ (advance kernel maps ctx flag phase).2.timeouts, property timeout := by
  have nothing := List.forall_mem_nil property
  cases phase with
  | looksUp | reads | turns | fetchesSeen | opens =>
      simp only [advance]
      repeat' split
      all_goals exact ⟨stored, nothing⟩
  | loads key updateReverse =>
      simp only [advance]
      split
      · cases updateReverse <;> exact ⟨stored, nothing⟩
      · exact ⟨stored, nothing⟩
  | clocksHit | clocksFlow | done => exact ⟨stored, nothing⟩
  | compares key seenReply =>
      simp only [advance]
      split
      · next state found =>
          split
          · next written refreshed =>
              obtain ⟨answered, sameTimeout⟩ := refresh_timeout refreshed
              have dated : property written.timeout := sameTimeout ▸ clocked rfl answered
              split
              · exact ⟨stored, List.forall_mem_singleton.mpr dated⟩
              · exact ⟨stored, List.forall_mem_singleton.mpr dated⟩
          · exact ⟨stored, nothing⟩
      · exact ⟨stored, nothing⟩
  | marks key timeout =>
      exact ⟨modify_timeouts stored fun _ dated => dated, carried⟩
  | renews key timeout =>
      exact ⟨modify_timeouts stored fun _ _ => carried timeout (List.mem_singleton_self _), nothing⟩
  | storesSeen key reverse nat seenReply => exact ⟨modify_timeouts stored fun _ dated => dated, nothing⟩
  | fetchesTimeout key reverse nat =>
      simp only [advance]
      split
      · next state found => exact ⟨stored, List.forall_mem_singleton.mpr (stored key state found)⟩
      · exact ⟨stored, nothing⟩
  | storesTimeout reverse nat timeout =>
      exact ⟨modify_timeouts stored fun _ _ => carried timeout (List.mem_singleton_self _), nothing⟩
  | records flow => exact ⟨tryInsert_timeouts stored (clocked rfl false), nothing⟩
  | answers flow => exact ⟨tryInsert_timeouts stored (clocked rfl false), nothing⟩

/-- An execution comes to hold its clock reading by taking it. -/
theorem advance_clocked (after : (advance kernel maps ctx flag phase).2.clocked = true) :
    phase.clocked = true ∨ Execution.reading ⟨flag, ctx, kernel, phase⟩ = some kernel.ktimeGetCoarseNs := by
  cases phase with
  | clocksHit | clocksFlow => exact Or.inr rfl
  | reads | compares | records | answers => exact Or.inl rfl
  | marks | renews | storesSeen | storesTimeout | done => cases after
  | looksUp | turns | fetchesSeen | fetchesTimeout | opens =>
      simp only [advance] at after
      repeat' split at after
      all_goals cases after
  | loads key updateReverse =>
      simp only [advance] at after
      split at after
      · cases updateReverse <;> cases after
      · cases after

end Advance

theorem le_laterReading {clock : UInt64} {reading : Option UInt64} : clock ≤ laterReading clock reading := by
  unfold laterReading
  split
  · exact UInt64.le_refl _
  · split
    · assumption
    · exact UInt64.le_refl _

theorem reading_le_laterReading {clock now : UInt64} : now ≤ laterReading clock (some now) := by
  rw [laterReading]
  split
  · exact UInt64.le_refl _
  · next earlier => exact (UInt64.le_total _ _).resolve_left earlier

/-- The timeout is at most the longer lifetime ahead of the clock. -/
def Within (clock timeout : UInt64) : Prop := timeout.toNat ≤ clock.toNat + timeoutEst.toNat

theorem Within.later {clock later timeout : UInt64} (within : Within clock timeout) (forward : clock ≤ later) :
    Within later timeout := by
  rw [UInt64.le_iff_toNat_le] at forward
  unfold Within at within ⊢
  omega

theorem within_read {clock now : UInt64} (fits : Fits now) (read : now ≤ clock) (seenReply : Bool) :
    Within clock (now + lifetime seenReply) := by
  have bound := lifetime_le seenReply
  rw [UInt64.le_iff_toNat_le] at read
  rw [Within, add_lifetime_toNat fits]
  omega

/-- No timeout, stored or about to be written, is out of reach of the clock. -/
structure Dated (parallel : Parallel) : Prop where
  stored : ∀ key state, parallel.system.udpConntrack.get key = some state →
    Within parallel.system.clock state.timeout
  carried : ∀ execution ∈ parallel.executions, ∀ timeout ∈ execution.phase.timeouts,
    Within parallel.system.clock timeout
  fits : ∀ execution ∈ parallel.executions, Fits execution.kernel.ktimeGetCoarseNs
  clocked : ∀ execution ∈ parallel.executions, execution.phase.clocked = true →
    execution.kernel.ktimeGetCoarseNs ≤ parallel.system.clock

theorem Dated.advances (dated : Dated parallel) (present : parallel.executions[index]? = some execution) :
    Dated (parallel.step (.advances index)) := by
  have member := List.mem_of_getElem? present
  have forward : parallel.system.clock ≤ laterReading parallel.system.clock execution.reading := le_laterReading
  obtain ⟨tabled, written⟩ := @advance_timeouts execution.flag execution.ctx execution.kernel
    parallel.system.maps execution.phase (Within (laterReading parallel.system.clock execution.reading))
    (fun key state found => (dated.stored key state found).later forward)
    (fun timeout carried => (dated.carried execution member timeout carried).later forward)
    (fun clocked => within_read (dated.fits execution member)
      (UInt64.le_trans (dated.clocked execution member clocked) forward))
  simp only [Parallel.step, present]
  refine ⟨tabled, ?_, ?_, ?_⟩
  · refine forall_advanced ?_ ?_
    · intro other before timeout carried
      exact (dated.carried other before timeout carried).later forward
    · exact written
  · exact forall_advanced dated.fits (dated.fits execution member)
  · refine forall_advanced ?_ ?_
    · intro other before clocked
      exact UInt64.le_trans (dated.clocked other before clocked) forward
    · intro clocked
      rcases advance_clocked clocked with already | reads
      · exact UInt64.le_trans (dated.clocked execution member already) forward
      · change execution.kernel.ktimeGetCoarseNs ≤ laterReading parallel.system.clock execution.reading
        have reading : execution.reading = some execution.kernel.ktimeGetCoarseNs := reads
        rw [reading]
        exact reading_le_laterReading

/-- Only frames write entries. -/
theorem get_step_not_frame {system : System} {event : Event} {state : FlowState} (notFrame : ¬ event.IsFrame)
    (stored : (system.step event).udpConntrack.get key = some state) :
    system.udpConntrack.get key = some state := by
  cases event with
  | frame => exact absurd trivial notFrame
  | sweepAtOnce now => exact (get_sweepAtOnce.mp stored).1
  | removeNext => exact removeNext_get stored
  | exposePort | unexposePort | writeExposeMap | writePnic | beginSweep | examine | endScan => exact stored

theorem Dated.step {move : Move} (dated : Dated parallel) (allowed : move.Dated parallel) :
    Dated (parallel.step move) := by
  cases move with
  | arrives flag ctx kernel =>
      exact ⟨dated.stored, forall_arrived dated.carried nofun, forall_arrived dated.fits allowed,
        forall_arrived dated.clocked nofun⟩
  | advances index =>
      cases present : parallel.executions[index]? with
      | none =>
          simp only [Parallel.step, present]
          exact dated
      | some execution => exact dated.advances present
  | other event =>
      have forward : parallel.system.clock ≤ (parallel.system.step event).clock := clock_le_step
      refine ⟨?_, ?_, dated.fits, ?_⟩
      · intro key state found
        exact (dated.stored key state (get_step_not_frame allowed.1 found)).later forward
      · intro execution member timeout carried
        exact (dated.carried execution member timeout carried).later forward
      · intro execution member clocked
        exact UInt64.le_trans (dated.clocked execution member clocked) forward

theorem run_others {events : List Event} :
    run Parallel.step parallel (events.map .other) =
      { parallel with system := run System.step parallel.system events } := by
  induction events generalizing parallel with
  | nil => rfl
  | cons event rest ih => exact ih

/-- A refresh may be lost to a race, and an entry may be renewed by a late writer, but
no interleaving keeps an entry alive: a sweep that nothing disturbs, with all of its
readings the longer lifetime after the latest reading before it, leaves nothing in
the table. -/
theorem silence_empties_table (empty : start.udpConntrack = .empty)
    (guarded : Guarded Parallel.step (fun parallel move => move.Dated parallel) (.of start) moves)
    {steps : List Event} {earliest latest : UInt64}
    (idle : (run Parallel.step (.of start) moves).system.expiry = .idle)
    (silent : (run Parallel.step (.of start) moves).system.clock.toNat + timeoutEst.toNat ≤ earliest.toNat)
    (within : ∀ event ∈ steps, event.SweepsWithin earliest latest)
    (done : (run Parallel.step (.of start)
      (moves ++ (.beginSweep :: steps).map .other)).system.expiry = .idle) :
    (run Parallel.step (.of start) (moves ++ (.beginSweep :: steps).map .other)).system.udpConntrack =
      .empty := by
  have begins : Dated (.of start) := by
    have idle : ∀ execution, execution ∉ (Parallel.of start).executions := fun _ => List.not_mem_nil
    refine ⟨?_, fun _ member => absurd member (idle _), fun _ member => absurd member (idle _),
      fun _ member => absurd member (idle _)⟩
    intro key state found
    have nothing : start.udpConntrack.get key = some state := found
    rw [empty, BoundedMap.get_empty] at nothing
    cases nothing
  have dated := guarded.invariant (fun _ _ dated allowed => Dated.step dated allowed) begins
  rw [run_append, run_others] at done ⊢
  have swept := undisturbed_sweep idle within done
  refine BoundedMap.ext_get fun key => ?_
  rw [BoundedMap.get_empty]
  refine Option.eq_none_iff_forall_ne_some.mpr fun state stored => ?_
  obtain ⟨found, collected⟩ := swept.kept key state stored
  have old : state.timeout ≤ earliest := by
    rw [UInt64.le_iff_toNat_le]
    exact Nat.le_trans (dated.stored key state found) silent
  cases collected (decide_eq_true old)

open Testbed in
/-- Node A and the remote endpoint renew both halves of one flow in turn, after a
sweep has taken the flow of node B. -/
theorem race_of_refreshes_ends :
    let early : List Move :=
      .arrives .snat (fromContainer 20 ⟨nodeB, remote, 4001, 53⟩ 0x1234) (kernelAt 0) ::
        List.replicate 5 (.advances 0) ++ [.other (.sweepAtOnce 30_000_000_000)]
    let late : List Move :=
      .arrives .snat (fromContainer 10 ⟨nodeA, remote, 4000, 53⟩ 0x1234) (kernelAt 40_000_000_000) ::
        List.replicate 5 (.advances 1) ++
        [.arrives .dnat (fromNic ⟨remote, hostIp, 53, 4000⟩ 0x1234) (kernelAt 42_000_000_000),
          .arrives .snat (fromContainer 10 ⟨nodeA, remote, 4000, 53⟩ 0x1234) (kernelAt 43_000_000_000)] ++
        (List.replicate 12 [.advances 2, .advances 3]).flatten
    let sweep : List Event :=
      [.examine ⟨nodeA, remote, 4000, 53⟩ 223_000_000_000, .examine ⟨remote, hostIp, 53, 4000⟩ 223_000_000_001,
        .endScan, .removeNext, .removeNext]
    (run Parallel.step (.of host)
      (early ++ late ++ (.beginSweep :: sweep).map .other)).system.udpConntrack = .empty := by
  intro early late sweep
  exact @silence_empties_table host (early ++ late) rfl (by decide +kernel) sweep 223_000_000_000
    223_000_000_001 (by decide +kernel) (by decide +kernel) (by simp [sweep, Event.SweepsWithin])
    (by decide +kernel)

end XdpNatd
