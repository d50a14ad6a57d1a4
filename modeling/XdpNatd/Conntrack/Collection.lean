import XdpNatd.Conntrack.Sweep
import XdpNatd.Conntrack.Timeouts

namespace XdpNatd

open XdpNatd.Data XdpNatd.Ebpf XdpNatd.Daemon

variable {start system : System} {event : Event} {events before during early quiet : List Event}
variable {flag : Flags} {ctx : XdpContext} {kernel : Kernel} {key : ConnectionTuple}
variable {state : FlowState}

/-- No frame of the flow that has the entry `key`. -/
def Event.Silent (key : ConnectionTuple) (system : System) : Event → Prop :=
  Event.OnFrames fun flag ctx kernel => ∀ tuple ∈ frameTuple ctx.data,
    ∀ nat ∈ translation flag kernel system.maps ctx, key ≠ tuple ∧ key ≠ reverseKey flag tuple nat

instance (key : ConnectionTuple) (system : System) : DecidablePred (Event.Silent key system) :=
  Event.OnFrames.decidable

theorem get_frame_silent (silent : Event.Silent key system (.frame flag ctx kernel)) :
    (system.step (.frame flag ctx kernel)).udpConntrack.get key = system.udpConntrack.get key := by
  rcases outcome_cases flag kernel system.maps ctx with
    passes | ⟨hit, state, hits, tuple, _⟩ | ⟨flow, opens, _, tuple, _⟩
  · rw [get_step_passes passes]
  · obtain ⟨notHit, notReverse⟩ := silent hit tuple state.nat (by rw [translation_eq, hits]; rfl)
    rw [step_frame_conntrack, tryXdpRedirect_conntrack, hits]
    exact get_touch_other notHit notReverse
  · obtain ⟨notKey, notReverse⟩ := silent _ tuple (flow.nat flag) (by rw [translation_eq, opens]; rfl)
    rw [flow.reverseKey_key] at notReverse
    rw [step_opens_conntrack opens]
    exact get_record_other notKey notReverse

/-- While its flow is silent, an entry stays as it is or goes. -/
theorem get_step_silent (silent : event.Silent key system)
    (stored : (system.step event).udpConntrack.get key = some state) :
    system.udpConntrack.get key = some state := by
  cases event with
  | frame flag ctx kernel => rwa [get_frame_silent silent] at stored
  | sweepAtOnce now => exact (get_sweepAtOnce.mp stored).1
  | removeNext => exact removeNext_get stored
  | exposePort | unexposePort | writeExposeMap | writePnic | beginSweep | examine | endScan =>
      exact stored

theorem get_run_silent
    (silent : Guarded System.step (fun system event => event.Silent key system) system events)
    (stored : (run System.step system events).udpConntrack.get key = some state) :
    system.udpConntrack.get key = some state := by
  induction events generalizing system with
  | nil => exact stored
  | cons event rest ih => exact get_step_silent silent.1 (ih silent.2 stored)

/-- The task has yet to examine the key, or has collected it. -/
def Daemon.Expiry.Reaches (key : ConnectionTuple) : Expiry → Prop
  | .idle => False
  | .scanning pending visited toRemove => (key ∈ pending ∧ key ∉ visited) ∨ key ∈ toRemove
  | .removing toRemove => key ∈ toRemove

theorem reaches_remaining {toRemove : List ConnectionTuple} (collected : key ∈ toRemove) :
    (Expiry.remaining toRemove).Reaches key := by
  cases toRemove with
  | nil => cases collected
  | cons first rest => exact collected

/-- The expired entry is gone, or the task will come to it. -/
def System.Discards (key : ConnectionTuple) (system : System) : Prop :=
  ∀ state, system.udpConntrack.get key = some state →
    state.timeout ≤ system.clock ∧ system.expiry.Reaches key

theorem reaches_step (reaches : system.expiry.Reaches key) (forward : event.ReadsForward system)
    (stored : system.udpConntrack.get key = some state) (old : state.timeout ≤ system.clock)
    (still : (system.step event).udpConntrack.get key ≠ none) :
    (system.step event).expiry.Reaches key := by
  rcases sweep_step_cases system event with ⟨same, _⟩ | moved
  · rwa [same]
  · generalize system.expiry = phase, (system.step event).expiry = after,
      (system.step event).udpConntrack = table at reaches still moved ⊢
    cases moved with
    | begins => exact reaches.elim
    | @examines examined now pending visited toRemove found foundState fresh =>
        by_cases own : key = examined
        · subst own
          cases stored.symm.trans foundState
          have expired : Daemon.expired state now = true :=
            decide_eq_true (UInt64.le_trans old (forward now rfl))
          rw [if_pos expired]
          exact Or.inr (List.mem_append_right _ (List.mem_singleton_self key))
        · rcases reaches with ⟨pends, unvisited⟩ | collected
          · refine Or.inl ⟨Finset.mem_erase.mpr ⟨own, pends⟩, fun visited => ?_⟩
            exact (Finset.mem_insert.mp visited).elim own unvisited
          · refine Or.inr ?_
            split
            · exact List.mem_append_left _ collected
            · exact collected
    | ends =>
        rcases reaches with ⟨pends, _⟩ | collected
        · cases pends
        · exact reaches_remaining collected
    | @removes first rest =>
        rcases List.mem_cons.mp reaches with rfl | later
        · exact absurd BoundedMap.get_remove_self still
        · exact reaches_remaining later

theorem discards_step (discards : system.Discards key) (forward : event.ReadsForward system)
    (silent : event.Silent key system) : (system.step event).Discards key := by
  intro state still
  have stored := get_step_silent silent still
  obtain ⟨old, reaches⟩ := discards state stored
  have present : (system.step event).udpConntrack.get key ≠ none := by
    rw [still]
    exact Option.some_ne_none state
  exact ⟨UInt64.le_trans old clock_le_step, reaches_step reaches forward stored old present⟩

/-- An entry that has expired when a sweep begins is gone when the task waits
again, unless a frame of its flow came in between. -/
theorem expired_entry_collected (idle : system.expiry = .idle)
    (old : ∀ state, system.udpConntrack.get key = some state → state.timeout ≤ system.clock)
    (guarded : Guarded System.step (fun system event => event.ReadsForward system ∧ event.Silent key system)
      system (.beginSweep :: during))
    (done : (run System.step system (.beginSweep :: during)).expiry = .idle) :
    (run System.step system (.beginSweep :: during)).udpConntrack.get key = none := by
  have begun : (system.step .beginSweep).Discards key := by
    intro state stored
    have stored : system.udpConntrack.get key = some state := stored
    refine ⟨old state stored, ?_⟩
    change (beginSweep system.udpConntrack system.expiry).Reaches key
    rw [idle]
    exact Or.inl ⟨BoundedMap.mem_keys.mpr ⟨state, stored⟩, Finset.notMem_empty key⟩
  have preserved : ∀ (system : System) (event : Event), system.Discards key →
      event.ReadsForward system ∧ event.Silent key system → (system.step event).Discards key :=
    fun system event discards guards => discards_step discards guards.1 guards.2
  have discards := guarded.2.invariant preserved begun
  rw [run_cons] at done ⊢
  cases stored : (run System.step (system.step .beginSweep) during).udpConntrack.get key with
  | none => rfl
  | some state =>
      have reaches := (discards state stored).2
      rw [done] at reaches
      exact reaches.elim

/-- An entry whose flow falls silent is collected: if a sweep begins when the clock is
past the last that was heard of the flow by the lifetime of the entry, then the entry
is gone after the sweep, whatever the host does for other flows meanwhile. -/
theorem silent_flow_collected (empty : start.udpConntrack = .empty)
    (clocked : Guarded System.step (fun system event => event.Clocked system) start
      (early ++ (quiet ++ .beginSweep :: during)))
    (silent : Guarded System.step (fun system event => event.Silent key system)
      (run System.step start early) (quiet ++ .beginSweep :: during))
    (idle : (run System.step start (early ++ quiet)).expiry = .idle)
    (waited : ∀ state, (run System.step start early).udpConntrack.get key = some state →
      (run System.step start early).clock.toNat + (lifetime state.seenReply).toNat ≤
        (run System.step start (early ++ quiet)).clock.toNat)
    (done : (run System.step start (early ++ (quiet ++ .beginSweep :: during))).expiry = .idle) :
    (run System.step start (early ++ (quiet ++ .beginSweep :: during))).udpConntrack.get key = none := by
  obtain ⟨clockedEarly, clockedLate⟩ := guarded_append.mp clocked
  obtain ⟨_, clockedSweep⟩ := guarded_append.mp clockedLate
  obtain ⟨silentQuiet, silentSweep⟩ := guarded_append.mp silent
  rw [run_append] at idle
  rw [run_append, run_append] at done ⊢
  have timely : (run System.step start early).Timely :=
    timely_run empty (fun _ _ clocked => clocked.fits) clockedEarly
  refine expired_entry_collected idle ?_ ?_ done
  · intro state stored
    have before := get_run_silent silentQuiet stored
    have bound := timely key state before
    have wait := waited state before
    rw [run_append] at wait
    rw [UInt64.le_iff_toNat_le]
    exact bound.trans wait
  · exact (clockedSweep.weaken fun _ _ clocked => clocked.forward).and silentSweep

open Testbed in
/-- Node A falls silent at 0, and a sweep 30 s later takes its flow and leaves the
flow of node B. -/
theorem silent_flow_of_node_a_collected :
    (run System.step host
      ([.frame .snat (fromContainer 10 ⟨nodeA, remote, 4000, 53⟩ 0x1234) (kernelAt 0)] ++
        ([.frame .snat (fromContainer 20 ⟨nodeB, remote, 4001, 53⟩ 0x1234) (kernelAt 30_000_000_000)] ++
          .beginSweep ::
            [.examine ⟨nodeA, remote, 4000, 53⟩ 30_000_000_001,
              .examine ⟨nodeB, remote, 4001, 53⟩ 30_000_000_001,
              .frame .snat (fromContainer 20 ⟨nodeB, remote, 4001, 53⟩ 0x1234) (kernelAt 30_000_000_002),
              .examine ⟨remote, hostIp, 53, 4000⟩ 30_000_000_003,
              .examine ⟨remote, hostIp, 53, 4001⟩ 30_000_000_003, .endScan, .removeNext,
              .removeNext]))).udpConntrack.get ⟨nodeA, remote, 4000, 53⟩ = none :=
  @silent_flow_collected host _ _ _ ⟨nodeA, remote, 4000, 53⟩ rfl (by decide +kernel) (by decide +kernel)
    (by decide +kernel)
    (by
      intro state stored
      have own : (run System.step host
          [.frame .snat (fromContainer 10 ⟨nodeA, remote, 4000, 53⟩ 0x1234) (kernelAt 0)]).udpConntrack.get
            ⟨nodeA, remote, 4000, 53⟩ =
          some ⟨⟨hostIp, 4000, ⟨hostMac, gatewayMac⟩, 0⟩, .original, false, 30_000_000_000⟩ := by
        decide +kernel
      cases stored.symm.trans own
      decide +kernel)
    (by decide +kernel)

/-- A step of a sweep in progress, with its reading between these bounds. -/
def Event.SweepsWithin (earliest latest : UInt64) : Event → Prop
  | .examine _ now => earliest ≤ now ∧ now ≤ latest
  | .endScan | .removeNext => True
  | _ => False

/-- What an undisturbed sweep makes of the table `swept`, but for the keys that are
still to be removed. -/
structure SweptBut (toRemove : List ConnectionTuple) (swept conntrack : Conntrack)
    (earliest latest : UInt64) : Prop where
  kept : ∀ key state, conntrack.get key = some state → swept.get key = some state ∧
    (expired state earliest = true → key ∈ toRemove)
  spared : ∀ key state, swept.get key = some state → expired state latest = false →
    conntrack.get key = some state
  old : ∀ key ∈ toRemove, ∀ state, swept.get key = some state → expired state latest = true

/-- How far an undisturbed sweep of the table `swept` is. -/
def Daemon.Expiry.Sweeps (swept conntrack : Conntrack) (earliest latest : UInt64) : Expiry → Prop
  | .idle => SweptBut [] swept conntrack earliest latest
  | .scanning pending _ toRemove => conntrack = swept ∧
      (∀ key ∈ toRemove, ∀ state, swept.get key = some state → expired state latest = true) ∧
      ∀ key state, swept.get key = some state → expired state earliest = true →
        key ∈ pending ∨ key ∈ toRemove
  | .removing toRemove => SweptBut toRemove swept conntrack earliest latest

section Undisturbed

variable {swept conntrack : Conntrack} {earliest latest now : UInt64} {toRemove : List ConnectionTuple}
variable {steps : List Event}

theorem expired_later (old : expired state earliest = true) (later : earliest ≤ latest) :
    expired state latest = true :=
  decide_eq_true (UInt64.le_trans (of_decide_eq_true old) later)

theorem sweeps_remaining (but : SweptBut toRemove swept conntrack earliest latest) :
    (Expiry.remaining toRemove).Sweeps swept conntrack earliest latest := by
  cases toRemove <;> exact but

theorem SweptBut.remove (but : SweptBut (key :: rest) swept conntrack earliest latest) :
    SweptBut rest swept (conntrack.remove key) earliest latest where
  kept other state stored := by
    have different : other ≠ key := by
      rintro rfl
      cases BoundedMap.get_remove_self.symm.trans stored
    obtain ⟨before, collected⟩ :=
      but.kept other state ((BoundedMap.get_remove_other different).symm.trans stored)
    exact ⟨before, fun old => (List.mem_cons.mp (collected old)).resolve_left different⟩
  spared other state before young := by
    have different : other ≠ key := by
      rintro rfl
      cases young.symm.trans (but.old other List.mem_cons_self state before)
    exact (BoundedMap.get_remove_other different).trans (but.spared other state before young)
  old other member := but.old other (List.mem_cons_of_mem _ member)

theorem sweeps_step (sweeps : system.expiry.Sweeps swept system.udpConntrack earliest latest)
    (within : event.SweepsWithin earliest latest) :
    (system.step event).expiry.Sweeps swept (system.step event).udpConntrack earliest latest := by
  rcases sweep_step_cases system event with ⟨same, untouched⟩ | moved
  · have table : (system.step event).udpConntrack = system.udpConntrack := by
      cases event with
      | removeNext => exact untouched rfl
      | examine | endScan => rfl
      | frame | exposePort | unexposePort | writeExposeMap | writePnic | sweepAtOnce | beginSweep =>
          exact within.elim
    rwa [same, table]
  · generalize system.expiry = phase, (system.step event).expiry = after, system.udpConntrack = conntrack,
      (system.step event).udpConntrack = table at sweeps moved ⊢
    cases moved with
    | begins => exact within.elim
    | @examines examined now pending visited toRemove found foundState fresh =>
        obtain ⟨rfl, old, reached⟩ := sweeps
        obtain ⟨notBefore, notAfter⟩ := within
        refine ⟨rfl, ?_, ?_⟩
        · intro key member state stored
          split at member
          · next overdue =>
              rcases List.mem_append.mp member with earlier | last
              · exact old key earlier state stored
              · cases List.mem_singleton.mp last
                cases foundState.symm.trans stored
                exact expired_later overdue notAfter
          · exact old key member state stored
        · intro key state stored overdue
          by_cases own : key = examined
          · subst own
            cases foundState.symm.trans stored
            rw [if_pos (expired_later overdue notBefore)]
            exact Or.inr (List.mem_append_right _ (List.mem_singleton_self key))
          · refine (reached key state stored overdue).imp (fun pends => Finset.mem_erase.mpr ⟨own, pends⟩) ?_
            intro collected
            split
            · exact List.mem_append_left _ collected
            · exact collected
    | ends =>
        obtain ⟨rfl, old, reached⟩ := sweeps
        refine sweeps_remaining
          ⟨fun key state stored => ⟨stored, fun overdue => ?_⟩, fun _ _ stored _ => stored, old⟩
        exact (reached key state stored overdue).resolve_left (Finset.notMem_empty key)
    | removes => exact sweeps_remaining (SweptBut.remove sweeps)

/-- A sweep that nothing disturbs, entry by entry and in any order, removes what had
expired at its earliest reading and nothing that has not at its latest. -/
theorem undisturbed_sweep (idle : system.expiry = .idle)
    (within : ∀ event ∈ steps, event.SweepsWithin earliest latest)
    (done : (run System.step system (.beginSweep :: steps)).expiry = .idle) :
    SweptBut [] system.udpConntrack (run System.step system (.beginSweep :: steps)).udpConntrack
      earliest latest := by
  have begun : (system.step .beginSweep).expiry.Sweeps system.udpConntrack
      (system.step .beginSweep).udpConntrack earliest latest := by
    change (beginSweep system.udpConntrack system.expiry).Sweeps _ system.udpConntrack _ _
    rw [idle]
    refine ⟨rfl, fun key member => ?_, fun key state stored _ => Or.inl ?_⟩
    · cases member
    · exact BoundedMap.mem_keys.mpr ⟨state, stored⟩
  have guarded : Guarded System.step (fun _ event => event.SweepsWithin earliest latest)
      (system.step .beginSweep) steps := by
    refine guarded_iff.mpr fun before event after shape => within event ?_
    rw [shape]
    exact List.mem_append_right _ List.mem_cons_self
  have preserved : ∀ (after : System) (event : Event),
      after.expiry.Sweeps system.udpConntrack after.udpConntrack earliest latest →
      event.SweepsWithin earliest latest →
      (after.step event).expiry.Sweeps system.udpConntrack (after.step event).udpConntrack earliest latest :=
    fun _ _ sweeps within => sweeps_step sweeps within
  have sweeps := guarded.invariant preserved begun
  rw [run_cons] at done ⊢
  rwa [done] at sweeps

/-- A sweep writes nothing but the table. -/
theorem run_sweepsWithin (within : ∀ event ∈ steps, event.SweepsWithin earliest latest) :
    (run System.step system steps).pnicArray = system.pnicArray ∧
      (run System.step system steps).redirectMap = system.redirectMap ∧
      (run System.step system steps).control = system.control := by
  induction steps generalizing system with
  | nil => exact ⟨rfl, rfl, rfl⟩
  | cons event steps ih =>
      have own := within event List.mem_cons_self
      obtain ⟨pnic, redirects, control⟩ := @ih (system.step event) fun later member =>
        within later (List.mem_cons_of_mem _ member)
      cases event with
      | examine | endScan | removeNext => exact ⟨pnic, redirects, control⟩
      | frame | exposePort | unexposePort | writeExposeMap | writePnic | sweepAtOnce | beginSweep =>
          exact own.elim

/-- At one clock reading the undisturbed sweep is the sweep in one step. -/
theorem undisturbed_sweep_at_once (idle : system.expiry = .idle)
    (within : ∀ event ∈ steps, event.SweepsWithin now now)
    (done : (run System.step system (.beginSweep :: steps)).expiry = .idle) :
    SameButClock (run System.step system (.beginSweep :: steps)) (system.step (.sweepAtOnce now)) := by
  obtain ⟨kept, spared, _⟩ := undisturbed_sweep idle within done
  have table : (run System.step system (.beginSweep :: steps)).udpConntrack =
      sweepAtOnce system.udpConntrack now := by
    refine BoundedMap.ext_get fun key => Option.ext fun state => ?_
    rw [get_sweepAtOnce]
    constructor
    · intro stored
      obtain ⟨before, overdue⟩ := kept key state stored
      exact ⟨before, Bool.eq_false_iff.mpr fun old => by cases overdue old⟩
    · intro both
      exact spared key state both.1 both.2
  obtain ⟨pnic, redirects, control⟩ := @run_sweepsWithin (system.step .beginSweep) _ _ _ within
  exact .of_fields table pnic redirects control (done.trans idle.symm)

end Undisturbed

end XdpNatd
