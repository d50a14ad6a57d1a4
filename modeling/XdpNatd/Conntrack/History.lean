import XdpNatd.Conntrack.Pairing
import XdpNatd.Conntrack.Timeouts

namespace XdpNatd

open XdpNatd.Data XdpNatd.Ebpf XdpNatd.Daemon

variable {inside : Set UInt32} {system start : System} {event : Event} {events : List Event}
variable {flag : Flags} {ctx : XdpContext} {kernel : Kernel} {key hit : ConnectionTuple}
variable {state : FlowState} {flow : NewFlow} {time : UInt64}

/-- The flow of a frame with this tuple and this translation has the entry `key`. -/
def InFlow (flag : Flags) (tuple : ConnectionTuple) (nat : NATData) (key : ConnectionTuple) : Prop :=
  key = tuple ∨ key = reverseKey flag tuple nat

/-- A translated frame of the flow that has the entry `key`. -/
def Event.Carries (key : ConnectionTuple) (time : UInt64) (system : System) : Event → Prop
  | .frame flag ctx kernel => kernel.ktimeGetCoarseNs = time ∧ ∃ tuple ∈ frameTuple ctx.data,
      ∃ nat ∈ translation flag kernel system.maps ctx, InFlow flag tuple nat key
  | _ => False

/-- A frame that hits the reply entry of the flow that has the entry `key`. -/
def Event.Answers (key : ConnectionTuple) (system : System) : Event → Prop
  | .frame flag ctx _ => ∃ tuple ∈ frameTuple ctx.data, ∃ state ∈ system.udpConntrack.get tuple,
      state.direction = .reply ∧ InFlow flag tuple state.nat key
  | _ => False

/-- A step of the runs in which nothing is removed and every insertion succeeds. -/
structure Event.Steady (inside : Set UInt32) (system : System) (event : Event) : Prop where
  orderly : event.Orderly inside system
  keeps : event.KeepsEntries
  clocked : event.Clocked system

instance (inside : Set UInt32) [DecidablePred (· ∈ inside)] (system : System) :
    DecidablePred (Event.Steady inside system) := fun event =>
  decidable_of_iff (event.Orderly inside system ∧ event.KeepsEntries ∧ event.Clocked system)
    ⟨fun ⟨orderly, keeps, clocked⟩ => ⟨orderly, keeps, clocked⟩,
      fun steady => ⟨steady.orderly, steady.keeps, steady.clocked⟩⟩

theorem Event.KeepsEntries.sweepsWhole (keeps : event.KeepsEntries) : event.SweepsWhole := by
  cases event with
  | removeNext => exact keeps.elim
  | frame | exposePort | unexposePort | writeExposeMap | writePnic | sweepAtOnce | beginSweep
  | examine | endScan => trivial

theorem PairsKept.steady (kept : PairsKept inside system) (steady : event.Steady inside system) :
    PairsKept inside (system.step event) :=
  kept.step steady.orderly steady.keeps.sweepsWhole

theorem Event.Carries.frame (carries : event.Carries key time system) :
    ∃ flag ctx kernel, event = .frame flag ctx kernel ∧ kernel.ktimeGetCoarseNs = time := by
  cases event with
  | frame flag ctx kernel => exact ⟨flag, ctx, kernel, rfl, carries.1⟩
  | exposePort | unexposePort | writeExposeMap | writePnic | sweepAtOnce | beginSweep | examine
  | endScan | removeNext => exact carries.elim

theorem carries_iff_of_hit (hits : outcome flag kernel system.maps ctx = .hits hit state) :
    Event.Carries key time system (.frame flag ctx kernel) ↔
      kernel.ktimeGetCoarseNs = time ∧ InFlow flag hit state.nat key := by
  obtain ⟨tuple, _⟩ := hits_spec hits
  simp [Event.Carries, tuple, translation_eq, hits, Outcome.nat]

theorem carries_iff_of_opens (opens : outcome flag kernel system.maps ctx = .opens flow) :
    Event.Carries key time system (.frame flag ctx kernel) ↔
      kernel.ktimeGetCoarseNs = time ∧ (key = flow.key flag ∨ key = flow.key flag.other) := by
  have tuple := newFlow_key (opens_spec opens).1
  simp [Event.Carries, tuple, translation_eq, opens, Outcome.nat, InFlow, flow.reverseKey_key]

theorem not_carries_of_passes (passes : outcome flag kernel system.maps ctx = .passes) :
    ¬ Event.Carries key time system (.frame flag ctx kernel) := by
  simp [Event.Carries, translation_eq, passes, Outcome.nat]

theorem answers_iff_of_hit (hits : outcome flag kernel system.maps ctx = .hits hit state) :
    Event.Answers key system (.frame flag ctx kernel) ↔
      state.direction = .reply ∧ InFlow flag hit state.nat key := by
  obtain ⟨tuple, found⟩ := hits_spec hits
  have found : system.udpConntrack.get hit = some state := found
  simp [Event.Answers, tuple, found]

/-- Both entries of the flow of a hit read as the hit entry does. -/
theorem inFlow_entry (kept : PairsKept inside system)
    (sent : Event.SentFromOwnSide inside (.frame flag ctx kernel))
    (hits : outcome flag kernel system.maps ctx = .hits hit state) (inFlow : InFlow flag hit state.nat key) :
    ∃ entry, system.udpConntrack.get key = some entry ∧ entry.seenReply = state.seenReply ∧
      entry.timeout = state.timeout := by
  obtain ⟨tuple, found⟩ := hits_spec hits
  rcases inFlow with rfl | rfl
  · exact ⟨state, found, rfl, rfl⟩
  · obtain ⟨back, backFound, _, _, _, seenReply, timeout⟩ :=
      exists_partner kept.1 (sent hit tuple) found
    exact ⟨back, backFound, seenReply, timeout⟩

theorem reverseKey_ne (kept : PairsKept inside system)
    (sent : Event.SentFromOwnSide inside (.frame flag ctx kernel))
    (hits : outcome flag kernel system.maps ctx = .hits hit state) :
    reverseKey flag hit state.nat ≠ hit := by
  obtain ⟨tuple, found⟩ := hits_spec hits
  obtain ⟨_, _, different, _⟩ := exists_partner kept.1 (sent hit tuple) found
  exact different

theorem inFlow_step (kept : PairsKept inside system)
    (sent : Event.SentFromOwnSide inside (.frame flag ctx kernel)) (fits : Fits kernel.ktimeGetCoarseNs)
    (hits : outcome flag kernel system.maps ctx = .hits hit state) (inFlow : InFlow flag hit state.nat key) :
    ∃ entry, (system.step (.frame flag ctx kernel)).udpConntrack.get key = some entry ∧
      entry.seenReply = state.answered ∧
      kernel.ktimeGetCoarseNs.toNat + (lifetime state.answered).toNat ≤
        entry.timeout.toNat + thresholdNs.toNat := by
  obtain ⟨entry, found, seenReply, timeout⟩ := inFlow_entry kept sent hits inFlow
  rw [get_step_hit fits hits]
  by_cases due : Due kernel.ktimeGetCoarseNs state
  · have written : (renewed kernel.ktimeGetCoarseNs state).timeout.toNat = _ := renewed_timeout fits
    have near := Nat.le_add_right (renewed kernel.ktimeGetCoarseNs state).timeout.toNat thresholdNs.toNat
    rw [if_pos due]
    by_cases own : key = hit
    · rw [if_pos own]
      exact ⟨_, rfl, rfl, written ▸ near⟩
    · rw [if_neg own, if_pos (inFlow.resolve_left own), found]
      exact ⟨_, rfl, rfl, written ▸ near⟩
  · obtain ⟨same, near⟩ := not_or.mp due
    rw [if_neg due]
    refine ⟨entry, found, seenReply.trans (not_not.mp same).symm, ?_⟩
    rw [timeout]
    exact Nat.le_of_not_lt near

theorem get_step_elsewhere (fits : Fits kernel.ktimeGetCoarseNs)
    (hits : outcome flag kernel system.maps ctx = .hits hit state)
    (elsewhere : ¬ InFlow flag hit state.nat key) :
    (system.step (.frame flag ctx kernel)).udpConntrack.get key = system.udpConntrack.get key := by
  obtain ⟨notHit, notReverse⟩ := not_or.mp elsewhere
  rw [get_step_hit fits hits, if_neg notHit, if_neg notReverse, ite_self]

/-- The entry under `key` has seen a reply. -/
def System.Seen (key : ConnectionTuple) (system : System) : Prop :=
  ∃ state, system.udpConntrack.get key = some state ∧ state.seenReply = true

theorem seen_iff (stored : system.udpConntrack.get key = some state) :
    system.Seen key ↔ state.seenReply = true := by
  simp [System.Seen, stored]

theorem seen_congr {after : System} (same : after.udpConntrack.get key = system.udpConntrack.get key) :
    after.Seen key ↔ system.Seen key := by
  rw [System.Seen, System.Seen, same]

theorem seen_step (kept : PairsKept inside system) (steady : event.Steady inside system) :
    (system.step event).Seen key ↔ system.Seen key ∨ event.Answers key system := by
  cases event with
  | frame flag ctx kernel =>
      have fits : Fits kernel.ktimeGetCoarseNs := steady.clocked.fits _ rfl
      rcases outcome_cases flag kernel system.maps ctx with
        passes | ⟨hit, state, hits, _, _⟩ | ⟨flow, opens, _, flowTuple, missed⟩
      · have silent : ¬ Event.Answers key system (.frame flag ctx kernel) := by
          intro answers
          obtain ⟨tuple, member, state, found, _⟩ := answers
          cases passes.symm.trans (outcome_hits member found)
        rw [or_iff_left silent]
        exact seen_congr (by rw [get_step_passes passes])
      · rw [answers_iff_of_hit hits]
        by_cases inFlow : InFlow flag hit state.nat key
        · obtain ⟨before, found, seenReply, _⟩ :=
            inFlow_entry kept steady.orderly.sent hits inFlow
          obtain ⟨after, stored, answered, _⟩ :=
            inFlow_step kept steady.orderly.sent fits hits inFlow
          rw [seen_iff stored, seen_iff found, answered, seenReply, and_iff_left inFlow,
            FlowState.answered, Bool.or_eq_true, decide_eq_true_eq]
        · rw [seen_congr (get_step_elsewhere fits hits inFlow), or_iff_left]
          exact fun answers => inFlow answers.2
      · have silent : ¬ Event.Answers key system (.frame flag ctx kernel) := by
          intro answers
          obtain ⟨tuple, member, state, found, _⟩ := answers
          cases opens.symm.trans (outcome_hits member found)
        rw [or_iff_left silent]
        have written : (system.step (.frame flag ctx kernel)).udpConntrack = _ := step_opens_conntrack opens
        constructor
        · intro seen
          obtain ⟨state, stored, seen⟩ := seen
          rw [written] at stored
          rcases record_cases stored with before | ⟨_, ⟨_, rfl⟩ | ⟨_, rfl⟩⟩
          · exact ⟨state, before, seen⟩
          -- the two entries of a new flow have not seen a reply
          · cases seen
          · cases seen
        · intro seen
          obtain ⟨state, stored, seen⟩ := seen
          refine ⟨state, ?_, seen⟩
          rw [written]
          exact record_present stored
  | sweepAtOnce => exact steady.keeps.elim
  | removeNext => exact steady.keeps.elim
  | exposePort | unexposePort | writeExposeMap | writePnic | beginSweep | examine | endScan =>
      exact (or_iff_left id).symm

theorem seen_run (empty : start.udpConntrack = .empty) (exposes : ExposesInto inside start.exposeMap)
    (guarded : Guarded System.step (fun system event => event.Steady inside system) start events) :
    (run System.step start events).Seen key ↔ Occurs System.step (Event.Answers key) start events := by
  have initial : start.Seen key ↔ Occurs System.step (Event.Answers key) start [] := by
    refine iff_of_false ?_ not_occurs_nil
    intro seen
    obtain ⟨state, stored, _⟩ := seen
    rw [empty, BoundedMap.get_empty] at stored
    cases stored
  have preserved : ∀ past event,
      PairsKept inside (run System.step start past) ∧
        ((run System.step start past).Seen key ↔ Occurs System.step (Event.Answers key) start past) →
      event.Steady inside (run System.step start past) →
      PairsKept inside ((run System.step start past).step event) ∧
        (((run System.step start past).step event).Seen key ↔
          Occurs System.step (Event.Answers key) start (past ++ [event])) := by
    intro past event known steady
    obtain ⟨kept, sofar⟩ := known
    refine ⟨kept.steady steady, ?_⟩
    rw [seen_step kept steady, sofar, occurs_concat]
  exact (@Guarded.history _ _ _ _ _ _ (fun past system => PairsKept inside system ∧
    (system.Seen key ↔ Occurs System.step (Event.Answers key) start past))
    ⟨.initial empty exposes, initial⟩ preserved guarded).2

/-- The entry under `key` lasts for its lifetime from `time` on, or for the
threshold less. -/
def System.Fresh (key : ConnectionTuple) (time : UInt64) (system : System) : Prop :=
  ∃ state, system.udpConntrack.get key = some state ∧
    time.toNat + (lifetime state.seenReply).toNat ≤ state.timeout.toNat + thresholdNs.toNat

theorem fresh_of_carries (kept : PairsKept inside system) (steady : event.Steady inside system)
    (carries : event.Carries key time system) : (system.step event).Fresh key time := by
  obtain ⟨flag, ctx, kernel, rfl, rfl⟩ := carries.frame
  have fits : Fits kernel.ktimeGetCoarseNs := steady.clocked.fits _ rfl
  rcases outcome_cases flag kernel system.maps ctx with
    passes | ⟨hit, state, hits, _, _⟩ | ⟨flow, opens, _, _, _⟩
  · exact absurd carries (not_carries_of_passes passes)
  · obtain ⟨_, inFlow⟩ := (carries_iff_of_hit hits).mp carries
    obtain ⟨entry, stored, answered, near⟩ := inFlow_step kept steady.orderly.sent fits hits inFlow
    rw [← answered] at near
    exact ⟨entry, stored, near⟩
  · obtain ⟨_, own⟩ := (carries_iff_of_opens opens).mp carries
    obtain ⟨forward, backward⟩ := steady.orderly.opened opens
    have near : kernel.ktimeGetCoarseNs.toNat + (lifetime false).toNat ≤
        (kernel.ktimeGetCoarseNs + timeoutNew).toNat + thresholdNs.toNat := by
      rw [← add_lifetime_toNat fits false]
      exact Nat.le_add_right _ _
    rcases own with rfl | rfl
    · exact ⟨_, forward, near⟩
    · exact ⟨_, backward, near⟩

theorem fresh_step (fresh : system.Fresh key time) (reached : time ≤ system.clock)
    (keeps : event.KeepsEntries) (clocked : event.Clocked system) : (system.step event).Fresh key time := by
  obtain ⟨state, stored, near⟩ := fresh
  obtain ⟨after, storedAfter, _⟩ :=
    natAt_eq_some.mp (step_natAt_kept keeps (natAt_eq_some.mpr ⟨state, stored, rfl⟩))
  rcases step_get_cases clocked.fits storedAfter with before | ⟨now, read, timeout⟩
  · cases stored.symm.trans before
    exact ⟨state, storedAfter, near⟩
  · refine ⟨after, storedAfter, ?_⟩
    have later : time ≤ now := UInt64.le_trans reached (clocked.forward now read)
    rw [UInt64.le_iff_toNat_le] at later
    rw [timeout, add_lifetime_toNat (clocked.fits now read)]
    omega

theorem fresh_run (empty : start.udpConntrack = .empty) (exposes : ExposesInto inside start.exposeMap)
    (guarded : Guarded System.step (fun system event => event.Steady inside system) start events)
    (carried : Occurs System.step (Event.Carries key time) start events) :
    (run System.step start events).Fresh key time := by
  obtain ⟨before, event, after, rfl, carries⟩ := carried
  obtain ⟨early, steady, late⟩ := guarded_append.mp guarded
  have kept : PairsKept inside (run System.step start before) :=
    early.invariant (fun _ _ kept steady => kept.steady steady) (.initial empty exposes)
  have read : event.reading = some time := by
    obtain ⟨flag, ctx, kernel, rfl, rfl⟩ := carries.frame
    rfl
  have preserved : ∀ (system : System) (event : Event), system.Fresh key time ∧ time ≤ system.clock →
      event.Steady inside system →
      (system.step event).Fresh key time ∧ time ≤ (system.step event).clock := by
    intro system event known steady
    obtain ⟨fresh, reached⟩ := known
    exact ⟨fresh_step fresh reached steady.keeps steady.clocked,
      UInt64.le_trans reached clock_le_step⟩
  rw [run_append, run_cons]
  exact (late.invariant preserved ⟨fresh_of_carries kept steady carries, reading_le_step read⟩).1

end XdpNatd
