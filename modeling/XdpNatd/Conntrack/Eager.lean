import XdpNatd.Conntrack.History
import XdpNatd.Ebpf.Commutes

namespace XdpNatd

open XdpNatd.Data XdpNatd.Ebpf XdpNatd.Daemon

/-! # The lazy refresh against an eager one

The reference writes both entries of a flow at every frame.  The programs write
when it gains them a second, and the two machines run on the same events.  What
relates them is that no entry of the programs is ahead of the reference, and
none more than the threshold behind.
-/

def touchEagerly (conntrack : Conntrack) (time : UInt64) (key reverse : ConnectionTuple)
    (state : FlowState) : Conntrack :=
  (conntrack.modify key fun _ => renewed time state).modify reverse
    (copyToReverse (renewed time state))

def Ebpf.Outcome.conntrackEagerly (flag : Flags) (conntrack : Conntrack) (time : UInt64) :
    Outcome → Conntrack
  | .hits key state => touchEagerly conntrack time key (reverseKey flag key state.nat) state
  | outcome => outcome.conntrack flag conntrack time

def System.stepEagerly (system : System) : Event → System
  | .frame flag ctx kernel => { system.step (.frame flag ctx kernel) with
      udpConntrack := (outcome flag kernel system.maps ctx).conntrackEagerly flag system.udpConntrack
        kernel.ktimeGetCoarseNs }
  | event => system.step event

variable {inside : Set UInt32} {start lazy eager : System} {event : Event} {events : List Event}
variable {flag : Flags} {ctx : XdpContext} {kernel : Kernel} {key reverse : ConnectionTuple}
variable {state back reference backReference : FlowState} {time : UInt64} {conntrack : Conntrack}

theorem get_touchEagerly (found : conntrack.get key = some state) (different : reverse ≠ key)
    (other : ConnectionTuple) :
    (touchEagerly conntrack time key reverse state).get other =
      if other = key then some (renewed time state)
      else if other = reverse then (conntrack.get reverse).map (copyToReverse (renewed time state))
      else conntrack.get other := by
  unfold touchEagerly
  by_cases own : other = key
  · subst own
    rw [if_pos rfl, BoundedMap.get_modify_other different.symm, BoundedMap.get_modify_self, found]
    rfl
  · rw [if_neg own]
    by_cases isReverse : other = reverse
    · subst isReverse
      rw [if_pos rfl, BoundedMap.get_modify_self, BoundedMap.get_modify_other own]
    · rw [if_neg isReverse, BoundedMap.get_modify_other isReverse, BoundedMap.get_modify_other own]

/-- An entry of the programs next to the entry of the reference. -/
structure Lag (state reference : FlowState) : Prop where
  nat : reference.nat = state.nat
  direction : reference.direction = state.direction
  seenReply : reference.seenReply = state.seenReply
  notAhead : state.timeout ≤ reference.timeout
  notBehind : reference.timeout.toNat ≤ state.timeout.toNat + thresholdNs.toNat

theorem Lag.refl (state : FlowState) : Lag state state :=
  ⟨rfl, rfl, rfl, UInt64.le_refl _, Nat.le_add_right _ _⟩

theorem Lag.answered (lag : Lag state reference) : reference.answered = state.answered := by
  rw [FlowState.answered, FlowState.answered, lag.seenReply, lag.direction]

structure Lags (lazy eager : System) : Prop where
  control : eager.control = lazy.control
  pnicArray : eager.pnicArray = lazy.pnicArray
  redirectMap : eager.redirectMap = lazy.redirectMap
  tables : ∀ key, Option.Rel Lag (lazy.udpConntrack.get key) (eager.udpConntrack.get key)

theorem Lags.maps (lags : Lags lazy eager) :
    eager.maps = lazy.maps.withConntrack eager.udpConntrack := by
  obtain ⟨control, pnicArray, redirectMap, _⟩ := lags
  simp only [System.maps, System.exposeMap, Maps.withConntrack, control, pnicArray, redirectMap]

theorem Lags.isSome (lags : Lags lazy eager) (key : ConnectionTuple) :
    (lazy.udpConntrack.get key).isSome = (eager.udpConntrack.get key).isSome := by
  have related := lags.tables key
  generalize lazy.udpConntrack.get key = left, eager.udpConntrack.get key = right at related
  cases related <;> rfl

theorem Lags.found (lags : Lags lazy eager) (stored : lazy.udpConntrack.get key = some state) :
    ∃ reference, eager.udpConntrack.get key = some reference ∧ Lag state reference := by
  have related := lags.tables key
  rw [stored] at related
  generalize eager.udpConntrack.get key = right at related
  cases related with
  | some lag => exact ⟨_, rfl, lag⟩

theorem Lags.absent (lags : Lags lazy eager) (missed : lazy.udpConntrack.get key = none) :
    eager.udpConntrack.get key = none := by
  have related := lags.tables key
  rw [missed] at related
  generalize eager.udpConntrack.get key = right at related
  cases related with
  | none => rfl

/-- A refresh, or its omission, keeps the entry of a hit close to the reference. -/
theorem Lag.renewed_of_due (lag : Lag state reference) :
    Lag (renewed time state) (renewed time reference) := by
  refine ⟨lag.nat, lag.direction, lag.answered, ?_, ?_⟩
  · rw [renewed, renewed, lag.answered]
    exact UInt64.le_refl _
  · rw [renewed, renewed, lag.answered]
    exact Nat.le_add_right _ _

theorem Lag.copied_of_due (lag : Lag state reference) (lagBack : Lag back backReference) :
    Lag (copyToReverse (renewed time state) back)
      (copyToReverse (renewed time reference) backReference) := by
  have written : Lag (renewed time state) (renewed time reference) := lag.renewed_of_due
  exact ⟨lagBack.nat, lagBack.direction, written.seenReply, written.notAhead, written.notBehind⟩

theorem Lag.kept_of_settled {clock : UInt64} (lag : Lag state reference) (timely : Timely clock state)
    (forward : clock ≤ time) (fits : Fits time) (settled : ¬ Due time state) :
    Lag state (renewed time reference) := by
  obtain ⟨same, near⟩ := not_or.mp settled
  refine ⟨lag.nat, lag.direction, lag.answered.trans (not_not.mp same), ?_, ?_⟩
  · refine renewed_later timely forward fits fun seen => ?_
    rw [lag.answered]
    exact answered_of_seenReply seen
  · rw [renewed_timeout fits, lag.answered]
    exact Nat.le_of_not_lt near

/-- The other half, which reads as the hit entry does, stays close as well. -/
theorem Lag.back_of_settled (lagBack : Lag back backReference)
    (kept : Lag state (renewed time reference)) (seenReply : back.seenReply = state.seenReply)
    (timeout : back.timeout = state.timeout) :
    Lag back (copyToReverse (renewed time reference) backReference) := by
  refine ⟨lagBack.nat, lagBack.direction, kept.seenReply.trans seenReply.symm, ?_, ?_⟩
  · rw [timeout]
    exact kept.notAhead
  · rw [timeout]
    exact kept.notBehind

theorem Lags.passes (lags : Lags lazy eager) (passes : outcome flag kernel lazy.maps ctx = .passes) :
    outcome flag kernel eager.maps ctx = .passes := by
  cases tuple : frameTuple ctx.data with
  | none => simp only [outcome, tuple]
  | some key =>
      cases missed : lazy.udpConntrack.get key with
      | some state => cases passes.symm.trans (outcome_hits tuple missed)
      | none =>
          have flows : newFlow flag kernel eager.maps ctx = newFlow flag kernel lazy.maps ctx := by
            rw [lags.maps, newFlow_withConntrack]
          have same : outcome flag kernel eager.maps ctx = outcome flag kernel lazy.maps ctx := by
            rw [outcome_missed tuple (lags.absent missed), outcome_missed tuple missed, flows]
          exact same.trans passes

theorem Lags.opens {flow : NewFlow} (lags : Lags lazy eager)
    (opens : outcome flag kernel lazy.maps ctx = .opens flow) :
    outcome flag kernel eager.maps ctx = .opens flow := by
  obtain ⟨opened, missed⟩ := opens_spec opens
  have tuple := newFlow_key opened
  rw [outcome_missed tuple (lags.absent missed), lags.maps, newFlow_withConntrack, opened]

theorem Lags.hits (lags : Lags lazy eager) (hits : outcome flag kernel lazy.maps ctx = .hits key state) :
    ∃ reference, outcome flag kernel eager.maps ctx = .hits key reference ∧ Lag state reference := by
  obtain ⟨tuple, found⟩ := hits_spec hits
  obtain ⟨reference, foundEager, lag⟩ := lags.found found
  exact ⟨reference, outcome_hits tuple foundEager, lag⟩

theorem stepEagerly_frame {result : Outcome} (same : outcome flag kernel eager.maps ctx = result) :
    (eager.stepEagerly (.frame flag ctx kernel)).udpConntrack =
      result.conntrackEagerly flag eager.udpConntrack kernel.ktimeGetCoarseNs := by
  rw [← same]
  rfl

theorem get_stepEagerly_passes (lags : Lags lazy eager)
    (passes : outcome flag kernel lazy.maps ctx = .passes) :
    (eager.stepEagerly (.frame flag ctx kernel)).udpConntrack = eager.udpConntrack :=
  stepEagerly_frame (lags.passes passes)

theorem get_stepEagerly_hit (lags : Lags lazy eager) (kept : PairsKept inside lazy)
    (sent : Event.SentFromOwnSide inside (.frame flag ctx kernel))
    (hits : outcome flag kernel lazy.maps ctx = .hits key state) :
    ∃ reference, Lag state reference ∧ ∀ other,
      (eager.stepEagerly (.frame flag ctx kernel)).udpConntrack.get other =
        if other = key then some (renewed kernel.ktimeGetCoarseNs reference)
        else if other = reverseKey flag key state.nat then
          (eager.udpConntrack.get (reverseKey flag key state.nat)).map
            (copyToReverse (renewed kernel.ktimeGetCoarseNs reference))
        else eager.udpConntrack.get other := by
  obtain ⟨reference, hitsEager, lag⟩ := lags.hits hits
  have found : eager.udpConntrack.get key = some reference := (hits_spec hitsEager).2
  refine ⟨reference, lag, fun other => ?_⟩
  rw [stepEagerly_frame hitsEager]
  change (touchEagerly _ _ _ (reverseKey flag key reference.nat) _).get other = _
  rw [lag.nat]
  exact get_touchEagerly found (reverseKey_ne kept sent hits) other

/-- A new flow gets the same two entries from both machines. -/
theorem get_stepEagerly_opens {flow : NewFlow} {other : ConnectionTuple} (lags : Lags lazy eager)
    (orderly : Event.Orderly inside lazy (.frame flag ctx kernel))
    (opens : outcome flag kernel lazy.maps ctx = .opens flow)
    (own : other = flow.key flag ∨ other = flow.key flag.other) :
    (eager.stepEagerly (.frame flag ctx kernel)).udpConntrack.get other =
      (lazy.step (.frame flag ctx kernel)).udpConntrack.get other := by
  have room := orderly.room opens
  have roomEager : eager.udpConntrack.size + 2 ≤ 65536 := by
    have same : eager.udpConntrack.keys = lazy.udpConntrack.keys :=
      BoundedMap.keys_congr fun key => (lags.isSome key).symm
    rw [BoundedMap.size, same]
    exact room
  have missed := orderly.absent opens flag
  have free := orderly.absent opens flag.other
  have same := (lags.absent free).trans free.symm
  rw [stepEagerly_frame (lags.opens opens), step_opens_conntrack opens]
  exact record_congr (lags.absent missed) missed same roomEager room own

theorem get_stepEagerly_opens_other {flow : NewFlow} {other : ConnectionTuple} (lags : Lags lazy eager)
    (opens : outcome flag kernel lazy.maps ctx = .opens flow)
    (elsewhere : ¬ (other = flow.key flag ∨ other = flow.key flag.other)) :
    (eager.stepEagerly (.frame flag ctx kernel)).udpConntrack.get other =
      eager.udpConntrack.get other := by
  obtain ⟨notOwn, notOther⟩ := not_or.mp elsewhere
  rw [stepEagerly_frame (lags.opens opens)]
  exact get_record_other notOwn notOther

theorem lags_hit (lags : Lags lazy eager) (kept : PairsKept inside lazy) (timely : lazy.Timely)
    (sent : Event.SentFromOwnSide inside (.frame flag ctx kernel))
    (clocked : Event.Clocked lazy (.frame flag ctx kernel))
    (hits : outcome flag kernel lazy.maps ctx = .hits key state) (other : ConnectionTuple) :
    Option.Rel Lag ((lazy.step (.frame flag ctx kernel)).udpConntrack.get other)
      ((eager.stepEagerly (.frame flag ctx kernel)).udpConntrack.get other) := by
  have fits : Fits kernel.ktimeGetCoarseNs := clocked.fits _ rfl
  have found : lazy.udpConntrack.get key = some state := (hits_spec hits).2
  obtain ⟨back, backFound, seenReply, timeout⟩ := inFlow_entry kept sent hits (Or.inr rfl)
  obtain ⟨reference, lag, lookups⟩ := get_stepEagerly_hit lags kept sent hits
  obtain ⟨backReference, backEager, lagBack⟩ := lags.found backFound
  rw [lookups, get_step_hit fits hits]
  by_cases due : Due kernel.ktimeGetCoarseNs state
  · rw [if_pos due]
    by_cases own : other = key
    · rw [if_pos own, if_pos own]
      exact .some lag.renewed_of_due
    · rw [if_neg own, if_neg own]
      by_cases isReverse : other = reverseKey flag key state.nat
      · rw [if_pos isReverse, if_pos isReverse, isReverse, backFound, backEager]
        exact .some (lag.copied_of_due lagBack)
      · rw [if_neg isReverse, if_neg isReverse]
        exact lags.tables other
  · -- the programs write nothing here, the reference writes both entries
    have near : Lag state (renewed kernel.ktimeGetCoarseNs reference) :=
      lag.kept_of_settled (timely key state found) (clocked.forward _ rfl) fits due
    rw [if_neg due]
    by_cases own : other = key
    · rw [if_pos own, own, found]
      exact .some near
    · rw [if_neg own]
      by_cases isReverse : other = reverseKey flag key state.nat
      · rw [if_pos isReverse, isReverse, backFound, backEager]
        exact .some (lagBack.back_of_settled near seenReply timeout)
      · rw [if_neg isReverse]
        exact lags.tables other

theorem lags_frame (lags : Lags lazy eager) (kept : PairsKept inside lazy) (timely : lazy.Timely)
    (steady : Event.Steady inside lazy (.frame flag ctx kernel)) :
    Lags (lazy.step (.frame flag ctx kernel)) (eager.stepEagerly (.frame flag ctx kernel)) := by
  refine ⟨lags.control, lags.pnicArray, lags.redirectMap, fun other => ?_⟩
  rcases outcome_cases flag kernel lazy.maps ctx with
    passes | ⟨key, state, hits, _, _⟩ | ⟨flow, opens, _, _, _⟩
  · rw [get_stepEagerly_passes lags passes, get_step_passes passes]
    exact lags.tables other
  · exact lags_hit lags kept timely steady.orderly.sent steady.clocked hits other
  · by_cases own : other = flow.key flag ∨ other = flow.key flag.other
    · rw [get_stepEagerly_opens lags steady.orderly opens own]
      cases (lazy.step (.frame flag ctx kernel)).udpConntrack.get other with
      | none => exact .none
      | some state => exact .some (.refl state)
    · obtain ⟨notOwn, notOther⟩ := not_or.mp own
      rw [get_stepEagerly_opens_other lags opens own, step_opens_conntrack opens,
        get_record_other notOwn notOther]
      exact lags.tables other

theorem lags_step (lags : Lags lazy eager) (kept : PairsKept inside lazy) (timely : lazy.Timely)
    (steady : event.Steady inside lazy) : Lags (lazy.step event) (eager.stepEagerly event) := by
  cases event with
  | frame flag ctx kernel => exact lags_frame lags kept timely steady
  | sweepAtOnce => exact steady.keeps.elim
  | removeNext => exact steady.keeps.elim
  | exposePort req calls =>
      refine ⟨?_, lags.pnicArray, lags.redirectMap, lags.tables⟩
      change (exposePort calls req eager.control).2 = (exposePort calls req lazy.control).2
      rw [lags.control]
  | unexposePort hostPort calls =>
      refine ⟨?_, lags.pnicArray, lags.redirectMap, lags.tables⟩
      change (unexposePort calls hostPort eager.control).2 = (unexposePort calls hostPort lazy.control).2
      rw [lags.control]
  | writeExposeMap exposeMap =>
      refine ⟨?_, lags.pnicArray, lags.redirectMap, lags.tables⟩
      change { eager.control with state := { eager.control.state with exposeMap } } = _
      rw [lags.control]
      rfl
  | writePnic => exact ⟨lags.control, rfl, lags.redirectMap, lags.tables⟩
  | beginSweep | examine | endScan =>
      exact ⟨lags.control, lags.pnicArray, lags.redirectMap, lags.tables⟩

structure Tracks (inside : Set UInt32) (lazy eager : System) : Prop where
  lags : Lags lazy eager
  kept : PairsKept inside lazy
  timely : lazy.Timely

theorem Tracks.step (tracks : Tracks inside lazy eager) (steady : event.Steady inside lazy) :
    Tracks inside (lazy.step event) (eager.stepEagerly event) where
  lags := lags_step tracks.lags tracks.kept tracks.timely steady
  kept := tracks.kept.steady steady
  timely := timely_step tracks.timely steady.clocked.fits

theorem tracks_run (empty : start.udpConntrack = .empty) (exposes : ExposesInto inside start.exposeMap)
    (guarded : Guarded System.step (fun system event => event.Steady inside system) start events) :
    Tracks inside (run System.step start events) (run System.stepEagerly start events) := by
  have vacant : ∀ key, start.udpConntrack.get key = none := by
    intro key
    rw [empty, BoundedMap.get_empty]
  refine guarded.simulation (fun _ _ _ tracks steady => tracks.step steady) ⟨⟨rfl, rfl, rfl, ?_⟩,
    .initial empty exposes, ?_⟩
  · intro key
    rw [vacant key]
    exact .none
  · intro key state stored
    cases (vacant key).symm.trans stored

/-- A translated frame sets the entries of its flow in the reference map, by
whether the flow has had an answer, and only these. -/
def SetsBoth (start : System) (past : List Event) (event : Event) (key : ConnectionTuple) : Prop :=
  let before := run System.stepEagerly start past
  let after := run System.stepEagerly start (past ++ [event])
  (∀ time, event.Carries key time (run System.step start past) →
    ∃ entry, after.udpConntrack.get key = some entry ∧
      (entry.seenReply = true ↔ Occurs System.step (Event.Answers key) start (past ++ [event])) ∧
      entry.timeout = time + if entry.seenReply then timeoutEst else timeoutNew) ∧
  ((∀ time, ¬ event.Carries key time (run System.step start past)) →
    after.udpConntrack.get key = before.udpConntrack.get key)

theorem eager_carried (lags : Lags lazy eager) (kept : PairsKept inside lazy)
    (steady : event.Steady inside lazy) (carries : event.Carries key time lazy) :
    ∃ entry, (eager.stepEagerly event).udpConntrack.get key = some entry ∧
      entry.timeout = time + lifetime entry.seenReply := by
  obtain ⟨flag, ctx, kernel, rfl, rfl⟩ := carries.frame
  rcases outcome_cases flag kernel lazy.maps ctx with
    passes | ⟨hit, state, hits, _, _⟩ | ⟨flow, opens, _, _, _⟩
  · exact absurd carries (not_carries_of_passes passes)
  · obtain ⟨_, inFlow⟩ := (carries_iff_of_hit hits).mp carries
    obtain ⟨reference, _, lookups⟩ := get_stepEagerly_hit lags kept steady.orderly.sent hits
    rw [lookups]
    by_cases own : key = hit
    · rw [if_pos own]
      exact ⟨_, rfl, rfl⟩
    · obtain ⟨back, backFound, _⟩ := inFlow_entry kept steady.orderly.sent hits (Or.inr rfl)
      obtain ⟨backReference, backEager, _⟩ := lags.found backFound
      rw [if_neg own, if_pos (inFlow.resolve_left own), backEager]
      exact ⟨_, rfl, rfl⟩
  · obtain ⟨_, own⟩ := (carries_iff_of_opens opens).mp carries
    obtain ⟨forward, backward⟩ := steady.orderly.opened opens
    rw [get_stepEagerly_opens lags steady.orderly opens own]
    rcases own with rfl | rfl
    · exact ⟨_, forward, rfl⟩
    · exact ⟨_, backward, rfl⟩

theorem eager_elsewhere (lags : Lags lazy eager) (kept : PairsKept inside lazy)
    (steady : event.Steady inside lazy) (elsewhere : ∀ time, ¬ event.Carries key time lazy) :
    (eager.stepEagerly event).udpConntrack.get key = eager.udpConntrack.get key := by
  cases event with
  | frame flag ctx kernel =>
      rcases outcome_cases flag kernel lazy.maps ctx with
        passes | ⟨hit, state, hits, _, _⟩ | ⟨flow, opens, _, _, _⟩
      · rw [get_stepEagerly_passes lags passes]
      · have outside : ¬ InFlow flag hit state.nat key :=
          fun inFlow => elsewhere _ ((carries_iff_of_hit hits).mpr ⟨rfl, inFlow⟩)
        obtain ⟨notHit, notReverse⟩ := not_or.mp outside
        obtain ⟨reference, _, lookups⟩ := get_stepEagerly_hit lags kept steady.orderly.sent hits
        rw [lookups, if_neg notHit, if_neg notReverse]
      · exact get_stepEagerly_opens_other lags opens
          fun own => elsewhere _ ((carries_iff_of_opens opens).mpr ⟨rfl, own⟩)
  | sweepAtOnce => exact steady.keeps.elim
  | removeNext => exact steady.keeps.elim
  | exposePort | unexposePort | writeExposeMap | writePnic | beginSweep | examine | endScan => rfl

theorem setsBoth {past after : List Event} (empty : start.udpConntrack = .empty)
    (exposes : ExposesInto inside start.exposeMap)
    (guarded : Guarded System.step (fun system event => event.Steady inside system) start
      (past ++ event :: after)) : SetsBoth start past event key := by
  obtain ⟨early, steady, _⟩ := guarded_append.mp guarded
  have through : Guarded System.step (fun system event => event.Steady inside system) start
      (past ++ [event]) := guarded_append.mpr ⟨early, steady, trivial⟩
  have tracks := tracks_run empty exposes early
  have next := (tracks_run empty exposes through).lags
  constructor
  · intro time carries
    obtain ⟨entry, found, timeout⟩ := eager_carried tracks.lags tracks.kept steady carries
    have stored : (run System.stepEagerly start (past ++ [event])).udpConntrack.get key = some entry := by
      rw [run_append]
      exact found
    refine ⟨entry, stored, ?_, timeout⟩
    have related := next.tables key
    rw [stored] at related
    cases written : (run System.step start (past ++ [event])).udpConntrack.get key with
    | none =>
        rw [written] at related
        cases related
    | some state =>
        rw [written] at related
        cases related with
        | some lag => rw [lag.seenReply, ← seen_iff written, seen_run empty exposes through]
  · intro elsewhere
    rw [run_append]
    exact eager_elsewhere tracks.lags tracks.kept steady elsewhere

/-- The map of the programs has the keys of the map in which every translated
frame sets both entries of its flow, and is behind it by the threshold at most;
so no sweep removes a flow that had a frame within its lifetime less the
threshold, and every sweep removes what the reference lets expire. -/
theorem lazy_refresh_refines_eager (empty : start.udpConntrack = .empty)
    (exposes : ExposesInto inside start.exposeMap)
    (guarded : Guarded System.step (fun system event => event.Steady inside system) start events) :
    let conntrack := (run System.step start events).udpConntrack
    let reference := (run System.stepEagerly start events).udpConntrack
    (∀ past event after key, events = past ++ event :: after → SetsBoth start past event key) ∧
    (∀ key, (conntrack.get key).isSome = (reference.get key).isSome) ∧
    (∀ key state, conntrack.get key = some state →
      (state.seenReply = true ↔ Occurs System.step (Event.Answers key) start events) ∧
      ∃ entry, reference.get key = some entry ∧ Lag state entry) ∧
    (∀ key state time now, conntrack.get key = some state →
      Occurs System.step (Event.Carries key time) start events →
      now.toNat + thresholdNs.toNat <
        time.toNat + (if state.seenReply then timeoutEst else timeoutNew).toNat →
      (sweepAtOnce conntrack now).get key = some state) ∧
    (∀ key entry now, reference.get key = some entry → expired entry now = true →
      (sweepAtOnce conntrack now).get key = none) := by
  have lags := (tracks_run empty exposes guarded).lags
  refine ⟨?_, lags.isSome, ?_, ?_, ?_⟩
  · intro past event after key shape
    subst shape
    exact setsBoth empty exposes guarded
  · intro key state stored
    refine ⟨?_, lags.found stored⟩
    rw [← seen_iff stored, seen_run empty exposes guarded]
  · intro key state time now stored carried recent
    refine get_sweepAtOnce.mpr ⟨stored, ?_⟩
    obtain ⟨same, found, near⟩ := fresh_run empty exposes guarded carried
    cases stored.symm.trans found
    refine decide_eq_false fun late => ?_
    rw [UInt64.le_iff_toNat_le] at late
    unfold lifetime at near
    omega
  · intro key entry now found late
    cases swept : (sweepAtOnce (run System.step start events).udpConntrack now).get key with
    | none => rfl
    | some state =>
        obtain ⟨stored, current⟩ := get_sweepAtOnce.mp swept
        obtain ⟨reference, foundAgain, lag⟩ := lags.found stored
        cases found.symm.trans foundAgain
        have reached : state.timeout ≤ now := UInt64.le_trans lag.notAhead (of_decide_eq_true late)
        exact absurd reached (of_decide_eq_false current)

open Testbed in
/-- The third frame comes within the threshold of the answer and is not written. -/
theorem busy_flow_survives_sweep :
    (sweepAtOnce (run System.step host (askedTwice 500_000_000)).udpConntrack 179_400_000_000).get
        ⟨remote, hostIp, 53, 4000⟩ =
      some ⟨⟨nodeA, 4000, ⟨hostMac, containerMac 10⟩, nodeA⟩, .reply, true, 180_000_000_001⟩ :=
  (@lazy_refresh_refines_eager host.containers.addresses host (askedTwice 500_000_000)
    rfl (by decide +kernel) (by decide +kernel)).2.2.2.1
    ⟨remote, hostIp, 53, 4000⟩
    ⟨⟨nodeA, 4000, ⟨hostMac, containerMac 10⟩, nodeA⟩, .reply, true, 180_000_000_001⟩
    500_000_000 179_400_000_000 (by decide +kernel)
    ⟨(askedTwice 500_000_000).take 2, _, [], rfl, rfl,
      ⟨nodeA, remote, 4000, 53⟩, by decide +kernel,
      ⟨hostIp, 4000, ⟨hostMac, gatewayMac⟩, 0⟩, by decide +kernel, Or.inr (by decide)⟩
    (by decide)

end XdpNatd
