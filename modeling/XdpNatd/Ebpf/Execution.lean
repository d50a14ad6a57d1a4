import XdpNatd.Ebpf.Effects

namespace XdpNatd.Ebpf

open XdpNatd.Data

/-- How far an execution has come; `key` is the entry that a pointer goes to. -/
inductive Phase where
  | looksUp
  /-- The lookup has hit: the clock is to be read. -/
  | clocksHit (key : ConnectionTuple)
  /-- `state.seen_reply` is to be read. -/
  | reads (key : ConnectionTuple)
  /-- `state.timeout` is to be read, and the two compared with the clock. -/
  | compares (key : ConnectionTuple) (seenReply : Bool)
  /-- `state.seen_reply` is to be set. -/
  | marks (key : ConnectionTuple) (timeout : UInt64)
  /-- `state.timeout` is to be set. -/
  | renews (key : ConnectionTuple) (timeout : UInt64)
  /-- `state.nat` is to be read. -/
  | loads (key : ConnectionTuple) (updateReverse : Bool)
  /-- The entry of the other direction is to be looked up. -/
  | turns (key : ConnectionTuple) (nat : NATData)
  | fetchesSeen (key reverse : ConnectionTuple) (nat : NATData)
  | storesSeen (key reverse : ConnectionTuple) (nat : NATData) (seenReply : Bool)
  | fetchesTimeout (key reverse : ConnectionTuple) (nat : NATData)
  | storesTimeout (reverse : ConnectionTuple) (nat : NATData) (timeout : UInt64)
  /-- The lookup has missed: `PNIC_ARRAY` or `EXPOSE_MAP` is to be read. -/
  | opens
  /-- The flow is built: the clock is to be read. -/
  | clocksFlow (flow : NewFlow)
  /-- The first half of the flow is to be inserted. -/
  | records (flow : NewFlow)
  | answers (flow : NewFlow)
  | done (nat : Option NATData)

/-- The next access of an execution. An entry is gone from under a pointer only
if something removes entries; the execution then stays where it is. -/
def advance (kernel : Kernel) (maps : Maps) (ctx : XdpContext) (flag : Flags) :
    Phase → Conntrack × Phase
  | .looksUp =>
      match frameTuple ctx.data with
      | none => (maps.udpConntrack, .done none)
      | some key =>
          match maps.udpConntrack.get key with
          | some _ => (maps.udpConntrack, .clocksHit key)
          | none => (maps.udpConntrack, .opens)
  | .clocksHit key => (maps.udpConntrack, .reads key)
  | .reads key =>
      match maps.udpConntrack.get key with
      | some state => (maps.udpConntrack, .compares key state.seenReply)
      | none => (maps.udpConntrack, .reads key)
  | .compares key seenReply =>
      match maps.udpConntrack.get key with
      | some state =>
          match refresh kernel.ktimeGetCoarseNs { state with seenReply } with
          | some written =>
              match state.direction with
              | .original => (maps.udpConntrack, .renews key written.timeout)
              | .reply => (maps.udpConntrack, .marks key written.timeout)
          | none => (maps.udpConntrack, .loads key false)
      | none => (maps.udpConntrack, .compares key seenReply)
  | .marks key timeout =>
      (maps.udpConntrack.modify key fun state => { state with seenReply := true }, .renews key timeout)
  | .renews key timeout =>
      (maps.udpConntrack.modify key fun state => { state with timeout }, .loads key true)
  | .loads key updateReverse =>
      match maps.udpConntrack.get key with
      | some state =>
          (maps.udpConntrack, if updateReverse then .turns key state.nat else .done (some state.nat))
      | none => (maps.udpConntrack, .loads key updateReverse)
  | .turns key nat =>
      match maps.udpConntrack.get (reverseKey flag key nat) with
      | some _ => (maps.udpConntrack, .fetchesSeen key (reverseKey flag key nat) nat)
      | none => (maps.udpConntrack, .done (some nat))
  | .fetchesSeen key reverse nat =>
      match maps.udpConntrack.get key with
      | some state => (maps.udpConntrack, .storesSeen key reverse nat state.seenReply)
      | none => (maps.udpConntrack, .fetchesSeen key reverse nat)
  | .storesSeen key reverse nat seenReply =>
      (maps.udpConntrack.modify reverse fun rev => { rev with seenReply }, .fetchesTimeout key reverse nat)
  | .fetchesTimeout key reverse nat =>
      match maps.udpConntrack.get key with
      | some state => (maps.udpConntrack, .storesTimeout reverse nat state.timeout)
      | none => (maps.udpConntrack, .fetchesTimeout key reverse nat)
  | .storesTimeout reverse nat timeout =>
      (maps.udpConntrack.modify reverse fun rev => { rev with timeout }, .done (some nat))
  | .opens =>
      match newFlow flag kernel maps ctx with
      | none => (maps.udpConntrack, .done none)
      | some flow => (maps.udpConntrack, .clocksFlow flow)
  | .clocksFlow flow => (maps.udpConntrack, .records flow)
  | .records flow =>
      (maps.udpConntrack.tryInsert (flow.key flag)
        (.new (flow.nat flag) .original (kernel.ktimeGetCoarseNs + timeoutNew)), .answers flow)
  | .answers flow =>
      (maps.udpConntrack.tryInsert (flow.key flag.other)
        (.new (flow.nat flag.other) .reply (kernel.ktimeGetCoarseNs + timeoutNew)),
        .done (some (flow.nat flag)))
  | .done nat => (maps.udpConntrack, .done nat)

/-- An execution that takes `count` steps in a row. -/
def advanceAlone (kernel : Kernel) (maps : Maps) (ctx : XdpContext) (flag : Flags) :
    Nat → Conntrack → Phase → Conntrack × Phase
  | 0, conntrack, phase => (conntrack, phase)
  | count + 1, conntrack, phase =>
      let next := advance kernel { maps with udpConntrack := conntrack } ctx flag phase
      advanceAlone kernel maps ctx flag count next.1 next.2

variable {kernel : Kernel} {maps : Maps} {ctx : XdpContext} {flag : Flags}
variable {conntrack : Conntrack} {key : ConnectionTuple} {state written : FlowState} {nat : NATData}
variable {phase : Phase} {count : Nat}

theorem advanceAlone_step {after : Conntrack} {next : Phase}
    (steps : advance kernel { maps with udpConntrack := conntrack } ctx flag phase = (after, next)) :
    advanceAlone kernel maps ctx flag (count + 1) conntrack phase =
      advanceAlone kernel maps ctx flag count after next := by
  simp only [advanceAlone, steps]

/-- The table that an execution goes on with is the one it is given. -/
theorem advanceAlone_maps {other : Conntrack} :
    advanceAlone kernel { maps with udpConntrack := other } ctx flag count conntrack phase =
      advanceAlone kernel maps ctx flag count conntrack phase := by
  induction count generalizing conntrack phase with
  | zero => rfl
  | succ count ih => exact ih

theorem advanceAlone_done {nat : Option NATData} :
    advanceAlone kernel maps ctx flag count conntrack (.done nat) = (conntrack, .done nat) := by
  induction count with
  | zero => rfl
  | succ count ih => exact ih

/-- From the lookup of the other direction on. -/
theorem advanceAlone_turns (found : conntrack.get key = some written) :
    advanceAlone kernel maps ctx flag (count + 5) conntrack (.turns key nat) =
      (conntrack.modify (reverseKey flag key nat) (copyToReverse written), .done (some nat)) := by
  cases other : conntrack.get (reverseKey flag key nat) with
  | none =>
      have turns : advance kernel { maps with udpConntrack := conntrack } ctx flag (.turns key nat) =
          (conntrack, .done (some nat)) := by simp only [advance, other]
      rw [advanceAlone_step turns, advanceAlone_done, BoundedMap.modify_absent other]
  | some back =>
      have still : (conntrack.modify (reverseKey flag key nat)
          fun rev => { rev with seenReply := written.seenReply }).get key = some written := by
        by_cases own : key = reverseKey flag key nat
        · rw [← own, BoundedMap.get_modify_self, found]
          rfl
        · rw [BoundedMap.get_modify_other own, found]
      simp only [advanceAlone, advance, other, found, still, BoundedMap.modify_modify]
      exact advanceAlone_done

/-- From the write of the timeout on, when that makes the entry `written`. -/
theorem advanceAlone_renews {timeout : UInt64} (found : conntrack.get key = some state)
    (renewed : { state with timeout } = written) (sameNat : written.nat = nat) :
    advanceAlone kernel maps ctx flag (count + 7) conntrack (.renews key timeout) =
      ((conntrack.modify key fun _ => written).modify (reverseKey flag key nat) (copyToReverse written),
        .done (some nat)) := by
  have stored : (conntrack.modify key fun _ => written).get key = some written := by
    rw [BoundedMap.get_modify_self, found]
    rfl
  have whole : (conntrack.modify key fun entry => { entry with timeout }) =
      conntrack.modify key fun _ => written := by
    refine BoundedMap.modify_congr fun value stored => ?_
    cases found.symm.trans stored
    exact renewed
  have renews : advance kernel { maps with udpConntrack := conntrack } ctx flag (.renews key timeout) =
      (conntrack.modify key fun _ => written, .loads key true) := by
    simp only [advance, whole]
  have loads : advance kernel { maps with udpConntrack := conntrack.modify key fun _ => written } ctx flag
      (.loads key true) = (conntrack.modify key fun _ => written, .turns key nat) := by
    simp only [advance, stored, if_true, sameNat]
  rw [advanceAlone_step renews, advanceAlone_step loads, advanceAlone_turns stored]

theorem advanceAlone_hit (found : conntrack.get key = some state) :
    advanceAlone kernel maps ctx flag 11 conntrack (.clocksHit key) =
      (touch conntrack kernel.ktimeGetCoarseNs key (reverseKey flag key state.nat) state,
        .done (some state.nat)) := by
  have reads : advance kernel { maps with udpConntrack := conntrack } ctx flag (.reads key) =
      (conntrack, .compares key state.seenReply) := by simp only [advance, found]
  have clocks : advance kernel { maps with udpConntrack := conntrack } ctx flag (.clocksHit key) =
      (conntrack, .reads key) := rfl
  rw [advanceAlone_step clocks, advanceAlone_step reads]
  cases refreshed : refresh kernel.ktimeGetCoarseNs state with
  | none =>
      have compares : advance kernel { maps with udpConntrack := conntrack } ctx flag
          (.compares key state.seenReply) = (conntrack, .loads key false) := by
        simp only [advance, found, refreshed]
      have loads : advance kernel { maps with udpConntrack := conntrack } ctx flag (.loads key false) =
          (conntrack, .done (some state.nat)) := by
        simp only [advance, found]
        rfl
      rw [advanceAlone_step compares, advanceAlone_step loads, advanceAlone_done,
        touch_unrefreshed refreshed]
  | some written =>
      have sameNat : written.nat = state.nat := refresh_nat refreshed
      simp only [touch, refreshed]
      rcases refresh_cases refreshed with ⟨direction, shape⟩ | ⟨direction, shape⟩
      · have compares : advance kernel { maps with udpConntrack := conntrack } ctx flag
            (.compares key state.seenReply) = (conntrack, .renews key written.timeout) := by
          simp only [advance, found, refreshed]
          simp only [direction]
        rw [advanceAlone_step compares]
        exact advanceAlone_renews found (by rw [shape]) sameNat
      · have compares : advance kernel { maps with udpConntrack := conntrack } ctx flag
            (.compares key state.seenReply) = (conntrack, .marks key written.timeout) := by
          simp only [advance, found, refreshed]
          simp only [direction]
        have marks : advance kernel { maps with udpConntrack := conntrack } ctx flag
            (.marks key written.timeout) =
            (conntrack.modify key fun entry => { entry with seenReply := true },
              .renews key written.timeout) := rfl
        have marked : (conntrack.modify key fun entry => { entry with seenReply := true }).get key =
            some { state with seenReply := true } := by
          rw [BoundedMap.get_modify_self, found]
          rfl
        rw [advanceAlone_step compares, advanceAlone_step marks,
          advanceAlone_renews marked (by rw [shape]) sameNat, BoundedMap.modify_modify]

/-- An execution that nothing interrupts leaves the table, and translates the
frame, as the program that runs in one step. -/
theorem execution_alone :
    advanceAlone kernel maps ctx flag 12 maps.udpConntrack .looksUp =
      ((tryXdpRedirect kernel maps ctx flag).udpConntrack,
        .done (translation flag kernel maps ctx)) := by
  rw [translation_eq, tryXdpRedirect_conntrack]
  cases tuple : frameTuple ctx.data with
  | none =>
      have untracked : advance kernel { maps with udpConntrack := maps.udpConntrack } ctx flag .looksUp =
          (maps.udpConntrack, .done none) := by simp only [advance, tuple]
      rw [advanceAlone_step untracked, advanceAlone_done]
      simp only [outcome, tuple, Outcome.conntrack, Outcome.nat]
  | some key =>
      cases found : maps.udpConntrack.get key with
      | some state =>
          have hits : advance kernel { maps with udpConntrack := maps.udpConntrack } ctx flag .looksUp =
              (maps.udpConntrack, .clocksHit key) := by simp only [advance, tuple, found]
          rw [advanceAlone_step hits, advanceAlone_hit found, outcome_hits tuple found]
          rfl
      | none =>
          have misses : advance kernel { maps with udpConntrack := maps.udpConntrack } ctx flag .looksUp =
              (maps.udpConntrack, .opens) := by simp only [advance, tuple, found]
          rw [advanceAlone_step misses, outcome_missed tuple found]
          cases opened : newFlow flag kernel maps ctx with
          | none =>
              have passes : advance kernel { maps with udpConntrack := maps.udpConntrack } ctx flag
                  .opens = (maps.udpConntrack, .done none) := by simp only [advance, opened]
              rw [advanceAlone_step passes, advanceAlone_done]
              rfl
          | some flow =>
              have opens : advance kernel { maps with udpConntrack := maps.udpConntrack } ctx flag
                  .opens = (maps.udpConntrack, .clocksFlow flow) := by simp only [advance, opened]
              rw [advanceAlone_step opens]
              rfl

end XdpNatd.Ebpf
