import XdpNatd.Ebpf.Program

namespace XdpNatd.Ebpf

open XdpNatd.Data

/-- The tuple under which a program looks a frame up, if the frame gets there. -/
def frameTuple (data : List UInt8) : Option ConnectionTuple :=
  (parseUdp data).map fun (srcIp, dstIp) =>
    ⟨srcIp, dstIp, udpSrcPort data udp, udpDstPort data udp⟩

def Flags.other : Flags → Flags
  | .snat => .dnat
  | .dnat => .snat

namespace NewFlow

def key (flow : NewFlow) : Flags → ConnectionTuple
  | .snat => flow.skey
  | .dnat => flow.dkey

def nat (flow : NewFlow) : Flags → NATData
  | .snat => flow.snat
  | .dnat => flow.dnat

theorem reverseKey_key (flow : NewFlow) (flag : Flags) :
    reverseKey flag (flow.key flag) (flow.nat flag) = flow.key flag.other := by
  cases flag with
  | snat => exact flow.dkey_eq.symm
  | dnat => exact flow.skey_eq.symm

end NewFlow

def newFlow (flag : Flags) (kernel : Kernel) (maps : Maps) (ctx : XdpContext) : Option NewFlow :=
  (parseUdp ctx.data).bind fun (srcIp, dstIp) =>
    match flag with
    | .snat => snatFlow kernel maps ctx srcIp dstIp eth ipv4 udp
    | .dnat => dnatFlow kernel maps ctx srcIp dstIp eth ipv4 udp

/-- Both programs treat the connection table alike, up to the direction that they
translate: a frame is left alone, follows an entry, or opens a flow. -/
inductive Outcome where
  | passes
  | hits (key : ConnectionTuple) (state : FlowState)
  | opens (flow : NewFlow)

def outcome (flag : Flags) (kernel : Kernel) (maps : Maps) (ctx : XdpContext) : Outcome :=
  match frameTuple ctx.data with
  | none => .passes
  | some key =>
      match maps.udpConntrack.get key with
      | some state => .hits key state
      | none =>
          match newFlow flag kernel maps ctx with
          | none => .passes
          | some flow => .opens flow

def Outcome.nat (flag : Flags) : Outcome → Option NATData
  | .passes => none
  | .hits _ state => some state.nat
  | .opens flow => some (flow.nat flag)

def Outcome.conntrack (flag : Flags) (conntrack : Conntrack) (time : UInt64) : Outcome → Conntrack
  | .passes => conntrack
  | .hits key state => touch conntrack time key (reverseKey flag key state.nat) state
  | .opens flow =>
      record conntrack time (flow.key flag) (flow.nat flag) (flow.key flag.other)
        (flow.nat flag.other)

def translation (flag : Flags) (kernel : Kernel) (maps : Maps) (ctx : XdpContext) : Option NATData :=
  (parseUdp ctx.data).bind fun (srcIp, dstIp) =>
    (processUdp flag kernel maps ctx srcIp dstIp eth ipv4 udp).nat

section Frame

variable {flag : Flags} {kernel : Kernel} {maps : Maps} {ctx : XdpContext}
variable {key : ConnectionTuple} {state : FlowState} {flow : NewFlow} {nat : NATData}

theorem newFlow_key (opened : newFlow flag kernel maps ctx = some flow) :
    frameTuple ctx.data = some (flow.key flag) := by
  cases parsed : parseUdp ctx.data with
  | none => simp [newFlow, parsed] at opened
  | some addresses =>
      obtain ⟨srcIp, dstIp⟩ := addresses
      simp only [newFlow, parsed, Option.bind_some] at opened
      simp only [frameTuple, parsed, Option.map_some, Option.some.injEq]
      cases flag with
      | snat =>
          simp only [snatFlow, Option.bind_eq_bind, Option.bind_eq_some_iff, Option.some.injEq] at opened
          obtain ⟨pnic, _, fibMacs, _, rfl⟩ := opened
          rfl
      | dnat =>
          simp only [dnatFlow, Option.bind_eq_bind, Option.bind_eq_some_iff, Option.some.injEq] at opened
          obtain ⟨info, _, fibMacs, _, rfl⟩ := opened
          rfl

theorem snatFlow_spec (opened : newFlow .snat kernel maps ctx = some flow) :
    flow.snat.natAddr = maps.pnicArray[0].nicIp ∧ flow.snat.natPort = flow.skey.srcPort ∧
      flow.snat.devmapKey = 0 ∧ flow.dnat.devmapKey = flow.dnat.natAddr ∧
      flow.dnat.fibMacs.fibDmac = loadArray 6 ctx.data (EthHdr.srcAddr eth) := by
  obtain ⟨⟨srcIp, dstIp⟩, _, opened⟩ := Option.bind_eq_some_iff.mp opened
  simp only [snatFlow, Option.bind_eq_bind, Option.bind_eq_some_iff, Option.some.injEq] at opened
  obtain ⟨pnic, found, fibMacs, _, rfl⟩ := opened
  have first : maps.pnicArray[0] = pnic := by simpa using found
  exact ⟨by rw [first], rfl, rfl, rfl, rfl⟩

/-- What `process_udp_dnat` puts into a flow that it opens: the container
endpoint that `EXPOSE_MAP` holds for the destination port at that moment. -/
theorem dnatFlow_spec (opened : newFlow .dnat kernel maps ctx = some flow) :
    ∃ info, maps.exposeMap.get flow.dkey.dstPort = some info ∧
      flow.dnat.natAddr = info.containerIp ∧ flow.dnat.natPort = info.containerPort ∧
      flow.dnat.devmapKey = info.containerIp ∧ flow.dnat.fibMacs.fibDmac = info.containerMac ∧
      flow.snat.devmapKey = 0 := by
  obtain ⟨⟨srcIp, dstIp⟩, _, opened⟩ := Option.bind_eq_some_iff.mp opened
  simp only [dnatFlow, Option.bind_eq_bind, Option.bind_eq_some_iff, Option.some.injEq] at opened
  obtain ⟨info, found, fibMacs, _, rfl⟩ := opened
  exact ⟨info, found, rfl, rfl, rfl, rfl, rfl⟩

private theorem processUdp_outcome (srcIp dstIp : UInt32)
    (parsed : parseUdp ctx.data = some (srcIp, dstIp)) :
    (processUdp flag kernel maps ctx srcIp dstIp eth ipv4 udp).nat =
        (outcome flag kernel maps ctx).nat flag ∧
      (processUdp flag kernel maps ctx srcIp dstIp eth ipv4 udp).udpConntrack =
        (outcome flag kernel maps ctx).conntrack flag maps.udpConntrack kernel.ktimeGetCoarseNs := by
  cases found : maps.udpConntrack.get
      ⟨srcIp, dstIp, udpSrcPort ctx.data udp, udpDstPort ctx.data udp⟩ with
  | some state =>
      cases flag <;>
        simp only [processUdp, processUdpSnat, processUdpDnat, outcome, frameTuple, parsed,
          Option.map_some, found] <;>
        exact ⟨rfl, rfl⟩
  | none =>
      cases opened : newFlow flag kernel maps ctx <;> cases flag <;>
        simp only [outcome, frameTuple, parsed, Option.map_some, found, opened] <;>
        simp only [newFlow, parsed, Option.bind_some] at opened <;>
        simp only [processUdp, processUdpSnat, processUdpDnat, found, opened] <;>
        exact ⟨rfl, rfl⟩

theorem translation_eq :
    translation flag kernel maps ctx = (outcome flag kernel maps ctx).nat flag := by
  cases parsed : parseUdp ctx.data with
  | none => simp [translation, outcome, frameTuple, parsed, Outcome.nat]
  | some addresses =>
      simp only [translation, parsed, Option.bind_some]
      exact (processUdp_outcome _ _ parsed).1

theorem tryXdpRedirect_conntrack :
    (tryXdpRedirect kernel maps ctx flag).udpConntrack =
      (outcome flag kernel maps ctx).conntrack flag maps.udpConntrack kernel.ktimeGetCoarseNs := by
  cases parsed : parseUdp ctx.data with
  | none => simp [tryXdpRedirect, outcome, frameTuple, parsed, Outcome.conntrack]
  | some addresses =>
      obtain ⟨srcIp, dstIp⟩ := addresses
      rw [← (processUdp_outcome srcIp dstIp parsed).2]
      simp only [tryXdpRedirect, parsed]
      split <;> rfl

theorem outcome_hits (tuple : frameTuple ctx.data = some key)
    (found : maps.udpConntrack.get key = some state) :
    outcome flag kernel maps ctx = .hits key state := by
  simp only [outcome, tuple, found]

theorem outcome_cases (flag : Flags) (kernel : Kernel) (maps : Maps) (ctx : XdpContext) :
    outcome flag kernel maps ctx = .passes ∨
    (∃ key state, outcome flag kernel maps ctx = .hits key state ∧
      frameTuple ctx.data = some key ∧ maps.udpConntrack.get key = some state) ∨
    (∃ flow, outcome flag kernel maps ctx = .opens flow ∧
      newFlow flag kernel maps ctx = some flow ∧
      frameTuple ctx.data = some (flow.key flag) ∧
      maps.udpConntrack.get (flow.key flag) = none) := by
  unfold outcome
  split
  · exact Or.inl rfl
  · next key tuple =>
      split
      · next state found => exact Or.inr (Or.inl ⟨key, state, rfl, tuple, found⟩)
      · next missed =>
          split
          · exact Or.inl rfl
          · next flow opened =>
              have same : key = flow.key flag := by
                rw [newFlow_key opened] at tuple
                exact (Option.some.inj tuple).symm
              exact Or.inr (Or.inr ⟨flow, rfl, opened, tuple.trans (congrArg some same), same ▸ missed⟩)

/-- Where the NAT data of a translated frame comes from. -/
theorem translation_cases (translated : translation flag kernel maps ctx = some nat) :
    (∃ key state, outcome flag kernel maps ctx = .hits key state ∧
      frameTuple ctx.data = some key ∧ maps.udpConntrack.get key = some state ∧ state.nat = nat) ∨
    (∃ flow, outcome flag kernel maps ctx = .opens flow ∧
      newFlow flag kernel maps ctx = some flow ∧
      frameTuple ctx.data = some (flow.key flag) ∧
      maps.udpConntrack.get (flow.key flag) = none ∧ flow.nat flag = nat) := by
  rw [translation_eq] at translated
  rcases outcome_cases flag kernel maps ctx with
    passes | ⟨key, state, hits, tuple, found⟩ | ⟨flow, opens, opened, tuple, missed⟩
  · rw [passes] at translated
    cases translated
  · rw [hits] at translated
    exact Or.inl ⟨key, state, hits, tuple, found, Option.some.inj translated⟩
  · rw [opens] at translated
    exact Or.inr ⟨flow, opens, opened, tuple, missed, Option.some.inj translated⟩

theorem opens_spec (opens : outcome flag kernel maps ctx = .opens flow) :
    newFlow flag kernel maps ctx = some flow ∧ maps.udpConntrack.get (flow.key flag) = none := by
  rcases outcome_cases flag kernel maps ctx with
    passes | ⟨_, _, hits, _, _⟩ | ⟨other, opensOther, opened, _, missed⟩
  · cases passes.symm.trans opens
  · cases hits.symm.trans opens
  · cases opensOther.symm.trans opens
    exact ⟨opened, missed⟩

theorem hits_spec (hits : outcome flag kernel maps ctx = .hits key state) :
    frameTuple ctx.data = some key ∧ maps.udpConntrack.get key = some state := by
  rcases outcome_cases flag kernel maps ctx with
    passes | ⟨_, _, hitsOther, tuple, found⟩ | ⟨_, opens, _⟩
  · cases passes.symm.trans hits
  · cases hitsOther.symm.trans hits
    exact ⟨tuple, found⟩
  · cases opens.symm.trans hits

theorem outcome_missed (tuple : frameTuple ctx.data = some key)
    (missed : maps.udpConntrack.get key = none) :
    outcome flag kernel maps ctx =
      match newFlow flag kernel maps ctx with
      | none => .passes
      | some flow => .opens flow := by
  simp only [outcome, tuple, missed]

end Frame

section Refresh

variable {conntrack : Conntrack} {time : UInt64} {key reverse other : ConnectionTuple}
variable {state written : FlowState}

theorem refresh_cases (refreshed : refresh time state = some written) :
    (state.direction = .original ∧ written = { state with
      timeout := time + (if state.seenReply then timeoutEst else timeoutNew) }) ∨
    (state.direction = .reply ∧ written = { state with
      seenReply := true, timeout := time + timeoutEst }) := by
  obtain ⟨nat, direction, seenReply, timeout⟩ := state
  cases direction with
  | original =>
      simp only [refresh, Option.ite_none_right_eq_some, Option.some.injEq] at refreshed
      exact Or.inl ⟨rfl, refreshed.2.symm⟩
  | reply =>
      simp only [refresh, Option.ite_none_right_eq_some, Option.some.injEq] at refreshed
      exact Or.inr ⟨rfl, refreshed.2.symm⟩

theorem refresh_nat (refreshed : refresh time state = some written) : written.nat = state.nat := by
  rcases refresh_cases refreshed with ⟨_, rfl⟩ | ⟨_, rfl⟩ <;> rfl

theorem refresh_direction (refreshed : refresh time state = some written) :
    written.direction = state.direction := by
  rcases refresh_cases refreshed with ⟨_, rfl⟩ | ⟨_, rfl⟩ <;> rfl

def natAt (conntrack : Conntrack) (key : ConnectionTuple) : Option NATData :=
  (conntrack.get key).map FlowState.nat

theorem natAt_eq_some {nat : NATData} :
    natAt conntrack key = some nat ↔ ∃ state, conntrack.get key = some state ∧ state.nat = nat :=
  Option.map_eq_some_iff

theorem natAt_eq_none : natAt conntrack key = none ↔ conntrack.get key = none :=
  Option.map_eq_none_iff

/-- A hit rewrites timeouts and `seen_reply` only: no stored NAT data changes. -/
theorem natAt_touch (found : conntrack.get key = some state) :
    natAt (touch conntrack time key reverse state) other = natAt conntrack other := by
  unfold touch
  split
  · rfl
  · next written refreshed =>
      have first : natAt (conntrack.modify key fun _ => written) other = natAt conntrack other := by
        by_cases same : other = key
        · subst other
          rw [natAt, BoundedMap.get_modify_self, found, natAt, found]
          exact congrArg some (refresh_nat refreshed)
        · simp only [natAt, BoundedMap.get_modify_other same]
      rw [← first]
      by_cases same : other = reverse
      · subst other
        simp only [natAt, BoundedMap.get_modify_self, Option.map_map]
        rfl
      · simp only [natAt, BoundedMap.get_modify_other same]

theorem touch_unrefreshed (settled : refresh time state = none) :
    touch conntrack time key reverse state = conntrack := by
  simp only [touch, settled]

theorem refresh_changes (refreshed : refresh time state = some written) : written ≠ state := by
  obtain ⟨nat, direction, seenReply, timeout⟩ := state
  cases direction with
  | original =>
      simp only [refresh, Option.ite_none_right_eq_some, Option.some.injEq] at refreshed
      obtain ⟨⟨later, _⟩, rfl⟩ := refreshed
      intro same
      obtain ⟨_, _, _, kept⟩ := FlowState.mk.inj same
      rw [kept] at later
      exact UInt64.lt_irrefl _ later
  | reply =>
      simp only [refresh, Option.ite_none_right_eq_some, Option.some.injEq] at refreshed
      obtain ⟨due, rfl⟩ := refreshed
      intro same
      obtain ⟨_, _, seen, kept⟩ := FlowState.mk.inj same
      rcases due with unseen | ⟨later, _⟩
      · rw [← seen] at unseen
        cases unseen
      · rw [kept] at later
        exact UInt64.lt_irrefl _ later

/-- The frame's own entry holds what was written, also where the reverse key is
the key itself. -/
theorem get_touch_key (found : conntrack.get key = some state)
    (refreshed : refresh time state = some written) :
    (touch conntrack time key reverse state).get key = some written := by
  simp only [touch, refreshed]
  by_cases same : key = reverse
  · subst same
    rw [BoundedMap.get_modify_self, BoundedMap.get_modify_self, found]
    rfl
  · rw [BoundedMap.get_modify_other same, BoundedMap.get_modify_self, found]
    rfl

theorem touch_eq_self_iff (found : conntrack.get key = some state) :
    touch conntrack time key reverse state = conntrack ↔ refresh time state = none := by
  constructor
  · intro same
    cases refreshed : refresh time state with
    | none => rfl
    | some written =>
        have stored : (touch conntrack time key reverse state).get key = some written :=
          get_touch_key found refreshed
        rw [same, found] at stored
        exact absurd (Option.some.inj stored).symm (refresh_changes refreshed)
  · exact touch_unrefreshed

theorem size_touch : (touch conntrack time key reverse state).size = conntrack.size := by
  unfold touch
  split
  · rfl
  · rw [BoundedMap.size_modify, BoundedMap.size_modify]

theorem get_touch_other (notKey : other ≠ key) (notReverse : other ≠ reverse) :
    (touch conntrack time key reverse state).get other = conntrack.get other := by
  unfold touch
  split
  · rfl
  · rw [BoundedMap.get_modify_other notReverse, BoundedMap.get_modify_other notKey]

theorem get_touch (found : conntrack.get key = some state) (different : reverse ≠ key)
    (refreshed : refresh time state = some written) :
    (touch conntrack time key reverse state).get key = some written ∧
      (touch conntrack time key reverse state).get reverse =
        (conntrack.get reverse).map (copyToReverse written) := by
  simp only [touch, refreshed]
  constructor
  · rw [BoundedMap.get_modify_other different.symm, BoundedMap.get_modify_self, found]
    rfl
  · rw [BoundedMap.get_modify_self, BoundedMap.get_modify_other different]

end Refresh

section Record

variable {conntrack : Conntrack} {time : UInt64} {origKey replyKey other : ConnectionTuple}
variable {origNat replyNat nat : NATData} {state : FlowState}

theorem record_present (present : conntrack.get other = some state) :
    (record conntrack time origKey origNat replyKey replyNat).get other = some state :=
  BoundedMap.get_tryInsert_present (BoundedMap.get_tryInsert_present present)

/-- Whatever is in the table after a flow was recorded was there before, or is
one of the two entries of the flow under a key that was free. -/
theorem record_cases
    (found : (record conntrack time origKey origNat replyKey replyNat).get other = some state) :
    conntrack.get other = some state ∨
    (conntrack.get other = none ∧
      ((other = origKey ∧ state = .new origNat .original (time + timeoutNew)) ∨
       (other = replyKey ∧ state = .new replyNat .reply (time + timeoutNew)))) := by
  rcases BoundedMap.get_tryInsert_cases found with earlier | ⟨rfl, rfl, accepts⟩
  · rcases BoundedMap.get_tryInsert_cases earlier with before | ⟨rfl, rfl, accepts⟩
    · exact Or.inl before
    · exact Or.inr ⟨accepts.1, Or.inl ⟨rfl, rfl⟩⟩
  · refine Or.inr ⟨?_, Or.inr ⟨rfl, rfl⟩⟩
    cases before : conntrack.get other with
    | none => rfl
    | some old =>
        have kept : (conntrack.tryInsert origKey (.new origNat .original (time + timeoutNew))).get
            other = some old := BoundedMap.get_tryInsert_present before
        rw [accepts.1] at kept
        cases kept

theorem size_le_record :
    conntrack.size ≤ (record conntrack time origKey origNat replyKey replyNat).size :=
  BoundedMap.size_le_tryInsert.trans BoundedMap.size_le_tryInsert

theorem size_record_le :
    (record conntrack time origKey origNat replyKey replyNat).size ≤ conntrack.size + 2 :=
  BoundedMap.size_tryInsert_le.trans (Nat.succ_le_succ BoundedMap.size_tryInsert_le)

theorem get_record_other (notOrig : other ≠ origKey) (notReply : other ≠ replyKey) :
    (record conntrack time origKey origNat replyKey replyNat).get other = conntrack.get other :=
  (BoundedMap.get_tryInsert_other notReply).trans (BoundedMap.get_tryInsert_other notOrig)

theorem record_full (full : ¬ conntrack.size < 65536) :
    record conntrack time origKey origNat replyKey replyNat = conntrack := by
  dsimp only [record]
  rw [BoundedMap.tryInsert_refused (fun accepts => full accepts.2),
    BoundedMap.tryInsert_refused (fun accepts => full accepts.2)]

theorem record_forward (missed : conntrack.get origKey = none) (room : conntrack.size < 65536) :
    (record conntrack time origKey origNat replyKey replyNat).get origKey =
      some (.new origNat .original (time + timeoutNew)) :=
  BoundedMap.get_tryInsert_present (BoundedMap.get_tryInsert_self ⟨missed, room⟩)

theorem record_eq_self_iff (missed : conntrack.get origKey = none) :
    record conntrack time origKey origNat replyKey replyNat = conntrack ↔
      ¬ conntrack.size < 65536 := by
  constructor
  · intro same room
    have stored : (record conntrack time origKey origNat replyKey replyNat).get origKey = _ :=
      record_forward missed room
    rw [same, missed] at stored
    cases stored
  · exact record_full

theorem record_backward (missed : conntrack.get origKey = none)
    (free : conntrack.get replyKey = none) (different : replyKey ≠ origKey)
    (room : conntrack.size + 1 < 65536) :
    (record conntrack time origKey origNat replyKey replyNat).get replyKey =
      some (.new replyNat .reply (time + timeoutNew)) := by
  refine BoundedMap.get_tryInsert_self ⟨?_, ?_⟩
  · rw [BoundedMap.get_tryInsert_other different, free]
  · rwa [BoundedMap.size_tryInsert_accepted ⟨missed, Nat.lt_of_succ_lt room⟩]

theorem record_refused (different : replyKey ≠ origKey)
    (refused : ¬ (conntrack.tryInsert origKey
      (.new origNat .original (time + timeoutNew))).Accepts replyKey) :
    (record conntrack time origKey origNat replyKey replyNat).get replyKey = conntrack.get replyKey := by
  dsimp only [record]
  rw [BoundedMap.tryInsert_refused refused, BoundedMap.get_tryInsert_other different]

theorem record_no_slot (missed : conntrack.get origKey = none) (different : replyKey ≠ origKey)
    (room : conntrack.size < 65536) (short : ¬ conntrack.size + 1 < 65536) :
    (record conntrack time origKey origNat replyKey replyNat).get replyKey = conntrack.get replyKey := by
  refine record_refused different fun accepts => short ?_
  rw [← BoundedMap.size_tryInsert_accepted ⟨missed, room⟩]
  exact accepts.2

theorem get_record (forward : conntrack.Accepts origKey)
    (backward : (conntrack.tryInsert origKey
      (.new origNat .original (time + timeoutNew))).Accepts replyKey) :
    (record conntrack time origKey origNat replyKey replyNat).get origKey =
        some (.new origNat .original (time + timeoutNew)) ∧
      (record conntrack time origKey origNat replyKey replyNat).get replyKey =
        some (.new replyNat .reply (time + timeoutNew)) :=
  ⟨BoundedMap.get_tryInsert_present (BoundedMap.get_tryInsert_self forward),
    BoundedMap.get_tryInsert_self backward⟩

theorem record_room (missed : conntrack.get origKey = none)
    (room : (record conntrack time origKey origNat replyKey replyNat).size < 65536) :
    conntrack.size + 1 < 65536 := by
  have slot : conntrack.size < 65536 := size_le_record.trans_lt room
  rw [← BoundedMap.size_tryInsert_accepted ⟨missed, slot⟩]
  exact BoundedMap.size_le_tryInsert.trans_lt room

end Record

section Table

variable {flag : Flags} {kernel : Kernel} {maps : Maps} {ctx : XdpContext}
variable {key : ConnectionTuple} {nat : NATData}

theorem natAt_kept (stored : natAt maps.udpConntrack key = some nat) :
    natAt (tryXdpRedirect kernel maps ctx flag).udpConntrack key = some nat := by
  rw [tryXdpRedirect_conntrack]
  rcases outcome_cases flag kernel maps ctx with
    passes | ⟨hitKey, state, hits, _, found⟩ | ⟨flow, opens, _, _, _⟩
  · rw [passes]
    exact stored
  · rw [hits]
    exact (natAt_touch found).trans stored
  · rw [opens]
    obtain ⟨state, found, rfl⟩ := natAt_eq_some.mp stored
    exact natAt_eq_some.mpr ⟨state, record_present found, rfl⟩

/-- NAT data that a frame brought into the table belongs to the flow that the
frame opened. -/
theorem natAt_new (stored : natAt (tryXdpRedirect kernel maps ctx flag).udpConntrack key = some nat) :
    natAt maps.udpConntrack key = some nat ∨
    (natAt maps.udpConntrack key = none ∧
      ∃ flow side, outcome flag kernel maps ctx = .opens flow ∧
        newFlow flag kernel maps ctx = some flow ∧
        key = flow.key side ∧ nat = flow.nat side) := by
  rw [tryXdpRedirect_conntrack] at stored
  rcases outcome_cases flag kernel maps ctx with
    passes | ⟨hitKey, state, hits, _, found⟩ | ⟨flow, opens, opened, _, _⟩
  · rw [passes] at stored
    exact Or.inl stored
  · rw [hits] at stored
    exact Or.inl ((natAt_touch found).symm.trans stored)
  · rw [opens] at stored
    obtain ⟨state, found, rfl⟩ := natAt_eq_some.mp stored
    rcases record_cases found with before | ⟨absent, ⟨rfl, rfl⟩ | ⟨rfl, rfl⟩⟩
    · exact Or.inl (natAt_eq_some.mpr ⟨state, before, rfl⟩)
    · exact Or.inr ⟨natAt_eq_none.mpr absent, flow, flag, opens, opened, rfl, rfl⟩
    · exact Or.inr ⟨natAt_eq_none.mpr absent, flow, flag.other, opens, opened, rfl, rfl⟩

theorem translation_of_natAt (tuple : frameTuple ctx.data = some key)
    (stored : natAt maps.udpConntrack key = some nat) :
    translation flag kernel maps ctx = some nat := by
  obtain ⟨state, found, rfl⟩ := natAt_eq_some.mp stored
  rw [translation_eq, outcome_hits tuple found]
  rfl

theorem opens_conntrack {flow : NewFlow} (opens : outcome flag kernel maps ctx = .opens flow) :
    (tryXdpRedirect kernel maps ctx flag).udpConntrack =
      record maps.udpConntrack kernel.ktimeGetCoarseNs (flow.key flag) (flow.nat flag)
        (flow.key flag.other) (flow.nat flag.other) := by
  rw [tryXdpRedirect_conntrack, opens]
  rfl

/-- In a table that stays short of full, the NAT data of a translated frame is
stored under the tuple of the frame. -/
theorem natAt_of_translation (tuple : frameTuple ctx.data = some key)
    (translated : translation flag kernel maps ctx = some nat)
    (room : (tryXdpRedirect kernel maps ctx flag).udpConntrack.size < 65536) :
    natAt (tryXdpRedirect kernel maps ctx flag).udpConntrack key = some nat := by
  rcases translation_cases translated with
    ⟨hitKey, state, hits, hitTuple, found, sameNat⟩ | ⟨flow, opens, _, flowTuple, missed, rfl⟩
  · cases hitTuple.symm.trans tuple
    exact natAt_kept (natAt_eq_some.mpr ⟨state, found, sameNat⟩)
  · cases flowTuple.symm.trans tuple
    rw [opens_conntrack opens] at room ⊢
    exact natAt_eq_some.mpr ⟨_, record_forward missed (size_le_record.trans_lt room), rfl⟩

end Table

end XdpNatd.Ebpf
