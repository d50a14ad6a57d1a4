import XdpNatd.Conntrack.Pairing
import XdpNatd.Conntrack.Timeouts
import XdpNatd.Data.Filing

namespace XdpNatd

open XdpNatd.Data XdpNatd.Ebpf XdpNatd.Daemon

/-! # The table as a set of flows

What the translator is for can be said without a table.  It knows a set of flows.
A flow has an end on either side, was opened from one of them, and runs out once
neither end has sent for a while; the wait is longer after the other end has
answered.  A frame of a flow is translated with the data of its end and keeps the
flow alive, any other frame may open a flow, and a tick of the clock drops the
flows that have run out.

Runs whose insertions succeed do exactly this, with two entries for each flow.
-/

structure Flow where
  ends : NewFlow
  initiator : Flags
  seenReply : Bool
  timeout : UInt64

namespace Flow

variable {flow : Flow} {side : Flags} {time : UInt64}

def opened (ends : NewFlow) (initiator : Flags) (time : UInt64) : Flow :=
  { ends, initiator, seenReply := false, timeout := time + timeoutNew }

/-- Whether both ends have sent, once this side has. -/
def answeredBy (flow : Flow) (side : Flags) : Bool := flow.seenReply || side ≠ flow.initiator

/-- The flow after a frame of it, which is noted if it says something new or puts
the end of the flow off by more than the threshold. -/
def follow (side : Flags) (time : UInt64) (flow : Flow) : Flow :=
  if flow.answeredBy side ≠ flow.seenReply ∨ flow.timeout.toNat + thresholdNs.toNat <
      time.toNat + (lifetime (flow.answeredBy side)).toNat then
    { flow with
      seenReply := flow.answeredBy side
      timeout := time + lifetime (flow.answeredBy side) }
  else flow

@[simp] theorem follow_ends : (flow.follow side time).ends = flow.ends := by
  unfold follow
  split <;> rfl

end Flow

/-- What happens to a translator: a frame of a side, with the flow that it would
open, or a tick of the clock. -/
inductive Happening where
  | arrives (side : Flags) (key : ConnectionTuple) (time : UInt64) (offer : Option NewFlow)
  | ticks (now : UInt64)
  | silent

/-- The flows known next. -/
def flowsAfter (flows : Set Flow) : Happening → Set Flow
  | .arrives side key time offer =>
      (fun flow => if flow.ends.key side = key then flow.follow side time else flow) '' flows ∪
        {flow | (∀ known ∈ flows, known.ends.key side ≠ key) ∧
          ∃ ends ∈ offer, flow = .opened ends side time}
  | .ticks now => flows ∩ {flow | now < flow.timeout}
  | .silent => flows

/-- How a frame is translated: with the data of the flow it belongs to, or of the
flow that it opens. -/
def Translates (flows : Set Flow) (side : Flags) (key : ConnectionTuple) (offer : Option NewFlow)
    (nat : NATData) : Prop :=
  (∃ flow ∈ flows, flow.ends.key side = key ∧ flow.ends.nat side = nat) ∨
    ((∀ flow ∈ flows, flow.ends.key side ≠ key) ∧ ∃ ends ∈ offer, ends.nat side = nat)

def System.happening (system : System) : Event → Happening
  | .frame flag ctx kernel =>
      match frameTuple ctx.data with
      | none => .silent
      | some key => .arrives flag key kernel.ktimeGetCoarseNs (newFlow flag kernel system.maps ctx)
  | .sweepAtOnce now => .ticks now
  | _ => .silent

def happenings (start : System) (events : List Event) : List Happening :=
  trace System.step (fun system event => [system.happening event]) start events

/-- Two entries a flow: each under the key of its side, alike but for the
direction and the NAT data. -/
def flowFiling : Filing ConnectionTuple FlowState Flags Flow where
  key flow side := flow.ends.key side
  entry flow side :=
    { nat := flow.ends.nat side
      direction := if side = flow.initiator then .original else .reply
      seenReply := flow.seenReply
      timeout := flow.timeout }

variable {inside : Set UInt32} {system start : System} {event : Event} {events : List Event}
variable {flag side : Flags} {ctx : XdpContext} {kernel : Kernel} {key : ConnectionTuple}
variable {flows : Set Flow} {flow : Flow} {time : UInt64} {ends : NewFlow} {state : FlowState}

theorem happening_frame (tuple : frameTuple ctx.data = some key) :
    system.happening (.frame side ctx kernel) =
      .arrives side key kernel.ktimeGetCoarseNs (newFlow side kernel system.maps ctx) := by
  simp only [System.happening, tuple]

theorem happening_untracked (untracked : frameTuple ctx.data = none) :
    system.happening (.frame side ctx kernel) = .silent := by
  simp only [System.happening, untracked]

theorem flowsAfter_known {offer : Option NewFlow} (member : flow ∈ flows) :
    flowsAfter flows (.arrives side (flow.ends.key side) time offer) =
      (fun other => if other.ends.key side = flow.ends.key side then other.follow side time else other)
        '' flows :=
  Set.union_eq_self_of_subset_right fun _ new => absurd rfl (new.1 flow member)

theorem flowsAfter_unknown {offer : Option NewFlow} (nowhere : ∀ flow ∈ flows, flow.ends.key side ≠ key) :
    flowsAfter flows (.arrives side key time offer) =
      flows ∪ {flow | ∃ ends ∈ offer, flow = .opened ends side time} := by
  have unchanged : (fun flow : Flow => if flow.ends.key side = key then flow.follow side time else flow)
      '' flows = flows := by
    refine (Set.image_congr fun flow member => ?_).trans (Set.image_id flows)
    rw [if_neg (nowhere flow member), id]
  simp only [flowsAfter, unchanged, and_iff_right nowhere]

theorem entry_answered : (flowFiling.entry flow side).answered = flow.answeredBy side := by
  by_cases own : side = flow.initiator <;>
    simp [flowFiling, FlowState.answered, Flow.answeredBy, own]

/-- A hit on one entry and the copy that the other one gets are the two entries
of the flow that was followed. -/
theorem entry_follow (due : Due time (flowFiling.entry flow side)) :
    renewed time (flowFiling.entry flow side) = flowFiling.entry (flow.follow side time) side ∧
      copyToReverse (renewed time (flowFiling.entry flow side))
        (flowFiling.entry flow side.other) =
          flowFiling.entry (flow.follow side time) side.other := by
  have noted : flow.follow side time = { flow with
      seenReply := flow.answeredBy side
      timeout := time + lifetime (flow.answeredBy side) } := by
    rw [Due, entry_answered] at due
    exact if_pos due
  rw [renewed, entry_answered, noted]
  exact ⟨rfl, rfl⟩

theorem follow_of_not_due (settled : ¬ Due time (flowFiling.entry flow side)) :
    flow.follow side time = flow := by
  rw [Due, entry_answered] at settled
  exact if_neg settled

theorem entry_opened_self :
    flowFiling.entry (.opened ends side time) side =
      .new (ends.nat side) .original (time + timeoutNew) := by
  simp [flowFiling, Flow.opened, FlowState.new]

theorem entry_opened_other :
    flowFiling.entry (.opened ends side time) side.other =
      .new (ends.nat side.other) .reply (time + timeoutNew) := by
  cases side <;> rfl

/-- The table files the flows, each end under a key of its side. -/
structure System.Files (inside : Set UInt32) (flows : Set Flow) (system : System) : Prop where
  represents : flowFiling.Represents flows system.udpConntrack.get
  sides : ∀ flow ∈ flows, ∀ side, OnSide inside (flow.ends.key side) side
  exposes : ExposesInto inside system.exposeMap

/-- The program of a side finds a flow exactly when the flow has the tuple as
the key of this side. -/
theorem System.Files.found_iff (files : system.Files inside flows) (keySide : OnSide inside key side) :
    system.udpConntrack.get key = some state ↔
      ∃ flow ∈ flows, flow.ends.key side = key ∧ flowFiling.entry flow side = state := by
  rw [files.represents.lookup_iff]
  constructor
  · intro stored
    obtain ⟨flow, member, filed, rfl, entry⟩ := stored
    cases onSide_unique (files.sides flow member filed) keySide
    exact ⟨flow, member, rfl, entry⟩
  · intro known
    obtain ⟨flow, member, under, entry⟩ := known
    exact ⟨flow, member, side, under, entry⟩

theorem System.Files.missed_iff (files : system.Files inside flows) (keySide : OnSide inside key side) :
    system.udpConntrack.get key = none ↔ ∀ flow ∈ flows, flow.ends.key side ≠ key := by
  rw [Option.eq_none_iff_forall_ne_some]
  constructor
  · intro missed flow member under
    exact missed _ ((files.found_iff keySide).mpr ⟨flow, member, under, rfl⟩)
  · intro nowhere state stored
    obtain ⟨flow, member, under, _⟩ := (files.found_iff keySide).mp stored
    exact nowhere flow member under

theorem System.Files.translation_iff {nat : NATData} (files : system.Files inside flows)
    (keySide : OnSide inside key side) (tuple : frameTuple ctx.data = some key) :
    translation side kernel system.maps ctx = some nat ↔
      Translates flows side key (newFlow side kernel system.maps ctx) nat := by
  cases stored : system.udpConntrack.get key with
  | some state =>
      obtain ⟨flow, member, rfl, rfl⟩ := (files.found_iff keySide).mp stored
      have own : translation side kernel system.maps ctx = some (flow.ends.nat side) := by
        rw [translation_eq, outcome_hits tuple stored]
        rfl
      rw [own, Option.some.injEq]
      constructor
      · intro same
        exact Or.inl ⟨flow, member, rfl, same⟩
      · intro translates
        rcases translates with ⟨other, known, meet, same⟩ | ⟨nowhere, _⟩
        · obtain ⟨rfl, _⟩ := files.represents.apart other known flow member side side meet
          exact same
        · exact absurd rfl (nowhere flow member)
  | none =>
      have nowhere := (files.missed_iff keySide).mp stored
      rw [translation_eq, outcome_missed tuple stored]
      constructor
      · intro translated
        cases offered : newFlow side kernel system.maps ctx with
        | none =>
            rw [offered] at translated
            cases translated
        | some ends =>
            rw [offered] at translated
            exact Or.inr ⟨nowhere, ends, rfl, Option.some.inj translated⟩
      · intro translates
        rcases translates with ⟨flow, member, under, _⟩ | ⟨_, ends, offered, rfl⟩
        · exact absurd under (nowhere flow member)
        · rw [Option.mem_def.mp offered]
          rfl

/-- A frame of a known flow rewrites the entries of the flow and no other. -/
theorem get_step_follow (files : system.Files inside flows) (member : flow ∈ flows)
    (fits : Fits kernel.ktimeGetCoarseNs)
    (hits : outcome side kernel system.maps ctx =
      .hits (flow.ends.key side) (flowFiling.entry flow side)) :
    (∀ filed, (system.step (.frame side ctx kernel)).udpConntrack.get (flow.ends.key filed) =
      some (flowFiling.entry (flow.follow side kernel.ktimeGetCoarseNs) filed)) ∧
    (∀ key, (∀ filed, key ≠ flow.ends.key filed) →
      (system.step (.frame side ctx kernel)).udpConntrack.get key = system.udpConntrack.get key) := by
  have stored (filed : Flags) :
      system.udpConntrack.get (flow.ends.key filed) = some (flowFiling.entry flow filed) :=
    files.represents.found member filed
  have reverse : reverseKey side (flow.ends.key side) (flowFiling.entry flow side).nat =
      flow.ends.key side.other := flow.ends.reverseKey_key side
  have lookup := get_step_hit fits hits
  rw [reverse] at lookup
  constructor
  · intro filed
    rw [lookup, stored filed]
    by_cases due : Due kernel.ktimeGetCoarseNs (flowFiling.entry flow side)
    · obtain ⟨hit, copy⟩ := entry_follow due
      rw [if_pos due]
      rcases Flags.eq_or_other filed side with own | opposite
      · rw [own, if_pos rfl, hit]
      · have different : flow.ends.key side.other ≠ flow.ends.key side := by
          intro meet
          obtain ⟨_, same⟩ := files.represents.apart flow member flow member side.other side meet
          cases side <;> cases same
        rw [opposite, if_neg different, if_pos rfl, Option.map_some, copy]
    · rw [if_neg due, follow_of_not_due due]
  · intro key apart
    rw [lookup, if_neg (apart side), if_neg (apart side.other), ite_self]

theorem represents_hit (files : system.Files inside flows) (member : flow ∈ flows)
    (fits : Fits kernel.ktimeGetCoarseNs)
    (hits : outcome side kernel system.maps ctx =
      .hits (flow.ends.key side) (flowFiling.entry flow side)) :
    flowFiling.Represents
      ((fun other => if other.ends.key side = flow.ends.key side
        then other.follow side kernel.ktimeGetCoarseNs else other) '' flows)
      (system.step (.frame side ctx kernel)).udpConntrack.get := by
  obtain ⟨followed, elsewhere⟩ := get_step_follow files member fits hits
  refine files.represents.update ?_ ?_ ?_
  · intro other filed
    simp only [flowFiling]
    split <;> simp
  · intro other known filed
    by_cases own : other.ends.key side = flow.ends.key side
    · obtain ⟨same, _⟩ := files.represents.apart other known flow member side side own
      rw [if_pos own, same]
      exact followed filed
    · have apart : ∀ facing, flowFiling.key other filed ≠ flow.ends.key facing := by
        intro facing meet
        obtain ⟨same, _⟩ := files.represents.apart other known flow member filed facing meet
        exact own (by rw [same])
      rw [if_neg own, elsewhere _ apart]
      exact files.represents.found known filed
  · intro free missed
    rw [elsewhere free, missed]
    intro filed same
    exact files.represents.missed_iff.mp missed flow member filed same.symm

/-- A frame that opens a flow. -/
theorem represents_open (files : system.Files inside flows)
    (orderly : Event.Orderly inside system (.frame side ctx kernel))
    (opens : outcome side kernel system.maps ctx = .opens ends) :
    flowFiling.Represents (insert (.opened ends side kernel.ktimeGetCoarseNs) flows)
      (system.step (.frame side ctx kernel)).udpConntrack.get := by
  have sides := orderly.newFlow_side files.exposes (opens_spec opens).1
  obtain ⟨forward, backward⟩ := orderly.opened opens
  refine files.represents.insert ?_ ?_ ?_ ?_
  · intro left right meet
    have rightSide : OnSide inside (ends.key left) right := by
      change ends.key left = ends.key right at meet
      rw [meet]
      exact sides right
    exact onSide_unique (sides left) rightSide
  · exact orderly.absent opens
  · intro filed
    rcases Flags.eq_or_other filed side with rfl | rfl
    · rw [entry_opened_self]
      exact forward
    · rw [entry_opened_other]
      exact backward
  · intro other apart
    rw [step_opens_conntrack opens]
    exact get_record_other (apart side) (apart side.other)

theorem represents_frame (files : system.Files inside flows)
    (orderly : Event.Orderly inside system (.frame side ctx kernel))
    (fits : Fits kernel.ktimeGetCoarseNs) :
    flowFiling.Represents (flowsAfter flows (system.happening (.frame side ctx kernel)))
      (system.step (.frame side ctx kernel)).udpConntrack.get := by
  cases tuple : frameTuple ctx.data with
  | none =>
      have passes : outcome side kernel system.maps ctx = .passes := by simp only [outcome, tuple]
      rw [happening_untracked tuple, get_step_passes passes]
      exact files.represents
  | some key =>
      have keySide : OnSide inside key side := orderly.sent key tuple
      rw [happening_frame tuple]
      cases stored : system.udpConntrack.get key with
      | some state =>
          obtain ⟨flow, member, rfl, rfl⟩ := (files.found_iff keySide).mp stored
          rw [flowsAfter_known member]
          exact represents_hit files member fits (outcome_hits tuple stored)
      | none =>
          have missed : system.maps.udpConntrack.get key = none := stored
          have outcome := @outcome_missed side kernel system.maps ctx key tuple missed
          rw [flowsAfter_unknown ((files.missed_iff keySide).mp stored)]
          cases offered : newFlow side kernel system.maps ctx with
          | none =>
              rw [offered] at outcome
              rw [get_step_passes outcome]
              simpa using files.represents
          | some ends =>
              rw [offered] at outcome
              have opened := represents_open files orderly outcome
              rw [Set.insert_eq, Set.union_comm] at opened
              simpa using opened

/-- Where a flow comes from that is known after an event. -/
theorem flowsAfter_cases (member : flow ∈ flowsAfter flows (system.happening event)) :
    (∃ earlier ∈ flows, flow.ends = earlier.ends) ∨
      ∃ flag ctx kernel, event = .frame flag ctx kernel ∧
        newFlow flag kernel system.maps ctx = some flow.ends := by
  cases event with
  | frame flag ctx kernel =>
      cases tuple : frameTuple ctx.data with
      | none =>
          rw [happening_untracked tuple] at member
          exact Or.inl ⟨flow, member, rfl⟩
      | some key =>
          rw [happening_frame tuple] at member
          rcases member with ⟨earlier, known, rfl⟩ | ⟨_, ends, offered, rfl⟩
          · refine Or.inl ⟨earlier, known, ?_⟩
            dsimp only
            split
            · exact Flow.follow_ends
            · rfl
          · exact Or.inr ⟨flag, ctx, kernel, rfl, offered⟩
  | sweepAtOnce now => exact Or.inl ⟨flow, member.1, rfl⟩
  | exposePort | unexposePort | writeExposeMap | writePnic | removeNext | beginSweep | examine
  | endScan => exact Or.inl ⟨flow, member, rfl⟩

theorem represents_sweepAtOnce (now : UInt64) (files : system.Files inside flows) :
    flowFiling.Represents (flows ∩ {flow | now < flow.timeout})
      (sweepAtOnce system.udpConntrack now).get := by
  have kept := files.represents.retain (fun state => !expired state now) {flow | now < flow.timeout} ?_
  · simp only [← BoundedMap.get_retain] at kept
    exact kept
  · intro flow _ side
    rw [Bool.not_eq_true']
    exact decide_eq_false_iff_not.trans UInt64.not_le

theorem System.Files.step (files : system.Files inside flows) (orderly : event.Orderly inside system)
    (whole : event.SweepsWhole) (fits : event.TimesFit) :
    (system.step event).Files inside (flowsAfter flows (system.happening event)) where
  represents := by
    cases event with
    | frame side ctx kernel => exact represents_frame files orderly (fits _ rfl)
    | sweepAtOnce now => exact represents_sweepAtOnce now files
    | removeNext => exact whole.elim
    | exposePort | unexposePort | writeExposeMap | writePnic | beginSweep | examine | endScan =>
        exact files.represents
  sides := by
    intro flow member side
    rcases flowsAfter_cases member with ⟨earlier, known, same⟩ | ⟨flag, ctx, kernel, rfl, opened⟩
    · rw [same]
      exact files.sides earlier known side
    · exact orderly.newFlow_side files.exposes opened side
  exposes := files.exposes.step orderly.writes

/-- A step of the runs in which every insertion succeeds, a sweep is one step and
the clock readings stay clear of an overflow. -/
structure Event.Whole (inside : Set UInt32) (system : System) (event : Event) : Prop where
  orderly : event.Orderly inside system
  sweeps : event.SweepsWhole
  fits : event.TimesFit

instance (inside : Set UInt32) [DecidablePred (· ∈ inside)] (system : System) :
    DecidablePred (Event.Whole inside system) := fun event =>
  decidable_of_iff (event.Orderly inside system ∧ event.SweepsWhole ∧ event.TimesFit)
    ⟨fun ⟨orderly, sweeps, fits⟩ => ⟨orderly, sweeps, fits⟩,
      fun whole => ⟨whole.orderly, whole.sweeps, whole.fits⟩⟩

theorem files_run (empty : start.udpConntrack = .empty) (exposes : ExposesInto inside start.exposeMap)
    (guarded : Guarded System.step (fun system event => event.Whole inside system) start events) :
    (run System.step start events).Files inside (run flowsAfter ∅ (happenings start events)) := by
  have initial : start.Files inside ∅ := by
    refine ⟨.empty fun key => ?_, fun flow member => member.elim, exposes⟩
    rw [empty, BoundedMap.get_empty]
  have preserved : ∀ (told : List Happening) (system : System) (event : Event),
      system.Files inside (run flowsAfter ∅ told) → event.Whole inside system →
      (system.step event).Files inside (run flowsAfter ∅ (told ++ [system.happening event])) := by
    intro told system event files whole
    rw [run_append]
    exact files.step whole.orderly whole.sweeps whole.fits
  exact @Guarded.traced _ _ _ _ _ _ _ _
    (fun told system => system.Files inside (run flowsAfter ∅ told)) initial preserved guarded

/-- In every run whose insertions succeed and whose sweeps are single steps, the
table is the filing of the flows that a translator knows after the same frames
and ticks, and both programs translate the next frame as the translator does. -/
theorem conntrack_refines_flows (empty : start.udpConntrack = .empty)
    (exposes : ExposesInto inside start.exposeMap)
    (guarded : Guarded System.step (fun system event => event.Whole inside system) start events) :
    let system := run System.step start events
    let flows := run flowsAfter ∅ (happenings start events)
    flowFiling.Represents flows system.udpConntrack.get ∧
    ∀ flag ctx kernel key nat, Event.SentFromOwnSide inside (.frame flag ctx kernel) →
      frameTuple ctx.data = some key →
      (translation flag kernel system.maps ctx = some nat ↔
        Translates flows flag key (newFlow flag kernel system.maps ctx) nat) := by
  have files := files_run empty exposes guarded
  refine ⟨files.represents, ?_⟩
  intro flag ctx kernel key nat sent tuple
  exact files.translation_iff (sent key tuple) tuple

open Testbed in
theorem answer_of_node_b_translates_as_flow :
    let events := twoFlows ++ [.sweepAtOnce 2]
    let system := run System.step exposing events
    let answer := fromContainer 20 ⟨nodeB, remote, 5201, 7000⟩ 0x1234
    translation .snat (kernelAt 3) system.maps answer =
        some ⟨hostIp, 10000, ⟨hostMac, gatewayMac⟩, 0⟩ ↔
      Translates (run flowsAfter ∅ (happenings exposing events)) .snat ⟨nodeB, remote, 5201, 7000⟩
        (newFlow .snat (kernelAt 3) system.maps answer) ⟨hostIp, 10000, ⟨hostMac, gatewayMac⟩, 0⟩ :=
  (@conntrack_refines_flows exposing.containers.addresses exposing _ rfl
    exposing_exposesContainers.exposesInto (by decide +kernel)).2 .snat _ (kernelAt 3) _ _
    (by decide +kernel) (frameTuple_fromContainer _ _ _)

instance : Fintype Flags := ⟨{.snat, .dnat}, fun side => by cases side <;> decide⟩

theorem System.Files.size (files : system.Files inside flows) :
    system.udpConntrack.size = flows.ncard * 2 := by
  have used : ∀ key, key ∈ system.udpConntrack.keys ↔ (system.udpConntrack.get key).isSome := by
    intro key
    rw [BoundedMap.mem_keys, Option.isSome_iff_exists]
  exact files.represents.card_keys used

theorem System.Files.inserts_iff (files : system.Files inside flows)
    (sided : Event.Sided inside (.frame flag ctx kernel)) :
    Event.InsertsSucceed system (.frame flag ctx kernel) ↔
      ∀ ends ∈ newFlow flag kernel system.maps ctx,
        (∀ flow ∈ flows, flow.ends.key flag ≠ ends.key flag) →
          flows.ncard < 32768 ∧ ∀ flow ∈ flows, flow.ends.key flag.other ≠ ends.key flag.other := by
  refine forall₂_congr fun ends opened => ?_
  have sides := @Event.Sided.newFlow_side inside flag ctx kernel system.maps ends sided files.exposes opened
  have different : ends.key flag.other ≠ ends.key flag := fun same =>
    onSide_other.mp (same ▸ sides flag.other) (sides flag)
  have size := files.size
  rw [← files.missed_iff (sides flag), ← files.missed_iff (sides flag.other)]
  refine forall_congr' fun missed => ?_
  constructor
  · intro both
    obtain ⟨forward, backward⟩ := both
    have short := backward.2
    rw [BoundedMap.size_tryInsert_accepted forward] at short
    refine ⟨by omega, ?_⟩
    rw [← backward.1, BoundedMap.get_tryInsert_other different]
  · intro both
    obtain ⟨room, free⟩ := both
    have forward : system.udpConntrack.Accepts (ends.key flag) := ⟨missed, by omega⟩
    refine ⟨forward, ?_, ?_⟩
    · rw [BoundedMap.get_tryInsert_other different, free]
    · rw [BoundedMap.size_tryInsert_accepted forward]
      omega

/-- The table of such a run has two slots in use for each flow. It takes a new flow
exactly when fewer than 32768 are known and none of these has the new flow's key
for the answers. -/
theorem conntrack_room_for_flows (empty : start.udpConntrack = .empty)
    (exposes : ExposesInto inside start.exposeMap)
    (guarded : Guarded System.step (fun system event => event.Whole inside system) start events) :
    let system := run System.step start events
    let flows := run flowsAfter ∅ (happenings start events)
    system.udpConntrack.size = flows.ncard * 2 ∧
    ∀ flag ctx kernel, Event.Sided inside (.frame flag ctx kernel) →
      (Event.InsertsSucceed system (.frame flag ctx kernel) ↔
        ∀ ends ∈ newFlow flag kernel system.maps ctx,
          (∀ flow ∈ flows, flow.ends.key flag ≠ ends.key flag) →
            flows.ncard < 32768 ∧
              ∀ flow ∈ flows, flow.ends.key flag.other ≠ ends.key flag.other) := by
  have files := files_run empty exposes guarded
  exact ⟨files.size, fun flag ctx kernel sided => files.inserts_iff sided⟩

open Testbed in
theorem three_flows_take_six_slots :
    let events := twoFlows ++
      [.frame .snat (fromContainer 30 ⟨nodeC, remote, 4001, 53⟩ 0x1234) (kernelAt 1)]
    (run System.step exposing events).udpConntrack.size = 6 ∧
      (run flowsAfter ∅ (happenings exposing events)).ncard * 2 = 6 := by
  intro events
  have slots := (@conntrack_room_for_flows exposing.containers.addresses exposing events
    rfl exposing_exposesContainers.exposesInto (by decide +kernel)).1
  have six : (run System.step exposing events).udpConntrack.size = 6 := by decide +kernel
  exact ⟨six, slots.symm.trans six⟩

end XdpNatd
