import XdpNatd.Conntrack.Sweep

namespace XdpNatd

open XdpNatd.Data XdpNatd.Ebpf XdpNatd.Daemon

variable {inside : Set UInt32} {system start : System} {event : Event} {events : List Event}
variable {flag side : Flags} {ctx : XdpContext} {kernel : Kernel} {key partner : ConnectionTuple}
variable {nat back : NATData} {state : FlowState}

namespace Daemon.Expiry

def visited : Expiry → Finset ConnectionTuple
  | .scanning _ visited _ => visited
  | _ => ∅

def collected : Expiry → List ConnectionTuple
  | .scanning _ _ toRemove => toRemove
  | _ => []

def condemned : Expiry → List ConnectionTuple
  | .removing toRemove => toRemove
  | _ => []

def Scanned : Expiry → Prop
  | .scanning pending _ _ => pending = ∅
  | _ => False

instance : DecidablePred Scanned := fun expiry =>
  match expiry with
  | .scanning pending _ _ => inferInstanceAs (Decidable (pending = ∅))
  | .idle | .removing _ => isFalse id

end Daemon.Expiry

@[simp] theorem condemned_remaining (toRemove : List ConnectionTuple) :
    (Expiry.remaining toRemove).condemned = toRemove := by
  cases toRemove <;> rfl

def sideOf (inside : Set UInt32) [DecidablePred (· ∈ inside)] (key : ConnectionTuple) : Flags :=
  if key.srcAddr ∈ inside then .snat else .dnat

/-- The key under which the other half of an entry belongs. -/
def partnerKey (inside : Set UInt32) [DecidablePred (· ∈ inside)] (key : ConnectionTuple)
    (nat : NATData) : ConnectionTuple :=
  reverseKey (sideOf inside key) key nat

theorem linked_partnerKey [DecidablePred (· ∈ inside)]
    (linked : (natLink inside).linked key nat partner back) : partner = partnerKey inside key nat := by
  refine (linked_of_onSide ?_ linked).1
  unfold sideOf
  split <;> assumption

/-- The reading for an entry says the same as the reading for its partner did, if
the sweep has examined the partner before; and the sweep has examined the partner
of every collected key when it turns to removing. -/
def Event.ReadsHalvesAlike (inside : Set UInt32) [DecidablePred (· ∈ inside)] (system : System) :
    Event → Prop
  | .examine key now => key ∉ system.expiry.visited → ∀ state ∈ system.udpConntrack.get key,
      partnerKey inside key state.nat ∈ system.expiry.visited →
        (expired state now = true ↔ partnerKey inside key state.nat ∈ system.expiry.collected)
  | .endScan => system.expiry.Scanned → ∀ key ∈ system.expiry.collected,
      ∀ state ∈ system.udpConntrack.get key, partnerKey inside key state.nat ∈ system.expiry.visited
  | _ => True

instance (inside : Set UInt32) [DecidablePred (· ∈ inside)] (system : System) :
    DecidablePred (Event.ReadsHalvesAlike inside system) := fun event =>
  match event with
  | .examine key now => inferInstanceAs (Decidable (key ∉ system.expiry.visited →
      ∀ state ∈ system.udpConntrack.get key, partnerKey inside key state.nat ∈ system.expiry.visited →
        (expired state now = true ↔ partnerKey inside key state.nat ∈ system.expiry.collected)))
  | .endScan => inferInstanceAs (Decidable (system.expiry.Scanned → ∀ key ∈ system.expiry.collected,
      ∀ state ∈ system.udpConntrack.get key, partnerKey inside key state.nat ∈ system.expiry.visited))
  | .frame .. | .exposePort .. | .unexposePort .. | .writeExposeMap _ | .writePnic _ | .sweepAtOnce _
  | .beginSweep | .removeNext => isTrue trivial

/-- What a sweep in progress knows about the keys that it has been to. -/
def SweepAgrees (inside : Set UInt32) (conntrack : Conntrack) : Expiry → Prop
  | .idle => True
  | .scanning _ visited toRemove =>
      (∀ key ∈ visited, ∃ nat, natAt conntrack key = some nat) ∧
      ∀ key ∈ visited, ∀ partner ∈ visited, ∀ nat back, natAt conntrack key = some nat →
        natAt conntrack partner = some back → (natLink inside).linked key nat partner back →
        (key ∈ toRemove ↔ partner ∈ toRemove)
  | .removing toRemove => ∀ key ∈ toRemove, ∃ nat, natAt conntrack key = some nat

abbrev stayingLink (inside : Set UInt32) (condemned : List ConnectionTuple) :
    Link ConnectionTuple NATData :=
  (natLink inside).within {key | key ∉ condemned}

/-- Every entry that is not about to be removed has a partner that stays, too. -/
structure Halves (inside : Set UInt32) (conntrack : Conntrack) (expiry : Expiry) : Prop where
  paired : PairedOn (stayingLink inside expiry.condemned) {key | key ∉ expiry.condemned}
    (natAt conntrack)
  agrees : SweepAgrees inside conntrack expiry

theorem SweepAgrees.grow {conntrack after : Conntrack} {expiry : Expiry}
    (agrees : SweepAgrees inside conntrack expiry)
    (kept : ∀ key nat, natAt conntrack key = some nat → natAt after key = some nat) :
    SweepAgrees inside after expiry := by
  have still {keys : ConnectionTuple → Prop}
      (present : ∀ key, keys key → ∃ nat, natAt conntrack key = some nat) :
      ∀ key, keys key → ∃ nat, natAt after key = some nat := fun key member => by
    obtain ⟨nat, found⟩ := present key member
    exact ⟨nat, kept key nat found⟩
  cases expiry with
  | idle => trivial
  | removing toRemove => exact still agrees
  | scanning pending visited toRemove =>
      obtain ⟨present, halves⟩ := agrees
      have unchanged : ∀ key ∈ visited, ∀ nat, natAt after key = some nat →
          natAt conntrack key = some nat := by
        intro key member nat found
        obtain ⟨old, before⟩ := present key member
        cases (kept key old before).symm.trans found
        exact before
      refine ⟨still present, ?_⟩
      intro key member partner partnerMember nat back found partnerFound linked
      exact halves key member partner partnerMember nat back (unchanged key member nat found)
        (unchanged partner partnerMember back partnerFound) linked

theorem SweepAgrees.not_condemned {conntrack : Conntrack} {expiry : Expiry}
    (agrees : SweepAgrees inside conntrack expiry) (absent : conntrack.get key = none) :
    key ∉ expiry.condemned := by
  intro member
  cases expiry with
  | idle | scanning => cases member
  | removing toRemove =>
      obtain ⟨nat, found⟩ := agrees key member
      cases (natAt_eq_none.mpr absent).symm.trans found

section Phases

variable {conntrack : Conntrack} {pending visited : Finset ConnectionTuple}
variable {toRemove rest : List ConnectionTuple} {now : UInt64}

theorem Halves.begins (known : Halves inside conntrack .idle) :
    Halves inside conntrack (.scanning conntrack.keys ∅ []) where
  paired := known.paired
  agrees := ⟨fun key member => absurd member (Finset.notMem_empty key),
    fun key member => absurd member (Finset.notMem_empty key)⟩

/-- The scan agrees on one more entry if its reading says what the reading for
its partner said. -/
theorem Halves.examines [DecidablePred (· ∈ inside)]
    (known : Halves inside conntrack (.scanning pending visited toRemove))
    (examined : ∀ key ∈ toRemove, key ∈ visited)
    (found : conntrack.get key = some state) (fresh : key ∉ visited)
    (alike : partnerKey inside key state.nat ∈ visited →
      (expired state now = true ↔ partnerKey inside key state.nat ∈ toRemove)) :
    Halves inside conntrack (.scanning (pending.erase key) (insert key visited)
      (if expired state now then toRemove ++ [key] else toRemove)) where
  paired := known.paired
  agrees := by
    obtain ⟨present, halves⟩ := known.agrees
    have stored : natAt conntrack key = some state.nat := natAt_eq_some.mpr ⟨state, found, rfl⟩
    have old : ∀ other ∈ visited,
        (other ∈ (if expired state now then toRemove ++ [key] else toRemove) ↔ other ∈ toRemove) := by
      intro other member
      have different : other ≠ key := fun same => fresh (same ▸ member)
      split <;> simp [different]
    have new : key ∈ (if expired state now then toRemove ++ [key] else toRemove) ↔
        expired state now = true := by
      have uncollected : key ∉ toRemove := fun member => fresh (examined key member)
      split <;> simp [*]
    have withPartner : ∀ partner ∈ visited, ∀ back,
        (natLink inside).linked key state.nat partner back →
        (expired state now = true ↔ partner ∈ toRemove) := by
      intro partner member back linked
      have own := linked_partnerKey linked
      subst own
      exact alike member
    refine ⟨fun other member => ?_, ?_⟩
    · rcases Finset.mem_insert.mp member with rfl | earlier
      · exact ⟨state.nat, stored⟩
      · exact present other earlier
    · intro left leftMember right rightMember nat back leftStored rightStored linked
      rcases Finset.mem_insert.mp leftMember with rfl | leftEarlier
      · cases stored.symm.trans leftStored
        rcases Finset.mem_insert.mp rightMember with rfl | rightEarlier
        · exact Iff.rfl
        · rw [new, old right rightEarlier]
          exact withPartner right rightEarlier back linked
      · rcases Finset.mem_insert.mp rightMember with rfl | rightEarlier
        · cases stored.symm.trans rightStored
          rw [new, old left leftEarlier]
          exact (withPartner left leftEarlier nat ((natLink inside).symm linked)).symm
        · rw [old left leftEarlier, old right rightEarlier]
          exact halves left leftEarlier right rightEarlier nat back leftStored rightStored linked

/-- A scan that has examined the partners of all collected keys has collected
both halves of each flow or neither. -/
theorem Halves.ends [DecidablePred (· ∈ inside)]
    (known : Halves inside conntrack (.scanning pending visited toRemove))
    (examined : ∀ key ∈ toRemove, key ∈ visited)
    (reached : ∀ key ∈ toRemove, ∀ state ∈ conntrack.get key,
      partnerKey inside key state.nat ∈ visited) :
    Halves inside conntrack (.remaining toRemove) where
  paired := by
    rw [condemned_remaining]
    have everywhere : PairedOn (stayingLink inside []) {key | key ∉ toRemove} (natAt conntrack) :=
      known.paired.shrink (fun key _ nat stored => ⟨List.not_mem_nil, stored⟩)
        (fun _ _ _ _ _ _ found _ => found)
    refine everywhere.relink fun key staying nat partner back stored partnerStored linked => ?_
    refine ⟨linked.1, staying, fun condemned => staying ?_⟩
    -- a collected partner would have had this entry examined and collected
    have opposite := (natLink inside).symm linked.1
    obtain ⟨state, found, sameNat⟩ := natAt_eq_some.mp partnerStored
    have visitedKey : key ∈ visited := by
      rw [linked_partnerKey opposite, ← sameNat]
      exact reached partner condemned state found
    exact (known.agrees.2 key visitedKey partner (examined partner condemned) nat back stored
      partnerStored linked.1).mpr condemned
  agrees := by
    have present : ∀ key ∈ toRemove, ∃ nat, natAt conntrack key = some nat :=
      fun key member => known.agrees.1 key (examined key member)
    cases toRemove with
    | nil => trivial
    | cons first rest => exact present

theorem natAt_remove_other (different : partner ≠ key) :
    natAt (conntrack.remove key) partner = natAt conntrack partner := by
  simp only [natAt, BoundedMap.get_remove_other different]

theorem natAt_remove (stored : natAt (conntrack.remove key) partner = some nat) :
    partner ≠ key ∧ natAt conntrack partner = some nat := by
  by_cases same : partner = key
  · subst same
    simp [natAt] at stored
  · exact ⟨same, (natAt_remove_other same).symm.trans stored⟩

theorem Halves.removes (known : Halves inside conntrack (.removing (key :: rest)))
    (nodup : (key :: rest).Nodup) :
    Halves inside (conntrack.remove key) (.remaining rest) where
  paired := by
    rw [condemned_remaining]
    have outlived : PairedOn (stayingLink inside (key :: rest)) {next | next ∉ rest}
        (natAt (conntrack.remove key)) := by
      refine known.paired.shrink ?_ ?_
      · intro next staying nat stored
        obtain ⟨different, before⟩ := natAt_remove stored
        exact ⟨List.not_mem_cons_of_ne_of_not_mem different staying, before⟩
      · intro next _ nat partner back _ found linked
        rwa [natAt_remove_other (List.ne_of_not_mem_cons linked.2.2)]
    refine outlived.relink fun next staying nat partner back _ _ linked => ?_
    exact ⟨linked.1, staying, List.not_mem_of_not_mem_cons linked.2.2⟩
  agrees := by
    have present : ∀ next ∈ rest, ∃ nat, natAt (conntrack.remove key) next = some nat := by
      intro next member
      have different : next ≠ key := by
        rintro rfl
        exact (List.nodup_cons.mp nodup).1 member
      rw [natAt_remove_other different]
      exact known.agrees next (List.mem_cons_of_mem _ member)
    cases rest with
    | nil => trivial
    | cons first rest => exact present

end Phases

theorem Halves.frame (known : Halves inside system.udpConntrack system.expiry)
    (exposes : ExposesInto inside system.exposeMap)
    (orderly : Event.Orderly inside system (.frame flag ctx kernel)) :
    Halves inside (system.step (.frame flag ctx kernel)).udpConntrack system.expiry where
  agrees := known.agrees.grow fun key nat => step_natAt_kept trivial
  paired := by
    refine known.paired.extend (fun key nat => step_natAt_kept trivial) ?_
    intro key staying nat absent stored
    rw [step_frame_conntrack] at stored
    rcases natAt_new stored with before | ⟨_, flow, side, opens, opened, rfl, rfl⟩
    · cases absent.symm.trans before
    have sides := orderly.newFlow_side exposes opened
    obtain ⟨forward, backward⟩ := orderly.opened opens
    have recorded : ∀ half, natAt (system.step (.frame flag ctx kernel)).udpConntrack
        (flow.key half) = some (flow.nat half) := by
      intro half
      rcases Flags.eq_or_other half flag with rfl | rfl
      · exact natAt_eq_some.mpr ⟨_, forward, rfl⟩
      · exact natAt_eq_some.mpr ⟨_, backward, rfl⟩
    exact ⟨flow.key side.other, flow.nat side.other, recorded _,
      NewFlow.linked (sides side) (sides side.other), staying,
      known.agrees.not_condemned (orderly.absent opens side.other)⟩

structure HalvesKept (inside : Set UInt32) (system : System) : Prop where
  halves : Halves inside system.udpConntrack system.expiry
  wellFormed : system.expiry.WellFormed
  exposes : ExposesInto inside system.exposeMap

theorem Halves.sweep [DecidablePred (· ∈ inside)] {after : Conntrack} {phase : Expiry}
    (known : Halves inside system.udpConntrack system.expiry) (wellFormed : system.expiry.WellFormed)
    (alike : event.ReadsHalvesAlike inside system)
    (moved : SweepStep system.udpConntrack event system.expiry after phase) :
    Halves inside after phase := by
  generalize before : system.expiry = expiry at known wellFormed moved
  cases moved with
  | begins => exact known.begins
  | @examines key now pending visited toRemove state found fresh =>
      simp only [Event.ReadsHalvesAlike, before, Expiry.visited, Expiry.collected] at alike
      exact known.examines wellFormed.2 found fresh (alike fresh state found)
  | ends =>
      simp only [Event.ReadsHalvesAlike, before, Expiry.visited, Expiry.collected, Expiry.Scanned] at alike
      exact known.ends wellFormed.2 (alike trivial)
  | removes => exact known.removes wellFormed

theorem HalvesKept.step [DecidablePred (· ∈ inside)] (known : HalvesKept inside system)
    (orderly : event.Orderly inside system) (stepwise : event.SweepsStepwise)
    (alike : event.ReadsHalvesAlike inside system) : HalvesKept inside (system.step event) where
  wellFormed := wellFormed_step known.wellFormed
  exposes := known.exposes.step orderly.writes
  halves := by
    obtain ⟨halves, wellFormed, exposes⟩ := known
    rcases sweep_step_cases system event with ⟨same, untouched⟩ | moved
    · rw [same]
      cases event with
      | frame flag ctx kernel => exact halves.frame exposes orderly
      | sweepAtOnce now => exact stepwise.elim
      | removeNext => rwa [untouched rfl]
      | exposePort | unexposePort | writeExposeMap | writePnic | beginSweep | examine | endScan =>
          exact halves
    · exact halves.sweep wellFormed alike moved

/-- Each entry has its other half in the table, under the key that the program
of its side recomputes. -/
def HalvesTogether (inside : Set UInt32) (conntrack : Conntrack) : Prop :=
  ∀ side key state, OnSide inside key side → conntrack.get key = some state →
    ∃ back, conntrack.get (reverseKey side key state.nat) = some back ∧
      reverseKey side.other (reverseKey side key state.nat) back.nat = key

theorem HalvesKept.together (known : HalvesKept inside system) (idle : system.expiry = .idle) :
    HalvesTogether inside system.udpConntrack := by
  intro side key state keySide found
  have staying : key ∉ system.expiry.condemned := by rw [idle]; exact List.not_mem_nil
  have stored : natAt system.udpConntrack key = some state.nat := natAt_eq_some.mpr ⟨state, found, rfl⟩
  obtain ⟨partner, back, partnerStored, linked, _⟩ := known.halves.paired key staying state.nat stored
  obtain ⟨rfl, _, backward⟩ := linked_of_onSide keySide linked
  obtain ⟨backState, backFound, sameNat⟩ := natAt_eq_some.mp partnerStored
  exact ⟨backState, backFound, by rw [sameNat]; exact backward.symm⟩

/-- In every run whose sweeps read the clock alike for both halves of each flow,
the halves are together whenever no sweep is in progress. -/
theorem halves_together_between_sweeps [DecidablePred (· ∈ inside)]
    (empty : start.udpConntrack = .empty) (idle : start.expiry = .idle)
    (exposes : ExposesInto inside start.exposeMap)
    (guarded : Guarded System.step (fun system event => event.Orderly inside system ∧
      event.SweepsStepwise ∧ event.ReadsHalvesAlike inside system) start events)
    (done : (run System.step start events).expiry = .idle) :
    HalvesTogether inside (run System.step start events).udpConntrack := by
  have initially : HalvesKept inside start := by
    refine ⟨⟨.empty fun key => by simp [natAt, empty], ?_⟩, ?_, exposes⟩ <;> rw [idle] <;> trivial
  have preserved : ∀ state event, HalvesKept inside state → (event.Orderly inside state ∧
      event.SweepsStepwise ∧ event.ReadsHalvesAlike inside state) →
      HalvesKept inside (state.step event) := by
    rintro state event known ⟨orderly, stepwise, alike⟩
    exact known.step orderly stepwise alike
  exact (guarded.invariant preserved initially).together done

open Testbed in
theorem halves_of_node_b_together :
    HalvesTogether host.containers.addresses (run System.step host
      [.frame .snat (fromContainer 10 ⟨nodeA, remote, 4000, 53⟩ 0x1234) (kernelAt 0),
        .frame .snat (fromContainer 20 ⟨nodeB, remote, 4001, 53⟩ 0x1234) (kernelAt 20_000_000_000),
        .beginSweep, .examine ⟨nodeA, remote, 4000, 53⟩ 31_000_000_000,
        .examine ⟨nodeB, remote, 4001, 53⟩ 31_000_000_001,
        .examine ⟨remote, hostIp, 53, 4000⟩ 31_000_000_002,
        .examine ⟨remote, hostIp, 53, 4001⟩ 31_000_000_003, .endScan, .removeNext,
        .frame .snat (fromContainer 20 ⟨nodeB, remote, 4001, 53⟩ 0x1234) (kernelAt 31_000_000_004),
        .removeNext]).udpConntrack :=
  halves_together_between_sweeps rfl rfl boot_exposesContainers.exposesInto (by decide +kernel)
    (by decide +kernel)

open Testbed in
/-- The deadline of a flow of node A falls between the readings for its halves:
the sweep takes out one of them. -/
theorem deadline_between_readings_parts_halves :
    ¬ ∀ (inside : Set UInt32) (start : System) (events : List Event),
      start.udpConntrack = .empty → start.expiry = .idle → ExposesInto inside start.exposeMap →
      Guarded System.step (fun system event => event.Orderly inside system ∧
        event.SweepsStepwise ∧ event.ReadsForward system) start events →
      (run System.step start events).expiry = .idle →
      HalvesTogether inside (run System.step start events).udpConntrack := by
  intro always
  let events : List Event :=
    [.frame .snat (fromContainer 10 ⟨nodeA, remote, 4000, 53⟩ 0x1234) (kernelAt 0), .beginSweep,
      .examine ⟨nodeA, remote, 4000, 53⟩ 29_999_999_999,
      .examine ⟨remote, hostIp, 53, 4000⟩ 30_000_000_000, .endScan, .removeNext]
  have together := always host.containers.addresses host events rfl rfl
    boot_exposesContainers.exposesInto (by decide +kernel) (by decide +kernel)
  obtain ⟨back, found, _⟩ := together .snat ⟨nodeA, remote, 4000, 53⟩
    ⟨⟨hostIp, 4000, ⟨hostMac, gatewayMac⟩, 0⟩, .original, false, 30_000_000_000⟩ (by decide +kernel)
    (by decide +kernel)
  have missing : (run System.step host events).udpConntrack.get ⟨remote, hostIp, 53, 4000⟩ = none := by
    decide +kernel
  cases missing.symm.trans found

end XdpNatd
