import XdpNatd.Conntrack.Pairing

namespace XdpNatd

open XdpNatd.Data XdpNatd.Ebpf XdpNatd.Daemon

variable {inside : Set UInt32} {system start : System} {event : Event} {events : List Event}
variable {flag side : Flags} {ctx : XdpContext} {kernel : Kernel} {key partner : ConnectionTuple}
variable {state : FlowState} {rest : List ConnectionTuple}

def Daemon.Expiry.marked : Expiry → List ConnectionTuple
  | .idle => []
  | .scanning _ _ toRemove => toRemove
  | .removing toRemove => toRemove

/-- No key is collected twice, and none that was not examined. -/
def Daemon.Expiry.WellFormed : Expiry → Prop
  | .idle => True
  | .scanning _ visited toRemove => toRemove.Nodup ∧ ∀ key ∈ toRemove, key ∈ visited
  | .removing toRemove => toRemove.Nodup

@[simp] theorem marked_remaining (toRemove : List ConnectionTuple) :
    (Expiry.remaining toRemove).marked = toRemove := by
  cases toRemove <;> rfl

theorem wellFormed_remaining {toRemove : List ConnectionTuple} (nodup : toRemove.Nodup) :
    (Expiry.remaining toRemove).WellFormed := by
  cases toRemove with
  | nil => trivial
  | cons key rest => exact nodup

/-- A step of the expiry task that finds something to do. -/
inductive SweepStep (conntrack : Conntrack) : Event → Expiry → Conntrack → Expiry → Prop where
  | begins : SweepStep conntrack .beginSweep .idle conntrack (.scanning conntrack.keys ∅ [])
  | examines {key : ConnectionTuple} {now : UInt64} {pending visited : Finset ConnectionTuple}
      {toRemove : List ConnectionTuple} {state : FlowState}
      (found : conntrack.get key = some state) (fresh : key ∉ visited) :
      SweepStep conntrack (.examine key now) (.scanning pending visited toRemove) conntrack
        (.scanning (pending.erase key) (insert key visited)
          (if expired state now then toRemove ++ [key] else toRemove))
  | ends {visited : Finset ConnectionTuple} {toRemove : List ConnectionTuple} :
      SweepStep conntrack .endScan (.scanning ∅ visited toRemove) conntrack (.remaining toRemove)
  | removes {key : ConnectionTuple} {rest : List ConnectionTuple} :
      SweepStep conntrack .removeNext (.removing (key :: rest)) (conntrack.remove key) (.remaining rest)

theorem sweep_step_cases (system : System) (event : Event) :
    ((system.step event).expiry = system.expiry ∧
      (event = .removeNext → (system.step event).udpConntrack = system.udpConntrack)) ∨
    SweepStep system.udpConntrack event system.expiry (system.step event).udpConntrack
      (system.step event).expiry := by
  cases event with
  | frame | exposePort | unexposePort | writeExposeMap | writePnic | sweepAtOnce =>
      exact Or.inl ⟨rfl, nofun⟩
  | beginSweep =>
      change (beginSweep _ system.expiry = _ ∧ _) ∨ SweepStep _ _ _ _ (beginSweep _ system.expiry)
      cases system.expiry with
      | idle => exact Or.inr .begins
      | scanning | removing => exact Or.inl ⟨rfl, nofun⟩
  | examine key now =>
      change (examine _ key now system.expiry = _ ∧ _) ∨
        SweepStep _ _ _ _ (examine _ key now system.expiry)
      cases system.expiry with
      | idle | removing => exact Or.inl ⟨rfl, nofun⟩
      | scanning pending visited toRemove =>
          unfold examine
          dsimp only
          split
          · next state found =>
              split
              · exact Or.inl ⟨rfl, nofun⟩
              · next fresh => exact Or.inr (.examines found fresh)
          · exact Or.inl ⟨rfl, nofun⟩
  | endScan =>
      change (endScan system.expiry = _ ∧ _) ∨ SweepStep _ _ _ _ (endScan system.expiry)
      cases system.expiry with
      | idle | removing => exact Or.inl ⟨rfl, nofun⟩
      | scanning pending visited toRemove =>
          unfold endScan
          dsimp only
          split
          · next reached =>
              subst reached
              exact Or.inr .ends
          · exact Or.inl ⟨rfl, nofun⟩
  | removeNext =>
      change ((removeNext _ system.expiry).2 = _ ∧ (_ → (removeNext _ system.expiry).1 = _)) ∨
        SweepStep _ _ _ (removeNext _ system.expiry).1 (removeNext _ system.expiry).2
      unfold removeNext
      split
      · next key rest phase =>
          rw [phase]
          exact Or.inr .removes
      · exact Or.inl ⟨rfl, fun _ => rfl⟩

theorem wellFormed_step (wellFormed : system.expiry.WellFormed) :
    (system.step event).expiry.WellFormed := by
  rcases sweep_step_cases system event with ⟨same, _⟩ | moved
  · rwa [same]
  · generalize system.expiry = before, (system.step event).expiry = after,
      (system.step event).udpConntrack = table at wellFormed moved ⊢
    cases moved with
    | begins => exact ⟨List.nodup_nil, fun key member => by cases member⟩
    | @examines key now pending visited toRemove state found fresh =>
        obtain ⟨nodup, examined⟩ := wellFormed
        have grown : ∀ other ∈ toRemove, other ∈ insert key visited :=
          fun other member => Finset.mem_insert_of_mem (examined other member)
        have uncollected : key ∉ toRemove := fun member => fresh (examined key member)
        split
        · refine ⟨List.nodup_append.mpr ⟨nodup, List.nodup_singleton _, ?_⟩, ?_⟩
          · intro earlier member last single same
            rw [List.mem_singleton.mp single] at same
            exact uncollected (same ▸ member)
          · intro other member
            rcases List.mem_append.mp member with earlier | last
            · exact grown other earlier
            · rw [List.mem_singleton.mp last]
              exact Finset.mem_insert_self _ _
        · exact ⟨nodup, grown⟩
    | ends => exact wellFormed_remaining wellFormed.1
    | removes => exact wellFormed_remaining (List.nodup_cons.mp wellFormed).2

theorem marked_step (marked : key ∈ (system.step event).expiry.marked) :
    key ∈ system.expiry.marked ∨
    ∃ now state, event = .examine key now ∧ system.udpConntrack.get key = some state ∧
      state.timeout ≤ now := by
  rcases sweep_step_cases system event with ⟨same, _⟩ | moved
  · rw [same] at marked
    exact Or.inl marked
  · generalize system.expiry = before, (system.step event).expiry = after,
      (system.step event).udpConntrack = table at marked moved ⊢
    cases moved with
    | begins => cases marked
    | @examines examined now pending visited toRemove state found fresh =>
        change key ∈ (if expired state now then toRemove ++ [examined] else toRemove) at marked
        split at marked
        · next old =>
            rcases List.mem_append.mp marked with earlier | last
            · exact Or.inl earlier
            · rw [List.mem_singleton.mp last]
              exact Or.inr ⟨now, state, rfl, found, of_decide_eq_true old⟩
        · exact Or.inl marked
    | ends =>
        rw [marked_remaining] at marked
        exact Or.inl marked
    | removes =>
        rw [marked_remaining] at marked
        exact Or.inl (List.mem_cons_of_mem _ marked)

def Event.SweepsStepwise : Event → Prop
  | .sweepAtOnce _ => False
  | _ => True

instance : DecidablePred Event.SweepsStepwise := fun event =>
  decidable_of_bool (match event with | .sweepAtOnce _ => false | _ => true)
    (by cases event <;> simp [Event.SweepsStepwise])

/-- A frame that is due to refresh its flow does not write to a collected entry,
neither to its own nor to the one under the reverse key. -/
def Event.SparesMarked (system : System) : Event → Prop :=
  Event.OnFrames fun flag ctx kernel => ∀ key ∈ frameTuple ctx.data, ∀ state ∈ system.udpConntrack.get key,
    (refresh kernel.ktimeGetCoarseNs state).isSome →
      key ∉ system.expiry.marked ∧ reverseKey flag key state.nat ∉ system.expiry.marked

instance (system : System) : DecidablePred (Event.SparesMarked system) :=
  Event.OnFrames.decidable

theorem marked_entry_kept (wellFormed : system.expiry.WellFormed)
    (stepwise : event.SweepsStepwise) (spares : event.SparesMarked system)
    (marked : key ∈ system.expiry.marked) (still : key ∈ (system.step event).expiry.marked)
    (stored : system.udpConntrack.get key = some state) :
    (system.step event).udpConntrack.get key = some state := by
  cases event with
  | exposePort | unexposePort | writeExposeMap | writePnic | beginSweep | examine | endScan =>
      exact stored
  | sweepAtOnce now => exact stepwise.elim
  | removeNext =>
      rcases sweep_step_cases system .removeNext with ⟨_, same⟩ | moved
      · rwa [same rfl]
      · generalize system.expiry = before, (system.step .removeNext).expiry = after,
          (system.step .removeNext).udpConntrack = table at wellFormed still moved ⊢
        cases moved with
        | @removes first rest =>
            rw [marked_remaining] at still
            have different : key ≠ first := by
              rintro rfl
              exact (List.nodup_cons.mp wellFormed).1 still
            rwa [BoundedMap.get_remove_other different]
  | frame flag ctx kernel =>
      rw [step_frame_conntrack, tryXdpRedirect_conntrack]
      rcases outcome_cases flag kernel system.maps ctx with
        passes | ⟨hitKey, hitState, hits, tuple, found⟩ | ⟨flow, opens, _, _, _⟩
      · rw [passes]
        exact stored
      · rw [hits]
        change (touch system.udpConntrack _ _ _ _).get key = some state
        cases refreshed : refresh kernel.ktimeGetCoarseNs hitState with
        | none => rwa [touch_unrefreshed refreshed]
        | some written =>
            obtain ⟨notKey, notReverse⟩ := spares hitKey tuple hitState found (by rw [refreshed]; rfl)
            have notHit : key ≠ hitKey := fun same => notKey (same ▸ marked)
            have notPartner : key ≠ reverseKey flag hitKey hitState.nat :=
              fun same => notReverse (same ▸ marked)
            rwa [get_touch_other notHit notPartner]
      · rw [opens]
        exact record_present stored

theorem run_wellFormed (idle : start.expiry = .idle) :
    (run System.step start events).expiry.WellFormed := by
  induction events using List.reverseRecOn with
  | nil => rw [run_nil, idle]; trivial
  | append_singleton earlier last ih =>
      rw [run_append]
      exact wellFormed_step ih

theorem clock_le_run : system.clock ≤ (run System.step system events).clock := by
  induction events generalizing system with
  | nil => exact UInt64.le_refl _
  | cons event rest ih => exact UInt64.le_trans clock_le_step ih

theorem marked_since_examined (idle : start.expiry = .idle)
    (guarded : Guarded System.step
      (fun system event => event.SweepsStepwise ∧ event.SparesMarked system) start events)
    (marked : key ∈ (run System.step start events).expiry.marked) :
    ∃ before now after state, events = before ++ .examine key now :: after ∧ state.timeout ≤ now ∧
      ∀ kept rest, after = kept ++ rest →
        (run System.step start (before ++ .examine key now :: kept)).udpConntrack.get key = some state := by
  induction events using List.reverseRecOn with
  | nil =>
      rw [run_nil, idle] at marked
      cases marked
  | append_singleton earlier last ih =>
      obtain ⟨guardedEarlier, ⟨stepwise, spares⟩, _⟩ := guarded_append.mp guarded
      rw [run_append, run_cons, run_nil] at marked
      rcases marked_step marked with already | ⟨now, state, rfl, found, old⟩
      · obtain ⟨before, now, after, state, shape, old, lasting⟩ := ih guardedEarlier already
        refine ⟨before, now, after ++ [last], state, by simp [shape], old, ?_⟩
        have stored : (run System.step start earlier).udpConntrack.get key = some state := by
          rw [shape]
          exact lasting after [] (by simp)
        have kept := marked_entry_kept (run_wellFormed idle) stepwise spares already marked stored
        refine forall_prefix_concat lasting ?_
        rw [← List.cons_append, ← List.append_assoc, ← shape, run_append]
        exact kept
      · refine ⟨earlier, now, [], state, rfl, old, ?_⟩
        intro taken rest split
        obtain ⟨rfl, rfl⟩ := List.append_eq_nil_iff.mp split.symm
        rw [run_append]
        exact found

/-- In every run in which no frame writes to a collected entry, an entry about to
be removed has expired by the latest clock reading, and is the very entry that
the sweep examined: no frame has refreshed or created it since. -/
theorem swept_entries_expired (idle : start.expiry = .idle)
    (guarded : Guarded System.step
      (fun system event => event.SweepsStepwise ∧ event.SparesMarked system) start events)
    (removing : (run System.step start events).expiry = .removing (key :: rest)) :
    (∀ state, (run System.step start events).udpConntrack.get key = some state →
      state.timeout ≤ (run System.step start events).clock) ∧
    ∃ before now after state, events = before ++ .examine key now :: after ∧ state.timeout ≤ now ∧
      ∀ kept rest, after = kept ++ rest →
        (run System.step start (before ++ .examine key now :: kept)).udpConntrack.get key = some state := by
  have marked : key ∈ (run System.step start events).expiry.marked := by
    rw [removing]
    exact List.mem_cons_self
  obtain ⟨before, now, after, state, shape, old, lasting⟩ := marked_since_examined idle guarded marked
  refine ⟨fun current stored => ?_, before, now, after, state, shape, old, lasting⟩
  have same := lasting after [] (by simp)
  rw [← shape, stored] at same
  cases same
  have read : now ≤ ((run System.step start before).step (.examine key now)).clock :=
    reading_le_step rfl
  have later : ((run System.step start before).step (.examine key now)).clock ≤
      (run System.step start events).clock := by
    rw [shape, run_append, run_cons]
    exact clock_le_run
  exact UInt64.le_trans old (UInt64.le_trans read later)

open Testbed in
theorem silent_flow_of_node_a_expired :
    30_000_000_000 ≤ (run System.step host
      [.frame .snat (fromContainer 10 ⟨nodeA, remote, 4000, 53⟩ 0x1234) (kernelAt 0),
        .frame .snat (fromContainer 20 ⟨nodeB, remote, 4001, 53⟩ 0x1234) (kernelAt 20_000_000_000),
        .beginSweep, .examine ⟨nodeA, remote, 4000, 53⟩ 31_000_000_000,
        .examine ⟨nodeB, remote, 4001, 53⟩ 31_000_000_001,
        .frame .snat (fromContainer 20 ⟨nodeB, remote, 4001, 53⟩ 0x1234) (kernelAt 31_000_000_001),
        .examine ⟨remote, hostIp, 53, 4000⟩ 31_000_000_002,
        .examine ⟨remote, hostIp, 53, 4001⟩ 31_000_000_003, .endScan]).clock :=
  (@swept_entries_expired host _ ⟨nodeA, remote, 4000, 53⟩ [⟨remote, hostIp, 53, 4000⟩] rfl
    (by decide +kernel) (by decide +kernel)).1
    ⟨⟨hostIp, 4000, ⟨hostMac, gatewayMac⟩, 0⟩, .original, false, 30_000_000_000⟩ (by decide +kernel)

open Testbed in
/-- Node A sends again after its entries were collected and before they are
removed: the sweep takes out a flow that has half a minute left. -/
theorem refreshed_flow_is_swept :
    ¬ ∀ (start : System) (events : List Event) (key : ConnectionTuple) (rest : List ConnectionTuple),
      start.expiry = .idle →
      Guarded System.step (fun system event => event.SweepsStepwise ∧ event.ReadsForward system)
        start events →
      (run System.step start events).expiry = .removing (key :: rest) →
      ∀ state, (run System.step start events).udpConntrack.get key = some state →
        state.timeout ≤ (run System.step start events).clock := by
  intro always
  let events : List Event :=
    [.frame .snat (fromContainer 10 ⟨nodeA, remote, 4000, 53⟩ 0x1234) (kernelAt 0), .beginSweep,
      .examine ⟨nodeA, remote, 4000, 53⟩ 30_000_000_000,
      .examine ⟨remote, hostIp, 53, 4000⟩ 30_000_000_000, .endScan,
      .frame .snat (fromContainer 10 ⟨nodeA, remote, 4000, 53⟩ 0x1234) (kernelAt 30_000_000_001)]
  have current := always host events ⟨nodeA, remote, 4000, 53⟩ [⟨remote, hostIp, 53, 4000⟩] rfl
    (by decide +kernel) (by decide +kernel)
    ⟨⟨hostIp, 4000, ⟨hostMac, gatewayMac⟩, 0⟩, .original, false, 60_000_000_001⟩ (by decide +kernel)
  have early : ¬ (60_000_000_001 : UInt64) ≤ (run System.step host events).clock := by decide +kernel
  exact early current

end XdpNatd
