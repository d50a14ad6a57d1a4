import XdpNatd.Conntrack.Lifetime
import XdpNatd.Conntrack.Timeouts
import XdpNatd.Testbed

namespace XdpNatd

open XdpNatd.Data XdpNatd.Ebpf XdpNatd.Daemon

variable {system start : System} {event : Event} {events : List Event}
variable {flag : Flags} {ctx : XdpContext} {kernel : Kernel} {key : ConnectionTuple}
variable {state later : FlowState}

/-- Nothing is taken back from an entry. -/
def Forward (state later : FlowState) : Prop :=
  (state.seenReply = true → later.seenReply = true) ∧ state.timeout ≤ later.timeout

theorem Forward.refl (state : FlowState) : Forward state state := ⟨id, UInt64.le_refl _⟩

theorem Forward.trans {last : FlowState} (first : Forward state later) (second : Forward later last) :
    Forward state last :=
  ⟨fun seen => second.1 (first.1 seen), UInt64.le_trans first.2 second.2⟩

def MovesForward (system : System) (event : Event) : Prop :=
  ∀ key state later, system.udpConntrack.get key = some state →
    (system.step event).udpConntrack.get key = some later → Forward state later

/-- A frame that is due to refresh an unanswered flow finds no answered entry
under the reverse key. -/
def Event.SparesAnswered (system : System) : Event → Prop :=
  Event.OnFrames fun flag ctx kernel => ∀ key ∈ frameTuple ctx.data, ∀ state ∈ system.udpConntrack.get key,
    state.direction = .original → state.seenReply = false →
      (refresh kernel.ktimeGetCoarseNs state).isSome →
        ∀ back ∈ system.udpConntrack.get (reverseKey flag key state.nat), back.seenReply = false

instance (system : System) : DecidablePred (Event.SparesAnswered system) :=
  Event.OnFrames.decidable

theorem movesForward_of_kept (kept : ∀ key state, system.udpConntrack.get key = some state →
      (system.step event).udpConntrack.get key = some state ∨
        (system.step event).udpConntrack.get key = none) : MovesForward system event := by
  intro key state later stored storedLater
  rcases kept key state stored with same | gone
  · cases same.symm.trans storedLater
    exact .refl _
  · cases gone.symm.trans storedLater

theorem spares_iff_of_hit {hit : ConnectionTuple} {hitState : FlowState}
    (hits : outcome flag kernel system.maps ctx = .hits hit hitState) :
    Event.SparesAnswered system (.frame flag ctx kernel) ↔
      (hitState.answered = false → (refresh kernel.ktimeGetCoarseNs hitState).isSome →
        ∀ back ∈ system.udpConntrack.get (reverseKey flag hit hitState.nat), back.seenReply = false) := by
  obtain ⟨tuple, found⟩ := hits_spec hits
  have unanswered : hitState.answered = false ↔
      hitState.direction = .original ∧ hitState.seenReply = false := by
    obtain ⟨nat, direction, seenReply, timeout⟩ := hitState
    cases direction <;> simp [FlowState.answered]
  constructor
  · intro spares unseen
    obtain ⟨original, unseenReply⟩ := unanswered.mp unseen
    exact spares hit tuple hitState found original unseenReply
  · intro spares key member state stored original unseenReply
    cases tuple.symm.trans member
    cases found.symm.trans stored
    exact spares (unanswered.mpr ⟨original, unseenReply⟩)

/-- The copy of an unanswered entry takes the answer from an answered one. -/
theorem unanswered_of_moves {hit : ConnectionTuple} {hitState back : FlowState}
    (fits : Fits kernel.ktimeGetCoarseNs)
    (hits : outcome flag kernel system.maps ctx = .hits hit hitState)
    (due : Due kernel.ktimeGetCoarseNs hitState) (unanswered : hitState.answered = false)
    (backFound : system.udpConntrack.get (reverseKey flag hit hitState.nat) = some back)
    (moves : MovesForward system (.frame flag ctx kernel)) : back.seenReply = false := by
  have found : system.udpConntrack.get hit = some hitState := (hits_spec hits).2
  by_cases own : reverseKey flag hit hitState.nat = hit
  · rw [own] at backFound
    cases found.symm.trans backFound
    cases seen : hitState.seenReply with
    | false => rfl
    | true => exact (answered_of_seenReply seen).symm.trans unanswered
  · have copied := get_step_hit fits hits (reverseKey flag hit hitState.nat)
    rw [if_pos due, if_neg own, if_pos rfl, backFound] at copied
    have kept := (moves _ back _ backFound copied).1
    cases seen : back.seenReply with
    | false => rfl
    | true => exact (kept seen).symm.trans unanswered

theorem moves_of_unanswered {hit : ConnectionTuple} {hitState : FlowState} (timely : system.Timely)
    (clocked : Event.Clocked system (.frame flag ctx kernel))
    (hits : outcome flag kernel system.maps ctx = .hits hit hitState)
    (due : Due kernel.ktimeGetCoarseNs hitState)
    (spares : hitState.answered = false →
      ∀ back ∈ system.udpConntrack.get (reverseKey flag hit hitState.nat), back.seenReply = false) :
    MovesForward system (.frame flag ctx kernel) := by
  intro key state later stored storedLater
  have found : system.udpConntrack.get hit = some hitState := (hits_spec hits).2
  have fits : Fits kernel.ktimeGetCoarseNs := clocked.fits _ rfl
  have forward : system.clock ≤ kernel.ktimeGetCoarseNs := clocked.forward _ rfl
  rw [get_step_hit fits hits, if_pos due] at storedLater
  split at storedLater
  · next own =>
      subst own
      cases found.symm.trans stored
      cases storedLater
      exact ⟨answered_of_seenReply, renewed_later (timely _ _ found) forward fits
        answered_of_seenReply⟩
  · split at storedLater
    · next isReverse =>
        -- this may be an entry of another flow: nothing but `spares` is known of it
        subst isReverse
        rw [stored] at storedLater
        cases storedLater
        have implied : state.seenReply = true → hitState.answered = true := by
          intro seen
          cases unanswered : hitState.answered with
          | true => rfl
          | false =>
              rw [spares unanswered state stored] at seen
              cases seen
        exact ⟨implied, renewed_later (timely _ state stored) forward fits implied⟩
    · cases stored.symm.trans storedLater
      exact .refl _

/-- A hit takes nothing back exactly when it spares an answered entry under the
reverse key. -/
theorem hit_moves_forward_iff {hit : ConnectionTuple} {hitState : FlowState} (timely : system.Timely)
    (clocked : Event.Clocked system (.frame flag ctx kernel))
    (hits : outcome flag kernel system.maps ctx = .hits hit hitState) :
    MovesForward system (.frame flag ctx kernel) ↔
      Event.SparesAnswered system (.frame flag ctx kernel) := by
  have fits : Fits kernel.ktimeGetCoarseNs := clocked.fits _ rfl
  rw [spares_iff_of_hit hits, refresh_eq fits]
  by_cases due : Due kernel.ktimeGetCoarseNs hitState
  · rw [if_pos due]
    constructor
    · intro moves unanswered _ back backFound
      exact unanswered_of_moves fits hits due unanswered backFound moves
    · intro spares
      exact moves_of_unanswered timely clocked hits due fun unanswered => spares unanswered rfl
  · rw [if_neg due]
    refine iff_of_true (movesForward_of_kept fun key state stored => Or.inl ?_) nofun
    rw [get_step_hit fits hits, if_neg due]
    exact stored

theorem moves_forward_iff (timely : system.Timely) (clocked : event.Clocked system) :
    MovesForward system event ↔ event.SparesAnswered system := by
  cases event with
  | frame flag ctx kernel =>
      rcases outcome_cases flag kernel system.maps ctx with
        passes | ⟨hit, hitState, hits, _, _⟩ | ⟨flow, opens, _, flowTuple, missed⟩
      · refine iff_of_true (movesForward_of_kept fun key state stored => Or.inl ?_) ?_
        · rw [get_step_passes passes]
          exact stored
        · intro key tuple state found
          cases passes.symm.trans (outcome_hits tuple found)
      · exact hit_moves_forward_iff timely clocked hits
      · refine iff_of_true (movesForward_of_kept fun key state stored => Or.inl ?_) ?_
        · rw [step_opens_conntrack opens]
          exact record_present stored
        · intro key tuple state found
          cases opens.symm.trans (outcome_hits tuple found)
  | sweepAtOnce now =>
      refine iff_of_true (fun key state later stored storedLater => ?_) trivial
      cases stored.symm.trans (get_sweepAtOnce.mp storedLater).1
      exact .refl _
  | removeNext =>
      refine iff_of_true (fun key state later stored storedLater => ?_) trivial
      cases stored.symm.trans (removeNext_get storedLater)
      exact .refl _
  | exposePort | unexposePort | writeExposeMap | writePnic | beginSweep | examine | endScan =>
      exact iff_of_true (movesForward_of_kept fun key state stored => Or.inl stored) trivial

/-- The entry under a key goes forward between any two states of the run between
which it stays in the table. -/
def NeverBack (start : System) (events : List Event) : Prop :=
  ∀ before middle after key state later, events = before ++ (middle ++ after) →
    (run System.step start before).udpConntrack.get key = some state →
    Guarded System.step (Event.Keeps key) (run System.step start before) middle →
    (run System.step start (before ++ middle)).udpConntrack.get key = some later →
    Forward state later

theorem forward_while_kept (timely : system.Timely)
    (clocked : Guarded System.step (fun system event => event.Clocked system) system events)
    (spares : Guarded System.step (fun system event => event.SparesAnswered system) system events)
    (kept : Guarded System.step (Event.Keeps key) system events)
    (stored : system.udpConntrack.get key = some state)
    (storedLater : (run System.step system events).udpConntrack.get key = some later) :
    Forward state later := by
  induction events generalizing system state with
  | nil =>
      cases stored.symm.trans storedLater
      exact .refl _
  | cons event rest ih =>
      obtain ⟨next, found⟩ := Option.isSome_iff_exists.mp kept.1
      have first := (moves_forward_iff timely clocked.1).mpr spares.1 key state next stored found
      exact first.trans (ih (timely_step timely clocked.1.fits) clocked.2 spares.2 kept.2 found storedLater)

/-- In a run with a forward clock entries go forward exactly when no frame writes
an unanswered flow over an answered entry. -/
theorem never_back_iff (empty : start.udpConntrack = .empty)
    (clocked : Guarded System.step (fun system event => event.Clocked system) start events) :
    NeverBack start events ↔
      Guarded System.step (fun system event => event.SparesAnswered system) start events := by
  have timely : ∀ before after, events = before ++ after → (run System.step start before).Timely := by
    intro before after shape
    subst shape
    exact timely_run empty (fun _ _ clocked => clocked.fits) (guarded_append.mp clocked).1
  constructor
  · intro never
    rw [guarded_iff]
    intro before event after shape
    have now : Event.Clocked (run System.step start before) event :=
      guarded_iff.mp clocked before event after shape
    refine (moves_forward_iff (timely before _ shape) now).mp ?_
    intro key state later stored storedLater
    refine never before [event] after key state later shape stored ⟨?_, trivial⟩ ?_
    · exact Option.isSome_iff_exists.mpr ⟨later, storedLater⟩
    · rw [run_append]
      exact storedLater
  · intro spares before middle after key state later shape stored kept storedLater
    rw [run_append] at storedLater
    subst shape
    have clockedMiddle := (guarded_append.mp (guarded_append.mp clocked).2).1
    have sparesMiddle := (guarded_append.mp (guarded_append.mp spares).2).1
    exact forward_while_kept (timely before _ rfl) clockedMiddle sparesMiddle kept stored storedLater

open Testbed in
theorem answered_flow_never_back : NeverBack host (askedTwice 2_000_000_000) :=
  (@never_back_iff host (askedTwice 2_000_000_000) rfl (by decide +kernel)).mpr (by decide +kernel)

/-- Nodes A and B talk to the same peer from the same port; only A gets an answer. -/
def Testbed.sharedPort : List Event :=
  [.frame .snat (fromContainer 10 ⟨nodeA, remote, 4000, 53⟩ 0x1234) (kernelAt 0),
    .frame .snat (fromContainer 20 ⟨nodeB, remote, 4000, 53⟩ 0x1234) (kernelAt 1),
    .frame .dnat (fromNic ⟨remote, hostIp, 53, 4000⟩ 0x1234) (kernelAt 2)]

open Testbed in
/-- The next frame of node B takes the answer back from the flow of node A, and
two minutes and a half of its timeout. -/
theorem shared_port_goes_back :
    let answered := run System.step host sharedPort
    let again := Event.frame .snat (fromContainer 20 ⟨nodeB, remote, 4000, 53⟩ 0x1234)
      (kernelAt 2_000_000_000)
    let leadsToA : NATData := ⟨nodeA, 4000, ⟨hostMac, containerMac 10⟩, nodeA⟩
    answered.udpConntrack.get ⟨remote, hostIp, 53, 4000⟩ =
      some ⟨leadsToA, .reply, true, 180_000_000_002⟩ ∧
    (answered.step again).udpConntrack.get ⟨remote, hostIp, 53, 4000⟩ =
      some ⟨leadsToA, .reply, false, 32_000_000_000⟩ ∧
    ¬ NeverBack host (sharedPort ++ [again]) := by
  refine ⟨by decide +kernel, by decide +kernel, fun never => ?_⟩
  have back := never sharedPort [.frame .snat (fromContainer 20 ⟨nodeB, remote, 4000, 53⟩ 0x1234)
      (kernelAt 2_000_000_000)] [] ⟨remote, hostIp, 53, 4000⟩
    ⟨⟨nodeA, 4000, ⟨hostMac, containerMac 10⟩, nodeA⟩, .reply, true, 180_000_000_002⟩
    ⟨⟨nodeA, 4000, ⟨hostMac, containerMac 10⟩, nodeA⟩, .reply, false, 32_000_000_000⟩
    rfl (by decide +kernel) (by decide +kernel) (by decide +kernel)
  cases back.1 rfl

end XdpNatd
