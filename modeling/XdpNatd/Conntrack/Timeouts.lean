import XdpNatd.Conntrack.Origin

namespace XdpNatd

open XdpNatd.Data XdpNatd.Ebpf XdpNatd.Daemon

variable {system start : System} {event : Event} {events : List Event}
variable {flag : Flags} {ctx : XdpContext} {kernel : Kernel} {key : ConnectionTuple}
variable {state written : FlowState} {time clock : UInt64}

def lifetime (seenReply : Bool) : UInt64 := if seenReply then timeoutEst else timeoutNew

/-- What `seen_reply` is once a frame has hit the entry. -/
def FlowState.answered (state : FlowState) : Bool := state.seenReply || state.direction = .reply

/-- The entry as of `time`. -/
def renewed (time : UInt64) (state : FlowState) : FlowState :=
  { state with seenReply := state.answered, timeout := time + lifetime state.answered }

def Fits (time : UInt64) : Prop := time.toNat + timeoutEst.toNat < 2 ^ 64

instance : Decidable (Fits time) := inferInstanceAs (Decidable (_ < _))

def Due (time : UInt64) (state : FlowState) : Prop :=
  state.answered ≠ state.seenReply ∨
    state.timeout.toNat + thresholdNs.toNat < time.toNat + (lifetime state.answered).toNat

instance : Decidable (Due time state) := inferInstanceAs (Decidable (_ ∨ _))

theorem lifetime_le (seenReply : Bool) : (lifetime seenReply).toNat ≤ timeoutEst.toNat := by
  cases seenReply <;> decide

theorem lifetime_mono {less more : Bool} (implied : less = true → more = true) :
    (lifetime less).toNat ≤ (lifetime more).toNat := by
  cases less with
  | false => cases more <;> decide
  | true =>
      rw [implied rfl]

theorem answered_of_seenReply (seen : state.seenReply = true) : state.answered = true := by
  rw [FlowState.answered, seen, Bool.true_or]

theorem add_lifetime_toNat (fits : Fits time) (seenReply : Bool) :
    (time + lifetime seenReply).toNat = time.toNat + (lifetime seenReply).toNat := by
  have bound := lifetime_le seenReply
  rw [UInt64.toNat_add]
  exact Nat.mod_eq_of_lt (Nat.lt_of_le_of_lt (Nat.add_le_add_left bound _) fits)

/-- The guarded subtraction of the source, in numbers. -/
theorem gains_iff {expected timeout : UInt64} :
    (expected > timeout ∧ expected - timeout > thresholdNs) ↔
      timeout.toNat + thresholdNs.toNat < expected.toNat := by
  constructor
  · intro gains
    obtain ⟨later, gain⟩ := gains
    have difference := UInt64.toNat_sub_of_le expected timeout (UInt64.le_of_lt later)
    rw [GT.gt, UInt64.lt_iff_toNat_lt] at later gain
    omega
  · intro gain
    have later : timeout < expected := by
      rw [UInt64.lt_iff_toNat_lt]
      omega
    have difference := UInt64.toNat_sub_of_le expected timeout (UInt64.le_of_lt later)
    refine ⟨later, ?_⟩
    rw [GT.gt, UInt64.lt_iff_toNat_lt]
    omega

theorem refresh_eq (fits : Fits time) :
    refresh time state = if Due time state then some (renewed time state) else none := by
  obtain ⟨nat, direction, seenReply, timeout⟩ := state
  cases direction with
  | original =>
      have same : FlowState.answered ⟨nat, .original, seenReply, timeout⟩ = seenReply := by
        simp [FlowState.answered]
      have due : Due time ⟨nat, .original, seenReply, timeout⟩ ↔
          time + lifetime seenReply > timeout ∧ time + lifetime seenReply - timeout > thresholdNs := by
        rw [gains_iff, add_lifetime_toNat fits, Due, same]
        simp
      simp only [due, renewed, same]
      rfl
  | reply =>
      have seen : FlowState.answered ⟨nat, .reply, seenReply, timeout⟩ = true := by
        simp [FlowState.answered]
      have due : Due time ⟨nat, .reply, seenReply, timeout⟩ ↔ (!seenReply) = true ∨
          time + lifetime true > timeout ∧ time + lifetime true - timeout > thresholdNs := by
        rw [gains_iff, add_lifetime_toNat fits, Due, seen]
        cases seenReply <;> simp
      simp only [due, renewed, seen]
      rfl

theorem renewed_timeout (fits : Fits time) : (renewed time state).timeout.toNat =
    time.toNat + (lifetime state.answered).toNat :=
  add_lifetime_toNat fits state.answered

def Event.TimesFit (event : Event) : Prop := ∀ now ∈ event.reading, Fits now

instance : DecidablePred Event.TimesFit := fun event =>
  Option.decidableForallMem event.reading

/-- A clock that does not go back and stays clear of an overflow. -/
structure Event.Clocked (system : System) (event : Event) : Prop where
  forward : event.ReadsForward system
  fits : event.TimesFit

instance (system : System) : DecidablePred (Event.Clocked system) := fun event =>
  decidable_of_iff (event.ReadsForward system ∧ event.TimesFit)
    ⟨fun both => ⟨both.1, both.2⟩, fun clocked => ⟨clocked.forward, clocked.fits⟩⟩

/-- The entry ends within its lifetime from the clock reading on. -/
def Timely (clock : UInt64) (state : FlowState) : Prop :=
  state.timeout.toNat ≤ clock.toNat + (lifetime state.seenReply).toNat

def System.Timely (system : System) : Prop :=
  ∀ key state, system.udpConntrack.get key = some state → XdpNatd.Timely system.clock state

theorem Timely.later (timely : Timely clock state) (later : clock ≤ time) : Timely time state := by
  rw [UInt64.le_iff_toNat_le] at later
  unfold Timely at timely ⊢
  omega

/-- The lookups after a hit: the entry as of now and its copy under the reverse
key if a refresh was due, and nothing new otherwise. -/
theorem get_step_hit {hit : ConnectionTuple} (fits : Fits kernel.ktimeGetCoarseNs)
    (hits : outcome flag kernel system.maps ctx = .hits hit state) (key : ConnectionTuple) :
    (system.step (.frame flag ctx kernel)).udpConntrack.get key =
      if Due kernel.ktimeGetCoarseNs state then
        if key = hit then some (renewed kernel.ktimeGetCoarseNs state)
        else if key = reverseKey flag hit state.nat then
          (system.udpConntrack.get key).map (copyToReverse (renewed kernel.ktimeGetCoarseNs state))
        else system.udpConntrack.get key
      else system.udpConntrack.get key := by
  obtain ⟨_, found⟩ := hits_spec hits
  rw [step_frame_conntrack, tryXdpRedirect_conntrack, hits]
  change (touch system.udpConntrack _ _ _ _).get key = _
  have written : refresh kernel.ktimeGetCoarseNs state = _ := refresh_eq fits
  by_cases due : Due kernel.ktimeGetCoarseNs state
  · rw [if_pos due] at written ⊢
    by_cases own : key = hit
    · subst own
      rw [if_pos rfl]
      exact get_touch_key found written
    · rw [if_neg own]
      by_cases isReverse : key = reverseKey flag hit state.nat
      · subst isReverse
        rw [if_pos rfl]
        exact (get_touch found own written).2
      · rw [if_neg isReverse, get_touch_other own isReverse]
  · rw [if_neg due] at written ⊢
    rw [touch_unrefreshed written]

theorem get_step_passes (passes : outcome flag kernel system.maps ctx = .passes) :
    (system.step (.frame flag ctx kernel)).udpConntrack = system.udpConntrack := by
  rw [step_frame_conntrack, tryXdpRedirect_conntrack, passes]
  rfl

/-- What an entry holds after an event it held before, or it reads as of now. -/
theorem step_get_cases (fits : event.TimesFit)
    (stored : (system.step event).udpConntrack.get key = some state) :
    system.udpConntrack.get key = some state ∨
      ∃ now ∈ event.reading, state.timeout = now + lifetime state.seenReply := by
  cases event with
  | frame flag ctx kernel =>
      rcases outcome_cases flag kernel system.maps ctx with
        passes | ⟨hit, hitState, hits, _, _⟩ | ⟨flow, opens, _, _, _⟩
      · rw [get_step_passes passes] at stored
        exact Or.inl stored
      · rw [get_step_hit (fits _ rfl) hits] at stored
        split at stored
        · split at stored
          · cases stored
            exact Or.inr ⟨_, rfl, rfl⟩
          · split at stored
            · obtain ⟨back, _, rfl⟩ := Option.map_eq_some_iff.mp stored
              exact Or.inr ⟨_, rfl, rfl⟩
            · exact Or.inl stored
        · exact Or.inl stored
      · rw [step_opens_conntrack opens] at stored
        rcases record_cases stored with before | ⟨_, ⟨_, rfl⟩ | ⟨_, rfl⟩⟩
        · exact Or.inl before
        · exact Or.inr ⟨_, rfl, rfl⟩
        · exact Or.inr ⟨_, rfl, rfl⟩
  | sweepAtOnce now => exact Or.inl (get_sweepAtOnce.mp stored).1
  | removeNext => exact Or.inl (removeNext_get stored)
  | exposePort | unexposePort | writeExposeMap | writePnic | beginSweep | examine | endScan =>
      exact Or.inl stored

theorem timely_step (timely : system.Timely) (fits : event.TimesFit) : (system.step event).Timely := by
  intro key state stored
  rcases step_get_cases fits stored with before | ⟨now, read, timeout⟩
  · exact (timely key state before).later clock_le_step
  · have reached : Timely now state := by
      rw [Timely, timeout, add_lifetime_toNat (fits now read)]
    exact reached.later (reading_le_step read)

theorem timely_run {guard : System → Event → Prop} (empty : start.udpConntrack = .empty)
    (fits : ∀ system event, guard system event → event.TimesFit)
    (guarded : Guarded System.step guard start events) : (run System.step start events).Timely := by
  have preserved : ∀ (system : System) (event : Event), system.Timely → guard system event →
      (system.step event).Timely :=
    fun system event timely guards => timely_step timely (fits system event guards)
  refine guarded.invariant preserved fun key state stored => ?_
  rw [empty, BoundedMap.get_empty] at stored
  cases stored

/-- A renewed entry ends no earlier than any entry with no more of an answer. -/
theorem renewed_later {other : FlowState} (timely : Timely clock other) (forward : clock ≤ time)
    (fits : Fits time) (implied : other.seenReply = true → state.answered = true) :
    other.timeout ≤ (renewed time state).timeout := by
  have now := timely.later forward
  have longer := lifetime_mono implied
  rw [UInt64.le_iff_toNat_le, renewed_timeout fits]
  unfold Timely at now
  omega

end XdpNatd
