import Mathlib.Data.List.Induction

namespace XdpNatd.Data

/-! Runs of a deterministic machine under a guard.

A machine is a total step function.  A guard says, in the state it finds, which
next steps a run may take; `Guarded` is the proposition that every step of a run
meets it.  The rules are the ones a safety proof needs: an invariant that each
guarded step keeps holds after the run, and a property that the run gained was
gained at one step and kept from there on.
-/

variable {σ ε : Type} (step : σ → ε → σ)

def run (state : σ) (events : List ε) : σ := events.foldl step state

@[simp] theorem run_nil (state : σ) : run step state [] = state := rfl

@[simp] theorem run_cons (state : σ) (event : ε) (events : List ε) :
    run step state (event :: events) = run step (step state event) events := rfl

@[simp] theorem run_append (state : σ) (first second : List ε) :
    run step state (first ++ second) = run step (run step state first) second := by
  simp [run]

/-- Every step of the run meets the guard in the state that it finds. -/
def Guarded (guard : σ → ε → Prop) (state : σ) : List ε → Prop
  | [] => True
  | event :: events => guard state event ∧ Guarded guard (step state event) events

variable {step} {guard weaker : σ → ε → Prop} {state : σ} {first second events : List ε}

instance Guarded.decidable [∀ state event, Decidable (guard state event)] :
    ∀ (events : List ε) (state : σ), Decidable (Guarded step guard state events)
  | [], _ => isTrue trivial
  | event :: events, state =>
      have := Guarded.decidable events (step state event)
      inferInstanceAs (Decidable (guard state event ∧ Guarded step guard (step state event) events))

theorem guarded_append :
    Guarded step guard state (first ++ second) ↔
      Guarded step guard state first ∧ Guarded step guard (run step state first) second := by
  induction first generalizing state with
  | nil => simp [Guarded]
  | cons event rest ih => simp only [List.cons_append, Guarded, ih, run_cons, and_assoc]

/-- A run is guarded when each of its steps is, in the state that the steps
before it lead to. -/
theorem guarded_iff : Guarded step guard state events ↔
    ∀ before event after, events = before ++ event :: after →
      guard (run step state before) event := by
  constructor
  · intro guarded before event after shape
    subst shape
    exact (guarded_append.mp guarded).2.1
  · intro each
    induction events generalizing state with
    | nil => trivial
    | cons event rest ih =>
        refine ⟨each [] event rest rfl, ih ?_⟩
        intro before later after shape
        exact each (event :: before) later after (by rw [shape]; rfl)

theorem Guarded.weaken (implied : ∀ state event, guard state event → weaker state event)
    (guarded : Guarded step guard state events) : Guarded step weaker state events := by
  induction events generalizing state with
  | nil => trivial
  | cons event rest ih => exact ⟨implied state event guarded.1, ih guarded.2⟩

theorem Guarded.and {other : σ → ε → Prop} (guarded : Guarded step guard state events)
    (too : Guarded step other state events) :
    Guarded step (fun state event => guard state event ∧ other state event) state events := by
  induction events generalizing state with
  | nil => trivial
  | cons event rest ih => exact ⟨⟨guarded.1, too.1⟩, ih guarded.2 too.2⟩

/-- The invariant rule: what holds at first and survives each guarded step
holds after the run. -/
theorem Guarded.invariant {invariant : σ → Prop}
    (preserved : ∀ state event, invariant state → guard state event → invariant (step state event))
    (holds : invariant state) (guarded : Guarded step guard state events) :
    invariant (run step state events) := by
  induction events generalizing state with
  | nil => exact holds
  | cons event rest ih => exact ih (preserved state event holds guarded.1) guarded.2

/-- The simulation rule: two machines that are related at first, and by each
guarded step of the first, are related after the run. -/
theorem Guarded.simulation {τ : Type} {step' : τ → ε → τ} {related : σ → τ → Prop} {other : τ}
    (preserved : ∀ state other event, related state other → guard state event →
      related (step state event) (step' other event))
    (holds : related state other) (guarded : Guarded step guard state events) :
    related (run step state events) (run step' other events) := by
  induction events generalizing state other with
  | nil => exact holds
  | cons event rest ih => exact ih (preserved state other event holds guarded.1) guarded.2

/-- The invariant rule for invariants that speak of the run so far. -/
theorem Guarded.history {invariant : List ε → σ → Prop} (holds : invariant [] state)
    (preserved : ∀ past event, invariant past (run step state past) →
      guard (run step state past) event →
      invariant (past ++ [event]) (step (run step state past) event))
    (guarded : Guarded step guard state events) : invariant events (run step state events) := by
  induction events using List.reverseRecOn with
  | nil => exact holds
  | append_singleton past event ih =>
      obtain ⟨early, last, _⟩ := guarded_append.mp guarded
      rw [run_append]
      exact preserved past event (ih early) last

/-- Some step of the run is of this kind, in the state that it finds. -/
def Occurs (step : σ → ε → σ) (kind : σ → ε → Prop) (state : σ) (events : List ε) : Prop :=
  ∃ before event after, events = before ++ event :: after ∧ kind (run step state before) event

theorem not_occurs_nil {kind : σ → ε → Prop} : ¬ Occurs step kind state [] := by
  intro occurs
  obtain ⟨before, event, after, shape, _⟩ := occurs
  exact absurd shape.symm (List.append_ne_nil_of_right_ne_nil before (List.cons_ne_nil event after))

theorem occurs_concat {kind : σ → ε → Prop} {past : List ε} {event : ε} :
    Occurs step kind state (past ++ [event]) ↔
      Occurs step kind state past ∨ kind (run step state past) event := by
  constructor
  · intro occurs
    obtain ⟨before, found, after, shape, happens⟩ := occurs
    rcases List.eq_nil_or_concat after with empty | ⟨shorter, last, ends⟩
    · subst empty
      obtain ⟨rfl, same⟩ := List.append_inj' shape rfl
      cases same
      exact Or.inr happens
    · subst ends
      rw [List.concat_eq_append, ← List.cons_append, ← List.append_assoc] at shape
      exact Or.inl ⟨before, found, shorter, List.append_inj_left' shape rfl, happens⟩
  · intro occurs
    rcases occurs with ⟨before, found, after, shape, happens⟩ | happens
    · exact ⟨before, found, after ++ [event], by simp [shape], happens⟩
    · exact ⟨past, event, [], rfl, happens⟩

/-- What holds of every prefix of a list and of the list with one more element
holds of every prefix of the longer list. -/
theorem forall_prefix_concat {α : Type} {property : List α → Prop} {front : List α} {last : α}
    (earlier : ∀ kept rest, front = kept ++ rest → property kept) (whole : property (front ++ [last])) :
    ∀ kept rest, front ++ [last] = kept ++ rest → property kept := by
  intro kept rest split
  rcases List.eq_nil_or_concat rest with empty | ⟨shorter, final, ends⟩
  · have all : kept = front ++ [last] := by simpa [empty] using split.symm
    exact all ▸ whole
  · subst ends
    rw [List.concat_eq_append, ← List.append_assoc] at split
    exact earlier kept shorter (List.append_inj_left' split rfl)

/-- A property that holds after the run and not before it was established by
one step of the run, and no later step lost it. -/
theorem exists_established {property : σ → Prop} (absent : ¬ property state)
    (holds : property (run step state events)) :
    ∃ before event after, events = before ++ event :: after ∧
      ¬ property (run step state before) ∧
      ∀ kept rest, after = kept ++ rest → property (run step state (before ++ event :: kept)) := by
  induction events using List.reverseRecOn with
  | nil => exact absurd holds absent
  | append_singleton earlier last ih =>
      by_cases already : property (run step state earlier)
      · obtain ⟨before, event, after, shape, missing, lasting⟩ := ih already
        refine ⟨before, event, after ++ [last], by simp [shape], missing, ?_⟩
        refine forall_prefix_concat lasting ?_
        rw [← List.cons_append, ← List.append_assoc, ← shape]
        exact holds
      · refine ⟨earlier, last, [], by simp, already, ?_⟩
        intro kept rest split
        obtain ⟨rfl, rfl⟩ := List.append_eq_nil_iff.mp split.symm
        exact holds

section Trace

variable {τ : Type} {emit : σ → ε → List τ}

/-- The labels that the steps of a run emit, each in the state that it finds. -/
def trace (step : σ → ε → σ) (emit : σ → ε → List τ) (state : σ) : List ε → List τ
  | [] => []
  | event :: events => emit state event ++ trace step emit (step state event) events

@[simp] theorem trace_nil : trace step emit state [] = [] := rfl

theorem trace_append : trace step emit state (first ++ second) =
    trace step emit state first ++ trace step emit (run step state first) second := by
  induction first generalizing state with
  | nil => rfl
  | cons event rest ih => simp only [List.cons_append, trace, ih, run_cons, List.append_assoc]

theorem trace_concat {event : ε} : trace step emit state (events ++ [event]) =
    trace step emit state events ++ emit (run step state events) event := by
  rw [trace_append, trace, trace_nil, List.append_nil]

theorem mem_trace {label : τ} : label ∈ trace step emit state events ↔
    ∃ before event after, events = before ++ event :: after ∧
      label ∈ emit (run step state before) event := by
  induction events using List.reverseRecOn with
  | nil => simp
  | append_singleton earlier last ih =>
      rw [trace_concat, List.mem_append, ih]
      constructor
      · intro told
        rcases told with ⟨before, event, after, shape, told⟩ | told
        · exact ⟨before, event, after ++ [last], by simp [shape], told⟩
        · exact ⟨earlier, last, [], rfl, told⟩
      · intro told
        obtain ⟨before, event, after, shape, told⟩ := told
        rcases List.eq_nil_or_concat after with rfl | ⟨shorter, final, rfl⟩
        · obtain ⟨rfl, same⟩ := List.append_inj' shape rfl
          cases same
          exact Or.inr told
        · rw [List.concat_eq_append, ← List.cons_append, ← List.append_assoc] at shape
          exact Or.inl ⟨before, event, shorter, List.append_inj_left' shape rfl, told⟩

/-- The invariant rule for a run and what it has told so far. -/
theorem Guarded.traced {invariant : List τ → σ → Prop} (holds : invariant [] state)
    (preserved : ∀ told state event, invariant told state → guard state event →
      invariant (told ++ emit state event) (step state event))
    (guarded : Guarded step guard state events) :
    invariant (trace step emit state events) (run step state events) := by
  refine @Guarded.history _ _ _ _ _ _ (fun past state' => invariant (trace step emit state past) state')
    holds ?_ guarded
  intro past event sofar guards
  rw [trace_concat]
  exact preserved _ _ event sofar guards

end Trace

end XdpNatd.Data
