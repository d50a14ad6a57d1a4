import XdpNatd.Data.Run

namespace XdpNatd.Data

/-! Writes that overwrite each other.

Every write is of a kind. Of two writes of one kind the later one counts, and
writes of different kinds do not meet.  What a run of such writes leaves behind is
then decided by the latest write of each kind, however many there were before it.
-/

/-- Writes on the legal states, with what they owe to each other. -/
structure Overwriting (κ ω σ : Type) where
  kind : ω → κ
  write : σ → ω → σ
  Legal : σ → Prop
  legal : ∀ state next, Legal state → Legal (write state next)
  absorbs : ∀ state first later, Legal state → kind later = kind first →
    write (write state first) later = write state later
  commutes : ∀ state first later, Legal state → kind later ≠ kind first →
    write (write state first) later = write (write state later) first

namespace Overwriting

variable {κ ω σ : Type} {writes : Overwriting κ ω σ} {state : σ}
variable {first later : ω} {rest all : List ω}

theorem legal_run (legal : writes.Legal state) : writes.Legal (run writes.write state all) := by
  induction all generalizing state with
  | nil => exact legal
  | cons first rest ih => exact ih (writes.legal state first legal)

/-- A write may wait until all writes of other kinds are done. -/
theorem run_postponed (legal : writes.Legal state)
    (different : ∀ later ∈ rest, writes.kind later ≠ writes.kind first) :
    run writes.write (writes.write state first) rest =
      writes.write (run writes.write state rest) first := by
  induction rest generalizing state with
  | nil => rfl
  | cons later rest ih =>
      obtain ⟨differs, different⟩ := List.forall_mem_cons.mp different
      rw [run_cons, run_cons, writes.commutes state first later legal differs]
      exact ih (writes.legal state later legal) different

/-- What was written last of a kind stays written. -/
theorem write_run_of_distinct (legal : writes.Legal state)
    (distinct : all.Pairwise fun first later => writes.kind later ≠ writes.kind first)
    (member : later ∈ all) :
    writes.write (run writes.write state all) later = run writes.write state all := by
  induction all generalizing state with
  | nil => cases member
  | cons first rest ih =>
      obtain ⟨different, distinct⟩ := List.pairwise_cons.mp distinct
      rcases List.mem_cons.mp member with rfl | member
      · rw [run_cons, run_postponed legal different]
        exact writes.absorbs _ later later (legal_run legal) rfl
      · exact ih (writes.legal state first legal) distinct member

theorem run_settled (settled : ∀ later ∈ all, writes.write state later = state) :
    run writes.write state all = state := by
  induction all with
  | nil => rfl
  | cons first rest ih =>
      obtain ⟨same, settled⟩ := List.forall_mem_cons.mp settled
      rw [run_cons, same]
      exact ih settled

variable [DecidableEq κ]

/-- The writes that no later write of their kind follows, in their order. -/
def latest (writes : Overwriting κ ω σ) : List ω → List ω
  | [] => []
  | first :: rest =>
      if ∃ later ∈ rest, writes.kind later = writes.kind first then writes.latest rest
      else first :: writes.latest rest

theorem mem_of_mem_latest (member : later ∈ writes.latest all) : later ∈ all := by
  induction all with
  | nil => exact member
  | cons first rest ih =>
      unfold latest at member
      split at member
      · exact List.mem_cons_of_mem _ (ih member)
      · rcases List.mem_cons.mp member with rfl | member
        · exact List.mem_cons_self
        · exact List.mem_cons_of_mem _ (ih member)

theorem latest_distinct : (writes.latest all).Pairwise fun first later =>
    writes.kind later ≠ writes.kind first := by
  induction all with
  | nil => exact List.Pairwise.nil
  | cons first rest ih =>
      unfold latest
      split
      · exact ih
      · next last =>
          refine List.pairwise_cons.mpr ⟨?_, ih⟩
          intro later member same
          exact last ⟨later, mem_of_mem_latest member, same⟩

theorem run_superseded (legal : writes.Legal state)
    (superseded : ∃ later ∈ rest, writes.kind later = writes.kind first) :
    run writes.write (writes.write state first) rest = run writes.write state rest := by
  induction rest generalizing state with
  | nil => simp at superseded
  | cons next rest ih =>
      rw [run_cons, run_cons]
      by_cases same : writes.kind next = writes.kind first
      · rw [writes.absorbs state first next legal same]
      · have further : ∃ later ∈ rest, writes.kind later = writes.kind first := by
          obtain ⟨later, member, sameKind⟩ := superseded
          rcases List.mem_cons.mp member with rfl | member
          · exact absurd sameKind same
          · exact ⟨later, member, sameKind⟩
        rw [writes.commutes state first next legal same]
        exact ih (writes.legal state next legal) further

/-- Only the latest write of each kind counts. -/
theorem run_latest (legal : writes.Legal state) :
    run writes.write state all = run writes.write state (writes.latest all) := by
  induction all generalizing state with
  | nil => rfl
  | cons first rest ih =>
      unfold latest
      split
      · next superseded =>
          rw [run_cons, run_superseded legal superseded]
          exact ih legal
      · exact ih (writes.legal state first legal)

/-- A run of writes changes nothing exactly when each latest write finds written
what it writes. -/
theorem run_eq_self_iff (legal : writes.Legal state) :
    run writes.write state all = state ↔
      ∀ later ∈ writes.latest all, writes.write state later = state := by
  rw [run_latest legal]
  constructor
  · intro unchanged later member
    have settled := write_run_of_distinct legal latest_distinct member
    rwa [unchanged] at settled
  · exact run_settled

end Overwriting

end XdpNatd.Data
