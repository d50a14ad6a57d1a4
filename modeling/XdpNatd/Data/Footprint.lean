import Mathlib.Data.Set.Basic

namespace XdpNatd.Data

/-! Operations that look at a part of the state.

A state is read through lookups under keys.  An operation with a result is local
to a set of keys around a state when every state with the same lookups under
these keys gives the same result and the same lookups under them, and when
nothing else changes.  The keys may depend on the state that one starts from.  A
guard leaves out the states in which the operation runs into a shared limit.
-/

variable {σ κ ν ρ ω : Type}

def AgreeOn (lookup : σ → κ → ν) (keys : Set κ) (left right : σ) : Prop :=
  ∀ key ∈ keys, lookup left key = lookup right key

def Apart (keys keys' : Set κ) : Prop := ∀ key ∈ keys, key ∉ keys'

structure LocalAt (lookup : σ → κ → ν) (admits : σ → Prop) (keys : Set κ) (operate : σ → σ × ρ)
    (start : σ) : Prop where
  outside : ∀ state, admits state → AgreeOn lookup keys state start →
    ∀ key ∉ keys, lookup (operate state).1 key = lookup state key
  inside : ∀ state, admits state → AgreeOn lookup keys state start →
    AgreeOn lookup keys (operate state).1 (operate start).1
  result : ∀ state, admits state → AgreeOn lookup keys state start →
    (operate state).2 = (operate start).2

section Commute

variable {lookup : σ → κ → ν} {admits admits' : σ → Prop} {keys keys' : Set κ} {start : σ}
variable {first : σ → σ × ρ} {second : σ → σ × ω}

theorem Apart.symm (apart : Apart keys keys') : Apart keys' keys :=
  fun key other own => apart key own other

theorem AgreeOn.refl (state : σ) : AgreeOn lookup keys state state := fun _ _ => rfl

/-- A local operation does not disturb what is looked up elsewhere. -/
theorem LocalAt.agreeOn (localFirst : LocalAt lookup admits keys first start) (admitted : admits start)
    (apart : Apart keys keys') : AgreeOn lookup keys' (first start).1 start := by
  intro key member
  exact localFirst.outside start admitted (.refl start) key (apart.symm key member)

theorem LocalAt.lookup_both (localFirst : LocalAt lookup admits keys first start)
    (localSecond : LocalAt lookup admits' keys' second start) (apart : Apart keys keys')
    (admitted : admits start) (admittedAfter : admits' (first start).1) {key : κ} (member : key ∈ keys) :
    lookup (second (first start).1).1 key = lookup (first start).1 key :=
  localSecond.outside _ admittedAfter (localFirst.agreeOn admitted apart) key (apart key member)

/-- Operations that are local to separate sets of keys commute. -/
theorem LocalAt.commute (localFirst : LocalAt lookup admits keys first start)
    (localSecond : LocalAt lookup admits' keys' second start) (apart : Apart keys keys')
    (firstAdmitted : admits start) (secondAdmitted : admits' start)
    (firstAfter : admits (second start).1) (secondAfter : admits' (first start).1) :
    (second (first start).1).2 = (second start).2 ∧ (first (second start).1).2 = (first start).2 ∧
      ∀ key, lookup (second (first start).1).1 key = lookup (first (second start).1).1 key := by
  have afterFirst := localFirst.agreeOn firstAdmitted apart
  have afterSecond := localSecond.agreeOn secondAdmitted apart.symm
  refine ⟨localSecond.result _ secondAfter afterFirst, localFirst.result _ firstAfter afterSecond, ?_⟩
  intro key
  by_cases own : key ∈ keys
  · calc lookup (second (first start).1).1 key
        = lookup (first start).1 key :=
          localFirst.lookup_both localSecond apart firstAdmitted secondAfter own
      _ = lookup (first (second start).1).1 key :=
          (localFirst.inside _ firstAfter afterSecond key own).symm
  · by_cases other : key ∈ keys'
    · calc lookup (second (first start).1).1 key
          = lookup (second start).1 key := localSecond.inside _ secondAfter afterFirst key other
        _ = lookup (first (second start).1).1 key :=
            (localSecond.lookup_both localFirst apart.symm secondAdmitted firstAfter other).symm
    · rw [localSecond.outside _ secondAfter afterFirst key other,
        localFirst.outside _ firstAdmitted (.refl start) key own,
        localFirst.outside _ firstAfter afterSecond key own,
        localSecond.outside _ secondAdmitted (.refl start) key other]

end Commute

end XdpNatd.Data
