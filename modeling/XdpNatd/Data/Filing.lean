import Mathlib.Data.Set.Card

namespace XdpNatd.Data

/-! Things that are filed under several keys.

A store that finds one thing from more than one side keeps an entry of it under
each of its keys.  `Represents` says that a lookup function is the filing of a set
of things: it finds their entries and nothing else, and no two of them meet under
a key.  The rules give the set of things after what such a store does to its
entries, however it does it.
-/

/-- Where a thing of `α` is filed, and as what, on each of its sides. -/
structure Filing (κ ν ι α : Type) where
  key : α → ι → κ
  entry : α → ι → ν

namespace Filing

variable {κ ν ι α : Type} {filing : Filing κ ν ι α}

structure Represents (filing : Filing κ ν ι α) (things : Set α) (lookup : κ → Option ν) : Prop where
  lookup_iff : ∀ key value, lookup key = some value ↔
    ∃ thing ∈ things, ∃ side, filing.key thing side = key ∧ filing.entry thing side = value
  apart : ∀ left ∈ things, ∀ right ∈ things, ∀ leftSide rightSide,
    filing.key left leftSide = filing.key right rightSide → left = right ∧ leftSide = rightSide

namespace Represents

variable {things : Set α} {lookup after : κ → Option ν} {key : κ} {thing new : α}

theorem empty (nothing : ∀ key, lookup key = none) : filing.Represents ∅ lookup where
  lookup_iff key value := by simp [nothing]
  apart left member := member.elim

theorem found (represents : filing.Represents things lookup) (member : thing ∈ things) (side : ι) :
    lookup (filing.key thing side) = some (filing.entry thing side) :=
  (represents.lookup_iff _ _).mpr ⟨thing, member, side, rfl, rfl⟩

theorem missed_iff (represents : filing.Represents things lookup) :
    lookup key = none ↔ ∀ thing ∈ things, ∀ side, filing.key thing side ≠ key := by
  constructor
  · intro missed thing member side under
    have stored := represents.found member side
    rw [under, missed] at stored
    cases stored
  · intro nowhere
    cases stored : lookup key with
    | none => rfl
    | some value =>
        obtain ⟨thing, member, side, under, _⟩ := (represents.lookup_iff key value).mp stored
        exact absurd under (nowhere thing member side)

/-- A new thing may be filed when all of its keys are free. -/
theorem insert (represents : filing.Represents things lookup)
    (injective : Function.Injective (filing.key new))
    (free : ∀ side, lookup (filing.key new side) = none)
    (filed : ∀ side, after (filing.key new side) = some (filing.entry new side))
    (elsewhere : ∀ key, (∀ side, key ≠ filing.key new side) → after key = lookup key) :
    filing.Represents (Insert.insert new things) after := by
  have unmet : ∀ thing ∈ things, ∀ side newSide, filing.key thing side ≠ filing.key new newSide :=
    fun thing member side newSide => represents.missed_iff.mp (free newSide) thing member side
  constructor
  · intro key value
    by_cases under : ∃ side, key = filing.key new side
    · obtain ⟨side, rfl⟩ := under
      rw [filed side, Option.some.injEq]
      constructor
      · intro same
        exact ⟨new, Set.mem_insert _ _, side, rfl, same⟩
      · intro stored
        obtain ⟨thing, member, found, under, same⟩ := stored
        rcases Set.mem_insert_iff.mp member with rfl | earlier
        · rw [← same, injective under]
        · exact absurd under (unmet thing earlier found side)
    · have apart : ∀ side, key ≠ filing.key new side := not_exists.mp under
      rw [elsewhere key apart, represents.lookup_iff]
      constructor
      · intro stored
        obtain ⟨thing, member, rest⟩ := stored
        exact ⟨thing, Set.mem_insert_of_mem _ member, rest⟩
      · intro stored
        obtain ⟨thing, member, side, found, same⟩ := stored
        rcases Set.mem_insert_iff.mp member with rfl | earlier
        · exact absurd found.symm (apart side)
        · exact ⟨thing, earlier, side, found, same⟩
  · intro left leftMember right rightMember leftSide rightSide meet
    rcases Set.mem_insert_iff.mp leftMember with rfl | leftEarlier
    · rcases Set.mem_insert_iff.mp rightMember with rfl | rightEarlier
      · exact ⟨rfl, injective meet⟩
      · exact absurd meet.symm (unmet right rightEarlier rightSide leftSide)
    · rcases Set.mem_insert_iff.mp rightMember with rfl | rightEarlier
      · exact absurd meet (unmet left leftEarlier leftSide rightSide)
      · exact represents.apart left leftEarlier right rightEarlier leftSide rightSide meet

/-- Each thing may change in place as long as it stays under its keys. -/
theorem update {change : α → α} (represents : filing.Represents things lookup)
    (stays : ∀ thing side, filing.key (change thing) side = filing.key thing side)
    (changed : ∀ thing ∈ things, ∀ side,
      after (filing.key thing side) = some (filing.entry (change thing) side))
    (free : ∀ key, lookup key = none → after key = none) :
    filing.Represents (change '' things) after := by
  constructor
  · intro key value
    constructor
    · intro stored
      cases before : lookup key with
      | none => cases (free key before).symm.trans stored
      | some old =>
          obtain ⟨thing, member, side, rfl, _⟩ := (represents.lookup_iff key old).mp before
          rw [changed thing member side, Option.some.injEq] at stored
          exact ⟨change thing, Set.mem_image_of_mem _ member, side, stays thing side, stored⟩
    · intro filed
      obtain ⟨_, ⟨thing, member, rfl⟩, side, rfl, rfl⟩ := filed
      rw [stays, changed thing member side]
  · intro _ leftMember _ rightMember leftSide rightSide meet
    obtain ⟨left, leftEarlier, rfl⟩ := leftMember
    obtain ⟨right, rightEarlier, rfl⟩ := rightMember
    rw [stays, stays] at meet
    obtain ⟨rfl, same⟩ := represents.apart left leftEarlier right rightEarlier _ _ meet
    exact ⟨rfl, same⟩

/-- Things may go by a test on entries that treats all sides of a thing alike. -/
theorem retain (represents : filing.Represents things lookup) (keep : ν → Bool) (kept : Set α)
    (alike : ∀ thing ∈ things, ∀ side, keep (filing.entry thing side) = true ↔ thing ∈ kept) :
    filing.Represents (things ∩ kept) (fun key => (lookup key).filter keep) where
  lookup_iff key value := by
    rw [Option.filter_eq_some_iff, represents.lookup_iff]
    constructor
    · intro stays
      obtain ⟨⟨thing, member, side, under, rfl⟩, keeps⟩ := stays
      exact ⟨thing, ⟨member, (alike thing member side).mp keeps⟩, side, under, rfl⟩
    · intro stays
      obtain ⟨thing, ⟨member, inside⟩, side, under, rfl⟩ := stays
      exact ⟨⟨thing, member, side, under, rfl⟩, (alike thing member side).mpr inside⟩
  apart left leftMember right rightMember :=
    represents.apart left leftMember.1 right rightMember.1

/-- A store has one key in use for each side of each thing. -/
theorem card_keys [Fintype ι] {keys : Finset κ} (represents : filing.Represents things lookup)
    (used : ∀ key, key ∈ keys ↔ (lookup key).isSome) :
    keys.card = things.ncard * Fintype.card ι := by
  have image : (keys : Set κ) = (fun pair : α × ι => filing.key pair.1 pair.2) '' (things ×ˢ Set.univ) := by
    ext key
    rw [Finset.mem_coe, used, Option.isSome_iff_exists]
    constructor
    · intro stored
      obtain ⟨value, stored⟩ := stored
      obtain ⟨thing, member, side, under, _⟩ := (represents.lookup_iff key value).mp stored
      exact ⟨(thing, side), ⟨member, trivial⟩, under⟩
    · intro filed
      obtain ⟨⟨thing, side⟩, ⟨member, _⟩, rfl⟩ := filed
      exact ⟨_, represents.found member side⟩
  have injective : Set.InjOn (fun pair : α × ι => filing.key pair.1 pair.2) (things ×ˢ Set.univ) := by
    intro left leftMember right rightMember meet
    obtain ⟨same, sameSide⟩ := represents.apart _ leftMember.1 _ rightMember.1 _ _ meet
    exact Prod.ext same sameSide
  rw [← Set.ncard_coe_finset, image, injective.ncard_image, Set.ncard_prod,
    Set.ncard_univ, Nat.card_eq_fintype_card]

end Represents

end Filing

end XdpNatd.Data
