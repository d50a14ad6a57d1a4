import Mathlib.Data.Set.Basic

namespace XdpNatd.Data

/-! Tables whose entries come in pairs.

A link says of two entries that they belong together; an entry alone determines
where its partner is.  A table is paired on a set of keys when every entry under
one of them has its partner in the table, wherever that is.  The table is a
lookup function, so the rules apply to any store and to any projection of it.
-/

variable {κ ν : Type}

/-- When two entries are the two halves of one thing. -/
structure Link (κ ν : Type) where
  linked : κ → ν → κ → ν → Prop
  symm : ∀ {key value partner other},
    linked key value partner other → linked partner other key value
  unique : ∀ {key value partner other partner' other'},
    linked key value partner other → linked key value partner' other' → partner = partner'

/-- The link between entries under keys of a set only. -/
def Link.within (link : Link κ ν) (keys : Set κ) : Link κ ν where
  linked key value partner other := link.linked key value partner other ∧ key ∈ keys ∧ partner ∈ keys
  symm := fun ⟨linked, keyInside, partnerInside⟩ => ⟨link.symm linked, partnerInside, keyInside⟩
  unique := fun ⟨linked, _⟩ ⟨linked', _⟩ => link.unique linked linked'

def PairedOn (link : Link κ ν) (on : Set κ) (lookup : κ → Option ν) : Prop :=
  ∀ key ∈ on, ∀ value, lookup key = some value →
    ∃ partner other, lookup partner = some other ∧ link.linked key value partner other

namespace PairedOn

variable {link : Link κ ν} {on : Set κ} {lookup after : κ → Option ν}
variable {key partner left right : κ} {value other leftValue rightValue : ν}

theorem empty (nothing : ∀ key, lookup key = none) : PairedOn link on lookup := by
  intro key _ value stored
  cases (nothing key).symm.trans stored

theorem relink {weaker : Link κ ν} (paired : PairedOn link on lookup)
    (implied : ∀ key ∈ on, ∀ value partner other, lookup key = some value →
      lookup partner = some other → link.linked key value partner other →
      weaker.linked key value partner other) :
    PairedOn weaker on lookup := by
  intro key member value stored
  obtain ⟨partner, other, found, linked⟩ := paired key member value stored
  exact ⟨partner, other, found, implied key member value partner other stored found linked⟩

/-- Entries may be added when each new one on the set comes with its partner. -/
theorem extend (paired : PairedOn link on lookup)
    (kept : ∀ key value, lookup key = some value → after key = some value)
    (fresh : ∀ key ∈ on, ∀ value, lookup key = none → after key = some value →
      ∃ partner other, after partner = some other ∧ link.linked key value partner other) :
    PairedOn link on after := by
  intro key member value stored
  cases before : lookup key with
  | none => exact fresh key member value before stored
  | some old =>
      have unchanged : old = value := Option.some.inj ((kept key old before).symm.trans stored)
      subst unchanged
      obtain ⟨partner, other, found, linked⟩ := paired key member old before
      exact ⟨partner, other, kept partner other found, linked⟩

/-- Entries may be dropped when each one that stays keeps its partner. -/
theorem shrink {within : Set κ} (paired : PairedOn link on lookup)
    (smaller : ∀ key ∈ within, ∀ value, after key = some value → key ∈ on ∧ lookup key = some value)
    (closed : ∀ key ∈ within, ∀ value partner other, after key = some value →
      lookup partner = some other → link.linked key value partner other →
      after partner = some other) :
    PairedOn link within after := by
  intro key member value stored
  obtain ⟨inside, before⟩ := smaller key member value stored
  obtain ⟨partner, other, found, linked⟩ := paired key inside value before
  exact ⟨partner, other, closed key member value partner other stored found linked, linked⟩

/-- The two halves of a pair may be rewritten together. -/
theorem replace (paired : PairedOn link on lookup)
    (found : lookup key = some value) (linked : link.linked key value partner other)
    (keyAfter : after key = some leftValue) (partnerAfter : after partner = some rightValue)
    (relinked : link.linked key leftValue partner rightValue)
    (elsewhere : ∀ next, next ≠ key → next ≠ partner → after next = lookup next)
    (foundOther : lookup partner = some other) : PairedOn link on after := by
  intro next member nextValue stored
  by_cases isKey : next = key
  · subst isKey
    cases keyAfter.symm.trans stored
    exact ⟨partner, rightValue, partnerAfter, relinked⟩
  · by_cases isPartner : next = partner
    · subst isPartner
      cases partnerAfter.symm.trans stored
      exact ⟨key, leftValue, keyAfter, link.symm relinked⟩
    · rw [elsewhere next isKey isPartner] at stored
      obtain ⟨third, thirdValue, thirdFound, thirdLinked⟩ := paired next member nextValue stored
      -- the partner of a third entry is neither of the two
      have thirdNotKey : third ≠ key := by
        rintro rfl
        cases found.symm.trans thirdFound
        exact isPartner (link.unique (link.symm thirdLinked) linked)
      have thirdNotPartner : third ≠ partner := by
        rintro rfl
        cases foundOther.symm.trans thirdFound
        exact isKey (link.unique (link.symm thirdLinked) (link.symm linked))
      exact ⟨third, thirdValue, (elsewhere third thirdNotKey thirdNotPartner).trans thirdFound,
        thirdLinked⟩

/-- Entries that lead to the same partner are the same entry. -/
theorem injective (paired : PairedOn link on lookup) (leftOn : left ∈ on) (rightOn : right ∈ on)
    (leftFound : lookup left = some leftValue) (rightFound : lookup right = some rightValue)
    (meet : ∀ {first firstValue second secondValue},
      link.linked left leftValue first firstValue → link.linked right rightValue second secondValue →
      first = second) : left = right := by
  obtain ⟨first, firstValue, firstFound, leftLinked⟩ := paired left leftOn leftValue leftFound
  obtain ⟨second, secondValue, secondFound, rightLinked⟩ := paired right rightOn rightValue rightFound
  cases meet leftLinked rightLinked
  cases firstFound.symm.trans secondFound
  exact link.unique (link.symm leftLinked) (link.symm rightLinked)

end PairedOn

end XdpNatd.Data
