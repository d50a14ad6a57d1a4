import Mathlib.Data.Finmap

namespace XdpNatd.Data

/-! A finite map with a fixed number of slots.

The map is read through `get` alone: two maps with the same lookups are equal,
so no result depends on the order in which keys were inserted.  `insertNew`
refuses a key that is present and a map that is full; `tryInsert` is the same
insertion by a caller that throws the result away.
-/

inductive InsertError where
  | keyExists
  | noFreeSlot
deriving DecidableEq, Repr

/-- A finite map that never holds more than `capacity` keys. -/
structure BoundedMap (κ ν : Type) [DecidableEq κ] (capacity : Nat) where
  entries : Finmap fun _ : κ => ν
  bounded : entries.keys.card ≤ capacity

namespace BoundedMap

variable {κ ν : Type} [DecidableEq κ] {capacity : Nat}
variable {map left right : BoundedMap κ ν capacity} {key other : κ} {value : ν}

instance [DecidableEq ν] : DecidableEq (BoundedMap κ ν capacity) := fun left right =>
  decidable_of_iff (left.entries = right.entries)
    ⟨fun same => by cases left; cases right; cases same; rfl, fun same => same ▸ rfl⟩

def empty : BoundedMap κ ν capacity := ⟨∅, by simp⟩

def get (map : BoundedMap κ ν capacity) (key : κ) : Option ν := map.entries.lookup key

def keys (map : BoundedMap κ ν capacity) : Finset κ := map.entries.keys

def size (map : BoundedMap κ ν capacity) : Nat := map.keys.card

@[simp] theorem get_empty : (empty : BoundedMap κ ν capacity).get key = none := by
  simp [empty, get]

theorem mem_keys : key ∈ map.keys ↔ ∃ value, map.get key = some value := by
  rw [keys, Finmap.mem_keys, Finmap.mem_iff]
  rfl

theorem ext_get (same : ∀ key, left.get key = right.get key) : left = right := by
  obtain ⟨leftEntries, leftBounded⟩ := left
  obtain ⟨rightEntries, rightBounded⟩ := right
  have entries : leftEntries = rightEntries := Finmap.ext_lookup same
  cases entries
  rfl

theorem keys_congr (same : ∀ key, (left.get key).isSome = (right.get key).isSome) :
    left.keys = right.keys := by
  ext key
  rw [mem_keys, mem_keys, ← Option.isSome_iff_exists, ← Option.isSome_iff_exists, same]

private theorem keys_insert (entries : Finmap fun _ : κ => ν) :
    (entries.insert key value).keys = insert key entries.keys := by
  ext candidate
  simp [Finmap.mem_keys]

/-- Insert a key that is not there yet; an existing key or a full map refuses. -/
def insertNew (map : BoundedMap κ ν capacity) (key : κ) (value : ν) :
    Except InsertError (BoundedMap κ ν capacity) :=
  if (map.get key).isSome then .error .keyExists
  else if room : map.size < capacity then
    .ok ⟨map.entries.insert key value, by
      rw [keys_insert]
      exact (Finset.card_insert_le _ _).trans room⟩
  else .error .noFreeSlot

/-- The insertion of a caller that does not look at the result. -/
def tryInsert (map : BoundedMap κ ν capacity) (key : κ) (value : ν) : BoundedMap κ ν capacity :=
  match map.insertNew key value with
  | .ok after => after
  | .error _ => map

/-- Change the value in place through a pointer obtained from a lookup. -/
def modify (map : BoundedMap κ ν capacity) (key : κ) (change : ν → ν) : BoundedMap κ ν capacity :=
  match found : map.get key with
  | none => map
  | some value => ⟨map.entries.insert key (change value), by
      have present : key ∈ map.entries.keys := mem_keys.mpr ⟨value, found⟩
      rw [keys_insert, Finset.insert_eq_of_mem present]
      exact map.bounded⟩

/-- Insert a key, or replace what is under it; only a full map refuses a new key. -/
def insertAny (map : BoundedMap κ ν capacity) (key : κ) (value : ν) :
    Except InsertError (BoundedMap κ ν capacity) :=
  if (map.get key).isSome then .ok (map.modify key fun _ => value) else map.insertNew key value

def remove (map : BoundedMap κ ν capacity) (key : κ) : BoundedMap κ ν capacity :=
  ⟨map.entries.erase key, by
    rw [Finmap.keys_erase]
    exact (Finset.card_erase_le).trans map.bounded⟩

def retain (map : BoundedMap κ ν capacity) (keep : ν → Bool) : BoundedMap κ ν capacity :=
  ⟨⟨map.entries.entries.filter fun entry => keep entry.2, by
      rw [← Multiset.nodup_keys]
      exact Multiset.nodup_of_le
        (Multiset.map_le_map (Multiset.filter_le _ _)) (Multiset.nodup_keys.mpr map.entries.nodupKeys)⟩,
    (Finset.card_le_card fun _ member =>
      Multiset.subset_of_le (Multiset.map_le_map (Multiset.filter_le _ _)) member).trans map.bounded⟩

/-- A map accepts a new key exactly when the key is absent and a slot is free. -/
def Accepts (map : BoundedMap κ ν capacity) (key : κ) : Prop :=
  map.get key = none ∧ map.size < capacity

instance : Decidable (map.Accepts key) :=
  decidable_of_iff ((map.get key).isNone = true ∧ map.size < capacity) (by
    rw [Option.isNone_iff_eq_none]
    rfl)

theorem insertNew_ok_iff : (∃ after, map.insertNew key value = .ok after) ↔ map.Accepts key := by
  unfold insertNew Accepts
  cases found : map.get key with
  | some old => simp
  | none =>
      by_cases room : map.size < capacity <;> simp [room]

theorem tryInsert_refused (refused : ¬ map.Accepts key) : map.tryInsert key value = map := by
  unfold tryInsert
  cases inserted : map.insertNew key value with
  | ok after => exact absurd (insertNew_ok_iff.mp ⟨after, inserted⟩) refused
  | error reason => rfl

theorem insertNew_accepted (accepts : map.Accepts key) :
    map.insertNew key value = .ok (map.tryInsert key value) := by
  have accepted : ∃ after, map.insertNew key value = .ok after := insertNew_ok_iff.mpr accepts
  obtain ⟨after, inserted⟩ := accepted
  simp only [tryInsert, inserted]

private theorem tryInsert_entries (accepts : map.Accepts key) :
    (map.tryInsert key value).entries = map.entries.insert key value := by
  obtain ⟨absent, room⟩ := accepts
  simp [tryInsert, insertNew, absent, room]

theorem get_tryInsert_self (accepts : map.Accepts key) :
    (map.tryInsert key value).get key = some value := by
  rw [get, tryInsert_entries accepts, Finmap.lookup_insert]

theorem get_tryInsert_other (different : other ≠ key) :
    (map.tryInsert key value).get other = map.get other := by
  by_cases accepts : map.Accepts key
  · rw [get, tryInsert_entries accepts, Finmap.lookup_insert_of_ne _ different]
    rfl
  · rw [tryInsert_refused accepts]

theorem get_tryInsert_present {old : ν} (present : map.get other = some old) :
    (map.tryInsert key value).get other = some old := by
  by_cases same : other = key
  · subst other
    rw [tryInsert_refused (fun accepts => by simp [accepts.1] at present), present]
  · rw [get_tryInsert_other same, present]

/-- Whatever an insertion leaves under a key was there before or was inserted. -/
theorem get_tryInsert_cases {found : ν} (after : (map.tryInsert key value).get other = some found) :
    map.get other = some found ∨ (other = key ∧ found = value ∧ map.Accepts key) := by
  by_cases accepts : map.Accepts key
  · by_cases same : other = key
    · subst other
      rw [get_tryInsert_self accepts] at after
      exact Or.inr ⟨rfl, (Option.some.inj after).symm, accepts⟩
    · rw [get_tryInsert_other same] at after
      exact Or.inl after
  · rw [tryInsert_refused accepts] at after
    exact Or.inl after

theorem size_tryInsert_accepted (accepts : map.Accepts key) :
    (map.tryInsert key value).size = map.size + 1 := by
  have absent : key ∉ map.entries.keys := fun member => by
    obtain ⟨old, found⟩ := mem_keys.mp member
    simp [accepts.1] at found
  rw [size, keys, tryInsert_entries accepts, keys_insert, Finset.card_insert_of_notMem absent]
  rfl

theorem size_le_tryInsert : map.size ≤ (map.tryInsert key value).size := by
  by_cases accepts : map.Accepts key
  · rw [size_tryInsert_accepted accepts]
    exact Nat.le_succ _
  · rw [tryInsert_refused accepts]

theorem size_tryInsert_le : (map.tryInsert key value).size ≤ map.size + 1 := by
  by_cases accepts : map.Accepts key
  · exact (size_tryInsert_accepted accepts).le
  · rw [tryInsert_refused accepts]
    exact Nat.le_succ _

theorem size_modify {change : ν → ν} : (map.modify key change).size = map.size := by
  unfold modify
  split
  · rfl
  · next value found =>
      have present : key ∈ map.entries.keys := mem_keys.mpr ⟨value, found⟩
      change (map.entries.insert key (change value)).keys.card = map.entries.keys.card
      rw [keys_insert, Finset.insert_eq_of_mem present]

theorem get_modify_self {change : ν → ν} :
    (map.modify key change).get key = (map.get key).map change := by
  unfold modify
  split
  · next absent => simp [absent]
  · next value found => exact (Finmap.lookup_insert _).trans (by simp [found])

theorem get_modify_other {change : ν → ν} (different : other ≠ key) :
    (map.modify key change).get other = map.get other := by
  unfold modify
  split
  · rfl
  · exact Finmap.lookup_insert_of_ne _ different

theorem modify_absent {change : ν → ν} (absent : map.get key = none) : map.modify key change = map := by
  unfold modify
  split
  · rfl
  · next value found => cases absent.symm.trans found

theorem modify_congr {change change' : ν → ν}
    (same : ∀ value, map.get key = some value → change value = change' value) :
    map.modify key change = map.modify key change' := by
  refine ext_get fun other => ?_
  by_cases own : other = key
  · subst own
    rw [get_modify_self, get_modify_self]
    exact Option.map_congr fun value found => same value found
  · rw [get_modify_other own, get_modify_other own]

theorem modify_modify {change change' : ν → ν} :
    (map.modify key change).modify key change' = map.modify key fun value => change' (change value) := by
  refine ext_get fun other => ?_
  by_cases own : other = key
  · subst own
    rw [get_modify_self, get_modify_self, get_modify_self, Option.map_map]
    rfl
  · rw [get_modify_other own, get_modify_other own, get_modify_other own]

theorem insertNew_eq_ok {after : BoundedMap κ ν capacity} (inserted : map.insertNew key value = .ok after) :
    map.Accepts key ∧ after = map.tryInsert key value :=
  ⟨insertNew_ok_iff.mp ⟨after, inserted⟩, by simp only [tryInsert, inserted]⟩

theorem get_insertAny_self {after : BoundedMap κ ν capacity}
    (inserted : map.insertAny key value = .ok after) : after.get key = some value := by
  unfold insertAny at inserted
  split at inserted
  · next present =>
      obtain ⟨old, found⟩ := Option.isSome_iff_exists.mp present
      cases inserted
      rw [get_modify_self, found]
      rfl
  · obtain ⟨accepts, rfl⟩ := insertNew_eq_ok inserted
    exact get_tryInsert_self accepts

theorem get_insertAny_other {after : BoundedMap κ ν capacity}
    (inserted : map.insertAny key value = .ok after) (different : other ≠ key) :
    after.get other = map.get other := by
  unfold insertAny at inserted
  split at inserted
  · cases inserted
    exact get_modify_other different
  · obtain ⟨_, rfl⟩ := insertNew_eq_ok inserted
    exact get_tryInsert_other different

@[simp] theorem get_remove_self : (map.remove key).get key = none := by
  simp [remove, get]

theorem get_remove_other (different : other ≠ key) :
    (map.remove key).get other = map.get other := by
  simp [remove, get, Finmap.lookup_erase_ne different]

theorem get_retain {keep : ν → Bool} :
    (map.retain keep).get key = (map.get key).filter keep := by
  apply Option.ext
  intro value
  rw [Option.filter_eq_some_iff, get, get, Finmap.lookup_eq_some_iff, Finmap.lookup_eq_some_iff]
  exact Multiset.mem_filter

end BoundedMap

end XdpNatd.Data
