import Mathlib.Data.List.Perm.Basic
import Mathlib.Data.List.Nodup

namespace XdpNatd.Data

section Keyed

variable {α κ : Type} [DecidableEq κ] (key : α → κ)

def Keyed (items : List α) : Prop := (items.map key).Nodup

instance (items : List α) : Decidable (Keyed key items) := inferInstanceAs (Decidable (List.Nodup _))

def under (items : List α) (place : κ) : Option α := items.find? fun item => key item = place

def put (items : List α) (new : α) : List α := new :: items.filter fun item => key item ≠ key new

variable {key} {items order news : List α} {item new : α} {place : κ}

theorem under_eq_some (keyed : Keyed key items) :
    under key items place = some item ↔ item ∈ items ∧ key item = place := by
  constructor
  · intro found
    exact ⟨List.mem_of_find?_eq_some found, by simpa using List.find?_some found⟩
  · intro member
    obtain ⟨member, rfl⟩ := member
    induction items with
    | nil => cases member
    | cons first rest ih =>
        obtain ⟨alone, keyed⟩ := List.nodup_cons.mp keyed
        rcases List.mem_cons.mp member with rfl | member
        · simp [under]
        · have different : key first ≠ key item := fun same =>
            alone (List.mem_map.mpr ⟨item, member, same.symm⟩)
          rw [under, List.find?_cons_of_neg (by simpa using different)]
          exact ih keyed member

theorem under_perm (keyed : Keyed key items) (same : order.Perm items) :
    under key order place = under key items place := by
  have keyedOrder : Keyed key order := (same.map _).nodup_iff.mpr keyed
  ext item
  rw [under_eq_some keyedOrder, under_eq_some keyed, same.mem_iff]

theorem put_keyed (keyed : Keyed key items) : Keyed key (put key items new) := by
  refine List.nodup_cons.mpr ⟨?_, keyed.sublist (List.filter_sublist.map _)⟩
  intro member
  obtain ⟨item, itemMember, same⟩ := List.mem_map.mp member
  exact of_decide_eq_true (List.mem_filter.mp itemMember).2 same

theorem under_put : under key (put key items new) place =
    if key new = place then some new else under key items place := by
  unfold under put
  rw [List.find?_cons]
  split
  · next same => rw [if_pos (of_decide_eq_true same)]
  · next different =>
      have different : key new ≠ place := of_decide_eq_false different
      rw [if_neg different, List.find?_filter]
      congr 1
      funext item
      have apart : key item = place → key item ≠ key new := fun same twice =>
        different (twice.symm.trans same)
      simpa using apart

theorem puts_keyed (keyed : Keyed key items) : Keyed key (news.foldl (put key) items) := by
  induction news generalizing items with
  | nil => exact keyed
  | cons new rest ih => exact ih (put_keyed keyed)

/-- Of several elements put under one key the last one stays. -/
theorem under_puts :
    under key (news.foldl (put key) items) place = (under key news.reverse place).or (under key items place) := by
  induction news generalizing items with
  | nil => simp [under]
  | cons new rest ih =>
      rw [List.foldl_cons, ih, under_put, List.reverse_cons]
      unfold under
      rw [List.find?_append, Option.or_assoc]
      congr 1
      by_cases same : key new = place <;> simp [same]

end Keyed

end XdpNatd.Data
