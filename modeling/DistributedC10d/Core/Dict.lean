import Mathlib.Data.List.Nodup
import DistributedC10d.Core.Python

/-!
# Dictionaries

Python's `dict`, as far as the module uses it: `_pg_map`, `_pg_names` and
`_pg_group_ranks` are dictionaries keyed by process groups, and each rank map is a
dictionary from global to group-local ranks.

A `dict` keeps its items in insertion order, and a key appears once. Assigning to an
existing key replaces the value in place; assigning to a new one appends. That order
is observable here: `_get_global_rank` walks `group_rank_map.items()` and returns the
first key whose value matches. `PyDict` keeps the items as a list and carries the
fact that no key repeats, so every dictionary the model builds has it.

The one lemma the rest stands on is `get?_eq_some_iff`: with no repeated key, looking
a key up finds a value exactly when the pair is among the items. Every lemma about
`set`, `erase`, `values` and `keyOf?` is a statement about membership after that.

## Main definitions

* `PyDict`: A dictionary, its items in insertion order, no key twice.
* `PyDict.set`: `d[k] = v`.
* `PyDict.erase`: `del d[k]` for a key that is there.
* `PyDict.getItem`: `d[k]`, raising `KeyError` for a missing key.
* `PyDict.delItem`: `del d[k]`, raising `KeyError` for a missing key.
* `PyDict.keyOf?`: The first key whose value matches, walking the items in order.

## Theorems

* `get?_eq_some_iff`: A lookup finds exactly the items present.
* `get?_eq_none_iff`: A lookup fails exactly for a key that is absent.
* `get?_set`, `get?_erase`: Lookups after an assignment or a deletion.
* `mem_values`: A value is present exactly when some key maps to it.
* `keyOf?_eq_some_iff`: With distinct values, the reverse search inverts lookup.
-/

namespace DistributedC10d

/-- A Python `dict`: its items in insertion order, no key twice. -/
structure PyDict (κ α : Type) where
  entries : List (κ × α)
  nodup : (entries.map Prod.fst).Nodup

namespace PyDict

variable {κ α : Type} [DecidableEq κ]

/-- `{}`. -/
def empty : PyDict κ α := ⟨[], List.nodup_nil⟩

/-- `d.keys()`. -/
def keys (d : PyDict κ α) : List κ := d.entries.map Prod.fst

/-- `d.values()`. -/
def values (d : PyDict κ α) : List α := d.entries.map Prod.snd

/-- `d.get(k)`: the value stored under `k`, if any. -/
def get? (d : PyDict κ α) (k : κ) : Option α := d.entries.lookup k

/-- `d[k] = v`: a key already present keeps its place and takes the new value; a new
    key goes last. -/
def set (d : PyDict κ α) (k : κ) (v : α) : PyDict κ α :=
  if h : k ∈ d.keys then
    ⟨d.entries.map (fun e => if e.1 = k then (k, v) else e), by
      have hfst : (Prod.fst ∘ fun e : κ × α => if e.1 = k then (k, v) else e) = Prod.fst := by
        funext e
        by_cases he : e.1 = k <;> simp [he]
      rw [List.map_map, hfst]
      exact d.nodup⟩
  else
    ⟨d.entries ++ [(k, v)], by
      rw [List.map_append, List.nodup_append]
      exact ⟨d.nodup, List.nodup_singleton _, fun a ha hb => by
        simp only [List.map_cons, List.map_nil, List.mem_singleton] at hb
        exact h (hb ▸ ha)⟩⟩

/-- `del d[k]`, for a key that is there; on an absent key it changes nothing. -/
def erase (d : PyDict κ α) (k : κ) : PyDict κ α :=
  ⟨d.entries.filter (fun e => e.1 ≠ k),
    d.nodup.sublist ((List.filter_sublist _).map Prod.fst)⟩

/-- `d[k]`: Python raises `KeyError` when `k` is absent. -/
def getItem (d : PyDict κ α) (k : κ) : Except Error α :=
  match d.get? k with
  | some v => .ok v
  | none => .error .key

/-- `del d[k]`: Python raises `KeyError` when `k` is absent. -/
def delItem (d : PyDict κ α) (k : κ) : Except Error (PyDict κ α) :=
  if k ∈ d.keys then .ok (d.erase k) else .error .key

/-- The first key whose value is `v`: the loop over `d.items()` in `_get_global_rank`. -/
def keyOf? [DecidableEq α] (d : PyDict κ α) (v : α) : Option κ :=
  (d.entries.find? (fun e => e.2 = v)).map Prod.fst

instance [DecidableEq α] : DecidableEq (PyDict κ α) := fun a b =>
  decidable_of_iff (a.entries = b.entries) (by
    cases a; cases b
    exact ⟨fun h => by cases h; rfl, fun h => by cases h; rfl⟩)

section Lemmas

variable {d : PyDict κ α} {k k' : κ} {v : α}

theorem lookup_eq_some_iff {l : List (κ × α)} (h : (l.map Prod.fst).Nodup) :
    l.lookup k = some v ↔ (k, v) ∈ l := by
  induction l with
  | nil => simp
  | cons e l ih =>
    obtain ⟨k0, v0⟩ := e
    simp only [List.map_cons, List.nodup_cons] at h
    by_cases hk : k = k0
    · subst hk
      -- The head's key is not repeated below, so only the head can match.
      have hnot : (k, v) ∉ l := fun hm => h.1 (List.mem_map.2 ⟨_, hm, rfl⟩)
      simp [List.lookup_cons, hnot, eq_comm]
    · have hne : (k == k0) = false := by simpa using hk
      simp [List.lookup_cons, hne, ih h.2, hk]

theorem lookup_eq_none_iff {l : List (κ × α)} : l.lookup k = none ↔ k ∉ l.map Prod.fst := by
  induction l with
  | nil => simp
  | cons e l ih =>
    obtain ⟨k0, v0⟩ := e
    by_cases hk : k = k0
    · simp [List.lookup_cons, hk]
    · have hne : (k == k0) = false := by simpa using hk
      simp [List.lookup_cons, hne, ih, hk]

theorem get?_eq_some_iff : d.get? k = some v ↔ (k, v) ∈ d.entries :=
  lookup_eq_some_iff d.nodup

theorem get?_eq_none_iff : d.get? k = none ↔ k ∉ d.keys := lookup_eq_none_iff

theorem mem_keys_iff : k ∈ d.keys ↔ ∃ v, d.get? k = some v := by
  simp only [keys, List.mem_map, get?_eq_some_iff]
  exact ⟨fun ⟨e, he, hk⟩ => ⟨e.2, hk ▸ he⟩, fun ⟨v, hv⟩ => ⟨_, hv, rfl⟩⟩

@[simp] theorem get?_empty : (empty : PyDict κ α).get? k = none := rfl

omit [DecidableEq κ] in
@[simp] theorem keys_empty : (empty : PyDict κ α).keys = [] := rfl

omit [DecidableEq κ] in
@[simp] theorem values_empty : (empty : PyDict κ α).values = [] := rfl

theorem get?_set : (d.set k v).get? k' = if k' = k then some v else d.get? k' := by
  apply Option.ext
  intro w
  rw [Option.mem_def, Option.mem_def, get?_eq_some_iff]
  unfold set
  split
  · rename_i hk
    simp only [List.mem_map]
    constructor
    · rintro ⟨e, he, hew⟩
      by_cases he1 : e.1 = k
      · simp only [he1, if_true, Prod.mk.injEq] at hew
        simp [← hew.1, hew.2]
      · simp only [he1, if_false] at hew
        subst hew
        simp [he1, get?_eq_some_iff.2 he]
    · intro hw
      split at hw
      · rename_i hkk
        subst hkk
        obtain ⟨v0, hv0⟩ := mem_keys_iff.1 hk
        exact ⟨(k', v0), get?_eq_some_iff.1 hv0, by simpa using hw⟩
      · rename_i hkk
        exact ⟨(k', w), get?_eq_some_iff.1 hw, by simp [hkk]⟩
  · rename_i hk
    simp only [List.mem_append, List.mem_singleton, Prod.mk.injEq]
    split
    · rename_i hkk
      subst hkk
      have : (k', w) ∉ d.entries := fun hm => hk (List.mem_map.2 ⟨_, hm, rfl⟩)
      simp [this, eq_comm]
    · rename_i hkk
      simp [hkk, get?_eq_some_iff]

@[simp] theorem get?_set_self : (d.set k v).get? k = some v := by simp [get?_set]

theorem getItem_eq_ok_iff : d.getItem k = .ok v ↔ d.get? k = some v := by
  unfold getItem
  split <;> simp_all

theorem getItem_of_get? (h : d.get? k = some v) : d.getItem k = .ok v :=
  getItem_eq_ok_iff.2 h

theorem get?_erase : (d.erase k).get? k' = if k' = k then none else d.get? k' := by
  apply Option.ext
  intro w
  rw [Option.mem_def, Option.mem_def, get?_eq_some_iff]
  simp only [erase, List.mem_filter, decide_eq_true_eq]
  split
  · rename_i hkk
    simp [hkk]
  · rename_i hkk
    simp [hkk, get?_eq_some_iff]

theorem mem_values : v ∈ d.values ↔ ∃ k, d.get? k = some v := by
  simp only [values, List.mem_map, get?_eq_some_iff]
  exact ⟨fun ⟨e, he, hv⟩ => ⟨e.1, hv ▸ he⟩, fun ⟨k, hk⟩ => ⟨_, hk, rfl⟩⟩

theorem mem_keys_set : k' ∈ (d.set k v).keys ↔ k' = k ∨ k' ∈ d.keys := by
  simp only [mem_keys_iff, get?_set]
  by_cases h : k' = k <;> simp [h]

theorem mem_keys_erase : k' ∈ (d.erase k).keys ↔ k' ≠ k ∧ k' ∈ d.keys := by
  simp only [mem_keys_iff, get?_erase]
  by_cases h : k' = k <;> simp [h]

theorem delItem_eq_ok {d' : PyDict κ α} : d.delItem k = .ok d' ↔ k ∈ d.keys ∧ d' = d.erase k := by
  unfold delItem
  split <;> simp_all [eq_comm]

/-- With distinct values, walking the items for a value finds the one key that maps
    to it. -/
theorem keyOf?_eq_some_iff [DecidableEq α]
    (hinj : ∀ k k', d.get? k = some v → d.get? k' = some v → k = k') :
    d.keyOf? v = some k ↔ d.get? k = some v := by
  unfold keyOf?
  constructor
  · intro h
    obtain ⟨e, he, rfl⟩ := Option.map_eq_some'.1 h
    have hv : e.2 = v := by simpa using List.find?_some he
    exact get?_eq_some_iff.2 (hv ▸ List.mem_of_find?_eq_some he)
  · intro h
    cases hf : d.entries.find? (fun e => e.2 = v) with
    | none =>
      have := List.find?_eq_none.1 hf _ (get?_eq_some_iff.1 h)
      simp at this
    | some e =>
      have hv : e.2 = v := by simpa using List.find?_some hf
      have he : d.get? e.1 = some v := get?_eq_some_iff.2 (hv ▸ List.mem_of_find?_eq_some hf)
      simp [hinj _ _ he h]

end Lemmas

end PyDict

end DistributedC10d
