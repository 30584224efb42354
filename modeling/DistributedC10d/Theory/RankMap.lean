import DistributedC10d.Core.Lifecycle

/-!
# Rank Maps

`new_group` records for each group the dictionary
`{global_rank: group_rank for group_rank, global_rank in enumerate(ranks)}`, and
`init_process_group` the same over `range(n)`. A comprehension overwrites: a global rank
that occurs twice keeps its last position. So a rank maps to `i` exactly when it stands
at position `i` and at none after, and the map is always one-to-one. Over a list
without repeats it is the list's own numbering, with every position some rank's; over a
list with repeats some positions belong to no rank, which is where the backend's view
of a group (`ranks.index(global_rank)` and `len(ranks)`) and the registry's part.

## Theorems

* `rankMap_get?_eq_some`: What a rank maps to.
* `rankMap_injective`: No two ranks share a position.
* `mem_keys_rankMap`: The keys are the listed ranks.
* `rankMap_get?_of_nodup`, `rankMap_keys_length_of_nodup`: Without repeats.
* `rankMap_worldRanks_get?`: Over `range(n)`, the identity.
-/

namespace DistributedC10d

theorem rankMap_concat (l : List Int) (x : Int) :
    rankMap (l ++ [x]) = (rankMap l).set x l.length := by
  simp [rankMap, List.enum_append]

/-- A rank maps to `i` exactly when it stands at position `i` of the list, and at no
    later position. -/
theorem rankMap_get?_eq_some {l : List Int} {r v : Int} :
    (rankMap l).get? r = some v ↔
      ∃ i : Nat, v = i ∧ l[i]? = some r ∧ ∀ j, i < j → l[j]? ≠ some r := by
  induction l using List.reverseRecOn generalizing v with
  | nil => simp [rankMap]
  | append_singleton l x ih =>
    rw [rankMap_concat, PyDict.get?_set]
    by_cases hr : r = x
    · subst hr
      simp only [if_true, Option.some.injEq]
      constructor
      · rintro rfl
        refine ⟨l.length, rfl, List.getElem?_concat_length l r, fun j hj => ?_⟩
        simp [List.getElem?_eq_none (by simp; omega : (l ++ [r]).length ≤ j)]
      · rintro ⟨i, rfl, hi, hlater⟩
        have hle : i < l.length + 1 := by
          by_contra h
          simp [List.getElem?_eq_none (by simp; omega : (l ++ [r]).length ≤ i)] at hi
        have hge : ¬ i < l.length := fun h => hlater l.length h (List.getElem?_concat_length l r)
        congr 1
        omega
    · simp only [hr, if_false, ih]
      -- Past the old list the only new position holds `x`, not `r`.
      have hat : ∀ j : Nat, (l ++ [x])[j]? = some r ↔ l[j]? = some r := by
        intro j
        by_cases hj : j < l.length
        · rw [List.getElem?_append_left hj]
        · have hl : l[j]? = none := List.getElem?_eq_none (by omega)
          rw [List.getElem?_append_right (by omega), hl]
          cases j - l.length <;> simp [Ne.symm hr]
      simp only [ne_eq, hat]

/-- Two ranks with the same position are the same rank. -/
theorem rankMap_injective {l : List Int} {r r' v : Int} (h : (rankMap l).get? r = some v)
    (h' : (rankMap l).get? r' = some v) : r = r' := by
  obtain ⟨i, rfl, hi, -⟩ := rankMap_get?_eq_some.1 h
  obtain ⟨i', hii, hi', -⟩ := rankMap_get?_eq_some.1 h'
  rw [Int.ofNat_inj.1 hii] at hi
  exact Option.some.inj (hi.symm.trans hi')

/-- Every position a rank maps to is nonnegative. -/
theorem rankMap_get?_nonneg {l : List Int} {r v : Int} (h : (rankMap l).get? r = some v) :
    0 ≤ v := by
  obtain ⟨i, rfl, -⟩ := rankMap_get?_eq_some.1 h
  exact Int.ofNat_nonneg i

theorem mem_keys_rankMap {l : List Int} {r : Int} : r ∈ (rankMap l).keys ↔ r ∈ l := by
  induction l using List.reverseRecOn with
  | nil => simp [rankMap]
  | append_singleton l x ih => simp [rankMap_concat, PyDict.mem_keys_set, ih, or_comm]

/-- Without repeats, a rank maps to its position. -/
theorem rankMap_get?_of_nodup {l : List Int} (hl : l.Nodup) {r v : Int} :
    (rankMap l).get? r = some v ↔ ∃ i : Nat, v = i ∧ l[i]? = some r := by
  rw [rankMap_get?_eq_some]
  refine ⟨fun ⟨i, hv, hi, _⟩ => ⟨i, hv, hi⟩, fun ⟨i, hv, hi⟩ => ⟨i, hv, hi, fun j hj hj' => ?_⟩⟩
  have hlt : i < l.length := by
    by_contra h
    simp [List.getElem?_eq_none (by omega : l.length ≤ i)] at hi
  have := List.getElem?_inj hlt hl (hi.trans hj'.symm)
  omega

/-- Without repeats, the map has one key per listed rank. -/
theorem rankMap_keys_length_of_nodup {l : List Int} (hl : l.Nodup) :
    (rankMap l).keys.length = l.length :=
  ((List.perm_ext_iff_of_nodup (rankMap l).nodup hl).2 fun _ => mem_keys_rankMap).length_eq

theorem worldRanks_nodup (n : Int) : (worldRanks n).Nodup :=
  (List.nodup_range _).map fun _ _ => Int.ofNat_inj.1

theorem getElem?_worldRanks {n r : Int} {i : Nat} :
    (worldRanks n)[i]? = some r ↔ (i : Int) < n ∧ r = i := by
  simp only [worldRanks, List.getElem?_map, Option.map_eq_some']
  by_cases hi : i < n.toNat
  · simp only [List.getElem?_range hi, Option.some.injEq]
    constructor
    · rintro ⟨a, rfl, rfl⟩; exact ⟨by omega, rfl⟩
    · rintro ⟨-, rfl⟩; exact ⟨i, rfl, rfl⟩
  · simp only [List.getElem?_eq_none (by simpa using hi : (List.range n.toNat).length ≤ i)]
    constructor
    · rintro ⟨_, h, -⟩; cases h
    · rintro ⟨h, -⟩; omega

/-- `{i: i for i in range(n)}`: the identity on `0, ..., n - 1`. -/
theorem rankMap_worldRanks_get? {n r v : Int} :
    (rankMap (worldRanks n)).get? r = some v ↔ 0 ≤ r ∧ r < n ∧ v = r := by
  rw [rankMap_get?_of_nodup (worldRanks_nodup n)]
  simp only [getElem?_worldRanks]
  constructor
  · rintro ⟨i, rfl, hi, rfl⟩
    exact ⟨Int.ofNat_nonneg i, hi, rfl⟩
  · rintro ⟨h0, hn, hv⟩
    exact ⟨r.toNat, by omega, by omega, by omega⟩

end DistributedC10d
