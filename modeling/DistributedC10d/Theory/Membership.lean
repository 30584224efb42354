import DistributedC10d.Theory.BackendName

/-!
# What `new_group` Builds

`new_group` numbers a group's ranks twice. The backend object is built with
`ranks.index(global_rank)` and `len(ranks)` over the sorted list; the registry records
the comprehension `{global_rank: group_rank for group_rank, global_rank in
enumerate(ranks)}`, which `get_rank` and `get_world_size` read. Over a list without
repeats the two agree: the object's rank is `get_rank(g)` and its size
`get_world_size(g)`, and a process outside the list gets the sentinel with nothing
built. A list with a repeated rank passes every check `new_group` makes, and there the
two numberings part: the object is built for more ranks than the registry holds, and
some group rank has no global rank. The empty list is what the helper takes to mean the
default group, so a process outside it is not sent away: the build is attempted, with
no rank.

`new_group()` and `new_group(ranks)` with every rank of the world, in any order, are one
call: the checks sort the list into `range(n)`, and they differ only in the group rank of
a caller outside the world, which the helper never reads, since it sends such a caller
away before it builds anything.

## Theorems

* `checkRanks_some_ok`, `groupArgs_ok`: What `new_group`'s checks leave it with.
* `checkRanks_some_numbering`, `withRanks_numbering`: A list without repeats gives the
  recorded map the object's numbering.
* `newGroup_member_numbering`: With distinct ranks, the object's rank and size are the
  registry's.
* `newGroup_nonmember`: Outside a non-empty list, the sentinel, with nothing built.
* `new_group_whole_world`: The whole world, listed in any order, is `new_group()`.
* `duplicate_ranks_misnumbered`: The list `[0, 0, 1]` and the empty list, on rank 0 of
  three.
* `duplicate_ranks_skip_group_rank`: Under `[0, 0, 1]`, group rank 0 has no global rank.
-/

namespace DistributedC10d

theorem sortRanks_perm (ranks : List Int) : List.Perm (sortRanks ranks) ranks :=
  List.perm_insertionSort _ ranks

theorem mem_sortRanks {ranks : List Int} {r : Int} : r ∈ sortRanks ranks ↔ r ∈ ranks :=
  (sortRanks_perm ranks).mem_iff

/-- `new_group`'s checks of a given list: it is sorted, no longer than the world, and in
    range; the group's size is its length, and the caller's group rank its place in it. -/
theorem checkRanks_some_ok {ranks : List Int} {gr n : Int} {l : List Int} {size : Int}
    {rank : Option Int} (h : checkRanks (some ranks) gr n = .ok (l, size, rank)) :
    l = sortRanks ranks ∧ size = l.length ∧
      rank = (if gr ∈ l then some (l.indexOf gr : Int) else none) ∧
      (l.length : Int) ≤ n ∧ ∀ x ∈ l, 0 ≤ x ∧ x < n := by
  simp only [checkRanks] at h
  split_ifs at h with h1 h2 h3 <;> cases h
  all_goals
    simp only [List.any_eq_true, Bool.or_eq_true, decide_eq_true_eq, not_exists, not_and,
      not_or] at h2
    exact ⟨rfl, rfl, by simp [*], by omega, fun x hx => by have := h2 x hx; omega⟩

/-- What `new_group` has read and checked when it reaches the helper: the world, its
    rank and size, and its record, whose store the group shares and whose backend is the
    default. -/
theorem groupArgs_ok {env : Env} {s : State} {ranks : Option (List Int)}
    {backend : Option String} {a : GroupArgs} (h : groupArgs env s ranks backend = .ok a) :
    ∃ w gr n record, s.world = some w ∧ w.rank = .ok gr ∧ w.size = .ok n ∧
      s.pgMap.get? w = some record ∧ a.globalRank = gr ∧ a.store = record.2 ∧
      checkRanks ranks gr n = .ok (a.ranks, a.worldSize, a.rank) ∧
      Backend.new env.backendClass (backendOrDefault backend record.1) = .ok a.backend := by
  simp only [groupArgs] at h
  obtain ⟨w, hw, h⟩ := Except.bind_eq_ok_iff.1 h
  obtain ⟨⟨db, dst⟩, hrec, h⟩ := Except.bind_eq_ok_iff.1 h
  obtain ⟨gr, hgr, h⟩ := Except.bind_eq_ok_iff.1 h
  obtain ⟨n, hn, h⟩ := Except.bind_eq_ok_iff.1 h
  obtain ⟨⟨l, size, rank⟩, hc, h⟩ := Except.bind_eq_ok_iff.1 h
  obtain ⟨b, hb, rfl⟩ := Except.map_eq_ok_iff.1 h
  have hw' : s.world = some w := by
    unfold getDefaultGroup at hw
    split at hw <;> simp_all
  exact ⟨w, gr, n, (db, dst), hw', hgr, hn, PyDict.getItem_eq_ok_iff.1 hrec, rfl, rfl, hc, hb⟩

/-- For a list without repeats, the map `new_group` records from the checked list gives a
    member's global rank the place its object is built at, and has as many keys as the
    group's size. -/
theorem checkRanks_some_numbering {ranks : List Int} (hnd : ranks.Nodup) {gr n : Int}
    {l : List Int} {size r : Int} (h : checkRanks (some ranks) gr n = .ok (l, size, some r)) :
    (rankMap l).get? gr = some r ∧ ((rankMap l).keys.length : Int) = size := by
  obtain ⟨hl, hsize, hrank, -, -⟩ := checkRanks_some_ok h
  have hmem : gr ∈ l := by
    split at hrank
    · assumption
    · cases hrank
  rw [if_pos hmem, Option.some.injEq] at hrank
  have hnd' : l.Nodup := hl ▸ (sortRanks_perm ranks).nodup_iff.2 hnd
  rw [rankMap_keys_length_of_nodup hnd', hsize, rankMap_get?_of_nodup hnd']
  exact ⟨⟨l.indexOf gr, hrank, List.getElem?_indexOf hmem⟩, rfl⟩

/-- The object a creation registers as `.pg i r size` reports its numbering, if the rank
    map it records gives the caller's global rank `gr` the place `r` and has `size`
    keys. -/
theorem withRanks_numbering {s : State} {w : Handle} {gr : Int} {i : Nat} {r size : Int}
    {l : List Int} (hw : s.world = some w) (hgr : w.rank = .ok gr) (hne : w ≠ .pg i r size)
    (hmap : (rankMap l).get? gr = some r) (hlen : ((rankMap l).keys.length : Int) = size) :
    getRank (withRanks s (.pg i r size) l) (some (.pg i r size)) = .ok r ∧
      getWorldSize (withRanks s (.pg i r size) l) (some (.pg i r size)) = .ok size := by
  constructor
  · simp [getRank, getDefaultGroup, hw, hgr, getGroupRank, hne, hmap, bind, Except.bind,
      PyDict.get?_set]
  · simp [getWorldSize, getGroupSize, hw, Ne.symm hne, hlen]

/-- With distinct ranks and a backend other than MPI, the object `new_group` builds for a
    member has the rank and size the registry reports for it: `pg.rank()` is
    `get_rank(pg)` and `pg.size()` is `get_world_size(pg)`. -/
theorem newGroup_member_numbering {env : Env} {ext : Ext} {ranks : List Int}
    {timeout : Timeout} {backend : Option String} {s s' : State} {heap : Nat}
    {a : GroupArgs} {pg : Handle} {sync : Sync} (hi : Inv s heap) (hx : ext.fresh = heap)
    (hnd : ranks.Nodup) (ha : groupArgs env s (some ranks) backend = .ok a)
    (hm : a.backend ≠ env.backendClass.attr .mpi)
    (ho : newGroupSetup env ext (some ranks) timeout backend s = ⟨s', .ok (pg, sync)⟩)
    (hpg : pg ≠ .nonGroupMember) :
    pg.rank = getRank s' (some pg) ∧ pg.size = getWorldSize s' (some pg) := by
  obtain ⟨w, gr, _, _, hw, hgr, -, -, -, -, hc, hb⟩ := groupArgs_ok ha
  rcases newGroupSetup_cases env ext (some ranks) timeout backend s with
    ⟨e, he, -⟩ | ⟨a', ha', ⟨e, ho'⟩ | ⟨-, ho'⟩ | ⟨r, size, b, st, hb', -, hbuilt, ho'⟩⟩
  · rw [ha] at he; cases he
  · rw [ho] at ho'; cases ho'
  · rw [ho] at ho'; cases ho'; exact absurd rfl hpg
  rw [ha] at ha'
  cases ha'
  rw [ho] at ho'
  cases ho'
  -- The helper parses the parsed name again, and stays off MPI.
  obtain rfl : b = a.backend := backend_new_twice hb hb'
  obtain ⟨-, hr, rfl⟩ : storeBuilt a.rank a.worldSize a.store r size st := by
    simpa [hm] using hbuilt
  obtain ⟨hmap, hlen⟩ := checkRanks_some_numbering hnd (hr ▸ hc)
  have hne : w ≠ .pg ext.fresh r a.worldSize :=
    hx ▸ Handle.ne_of_builtBefore (hi.built w ((hi.world w hw).1)) r a.worldSize
  obtain ⟨h1, h2⟩ := withRanks_numbering (s := registered (named s "") _ _ _)
    (by simpa using hw) hgr hne hmap hlen
  exact ⟨h1.symm, h2.symm⟩

/-- Rank 0 of a world of two, once initialized, calls `new_group([0, 1])`: the object it
    is handed is rank 0 of 2, as the registry has it. -/
theorem member_numbering_pair :
    let s' := (newGroupSetup glooWorld ⟨1, false, none⟩ (some [0, 1]) (.timedelta 1800) none
      worldOfTwo.st).state
    (Handle.pg 1 0 2).rank = getRank s' (some (.pg 1 0 2)) ∧
      (Handle.pg 1 0 2).size = getWorldSize s' (some (.pg 1 0 2)) :=
  @newGroup_member_numbering glooWorld ⟨1, false, none⟩ [0, 1] (.timedelta 1800) none _ _ _
    ⟨[0, 1], 2, some 0, .str Backend.gloo, some ⟨0⟩, 0⟩ (.pg 1 0 2) (.store 0 (some ⟨0⟩))
    worldOfTwo_reachable.inv rfl (by decide) rfl (by decide) rfl (by decide)

/-- With a non-empty list and a backend other than MPI, while no built-in backend name
    is registered over, a process outside the list gets the sentinel once the helper's
    own checks pass, having built nothing: all the call writes is the counter and the
    sentinel's rank map. -/
theorem newGroup_nonmember {env : Env} {ext : Ext} {ranks : List Int} {timeout : Timeout}
    {backend : Option String} {s : State} {a : GroupArgs}
    (hu : env.backendClass.unshadowed = true)
    (ha : groupArgs env s (some ranks) backend = .ok a) (hne : ranks ≠ [])
    (hm : a.backend ≠ env.backendClass.attr .mpi) (hr : a.globalRank ∉ ranks)
    (hdup : toString s.groupCount ∉ s.pgNames.values) (ht : timeout.isTimedelta = true) :
    newGroupSetup env ext (some ranks) timeout backend s =
      ⟨withRanks (named s "") .nonGroupMember a.ranks,
        .ok (.nonGroupMember, a.sync env.backendClass)⟩ := by
  obtain ⟨w, gr, n, record, hw, hgr, -, -, rfl, -, hc, hb⟩ := groupArgs_ok ha
  obtain ⟨hl, -⟩ := checkRanks_some_ok hc
  have hne' : a.ranks ≠ [] := by
    rw [hl]
    exact fun h => hne (List.Perm.eq_nil ((sortRanks_perm ranks).symm.trans (h ▸ .refl _)))
  have hmem : isMember (named s "") a.ranks = .ok false := by
    rw [isMember_of_ne_nil hne' (by simpa using hw) hgr, hl]
    simpa [mem_sortRanks] using hr
  simp only [newGroupSetup, Py.bind_apply, Py.get_apply, Py.lift_apply, ha]
  rw [newProcessGroupHelper_store (by simpa using hdup) ht (backend_new_reparse hu hb) hm,
    storeGroup_nonmember hmem]
  rfl

/-- Rank 0 of a world of two, once initialized, calls `new_group([1])` and gets the
    sentinel, having recorded only the counter and the sentinel's rank map. -/
theorem nonmember_gets_sentinel :
    newGroupSetup glooWorld ⟨1, false, none⟩ (some [1]) (.timedelta 1800) none worldOfTwo.st =
      ⟨withRanks (named worldOfTwo.st "") .nonGroupMember [1],
        .ok (.nonGroupMember, .store 0 (some ⟨0⟩))⟩ :=
  @newGroup_nonmember glooWorld ⟨1, false, none⟩ [1] (.timedelta 1800) none _
    ⟨[1], 1, none, .str Backend.gloo, some ⟨0⟩, 0⟩ rfl rfl (by decide) (by decide) (by decide)
    (by decide) rfl

/-- A subgroup whose rank map was built from a list without repeats numbers its members
    `0, ..., n - 1`, with `n` the length of the list: `_get_group_rank` and
    `_get_global_rank` undo each other, and neither raises on a member or a group rank
    below the size. -/
theorem rank_round_trip {s : State} {g : Handle} {l : List Int} (hw : s.world ≠ some g)
    (hm : s.pgGroupRanks.get? g = some (rankMap l)) (hl : l.Nodup) :
    (∀ r ∈ l, (getGroupRank s g r >>= getGlobalRank s g) = .ok r) ∧
    (∀ k : Int, 0 ≤ k → k < l.length → (getGlobalRank s g k >>= getGroupRank s g) = .ok k) ∧
    getGroupSize s (some g) = .ok l.length := by
  have hinj : ∀ {v r r'}, (rankMap l).get? r = some v → (rankMap l).get? r' = some v → r = r' :=
    fun h h' => rankMap_injective h h'
  have hback : ∀ {r v}, (rankMap l).get? r = some v → getGlobalRank s g v = .ok r := fun hr => by
    have hk := (PyDict.keyOf?_eq_some_iff fun _ _ => hinj).2 hr
    simp [getGlobalRank, hw, hm, hk]
  have hto : ∀ {r v}, (rankMap l).get? r = some v → getGroupRank s g r = .ok v := fun hr => by
    simp [getGroupRank, hw, hm, hr]
  refine ⟨fun r hr => ?_, fun k hk0 hkl => ?_, ?_⟩
  · have hv : (rankMap l).get? r = some (l.indexOf r : Int) :=
      (rankMap_get?_of_nodup hl).2 ⟨_, rfl, List.getElem?_indexOf hr⟩
    simp [hto hv, hback hv, bind, Except.bind]
  · have hlt : k.toNat < l.length := by omega
    have hv : (rankMap l).get? l[k.toNat] = some k :=
      (rankMap_get?_of_nodup hl).2 ⟨k.toNat, by omega, List.getElem?_eq_getElem hlt⟩
    simp [hto hv, hback hv, bind, Except.bind]
  · simp [getGroupSize, Ne.symm hw, hm, rankMap_keys_length_of_nodup hl]

/-- After rank 0 of a world of two builds the subgroup `[0, 1]`, group rank 1 is global
    rank 1 and back. -/
theorem rank_round_trip_pair :
    (getGlobalRank subgroupPair.st (.pg 1 0 2) 1 >>= getGroupRank subgroupPair.st (.pg 1 0 2)) =
      .ok 1 :=
  (@rank_round_trip _ _ [0, 1] (by decide) (by decide) (by decide)).2.1 1 (by decide) (by decide)

/-! ### Every rank of the world, listed -/

theorem mem_worldRanks {n r : Int} : r ∈ worldRanks n ↔ 0 ≤ r ∧ r < n := by
  simp only [worldRanks, List.mem_map, List.mem_range, Int.ofNat_eq_coe]
  constructor
  · rintro ⟨a, ha, rfl⟩
    omega
  · intro h
    exact ⟨r.toNat, by omega, by omega⟩

theorem worldRanks_sorted (n : Int) : (worldRanks n).Sorted (· ≤ ·) :=
  List.pairwise_map.2 ((List.pairwise_lt_range _).imp fun h => by
    simp only [Int.ofNat_eq_coe]; omega)

/-- Every rank of a world of `n > 0`, in any order, passes `new_group`'s checks as the
    world's own list: sorted it is `range(n)`, and the caller's group rank is its global
    rank when that lies in the world, and none otherwise. -/
theorem checkRanks_perm_worldRanks {ranks : List Int} {n : Int} (hn : 0 < n)
    (hp : ranks.Perm (worldRanks n)) (gr : Int) :
    checkRanks (some ranks) gr n =
      .ok (worldRanks n, n, if gr ∈ worldRanks n then some gr else none) := by
  have hs : sortRanks ranks = worldRanks n :=
    List.eq_of_perm_of_sorted ((sortRanks_perm ranks).trans hp) (List.sorted_insertionSort _ _)
      (worldRanks_sorted n)
  have hlen : ((worldRanks n).length : Int) = n := by simp [worldRanks]; omega
  have hidx : gr ∈ worldRanks n → ((worldRanks n).indexOf gr : Int) = gr := fun hm =>
    ((getElem?_worldRanks.1 (List.getElem?_indexOf hm)).2).symm
  have hany : (worldRanks n).any (fun r => r < 0 || r ≥ n) = false := by
    simp only [List.any_eq_false, Bool.or_eq_true, decide_eq_true_eq, not_or, not_le, not_lt]
    intro r hr
    have := mem_worldRanks.1 hr
    omega
  simp only [checkRanks, hs, hlen, hany]
  split_ifs with h1 h2 <;> simp_all

/-- The helper reads the rank it is given only to build a member's object: for a caller
    whose global rank is not among a subgroup's ranks, any rank does the same. -/
theorem newProcessGroupHelper_nonmember_rank {env : Env} {ext : Ext} {worldSize : Int}
    {groupRanks : List Int} {backend : Attr} {store : Option Store} {g : String}
    {timeout : Timeout} {s : State} {w : Handle} {gr : Int} (hne : groupRanks ≠ [])
    (hw : s.world = some w) (hr : w.rank = .ok gr) (hgr : gr ∉ groupRanks)
    (rank rank' : Option Int) :
    newProcessGroupHelper env ext worldSize rank groupRanks backend store g timeout s =
      newProcessGroupHelper env ext worldSize rank' groupRanks backend store g timeout s := by
  have hm : isMember (named s g) groupRanks = .ok false := by
    rw [isMember_of_ne_nil hne (by simpa using hw) hr]
    simp [hgr]
  simp only [newProcessGroupHelper, nameGroup_apply, Py.bind_apply, Py.get_apply,
    Py.raiseIf_apply, Py.lift_apply]
  by_cases hd : nameOf s g ∈ (named s g).pgNames.values
  · simp only [hd, if_true]
  simp only [hd, if_false]
  by_cases ht : timeout.isTimedelta = false
  · simp only [ht, if_true]
  rw [if_neg ht]
  cases Backend.new env.backendClass backend with
  | error e => rfl
  | ok b =>
    by_cases hmpi : b = env.backendClass.attr .mpi
    · simp only [hmpi, if_true]
    · simp only [hmpi, if_false, storeGroup_nonmember hm]

/-- `new_group`'s checks of every rank of the world settle what they settle for no list,
    but the caller's group rank, which is none for a caller outside the world. -/
theorem groupArgs_whole_world {env : Env} {s : State} {w : Handle} {n : Int}
    (hw : s.world = some w) (hn : w.size = .ok n) (hpos : 0 < n) {ranks : List Int}
    (hp : ranks.Perm (worldRanks n)) (backend : Option String) :
    groupArgs env s (some ranks) backend = (groupArgs env s none backend).map fun a =>
      { a with rank := if a.globalRank ∈ a.ranks then a.rank else none } := by
  simp only [groupArgs, getDefaultGroup, hw, hn, bind, Except.bind]
  cases s.pgMap.getItem w with
  | error e => rfl
  | ok record =>
    cases w.rank with
    | error e => rfl
    | ok gr =>
      dsimp only
      rw [checkRanks_perm_worldRanks hpos hp]
      simp only [checkRanks]
      cases Backend.new env.backendClass (backendOrDefault backend record.1) with
      | error e => rfl
      | ok b => simp [Except.map, pure, Except.pure]

/-- `new_group(ranks)` given every rank of a world of positive size, in any order, does
    exactly what `new_group()` does: from every state, the same globals, the same handle,
    the same barrier, and the same error when it raises; also for a caller whose own rank
    lies outside the world. -/
theorem new_group_whole_world {s : State} {n : Int} (hn : getWorldSize s none = .ok n)
    (hpos : 0 < n) {ranks : List Int} (hp : ranks.Perm (worldRanks n)) (env : Env) (ext : Ext)
    (timeout : Timeout) (backend : Option String) :
    newGroup env ext (some ranks) timeout backend s = newGroup env ext none timeout backend s := by
  -- The world, of size `n`.
  obtain ⟨w, hw, hsize⟩ : ∃ w, s.world = some w ∧ w.size = .ok n := by
    cases hw : s.world with
    | none => simp [getWorldSize, getGroupSize, getDefaultGroup, hw, bind, Except.bind] at hn
    | some w =>
      exact ⟨w, rfl, by simpa [getWorldSize, getGroupSize, getDefaultGroup, hw, bind,
        Except.bind] using hn⟩
  simp only [newGroup, newGroupSetup, Py.bind_apply, Py.get_apply, Py.lift_apply,
    groupArgs_whole_world hw hsize hpos hp]
  cases ha : groupArgs env s none backend with
  | error e => rfl
  | ok a =>
    simp only [Except.map]
    by_cases hm : a.globalRank ∈ a.ranks
    · simp only [hm, if_true]
    · -- The caller is outside the group, and the helper does not read its group rank.
      obtain ⟨w', gr, n', record, hw', hgr, hn', -, hga, -, hc, -⟩ := groupArgs_ok ha
      obtain rfl : w' = w := Option.some.inj (hw'.symm.trans hw)
      obtain rfl : n' = n := Except.ok.inj (hn'.symm.trans hsize)
      have hne : a.ranks ≠ [] := by
        simp only [checkRanks, Except.ok.injEq, Prod.mk.injEq] at hc
        rw [← hc.1]
        exact List.ne_nil_of_mem (mem_worldRanks.2 ⟨le_refl 0, hpos⟩)
      simp only [hm, if_false]
      rw [newProcessGroupHelper_nonmember_rank hne hw hgr (hga ▸ hm) none a.rank]
      rfl

/-- Rank 0 of a world of two calls `new_group([1, 0])`: the same as `new_group()`. -/
theorem new_group_listed_world_of_two :
    getWorldSize worldOfTwo.st none = .ok 2 ∧ (0 : Int) < 2 ∧ [1, 0].Perm (worldRanks 2) ∧
    newGroup glooWorld ⟨1, false, none⟩ (some [1, 0]) (.timedelta 1800) none worldOfTwo.st =
      newGroup glooWorld ⟨1, false, none⟩ none (.timedelta 1800) none worldOfTwo.st :=
  ⟨by decide, by decide, by decide,
    @new_group_whole_world worldOfTwo.st 2 (by decide) (by decide) [1, 0] (by decide) glooWorld
      ⟨1, false, none⟩ (.timedelta 1800) none⟩

/-- Rank 0 has called `init_process_group` for an NCCL world of three, with a store. -/
def worldOfThree : Proc := Proc.initial.run ncclWorld
  [(.initProcessGroup Backend.nccl none (.timedelta 1800) 3 0 (some ⟨0⟩) "", ⟨0, false, none⟩)]

/-- Then `new_group([0, 0, 1])`, which passes every check `new_group` makes. -/
def duplicateRanks : Proc :=
  worldOfThree.run ncclWorld [(.newGroup (some [0, 0, 1]) (.timedelta 1800) none, ⟨0, false, none⟩)]

theorem worldOfThree_reachable : Reachable worldOfThree := Reachable.initial.run _ _

theorem duplicateRanks_reachable : Reachable duplicateRanks := worldOfThree_reachable.run _ _

/-- Rank 0 of an NCCL world of three calls `new_group([0, 0, 1])`: the object is built as
    rank 0 of 3, while `get_rank` and `get_world_size` read 1 and 2 from the registry. And
    `new_group([])` called by the same rank, which is not in `[]`, is not handed the
    sentinel: the helper takes the empty list for the default group and builds with no
    rank, which raises `TypeError`. -/
theorem duplicate_ranks_misnumbered :
    Reachable duplicateRanks ∧ duplicateRanks.created.getLast? = some (some (.pg 1 0 3)) ∧
      getRank duplicateRanks.st (some (.pg 1 0 3)) = .ok 1 ∧
      getWorldSize duplicateRanks.st (some (.pg 1 0 3)) = .ok 2 ∧
      Reachable worldOfThree ∧
      (newGroup ncclWorld ⟨1, false, none⟩ (some []) (.timedelta 1800) none worldOfThree.st).result =
        .error .type :=
  ⟨duplicateRanks_reachable, by decide, by decide, by decide, worldOfThree_reachable, by decide⟩

/-- After the same `new_group([0, 0, 1])`, `get_world_size` is 2 but group rank 0 has no
    global rank: `_get_global_rank(g, 0)` raises. -/
theorem duplicate_ranks_skip_group_rank :
    Reachable duplicateRanks ∧ getWorldSize duplicateRanks.st (some (.pg 1 0 3)) = .ok 2 ∧
      getGlobalRank duplicateRanks.st (.pg 1 0 3) 0 =
        .error (.runtime "The group rank is not part of the group") :=
  ⟨duplicateRanks_reachable, by decide, by decide⟩

end DistributedC10d
