import DistributedC10d.Theory.Steps

/-!
# What Each Public Call Does

`init_process_group`, `new_group` and `destroy_process_group`, each as the list of ways
it can end, with the exact globals each way leaves. Everything later about runs cites
these three lemmas and the helper's, never the functions' bodies.

`new_group` ends in one of four ways: its own checks raise before anything is written;
the helper raises after naming the group; the process is outside the group and gets
the sentinel, under which the rank map is recorded all the same; or the group is built,
registered and given its rank map. `init_process_group` is the same without the
sentinel, since the default group has every process in it, and it makes the new object
the world. The barrier that closes either call reads the globals and writes none, so a
timeout there leaves everything the call wrote in place.

`destroy_process_group` either changes nothing (the sentinel, or a handle that is not
registered), clears everything when given the world, or deletes the handle's three
entries; a `KeyError` halfway through the three deletions is possible only when the
registries disagree on their keys.

## Main definitions

* `withRanks`: The globals once `_pg_group_ranks[pg]` is written.
* `initialized`: The globals once `init_process_group` has built the world.
* `cleared`, `erased`: The globals once the world, or a subgroup, is destroyed.

## Theorems

* `newGroupSetup_cases`, `newGroup_apply`: `new_group`'s four endings.
* `initProcessGroupSetup_cases`, `initProcessGroup_apply`: `init_process_group`'s three.
* `newGroup_state`, `initProcessGroup_state`: The globals a creation leaves are those it
  leaves before its barrier.
* `destroyProcessGroup_cases`: `destroy_process_group`'s endings.
-/

namespace DistributedC10d

/-- `_pg_group_ranks[pg] = {global_rank: group_rank for group_rank, global_rank in
    enumerate(ranks)}`. -/
@[simps]
def withRanks (s : State) (pg : Handle) (ranks : List Int) : State :=
  { s with pgGroupRanks := s.pgGroupRanks.set pg (rankMap ranks) }

/-- The globals `init_process_group` leaves once its helper has built `pg`, of size
    `size`, with backend `backend`. -/
@[simps]
def initialized (s : State) (pg : Handle) (size : Int) (backend : Attr)
    (initMethod : Option String) : State :=
  { s with world := some pg, pgGroupRanks := s.pgGroupRanks.set pg (rankMap (worldRanks size)),
           backend := backend, defaultPgInitMethod := initMethod }

/-- The globals once the world is destroyed: everything but `_backend` reset. -/
@[simps]
def cleared (s : State) : State :=
  { s with world := none, defaultPgInitMethod := none, pgMap := PyDict.empty,
           pgNames := PyDict.empty, pgGroupRanks := PyDict.empty, groupCount := 0 }

/-- The globals once the subgroup `pg` is destroyed. -/
@[simps]
def erased (s : State) (pg : Handle) : State :=
  { s with pgMap := s.pgMap.erase pg, pgNames := s.pgNames.erase pg,
           pgGroupRanks := s.pgGroupRanks.erase pg }

theorem initArgs_world {env : Env} {s : State} {backend : String} {initMethod : Option String}
    {timeout : Timeout} {worldSize rank : Int} {store : Option Store} {a : InitArgs}
    (h : initArgs env s backend initMethod timeout worldSize rank store = .ok a) :
    s.world = none := by
  cases hw : s.world with
  | none => rfl
  | some w =>
    -- The second check raises for a world already built.
    unfold initArgs at h
    rw [if_pos (show s.world.isSome by simp [hw])] at h
    split_ifs at h

theorem groupArgs_world {env : Env} {s : State} {ranks : Option (List Int)}
    {backend : Option String} {a : GroupArgs} (h : groupArgs env s ranks backend = .ok a) :
    s.world ≠ none := by
  intro hw
  simp [groupArgs, getDefaultGroup, hw, bind, Except.bind] at h

/-- `new_group` up to its barrier: its checks raise; the helper raises; the process is
    outside the group and records the rank map under the sentinel; or the group is built
    and registered under the next default name, which no group had. -/
theorem newGroupSetup_cases (env : Env) (ext : Ext) (ranks : Option (List Int))
    (timeout : Timeout) (backend : Option String) (s : State) :
    let o := newGroupSetup env ext ranks timeout backend s
    (∃ e, groupArgs env s ranks backend = .error e ∧ o = ⟨s, .error e⟩) ∨
    ∃ a, groupArgs env s ranks backend = .ok a ∧
      ((∃ e, o = ⟨named s "", .error e⟩) ∨
       (a.ranks ≠ [] ∧
         o = ⟨withRanks (named s "") .nonGroupMember a.ranks,
           .ok (.nonGroupMember, a.sync env.backendClass)⟩) ∨
       ∃ r size b st, Backend.new env.backendClass a.backend = .ok b ∧
         toString s.groupCount ∉ s.pgNames.values ∧
         (if b = env.backendClass.attr .mpi then mpiBuilt env ext a.ranks r size st
           else storeBuilt a.rank a.worldSize a.store r size st) ∧
         o = ⟨withRanks (registered (named s "") (.pg ext.fresh r size) (b, st)
           (toString s.groupCount)) (.pg ext.fresh r size) a.ranks,
           .ok (.pg ext.fresh r size, a.sync env.backendClass)⟩) := by
  intro o
  simp only [o, newGroupSetup, Py.bind_apply, Py.get_apply, Py.lift_apply]
  cases hg : groupArgs env s ranks backend with
  | error e => exact .inl ⟨e, rfl, rfl⟩
  | ok a =>
    refine .inr ⟨a, rfl, ?_⟩
    rcases newProcessGroupHelper_cases env ext a.worldSize a.rank a.ranks a.backend a.store ""
      timeout s with ⟨e, he⟩ | ⟨hne, he⟩ | ⟨r, size, b, st, hb, hn, hbuilt, he⟩
    · exact .inl ⟨e, by simp only [he]⟩
    · exact .inr (.inl ⟨hne, by simp only [he]; rfl⟩)
    · exact .inr (.inr ⟨r, size, b, st, hb, hn, hbuilt, by simp only [he]; rfl⟩)

/-- A barrier ends with the globals it started from, raising or not. -/
theorem closeBarrier_eq (ext : Ext) (timeout : Timeout) (sync : Sync) (s : State) :
    closeBarrier ext timeout sync s = ⟨s, (closeBarrier ext timeout sync s).result⟩ := by
  have h := closeBarrier_state ext timeout sync s
  generalize closeBarrier ext timeout sync s = o at h ⊢
  subst h
  rfl

/-- `new_group` is its part up to the barrier, then the barrier, which writes nothing. -/
theorem newGroup_apply (env : Env) (ext : Ext) (ranks : Option (List Int)) (timeout : Timeout)
    (backend : Option String) (s : State) :
    newGroup env ext ranks timeout backend s =
      match newGroupSetup env ext ranks timeout backend s with
      | ⟨s', .ok (pg, sync)⟩ => ⟨s', (closeBarrier ext timeout sync s').result.map fun _ => pg⟩
      | ⟨s', .error e⟩ => ⟨s', .error e⟩ := by
  simp only [newGroup, Py.bind_apply]
  rcases newGroupSetup env ext ranks timeout backend s with ⟨s', _ | ⟨pg, sync⟩⟩
  · rfl
  · simp only
    rw [closeBarrier_eq]
    cases (closeBarrier ext timeout sync s').result <;> rfl

theorem newGroup_state (env : Env) (ext : Ext) (ranks : Option (List Int)) (timeout : Timeout)
    (backend : Option String) (s : State) :
    (newGroup env ext ranks timeout backend s).state =
      (newGroupSetup env ext ranks timeout backend s).state := by
  rw [newGroup_apply]
  rcases newGroupSetup env ext ranks timeout backend s with ⟨s', _ | _⟩ <;> rfl

/-- `init_process_group` up to its barrier: its checks raise; the helper raises after
    naming the group; or the world is built, registered, given the identity rank map and
    made the default group. Its checks pass only while there is no world. -/
theorem initProcessGroupSetup_cases (env : Env) (ext : Ext) (backend : String)
    (initMethod : Option String) (timeout : Timeout) (worldSize rank : Int)
    (store : Option Store) (groupName : String) (s : State) :
    let o := initProcessGroupSetup env ext backend initMethod timeout worldSize rank store
      groupName s
    (∃ e, initArgs env s backend initMethod timeout worldSize rank store = .error e ∧
      o = ⟨s, .error e⟩) ∨
    ∃ a, initArgs env s backend initMethod timeout worldSize rank store = .ok a ∧
      s.world = none ∧
      ((∃ e, o = ⟨named s groupName, .error e⟩) ∨
       ∃ r size b st, Backend.new env.backendClass a.backend = .ok b ∧
         (if b = env.backendClass.attr .mpi then mpiBuilt env ext [] r size st
           else storeBuilt (some a.rank) a.worldSize a.store r size st) ∧
         o = ⟨initialized (registered (named s groupName) (.pg ext.fresh r size) (b, st)
           (nameOf s groupName)) (.pg ext.fresh r size) size b a.initMethod,
           .ok (a.sync env.backendClass)⟩) := by
  intro o
  simp only [o, initProcessGroupSetup, Py.bind_apply, Py.get_apply, Py.lift_apply]
  cases hi : initArgs env s backend initMethod timeout worldSize rank store with
  | error e => exact .inl ⟨e, rfl, rfl⟩
  | ok a =>
    refine .inr ⟨a, rfl, initArgs_world hi, ?_⟩
    rcases newProcessGroupHelper_cases env ext a.worldSize (some a.rank) [] a.backend a.store
      groupName timeout s with ⟨e, he⟩ | ⟨hne, -⟩ | ⟨r, size, b, st, hb, -, hbuilt, he⟩
    · exact .inl ⟨e, by simp only [he]⟩
    · exact absurd rfl hne
    · refine .inr ⟨r, size, b, st, hb, hbuilt, ?_⟩
      simp [he, Handle.size, PyDict.getItem_of_get?, registered, updateDefaultPg, initialized]

/-- `init_process_group` is its part up to the barrier, then the barrier. -/
theorem initProcessGroup_apply (env : Env) (ext : Ext) (backend : String)
    (initMethod : Option String) (timeout : Timeout) (worldSize rank : Int)
    (store : Option Store) (groupName : String) (s : State) :
    initProcessGroup env ext backend initMethod timeout worldSize rank store groupName s =
      match initProcessGroupSetup env ext backend initMethod timeout worldSize rank store
        groupName s with
      | ⟨s', .ok sync⟩ => ⟨s', (closeBarrier ext timeout sync s').result⟩
      | ⟨s', .error e⟩ => ⟨s', .error e⟩ := by
  simp only [initProcessGroup, Py.bind_apply]
  rcases initProcessGroupSetup env ext backend initMethod timeout worldSize rank store
    groupName s with ⟨s', _ | sync⟩
  · rfl
  · exact closeBarrier_eq ext timeout sync s'

theorem destroyTarget_world (s : State) : destroyTarget s s.world = s.world := by
  cases h : s.world <;> simp [destroyTarget, h]

theorem initProcessGroup_state (env : Env) (ext : Ext) (backend : String)
    (initMethod : Option String) (timeout : Timeout) (worldSize rank : Int)
    (store : Option Store) (groupName : String) (s : State) :
    (initProcessGroup env ext backend initMethod timeout worldSize rank store groupName s).state =
      (initProcessGroupSetup env ext backend initMethod timeout worldSize rank store
        groupName s).state := by
  rw [initProcessGroup_apply]
  rcases initProcessGroupSetup env ext backend initMethod timeout worldSize rank store
    groupName s with ⟨s', _ | _⟩ <;> rfl

/-- `destroy_process_group`: the sentinel is ignored; with nothing to act on, or a group
    that is not registered, it raises having written nothing; the world, given or
    implied, is cleared with everything else; a registered subgroup loses its three
    entries, unless one of the later two registries lacks it. -/
theorem destroyProcessGroup_cases (group : Option Handle) (s : State) :
    let o := destroyProcessGroup group s
    (group = some .nonGroupMember ∧ o = ⟨s, .ok ()⟩) ∨
    (destroyTarget s group = none ∧ o = ⟨s, .error (.assertion "")⟩) ∨
    (∃ pg, destroyTarget s group = some pg ∧ pg ∉ s.pgMap.keys ∧
      o = ⟨s, .error (.runtime "Invalid process group specified")⟩) ∨
    (∃ pg, s.world = some pg ∧ destroyTarget s group = some pg ∧ pg ∈ s.pgMap.keys ∧
      o = ⟨cleared s, .ok ()⟩) ∨
    ∃ pg, group = some pg ∧ s.world ≠ some pg ∧ pg ∈ s.pgMap.keys ∧
      ((pg ∈ s.pgNames.keys ∧ pg ∈ s.pgGroupRanks.keys ∧ o = ⟨erased s pg, .ok ()⟩) ∨
        pg ∉ s.pgNames.keys ∨ pg ∉ s.pgGroupRanks.keys) := by
  intro o
  simp only [o, destroyProcessGroup]
  by_cases hs : group = some .nonGroupMember
  · exact .inl ⟨hs, by simp [hs]⟩
  simp only [hs, if_false, Py.bind_apply, Py.get_apply]
  cases hd : destroyTarget s group with
  | none => exact .inr (.inl ⟨rfl, rfl⟩)
  | some pg =>
    simp only [Py.bind_apply, Py.raiseIf_apply]
    by_cases hm : s.pgMap.get? pg = none
    · exact .inr (.inr (.inl ⟨pg, rfl, PyDict.get?_eq_none_iff.1 hm, by simp [hm]⟩))
    have hk : pg ∈ s.pgMap.keys := by
      by_contra h
      exact hm (PyDict.get?_eq_none_iff.2 h)
    simp only [hm, if_false]
    by_cases hw : group = none ∨ group = s.world
    · refine .inr (.inr (.inr (.inl ⟨pg, ?_, rfl, hk, by simp [hw]; rfl⟩)))
      rcases hw with rfl | rfl
      · exact hd
      · exact (destroyTarget_world s).symm.trans hd
    -- A subgroup: the three deletions in turn.
    obtain ⟨g, rfl⟩ := Option.ne_none_iff_exists'.1 (fun h => hw (.inl h))
    have hg : g = pg := Option.some.inj hd
    subst hg
    have hw' : some g ≠ s.world := fun h => hw (.inr h)
    refine .inr (.inr (.inr (.inr ⟨g, rfl, hw'.symm, hk, ?_⟩)))
    by_cases hn : g ∈ s.pgNames.keys
    · by_cases hr : g ∈ s.pgGroupRanks.keys
      · exact .inl ⟨hn, hr, by simp [hw', PyDict.delItem, hk, hn, hr]; rfl⟩
      · exact .inr (.inr hr)
    · exact .inr (.inl hn)

end DistributedC10d
