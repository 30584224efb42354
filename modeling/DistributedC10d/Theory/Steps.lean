import DistributedC10d.Core.Process

/-!
# What Each Call Does

One lemma per lifecycle function, saying every way the call can end and the state it
leaves. The invariants and the two-process argument are proved from these, and never
unfold a lifecycle function themselves.

The helper can end in two ways only. Either it raises or returns the
`NON_GROUP_MEMBER` sentinel, and then all it has done is name the group, moving the
counter for an unnamed one; or it has built an object with the call's fresh identity
and registered it, under a name that was not in `_pg_names` before. `new_group` adds a
rank map under whatever the helper returned, and `init_process_group` makes the object
the default group and gives it the identity rank map. The closing barrier changes no
global.

## Main definitions

* `named`, `nameOf`: The state after the helper names a group, and the name.
* `registered`: The state after `_pg_map[pg]` and `_pg_names[pg]` are written.

## Theorems

* `nameGroup_apply`: Naming a group, exactly.
* `closeBarrier_state`: A barrier leaves the globals alone.
* `newProcessGroupHelper_cases`: The helper only names, or names and registers.
-/

namespace DistributedC10d

/-- The state once the helper has named a creation given `groupName`. -/
def named (s : State) (groupName : String) : State :=
  if groupName = "" then { s with groupCount := s.groupCount + 1 } else s

/-- The name the helper gives a creation given `groupName`. -/
def nameOf (s : State) (groupName : String) : String :=
  if groupName = "" then toString s.groupCount else groupName

/-- The state once `_pg_map[pg] = record` and `_pg_names[pg] = name` have run. -/
def registered (s : State) (pg : Handle) (record : Attr × Option Store) (name : String) :
    State :=
  { s with pgMap := s.pgMap.set pg record, pgNames := s.pgNames.set pg name }

section Named

variable (s : State) (n : String)

@[simp] theorem named_world : (named s n).world = s.world := by unfold named; split <;> rfl

@[simp] theorem named_pgMap : (named s n).pgMap = s.pgMap := by unfold named; split <;> rfl

@[simp] theorem named_pgNames : (named s n).pgNames = s.pgNames := by unfold named; split <;> rfl

@[simp] theorem named_pgGroupRanks : (named s n).pgGroupRanks = s.pgGroupRanks := by
  unfold named; split <;> rfl

@[simp] theorem named_defaultPgInitMethod :
    (named s n).defaultPgInitMethod = s.defaultPgInitMethod := by
  unfold named; split <;> rfl

@[simp] theorem named_backend : (named s n).backend = s.backend := by unfold named; split <;> rfl

theorem named_groupCount :
    (named s n).groupCount = if n = "" then s.groupCount + 1 else s.groupCount := by
  unfold named; split <;> rfl

@[simp] theorem named_empty_groupCount : (named s "").groupCount = s.groupCount + 1 := rfl

@[simp] theorem nameOf_empty : nameOf s "" = toString s.groupCount := rfl

theorem nameGroup_apply : nameGroup n s = ⟨named s n, .ok (nameOf s n)⟩ := by
  unfold nameGroup named nameOf
  split <;> rfl

end Named

section Registered

variable (s : State) (pg : Handle) (record : Attr × Option Store) (name : String)

@[simp] theorem registered_world : (registered s pg record name).world = s.world := rfl

@[simp] theorem registered_pgMap :
    (registered s pg record name).pgMap = s.pgMap.set pg record := rfl

@[simp] theorem registered_pgNames :
    (registered s pg record name).pgNames = s.pgNames.set pg name := rfl

@[simp] theorem registered_pgGroupRanks :
    (registered s pg record name).pgGroupRanks = s.pgGroupRanks := rfl

@[simp] theorem registered_groupCount :
    (registered s pg record name).groupCount = s.groupCount := rfl

@[simp] theorem registered_defaultPgInitMethod :
    (registered s pg record name).defaultPgInitMethod = s.defaultPgInitMethod := rfl

@[simp] theorem registered_backend : (registered s pg record name).backend = s.backend := rfl

theorem register_apply : register pg record name s = ⟨registered s pg record name, .ok ()⟩ :=
  rfl

end Registered

theorem storeBasedBarrier_readOnly (ext : Ext) (rank : Int) (store : Option Store)
    (timeout : Timeout) : Py.ReadOnly (storeBasedBarrier ext rank store timeout) := by
  intro s
  unfold storeBasedBarrier
  simp only [Py.bind_apply, Py.get_apply, Py.lift_apply]
  cases store <;> cases getWorldSize s none <;> cases ext.barrierTimeout <;> simp

theorem closeBarrier_state (ext : Ext) (timeout : Timeout) (sync : Sync) (s : State) :
    (closeBarrier ext timeout sync s).state = s := by
  cases sync with
  | mpi => rfl
  | store rank store => exact storeBasedBarrier_readOnly ext rank store timeout s

theorem construct_ok {ext : Ext} {rank : Option Int} {worldSize : Int} {pg : Handle}
    (h : construct ext rank worldSize = .ok pg) : ∃ r, rank = some r ∧ pg = .pg ext.fresh r worldSize := by
  unfold construct at h
  split at h
  · cases h
  · split at h
    · cases h
    · cases h; exact ⟨_, rfl, rfl⟩

theorem constructBackend_ok {env : Env} {ext : Ext} {backend : Attr} {rank : Option Int}
    {worldSize : Int} {pg : Handle} (h : constructBackend env ext backend rank worldSize = .ok pg) :
    ∃ r, rank = some r ∧ pg = .pg ext.fresh r worldSize := by
  unfold constructBackend at h
  repeat' split at h
  all_goals first | exact construct_ok h | cases h

theorem processGroupMPICreate_some {env : Env} {ext : Ext} {groupRanks : List Int}
    {pg : Handle} (h : processGroupMPICreate env ext groupRanks = .ok (some pg)) :
    ∃ r size, pg = .pg ext.fresh r size := by
  unfold processGroupMPICreate at h
  repeat' split at h
  all_goals first | (cases h; exact ⟨_, _, rfl⟩) | cases h

-- The MPI runtime leaves a process out only of a communicator over some ranks.
theorem processGroupMPICreate_none {env : Env} {ext : Ext} {groupRanks : List Int}
    (h : processGroupMPICreate env ext groupRanks = .ok none) : groupRanks ≠ [] := by
  rintro rfl
  simp [processGroupMPICreate] at h
  split at h <;> cases h

theorem isMember_false {s : State} {groupRanks : List Int}
    (h : isMember s groupRanks = .ok false) : groupRanks ≠ [] := by
  rintro rfl
  cases h

/-- What the helper's MPI branch builds with: the runtime's communicator, and no store. -/
def mpiBuilt (env : Env) (ext : Ext) (groupRanks : List Int) (r size : Int)
    (st : Option Store) : Prop :=
  st = none ∧ processGroupMPICreate env ext groupRanks = .ok (some (.pg ext.fresh r size))

/-- What the store branch builds with: the rank and world size it is given, and the
    store. -/
def storeBuilt (rank : Option Int) (worldSize : Int) (store : Option Store) (r size : Int)
    (st : Option Store) : Prop :=
  st = store ∧ rank = some r ∧ size = worldSize

/-- A branch of the helper, run from any state, either raises or returns the sentinel
    having written nothing, the sentinel only for a subgroup, or builds the call's fresh
    object as `built` says and registers it under `name`, with a record naming backend
    `b`. -/
def BuildsFresh (ext : Ext) (groupRanks : List Int) (b : Attr) (name : String)
    (built : Int → Int → Option Store → Prop) (x : Py State Handle) : Prop :=
  ∀ s, (∃ e, x s = ⟨s, .error e⟩) ∨
    (groupRanks ≠ [] ∧ x s = ⟨s, .ok .nonGroupMember⟩) ∨
    ∃ r size st, built r size st ∧
      x s = ⟨registered s (.pg ext.fresh r size) (b, st) name, .ok (.pg ext.fresh r size)⟩

theorem mpiGroup_buildsFresh (env : Env) (ext : Ext) (groupRanks : List Int) (name : String) :
    BuildsFresh ext groupRanks (env.backendClass.attr .mpi) name (mpiBuilt env ext groupRanks)
      (mpiGroup env ext groupRanks name) := by
  intro s
  simp only [mpiGroup, Py.bind_apply, Py.raiseIf_apply, Py.lift_apply]
  by_cases hm : env.mpiAvailable = false
  · simp [hm]
  simp only [hm, if_false]
  cases hc : processGroupMPICreate env ext groupRanks with
  | error e => simp
  | ok r =>
    cases r with
    | none => exact .inr (.inl ⟨processGroupMPICreate_none hc, rfl⟩)
    | some pg =>
      obtain ⟨r, size, rfl⟩ := processGroupMPICreate_some hc
      exact .inr (.inr ⟨r, size, none, ⟨rfl, hc⟩, rfl⟩)

theorem storeGroup_buildsFresh (env : Env) (ext : Ext) (worldSize : Int) (rank : Option Int)
    (groupRanks : List Int) (backend : Attr) (store : Option Store) (name : String) :
    BuildsFresh ext groupRanks backend name (storeBuilt rank worldSize store)
      (storeGroup env ext worldSize rank groupRanks backend store name) := by
  intro s
  simp only [storeGroup, Py.bind_apply, Py.get_apply, Py.lift_apply]
  cases hm : isMember s groupRanks with
  | error e => exact .inl ⟨e, rfl⟩
  | ok b =>
    cases b with
    | false => exact .inr (.inl ⟨isMember_false hm, rfl⟩)
    | true =>
      simp only [Bool.not_true, Bool.false_eq_true, if_false, Py.bind_apply, Py.raiseIf_apply,
        Py.lift_apply]
      by_cases hs : store = none
      · simp [hs]
      simp only [hs, if_false]
      cases hc : constructBackend env ext backend rank worldSize with
      | error e => simp
      | ok pg =>
        obtain ⟨r, hr, rfl⟩ := constructBackend_ok hc
        exact .inr (.inr ⟨r, worldSize, store, ⟨rfl, hr, rfl⟩, rfl⟩)

/-- The helper raises, or returns the sentinel to a process outside a subgroup, having
    only named the group; or it builds an object with the call's fresh identity and
    registers it, under a name not yet taken, with the backend `Backend(backend)`
    parsed: for MPI the runtime's communicator with no store, for the others the rank
    and size it was given, with the store. -/
theorem newProcessGroupHelper_cases (env : Env) (ext : Ext) (worldSize : Int)
    (rank : Option Int) (groupRanks : List Int) (backend : Attr) (store : Option Store)
    (groupName : String) (timeout : Timeout) (s : State) :
    let o := newProcessGroupHelper env ext worldSize rank groupRanks backend store groupName
      timeout s
    (∃ e, o = ⟨named s groupName, .error e⟩) ∨
    (groupRanks ≠ [] ∧ o = ⟨named s groupName, .ok .nonGroupMember⟩) ∨
    ∃ r size b st, Backend.new env.backendClass backend = .ok b ∧
      nameOf s groupName ∉ s.pgNames.values ∧
      (if b = env.backendClass.attr .mpi then mpiBuilt env ext groupRanks r size st
        else storeBuilt rank worldSize store r size st) ∧
      o = ⟨registered (named s groupName) (.pg ext.fresh r size) (b, st) (nameOf s groupName),
        .ok (.pg ext.fresh r size)⟩ := by
  intro o
  simp only [o, newProcessGroupHelper, Py.bind_apply, nameGroup_apply, Py.get_apply,
    Py.raiseIf_apply, named_pgNames, Py.lift_apply]
  by_cases hdup : nameOf s groupName ∈ s.pgNames.values
  · simp [hdup]
  by_cases ht : timeout.isTimedelta = false
  · simp [hdup, ht]
  simp only [hdup, ht, if_false]
  cases hb : Backend.new env.backendClass backend with
  | error e => simp
  | ok b =>
    -- Either branch only registers the call's fresh object.
    have hbr : BuildsFresh ext groupRanks b (nameOf s groupName)
        (if b = env.backendClass.attr .mpi then mpiBuilt env ext groupRanks
          else storeBuilt rank worldSize store)
        (if b = env.backendClass.attr .mpi then mpiGroup env ext groupRanks (nameOf s groupName)
          else
          storeGroup env ext worldSize rank groupRanks b store (nameOf s groupName)) := by
      split
      · rename_i hm; subst hm; exact mpiGroup_buildsFresh env ext groupRanks _
      · exact storeGroup_buildsFresh env ext worldSize rank groupRanks b store _
    rcases hbr (named s groupName) with he | he | ⟨r, size, st, hp, he⟩
    · exact .inl he
    · exact .inr (.inl he)
    · refine .inr (.inr ⟨r, size, b, st, rfl, not_false, ?_, he⟩)
      split <;> simp_all

/-- The membership test for a subgroup: the caller's global rank is among the ranks. -/
theorem isMember_of_ne_nil {s : State} {groupRanks : List Int} (hne : groupRanks ≠ [])
    {w : Handle} (hw : s.world = some w) {gr : Int} (hr : w.rank = .ok gr) :
    isMember s groupRanks = .ok (decide (gr ∈ groupRanks)) := by
  have hl : groupRanks.length ≠ 0 := fun h => hne (List.length_eq_zero.1 h)
  simp [isMember, hl, getDefaultGroup, hw, hr, bind, Except.bind, pure, Except.pure]

theorem storeGroup_nonmember {env : Env} {ext : Ext} {worldSize : Int} {rank : Option Int}
    {groupRanks : List Int} {backend : Attr} {store : Option Store} {name : String}
    {s : State} (h : isMember s groupRanks = .ok false) :
    storeGroup env ext worldSize rank groupRanks backend store name s =
      ⟨s, .ok .nonGroupMember⟩ := by
  simp [storeGroup, h]

/-- Past its checks, the helper with a backend other than MPI runs the store branch on
    the named state. -/
theorem newProcessGroupHelper_store {env : Env} {ext : Ext} {worldSize : Int}
    {rank : Option Int} {groupRanks : List Int} {backend b : Attr} {store : Option Store}
    {groupName : String} {timeout : Timeout} {s : State}
    (hdup : nameOf s groupName ∉ s.pgNames.values) (ht : timeout.isTimedelta = true)
    (hb : Backend.new env.backendClass backend = .ok b) (hm : b ≠ env.backendClass.attr .mpi) :
    newProcessGroupHelper env ext worldSize rank groupRanks backend store groupName timeout s =
      storeGroup env ext worldSize rank groupRanks b store (nameOf s groupName)
        (named s groupName) := by
  simp [newProcessGroupHelper, nameGroup_apply, hdup, ht, hb, hm]

end DistributedC10d
