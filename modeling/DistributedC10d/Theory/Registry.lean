import DistributedC10d.Theory.Calls
import DistributedC10d.Theory.RankMap

/-!
# The Registries Over Every Run

The three registries `_pg_map`, `_pg_names` and `_pg_group_ranks` are written together
by the creations and erased together by `destroy_process_group`, with one exception:
`new_group` records a rank map under whatever the helper returned, the
`NON_GROUP_MEMBER` sentinel included, and the sentinel has no record and no name. What
holds from import on, whatever the calls and however they fail, is `Inv`: `_pg_map` and
`_pg_names` have the same keys; every registered group has a rank map, and the only key
of `_pg_group_ranks` that is not registered is the sentinel; names are distinct; the
registries are empty exactly when there is no world; and the world is registered, with
the identity rank map over its size.

`Inv` also carries what a call needs to keep the rest. Every registered group is an
object built earlier in the run, so the object a call builds is new. Every name is the
world's or a default name handed out since the world was built, so the next default
name is taken only if the world took it. Every rank map is one a creation built.

## Main definitions

* `Inv`: The invariant, given the number of objects the process has built.
* `RegistryShape`: What `Inv` says of the registries alone.

## Theorems

* `Inv.step`: Every call keeps it, whatever it raises.
* `Inv.step_keys`: A call registers nothing but the object it builds.
* `Reachable.inv`: Every reachable process has it.
* `Reachable.not_mem_keys_run`: A handle built before and unregistered is never
  registered again.
* `registry_invariant`: Every reachable state has the registries' shape, `RegistryShape`.
* `sentinel_rank_map_unregistered`: A rank map with no record, after two calls.
-/

namespace DistributedC10d

/-- What holds of the globals after any run in which `heap` objects have been built. -/
structure Inv (s : State) (heap : Nat) : Prop where
  /-- `_pg_map` and `_pg_names` have the same keys. -/
  names_keys : ∀ h, h ∈ s.pgNames.keys ↔ h ∈ s.pgMap.keys
  /-- Every registered group has a rank map. -/
  ranks_keys : ∀ h, h ∈ s.pgMap.keys → h ∈ s.pgGroupRanks.keys
  /-- A rank map belongs to a registered group or to the sentinel. -/
  ranks_registered : ∀ h, h ∈ s.pgGroupRanks.keys → h ∈ s.pgMap.keys ∨ h = .nonGroupMember
  /-- No two groups have the same name. -/
  names_inj : ∀ h h' n, s.pgNames.get? h = some n → s.pgNames.get? h' = some n → h = h'
  /-- Without a world, nothing is registered. -/
  empty : s.world = none → s.pgMap.keys = [] ∧ s.pgGroupRanks.keys = []
  /-- The world is registered, with the identity rank map over its size. -/
  world : ∀ w, s.world = some w → w ∈ s.pgMap.keys ∧
    ∃ n, w.size = .ok n ∧ s.pgGroupRanks.get? w = some (rankMap (worldRanks n))
  /-- Every registered group is an object built before. -/
  built : ∀ h, h ∈ s.pgMap.keys → h.builtBefore heap
  /-- A name is the world's, or a default name handed out since the world was built. -/
  names : ∀ h n, s.pgNames.get? h = some n →
    s.world = some h ∨ ∃ c < s.groupCount, n = toString c
  /-- Every rank map is one a creation built. -/
  rank_maps : ∀ h m, s.pgGroupRanks.get? h = some m → ∃ l, m = rankMap l

theorem Handle.builtBefore.mono {h : Handle} {n m : Nat} (hb : h.builtBefore n) (hnm : n ≤ m) :
    h.builtBefore m := by
  cases h with
  | nonGroupMember => exact hb
  | pg i r size => exact Nat.lt_of_lt_of_le hb hnm

theorem Handle.ne_of_builtBefore {h : Handle} {n : Nat} (hb : h.builtBefore n) (r size : Int) :
    h ≠ .pg n r size := by
  rintro rfl
  exact Nat.lt_irrefl n hb

theorem Handle.ne_sentinel_of_builtBefore {h : Handle} {n : Nat} (hb : h.builtBefore n) :
    h ≠ .nonGroupMember := by
  rintro rfl
  exact hb

theorem PyDict.get?_of_keys_nil {κ α : Type} [DecidableEq κ] {d : PyDict κ α} (hd : d.keys = [])
    (k : κ) : d.get? k = none :=
  PyDict.get?_eq_none_iff.2 (by simp [hd])

namespace Inv

variable {s : State} {n : Nat}

theorem initial : Inv State.initial 0 where
  names_keys := by simp [State.initial]
  ranks_keys := by simp [State.initial]
  ranks_registered := by simp [State.initial]
  names_inj := by simp [State.initial]
  empty := by simp [State.initial]
  world := by simp [State.initial]
  built := by simp [State.initial]
  names := by simp [State.initial]
  rank_maps := by simp [State.initial]

theorem mono (hi : Inv s n) {m : Nat} (h : n ≤ m) : Inv s m :=
  { hi with built := fun k hk => (hi.built k hk).mono h }

/-- `Inv` reads the world, the registries and, as a bound, the counter. -/
theorem of_eq (hi : Inv s n) {s' : State} (hw : s'.world = s.world) (hm : s'.pgMap = s.pgMap)
    (hn : s'.pgNames = s.pgNames) (hr : s'.pgGroupRanks = s.pgGroupRanks)
    (hc : s.groupCount ≤ s'.groupCount) : Inv s' n where
  names_keys := hn ▸ hm ▸ hi.names_keys
  ranks_keys := hr ▸ hm ▸ hi.ranks_keys
  ranks_registered := hr ▸ hm ▸ hi.ranks_registered
  names_inj := hn ▸ hi.names_inj
  empty := hw ▸ hm ▸ hr ▸ hi.empty
  world := hw ▸ hm ▸ hr ▸ hi.world
  built := hm ▸ hi.built
  names h x hx := by
    rcases hi.names h x (hn ▸ hx) with h1 | ⟨c, hc', rfl⟩
    · exact .inl (hw ▸ h1)
    · exact .inr ⟨c, by omega, rfl⟩
  rank_maps := hr ▸ hi.rank_maps

/-- Naming a group only moves the counter on. -/
theorem named (hi : Inv s n) (g : String) : Inv (named s g) n :=
  hi.of_eq (by simp) (by simp) (by simp) (by simp) (by rw [named_groupCount]; split <;> omega)

/-- A process outside a new group records its rank map under the sentinel. -/
theorem sentinel (hi : Inv s n) (hw : s.world ≠ none) (l : List Int) :
    Inv (withRanks s .nonGroupMember l) n :=
  { hi with
    ranks_keys := fun h hh => by
      simpa [PyDict.mem_keys_set] using .inr (hi.ranks_keys h hh)
    ranks_registered := fun h hh => by
      rcases (PyDict.mem_keys_set).1 hh with rfl | hh
      · exact .inr rfl
      · exact hi.ranks_registered h hh
    empty := fun h => absurd h hw
    world := fun w hw' => by
      obtain ⟨hk, m, hm, hr⟩ := hi.world w hw'
      have hne := Handle.ne_sentinel_of_builtBefore (hi.built w hk)
      exact ⟨hk, m, hm, by simpa [PyDict.get?_set, hne] using hr⟩
    rank_maps := fun h m hm => by
      simp only [withRanks_pgGroupRanks, PyDict.get?_set] at hm
      split at hm
      · exact ⟨l, (Option.some.inj hm).symm⟩
      · exact hi.rank_maps h m hm }

/-- `new_group` builds a subgroup: a fresh object, under the next default name, which
    no group has. -/
theorem subgroup (hi : Inv s n) (hw : s.world ≠ none)
    (hn : toString s.groupCount ∉ s.pgNames.values) (r size : Int)
    (record : Attr × Option Store) (l : List Int) :
    Inv (withRanks (registered (DistributedC10d.named s "") (.pg n r size) record
      (toString s.groupCount)) (.pg n r size) l) (n + 1) where
  names_keys h := by simp [PyDict.mem_keys_set, hi.names_keys h]
  ranks_keys h hh := by
    simp only [withRanks_pgGroupRanks, registered_pgGroupRanks, named_pgGroupRanks,
      PyDict.mem_keys_set, withRanks_pgMap, registered_pgMap, named_pgMap] at hh ⊢
    exact hh.imp_right (hi.ranks_keys h)
  ranks_registered h hh := by
    simp only [withRanks_pgGroupRanks, registered_pgGroupRanks, named_pgGroupRanks,
      PyDict.mem_keys_set, withRanks_pgMap, registered_pgMap, named_pgMap] at hh ⊢
    rcases hh with rfl | hh
    · exact .inl (.inl rfl)
    · exact (hi.ranks_registered h hh).imp_left .inr
  names_inj h h' x hx hx' := by
    simp only [withRanks_pgNames, registered_pgNames, named_pgNames, PyDict.get?_set] at hx hx'
    -- The new name is no other group's.
    have fresh : ∀ k, s.pgNames.get? k ≠ some (toString s.groupCount) :=
      fun k hk => hn (PyDict.mem_values.2 ⟨k, hk⟩)
    split at hx <;> split at hx'
    · simp_all
    · cases hx; exact absurd hx' (fresh h')
    · cases hx'; exact absurd hx (fresh h)
    · exact hi.names_inj h h' x hx hx'
  empty h := absurd h hw
  world w hw' := by
    simp only [withRanks_world, registered_world, named_world] at hw'
    obtain ⟨hk, m, hm, hr⟩ := hi.world w hw'
    have hne := Handle.ne_of_builtBefore (hi.built w hk) r size
    refine ⟨(PyDict.mem_keys_set).2 (.inr hk), m, hm, ?_⟩
    simpa [PyDict.get?_set, hne] using hr
  built h hh := by
    simp only [withRanks_pgMap, registered_pgMap, named_pgMap, PyDict.mem_keys_set] at hh
    rcases hh with rfl | hh
    · exact Nat.lt_succ_self n
    · exact (hi.mono (Nat.le_succ n)).built h hh
  names h x hx := by
    simp only [withRanks_pgNames, registered_pgNames, named_pgNames, PyDict.get?_set] at hx
    simp only [withRanks_world, registered_world, named_world, withRanks_groupCount,
      registered_groupCount, named_empty_groupCount]
    split at hx
    · cases hx; exact .inr ⟨s.groupCount, Nat.lt_succ_self _, rfl⟩
    · rcases hi.names h x hx with hw' | ⟨c, hc, rfl⟩
      · exact .inl hw'
      · exact .inr ⟨c, by omega, rfl⟩
  rank_maps h m hm := by
    simp only [withRanks_pgGroupRanks, registered_pgGroupRanks, named_pgGroupRanks,
      PyDict.get?_set] at hm
    split at hm
    · exact ⟨l, (Option.some.inj hm).symm⟩
    · exact hi.rank_maps h m hm

/-- `init_process_group` builds the world: a fresh object, into empty registries. -/
theorem initialized (hi : Inv s n) (hw : s.world = none) (g : String) (r size : Int)
    (record : Attr × Option Store) (b : Attr) (initMethod : Option String) :
    Inv (DistributedC10d.initialized (registered (DistributedC10d.named s g) (.pg n r size)
      record (nameOf s g)) (.pg n r size) size b initMethod) (n + 1) := by
  obtain ⟨hm, hr⟩ := hi.empty hw
  have hn : s.pgNames.keys = [] := List.eq_nil_iff_forall_not_mem.2 fun h hh =>
    by simpa [hm] using (hi.names_keys h).1 hh
  have hm' := PyDict.get?_of_keys_nil hm
  have hn' := PyDict.get?_of_keys_nil hn
  have hr' := PyDict.get?_of_keys_nil hr
  constructor <;> simp [PyDict.mem_keys_set, PyDict.get?_set, hm, hn, hr, hm', hn', hr']
  exact Nat.lt_succ_self n

/-- Destroying the world empties everything. -/
theorem cleared (s : State) (n : Nat) : Inv (DistributedC10d.cleared s) n where
  names_keys := by simp
  ranks_keys := by simp
  ranks_registered := by simp
  names_inj := by simp
  empty := by simp
  world := by simp
  built := by simp
  names := by simp
  rank_maps := by simp

/-- Destroying a subgroup takes out its three entries and leaves the world's. -/
theorem erased (hi : Inv s n) {pg : Handle} (hw : s.world ≠ some pg) :
    Inv (DistributedC10d.erased s pg) n where
  names_keys h := by simp [PyDict.mem_keys_erase, hi.names_keys h]
  ranks_keys h hh := by
    simp only [erased_pgMap, erased_pgGroupRanks, PyDict.mem_keys_erase] at hh ⊢
    exact ⟨hh.1, hi.ranks_keys h hh.2⟩
  ranks_registered h hh := by
    simp only [erased_pgMap, erased_pgGroupRanks, PyDict.mem_keys_erase] at hh ⊢
    exact (hi.ranks_registered h hh.2).imp_left fun hk => ⟨hh.1, hk⟩
  names_inj h h' x hx hx' := by
    simp only [erased_pgNames, PyDict.get?_erase] at hx hx'
    split at hx <;> split at hx'
    all_goals first | cases hx | cases hx' | exact hi.names_inj h h' x hx hx'
  empty h := by
    obtain ⟨hm, hr⟩ := hi.empty h
    simp only [erased_pgMap, erased_pgGroupRanks]
    constructor <;> refine List.eq_nil_iff_forall_not_mem.2 fun k hk => ?_ <;>
      simp_all [PyDict.mem_keys_erase]
  world w hw' := by
    obtain ⟨hk, m, hm, hr⟩ := hi.world w hw'
    have hne : w ≠ pg := by rintro rfl; exact hw hw'
    exact ⟨(PyDict.mem_keys_erase).2 ⟨hne, hk⟩, m, hm, by simpa [PyDict.get?_erase, hne] using hr⟩
  built h hh := hi.built h ((PyDict.mem_keys_erase).1 hh).2
  names h x hx := by
    simp only [erased_pgNames, PyDict.get?_erase] at hx
    split at hx
    · cases hx
    · exact hi.names h x hx
  rank_maps h m hm := by
    simp only [erased_pgGroupRanks, PyDict.get?_erase] at hm
    split at hm
    · cases hm
    · exact hi.rank_maps h m hm

/-- Every call keeps the invariant, however it ends. -/
theorem step {p : Proc} (hi : Inv p.st p.heap) (env : Env) (x : Ext) (c : Cmd) :
    Inv (p.step env x c).1.st (p.step env x c).1.heap := by
  cases c with
  | initProcessGroup backend initMethod timeout worldSize rank store groupName =>
    simp only [Proc.step, initProcessGroup_state]
    rcases initProcessGroupSetup_cases env { x with fresh := p.heap } backend initMethod timeout
      worldSize rank store groupName p.st with
      ⟨e, -, ho⟩ | ⟨a, -, hw, ⟨e, ho⟩ | ⟨r, size, b, st, -, -, ho⟩⟩ <;> rw [ho]
    · exact hi.mono (Nat.le_succ _)
    · exact (hi.named groupName).mono (Nat.le_succ _)
    · exact hi.initialized hw groupName r size (b, st) b a.initMethod
  | newGroup ranks timeout backend =>
    simp only [Proc.step, newGroup_state]
    rcases newGroupSetup_cases env { x with fresh := p.heap } ranks timeout backend p.st with
      ⟨e, -, ho⟩ | ⟨a, ha, ⟨e, ho⟩ | ⟨-, ho⟩ | ⟨r, size, b, st, -, hn, -, ho⟩⟩ <;> rw [ho]
    · exact hi.mono (Nat.le_succ _)
    · exact (hi.named "").mono (Nat.le_succ _)
    · exact ((hi.named "").sentinel (by simpa using groupArgs_world ha) a.ranks).mono
        (Nat.le_succ _)
    · exact hi.subgroup (groupArgs_world ha) hn r size (b, st) a.ranks
  | destroyProcessGroup target =>
    simp only [Proc.step]
    split
    · exact hi
    · rename_i group _
      rcases destroyProcessGroup_cases group p.st with
        ⟨-, ho⟩ | ⟨-, ho⟩ | ⟨pg, -, -, ho⟩ | ⟨pg, -, -, -, ho⟩ |
        ⟨pg, -, hw, hk, ⟨-, -, ho⟩ | hn | hr⟩
      · rw [ho]; exact hi
      · rw [ho]; exact hi
      · rw [ho]; exact hi
      · rw [ho]; exact Inv.cleared p.st p.heap
      · rw [ho]; exact hi.erased hw
      -- The registries agree on their keys, so the deletions go through.
      · exact absurd ((hi.names_keys pg).2 hk) hn
      · exact absurd (hi.ranks_keys pg hk) hr

/-- Every group a call leaves registered was registered before, or is the object the call
    built: the registry only ever takes in a new object. -/
theorem step_keys {p : Proc} (hi : Inv p.st p.heap) (env : Env) (x : Ext) (c : Cmd)
    {h : Handle} (hh : h ∈ (p.step env x c).1.st.pgMap.keys) :
    h ∈ p.st.pgMap.keys ∨ ∃ r size, h = .pg p.heap r size := by
  cases c with
  | initProcessGroup backend initMethod timeout worldSize rank store groupName =>
    simp only [Proc.step, initProcessGroup_state] at hh
    rcases initProcessGroupSetup_cases env { x with fresh := p.heap } backend initMethod timeout
      worldSize rank store groupName p.st with
      ⟨e, -, ho⟩ | ⟨a, -, -, ⟨e, ho⟩ | ⟨r, size, b, st, -, -, ho⟩⟩ <;>
      simp only [ho, named_pgMap, initialized_pgMap, registered_pgMap, PyDict.mem_keys_set] at hh
    · exact .inl hh
    · exact .inl hh
    · exact hh.elim (fun h => .inr ⟨r, size, h⟩) .inl
  | newGroup ranks timeout backend =>
    simp only [Proc.step, newGroup_state] at hh
    rcases newGroupSetup_cases env { x with fresh := p.heap } ranks timeout backend p.st with
      ⟨e, -, ho⟩ | ⟨a, -, ⟨e, ho⟩ | ⟨-, ho⟩ | ⟨r, size, b, st, -, -, -, ho⟩⟩ <;>
      simp only [ho, named_pgMap, withRanks_pgMap, registered_pgMap, PyDict.mem_keys_set] at hh
    · exact .inl hh
    · exact .inl hh
    · exact .inl hh
    · exact hh.elim (fun h => .inr ⟨r, size, h⟩) .inl
  | destroyProcessGroup target =>
    simp only [Proc.step] at hh
    split at hh
    · exact .inl hh
    · rename_i group _
      rcases destroyProcessGroup_cases group p.st with
        ⟨-, ho⟩ | ⟨-, ho⟩ | ⟨pg, -, -, ho⟩ | ⟨pg, -, -, -, ho⟩ |
        ⟨pg, -, hw, hk, ⟨-, -, ho⟩ | hn | hr⟩
      · rw [ho] at hh; exact .inl hh
      · rw [ho] at hh; exact .inl hh
      · rw [ho] at hh; exact .inl hh
      · simp [ho] at hh
      · simp only [ho, erased_pgMap, PyDict.mem_keys_erase] at hh
        exact .inl hh.2
      · exact absurd ((hi.names_keys pg).2 hk) hn
      · exact absurd (hi.ranks_keys pg hk) hr

end Inv

/-- A Gloo world of two ranks sharing one store, as every rank's environment. -/
def glooWorld : Env where
  mpiAvailable := false
  ncclAvailable := false
  glooAvailable := true
  hcclAvailable := false
  backendClass := BackendClass.initial
  mpiRank := 0
  mpiSize := 2
  rendezvous := fun _ rank worldSize => (⟨0⟩, rank, worldSize)

/-- The same with NCCL built in. An NCCL group connects on its first collective, so
    building one is the local step `construct` is; a Gloo group's rendezvous over the
    store is not modelled. -/
def ncclWorld : Env := { glooWorld with ncclAvailable := true }

theorem Reachable.run {p : Proc} (hp : Reachable p) (env : Env) (cmds : List (Cmd × Ext)) :
    Reachable (p.run env cmds) := by
  induction cmds generalizing p with
  | nil => exact hp
  | cons c cmds ih => exact ih (hp.step env c.2 c.1)

/-! ### Runs of rank 0 of `glooWorld` -/

/-- Rank 0 has called `init_process_group` for a Gloo world of two, with a store. -/
def worldOfTwo : Proc := Proc.initial.run glooWorld
  [(.initProcessGroup Backend.gloo none (.timedelta 1800) 2 0 (some ⟨0⟩) "", ⟨0, false, none⟩)]

/-- Then `new_group([0, 1])`. -/
def subgroupPair : Proc :=
  worldOfTwo.run glooWorld [(.newGroup (some [0, 1]) (.timedelta 1800) none, ⟨0, false, none⟩)]

/-- Then `destroy_process_group` of that subgroup. -/
def subgroupDestroyed : Proc :=
  subgroupPair.run glooWorld [(.destroyProcessGroup (.created 1), ⟨0, false, none⟩)]

/-- Rank 0 has initialized and called `new_group([1])`, a group it is not in. -/
def outsideSubgroup : Proc :=
  worldOfTwo.run glooWorld [(.newGroup (some [1]) (.timedelta 1800) none, ⟨0, false, none⟩)]

theorem worldOfTwo_reachable : Reachable worldOfTwo := Reachable.initial.run _ _

theorem subgroupPair_reachable : Reachable subgroupPair := worldOfTwo_reachable.run _ _

theorem subgroupDestroyed_reachable : Reachable subgroupDestroyed :=
  subgroupPair_reachable.run _ _

theorem outsideSubgroup_reachable : Reachable outsideSubgroup := worldOfTwo_reachable.run _ _

theorem Reachable.inv {p : Proc} (hp : Reachable p) : Inv p.st p.heap := by
  induction hp with
  | initial => exact Inv.initial
  | step env x c _ ih => exact ih.step env x c

theorem Proc.heap_le_step (p : Proc) (env : Env) (x : Ext) (c : Cmd) :
    p.heap ≤ (p.step env x c).1.heap := by
  cases c with
  | destroyProcessGroup target =>
    simp only [Proc.step]
    split <;> exact le_rfl
  | _ => exact Nat.le_succ _

/-- A handle built earlier in the run and no longer registered is never registered again,
    whatever calls follow: a destroyed group does not come back. -/
theorem Reachable.not_mem_keys_run {p : Proc} (hp : Reachable p) {g : Handle}
    (hb : g.builtBefore p.heap) (hk : g ∉ p.st.pgMap.keys) (env : Env)
    (cmds : List (Cmd × Ext)) : g ∉ (p.run env cmds).st.pgMap.keys := by
  induction cmds generalizing p with
  | nil => exact hk
  | cons c cmds ih =>
    refine ih (hp.step env c.2 c.1) (hb.mono (p.heap_le_step env c.2 c.1)) fun hk' => ?_
    rcases hp.inv.step_keys env c.2 c.1 hk' with hk' | ⟨r, size, rfl⟩
    · exact hk hk'
    · exact Handle.ne_of_builtBefore hb r size rfl

/-- Rank 0 of `glooWorld` initializes, builds the subgroup `[0, 1]` and destroys it: the
    process it reaches has the invariant. -/
theorem inv_after_subgroup_destroyed : Inv subgroupDestroyed.st subgroupDestroyed.heap :=
  Reachable.inv subgroupDestroyed_reachable

/-- The registries' shape: `_pg_map` and `_pg_names` have the same keys; every
    registered group has a rank map, and a rank map with no record is the sentinel's; no
    two groups share a name; the registries are empty exactly when there is no world;
    and the world is registered, with the identity rank map on `range(WORLD.size())`. -/
def RegistryShape (s : State) : Prop :=
  (∀ h, h ∈ s.pgMap.keys ↔ h ∈ s.pgNames.keys) ∧
  (∀ h, h ∈ s.pgMap.keys → h ∈ s.pgGroupRanks.keys) ∧
  (∀ h, h ∈ s.pgGroupRanks.keys → h ∉ s.pgMap.keys → h = .nonGroupMember) ∧
  (∀ h h' n, s.pgNames.get? h = some n → s.pgNames.get? h' = some n → h = h') ∧
  (s.world = none ↔ s.pgMap.keys = [] ∧ s.pgNames.keys = [] ∧ s.pgGroupRanks.keys = []) ∧
  ∀ w, s.world = some w → w ∈ s.pgMap.keys ∧ ∃ n m, w.size = .ok n ∧
    s.pgGroupRanks.get? w = some m ∧ ∀ i j, m.get? i = some j ↔ 0 ≤ i ∧ i < n ∧ j = i

theorem Inv.registryShape {s : State} {n : Nat} (hi : Inv s n) : RegistryShape s := by
  have hnames : s.pgMap.keys = [] → s.pgNames.keys = [] := fun hm =>
    List.eq_nil_iff_forall_not_mem.2 fun h hh => by simpa [hm] using (hi.names_keys h).1 hh
  refine ⟨fun h => (hi.names_keys h).symm, hi.ranks_keys,
    fun h hh hm => (hi.ranks_registered h hh).resolve_left hm, hi.names_inj, ⟨fun hw => ?_, ?_⟩,
    fun w hw => ?_⟩
  · obtain ⟨hm, hr⟩ := hi.empty hw
    exact ⟨hm, hnames hm, hr⟩
  · rintro ⟨hm, -, -⟩
    cases hw : s.world with
    | none => rfl
    | some w => simpa [hm] using (hi.world w hw).1
  · obtain ⟨hk, n, hn, hr⟩ := hi.world w hw
    exact ⟨hk, n, _, hn, hr, fun i j => rankMap_worldRanks_get?⟩

/-- Every state a run reaches, whatever the calls and however they fail, has the
    registries' shape. -/
theorem registry_invariant {p : Proc} (hp : Reachable p) : RegistryShape p.st :=
  hp.inv.registryShape

/-- Rank 0 of `glooWorld` initializes with an explicit store and then calls
    `new_group([1])`, a group it is not in: the state it reaches has the shape. -/
theorem registry_invariant_after_nonmember : RegistryShape outsideSubgroup.st :=
  registry_invariant outsideSubgroup_reachable

/-- After the same two calls, the sentinel has a rank map and no record. -/
theorem sentinel_rank_map_unregistered :
    Reachable outsideSubgroup ∧ Handle.nonGroupMember ∈ outsideSubgroup.st.pgGroupRanks.keys ∧
      Handle.nonGroupMember ∉ outsideSubgroup.st.pgMap.keys :=
  ⟨outsideSubgroup_reachable, by decide, by decide⟩

end DistributedC10d
