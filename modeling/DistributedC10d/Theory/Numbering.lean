import DistributedC10d.Theory.Membership

/-!
# Two Numberings Over Every Run

A group's ranks are numbered twice. The backend object is built with a rank and a size,
which it reports as `pg.rank()` and `pg.size()`. `get_rank(pg)` and `get_world_size(pg)`
read the module's own records instead: the default group's `rank()` translated through
`_pg_group_ranks[pg]`, and that map's length. `init_process_group` builds the world and
records the identity map over its size, and `get_rank` never translates through it.
`new_group` builds an object at `sorted(ranks).index(global_rank)` of `len(ranks)`, and
records the map of the sorted list. Each later call writes only the entries of the
object it builds, or erases the entries of the group it destroys. So once the two
numberings agree for a group, they agree until it is destroyed.

The numberings part in three cases. `new_group` may be given a list with a repeated rank
(`Theory.Membership`). `new_group()` is built with the default group's own rank, which
`init_process_group` never checks against the world size. And an MPI subgroup is
numbered by the MPI runtime's communicator. `Numbered` holds of every run that avoids
the first, for every group but MPI subgroups, whenever the world's rank lies in its
range.

## Main definitions

* `Cmd.distinctRanks`: A call other than `new_group` with a list that repeats a rank.
* `worldRankInRange`: The default group's own rank lies in `[0, size)`.
* `Numbered`: `get_rank(g) = g.rank()` and `get_world_size(g) = g.size()`.

## Theorems

* `getRank_getWorldSize_congr`: The two read only the world and the group's rank map.
* `Numbered.step`: Every call keeps `Numbered`, however it ends.
* `registry_numbering_matches_objects`: Over every run without repeated ranks.
-/

namespace DistributedC10d

/-- `new_group`'s list of ranks, where one is given, has no repeats. -/
def Cmd.distinctRanks : Cmd → Bool
  | .newGroup (some ranks) _ _ => decide ranks.Nodup
  | _ => true

/-- The default group's own rank lies in `[0, size)`, or there is none. -/
def worldRankInRange (s : State) : Bool :=
  match s.world with
  | some (.pg _ r n) => decide (0 ≤ r ∧ r < n)
  | _ => true

/-- For the world, and for every registered group other than an MPI subgroup, one whose
    record holds what `Backend.MPI` is bound to in `cls`, `get_rank(g)` and
    `get_world_size(g)` are the rank and size the object was built with; once the world's
    own rank lies in its range. -/
def Numbered (cls : BackendClass) (s : State) : Prop :=
  worldRankInRange s = true → ∀ g record, s.pgMap.get? g = some record →
    (record.1 ≠ cls.attr .mpi ∨ s.world = some g) →
    getRank s (some g) = g.rank ∧ getWorldSize s (some g) = g.size

/-- `get_rank(g)` and `get_world_size(g)` read the world and `g`'s rank map, nothing
    else. -/
theorem getRank_getWorldSize_congr {s t : State} (g : Handle) (hw : t.world = s.world)
    (hr : t.pgGroupRanks.get? g = s.pgGroupRanks.get? g) :
    getRank t (some g) = getRank s (some g) ∧ getWorldSize t (some g) = getWorldSize s (some g) := by
  simp [getRank, getWorldSize, getGroupSize, getGroupRank, getDefaultGroup, hw, hr]

namespace Numbered

variable {cls : BackendClass} {s : State} {n : Nat}

theorem of_frame {t : State} (hn : Numbered cls s) (hw : t.world = s.world)
    (hf : ∀ g record, t.pgMap.get? g = some record →
      s.pgMap.get? g = some record ∧ t.pgGroupRanks.get? g = s.pgGroupRanks.get? g) :
    Numbered cls t := by
  intro hrange g record hg hb
  obtain ⟨hg', hr⟩ := hf g record hg
  obtain ⟨h1, h2⟩ := getRank_getWorldSize_congr g hw hr
  rw [h1, h2]
  exact hn (by simpa only [worldRankInRange, hw] using hrange) g record hg' (hw ▸ hb)

theorem initial : Numbered cls State.initial := by
  intro _ g record hg
  simp [State.initial] at hg

/-- Naming a group moves only the counter. -/
theorem named (hn : Numbered cls s) (g : String) : Numbered cls (named s g) :=
  hn.of_frame (by simp) fun _ _ hg => ⟨by simpa using hg, by simp⟩

/-- The sentinel's rank map is no registered group's. -/
theorem sentinel (hn : Numbered cls s) (hi : Inv s n) (l : List Int) :
    Numbered cls (withRanks s .nonGroupMember l) :=
  hn.of_frame rfl fun g _ hg => by
    have hne := Handle.ne_sentinel_of_builtBefore (hi.built g (PyDict.mem_keys_iff.2 ⟨_, hg⟩))
    exact ⟨hg, by simp [PyDict.get?_set, hne]⟩

theorem cleared (s : State) : Numbered cls (DistributedC10d.cleared s) := by
  intro _ g record hg
  simp at hg

/-- Destroying a subgroup leaves every other group's entries. -/
theorem erased (hn : Numbered cls s) (pg : Handle) :
    Numbered cls (DistributedC10d.erased s pg) :=
  hn.of_frame rfl fun g _ hg => by
    have hne : g ≠ pg := by rintro rfl; simp [PyDict.get?_erase] at hg
    simp only [erased_pgMap, PyDict.get?_erase, hne, if_false] at hg
    exact ⟨hg, by simp [PyDict.get?_erase, hne]⟩

/-- `init_process_group` registers the world alone, and `get_rank` reads the world's own
    rank and size. -/
theorem initialized (hi : Inv s n) (hw : s.world = none) (g : String) (r size : Int)
    (record : Attr × Option Store) (b : Attr) (initMethod : Option String) :
    Numbered cls (DistributedC10d.initialized (registered (DistributedC10d.named s g)
      (.pg n r size) record (nameOf s g)) (.pg n r size) size b initMethod) := by
  intro _ g' record' hg' _
  have hm := PyDict.get?_of_keys_nil (hi.empty hw).1 g'
  have hg : g' = .pg n r size := by
    by_contra hne
    simp [PyDict.get?_set, hne, hm] at hg'
  subst hg
  simp [getRank, getWorldSize, getGroupSize, getDefaultGroup, bind, Except.bind]

/-- `new_group` registers one fresh object. It reports its numbering when the rank map
    gives the caller's global rank its place, unless it is an MPI subgroup. -/
theorem subgroup (hn : Numbered cls s) (hi : Inv s n) {w : Handle} {gr : Int}
    (hw : s.world = some w) (hgr : w.rank = .ok gr) (r size : Int) (b : Attr)
    (st : Option Store) (name : String) (l : List Int)
    (hl : worldRankInRange s = true → b ≠ cls.attr .mpi →
      (rankMap l).get? gr = some r ∧ ((rankMap l).keys.length : Int) = size) :
    Numbered cls (withRanks (registered (DistributedC10d.named s "") (.pg n r size) (b, st) name)
      (.pg n r size) l) := by
  have hne : ∀ g, g ∈ s.pgMap.keys → g ≠ .pg n r size :=
    fun g hg => Handle.ne_of_builtBefore (hi.built g hg) r size
  have hw' : w ≠ .pg n r size := hne w (hi.world w hw).1
  set t := withRanks (registered (DistributedC10d.named s "") (.pg n r size) (b, st) name)
    (.pg n r size) l
  intro hrange g record hg hb
  have hrange' : worldRankInRange s = true := by simpa [t, worldRankInRange] using hrange
  by_cases hg' : g = .pg n r size
  · subst hg'
    simp only [t, withRanks_pgMap, registered_pgMap, named_pgMap, PyDict.get?_set_self,
      Option.some.injEq] at hg
    subst hg
    have hb' : b ≠ cls.attr .mpi := by simpa [t, hw, hw'] using hb
    obtain ⟨hmap, hlen⟩ := hl hrange' hb'
    exact withRanks_numbering (s := registered (DistributedC10d.named s "") _ _ name)
      (by simpa using hw) hgr hw' hmap hlen
  · have hg'' : s.pgMap.get? g = some record := by
      simpa [t, PyDict.get?_set, hg'] using hg
    obtain ⟨h1, h2⟩ := getRank_getWorldSize_congr (s := s) (t := t) g (by simp [t])
      (by simp [t, PyDict.get?_set, hg'])
    rw [h1, h2]
    exact hn hrange' g record hg'' (by simpa [t] using hb)

end Numbered

theorem worldRankInRange_iff {s : State} {w : Handle} {gr n : Int} (hw : s.world = some w)
    (hgr : w.rank = .ok gr) (hn : w.size = .ok n) :
    worldRankInRange s = true ↔ 0 ≤ gr ∧ gr < n := by
  cases w with
  | nonGroupMember => cases hgr
  | pg i r m =>
    simp only [Handle.rank_pg, Handle.size_pg, Except.ok.injEq] at hgr hn
    subst hgr hn
    simp [worldRankInRange, hw]

/-- What `new_group` builds a member's object with, when the store branch builds it: the
    recorded map gives the caller's global rank that place, and has that many keys. For
    `new_group()` this needs the world's rank in range; for a list, no repeats. -/
theorem groupArgs_numbering {env : Env} {s : State} {ranks : Option (List Int)}
    {timeout : Timeout} {backend : Option String} {a : GroupArgs}
    (ha : groupArgs env s ranks backend = .ok a)
    (hd : (Cmd.newGroup ranks timeout backend).distinctRanks = true)
    (hrange : worldRankInRange s = true) {r : Int} (hr : a.rank = some r) :
    ∃ w gr, s.world = some w ∧ w.rank = .ok gr ∧ (rankMap a.ranks).get? gr = some r ∧
      ((rankMap a.ranks).keys.length : Int) = a.worldSize := by
  obtain ⟨w, gr, n, -, hw, hgr, hn, -, -, -, hc, -⟩ := groupArgs_ok ha
  refine ⟨w, gr, hw, hgr, ?_⟩
  cases ranks with
  | none =>
    simp only [checkRanks, Except.ok.injEq, Prod.mk.injEq] at hc
    obtain ⟨hl, hsize, hrank⟩ := hc
    rw [← hrank, Option.some.injEq] at hr
    subst hr
    obtain ⟨h0, hlt⟩ := (worldRankInRange_iff hw hgr hn).1 hrange
    rw [← hl, ← hsize, rankMap_keys_length_of_nodup (worldRanks_nodup n)]
    exact ⟨rankMap_worldRanks_get?.2 ⟨h0, hlt, rfl⟩, by simp [worldRanks]; omega⟩
  | some ranks =>
    exact checkRanks_some_numbering (by simpa [Cmd.distinctRanks] using hd) (hr ▸ hc)

namespace Numbered

/-- Every call without a repeated rank keeps `Numbered`, however it ends. -/
theorem step {p : Proc} (hi : Inv p.st p.heap) {env : Env}
    (hn : Numbered env.backendClass p.st) (x : Ext) {c : Cmd} (hc : c.distinctRanks = true) :
    Numbered env.backendClass (p.step env x c).1.st := by
  cases c with
  | initProcessGroup backend initMethod timeout worldSize rank store groupName =>
    simp only [Proc.step, initProcessGroup_state]
    rcases initProcessGroupSetup_cases env { x with fresh := p.heap } backend initMethod timeout
      worldSize rank store groupName p.st with
      ⟨e, -, ho⟩ | ⟨a, -, hw, ⟨e, ho⟩ | ⟨r, size, b, st, -, -, ho⟩⟩ <;> rw [ho]
    · exact hn
    · exact hn.named groupName
    · exact Numbered.initialized hi hw groupName r size (b, st) b a.initMethod
  | newGroup ranks timeout backend =>
    simp only [Proc.step, newGroup_state]
    rcases newGroupSetup_cases env { x with fresh := p.heap } ranks timeout backend p.st with
      ⟨e, -, ho⟩ | ⟨a, ha, ⟨e, ho⟩ | ⟨-, ho⟩ | ⟨r, size, b, st, -, -, hbuilt, ho⟩⟩ <;> rw [ho]
    · exact hn
    · exact hn.named ""
    · exact (hn.named "").sentinel (hi.named "") a.ranks
    · obtain ⟨w, gr, n, -, hw, hgr, -⟩ := groupArgs_ok ha
      refine hn.subgroup hi hw hgr r size b st _ a.ranks fun hrange hm => ?_
      obtain ⟨-, hr, rfl⟩ : storeBuilt a.rank a.worldSize a.store r size st := by
        simpa [hm] using hbuilt
      obtain ⟨w', gr', hw', hgr', hmap, hlen⟩ := groupArgs_numbering ha hc hrange hr
      obtain rfl : w' = w := Option.some.inj (hw'.symm.trans hw)
      obtain rfl : gr' = gr := Except.ok.inj (hgr'.symm.trans hgr)
      exact ⟨hmap, hlen⟩
  | destroyProcessGroup target =>
    simp only [Proc.step]
    split
    · exact hn
    · rename_i group _
      rcases destroyProcessGroup_cases group p.st with
        ⟨-, ho⟩ | ⟨-, ho⟩ | ⟨pg, -, -, ho⟩ | ⟨pg, -, -, -, ho⟩ |
        ⟨pg, -, -, hk, ⟨-, -, ho⟩ | hn' | hr⟩
      · rw [ho]; exact hn
      · rw [ho]; exact hn
      · rw [ho]; exact hn
      · rw [ho]; exact Numbered.cleared p.st
      · rw [ho]; exact hn.erased pg
      -- The registries agree on their keys, so the deletions go through.
      · exact absurd ((hi.names_keys pg).2 hk) hn'
      · exact absurd (hi.ranks_keys pg hk) hr

theorem run {p : Proc} (hp : Reachable p) {env : Env} (hn : Numbered env.backendClass p.st)
    (cmds : List (Cmd × Ext)) (hc : ∀ c ∈ cmds, c.1.distinctRanks = true) :
    Numbered env.backendClass (p.run env cmds).st := by
  induction cmds generalizing p with
  | nil => exact hn
  | cons c rest ih =>
    obtain ⟨c, x⟩ := c
    exact ih (hp.step env x c) (hn.step hp.inv x (hc _ (.head _)))
      fun d hd => hc d (.tail _ hd)

end Numbered

/-- Over every run of lifecycle calls in which no `new_group` is given a list that
    repeats a rank: for the world, and for every registered group other than an MPI
    subgroup, `get_rank(g)` and `get_world_size(g)` are the rank and size its object was
    built with, `g.rank()` and `g.size()`, whenever the world's own rank lies in
    `[0, size)`. -/
theorem registry_numbering_matches_objects (env : Env) (cmds : List (Cmd × Ext))
    (hc : ∀ c ∈ cmds, c.1.distinctRanks = true)
    (hrange : worldRankInRange (Proc.initial.run env cmds).st = true)
    (g : Handle) (record : Attr × Option Store)
    (hg : (Proc.initial.run env cmds).st.pgMap.get? g = some record)
    (hb : record.1 ≠ env.backendClass.attr .mpi ∨
      (Proc.initial.run env cmds).st.world = some g) :
    getRank (Proc.initial.run env cmds).st (some g) = g.rank ∧
      getWorldSize (Proc.initial.run env cmds).st (some g) = g.size :=
  Numbered.run .initial Numbered.initial cmds hc hrange g record hg hb

/-- Rank 0 of a Gloo world of two builds the subgroup `[0, 1]`: `get_rank` and
    `get_world_size` report rank 0 of 2, as the object was built. -/
theorem subgroup_pair_numbering :
    getRank subgroupPair.st (some (.pg 1 0 2)) = .ok 0 ∧
      getWorldSize subgroupPair.st (some (.pg 1 0 2)) = .ok 2 :=
  registry_numbering_matches_objects glooWorld
    [(.initProcessGroup Backend.gloo none (.timedelta 1800) 2 0 (some ⟨0⟩) "", ⟨0, false, none⟩),
      (.newGroup (some [0, 1]) (.timedelta 1800) none, ⟨0, false, none⟩)]
    (by decide) (by decide) (.pg 1 0 2) (.str Backend.gloo, some ⟨0⟩) (by decide)
    (.inl (by decide))

end DistributedC10d
