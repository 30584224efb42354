import DistributedC10d.Theory.View

/-!
# Two Ranks of One World

Creating a group is itself a collective: every rank of the world makes the same
`init_process_group`, `new_group` and `destroy_process_group` calls, in the same order,
and the ranks find each other's groups by what the calls compute alike. The name of an
unnamed group is `str(_group_count)`, and the store-based barrier's key is
`store_based_barrier_key:` followed by `_group_count`; a rank whose counter had drifted
would wait on keys no other rank adds to.

What differs from rank to rank is the rank itself, and with it membership: a rank
outside a new group gets the `NON_GROUP_MEMBER` sentinel back from the middle of the
helper, and records neither a name nor a record for the group. Each rank may also list
`new_group`'s ranks in its own order, and can destroy a group only through its own
handle. The counter does not see any of this: the helper advances it before the
membership test, on every path that reaches it, and `new_group` reaches it exactly when
its checks pass, which read only what the ranks share. Names then agree because a name
in `_pg_names` is the world's or a default name handed out earlier, so the next default
name is taken on one rank exactly when it is taken on the other; and rank maps agree
because `new_group` builds them from the sorted list.

`TwinRun` pairs two processes that made the same calls, `Cmd.Twin` by `Cmd.Twin`, with
the same constructor outcomes. What they agree on is `Proc.view`, and the rank maps of
the groups both belong to; `Twin.step` shows one pair of calls keeps both.

The same constructor outcome is needed. A constructor that raises in
`init_process_group` on one rank only leaves that rank without a world, having counted
the creation; its next `new_group()` raises in `_get_default_group()` before the helper,
while the other rank's builds the group and counts it. From there the two counters
differ by one.

## Main definitions

* `Env.SameWorld`: Two ranks' environments.
* `Cmd.Twin`: The same call on two ranks.
* `TwinRun`: Two processes that made the same calls.
* `Twin`: What the two must agree on.
* `duplicateCheck`: The outcome of the helper's duplicate-name check in a call.

## Theorems

* `initArgs_twin`, `helper_init_twin`, `groupArgs_twin`: The calls' checks agree.
* `Twin.step`: A pair of calls keeps the agreement.
* `twin_runs_agree`: Every pair of runs agrees on the counter, the names and store keys,
  the duplicate-name check and the rank maps.
* `one_sided_ctor_failure_splits_count`: Without the same constructor outcome, the
  counters part.
-/

namespace DistributedC10d

/-! ### Two ranks, one world -/

/-- Two ranks of one world: the same build, the same `Backend` class and the same
    `MPI_COMM_WORLD` size; each has its own rank, and the rendezvous may hand each its
    own rank and store, but the same world size. -/
structure Env.SameWorld (e f : Env) : Prop where
  mpiAvailable : e.mpiAvailable = f.mpiAvailable
  ncclAvailable : e.ncclAvailable = f.ncclAvailable
  glooAvailable : e.glooAvailable = f.glooAvailable
  hcclAvailable : e.hcclAvailable = f.hcclAvailable
  backendClass : e.backendClass = f.backendClass
  mpiSize : e.mpiSize = f.mpiSize
  rendezvous : ∀ initMethod rank rank' worldSize,
    (e.rendezvous initMethod rank worldSize).2.2 = (f.rendezvous initMethod rank' worldSize).2.2

/-- The same call on two ranks: `init_process_group` with each rank's own `rank`, both
    non-negative or both not; `new_group` with the ranks listed in any order; and
    `destroy_process_group` of each rank's own handle. -/
inductive Cmd.Twin : Cmd → Cmd → Prop
  | initProcessGroup (backend : String) (initMethod : Option String) (timeout : Timeout)
      (worldSize rank rank' : Int) (store : Option Store) (groupName : String)
      (h : 0 ≤ rank ↔ 0 ≤ rank') :
      Twin (.initProcessGroup backend initMethod timeout worldSize rank store groupName)
        (.initProcessGroup backend initMethod timeout worldSize rank' store groupName)
  | newGroup (ranks ranks' : Option (List Int)) (timeout : Timeout) (backend : Option String)
      (h : Option.Rel List.Perm ranks ranks') :
      Twin (.newGroup ranks timeout backend) (.newGroup ranks' timeout backend)
  | destroyProcessGroup (target : Target) (h : target.Own) :
      Twin (.destroyProcessGroup target) (.destroyProcessGroup target)

/-- Two processes that have made the same calls since import, paired by `Cmd.Twin`, each
    pair in environments of one world and with the same answer to whether a backend's
    constructor raises. The store-based barrier may time out on one and not the other. -/
inductive TwinRun : Proc → Proc → Prop
  | initial : TwinRun Proc.initial Proc.initial
  | step {p q : Proc} (e f : Env) (x y : Ext) (c d : Cmd) (he : e.SameWorld f)
      (hx : x.ctorRaises = y.ctorRaises) (hc : c.Twin d) :
      TwinRun p q → TwinRun (p.step e x c).1 (q.step f y d).1

/-- The outcome of `_new_process_group_helper`'s check `if group_name in
    _pg_names.values()` in a call from `s`: none when the call raises before it reaches the
    helper, otherwise whether the name the helper gives the group is taken. -/
def duplicateCheck (env : Env) (s : State) : Cmd → Option Bool
  | .initProcessGroup backend initMethod timeout worldSize rank store groupName =>
    (initArgs env s backend initMethod timeout worldSize rank store).toOption.map fun _ =>
      decide (nameOf s groupName ∈ s.pgNames.values)
  | .newGroup ranks _ backend =>
    (groupArgs env s ranks backend).toOption.map fun _ =>
      decide (nameOf s "" ∈ s.pgNames.values)
  | .destroyProcessGroup _ => none

theorem newProcessGroupHelper_duplicate {env : Env} {ext : Ext} {worldSize : Int}
    {rank : Option Int} {groupRanks : List Int} {backend : Attr} {store : Option Store}
    {groupName : String} {timeout : Timeout} {s : State}
    (h : nameOf s groupName ∈ s.pgNames.values) :
    newProcessGroupHelper env ext worldSize rank groupRanks backend store groupName timeout s =
      ⟨named s groupName, .error duplicateGroupName⟩ := by
  simp [newProcessGroupHelper, nameGroup_apply, h]

/-- When `duplicateCheck` finds the name taken, the call raises `DuplicateGroupName`. -/
theorem duplicateCheck_raises {env : Env} {p : Proc} {c : Cmd}
    (h : duplicateCheck env p.st c = some true) (x : Ext) :
    (p.step env x c).2 = .error duplicateGroupName := by
  cases c with
  | initProcessGroup backend initMethod timeout worldSize rank store groupName =>
    simp only [duplicateCheck, Option.map_eq_some', decide_eq_true_eq] at h
    obtain ⟨a, ha, hd⟩ := h
    cases hi : initArgs env p.st backend initMethod timeout worldSize rank store with
    | error e => simp [hi, Except.toOption] at ha
    | ok a =>
      simp [Proc.step, initProcessGroup_apply, initProcessGroupSetup, hi,
        newProcessGroupHelper_duplicate hd]
  | newGroup ranks timeout backend =>
    simp only [duplicateCheck, Option.map_eq_some', decide_eq_true_eq] at h
    obtain ⟨a, ha, hd⟩ := h
    cases hg : groupArgs env p.st ranks backend with
    | error e => simp [hg, Except.toOption] at ha
    | ok a =>
      simp [Proc.step, newGroup_apply, newGroupSetup, hg, newProcessGroupHelper_duplicate hd,
        Except.map]
  | destroyProcessGroup target => cases h

/-! ### The checks before the helper -/

section Checks

variable {e f : Env} {s t : State}

/-- `init_process_group`'s checks pass on both ranks or on neither, and settle the same
    backend, world size and init method, with a store on both or on neither. -/
theorem initArgs_twin (he : e.SameWorld f) (hw : s.world.isSome = t.world.isSome)
    (backend : String) (initMethod : Option String) (timeout : Timeout) (worldSize : Int)
    {rank rank' : Int} (hr : 0 ≤ rank ↔ 0 ≤ rank') (store : Option Store) :
    (∃ er er', initArgs e s backend initMethod timeout worldSize rank store = .error er ∧
      initArgs f t backend initMethod timeout worldSize rank' store = .error er') ∨
    ∃ a a', initArgs e s backend initMethod timeout worldSize rank store = .ok a ∧
      initArgs f t backend initMethod timeout worldSize rank' store = .ok a' ∧
      a.backend = a'.backend ∧ a.worldSize = a'.worldSize ∧ a.initMethod = a'.initMethod ∧
      a.store.isSome = a'.store.isSome := by
  have hc : (store.isSome ∧ ¬rank' ≥ 0) ↔ (store.isSome ∧ ¬rank ≥ 0) :=
    and_congr_right fun _ => not_congr hr.symm
  unfold initArgs
  simp only [← hw, ← he.backendClass, hc]
  -- The five checks read the same on both ranks.
  by_cases h1 : timeout.isTimedelta = false
  · rw [if_pos h1, if_pos h1]; exact .inl ⟨_, _, rfl, rfl⟩
  rw [if_neg h1, if_neg h1]
  by_cases h2 : s.world.isSome = true
  · rw [if_pos h2, if_pos h2]; exact .inl ⟨_, _, rfl, rfl⟩
  rw [if_neg h2, if_neg h2]
  by_cases h3 : store.isSome = true ∧ initMethod.isSome = true
  · rw [if_pos h3, if_pos h3]; exact .inl ⟨_, _, rfl, rfl⟩
  rw [if_neg h3, if_neg h3]
  by_cases h4 : store.isSome = true ∧ ¬worldSize > 0
  · rw [if_pos h4, if_pos h4]; exact .inl ⟨_, _, rfl, rfl⟩
  rw [if_neg h4, if_neg h4]
  by_cases h5 : store.isSome = true ∧ ¬rank ≥ 0
  · rw [if_pos h5, if_pos h5]; exact .inl ⟨_, _, rfl, rfl⟩
  rw [if_neg h5, if_neg h5]
  cases hb : Backend.new e.backendClass (.str backend) with
  | error er => exact .inl ⟨er, er, rfl, rfl⟩
  | ok b =>
    simp only [bind, Except.bind]
    by_cases hm : b = e.backendClass.attr .mpi
    · simp only [hm, if_true]
      exact .inr ⟨_, _, rfl, rfl, rfl, rfl, rfl, rfl⟩
    · simp only [hm, if_false]
      refine .inr ⟨_, _, rfl, rfl, rfl, ?_, rfl, rfl⟩
      cases store with
      | some st => rfl
      | none => exact he.rendezvous _ _ _ _

theorem construct_twin {x y : Ext} (hx : x.ctorRaises = y.ctorRaises) (r r' worldSize : Int) :
    construct y (some r') worldSize =
      (construct x (some r) worldSize).map fun _ => .pg y.fresh r' worldSize := by
  simp only [construct, hx]
  split <;> rfl

/-- A backend's constructor raises the same on both ranks, or builds on both. -/
theorem constructBackend_twin (he : e.SameWorld f) {x y : Ext} (hx : x.ctorRaises = y.ctorRaises)
    (b : Attr) (r r' worldSize : Int) :
    constructBackend f y b (some r') worldSize =
      (constructBackend e x b (some r) worldSize).map fun _ => .pg y.fresh r' worldSize := by
  unfold constructBackend
  rw [← he.glooAvailable, ← he.ncclAvailable, ← he.hcclAvailable, ← he.backendClass]
  by_cases hg : b = e.backendClass.attr .gloo
  · rw [if_pos hg, if_pos hg]
    cases e.glooAvailable
    · rfl
    · exact construct_twin hx r r' worldSize
  rw [if_neg hg, if_neg hg]
  by_cases hn : b = e.backendClass.attr .nccl
  · rw [if_pos hn, if_pos hn]
    cases e.ncclAvailable
    · rfl
    · exact construct_twin hx r r' worldSize
  rw [if_neg hn, if_neg hn]
  by_cases hh : b = e.backendClass.attr .hccl
  · rw [if_pos hh, if_pos hh]
    cases e.hcclAvailable
    · rfl
    · exact construct_twin hx r r' worldSize
  rw [if_neg hh, if_neg hh]
  cases b with
  | factory _ => rfl
  | str b =>
    dsimp only
    cases e.backendClass.getattr (upper b) with
    | none => rfl
    | some a =>
      cases a with
      | str v => rfl
      | factory i => exact construct_twin hx r r' worldSize

/-- The helper building the default group on two ranks, when neither has the name
    taken: it raises the same on both after naming the group, or both build the group,
    of one size and backend. -/
theorem helper_init_twin (he : e.SameWorld f) {x y : Ext} (hx : x.ctorRaises = y.ctorRaises)
    {g : String} (hs : nameOf s g ∉ s.pgNames.values) (ht : nameOf t g ∉ t.pgNames.values)
    {st st' : Option Store} (hst : st.isSome = st'.isSome) (worldSize r r' : Int)
    (backend : Attr) (timeout : Timeout) :
    (∃ er, newProcessGroupHelper e x worldSize (some r) [] backend st g timeout s =
        ⟨named s g, .error er⟩ ∧
      newProcessGroupHelper f y worldSize (some r') [] backend st' g timeout t =
        ⟨named t g, .error er⟩) ∨
    ∃ r1 r2 size b st1 st2,
      newProcessGroupHelper e x worldSize (some r) [] backend st g timeout s =
        ⟨registered (named s g) (.pg x.fresh r1 size) (b, st1) (nameOf s g),
          .ok (.pg x.fresh r1 size)⟩ ∧
      newProcessGroupHelper f y worldSize (some r') [] backend st' g timeout t =
        ⟨registered (named t g) (.pg y.fresh r2 size) (b, st2) (nameOf t g),
          .ok (.pg y.fresh r2 size)⟩ := by
  simp only [newProcessGroupHelper, mpiGroup, storeGroup, Py.bind_apply, nameGroup_apply,
    Py.get_apply, Py.raiseIf_apply, named_pgNames, Py.lift_apply, hs, ht, if_false,
    ← he.backendClass]
  by_cases h1 : timeout.isTimedelta = false
  · simp only [h1, if_true]
    exact .inl ⟨_, rfl, rfl⟩
  simp only [h1, if_false]
  cases hb : Backend.new e.backendClass backend with
  | error er => exact .inl ⟨er, rfl, rfl⟩
  | ok b =>
    by_cases hm : b = e.backendClass.attr .mpi
    · -- `ProcessGroupMPI.create([])`: the whole world, on both ranks.
      simp only [hm, if_true, Py.bind_apply, Py.raiseIf_apply, ← he.mpiAvailable]
      by_cases ha : e.mpiAvailable = false
      · simp only [ha, if_true]
        exact .inl ⟨_, rfl, rfl⟩
      simp only [ha, if_false, Py.lift_apply, processGroupMPICreate, ← hx, if_true]
      cases x.ctorRaises
      · simp only [Bool.false_eq_true, if_false]
        exact .inr ⟨_, _, _, _, _, _, rfl, by rw [← he.mpiSize]; rfl⟩
      · exact .inl ⟨_, rfl, rfl⟩
    · -- The default group has every rank in it.
      simp only [hm, if_false, Py.bind_apply, Py.get_apply, Py.lift_apply, isMember,
        List.length_nil, if_true, Bool.not_true, Bool.false_eq_true, Py.raiseIf_apply]
      by_cases hn : st = none
      · have hn' : st' = none := by cases st' <;> simp_all
        simp only [hn, hn', if_true]
        exact .inl ⟨_, rfl, rfl⟩
      have hn' : st' ≠ none := by cases st' <;> simp_all
      simp only [hn, hn', if_false, constructBackend_twin he hx b r r' worldSize]
      cases hc : constructBackend e x b (some r) worldSize with
      | error er => exact .inl ⟨er, rfl, rfl⟩
      | ok pg =>
        obtain ⟨_, ⟨⟩, rfl⟩ := constructBackend_ok hc
        exact .inr ⟨_, _, _, _, _, _, rfl, rfl⟩

/-- What `new_group` keeps of its checks of the ranks does not depend on the caller's
    rank. -/
theorem checkRanks_fst_rank (ranks : Option (List Int)) (gr gr' n : Int) :
    (checkRanks ranks gr n).map Prod.fst = (checkRanks ranks gr' n).map Prod.fst := by
  cases ranks with
  | none => rfl
  | some l =>
    simp only [checkRanks]
    split_ifs <;> rfl

/-- Nor on the order the ranks are listed in. -/
theorem checkRanks_fst_perm {ranks ranks' : Option (List Int)}
    (h : Option.Rel List.Perm ranks ranks') (gr n : Int) :
    (checkRanks ranks gr n).map Prod.fst = (checkRanks ranks' gr n).map Prod.fst := by
  cases h with
  | none => rfl
  | some hp =>
    rename_i l l'
    have hs : sortRanks l = sortRanks l' :=
      List.eq_of_perm_of_sorted (((sortRanks_perm l).trans hp).trans (sortRanks_perm l').symm)
        (List.sorted_insertionSort _ _) (List.sorted_insertionSort _ _)
    simp only [checkRanks, hs]

/-- With the invariant, whether `new_group`'s checks pass, and the list they settle, depend
    only on `get_backend()`, `get_world_size()` and the arguments. -/
theorem Inv.groupArgs_ranks {n : Nat} (hi : Inv s n) (env : Env) (ranks : Option (List Int))
    (backend : Option String) :
    (groupArgs env s ranks backend).map GroupArgs.ranks =
      getBackend s none >>= fun db => getWorldSize s none >>= fun ws =>
        (checkRanks ranks 0 ws).map Prod.fst >>= fun l =>
          (Backend.new env.backendClass (backendOrDefault backend db)).map fun _ => l := by
  cases hw : s.world with
  | none => simp [groupArgs, getBackend, getDefaultGroup, hw, bind, Except.bind, Except.map]
  | some w =>
    obtain ⟨hk, k, hsize, -⟩ := hi.world w hw
    obtain ⟨record, hrec⟩ := PyDict.mem_keys_iff.1 hk
    cases w with
    | nonGroupMember => cases hsize
    | pg i r k' =>
      cases hsize
      simp only [groupArgs, getBackend, getWorldSize, getGroupSize, getDefaultGroup, hw,
        PyDict.getItem_of_get? hrec, hrec, rankNotInGroup_pg, rankNotInGroup_none,
        Handle.rank_pg, Handle.size_pg, bind, Except.bind, or_true, if_true, Bool.false_eq_true,
        if_false, pure, Except.pure]
      rw [checkRanks_fst_rank ranks 0 r]
      cases checkRanks ranks r k with
      | error er => rfl
      | ok v => cases Backend.new env.backendClass (backendOrDefault backend record.1) <;> rfl

/-- `new_group`'s checks pass on both ranks or on neither, and settle the same list. -/
theorem groupArgs_twin (he : e.SameWorld f) {n m : Nat} (hs : Inv s n) (ht : Inv t m)
    (hb : getBackend s none = getBackend t none) (hw : getWorldSize s none = getWorldSize t none)
    {ranks ranks' : Option (List Int)} (hr : Option.Rel List.Perm ranks ranks')
    (backend : Option String) :
    (groupArgs e s ranks backend).map GroupArgs.ranks =
      (groupArgs f t ranks' backend).map GroupArgs.ranks := by
  rw [hs.groupArgs_ranks, ht.groupArgs_ranks, hb, hw, ← he.backendClass]
  simp only [checkRanks_fst_perm hr]

end Checks

/-! ### What the ranks agree on -/

/-- Two ranks hold the same rank map for every group both are in: the handles of one
    creation carry its identity. -/
def RankMapsAgree (s t : State) : Prop :=
  ∀ i r n r' n' m m', s.pgGroupRanks.get? (.pg i r n) = some m →
    t.pgGroupRanks.get? (.pg i r' n') = some m' → m = m'

/-- What two processes of one world agree on. -/
structure Twin (p q : Proc) : Prop where
  view : p.view = q.view
  rankMaps : RankMapsAgree p.st q.st

/-! ### Each call on two ranks -/

section TwoRanks

variable {e f : Env} {s t : State}

/-- `init_process_group` up to its barrier, on two ranks: its checks raise on both; or the
    helper raises on both, having named the group; or both build the world, of one size
    and backend. -/
theorem initProcessGroupSetup_twin (he : e.SameWorld f) {x y : Ext}
    (hx : x.ctorRaises = y.ctorRaises) {n m : Nat} (hs : Inv s n) (ht : Inv t m)
    (hw : s.world.isSome = t.world.isSome) (backend : String) (initMethod : Option String)
    (timeout : Timeout) (worldSize : Int) {rank rank' : Int} (hr : 0 ≤ rank ↔ 0 ≤ rank')
    (store : Option Store) (groupName : String) :
    ((initProcessGroupSetup e x backend initMethod timeout worldSize rank store groupName s).state
        = s ∧
      (initProcessGroupSetup f y backend initMethod timeout worldSize rank' store groupName
        t).state = t) ∨
    (s.world = none ∧
      (initProcessGroupSetup e x backend initMethod timeout worldSize rank store groupName s).state
        = named s groupName ∧
      (initProcessGroupSetup f y backend initMethod timeout worldSize rank' store groupName
        t).state = named t groupName) ∨
    (s.world = none ∧ t.world = none ∧ ∃ r r' size b st st' im,
      (initProcessGroupSetup e x backend initMethod timeout worldSize rank store groupName s).state
        = initialized (registered (named s groupName) (.pg x.fresh r size) (b, st)
          (nameOf s groupName)) (.pg x.fresh r size) size b im ∧
      (initProcessGroupSetup f y backend initMethod timeout worldSize rank' store groupName
        t).state = initialized (registered (named t groupName) (.pg y.fresh r' size) (b, st')
          (nameOf t groupName)) (.pg y.fresh r' size) size b im) := by
  rcases initArgs_twin he hw backend initMethod timeout worldSize hr store with
    ⟨er, er', ha, ha'⟩ | ⟨a, a', ha, ha', hb, hws, him, hst⟩
  · exact .inl (by simp [initProcessGroupSetup, ha, ha'])
  have hsw := initArgs_world ha
  have htw := initArgs_world ha'
  have hsn : nameOf s groupName ∉ s.pgNames.values := by simp [hs.names_nil hsw]
  have htn : nameOf t groupName ∉ t.pgNames.values := by simp [ht.names_nil htw]
  right
  rcases helper_init_twin he hx hsn htn hst a.worldSize a.rank a'.rank a.backend timeout with
    ⟨er, hh, hh'⟩ | ⟨r1, r2, size, b, st1, st2, hh, hh'⟩ <;> rw [hws, hb] at hh'
  · refine .inl ⟨hsw, ?_, ?_⟩
    · simp [initProcessGroupSetup, ha, hh]
    · simp [initProcessGroupSetup, ha', hh']
  · refine .inr ⟨hsw, htw, r1, r2, size, b, st1, st2, a.initMethod, ?_, ?_⟩
    · simp [initProcessGroupSetup, ha, hh, Handle.size, PyDict.getItem_of_get?, registered,
        updateDefaultPg, initialized]
    · simp [initProcessGroupSetup, ha', hh', Handle.size, PyDict.getItem_of_get?, registered,
        updateDefaultPg, initialized, him]

end TwoRanks

/-! ### Runs -/

theorem Twin.initial : Twin Proc.initial Proc.initial :=
  ⟨rfl, fun _ _ _ _ _ _ _ hm => by simp [Proc.initial, State.initial] at hm⟩

/-- One pair of calls keeps what two ranks agree on. -/
theorem Twin.step {p q : Proc} (h : Twin p q) (hp : Reachable p) (hq : Reachable q) {e f : Env}
    (he : e.SameWorld f) {x y : Ext} (hx : x.ctorRaises = y.ctorRaises) {c d : Cmd}
    (hc : c.Twin d) : Twin (p.step e x c).1 (q.step f y d).1 := by
  have hpi := hp.inv
  have hqi := hq.inv
  have hheap : p.heap = q.heap := congrArg View.heap h.view
  have hcount : p.st.groupCount = q.st.groupCount := congrArg View.groupCount h.view
  cases hc with
  | initProcessGroup backend initMethod timeout worldSize rank rank' store groupName hr =>
    simp only [Proc.step, initProcessGroup_state]
    rcases initProcessGroupSetup_twin he (x := { x with fresh := p.heap })
      (y := { y with fresh := q.heap }) hx hpi hqi (congrArg View.initialized h.view) backend
      initMethod timeout worldSize hr store groupName with
      ⟨hs, ht⟩ | ⟨hsw, hs, ht⟩ | ⟨hsw, htw, r, r', size, b, st, st', im, hs, ht⟩ <;>
      rw [hs, ht]
    · exact ⟨by rw [p.view_unchanged, q.view_unchanged, h.view], h.rankMaps⟩
    · have htw : q.st.world = none := by
        simpa [Proc.view, isInitialized, hsw] using (congrArg View.initialized h.view).symm
      refine ⟨?_, by simpa only [RankMapsAgree, named_pgGroupRanks] using h.rankMaps⟩
      rw [p.view_named hsw, q.view_named htw, named_groupCount, named_groupCount, h.view, hcount]
    · simp only [initialized_world]
      refine ⟨?_, fun i r1 k1 r2 k2 m m' hm hm' => ?_⟩
      · rw [p.view_initialized hp.createdBuilt hsw, q.view_initialized hq.createdBuilt htw,
          named_groupCount, named_groupCount]
        simp only [nameOf, hheap, hcount, congrArg View.createdWorld h.view]
      · -- Both rank maps are the identity over the world's size.
        have hpe := PyDict.get?_of_keys_nil (hpi.empty hsw).2
        have hqe := PyDict.get?_of_keys_nil (hqi.empty htw).2
        simp only [initialized_pgGroupRanks, registered_pgGroupRanks, named_pgGroupRanks,
          PyDict.get?_set, hpe, hqe] at hm hm'
        split at hm <;> split at hm' <;> simp_all
  | newGroup ranks ranks' timeout backend hr =>
    obtain ⟨hpv, hpr⟩ := Proc.step_newGroup hpi e x ranks timeout backend
    obtain ⟨hqv, hqr⟩ := Proc.step_newGroup hqi f y ranks' timeout backend
    have hg := groupArgs_twin he hpi hqi (congrArg View.backend h.view)
      (congrArg View.worldSize h.view) hr backend
    have hok : (groupArgs e p.st ranks backend).isOk = (groupArgs f q.st ranks' backend).isOk := by
      revert hg
      cases groupArgs e p.st ranks backend <;> cases groupArgs f q.st ranks' backend <;>
        simp [Except.map, Except.isOk, Except.toBool]
    refine ⟨by rw [hpv, hqv, hok, h.view], fun i r k r' k' m m' hm hm' => ?_⟩
    rcases hpr i r k m hm with hm | ⟨hi, a, ha, rfl⟩ <;>
      rcases hqr i r' k' m' hm' with hm' | ⟨hi', a', ha', rfl⟩
    · exact h.rankMaps i r k r' k' m m' hm hm'
    · exact absurd (hpi.lt_of_get? hm) (by omega)
    · exact absurd (hqi.lt_of_get? hm') (by omega)
    · rw [ha, ha'] at hg
      exact congrArg rankMap (Except.ok.inj hg)
  | destroyProcessGroup target ht =>
    obtain ⟨hpv, hpr⟩ := Proc.step_destroy hpi ht e x
    obtain ⟨hqv, hqr⟩ := Proc.step_destroy hqi ht f y
    exact ⟨by rw [hpv, hqv, h.view], fun i r k r' k' m m' hm hm' =>
      h.rankMaps i r k r' k' m m' (hpr _ _ hm) (hqr _ _ hm')⟩

theorem TwinRun.reachable {p q : Proc} (h : TwinRun p q) : Reachable p ∧ Reachable q := by
  induction h with
  | initial => exact ⟨.initial, .initial⟩
  | step e f x y c d _ _ _ _ ih => exact ⟨ih.1.step e x c, ih.2.step f y d⟩

theorem TwinRun.twin {p q : Proc} (h : TwinRun p q) : Twin p q := by
  induction h with
  | initial => exact Twin.initial
  | step e f x y c d he hx hc hr ih =>
    exact ih.step hr.reachable.1 hr.reachable.2 he hx hc

/-- The duplicate-name check of the next pair of calls has the same outcome on both
    ranks. -/
theorem Twin.duplicateCheck_eq {p q : Proc} (h : Twin p q) (hp : Inv p.st p.heap)
    (hq : Inv q.st q.heap) {e f : Env} (he : e.SameWorld f) {c d : Cmd} (hc : c.Twin d) :
    duplicateCheck e p.st c = duplicateCheck f q.st d := by
  cases hc with
  | initProcessGroup backend initMethod timeout worldSize rank rank' store groupName hr =>
    rcases initArgs_twin he (congrArg View.initialized h.view) backend initMethod timeout
      worldSize hr store with ⟨er, er', ha, ha'⟩ | ⟨a, a', ha, ha', -⟩
    · simp [duplicateCheck, ha, ha', Except.toOption]
    · simp [duplicateCheck, ha, ha', Except.toOption, hp.names_nil (initArgs_world ha),
        hq.names_nil (initArgs_world ha')]
  | newGroup ranks ranks' timeout backend hr =>
    have hg := groupArgs_twin he hp hq (congrArg View.backend h.view)
      (congrArg View.worldSize h.view) hr backend
    have hw : p.st.world.bind p.st.pgNames.get? = q.st.world.bind q.st.pgNames.get? :=
      congrArg View.worldName h.view
    have hcount : p.st.groupCount = q.st.groupCount := congrArg View.groupCount h.view
    have hname : toString p.st.groupCount ∈ p.st.pgNames.values ↔
        toString q.st.groupCount ∈ q.st.pgNames.values := by
      rw [hp.defaultName_mem, hq.defaultName_mem, hw, hcount]
    simp only [duplicateCheck, nameOf_empty]
    revert hg
    cases groupArgs e p.st ranks backend <;> cases groupArgs f q.st ranks' backend <;>
      simp [Except.toOption, Except.map, hname]
  | destroyProcessGroup target ht => rfl

/-- Two ranks of one world that make the same lifecycle calls, each passing its own `rank`,
    listing `new_group`'s ranks in its own order and destroying through its own handles,
    hold the same `_group_count` after every call, whichever groups each is in. So each
    creation gets the same name and the same store-barrier key on both, the next call's
    duplicate-name check has the same outcome on both, and a group both are in has the
    same rank map on both. -/
theorem twin_runs_agree {p q : Proc} (h : TwinRun p q) :
    p.st.groupCount = q.st.groupCount ∧
    (∀ g, nameOf p.st g = nameOf q.st g) ∧
    storeKey p.st.groupCount = storeKey q.st.groupCount ∧
    (∀ e f c d, Env.SameWorld e f → Cmd.Twin c d →
      duplicateCheck e p.st c = duplicateCheck f q.st d) ∧
    RankMapsAgree p.st q.st := by
  obtain ⟨hp, hq⟩ := h.reachable
  have ht := h.twin
  have hcount : p.st.groupCount = q.st.groupCount := congrArg View.groupCount ht.view
  exact ⟨hcount, fun g => by simp only [nameOf, hcount], by rw [hcount],
    fun e f c d he hc => ht.duplicateCheck_eq hp.inv hq.inv he hc, ht.rankMaps⟩

/-- Ranks 0 and 1 of a Gloo world of three initialize; then rank 0 calls
    `new_group([2, 0])` and rank 1 `new_group([0, 2])`, a group it is not in. -/
def twinRankZero : Proc := Proc.initial.run glooWorld
  [(.initProcessGroup Backend.gloo none (.timedelta 1800) 3 0 (some ⟨0⟩) "", ⟨0, false, none⟩),
   (.newGroup (some [2, 0]) (.timedelta 1800) none, ⟨0, false, none⟩)]

/-- Rank 1's side of the same run. -/
def twinRankOne : Proc := Proc.initial.run glooWorld
  [(.initProcessGroup Backend.gloo none (.timedelta 1800) 3 1 (some ⟨0⟩) "", ⟨0, false, none⟩),
   (.newGroup (some [0, 2]) (.timedelta 1800) none, ⟨0, false, none⟩)]

theorem member_and_outsider_agree :
    twinRankZero.st.groupCount = twinRankOne.st.groupCount ∧
    (∀ g, nameOf twinRankZero.st g = nameOf twinRankOne.st g) ∧
    storeKey twinRankZero.st.groupCount = storeKey twinRankOne.st.groupCount ∧
    (∀ e f c d, Env.SameWorld e f → Cmd.Twin c d →
      duplicateCheck e twinRankZero.st c = duplicateCheck f twinRankOne.st d) ∧
    RankMapsAgree twinRankZero.st twinRankOne.st :=
  twin_runs_agree (TwinRun.step glooWorld glooWorld ⟨0, false, none⟩ ⟨0, false, none⟩ _ _
    ⟨rfl, rfl, rfl, rfl, rfl, rfl, fun _ _ _ _ => rfl⟩ rfl
    (.newGroup _ _ _ _ (.some (List.Perm.swap 0 2 [])))
    (TwinRun.step glooWorld glooWorld ⟨0, false, none⟩ ⟨0, false, none⟩ _ _
      ⟨rfl, rfl, rfl, rfl, rfl, rfl, fun _ _ _ _ => rfl⟩ rfl
      (.initProcessGroup _ _ _ _ _ _ _ _ (by decide)) TwinRun.initial))

/-- Rank 0 of an NCCL world of two: the constructor raises in `init_process_group`, and
    then `new_group()`. -/
def ctorRaisedRankZero : Proc := Proc.initial.run ncclWorld
  [(.initProcessGroup Backend.nccl none (.timedelta 1800) 2 0 (some ⟨0⟩) "", ⟨0, true, none⟩),
   (.newGroup none (.timedelta 1800) none, ⟨0, false, none⟩)]

/-- Rank 1 of the same world: the constructor builds, the barrier times out having seen
    rank 1 alone, and then `new_group()`. -/
def ctorBuiltRankOne : Proc := Proc.initial.run ncclWorld
  [(.initProcessGroup Backend.nccl none (.timedelta 1800) 2 1 (some ⟨0⟩) "", ⟨0, false, some 1⟩),
   (.newGroup none (.timedelta 1800) none, ⟨0, false, none⟩)]

/-- The two ranks make the same calls, in environments of one world, but the constructor
    raises on rank 0 only. Rank 0 has no world and its `new_group()` raises with
    `_group_count` at 1; rank 1's builds the group, and its `_group_count` is 2. -/
theorem one_sided_ctor_failure_splits_count :
    ncclWorld.SameWorld ncclWorld ∧
    Cmd.Twin (.initProcessGroup Backend.nccl none (.timedelta 1800) 2 0 (some ⟨0⟩) "")
      (.initProcessGroup Backend.nccl none (.timedelta 1800) 2 1 (some ⟨0⟩) "") ∧
    Cmd.Twin (.newGroup none (.timedelta 1800) none) (.newGroup none (.timedelta 1800) none) ∧
    ctorRaisedRankZero.st.world = none ∧ ctorRaisedRankZero.st.groupCount = 1 ∧
    ctorBuiltRankOne.st.world = some (.pg 0 1 2) ∧ ctorBuiltRankOne.st.groupCount = 2 :=
  ⟨⟨rfl, rfl, rfl, rfl, rfl, rfl, fun _ _ _ _ => rfl⟩,
    .initProcessGroup _ _ _ _ _ _ _ _ (by decide), .newGroup _ _ _ _ .none,
    by decide, by decide, by decide, by decide⟩

end DistributedC10d
