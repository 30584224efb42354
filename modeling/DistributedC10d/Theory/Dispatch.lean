import DistributedC10d.Core.Dispatch
import DistributedC10d.Theory.Registry

/-!
# What the Dispatcher Checks

Every call but `all_gather_coalesced`, `all_to_all`, `all_to_all_single` and `barrier`
checks its tensor arguments first, and then returns at once for a process outside the
group. So the sentinel `NON_GROUP_MEMBER` gets the neutral result, with nothing issued,
whenever the arguments are well formed, and otherwise the error any caller would get.
`batch_isend_irecv` is the exception: it asks `get_backend` for the backend of every op's
group before running any, and `get_backend` raises for the sentinel. So a batch with an
op on the sentinel raises, and the `if ret is not None` that drops the ops a process is
outside of never drops anything.

The dispatcher reads the registry only to translate a rank, and `barrier` to read the
backend. A handle no longer registered (a subgroup destroyed, or any group after the
world was destroyed) is therefore rejected, with nothing issued, by the calls that
translate a peer or a root; `recv` from any source issues the receive on it and raises
only when it translates the sender back; and the other collectives are issued on the
stale object exactly as on a live one. The registry only ever takes in the object a call
has just built, so a handle once unregistered stays so for the rest of the run, whatever
the calls, and is rejected the same way after the world is destroyed and built again.

## Main definitions

* `Lookup`, `Op.lookup`: When a call consults the registry about its group.

## Theorems

* `runOp_nonmember`: Outside the group, the neutral result, or an argument error.
* `batchIsendIrecv_raises_of_getBackend`: A batch raises, issuing nothing, when any op's
  group has no backend to report.
* `batch_nonmember_op_raises`: A batch with one op on the sentinel raises.
* `unregistered_group_calls`: What each call does with a handle that is not registered.
* `stale_group_stays_rejected`: A handle no longer registered stays so, and rejected, for
  the rest of every run.
* `all_reduce_on_destroyed_group`: `all_reduce` on a destroyed subgroup is issued.
-/

namespace DistributedC10d

/-! ### Outside the group -/

/-- Outside the group, a call returns the neutral result with nothing issued; or its
    arguments are malformed, and it raises what it raises on any group, in any state,
    before issuing anything. -/
theorem runOp_nonmember (net : Net) (s s' : State) (group : Option Handle) (op : Op)
    (log : List Event) :
    runOp net s (some .nonGroupMember) op log = ⟨log, .ok op.neutral⟩ ∨
      ∃ e, runOp net s (some .nonGroupMember) op log = ⟨log, .error e⟩ ∧
        runOp net s' group op log = ⟨log, .error e⟩ := by
  cases op with
  | isend t _ _ | irecv t _ _ | send t _ _ | recv t _ _ | broadcast t _ _ | allReduce t _ _ =>
    rcases hc : checkSingleTensor t "tensor" with e | _ <;>
      simp [runOp, isend, irecv, send, recv, broadcast, allReduce, Op.neutral, Ret.ofWork,
        ↓Py.lift_bind_apply, hc]
  | allReduceCoalesced ts _ _ =>
    rcases hc : checkTensorList ts "tensor" with e | _ <;>
      simp [runOp, allReduceCoalesced, Op.neutral, Ret.ofWork, ↓Py.lift_bind_apply, hc]
  | reduce t _ _ asyncOp =>
    cases asyncOp
    · rcases hc : checkSingleTensor t "tensor" with e | _ <;>
        simp [runOp, reduce, Op.neutral, Ret.ofWork, ↓Py.lift_bind_apply, hc]
    · simp [runOp, reduce]
  | allGather tl t _ =>
    rcases hl : checkTensorList tl "tensor_list" with e | _
    · simp [runOp, allGather, ↓Py.lift_bind_apply, hl]
    rcases hc : checkSingleTensor t "tensor" with e | _ <;>
      simp [runOp, allGather, Op.neutral, Ret.ofWork, ↓Py.lift_bind_apply, hl, hc]
  | reduceScatter o il _ _ =>
    rcases hc : checkSingleTensor o "output" with e | _
    · simp [runOp, reduceScatter, ↓Py.lift_bind_apply, hc]
    rcases hl : checkTensorList il "input_list" with e | _ <;>
      simp [runOp, reduceScatter, Op.neutral, Ret.ofWork, ↓Py.lift_bind_apply, hl, hc]
  | gather t l _ _ =>
    rcases hc : checkSingleTensor t "tensor" with e | _
    · simp [runOp, gather, ↓Py.lift_bind_apply, hc]
    by_cases hl : l.truthy
    · rcases hl' : checkTensorList l "gather_list" with e | _ <;>
        simp [runOp, gather, Op.neutral, Ret.ofWork, ↓Py.lift_bind_apply, hl, hc, hl']
    · simp [runOp, gather, Op.neutral, Ret.ofWork, ↓Py.lift_bind_apply, hl, hc]
  | scatter t l _ _ =>
    rcases hc : checkSingleTensor t "tensor" with e | _
    · simp [runOp, scatter, ↓Py.lift_bind_apply, hc]
    by_cases hl : l.truthy
    · rcases hl' : checkTensorList l "scatter_list" with e | _ <;>
        simp [runOp, scatter, Op.neutral, Ret.ofWork, ↓Py.lift_bind_apply, hl, hc, hl']
    · simp [runOp, scatter, Op.neutral, Ret.ofWork, ↓Py.lift_bind_apply, hl, hc]
  | allGatherCoalesced _ _ _ | allToAllSingle _ _ _ _ _ | allToAll _ _ _ | barrier _ _ =>
    simp [runOp, allGatherCoalesced, allToAllSingle, allToAll, barrier, Op.neutral, Ret.ofWork]

/-- `get_rank` and `get_world_size` of the sentinel are `-1`, whatever the state. -/
theorem getRank_getWorldSize_nonmember (s : State) :
    getRank s (some .nonGroupMember) = .ok (-1) ∧ getWorldSize s (some .nonGroupMember) = .ok (-1) :=
  ⟨rfl, rfl⟩

/-! ### Batches -/

theorem getBackend_nonmember (s : State) :
    getBackend s (some .nonGroupMember) = .error (.runtime "Invalid process group specified") :=
  rfl

theorem getBackend_unregistered {s : State} {g : Handle} (hg : g ≠ .nonGroupMember)
    (hk : s.pgMap.get? g = none) : getBackend s (some g) = .error (.assertion "") := by
  simp [getBackend, rankNotInGroup, hg, hk, bind, Except.bind, pure, Except.pure, throw,
    throwThe, MonadExceptOf.throw]

theorem mapM_op? (ops : List P2POp) : (ops.map P2PItem.op).mapM P2PItem.op? = some ops := by
  induction ops with
  | nil => rfl
  | cons p ops ih => rw [List.map_cons, List.mapM_cons, ih]; rfl

/-- The check of a list of `P2POp`s asks for every group's backend, up to the first that
    differs, so it raises if any of them raises. -/
theorem sameBackend_error {s : State} (backend : Attr) {ops : List P2POp} {p : P2POp}
    (hp : p ∈ ops) {e : Error} (he : getBackend s p.group = .error e) :
    ∃ e', sameBackend s backend ops = .error e' := by
  induction ops with
  | nil => cases hp
  | cons q ops ih =>
    simp only [sameBackend]
    rcases List.mem_cons.1 hp with rfl | hp
    · exact ⟨e, by simp [he, bind, Except.bind]⟩
    · cases hq : getBackend s q.group with
      | error e' => exact ⟨e', by simp [hq, bind, Except.bind]⟩
      | ok b =>
        by_cases hb : backend = b
        · simpa [hq, hb, bind, Except.bind] using ih hp
        · exact ⟨.runtime "All groups need to use the same backend.",
            by simp [hq, hb, bind, Except.bind, throw, throwThe, MonadExceptOf.throw]⟩

/-- A batch one of whose groups has no backend to report raises before any op runs. -/
theorem batchIsendIrecv_raises_of_getBackend {s : State} {ops : List P2POp} {p : P2POp}
    (hp : p ∈ ops) {e : Error} (he : getBackend s p.group = .error e) (cls : BackendClass)
    (log : List Event) :
    ∃ e', batchIsendIrecv cls s (.list (ops.map .op)) log = ⟨log, .error e'⟩ := by
  obtain ⟨q, rest, rfl⟩ := List.exists_cons_of_ne_nil (List.ne_nil_of_mem hp)
  have hcheck : ∃ e', checkP2pOpList s (.list ((q :: rest).map .op)) = .error e' := by
    simp only [checkP2pOpList, mapM_op?, firstOp]
    cases hq : getBackend s q.group with
    | error e' => exact ⟨e', by simp [hq, bind, Except.bind]⟩
    | ok b =>
      obtain ⟨e', he'⟩ := sameBackend_error b hp he
      exact ⟨e', by simp [hq, he', bind, Except.bind]⟩
  obtain ⟨e', he'⟩ := hcheck
  exact ⟨e', by simp only [batchIsendIrecv, ↓Py.lift_bind_apply, he']⟩

theorem rankNotInGroup_eq_false {group : Option Handle} :
    rankNotInGroup group = false ↔ group ≠ some .nonGroupMember := by
  simp [rankNotInGroup]

/-- Off the sentinel, `isend` and `irecv` hand back a work handle or raise. -/
theorem P2POp.call_ne_none (s : State) {p : P2POp} (hp : p.group ≠ some .nonGroupMember)
    (log : List Event) : (p.call s log).result ≠ .ok none := by
  have hn := rankNotInGroup_eq_false.2 hp
  rcases p with ⟨_ | _, t, peer, group, tag⟩
  · simp only [P2POp.call, isend, checkSingleTensor_tensor, ↓Py.lift_bind_apply, hn,
      Bool.false_eq_true, if_false]
    cases subgroup s group with
    | none => cases getDefaultGroup s <;> simp
    | some g => cases h : getGroupRank s g peer <;> simp [h]
  · simp only [P2POp.call, irecv, checkSingleTensor_tensor, ↓Py.lift_bind_apply, hn,
      Bool.false_eq_true, if_false]
    cases recvGroup s group with
    | error e => simp
    | ok pg =>
      simp only [↓Py.lift_bind_apply]
      split
      · simp
      · cases h : getGroupRank s pg peer <;> simp [h]

/-- Every op of a list that passes the check has a group whose backend could be read, so
    none is on the sentinel. -/
theorem sameBackend_ok {s : State} {backend : Attr} {ops : List P2POp}
    (h : sameBackend s backend ops = .ok ()) : ∀ p ∈ ops, p.group ≠ some .nonGroupMember := by
  induction ops with
  | nil => simp
  | cons q ops ih =>
    simp only [sameBackend] at h
    obtain ⟨b, hb, h⟩ := Except.bind_eq_ok_iff.1 h
    have hq : q.group ≠ some .nonGroupMember := by
      rintro hq
      rw [hq, getBackend_nonmember] at hb
      cases hb
    split at h
    · exact List.forall_mem_cons.2 ⟨hq, ih h⟩
    · cases h

theorem checkP2pOpList_ok {s : State} {l : OpList} {ops : List P2POp}
    (h : checkP2pOpList s l = .ok ops) : ∀ p ∈ ops, p.group ≠ some .nonGroupMember := by
  unfold checkP2pOpList at h
  split at h
  · cases h
  · split at h
    · cases h
    · obtain ⟨q, -, h⟩ := Except.bind_eq_ok_iff.1 h
      obtain ⟨b, -, h⟩ := Except.bind_eq_ok_iff.1 h
      obtain ⟨u, hu, h⟩ := Except.bind_eq_ok_iff.1 h
      cases h
      exact sameBackend_ok hu

/-- The loop keeps one handle per op when none of the ops is on the sentinel. -/
theorem batchLoop_length (s : State) {ops : List P2POp}
    (hops : ∀ p ∈ ops, p.group ≠ some .nonGroupMember) {reqs ws : List Work} {log : List Event}
    (h : (batchLoop s reqs ops log).result = .ok ws) : ws.length = reqs.length + ops.length := by
  induction ops generalizing reqs log with
  | nil =>
    simp only [batchLoop, Py.pure_apply, Except.ok.injEq] at h
    simp [h]
  | cons p rest ih =>
    simp only [batchLoop, Py.bind_apply] at h
    rcases hc : p.call s log with ⟨log₁, _ | ret⟩ <;> rw [hc] at h
    · cases h
    · cases ret with
      | none => exact absurd (congrArg Outcome.result hc) (P2POp.call_ne_none s (hops p (.head _)) log)
      | some w =>
        have := ih (fun q hq => hops q (.tail _ hq)) h
        simp at this ⊢
        omega

/-- A batch that returns hands back one work handle per op: the `if ret is not None`
    filter never drops one. -/
theorem batch_returns_every_op {cls : BackendClass} {s : State} {l : OpList}
    {log log' : List Event} {ws : List Work} (h : batchIsendIrecv cls s l log = ⟨log', .ok ws⟩) :
    ∃ ops, checkP2pOpList s l = .ok ops ∧ ws.length = ops.length := by
  simp only [batchIsendIrecv, ↓Py.lift_bind_apply] at h
  cases hc : checkP2pOpList s l with
  | error e => simp [hc] at h
  | ok ops =>
    simp only [hc] at h
    refine ⟨ops, rfl, ?_⟩
    cases hq : firstOp ops with
    | error e => simp [hq] at h
    | ok q =>
      cases hb : getBackend s q.group with
      | error e => simp [hq, hb] at h
      | ok b =>
        simp only [hq, hb] at h
        have hr := congrArg Outcome.result h
        simpa using batchLoop_length s (checkP2pOpList_ok hc) hr

/-- Rank 0 of a world of two sends to rank 1 and receives from it in one batch on the
    world: it gets two handles back. -/
theorem batch_two_ops_two_handles :
    ∃ ops, checkP2pOpList worldOfTwo.st (.list [.op ⟨.isend, .mk 0 false, 1, none, 0⟩,
      .op ⟨.irecv, .mk 1 false, 1, none, 0⟩]) = .ok ops ∧ 2 = ops.length :=
  @batch_returns_every_op .initial _ _ [] [.call (.pg 0 0 2) (.send [.mk 0 false] 1 0),
    .call (.pg 0 0 2) (.recv [.mk 1 false] 1 0)] [⟨.pg 0 0 2, 0⟩, ⟨.pg 0 0 2, 1⟩] (by decide)

/-- Rank 0 of a world of two calls `new_group([1])` and gets the sentinel; a batch of an
    `isend` to rank 1 on the world and one on the sentinel raises "Invalid process group
    specified", with nothing issued, where the `isend` on the world alone is issued and
    handed back. -/
theorem batch_nonmember_op_raises :
    Reachable outsideSubgroup ∧ outsideSubgroup.created.getLast? = some (some .nonGroupMember) ∧
      batchIsendIrecv .initial outsideSubgroup.st (.list [.op ⟨.isend, .mk 0 false, 1, none, 0⟩,
        .op ⟨.isend, .mk 1 false, 1, some .nonGroupMember, 0⟩]) [] =
        ⟨[], .error (.runtime "Invalid process group specified")⟩ ∧
      batchIsendIrecv .initial outsideSubgroup.st (.list [.op ⟨.isend, .mk 0 false, 1, none, 0⟩]) [] =
        ⟨[.call (.pg 0 0 2) (.send [.mk 0 false] 1 0)], .ok [⟨.pg 0 0 2, 0⟩]⟩ :=
  ⟨outsideSubgroup_reachable, by decide, by decide, by decide⟩

/-! ### Handles no longer registered -/

/-- When a call consults the registry about its group: before it issues anything, only
    after it has issued the call (`recv` from any source, to translate the sender), or
    never. -/
inductive Lookup where
  | before
  | after
  | never
  deriving DecidableEq, Repr

/-- The calls that translate a peer or a root look the group up first, and so does
    `barrier` given `device_ids`, for the backend. -/
def Op.lookup : Op → Lookup
  | .isend .. | .send .. | .broadcast .. | .reduce .. | .gather .. | .scatter .. => .before
  | .irecv _ src _ => if src.isSome then .before else .never
  | .recv _ src _ => if src.isSome then .before else .after
  | .barrier _ .none => .never
  | .barrier _ _ => .before
  | _ => .never

/-- In a reachable state, a handle other than the sentinel with no record has no rank map
    either, and is not the world. -/
theorem Inv.unregistered {s : State} {n : Nat} (hi : Inv s n) {g : Handle}
    (hg : g ≠ .nonGroupMember) (hk : g ∉ s.pgMap.keys) :
    s.world ≠ some g ∧ s.pgGroupRanks.get? g = none ∧ s.pgMap.get? g = none := by
  refine ⟨fun hw => hk (hi.world g hw).1, PyDict.get?_eq_none_iff.2 fun hr => ?_,
    PyDict.get?_eq_none_iff.2 hk⟩
  exact hg ((hi.ranks_registered g hr).resolve_left hk)

theorem getGroupRank_unregistered {s : State} {g : Handle} (hw : s.world ≠ some g)
    (hr : s.pgGroupRanks.get? g = none) (x : Int) :
    getGroupRank s g x = .error groupDoesNotExist := by
  simp [getGroupRank, hw, hr]

section Unregistered

variable {s : State} {g : Handle} (hg : g ≠ .nonGroupMember) (hw : s.world ≠ some g)
  (hr : s.pgGroupRanks.get? g = none)
include hg hw hr

/-- A call that looks its group up first raises on a handle with no rank map, having issued
    nothing. -/
theorem runOp_lookup_before (hk : s.pgMap.get? g = none) (net : Net) {op : Op}
    (hop : op.lookup = .before) (log : List Event) :
    ∃ e, runOp net s (some g) op log = ⟨log, .error e⟩ := by
  have hn : rankNotInGroup (some g) = false := by simpa [rankNotInGroup] using hg
  cases op with
  | isend t _ _ | send t _ _ | broadcast t _ _ =>
    rcases hc : checkSingleTensor t "tensor" with e | _ <;>
      simp [runOp, isend, send, broadcast, ↓Py.lift_bind_apply, hc, hn, subgroup_of_ne hw,
        getGroupRank_unregistered hw hr]
  | irecv t src _ | recv t src _ =>
    cases src with
    | none => simp [Op.lookup] at hop
    | some x =>
      rcases hc : checkSingleTensor t "tensor" with e | _ <;>
        simp [runOp, irecv, recv, recvGroup_some, ↓Py.lift_bind_apply, hc, hn, hw,
          subgroup_of_ne hw, getGroupRank_unregistered hw hr]
  | reduce t _ _ asyncOp =>
    cases asyncOp
    · rcases hc : checkSingleTensor t "tensor" with e | _ <;>
        simp [runOp, reduce, ↓Py.lift_bind_apply, hc, hn, subgroup_of_ne hw,
          getGroupRank_unregistered hw hr]
    · simp [runOp, reduce]
  | gather t l _ _ | scatter t l _ _ =>
    rcases hc : checkSingleTensor t "tensor" with e | _
    · simp [runOp, gather, scatter, ↓Py.lift_bind_apply, hc]
    by_cases hl : l.truthy <;>
      simp only [runOp, gather, scatter, ↓Py.map_lift_bind_apply, ↓Py.lift_bind_apply, hc, hl, hn,
        subgroup_of_ne hw, getGroupRank_unregistered hw hr, if_true, if_false, Bool.false_eq_true,
        Py.pure_bind] <;>
      repeat' split
    all_goals exact ⟨_, rfl⟩
  | barrier _ d =>
    cases d with
    | none => simp [Op.lookup] at hop
    | _ => simp [runOp, barrier, ↓Py.lift_bind_apply, hn, getBackend_unregistered hg hk]
  | _ => simp [Op.lookup] at hop

/-- `recv` from any source issues the receive on the object and waits on it; translating
    the sender back is what raises. -/
theorem recv_anysource_unregistered (net : Net) (t : Tensor) (tag : Int) (log : List Event) :
    recv net s (.tensor t) none (some g) tag log =
      ⟨log ++ [.call g (.recvAnysource [t] tag), .wait ⟨g, log.length⟩], .error .key⟩ := by
  have hn : rankNotInGroup (some g) = false := by simpa [rankNotInGroup] using hg
  simp [recv, hn, subgroup_of_ne hw, getGroupRank, getGlobalRank, hw, hr, ↓Py.lift_bind_apply]

end Unregistered

/-- A call that never consults the registry about its group does on a handle what it would
    do in any other state: nothing it does depends on whether the handle is registered. -/
theorem runOp_lookup_never (net : Net) {op : Op} (hop : op.lookup = .never) (g : Handle)
    (s s' : State) : runOp net s (some g) op = runOp net s' (some g) op := by
  cases op with
  | irecv t src tag =>
    cases src with
    | none => simp only [runOp, irecv, recvGroup_some]
    | some _ => simp [Op.lookup] at hop
  | barrier asyncOp d =>
    cases d with
    | none => rfl
    | _ => simp [Op.lookup] at hop
  | recv t src tag => cases src <;> simp [Op.lookup] at hop
  | _ => first | (simp [Op.lookup] at hop; done) | rfl

/-- Take a reachable state and a handle other than the sentinel that is not a key of
    `_pg_map`: a subgroup destroyed, or any group after the world was destroyed. The calls
    that look the group up first raise with nothing issued, and so does a batch with an op
    on the handle. `recv` from any source issues the receive and its wait before it raises.
    Every other call is issued on the handle as in any state. -/
theorem unregistered_group_calls {p : Proc} (hp : Reachable p) {g : Handle}
    (hg : g ≠ .nonGroupMember) (hk : g ∉ p.st.pgMap.keys) (net : Net) (log : List Event) :
    (∀ op : Op, op.lookup = .before → ∃ e, runOp net p.st (some g) op log = ⟨log, .error e⟩) ∧
    (∀ ops : List P2POp, (∃ q ∈ ops, q.group = some g) →
      ∃ e, batchIsendIrecv net.backendClass p.st (.list (ops.map .op)) log = ⟨log, .error e⟩) ∧
    (∀ t tag, recv net p.st (.tensor t) none (some g) tag log =
      ⟨log ++ [.call g (.recvAnysource [t] tag), .wait ⟨g, log.length⟩], .error .key⟩) ∧
    (∀ op : Op, op.lookup = .never → ∀ s : State,
      runOp net p.st (some g) op log = runOp net s (some g) op log) := by
  obtain ⟨hw, hr, hk'⟩ := hp.inv.unregistered hg hk
  refine ⟨fun op hop => runOp_lookup_before hg hw hr hk' net hop log, ?_,
    fun t tag => recv_anysource_unregistered hg hw hr net t tag log,
    fun op hop s => congrFun (runOp_lookup_never net hop g p.st s) log⟩
  rintro ops ⟨q, hq, hqg⟩
  exact batchIsendIrecv_raises_of_getBackend hq (hqg ▸ getBackend_unregistered hg hk') _ log

/-- A group handle built earlier in a run and no longer registered stays so for the rest
    of the run, whatever the calls, the world destroyed and built again included: it is
    never registered again, every call that looks the group up first raises on it with
    nothing issued, and so does a batch with an op on it. -/
theorem stale_group_stays_rejected {p : Proc} (hp : Reachable p) {g : Handle}
    (hb : g.builtBefore p.heap) (hk : g ∉ p.st.pgMap.keys) (env : Env)
    (cmds : List (Cmd × Ext)) (net : Net) (log : List Event) :
    g ∉ (p.run env cmds).st.pgMap.keys ∧
    (∀ op : Op, op.lookup = .before →
      ∃ e, runOp net (p.run env cmds).st (some g) op log = ⟨log, .error e⟩) ∧
    ∀ ops : List P2POp, (∃ q ∈ ops, q.group = some g) →
      ∃ e, batchIsendIrecv net.backendClass (p.run env cmds).st (.list (ops.map .op)) log =
        ⟨log, .error e⟩ := by
  have hk' := hp.not_mem_keys_run hb hk env cmds
  have hg := Handle.ne_sentinel_of_builtBefore hb
  obtain ⟨hw, hr, hm⟩ := (hp.run env cmds).inv.unregistered hg hk'
  refine ⟨hk', fun op hop => runOp_lookup_before hg hw hr hm net hop log, ?_⟩
  rintro ops ⟨q, hq, hqg⟩
  exact batchIsendIrecv_raises_of_getBackend hq (hqg ▸ getBackend_unregistered hg hm) _ log

/-- After the subgroup `[0, 1]` is destroyed, rank 0 destroys the world, builds it again
    and builds `[0, 1]` again. -/
def rebuildCmds : List (Cmd × Ext) :=
  [(.destroyProcessGroup .none, ⟨0, false, none⟩),
   (.initProcessGroup Backend.gloo none (.timedelta 1800) 2 0 (some ⟨0⟩) "", ⟨0, false, none⟩),
   (.newGroup (some [0, 1]) (.timedelta 1800) none, ⟨0, false, none⟩)]

/-- Through all that, the first subgroup's handle stays rejected. -/
theorem destroyed_group_after_rebuild :
    Reachable subgroupDestroyed ∧ (Handle.pg 1 0 2).builtBefore subgroupDestroyed.heap ∧
    Handle.pg 1 0 2 ∉ subgroupDestroyed.st.pgMap.keys ∧
    (Handle.pg 1 0 2 ∉ (subgroupDestroyed.run glooWorld rebuildCmds).st.pgMap.keys ∧
    (∀ op : Op, op.lookup = .before → ∃ e, runOp ⟨fun _ => 0, .initial⟩
      (subgroupDestroyed.run glooWorld rebuildCmds).st (some (.pg 1 0 2)) op [] = ⟨[], .error e⟩) ∧
    ∀ ops : List P2POp, (∃ q ∈ ops, q.group = some (.pg 1 0 2)) →
      ∃ e, batchIsendIrecv .initial (subgroupDestroyed.run glooWorld rebuildCmds).st
        (.list (ops.map .op)) [] = ⟨[], .error e⟩) :=
  ⟨subgroupDestroyed_reachable, show 1 < subgroupDestroyed.heap by decide, by decide,
    @stale_group_stays_rejected subgroupDestroyed subgroupDestroyed_reachable (.pg 1 0 2)
      (show 1 < subgroupDestroyed.heap by decide) (by decide) glooWorld rebuildCmds
      ⟨fun _ => 0, .initial⟩ []⟩

/-- Rank 0 of a world of two builds the subgroup `[0, 1]` and destroys it: `broadcast` on
    the stale handle raises with nothing issued. -/
theorem broadcast_on_destroyed_group :
    Reachable subgroupDestroyed ∧ Handle.pg 1 0 2 ∉ subgroupDestroyed.st.pgMap.keys ∧
      ∃ e, runOp ⟨fun _ => 0, .initial⟩ subgroupDestroyed.st (some (.pg 1 0 2))
        (.broadcast (.tensor (.mk 0 false)) 0 false) [] = ⟨[], .error e⟩ :=
  ⟨subgroupDestroyed_reachable, by decide,
    (unregistered_group_calls subgroupDestroyed_reachable (by decide) (by decide) _ []).1 _ rfl⟩

/-- After the same calls, `all_reduce` on the stale handle raises nothing and is issued on
    it, and waited on. -/
theorem all_reduce_on_destroyed_group :
    Reachable subgroupDestroyed ∧ Handle.pg 1 0 2 ∉ subgroupDestroyed.st.pgMap.keys ∧
      runOp ⟨fun _ => 0, .initial⟩ subgroupDestroyed.st (some (.pg 1 0 2))
        (.allReduce (.tensor (.mk 0 false)) .sum false) [] =
        ⟨[.call (.pg 1 0 2) (.allreduce [.mk 0 false] .sum), .wait ⟨.pg 1 0 2, 0⟩], .ok .none⟩ :=
  ⟨subgroupDestroyed_reachable, by decide, rfl⟩

end DistributedC10d
