import DistributedC10d.Theory.Dispatch

/-!
# Batches as Brackets

`batch_isend_irecv(p2p_op_list)` checks its whole argument in `_check_p2p_op_list`
before anything else: that it is a list of `P2POp`s, that the first op's group has a
backend, and that every op's group has that one. Only then does it enter
`_batch_p2p_manager`, which for NCCL calls `ProcessGroupNCCL._group_start()` on the way
in and, in a `finally`, `_group_end()` on the way out. Inside, the loop calls each op's
function in turn and keeps the results that are not `None`.

"For NCCL" is `backend == Backend.NCCL`, with the attribute read when the batch runs. A
group keeps the backend string it was built with, so once `register_backend("nccl", f)`
has bound `NCCL` to a factory, a batch on a group built with `"nccl"` before is not
bracketed at all.

`callEach` is the body as the function's docstring describes it: each op's call in
order, stopping at the first that raises. The loop, with its accumulator and its
`if ret is not None`, is `callEach` with the `None`s dropped; and the calls write nothing
but calls on process groups, so the bracket's `_group_start` and `_group_end` are the only
ones between the two ends of a batch.

## Main definitions

* `callEach`: Each op's function, in order.
* `groupStartFor`, `groupEndFor`: What `_batch_p2p_manager` writes for a backend, given
  the class as bound when it runs.

## Theorems

* `batchLoop_eq_callEach`: The loop is the calls in order, without the `None`s.
* `callEach_log`: The calls write only calls on process groups.
* `checkP2pOpList_eq_ok`: What passing the check says of the argument.
* `batch_bracketed_in_order`: A batch whose check fails raises before it does anything;
  one whose check passes calls every op in order inside one bracket, when its backend is
  what `Backend.NCCL` is bound to.
* `batch_after_nccl_registered_unbracketed`: After `register_backend("nccl", f)`, a
  batch on an NCCL group built before is not bracketed.
-/

namespace DistributedC10d

/-- Each op's function called in turn on its `(tensor, peer, group, tag)`, stopping at the
    first that raises, with what each returned. -/
def callEach (s : State) : List P2POp → Py (List Event) (List (Option Work))
  | [] => pure []
  | p :: rest => do
    let ret ← p.call s
    let rets ← callEach s rest
    pure (ret :: rets)

/-- `ProcessGroupNCCL._group_start()` when the backend is what `Backend.NCCL` is bound to,
    nothing otherwise. -/
def groupStartFor (cls : BackendClass) (backend : Attr) : List Event :=
  if backend = cls.attr .nccl then [.groupStart] else []

/-- `ProcessGroupNCCL._group_end()` when the backend is what `Backend.NCCL` is bound to,
    nothing otherwise. -/
def groupEndFor (cls : BackendClass) (backend : Attr) : List Event :=
  if backend = cls.attr .nccl then [.groupEnd] else []

/-- The loop of `batch_isend_irecv` is the ops' calls in order, keeping the results that
    are not `None` after those it had. -/
theorem batchLoop_eq_callEach (s : State) (reqs : List Work) (ops : List P2POp)
    (log : List Event) :
    batchLoop s reqs ops log = ⟨(callEach s ops log).state,
      (callEach s ops log).result.map fun rets => reqs ++ rets.filterMap id⟩ := by
  induction ops generalizing reqs log with
  | nil => simp [batchLoop, callEach, Except.map]
  | cons p rest ih =>
    simp only [batchLoop, callEach, Py.bind_apply]
    rcases p.call s log with ⟨log₁, e | ret⟩
    · rfl
    · dsimp only
      rw [ih]
      rcases callEach s rest log₁ with ⟨log₂, e | rets⟩ <;> cases ret <;> simp [Except.map]

/-- `isend` and `irecv` write at most one event, a call on a process group. -/
theorem P2POp.call_log (s : State) (p : P2POp) (log : List Event) :
    (p.call s log).state = log ∨ ∃ pg req, (p.call s log).state = log ++ [.call pg req] := by
  rcases p with ⟨_ | _, t, peer, group, tag⟩
  · simp only [P2POp.call, isend, checkSingleTensor_tensor, ↓Py.lift_bind_apply]
    split
    · exact .inl rfl
    · cases subgroup s group with
      | none => cases getDefaultGroup s <;> simp
      | some g => cases h : getGroupRank s g peer <;> simp [h]
  · simp only [P2POp.call, irecv, checkSingleTensor_tensor, ↓Py.lift_bind_apply]
    split
    · exact .inl rfl
    · cases recvGroup s group with
      | error e => exact .inl rfl
      | ok pg =>
        simp only [↓Py.lift_bind_apply]
        split
        · simp
        · cases h : getGroupRank s pg peer <;> simp [h]

/-- The ops' calls write nothing but calls on process groups. -/
theorem callEach_log (s : State) (ops : List P2POp) (log : List Event) :
    ∃ mid, (callEach s ops log).state = log ++ mid ∧ ∀ e ∈ mid, ∃ pg req, e = .call pg req := by
  induction ops generalizing log with
  | nil => exact ⟨[], by simp [callEach], by simp⟩
  | cons p rest ih =>
    simp only [callEach, Py.bind_apply]
    -- What the first call wrote, then what the rest wrote after it.
    obtain ⟨mid₁, hmid₁, hcalls₁⟩ : ∃ mid₁, (p.call s log).state = log ++ mid₁ ∧
        ∀ e ∈ mid₁, ∃ pg req, e = .call pg req := by
      rcases p.call_log s log with h | ⟨pg, req, h⟩
      · exact ⟨[], by simp [h], by simp⟩
      · exact ⟨[.call pg req], h, by simp⟩
    rcases hp : p.call s log with ⟨log₁, e | ret⟩ <;> rw [hp] at hmid₁ <;> dsimp only
    · exact ⟨mid₁, hmid₁, hcalls₁⟩
    · subst hmid₁
      obtain ⟨mid₂, hmid₂, hcalls₂⟩ := ih (log ++ mid₁)
      refine ⟨mid₁ ++ mid₂, ?_, fun e he => ?_⟩
      · rcases hr : callEach s rest (log ++ mid₁) with ⟨log₂, r⟩
        rw [hr] at hmid₂
        subst hmid₂
        cases r <;> simp
      · exact (List.mem_append.1 he).elim (hcalls₁ e) (hcalls₂ e)

/-- The check of the ops' backends passes exactly when every op's group has the given
    backend. -/
theorem sameBackend_eq_ok {s : State} {backend : Attr} {ops : List P2POp} :
    sameBackend s backend ops = .ok () ↔ ∀ p ∈ ops, getBackend s p.group = .ok backend := by
  induction ops with
  | nil => simp [sameBackend]
  | cons q ops ih =>
    simp only [sameBackend, List.forall_mem_cons, ← ih]
    cases hq : getBackend s q.group with
    | error e => simp [bind, Except.bind]
    | ok b =>
      by_cases hb : backend = b
      · subst hb
        simp [bind, Except.bind]
      · simp [bind, Except.bind, hb, Ne.symm hb, throw, throwThe, MonadExceptOf.throw]

theorem eq_map_op_of_mapM_op? {items : List P2PItem} {ops : List P2POp}
    (h : items.mapM P2PItem.op? = some ops) : items = ops.map .op := by
  induction items generalizing ops with
  | nil =>
    rw [List.mapM_nil] at h
    cases h
    rfl
  | cons it items ih =>
    rw [List.mapM_cons] at h
    cases it with
    | other => cases h
    | op p =>
      cases hm : items.mapM P2PItem.op? with
      | none =>
        simp only [hm, P2PItem.op?, Option.pure_def, Option.bind_eq_bind, Option.some_bind,
          Option.none_bind] at h
        cases h
      | some ps =>
        simp only [hm, P2PItem.op?, Option.pure_def, Option.bind_eq_bind, Option.some_bind,
          Option.some.injEq] at h
        subst h
        rw [ih hm]
        rfl

/-- A batch that passes its check is a list of `P2POp`s, not empty, whose groups all have
    the first one's backend. -/
theorem checkP2pOpList_eq_ok {s : State} {l : OpList} {ops : List P2POp}
    (h : checkP2pOpList s l = .ok ops) :
    l = .list (ops.map .op) ∧ ∃ q rest, ops = q :: rest ∧ ∃ backend,
      getBackend s q.group = .ok backend ∧ ∀ p ∈ ops, getBackend s p.group = .ok backend := by
  cases l with
  | other => cases h
  | list items =>
    cases hm : items.mapM P2PItem.op? with
    | none => simp only [checkP2pOpList, hm, reduceCtorEq] at h
    | some ops' =>
      simp only [checkP2pOpList, hm] at h
      obtain ⟨q, hq, h⟩ := Except.bind_eq_ok_iff.1 h
      obtain ⟨b, hb, h⟩ := Except.bind_eq_ok_iff.1 h
      obtain ⟨u, hu, h⟩ := Except.map_eq_ok_iff.1 h
      have hops : ops = ops' := h.symm
      subst hops
      cases ops with
      | nil => cases hq
      | cons q' rest =>
        simp only [firstOp, Except.ok.injEq] at hq
        subst hq
        exact ⟨by rw [eq_map_op_of_mapM_op? hm], q', rest, rfl, b, hb, sameBackend_eq_ok.1 hu⟩

/-- `batch_isend_irecv(L)` either fails `_check_p2p_op_list` and raises what it raised,
    with nothing written, before any `isend` or `irecv` and before `_group_start`; or `L`
    passes the check, a list of `P2POp`s, not empty, all on one backend, and the batch
    writes `_group_start()` when that backend is what `Backend.NCCL` is bound to, then
    what each op's function writes, called in the order of `L` on its
    `(tensor, peer, group, tag)` up to the first that raises, then `_group_end()` under the
    same test whether or not one raised; and it returns what the calls returned, in order,
    without the `None`s. The calls write only calls on process groups, so that
    `_group_start` and that `_group_end` are the batch's only ones. -/
theorem batch_bracketed_in_order (cls : BackendClass) (s : State) (l : OpList)
    (log : List Event) :
    (∃ e, checkP2pOpList s l = .error e ∧ batchIsendIrecv cls s l log = ⟨log, .error e⟩) ∨
    ∃ ops backend mid r, checkP2pOpList s l = .ok ops ∧ l = .list (ops.map .op) ∧ ops ≠ [] ∧
      (∀ p ∈ ops, getBackend s p.group = .ok backend) ∧
      callEach s ops (log ++ groupStartFor cls backend) =
        ⟨log ++ groupStartFor cls backend ++ mid, r⟩ ∧
      (∀ e ∈ mid, ∃ pg req, e = .call pg req) ∧
      batchIsendIrecv cls s l log =
        ⟨log ++ groupStartFor cls backend ++ mid ++ groupEndFor cls backend,
          r.map (List.filterMap id)⟩ := by
  cases hc : checkP2pOpList s l with
  | error e => exact .inl ⟨e, rfl, by simp [batchIsendIrecv, hc]⟩
  | ok ops =>
    obtain ⟨hl, q, rest, rfl, backend, hq, hall⟩ := checkP2pOpList_eq_ok hc
    obtain ⟨mid, hmid, hcalls⟩ := callEach_log s (q :: rest) (log ++ groupStartFor cls backend)
    refine .inr ⟨q :: rest, backend, mid,
      (callEach s (q :: rest) (log ++ groupStartFor cls backend)).result, rfl, hl,
      List.cons_ne_nil _ _, hall, by rw [← hmid], hcalls, ?_⟩
    -- The bracket around the loop, with the loop as the calls in order.
    have hstart : (if backend = cls.attr .nccl then log ++ [.groupStart] else log) =
        log ++ groupStartFor cls backend := by
      unfold groupStartFor
      split <;> simp
    simp only [batchIsendIrecv, ↓Py.lift_bind_apply, hc, firstOp, hq, batchP2pManager, hstart,
      batchLoop_eq_callEach, hmid, List.nil_append]
    unfold groupEndFor
    split <;> simp

/-- Rank 0 of an NCCL world of two, built while `NCCL` is the class body's. -/
def ncclWorldOfTwo : Proc := Proc.initial.run ncclWorld
  [(.initProcessGroup Backend.nccl none (.timedelta 1800) 2 0 (some ⟨0⟩) "", ⟨0, false, none⟩)]

/-- Then `Backend.register_backend("nccl", f)`. The world still reports `"nccl"`, but
    `Backend.NCCL` is now `f`: a batch of one `isend` on the world calls neither
    `_group_start` nor `_group_end`, where before the registration it called both. -/
theorem batch_after_nccl_registered_unbracketed :
    getBackend ncclWorldOfTwo.st none = .ok (.str Backend.nccl) ∧
    batchIsendIrecv (BackendClass.initial.registerBackend "nccl" 0) ncclWorldOfTwo.st
        (.list [.op ⟨.isend, .mk 0 false, 1, none, 0⟩]) [] =
      ⟨[.call (.pg 0 0 2) (.send [.mk 0 false] 1 0)], .ok [⟨.pg 0 0 2, 0⟩]⟩ ∧
    batchIsendIrecv BackendClass.initial ncclWorldOfTwo.st
        (.list [.op ⟨.isend, .mk 0 false, 1, none, 0⟩]) [] =
      ⟨[.groupStart, .call (.pg 0 0 2) (.send [.mk 0 false] 1 0), .groupEnd],
        .ok [⟨.pg 0 0 2, 1⟩]⟩ :=
  ⟨by decide, by decide, by decide⟩

end DistributedC10d
