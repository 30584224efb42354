import DistributedC10d.Core.State

/-!
# The Dispatcher

The point-to-point and collective calls. Each checks its arguments, returns at once for
a process outside the group, picks the process group object to call (the default group
for `None`, the group itself otherwise) and, where it names a peer or a root, translates
that rank from global to group numbering through `_pg_group_ranks`, except for the
default group, whose numbering is the global one. Then it calls the object's method, and
waits for the work or hands it back.

None of these functions writes a global, so each is a function of the globals. What it
does outside the module is the list of `Event`s it issues: a method call on a process
group object, a wait, a copy into a tensor, and the brackets of an NCCL group. A call
that raises keeps the events issued before it, so the log is the `Py` state.

A tensor is known by its identity and by whether its dtype is complex; the values in it
are the transport's business. `torch.view_as_real(t)` is a view of `t`, and
`t.clone()` a new tensor made from `t`. Where a tensor or a list of them is expected the
caller may pass anything, so arguments are Python values, `Obj`.

## Main definitions

* `Tensor`, `Obj`: Tensors, and the values passed where tensors are expected.
* `Request`, `Event`, `Work`: A method call on a process group, what the dispatcher
  issues, and the work handle a call returns.
* `isend` ... `barrier`: The public calls.
* `P2POp`, `batchIsendIrecv`: Batched point-to-point calls.
* `Op`, `runOp`: Every call but the batch, by name.
-/

namespace DistributedC10d

/-- `torch.distributed.ReduceOp`. -/
inductive ReduceOp where
  | sum | product | min | max | band | bor | bxor
  deriving DecidableEq, Repr

/-- `str(op)`. -/
def ReduceOp.str : ReduceOp → String
  | sum => "ReduceOp.SUM"
  | product => "ReduceOp.PRODUCT"
  | min => "ReduceOp.MIN"
  | max => "ReduceOp.MAX"
  | band => "ReduceOp.BAND"
  | bor => "ReduceOp.BOR"
  | bxor => "ReduceOp.BXOR"

/-- `supports_complex(reduceOp)`: the operations that are wrong on the real view of a
    complex tensor are denied. -/
def supportsComplex (reduceOp : ReduceOp) : Bool :=
  decide (reduceOp ∉ [ReduceOp.max, .min, .product, .band, .bor, .bxor])

/-- A tensor: one the caller made, known by identity, with a complex dtype or not; the
    real view of a tensor; or a clone of one. -/
inductive Tensor where
  | mk (id : Nat) (complex : Bool)
  | viewAsReal (base : Tensor)
  | clone (base : Tensor)
  deriving DecidableEq, Repr

/-- `t.is_complex()`. -/
def Tensor.isComplex : Tensor → Bool
  | mk _ c => c
  | viewAsReal _ => false
  | clone t => t.isComplex

/-- `t if not t.is_complex() else torch.view_as_real(t)`. -/
def Tensor.asReal (t : Tensor) : Tensor := if t.isComplex then .viewAsReal t else t

/-- A Python value passed where the dispatcher expects a tensor or a list of them. -/
inductive Obj where
  | none
  | tensor (t : Tensor)
  | list (xs : List Obj)
  | other

/-- The tensor an `Obj` is, if it is one. -/
def Obj.tensor? : Obj → Option Tensor
  | .tensor t => some t
  | _ => Option.none

/-- `bool(x)`: `None` and the empty list are false. A tensor counts as true, whatever its
    values. -/
def Obj.truthy : Obj → Bool
  | .none => false
  | .list xs => !xs.isEmpty
  | .tensor _ => true
  | .other => true

@[simp] theorem truthy_tensors (ts : List Tensor) : (Obj.list (ts.map .tensor)).truthy = !ts.isEmpty := by
  cases ts <;> rfl

/-- `_check_single_tensor(param, param_name)`. -/
def checkSingleTensor (param : Obj) (paramName : String) : Except Error Tensor :=
  match param.tensor? with
  | some t => .ok t
  | none => .error (.runtime ("Invalid function argument. Expected parameter `" ++ paramName ++
      "` to be of type torch.Tensor."))

@[simp] theorem checkSingleTensor_tensor (t : Tensor) (paramName : String) :
    checkSingleTensor (.tensor t) paramName = .ok t := rfl

/-- `_check_tensor_list(param, param_name)`. -/
def checkTensorList (param : Obj) (paramName : String) : Except Error (List Tensor) :=
  match param with
  | .list xs => match xs.mapM Obj.tensor? with
    | some ts => .ok ts
    | none => .error (.runtime ("Invalid function argument. Expected parameter `" ++ paramName ++
        "` to be of type List[torch.Tensor]."))
  | _ => .error (.runtime ("Invalid function argument. Expected parameter `" ++ paramName ++
      "` to be of type List[torch.Tensor]."))

@[simp] theorem checkTensorList_tensors (ts : List Tensor) (paramName : String) :
    checkTensorList (.list (ts.map .tensor)) paramName = .ok ts := by
  have h : (ts.map Obj.tensor).mapM Obj.tensor? = some ts := by
    induction ts with
    | nil => rfl
    | cons t ts ih => rw [List.map_cons, List.mapM_cons, ih]; rfl
  simp only [checkTensorList, h]

/-- A method call on a process group object, its options folded in. -/
inductive Request where
  | send (tensors : List Tensor) (dstRank tag : Int)
  | recv (tensors : List Tensor) (srcRank tag : Int)
  | recvAnysource (tensors : List Tensor) (tag : Int)
  | broadcast (tensors : List Tensor) (rootRank : Int) (rootTensor : Nat)
  | allreduce (tensors : List Tensor) (reduceOp : ReduceOp)
  | allreduceCoalesced (tensors : List Tensor) (reduceOp : ReduceOp)
  | allgather (outputTensors : List (List Tensor)) (inputTensors : List Tensor)
  | allgatherCoalesced (outputTensorLists : List (List Tensor)) (inputTensors : List Tensor)
  | gather (outputTensors : List (List Tensor)) (inputTensors : List Tensor) (rootRank : Int)
  | scatter (outputTensors : List Tensor) (inputTensors : List (List Tensor)) (rootRank : Int)
  | reduceScatter (outputTensors : List Tensor) (inputTensors : List (List Tensor))
      (reduceOp : ReduceOp)
  | alltoallBase (output input : Tensor) (outputSplitSizes inputSplitSizes : List Int)
  | alltoall (outputTensors inputTensors : List Tensor)
  | barrier (deviceIds : List Int)
  deriving DecidableEq, Repr

/-- The work handle a method call returns: the object called, and the call's place in
    the log. -/
structure Work where
  pg : Handle
  seq : Nat
  deriving DecidableEq, Repr

/-- What the dispatcher does outside the module. -/
inductive Event where
  /-- `pg.method(...)`. -/
  | call (pg : Handle) (request : Request)
  /-- `work.wait()`. -/
  | wait (work : Work)
  /-- `dst.copy_(src)`. -/
  | copy (dst src : Tensor)
  /-- `ProcessGroupNCCL._group_start()`. -/
  | groupStart
  /-- `ProcessGroupNCCL._group_end()`. -/
  | groupEnd
  deriving DecidableEq, Repr

/-- What a call reads from outside the module's globals: the source the transport reports
    for a receive from any rank, and the `Backend` class as it is bound at the time of
    the call, whose `Backend.NCCL` the batch and `barrier` compare with. -/
structure Net where
  sourceRank : Work → Int
  backendClass : BackendClass

/-- `pg.method(...)`: a call on the object, and its work handle. -/
def issue (pg : Handle) (request : Request) : Py (List Event) Work := fun log =>
  ⟨log ++ [.call pg request], .ok ⟨pg, log.length⟩⟩

@[simp] theorem issue_apply (pg : Handle) (request : Request) (log : List Event) :
    issue pg request log = ⟨log ++ [.call pg request], .ok ⟨pg, log.length⟩⟩ := rfl

/-- `work.wait()`. -/
def waitOn (work : Work) : Py (List Event) Unit := modify (· ++ [.wait work])

@[simp] theorem waitOn_apply (work : Work) (log : List Event) :
    waitOn work log = ⟨log ++ [.wait work], .ok ()⟩ := rfl

/-- `if async_op: return work else: work.wait()`. -/
def finish (asyncOp : Bool) (work : Work) : Py (List Event) (Option Work) :=
  if asyncOp then pure (some work) else do
    waitOn work
    pure none

@[simp] theorem finish_apply (asyncOp : Bool) (work : Work) (log : List Event) :
    finish asyncOp work log =
      if asyncOp then ⟨log, .ok (some work)⟩ else ⟨log ++ [.wait work], .ok none⟩ := by
  cases asyncOp <;> rfl

/-- The group the call names, unless it is `None` or `GroupMember.WORLD`: the calls
    that name a peer translate its rank only for such a group. -/
def subgroup (s : State) (group : Option Handle) : Option Handle :=
  if group = none ∨ group = s.world then none else group

@[simp] theorem subgroup_none (s : State) : subgroup s none = none := by simp [subgroup]

theorem subgroup_world {s : State} {w : Handle} (hw : s.world = some w) :
    subgroup s (some w) = none := by
  simp [subgroup, hw]

theorem subgroup_of_ne {s : State} {g : Handle} (hw : s.world ≠ some g) :
    subgroup s (some g) = some g := by
  simp [subgroup, Ne.symm hw]

/-- `pg = _get_default_group() if group is None else group`. -/
def groupOrDefault (s : State) : Option Handle → Except Error Handle
  | none => getDefaultGroup s
  | some g => .ok g

@[simp] theorem groupOrDefault_some (s : State) (g : Handle) : groupOrDefault s (some g) = .ok g :=
  rfl

/-- `isend(tensor, dst, group, tag)`. -/
def isend (s : State) (tensor : Obj) (dst : Int) (group : Option Handle) (tag : Int) :
    Py (List Event) (Option Work) := do
  let tensor ← checkSingleTensor tensor "tensor"
  if rankNotInGroup group then pure none
  else match subgroup s group with
    | none => do
      let defaultPg ← getDefaultGroup s
      some <$> issue defaultPg (.send [tensor] dst tag)
    | some g => do
      let groupDstRank ← getGroupRank s g dst
      some <$> issue g (.send [tensor] groupDstRank tag)

/-- The object `irecv` calls: the default group for `None` and for `GroupMember.WORLD`. -/
def recvGroup (s : State) (group : Option Handle) : Except Error Handle :=
  match subgroup s group with
  | none => getDefaultGroup s
  | some g => .ok g

/-- Whether or not it is the world, a group passed by name is the object called. -/
theorem recvGroup_some (s : State) (g : Handle) : recvGroup s (some g) = .ok g := by
  by_cases hw : s.world = some g
  · simp [recvGroup, subgroup, getDefaultGroup, hw]
  · simp [recvGroup, subgroup_of_ne hw]

/-- `irecv(tensor, src, group, tag)`. -/
def irecv (s : State) (tensor : Obj) (src : Option Int) (group : Option Handle) (tag : Int) :
    Py (List Event) (Option Work) := do
  let tensor ← checkSingleTensor tensor "tensor"
  if rankNotInGroup group then pure none
  else do
    let pg ← recvGroup s group
    match src with
    | none => some <$> issue pg (.recvAnysource [tensor] tag)
    | some src =>
      if s.world = some pg then some <$> issue pg (.recv [tensor] src tag)
      else do
        let groupSrcRank ← getGroupRank s pg src
        some <$> issue pg (.recv [tensor] groupSrcRank tag)

/-- `send(tensor, dst, group, tag)`. -/
def send (s : State) (tensor : Obj) (dst : Int) (group : Option Handle) (tag : Int) :
    Py (List Event) Unit := do
  let tensor ← checkSingleTensor tensor "tensor"
  if rankNotInGroup group then pure ()
  else match subgroup s group with
    | none => do
      let defaultPg ← getDefaultGroup s
      waitOn (← issue defaultPg (.send [tensor] dst tag))
    | some g => do
      let groupDstRank ← getGroupRank s g dst
      waitOn (← issue g (.send [tensor] groupDstRank tag))

/-- `recv(tensor, src, group, tag)`: the sender's global rank, or `-1` outside the
    group. -/
def recv (net : Net) (s : State) (tensor : Obj) (src : Option Int) (group : Option Handle)
    (tag : Int) : Py (List Event) Int := do
  let tensor ← checkSingleTensor tensor "tensor"
  if rankNotInGroup group then pure (-1)
  else do
    let pg ← groupOrDefault s group
    match src with
    | none => do
      let work ← issue pg (.recvAnysource [tensor] tag)
      waitOn work
      let srcRank := net.sourceRank work
      match subgroup s group with
      | none => pure srcRank
      | some _ => getGlobalRank s pg srcRank
    | some src => do
      match subgroup s group with
      | none => waitOn (← issue pg (.recv [tensor] src tag))
      | some _ => do
        let groupSrcRank ← getGroupRank s pg src
        waitOn (← issue pg (.recv [tensor] groupSrcRank tag))
      pure src

/-- `broadcast(tensor, src, group, async_op)`. -/
def broadcast (s : State) (tensor : Obj) (src : Int) (group : Option Handle) (asyncOp : Bool) :
    Py (List Event) (Option Work) := do
  let tensor ← checkSingleTensor tensor "tensor"
  if rankNotInGroup group then pure none
  else do
    let work ← match subgroup s group with
      | none => do
        let defaultPg ← getDefaultGroup s
        issue defaultPg (.broadcast [tensor] src 0)
      | some g => do
        let groupSrcRank ← getGroupRank s g src
        issue g (.broadcast [tensor] groupSrcRank 0)
    finish asyncOp work

/-- The message for a reduction the real view of a complex tensor would get wrong. -/
def complexUnsupported (op : ReduceOp) : Error :=
  .runtime ("all_reduce does not support " ++ op.str ++ " on complex tensors")

/-- `all_reduce(tensor, op, group, async_op)`. -/
def allReduce (s : State) (tensor : Obj) (op : ReduceOp) (group : Option Handle)
    (asyncOp : Bool) : Py (List Event) (Option Work) := do
  let tensor ← checkSingleTensor tensor "tensor"
  if rankNotInGroup group then pure none
  else do
    Py.raiseIf (tensor.isComplex ∧ !supportsComplex op) (complexUnsupported op)
    let pg ← groupOrDefault s group
    let work ← issue pg (.allreduce [tensor.asReal] op)
    finish asyncOp work

/-- `all_reduce_coalesced(tensors, op, group, async_op)`. -/
def allReduceCoalesced (s : State) (tensors : Obj) (op : ReduceOp) (group : Option Handle)
    (asyncOp : Bool) : Py (List Event) (Option Work) := do
  let tensors ← checkTensorList tensors "tensor"
  if rankNotInGroup group then pure none
  else do
    Py.raiseIf (tensors.any Tensor.isComplex ∧ !supportsComplex op) (complexUnsupported op)
    let pg ← groupOrDefault s group
    let work ← issue pg (.allreduceCoalesced (tensors.map Tensor.asReal) op)
    finish asyncOp work

/-- `reduce(tensor, dst, op, group, async_op)`: an all-reduce into a clone, copied back
    on the destination. -/
def reduce (s : State) (tensor : Obj) (dst : Int) (op : ReduceOp) (group : Option Handle)
    (asyncOp : Bool) : Py (List Event) (Option Work) := do
  Py.raiseIf (asyncOp = true)
    (.runtime ("Reduce implemented by all_reduce: " ++ "not support async"))
  let tensor ← checkSingleTensor tensor "tensor"
  if rankNotInGroup group then pure none
  else do
    let (pg, groupDstRank, currentRank) ← match subgroup s group with
      | none => do
        let defaultPg ← getDefaultGroup s
        let currentRank ← getRank s none
        pure (defaultPg, dst, currentRank)
      | some g => do
        let groupDstRank ← getGroupRank s g dst
        let currentRank ← getRank s (some g)
        pure (g, groupDstRank, currentRank)
    let tensorTmp := Tensor.clone tensor
    let work ← issue pg (.allreduce [tensorTmp] op)
    if asyncOp then pure (some work)
    else do
      waitOn work
      if currentRank = groupDstRank then modify (· ++ [.copy tensor tensorTmp])
      pure none

/-- `all_gather(tensor_list, tensor, group, async_op)`. -/
def allGather (s : State) (tensorList tensor : Obj) (group : Option Handle) (asyncOp : Bool) :
    Py (List Event) (Option Work) := do
  let tensorList ← checkTensorList tensorList "tensor_list"
  let tensor ← checkSingleTensor tensor "tensor"
  if rankNotInGroup group then pure none
  else do
    let pg ← groupOrDefault s group
    let work ← issue pg (.allgather [tensorList.map Tensor.asReal] [tensor.asReal])
    finish asyncOp work

/-- `all_gather_coalesced(output_tensor_lists, input_tensor_list, group, async_op)`. -/
def allGatherCoalesced (s : State) (outputTensorLists inputTensorList : Obj)
    (group : Option Handle) (asyncOp : Bool) : Py (List Event) (Option Work) := do
  if rankNotInGroup group then pure none
  else do
    let inputTensorList ← checkTensorList inputTensorList "tensor_list"
    let outputTensorLists ← match outputTensorLists with
      | .list ls => ls.mapM (checkTensorList · "output_tensor_lists")
      | _ => throw (.runtime ("Invalid function argument: " ++
          "output_tensor_lists should be a list"))
    let pg ← groupOrDefault s group
    let work ← issue pg (.allgatherCoalesced (outputTensorLists.map (·.map Tensor.asReal))
      (inputTensorList.map Tensor.asReal))
    finish asyncOp work

/-- `_validate_output_list_for_rank(my_rank, dst, gather_list)`. -/
def validateOutputListForRank (myRank dst : Int) (gatherList : List Tensor) :
    Except Error Unit :=
  if dst = myRank then
    if gatherList.isEmpty then
      .error (.value "Argument ``gather_list`` must be specified on destination rank.")
    else .ok ()
  else if !gatherList.isEmpty then
    .error (.value ("Argument ``gather_list`` must NOT be specified " ++
      "on non-destination ranks."))
  else .ok ()

/-- `gather(tensor, gather_list, dst, group, async_op)`: `dst` is a global rank, compared
    with the caller's. -/
def gather (s : State) (tensor gatherList : Obj) (dst : Int) (group : Option Handle)
    (asyncOp : Bool) : Py (List Event) (Option Work) := do
  let tensor ← checkSingleTensor tensor "tensor"
  -- `gather_list` may be left unspecified on ranks other than `dst`.
  let gatherList ← if gatherList.truthy then checkTensorList gatherList "gather_list" else pure []
  if rankNotInGroup group then pure none
  else do
    let myRank ← getRank s none
    validateOutputListForRank myRank dst gatherList
    let outputTensors := if dst = myRank then [gatherList] else []
    let work ← match subgroup s group with
      | none => do
        let defaultPg ← getDefaultGroup s
        issue defaultPg (.gather outputTensors [tensor] dst)
      | some g => do
        let groupDstRank ← getGroupRank s g dst
        issue g (.gather outputTensors [tensor] groupDstRank)
    finish asyncOp work

/-- `scatter(tensor, scatter_list, src, group, async_op)`: `src` is a global rank, compared
    with the caller's. -/
def scatter (s : State) (tensor scatterList : Obj) (src : Int) (group : Option Handle)
    (asyncOp : Bool) : Py (List Event) (Option Work) := do
  let tensor ← checkSingleTensor tensor "tensor"
  -- `scatter_list` may be left unspecified on ranks other than `src`.
  let scatterList ← if scatterList.truthy then checkTensorList scatterList "scatter_list"
    else pure []
  if rankNotInGroup group then pure none
  else do
    let myRank ← getRank s none
    let inputTensors ← if src = myRank then
        if scatterList.isEmpty then
          throw (.value ("Argument ``scatter_list`` must be specified " ++ "on source rank."))
        else pure [scatterList]
      else if !scatterList.isEmpty then
        throw (.value ("Argument ``scatter_list`` must NOT be specified " ++
          "on non-source ranks."))
      else pure []
    let work ← match subgroup s group with
      | none => do
        let defaultPg ← getDefaultGroup s
        issue defaultPg (.scatter [tensor] inputTensors src)
      | some g => do
        let groupSrcRank ← getGroupRank s g src
        issue g (.scatter [tensor] inputTensors groupSrcRank)
    finish asyncOp work

/-- `reduce_scatter(output, input_list, op, group, async_op)`. -/
def reduceScatter (s : State) (output inputList : Obj) (op : ReduceOp) (group : Option Handle)
    (asyncOp : Bool) : Py (List Event) (Option Work) := do
  let output ← checkSingleTensor output "output"
  let inputList ← checkTensorList inputList "input_list"
  if rankNotInGroup group then pure none
  else do
    let pg ← groupOrDefault s group
    let work ← issue pg (.reduceScatter [output] [inputList] op)
    finish asyncOp work

/-- `all_to_all_single(output, input, output_split_sizes, input_split_sizes, group,
    async_op)`. -/
def allToAllSingle (s : State) (outputTensor inputTensor : Obj)
    (outputSplitSizes inputSplitSizes : Option (List Int)) (group : Option Handle)
    (asyncOp : Bool) : Py (List Event) (Option Work) := do
  if rankNotInGroup group then pure none
  else do
    let output ← checkSingleTensor outputTensor "output"
    let input ← checkSingleTensor inputTensor "input"
    let pg ← groupOrDefault s group
    let work ← issue pg (.alltoallBase output input (outputSplitSizes.getD [])
      (inputSplitSizes.getD []))
    finish asyncOp work

/-- `all_to_all(output_tensor_list, input_tensor_list, group, async_op)`. -/
def allToAll (s : State) (outputTensorList inputTensorList : Obj) (group : Option Handle)
    (asyncOp : Bool) : Py (List Event) (Option Work) := do
  if rankNotInGroup group then pure none
  else do
    let outputTensorList ← checkTensorList outputTensorList "output_tensor_list"
    let inputTensorList ← checkTensorList inputTensorList "input_tensor_list"
    let pg ← groupOrDefault s group
    let work ← issue pg (.alltoall outputTensorList inputTensorList)
    finish asyncOp work

/-- The `device_ids` argument of `barrier`: `None`, a list, or something else. -/
inductive DeviceIds where
  | none
  | list (ids : List Int)
  | other

/-- `barrier(group, async_op, device_ids)`, with `Backend.NCCL` read from `cls`. -/
def barrier (cls : BackendClass) (s : State) (group : Option Handle) (asyncOp : Bool)
    (deviceIds : DeviceIds) : Py (List Event) (Option Work) := do
  if rankNotInGroup group then pure none
  else do
    let ids ← match deviceIds with
      | .none => pure []
      | deviceIds => do
        let backend ← getBackend s group
        if backend ≠ cls.attr .nccl then
          throw (.runtime ("Function argument device_ids not supported " ++
            "for the selected backend " ++ backend.format))
        match deviceIds with
        | .list ids => pure ids
        | _ => throw (.runtime ("Invalid function argument: " ++
            "device_ids type should be List[int]"))
    let pg ← groupOrDefault s group
    let work ← issue pg (.barrier ids)
    finish asyncOp work

/-- The two functions a `P2POp` may carry. -/
inductive P2PFn where
  | isend
  | irecv
  deriving DecidableEq, Repr

/-- What is passed as a `P2POp`'s `op`: `isend`, `irecv` or any other value. -/
inductive Callable where
  | isend
  | irecv
  | other

/-- A `P2POp`. Its constructor has checked the function and the tensor, so only a valid
    one can be built. -/
structure P2POp where
  op : P2PFn
  tensor : Tensor
  peer : Int
  group : Option Handle
  tag : Int

/-- `_check_op(op)`. -/
def checkOp : Callable → Except Error P2PFn
  | .isend => .ok .isend
  | .irecv => .ok .irecv
  | .other => .error (.runtime ("Invalid ``op``. Expected ``op`` " ++
      "to be of type ``torch.distributed.isend`` or " ++ "``torch.distributed.irecv``."))

/-- `P2POp(op, tensor, peer, group, tag)`. -/
def P2POp.new (op : Callable) (tensor : Obj) (peer : Int) (group : Option Handle) (tag : Int) :
    Except Error P2POp := do
  let op ← checkOp op
  let tensor ← checkSingleTensor tensor "tensor"
  pure ⟨op, tensor, peer, group, tag⟩

/-- `op(tensor, peer, group, tag)`. -/
def P2POp.call (s : State) (p : P2POp) : Py (List Event) (Option Work) :=
  match p.op with
  | .isend => isend s (.tensor p.tensor) p.peer p.group p.tag
  | .irecv => irecv s (.tensor p.tensor) (some p.peer) p.group p.tag

/-- An element of `batch_isend_irecv`'s argument: a `P2POp` or any other value. -/
inductive P2PItem where
  | op (p : P2POp)
  | other

/-- The argument of `batch_isend_irecv`: a list, or any other value. -/
inductive OpList where
  | list (items : List P2PItem)
  | other

/-- The `P2POp` an item is, if it is one. -/
def P2PItem.op? : P2PItem → Option P2POp
  | .op p => some p
  | .other => none

/-- The message of `_check_p2p_op_list` for anything but a list of `P2POp`s. -/
def invalidOpList : Error :=
  .runtime ("Invalid ``p2p_op_list``. Each op is expected to " ++
    "to be of type ``torch.distributed.P2POp``.")

/-- `p2p_op_list[0]`. -/
def firstOp : List P2POp → Except Error P2POp
  | p :: _ => .ok p
  | [] => .error .index

/-- `all(backend == get_backend(p2p_op.group) for p2p_op in p2p_op_list)`, raising as
    soon as a group's backend differs. -/
def sameBackend (s : State) (backend : Attr) : List P2POp → Except Error Unit
  | [] => .ok ()
  | p :: rest => do
    let b ← getBackend s p.group
    if backend = b then sameBackend s backend rest
    else throw (.runtime "All groups need to use the same backend.")

/-- `_check_p2p_op_list(p2p_op_list)`: a list of `P2POp`s, all on one backend. -/
def checkP2pOpList (s : State) : OpList → Except Error (List P2POp)
  | .other => .error invalidOpList
  | .list items => match items.mapM P2PItem.op? with
    | none => .error invalidOpList
    | some ops => do
      let backend ← getBackend s (← firstOp ops).group
      sameBackend s backend ops
      pure ops

/-- `_batch_p2p_manager(backend)` around `body`: when `backend == Backend.NCCL`, read as
    the class binds it now, `_group_start()` before and `_group_end()` after, in a
    `finally`, so it runs whether or not the body raises. -/
def batchP2pManager {α : Type} (cls : BackendClass) (backend : Attr)
    (body : Py (List Event) α) : Py (List Event) α := fun log =>
  let log := if backend = cls.attr .nccl then log ++ [.groupStart] else log
  let o := body log
  ⟨if backend = cls.attr .nccl then o.state ++ [.groupEnd] else o.state, o.result⟩

/-- The loop of `batch_isend_irecv`: each op's function in order, keeping the results
    that are not `None`. -/
def batchLoop (s : State) : List Work → List P2POp → Py (List Event) (List Work)
  | reqs, [] => pure reqs
  | reqs, p :: rest => do
    let ret ← p.call s
    batchLoop s (match ret with | some w => reqs ++ [w] | none => reqs) rest

/-- `batch_isend_irecv(p2p_op_list)`, with the `Backend` class as it is bound when it runs. -/
def batchIsendIrecv (cls : BackendClass) (s : State) (p2pOpList : OpList) :
    Py (List Event) (List Work) := do
  let ops ← checkP2pOpList s p2pOpList
  let backend ← getBackend s (← firstOp ops).group
  batchP2pManager cls backend (batchLoop s [] ops)

/-- A dispatcher call but the batch, with every argument but the group. -/
inductive Op where
  | isend (tensor : Obj) (dst tag : Int)
  | irecv (tensor : Obj) (src : Option Int) (tag : Int)
  | send (tensor : Obj) (dst tag : Int)
  | recv (tensor : Obj) (src : Option Int) (tag : Int)
  | broadcast (tensor : Obj) (src : Int) (asyncOp : Bool)
  | allReduce (tensor : Obj) (op : ReduceOp) (asyncOp : Bool)
  | allReduceCoalesced (tensors : Obj) (op : ReduceOp) (asyncOp : Bool)
  | reduce (tensor : Obj) (dst : Int) (op : ReduceOp) (asyncOp : Bool)
  | allGather (tensorList tensor : Obj) (asyncOp : Bool)
  | allGatherCoalesced (outputTensorLists inputTensorList : Obj) (asyncOp : Bool)
  | gather (tensor gatherList : Obj) (dst : Int) (asyncOp : Bool)
  | scatter (tensor scatterList : Obj) (src : Int) (asyncOp : Bool)
  | reduceScatter (output inputList : Obj) (op : ReduceOp) (asyncOp : Bool)
  | allToAllSingle (output input : Obj) (outputSplitSizes inputSplitSizes : Option (List Int))
      (asyncOp : Bool)
  | allToAll (outputTensorList inputTensorList : Obj) (asyncOp : Bool)
  | barrier (asyncOp : Bool) (deviceIds : DeviceIds)

/-- What a call returns: `None`, a work handle, or a rank. -/
inductive Ret where
  | none
  | work (w : Work)
  | rank (r : Int)
  deriving DecidableEq, Repr

/-- A call returning `None` or a work handle. -/
def Ret.ofWork : Option Work → Ret
  | some w => .work w
  | Option.none => .none

/-- What a call returns to a process outside the group: `-1` from `recv`, `None` from the
    others. -/
def Op.neutral : Op → Ret
  | .recv .. => .rank (-1)
  | _ => .none

/-- The call `op` with the group `group`. -/
def runOp (net : Net) (s : State) (group : Option Handle) : Op → Py (List Event) Ret
  | .isend t dst tag => Ret.ofWork <$> isend s t dst group tag
  | .irecv t src tag => Ret.ofWork <$> irecv s t src group tag
  | .send t dst tag => (fun _ => Ret.none) <$> send s t dst group tag
  | .recv t src tag => Ret.rank <$> recv net s t src group tag
  | .broadcast t src a => Ret.ofWork <$> broadcast s t src group a
  | .allReduce t op a => Ret.ofWork <$> allReduce s t op group a
  | .allReduceCoalesced ts op a => Ret.ofWork <$> allReduceCoalesced s ts op group a
  | .reduce t dst op a => Ret.ofWork <$> reduce s t dst op group a
  | .allGather tl t a => Ret.ofWork <$> allGather s tl t group a
  | .allGatherCoalesced o i a => Ret.ofWork <$> allGatherCoalesced s o i group a
  | .gather t gl dst a => Ret.ofWork <$> gather s t gl dst group a
  | .scatter t sl src a => Ret.ofWork <$> scatter s t sl src group a
  | .reduceScatter o il op a => Ret.ofWork <$> reduceScatter s o il op group a
  | .allToAllSingle o i os is a => Ret.ofWork <$> allToAllSingle s o i os is group a
  | .allToAll o i a => Ret.ofWork <$> allToAll s o i group a
  | .barrier a d => Ret.ofWork <$> barrier net.backendClass s group a d

end DistributedC10d
