import Mathlib.Data.List.Sort
import DistributedC10d.Core.State

/-!
# Group Lifecycle

`init_process_group`, `new_group`, `_new_process_group_helper` and
`destroy_process_group`: the functions that write the module's globals.

Each is a `Py State` call, so a raise keeps whatever was written before it. The
helper is where this matters: it names an unnamed group `str(_group_count)` and
advances the counter first, and only then checks the name for a duplicate, the
timeout's type and the backend. A process outside the new group returns the
`NON_GROUP_MEMBER` sentinel from the middle of the helper, having advanced the
counter like everyone else, and `new_group` then records a rank map under that
sentinel.

What the module calls into is taken from outside. `Env` is what the process runs in:
which backends the build has, the `Backend` class with its registrations, the MPI
runtime's rank and size, and what the rendezvous yields. `Ext` is what the world
answers during one call: the identity of an object the transport builds, whether
its constructor raises, and whether the store-based barrier times out.
`ProcessGroupMPI.create` is the MPI runtime's, not this module's: a communicator over
`ranks`, or over `MPI_COMM_WORLD` for `[]`, from which a process outside `ranks` gets
nothing back.

A creation ends in a barrier, so that no rank uses the group before every rank has
built it. `initProcessGroupSetup` and `newGroupSetup` are the calls up to that
barrier; they return the `Sync` that says which barrier follows, which is where the
cluster model of the store-based barrier takes over. Run alone, a process meets the
barrier's outcome as `Ext` reports it.

## Main definitions

* `Env`, `Ext`: The process's environment, and the world's answers during a call.
* `nameGroup`: The helper's naming of an unnamed group.
* `constructBackend`: The constructors a non-MPI group is built with.
* `isMember`: The helper's membership test for a subgroup.
* `mpiGroup`, `storeGroup`: The helper's two branches.
* `newProcessGroupHelper`: `_new_process_group_helper`.
* `storeKey`, `storeBasedBarrier`: The barrier's key, and `_store_based_barrier`.
* `initArgs`, `groupArgs`: What the two creations check and settle before the helper.
* `initProcessGroup`, `newGroup`, `destroyProcessGroup`: The public calls.
-/

namespace DistributedC10d

/-- What a process runs in. -/
structure Env where
  /-- `_MPI_AVAILABLE`: whether the build could import `ProcessGroupMPI`. -/
  mpiAvailable : Bool
  /-- `_NCCL_AVAILABLE`. -/
  ncclAvailable : Bool
  /-- `_GLOO_AVAILABLE`. -/
  glooAvailable : Bool
  /-- `_HCCL_AVAILABLE`. -/
  hcclAvailable : Bool
  /-- The `Backend` class, with whatever `register_backend` has added. -/
  backendClass : BackendClass
  /-- This process's rank in `MPI_COMM_WORLD`. -/
  mpiRank : Int
  /-- The size of `MPI_COMM_WORLD`. -/
  mpiSize : Int
  /-- `next(rendezvous(init_method, rank, world_size))`: a store, a rank, a world size. -/
  rendezvous : String → Int → Int → Store × Int × Int

/-- What the world outside answers during one lifecycle call. -/
structure Ext where
  /-- The identity the transport gives an object it builds in this call. -/
  fresh : Nat
  /-- The backend's constructor raises instead of returning. -/
  ctorRaises : Bool
  /-- The store-based barrier times out, last having seen this many arrivals. -/
  barrierTimeout : Option Int

/-- The message of `_new_process_group_helper` for a name already in `_pg_names`. -/
def duplicateGroupName : Error :=
  .runtime "The specified group name has already been created, please use a different group name"

/-- `sorted(ranks)`. -/
def sortRanks (ranks : List Int) : List Int := ranks.insertionSort (· ≤ ·)

/-- `list(range(n))`. -/
def worldRanks (n : Int) : List Int := (List.range n.toNat).map Int.ofNat

/-- `{global_rank: group_rank for group_rank, global_rank in enumerate(ranks)}`. Over
    `range(n)` this sets each `i` to itself in order, as `init_process_group`'s
    `{i: i for i in range(n)}` does. -/
def rankMap (ranks : List Int) : PyDict Int Int :=
  ranks.enum.foldl (fun d e => d.set e.2 e.1) .empty

/-- The first lines of `_new_process_group_helper`: a group given no name is named
    `str(_group_count)`, and the counter moves on. -/
def nameGroup (groupName : String) : Py State String := do
  if groupName = "" then
    let s ← get
    set { s with groupCount := s.groupCount + 1 }
    pure (toString s.groupCount)
  else
    pure groupName

/-- `_pg_map[pg] = record` and `_pg_names[pg] = group_name`. -/
def register (pg : Handle) (record : Attr × Option Store) (groupName : String) :
    Py State Unit :=
  modify fun s => { s with pgMap := s.pgMap.set pg record, pgNames := s.pgNames.set pg groupName }

/-- A backend's constructor, `ProcessGroupGloo(prefix_store, rank, world_size, ...)` and
    its siblings: the binding wants an integer rank and raises `TypeError` for `None`;
    whether it raises otherwise is the world's answer. The object is built on the spot.
    That is how `ProcessGroupNCCL` is built, which connects at its first collective;
    `ProcessGroupGloo` connects to every rank of the group through the prefix store
    before it returns, which is not modelled, so it may wait here for a group rank no
    process takes, or fail on a prefix an earlier world's ranks wrote, where this
    returns. -/
def construct (ext : Ext) (rank : Option Int) (worldSize : Int) : Except Error Handle :=
  match rank with
  | none => .error .type
  | some r => if ext.ctorRaises then .error .transport else .ok (.pg ext.fresh r worldSize)

/-- The branches of `_new_process_group_helper` that build a non-MPI group: a backend
    equal to `Backend.GLOO`, `NCCL` or `HCCL` as bound now gets the built-in constructor,
    once the build is checked for it, and any other is called as
    `getattr(Backend, backend.upper())(prefix_store, rank, world_size, timeout)`. -/
def constructBackend (env : Env) (ext : Ext) (backend : Attr) (rank : Option Int)
    (worldSize : Int) : Except Error Handle :=
  if backend = env.backendClass.attr .gloo then
    -- Without Gloo the name `ProcessGroupGloo` was never imported.
    if env.glooAvailable then construct ext rank worldSize else .error .name
  else if backend = env.backendClass.attr .nccl then
    if env.ncclAvailable then construct ext rank worldSize
    else .error (.runtime "Distributed package doesn't have NCCL built in")
  else if backend = env.backendClass.attr .hccl then
    if env.hcclAvailable then construct ext rank worldSize
    else .error (.runtime "Distributed package doesn't have HCCL built in")
  else match backend with
    | .str backend => match env.backendClass.getattr (upper backend) with
      | some (.factory _) => construct ext rank worldSize
      -- A string constant is not callable.
      | some (.str _) => .error .type
      | none => .error .attribute
    -- A factory has no `upper()`.
    | .factory _ => .error .attribute

/-- `ProcessGroupMPI.create(group_ranks)`, as the MPI runtime answers it. -/
def processGroupMPICreate (env : Env) (ext : Ext) (groupRanks : List Int) :
    Except Error (Option Handle) :=
  if ext.ctorRaises then .error .transport
  else if groupRanks = [] then .ok (some (.pg ext.fresh env.mpiRank env.mpiSize))
  else if env.mpiRank ∈ groupRanks then
    .ok (some (.pg ext.fresh (groupRanks.indexOf env.mpiRank) groupRanks.length))
  else .ok none

/-- The helper's branch for MPI: `ProcessGroupMPI.create` decides membership, and the
    group has no store. -/
def mpiGroup (env : Env) (ext : Ext) (groupRanks : List Int) (groupName : String) :
    Py State Handle := do
  Py.raiseIf (env.mpiAvailable = false)
    (.runtime ("Distributed package doesn't have MPI built in." ++
      " MPI is only included if you build PyTorch from" ++
      " source on a host that has MPI installed."))
  match ← processGroupMPICreate env ext groupRanks with
  | none => pure .nonGroupMember
  | some pg => do
    register pg (env.backendClass.attr .mpi, none) groupName
    pure pg

/-- The helper's membership test: the default group has no test, and a subgroup has the
    caller's global rank, `_get_default_group().rank()`, in `group_ranks`. -/
def isMember (s : State) (groupRanks : List Int) : Except Error Bool :=
  -- The list of group ranks is empty if we're creating the default group.
  if groupRanks.length = 0 then .ok true
  else do
    let globalRank ← (← getDefaultGroup s).rank
    pure (decide (globalRank ∈ groupRanks))

/-- The helper's branch for the other backends: a subgroup checks membership before
    anything is built over the shared store. -/
def storeGroup (env : Env) (ext : Ext) (worldSize : Int) (rank : Option Int)
    (groupRanks : List Int) (backend : Attr) (store : Option Store) (groupName : String) :
    Py State Handle := do
  let isMember ← isMember (← get) groupRanks
  if !isMember then pure .nonGroupMember
  else do
    -- `PrefixStore(group_name, store)` does not take `None`.
    Py.raiseIf (store = none) .type
    let pg ← constructBackend env ext backend rank worldSize
    register pg (backend, store) groupName
    pure pg

/-- `_new_process_group_helper(world_size, rank, group_ranks, backend, store, group_name,
    timeout)`. -/
def newProcessGroupHelper (env : Env) (ext : Ext) (worldSize : Int) (rank : Option Int)
    (groupRanks : List Int) (backend : Attr) (store : Option Store) (groupName : String)
    (timeout : Timeout) : Py State Handle := do
  let groupName ← nameGroup groupName
  Py.raiseIf (groupName ∈ (← get).pgNames.values) duplicateGroupName
  Py.raiseIf (timeout.isTimedelta = false)
    (.runtime "Expected timeout argument to be of type datetime.timedelta")
  let backend ← Backend.new env.backendClass backend
  if backend = env.backendClass.attr .mpi then mpiGroup env ext groupRanks groupName
  else storeGroup env ext worldSize rank groupRanks backend store groupName

/-- `"{}:{}".format(STORE_BASED_BARRIER_PREFIX, _group_count)`. -/
def storeKey (groupCount : Nat) : String := "store_based_barrier_key" ++ ":" ++ toString groupCount

/-- The barrier a creation ends with. MPI has no store and uses the transport's own
    `barrier()`; the others wait in `_store_based_barrier(rank, store, timeout)`. -/
inductive Sync where
  | mpi
  | store (rank : Int) (store : Option Store)

/-- `_store_based_barrier(rank, store, timeout)`, for a process run alone: how long the
    wait lasts is up to the other ranks, and `Ext` says whether it timed out. -/
def storeBasedBarrier (ext : Ext) (rank : Int) (store : Option Store) (timeout : Timeout) :
    Py State Unit := do
  let s ← get
  let key := storeKey s.groupCount
  -- `store.add(store_key, 1)` on `None`.
  Py.raiseIf (store = none) .attribute
  let worldSize ← getWorldSize s none
  match ext.barrierTimeout with
  | none => pure ()
  | some workerCount =>
    throw (.runtime ("Timed out initializing process group in store based barrier on " ++
      "rank: " ++ toString rank ++ ", for key: " ++ key ++ " (world_size=" ++
      toString worldSize ++ ", worker_count=" ++ toString workerCount ++ ", timeout=" ++
      timeout.str ++ ")"))

/-- The barrier at the end of a creation. The transport's `barrier()` changes no global. -/
def closeBarrier (ext : Ext) (timeout : Timeout) : Sync → Py State Unit
  | .mpi => pure ()
  | .store rank store => storeBasedBarrier ext rank store timeout

/-- What `init_process_group` settles before it calls the helper: the backend, parsed;
    the world size, rank and store the default group is built with, which for MPI are
    `-1`, `-1` and none, the runtime deciding; and the init method it records. -/
structure InitArgs where
  backend : Attr
  worldSize : Int
  rank : Int
  store : Option Store
  initMethod : Option String

/-- The checks `init_process_group` makes, in order, and what it settles before the
    helper. -/
def initArgs (env : Env) (s : State) (backend : String) (initMethod : Option String)
    (timeout : Timeout) (worldSize rank : Int) (store : Option Store) :
    Except Error InitArgs :=
  if timeout.isTimedelta = false then
    .error (.runtime ("Expected timeout argument to be of type" ++ "datetime.timedelta"))
  else if s.world.isSome then
    .error (.runtime ("trying to initialize the default process group " ++ "twice!"))
  else if store.isSome ∧ initMethod.isSome then
    .error (.assertion "Cannot specify both init_method and store.")
  else if store.isSome ∧ ¬ worldSize > 0 then
    .error (.assertion "world_size must be positive if using store")
  else if store.isSome ∧ ¬ rank ≥ 0 then
    .error (.assertion "rank must be non-negative if using store")
  else do
    let initMethod := if store.isNone && initMethod.isNone then some "env://" else initMethod
    let backend ← Backend.new env.backendClass (.str backend)
    if backend = env.backendClass.attr .mpi then
      pure ⟨env.backendClass.attr .mpi, -1, -1, none, initMethod⟩
    else
      -- Without a store, the rendezvous supplies it, with the rank and world size.
      let (store, rank, worldSize) := match store with
        | some st => (st, rank, worldSize)
        | none => env.rendezvous (initMethod.getD "") rank worldSize
      pure ⟨backend, worldSize, rank, some store, initMethod⟩

/-- The barrier that ends `init_process_group`: `if backend == Backend.MPI`, read when the
    barrier is chosen. -/
def InitArgs.sync (a : InitArgs) (cls : BackendClass) : Sync :=
  if a.backend = cls.attr .mpi then .mpi else .store a.rank a.store

/-- `init_process_group(backend, init_method, timeout, world_size, rank, store,
    group_name)` up to its closing barrier. -/
def initProcessGroupSetup (env : Env) (ext : Ext) (backend : String)
    (initMethod : Option String) (timeout : Timeout) (worldSize rank : Int)
    (store : Option Store) (groupName : String) : Py State Sync := do
  let a ← initArgs env (← get) backend initMethod timeout worldSize rank store
  let pg ← newProcessGroupHelper env ext a.worldSize (some a.rank) [] a.backend a.store
    groupName timeout
  modify (updateDefaultPg · (some pg))
  -- `GroupMember.WORLD` is `pg` from here on.
  let size ← pg.size
  modify fun s => { s with pgGroupRanks := s.pgGroupRanks.set pg (rankMap (worldRanks size)) }
  let record ← (← get).pgMap.getItem pg
  modify fun s => { s with backend := record.1 }
  modify fun s => { s with defaultPgInitMethod := a.initMethod }
  pure (a.sync env.backendClass)

/-- `init_process_group(...)`. -/
def initProcessGroup (env : Env) (ext : Ext) (backend : String) (initMethod : Option String)
    (timeout : Timeout) (worldSize rank : Int) (store : Option Store) (groupName : String) :
    Py State Unit := do
  let sync ← initProcessGroupSetup env ext backend initMethod timeout worldSize rank store
    groupName
  closeBarrier ext timeout sync

/-- The checks `new_group` makes of `ranks`, and what it takes from them: the list,
    sorted, the group's size, and this process's place in the list. -/
def checkRanks (ranks : Option (List Int)) (globalRank globalWorldSize : Int) :
    Except Error (List Int × Int × Option Int) :=
  match ranks with
  | none => .ok (worldRanks globalWorldSize, globalWorldSize, some globalRank)
  | some ranks =>
    let ranks := sortRanks ranks
    if (ranks.length : Int) > globalWorldSize then
      .error (.runtime ("the new group's world size should be less or " ++
        "equal to the world size set by " ++ "init_process_group"))
    else if ranks.any (fun r => r < 0 || r ≥ globalWorldSize) then
      .error (.runtime ("The new group's rank should be within the " ++
        "the world_size set by init_process_group"))
    else
      .ok (ranks, ranks.length,
        if globalRank ∈ ranks then some (ranks.indexOf globalRank : Int) else none)

/-- What `new_group` works out before it calls the helper: the ranks, sorted; the
    group's size and the caller's place in it; the backend, parsed; the default store;
    and the caller's global rank. -/
structure GroupArgs where
  ranks : List Int
  worldSize : Int
  rank : Option Int
  backend : Attr
  store : Option Store
  globalRank : Int

/-- `if not backend: backend = default_backend`: `None` and `""` take the default. -/
def backendOrDefault (backend : Option String) (default : Attr) : Attr :=
  match backend with
  | some b => if b = "" then default else .str b
  | none => default

/-- The part of `new_group` before the helper: it reads the default group and checks
    the arguments. -/
def groupArgs (env : Env) (s : State) (ranks : Option (List Int)) (backend : Option String) :
    Except Error GroupArgs := do
  let defaultPg ← getDefaultGroup s
  let (defaultBackend, defaultStore) ← s.pgMap.getItem defaultPg
  let globalRank ← defaultPg.rank
  let globalWorldSize ← defaultPg.size
  -- Default to the same backend as the global process group.
  let backend := backendOrDefault backend defaultBackend
  let (ranks, groupWorldSize, groupRank) ← checkRanks ranks globalRank globalWorldSize
  let backend ← Backend.new env.backendClass backend
  pure ⟨ranks, groupWorldSize, groupRank, backend, defaultStore, globalRank⟩

/-- The barrier that ends `new_group`: `if backend == Backend.MPI`, read when the barrier
    is chosen. -/
def GroupArgs.sync (a : GroupArgs) (cls : BackendClass) : Sync :=
  if a.backend = cls.attr .mpi then .mpi else .store a.globalRank a.store

/-- `new_group(ranks, timeout, backend)` up to its closing barrier: the new handle, and
    the barrier that follows. -/
def newGroupSetup (env : Env) (ext : Ext) (ranks : Option (List Int)) (timeout : Timeout)
    (backend : Option String) : Py State (Handle × Sync) := do
  let a ← groupArgs env (← get) ranks backend
  let pg ← newProcessGroupHelper env ext a.worldSize a.rank a.ranks a.backend a.store ""
    timeout
  -- Create the global rank to group rank mapping.
  modify fun s => { s with pgGroupRanks := s.pgGroupRanks.set pg (rankMap a.ranks) }
  pure (pg, a.sync env.backendClass)

/-- `new_group(ranks, timeout, backend)`. -/
def newGroup (env : Env) (ext : Ext) (ranks : Option (List Int)) (timeout : Timeout)
    (backend : Option String) : Py State Handle := do
  let (pg, sync) ← newGroupSetup env ext ranks timeout backend
  closeBarrier ext timeout sync
  pure pg

/-- The group `destroy_process_group(group)` acts on: `GroupMember.WORLD` for `None`. -/
def destroyTarget (s : State) : Option Handle → Option Handle
  | none => s.world
  | some g => some g

/-- `destroy_process_group(group)`. -/
def destroyProcessGroup (group : Option Handle) : Py State Unit := do
  if group = some .nonGroupMember then pure ()
  else
    let s ← get
    match destroyTarget s group with
    | none => throw (.assertion "")
    | some pg =>
      Py.raiseIf (s.pgMap.get? pg = none) (.runtime "Invalid process group specified")
      if group = none ∨ group = s.world then
        set { s with world := none, defaultPgInitMethod := none, pgMap := PyDict.empty,
                     pgNames := PyDict.empty, pgGroupRanks := PyDict.empty, groupCount := 0 }
      else
        let pgMap ← s.pgMap.delItem pg
        set { s with pgMap := pgMap }
        let pgNames ← s.pgNames.delItem pg
        modify fun s => { s with pgNames := pgNames }
        let pgGroupRanks ← s.pgGroupRanks.delItem pg
        modify fun s => { s with pgGroupRanks := pgGroupRanks }

end DistributedC10d
