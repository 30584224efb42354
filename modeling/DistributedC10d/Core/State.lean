import DistributedC10d.Core.Dict
import DistributedC10d.Core.Backend

/-!
# Module State

The globals of `distributed_c10d.py`, and the functions that only read them.

A process group is an object the transport builds; the module keys its registries by
the object itself, so what tells two groups apart is identity. `Handle` is such an
object, or the `NON_GROUP_MEMBER` sentinel that `new_group` hands a process outside the
group it creates. An object answers `rank()` and `size()` with what it was built with.

`State` holds exactly the module's globals: `GroupMember.WORLD` (which
`_update_default_pg` keeps equal to `Group.WORLD`), the three registries `_pg_map`,
`_pg_names` and `_pg_group_ranks`, `_default_pg_init_method`, `_group_count` and
`_backend`. The objects themselves, and the identities handed out for them, belong to
the process and are tracked with the run, not here.

The queries follow the source line by line, including the order of their checks, since
the order decides which exception a bad argument meets first. `get_rank` and
`get_world_size` answer `-1` for the sentinel before looking at anything else.

## Main definitions

* `Handle`: A process group object, or the `NON_GROUP_MEMBER` sentinel.
* `State`: The module's globals.
* `State.initial`: The globals as the module is imported.
* `getDefaultGroup`, `getGroupRank`, `getGlobalRank`, `getGroupSize`: The helpers.
* `getRank`, `getWorldSize`, `getBackend`: The public queries.
-/

namespace DistributedC10d

/-- A key-value store, told apart by identity. -/
structure Store where
  id : Nat
  deriving DecidableEq, Repr

/-- A process group handle: the `NON_GROUP_MEMBER` sentinel, or an object the transport
    built, with its identity and the rank and size it was built with. -/
inductive Handle where
  | nonGroupMember
  | pg (id : Nat) (rank size : Int)
  deriving DecidableEq, Repr

namespace Handle

/-- `pg.rank()`; the sentinel is a bare `object()`, with no such method. -/
def rank : Handle → Except Error Int
  | pg _ r _ => .ok r
  | nonGroupMember => .error .attribute

/-- `pg.size()`. -/
def size : Handle → Except Error Int
  | pg _ _ n => .ok n
  | nonGroupMember => .error .attribute

@[simp] theorem rank_pg (i : Nat) (r n : Int) : (pg i r n).rank = .ok r := rfl

@[simp] theorem size_pg (i : Nat) (r n : Int) : (pg i r n).size = .ok n := rfl

@[simp] theorem rank_nonGroupMember : nonGroupMember.rank = .error .attribute := rfl

@[simp] theorem size_nonGroupMember : nonGroupMember.size = .error .attribute := rfl

/-- Whether this is an object with identity below `n`: one built before the `n`-th. -/
def builtBefore (n : Nat) : Handle → Prop
  | pg i _ _ => i < n
  | nonGroupMember => False

end Handle

/-- A `timeout` argument: a `timedelta` of some seconds, or a value of another type. -/
inductive Timeout where
  | timedelta (seconds : Nat)
  | other
  deriving DecidableEq, Repr

/-- `isinstance(timeout, timedelta)`. -/
def Timeout.isTimedelta : Timeout → Bool
  | .timedelta _ => true
  | .other => false

/-- `str(timeout)` for a `timedelta` under a day: `h:mm:ss`. -/
def Timeout.str : Timeout → String
  | .timedelta n =>
    let pad (k : Nat) := if k < 10 then "0" ++ toString k else toString k
    toString (n / 3600) ++ ":" ++ pad (n / 60 % 60) ++ ":" ++ pad (n % 60)
  | .other => "?"

/-- The module's globals. -/
structure State where
  /-- `GroupMember.WORLD`, equal to `Group.WORLD`: the default group, once initialized. -/
  world : Option Handle
  /-- `_pg_map`: each group's backend, and its store (none for MPI). -/
  pgMap : PyDict Handle (Attr × Option Store)
  /-- `_pg_names`. -/
  pgNames : PyDict Handle String
  /-- `_pg_group_ranks`: each group's map from global to group-local rank. -/
  pgGroupRanks : PyDict Handle (PyDict Int Int)
  /-- `_default_pg_init_method`. -/
  defaultPgInitMethod : Option String
  /-- `_group_count`: the next default group name. -/
  groupCount : Nat
  /-- `_backend`. -/
  backend : Attr
  deriving DecidableEq

/-- The globals as the module is imported. -/
def State.initial : State :=
  ⟨none, .empty, .empty, .empty, none, 0, .str Backend.undefined⟩

/-- `_update_default_pg(pg)`: `GroupMember.WORLD = Group.WORLD = pg`. -/
def updateDefaultPg (s : State) (pg : Option Handle) : State := { s with world := pg }

/-- The message `_get_default_group` raises with before `init_process_group`. -/
def notInitialized : Error :=
  .runtime ("Default process group has not been initialized, " ++
    "please make sure to call init_process_group.")

/-- The message of `_get_group_rank` and `_get_global_rank` for the default group. -/
def worldHasNoRankMap : Error :=
  .runtime ("Group.WORLD does not have local rank to global " ++ "rank mapping")

/-- The message of `_get_group_rank` and `_get_group_size` for a group with no rank map. -/
def groupDoesNotExist : Error := .runtime "The given group does not exist"

/-- `is_initialized()`. -/
def isInitialized (s : State) : Bool := s.world.isSome

/-- `_get_default_group()`. -/
def getDefaultGroup (s : State) : Except Error Handle :=
  match s.world with
  | some w => .ok w
  | none => .error notInitialized

/-- `_rank_not_in_group(group)`: only the sentinel, never `None`. -/
def rankNotInGroup (group : Option Handle) : Bool := group = some .nonGroupMember

/-- `_get_group_rank(group, rank)`: the group-local rank of a global one. -/
def getGroupRank (s : State) (group : Handle) (rank : Int) : Except Error Int :=
  if s.world = some group then .error worldHasNoRankMap
  else match s.pgGroupRanks.get? group with
    | none => .error groupDoesNotExist
    | some m => match m.get? rank with
      | some r => .ok r
      -- The source's f-string ends with the group object's repr.
      | none => .error (.runtime ("The global rank " ++ toString rank ++ " is not part of the group"))

/-- `_get_global_rank(group, group_rank)`: the first global rank whose local rank
    matches, in the rank map's insertion order. -/
def getGlobalRank (s : State) (group : Handle) (groupRank : Int) : Except Error Int :=
  if s.world = some group then .error worldHasNoRankMap
  else match s.pgGroupRanks.get? group with
    | none => .error .key
    | some m => match m.keyOf? groupRank with
      | some r => .ok r
      | none => .error (.runtime "The group rank is not part of the group")

/-- `_get_group_size(group)`: the default group's `size()`, or the length of the rank
    map. -/
def getGroupSize (s : State) (group : Option Handle) : Except Error Int :=
  if group = s.world ∨ group = none then do (← getDefaultGroup s).size
  else match group with
    | some g => match s.pgGroupRanks.get? g with
      | some m => .ok m.keys.length
      | none => .error groupDoesNotExist
    | none => .error groupDoesNotExist

/-- `get_rank(group)`. -/
def getRank (s : State) (group : Option Handle) : Except Error Int :=
  if rankNotInGroup group then .ok (-1) else do
    let defaultPg ← getDefaultGroup s
    match group with
    | some g => if s.world = some g then defaultPg.rank else getGroupRank s g (← defaultPg.rank)
    | none => defaultPg.rank

/-- `get_world_size(group)`. -/
def getWorldSize (s : State) (group : Option Handle) : Except Error Int :=
  if rankNotInGroup group then .ok (-1) else getGroupSize s group

/-- `get_backend(group)`. -/
def getBackend (s : State) (group : Option Handle) : Except Error Attr := do
  let pg ← match group with
    | none => getDefaultGroup s
    | some g => pure g
  if rankNotInGroup (some pg) then throw (.runtime "Invalid process group specified")
  match s.pgMap.get? pg with
  | some record => pure record.1
  | none => throw (.assertion "")

@[simp] theorem rankNotInGroup_none : rankNotInGroup none = false := rfl

@[simp] theorem rankNotInGroup_sentinel : rankNotInGroup (some .nonGroupMember) = true := rfl

@[simp] theorem rankNotInGroup_pg (i : Nat) (r n : Int) :
    rankNotInGroup (some (.pg i r n)) = false := rfl

@[simp] theorem updateDefaultPg_world (s : State) (pg : Option Handle) :
    (updateDefaultPg s pg).world = pg := rfl

end DistributedC10d
