import DistributedC10d.Core.Process

/-!
# Ranks Sharing a Store

Several processes, each running the module, sharing one store. A process's own calls are
`Proc.step`'s, but for the barrier each creation ends with: here it is not decided from
outside, it is the loop of `_store_based_barrier` against the counters the processes
share. `store.add(store_key, 1)` comes first, under the key `_group_count` gives; then the
process reads the counter with `store.add(store_key, 0)` until it equals
`get_world_size()`, or gives up when the timeout has passed. The processes run
interleaved, one action at a time, in any order.

A process that is waiting in its barrier holds what the creation will leave in `created`
once the barrier ends: for `init_process_group`, `GroupMember.WORLD` either way; for
`new_group`, the new handle if the barrier returns and nothing if it raises.

## Main definitions

* `Counters`: The store's counters.
* `Phase`: Whether a process is in its barrier's loop.
* `BarrierEvent`: A process adding to a key, or leaving its barrier on it.
* `Cluster`, `Cluster.step`, `Cluster.run`: The processes, run interleaved.
-/

namespace DistributedC10d

/-- The counters of the store the processes share. A key's counter starts at `0`. -/
structure Counters where
  entries : List (String × Int)

/-- The counter of `key`. -/
def Counters.get (c : Counters) (key : String) : Int := (c.entries.lookup key).getD 0

/-- `store.add(key, amount)`. -/
def Counters.add (c : Counters) (key : String) (amount : Int) : Counters :=
  ⟨(key, c.get key + amount) :: c.entries⟩

/-- Where a process is with respect to its barrier. -/
inductive Phase where
  | idle
  /-- In `_store_based_barrier`'s loop on `key`, waiting for `worldSize`. On return the
      creation leaves `onReturn` in `created`, and on a raise `onRaise`. -/
  | waiting (key : String) (worldSize : Int) (onReturn onRaise : Option Handle)
  deriving DecidableEq

/-- One process: its globals, heap and handles, and its phase. -/
structure Node where
  proc : Proc
  phase : Phase

/-- What the barrier does that another process can see, and when a process leaves it. -/
inductive BarrierEvent where
  /-- Process `i` has run `store.add(key, 1)`. -/
  | added (i : Nat) (key : String)
  /-- Process `i` has found `key`'s counter equal to its world size, and returned. -/
  | passed (i : Nat) (key : String) (worldSize : Int)
  deriving DecidableEq, Repr

/-- The processes, the counters they share, and the barrier's events so far. -/
structure Cluster where
  counters : Counters
  nodes : List Node
  events : List BarrierEvent

/-- One process's action. -/
inductive Action where
  /-- Process `i` makes a lifecycle call: a creation runs as far as its barrier's first
      `store.add`. -/
  | call (i : Nat) (env : Env) (c : Cmd) (x : Ext)
  /-- Process `i` reads its barrier's counter once. -/
  | poll (i : Nat)
  /-- Process `i`'s barrier has waited past its timeout, and raises. -/
  | timeout (i : Nat)

namespace Cluster

/-- `n` processes that have just imported the module, and a store with no keys. -/
def initial (n : Nat) : Cluster := ⟨⟨[]⟩, List.replicate n ⟨Proc.initial, .idle⟩, []⟩

/-- Process `i` is now `node`. -/
def setNode (k : Cluster) (i : Nat) (node : Node) : Cluster :=
  { k with nodes := k.nodes.set i node }

/-- Process `i`, at `p` after its creation's setup, goes into its closing barrier; the MPI
    backend's own barrier is the transport's. The store-based barrier adds to the key of
    `_group_count` first, and reads the world size after. -/
def enterBarrier (k : Cluster) (i : Nat) (p : Proc) (sync : Sync)
    (onReturn onRaise : Option Handle) : Cluster :=
  match sync with
  | .mpi => k.setNode i ⟨{ p with created := p.created ++ [onReturn] }, .idle⟩
  | .store _ store =>
    -- `store.add(store_key, 1)` on `None`.
    if store = none then k.setNode i ⟨{ p with created := p.created ++ [onRaise] }, .idle⟩
    else
      let key := storeKey p.st.groupCount
      let k := { k with counters := k.counters.add key 1,
                        events := k.events ++ [BarrierEvent.added i key] }
      match getWorldSize p.st none with
      | .ok worldSize => k.setNode i ⟨p, .waiting key worldSize onReturn onRaise⟩
      | .error _ => k.setNode i ⟨{ p with created := p.created ++ [onRaise] }, .idle⟩

/-- One action. An action of a process that is not in a state to take it changes
    nothing. -/
def step (k : Cluster) : Action → Cluster
  | .call i env c x => match k.nodes[i]? with
    | some ⟨p, .idle⟩ => match c with
      | .initProcessGroup backend initMethod timeout worldSize rank store groupName =>
        let o := initProcessGroupSetup env { x with fresh := p.heap } backend initMethod timeout
          worldSize rank store groupName p.st
        let p' : Proc := ⟨o.state, p.heap + 1, p.created⟩
        match o.result with
        | .ok sync => k.enterBarrier i p' sync o.state.world o.state.world
        | .error _ => k.setNode i ⟨{ p' with created := p.created ++ [o.state.world] }, .idle⟩
      | .newGroup ranks timeout backend =>
        let o := newGroupSetup env { x with fresh := p.heap } ranks timeout backend p.st
        let p' : Proc := ⟨o.state, p.heap + 1, p.created⟩
        match o.result with
        | .ok (pg, sync) => k.enterBarrier i p' sync (some pg) none
        | .error _ => k.setNode i ⟨{ p' with created := p.created ++ [none] }, .idle⟩
      | .destroyProcessGroup _ => k.setNode i ⟨(p.step env x c).1, .idle⟩
    | _ => k
  | .poll i => match k.nodes[i]? with
    | some ⟨p, .waiting key worldSize onReturn _⟩ =>
      if k.counters.get key = worldSize then
        { k.setNode i ⟨{ p with created := p.created ++ [onReturn] }, .idle⟩ with
          events := k.events ++ [.passed i key worldSize] }
      else k
    | _ => k
  | .timeout i => match k.nodes[i]? with
    | some ⟨p, .waiting _ _ _ onRaise⟩ =>
      k.setNode i ⟨{ p with created := p.created ++ [onRaise] }, .idle⟩
    | _ => k

/-- A list of actions, in order. -/
def run (k : Cluster) (actions : List Action) : Cluster := actions.foldl step k

end Cluster

end DistributedC10d
