import DistributedC10d.Core.Lifecycle

/-!
# Process Runs

One process calling the lifecycle functions, one call after another.

Besides the module's globals a process has two things the lifecycle needs. It has a
heap: a process group is an object, and an object built now is a different object
from every one built before, however the registries have changed since. `heap` counts
the objects built so far, and the next one gets that number as its identity. And it
has what its own code holds on to: `created` records, for each creation call of the
run, the handle the caller was left with, so a later `destroy_process_group` can be
given the handle of an earlier creation. After `new_group` that is its return value,
or nothing if it raised; after `init_process_group` it is `GroupMember.WORLD`, which
the caller can read whether or not the call raised at its barrier.

`Reachable` closes the initial process under every call, with every argument, every
environment and every answer from outside: an environment may change between calls,
as `register_backend` changes the `Backend` class.

## Main definitions

* `Target`: What a `destroy_process_group` call is given.
* `Cmd`: A lifecycle call with its arguments.
* `Proc`: A process: the globals, its heap, and the handles its creations returned.
* `Proc.step`: One call.
* `Proc.run`: A list of calls.
* `Reachable`: The processes some run leads to.
-/

namespace DistributedC10d

/-- What `destroy_process_group` is called with. -/
inductive Target where
  /-- `destroy_process_group()`. -/
  | none
  /-- `destroy_process_group(GroupMember.WORLD)`, read when the call is made. -/
  | world
  /-- The handle the `k`-th creation of the run left the caller with. -/
  | created (k : Nat)
  /-- Any handle at all. -/
  | handle (h : Handle)

/-- A lifecycle call with its arguments. -/
inductive Cmd where
  | initProcessGroup (backend : String) (initMethod : Option String) (timeout : Timeout)
      (worldSize rank : Int) (store : Option Store) (groupName : String)
  | newGroup (ranks : Option (List Int)) (timeout : Timeout) (backend : Option String)
  | destroyProcessGroup (target : Target)

/-- A process: the module's globals, the number of objects built so far, and the handle
    each creation of the run left the caller with. -/
structure Proc where
  st : State
  heap : Nat
  created : List (Option Handle)

namespace Proc

/-- A process that has just imported the module. -/
def initial : Proc := ⟨State.initial, 0, []⟩

/-- The argument a `destroy_process_group` call passes. An earlier creation that raised
    left nothing bound, and naming it raises `NameError`. -/
def resolve (p : Proc) : Target → Except Error (Option Handle)
  | .none => .ok none
  | .world => .ok p.st.world
  | .created k => match p.created[k]? with
    | some (some h) => .ok (some h)
    | _ => .error .name
  | .handle h => .ok (some h)

/-- One call. An object it builds gets the heap's next identity. -/
def step (env : Env) (x : Ext) (p : Proc) : Cmd → Proc × Except Error Unit
  | .initProcessGroup backend initMethod timeout worldSize rank store groupName =>
    let o := initProcessGroup env { x with fresh := p.heap } backend initMethod timeout
      worldSize rank store groupName p.st
    (⟨o.state, p.heap + 1, p.created ++ [o.state.world]⟩, o.result)
  | .newGroup ranks timeout backend =>
    let o := newGroup env { x with fresh := p.heap } ranks timeout backend p.st
    (⟨o.state, p.heap + 1, p.created ++ [o.result.toOption]⟩, o.result.map fun _ => ())
  | .destroyProcessGroup target =>
    match p.resolve target with
    | .error e => (p, .error e)
    | .ok group =>
      let o := destroyProcessGroup group p.st
      ({ p with st := o.state }, o.result)

/-- A run: each call with the world's answers to it. -/
def run (env : Env) : Proc → List (Cmd × Ext) → Proc
  | p, [] => p
  | p, (c, x) :: rest => run env (p.step env x c).1 rest

end Proc

/-- The processes a run from import leads to, whatever the calls, their arguments, the
    environment at each call and the answers from outside. -/
inductive Reachable : Proc → Prop where
  | initial : Reachable Proc.initial
  | step {p : Proc} (env : Env) (x : Ext) (c : Cmd) :
      Reachable p → Reachable (p.step env x c).1

end DistributedC10d
