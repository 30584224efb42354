import DistributedC10d.Core.Dispatch
import DistributedC10d.Theory.View

/-!
# Tearing Down

`destroy_process_group(group)` given a registered group other than the world deletes the
group's three entries and nothing else. The deletions run one after another, and a
missing rank map would raise after the record and the name are gone; but the creations
write all three, so from any state a run reaches, all three succeed.

Given the world, or nothing while there is one, it resets every global the module
declares but one. `_backend` was set from the world's record by `init_process_group`,
and no line of the module clears it: a destroyed world leaves the name of its backend
behind. Nothing in the module reads `_backend` either (it is kept for code that imports
it), so the globals a teardown leaves are as good as a fresh import's for every later
call. `BackendBlind` says that of one call; the lifecycle calls are checked one Python
statement at a time, by combinators that follow their `do` blocks, and
`Proc.run_withBackend` lifts it to every run. The queries, `get_backend` among them, and
the dispatcher calls read the registry and the world only, so they answer the same
whatever `_backend` holds.

## Main definitions

* `State.withBackend`: The globals with `_backend` set.
* `BackendBlind`: A call that does not read `_backend`.

## Theorems

* `initProcessGroup_blind`, `newGroup_blind`, `destroyProcessGroup_blind`: No lifecycle
  call reads `_backend`.
* `Proc.run_withBackend`: Runs from globals that differ only in `_backend` stay so.
* `Inv.destroy_subgroup`: Destroying a subgroup deletes its three entries.
* `Inv.destroy_world`: Destroying the world leaves an import's globals but `_backend`.
* `getRank_withBackend`, `runOp_withBackend`, `batchIsendIrecv_withBackend`: Nor does a
  query or a dispatcher call.
* `destroy_process_group_effect`: Both, and that later calls behave as after an import.
-/

namespace DistributedC10d

/-- The globals with `_backend` set to `b`. -/
@[simps]
def State.withBackend (s : State) (b : Attr) : State := { s with backend := b }

@[simp] theorem State.withBackend_withBackend (s : State) (b b' : Attr) :
    (s.withBackend b).withBackend b' = s.withBackend b' := rfl

@[simp] theorem State.withBackend_self (s : State) : s.withBackend s.backend = s := rfl

/-- A call that does not read `_backend`: run with `_backend` set to anything, it returns
    what it returns from `s`, and leaves what it leaves from `s` but for `_backend`. -/
def BackendBlind {α : Type} (x : Py State α) : Prop :=
  ∀ s b, ∃ b', x (s.withBackend b) = ⟨(x s).state.withBackend b', (x s).result⟩

namespace BackendBlind

variable {α β : Type}

theorem pure (a : α) : BackendBlind (pure a : Py State α) := fun _ b => ⟨b, rfl⟩

theorem throw (e : Error) : BackendBlind (throw e : Py State α) := fun _ b => ⟨b, rfl⟩

theorem lift (x : Except Error α) : BackendBlind (monadLift x : Py State α) :=
  fun _ b => ⟨b, rfl⟩

theorem raiseIf (c : Prop) [Decidable c] (e : Error) :
    BackendBlind (Py.raiseIf c e : Py State Unit) := by
  unfold Py.raiseIf
  split
  · exact throw e
  · exact pure ()

theorem bind {x : Py State α} {f : α → Py State β} (hx : BackendBlind x)
    (hf : ∀ a, BackendBlind (f a)) : BackendBlind (x >>= f) := by
  intro s b
  obtain ⟨b', h⟩ := hx s b
  rw [Py.bind_apply, Py.bind_apply, h]
  rcases x s with ⟨s', _ | a⟩
  · exact ⟨b', rfl⟩
  · exact hf a s' b'

/-- Reading the globals, when what follows looks only at what `_backend` does not touch. -/
theorem read {f : State → Py State α} (hf : ∀ s b, f (s.withBackend b) = f s)
    (hb : ∀ s, BackendBlind (f s)) : BackendBlind (get >>= f) := by
  intro s b
  simp only [Py.bind_apply, Py.get_apply, hf]
  exact hb s s b

theorem modify {f : State → State}
    (hf : ∀ s b, ∃ b', f (s.withBackend b) = (f s).withBackend b') :
    BackendBlind (modify f : Py State PUnit) := by
  intro s b
  obtain ⟨b', h⟩ := hf s b
  exact ⟨b', by simp [h]⟩

end BackendBlind

/-! ### No query or dispatcher call reads `_backend` -/

section Queries

variable (s : State) (b : Attr) (group : Option Handle)

theorem getRank_withBackend : getRank (s.withBackend b) group = getRank s group := rfl

theorem getWorldSize_withBackend :
    getWorldSize (s.withBackend b) group = getWorldSize s group := rfl

theorem getBackend_withBackend : getBackend (s.withBackend b) group = getBackend s group := rfl

theorem runOp_withBackend (net : Net) (op : Op) :
    runOp net (s.withBackend b) group op = runOp net s group op := rfl

theorem sameBackend_withBackend (backend : Attr) (ops : List P2POp) :
    sameBackend (s.withBackend b) backend ops = sameBackend s backend ops := by
  induction ops with
  | nil => rfl
  | cons p ops ih => simp only [sameBackend, ih]; rfl

theorem batchLoop_withBackend (reqs : List Work) (ops : List P2POp) :
    batchLoop (s.withBackend b) reqs ops = batchLoop s reqs ops := by
  induction ops generalizing reqs with
  | nil => rfl
  | cons p ops ih => simp only [batchLoop, ih]; rfl

theorem batchIsendIrecv_withBackend (cls : BackendClass) (l : OpList) :
    batchIsendIrecv cls (s.withBackend b) l = batchIsendIrecv cls s l := by
  simp only [batchIsendIrecv, checkP2pOpList, sameBackend_withBackend, batchLoop_withBackend]
  rfl

end Queries

/-! ### No lifecycle call reads `_backend` -/

theorem nameGroup_blind (g : String) : BackendBlind (nameGroup g) := by
  intro s b
  refine ⟨b, ?_⟩
  simp only [nameGroup_apply]
  unfold named
  split <;> rfl

theorem register_blind (pg : Handle) (record : Attr × Option Store) (g : String) :
    BackendBlind (register pg record g) := BackendBlind.modify fun _ b => ⟨b, rfl⟩

theorem mpiGroup_blind (env : Env) (ext : Ext) (groupRanks : List Int) (g : String) :
    BackendBlind (mpiGroup env ext groupRanks g) := by
  unfold mpiGroup
  refine .bind (.raiseIf _ _) fun _ => .bind (.lift _) fun r => ?_
  cases r with
  | none => exact .pure _
  | some pg => exact .bind (register_blind _ _ _) fun _ => .pure _

theorem storeGroup_blind (env : Env) (ext : Ext) (worldSize : Int) (rank : Option Int)
    (groupRanks : List Int) (backend : Attr) (store : Option Store) (g : String) :
    BackendBlind (storeGroup env ext worldSize rank groupRanks backend store g) := by
  unfold storeGroup
  refine .read (fun _ _ => rfl) fun s => .bind (.lift _) fun m => ?_
  split
  · exact .pure _
  · exact .bind (.raiseIf _ _) fun _ => .bind (.lift _) fun pg =>
      .bind (register_blind _ _ _) fun _ => .pure _

theorem newProcessGroupHelper_blind (env : Env) (ext : Ext) (worldSize : Int)
    (rank : Option Int) (groupRanks : List Int) (backend : Attr) (store : Option Store)
    (g : String) (timeout : Timeout) :
    BackendBlind (newProcessGroupHelper env ext worldSize rank groupRanks backend store g
      timeout) := by
  unfold newProcessGroupHelper
  refine .bind (nameGroup_blind _) fun name => .read (fun _ _ => rfl) fun s =>
    .bind (.raiseIf _ _) fun _ => .bind (.raiseIf _ _) fun _ => .bind (.lift _) fun b => ?_
  split
  · exact mpiGroup_blind _ _ _ _
  · exact storeGroup_blind _ _ _ _ _ _ _ _

theorem closeBarrier_blind (ext : Ext) (timeout : Timeout) (sync : Sync) :
    BackendBlind (closeBarrier ext timeout sync) := by
  cases sync with
  | mpi => exact .pure _
  | store rank store =>
    unfold closeBarrier storeBasedBarrier
    refine .read (fun _ _ => rfl) fun s => .bind (.raiseIf _ _) fun _ => .bind (.lift _) fun w => ?_
    split
    · exact .pure _
    · exact .throw _

/-- `init_process_group` writes `_backend`, and reads it nowhere. -/
theorem initProcessGroup_blind (env : Env) (ext : Ext) (backend : String)
    (initMethod : Option String) (timeout : Timeout) (worldSize rank : Int)
    (store : Option Store) (groupName : String) :
    BackendBlind (initProcessGroup env ext backend initMethod timeout worldSize rank store
      groupName) := by
  unfold initProcessGroup initProcessGroupSetup
  refine .bind (.read (fun _ _ => rfl) fun s => .bind (.lift _) fun a =>
    .bind (newProcessGroupHelper_blind _ _ _ _ _ _ _ _ _) fun pg =>
    .bind (.modify fun _ b => ⟨b, rfl⟩) fun _ => .bind (.lift _) fun size =>
    .bind (.modify fun _ b => ⟨b, rfl⟩) fun _ => .read (fun _ _ => rfl) fun s' =>
    .bind (.lift _) fun record => .bind (.modify fun s b => ⟨record.1, rfl⟩) fun _ =>
    .bind (.modify fun _ b => ⟨b, rfl⟩) fun _ => .pure _) fun sync => closeBarrier_blind _ _ _

theorem newGroup_blind (env : Env) (ext : Ext) (ranks : Option (List Int)) (timeout : Timeout)
    (backend : Option String) : BackendBlind (newGroup env ext ranks timeout backend) := by
  unfold newGroup newGroupSetup
  refine .bind (.read (fun _ _ => rfl) fun s => .bind (.lift _) fun a =>
    .bind (newProcessGroupHelper_blind _ _ _ _ _ _ _ _ _) fun pg =>
    .bind (.modify fun _ b => ⟨b, rfl⟩) fun _ => .pure _) fun r => ?_
  exact .bind (closeBarrier_blind _ _ _) fun _ => .pure _

/-- `destroy_process_group` reads the globals it then writes back whole, so it is checked
    branch by branch. -/
theorem destroyProcessGroup_blind (group : Option Handle) :
    BackendBlind (destroyProcessGroup group) := by
  intro s b
  refine ⟨b, ?_⟩
  unfold destroyProcessGroup
  split
  · rfl
  simp only [Py.bind_apply, Py.get_apply]
  rw [show destroyTarget (s.withBackend b) group = destroyTarget s group from rfl]
  cases destroyTarget s group with
  | none => rfl
  | some pg =>
    simp only [Py.bind_apply, Py.raiseIf_apply, State.withBackend_pgMap, State.withBackend_world]
    by_cases hk : s.pgMap.get? pg = none
    · rw [if_pos hk, if_pos hk]
    rw [if_neg hk, if_neg hk]
    by_cases hw : group = none ∨ group = s.world
    · rw [if_pos hw, if_pos hw]
      rfl
    rw [if_neg hw, if_neg hw]
    simp only [Py.bind_apply, Py.lift_apply, Py.set_apply, Py.modify_apply,
      State.withBackend_pgNames, State.withBackend_pgGroupRanks]
    cases s.pgMap.delItem pg <;> cases s.pgNames.delItem pg <;>
      cases s.pgGroupRanks.delItem pg <;> rfl

/-! ### Runs -/

/-- One call from globals that differ only in `_backend` returns the same, and leaves the
    same process but for `_backend`. -/
theorem Proc.step_withBackend (p : Proc) (b : Attr) (env : Env) (x : Ext) (c : Cmd) :
    ∃ b', ({ p with st := p.st.withBackend b } : Proc).step env x c =
      ({ (p.step env x c).1 with st := (p.step env x c).1.st.withBackend b' },
        (p.step env x c).2) := by
  cases c with
  | initProcessGroup backend initMethod timeout worldSize rank store groupName =>
    obtain ⟨b', h⟩ := initProcessGroup_blind env { x with fresh := p.heap } backend initMethod
      timeout worldSize rank store groupName p.st b
    exact ⟨b', by simp only [Proc.step, h]; rfl⟩
  | newGroup ranks timeout backend =>
    obtain ⟨b', h⟩ := newGroup_blind env { x with fresh := p.heap } ranks timeout backend p.st b
    exact ⟨b', by simp only [Proc.step, h]⟩
  | destroyProcessGroup target =>
    have hr : ({ p with st := p.st.withBackend b } : Proc).resolve target = p.resolve target := by
      cases target <;> rfl
    simp only [Proc.step, hr]
    cases p.resolve target with
    | error e => exact ⟨b, rfl⟩
    | ok group =>
      obtain ⟨b', h⟩ := destroyProcessGroup_blind group p.st b
      exact ⟨b', by simp only [h]⟩

/-- Every run from globals that differ only in `_backend` ends in the same process but for
    `_backend`. -/
theorem Proc.run_withBackend (env : Env) (cs : List (Cmd × Ext)) (p : Proc) (b : Attr) :
    ∃ b', ({ p with st := p.st.withBackend b } : Proc).run env cs =
      { p.run env cs with st := (p.run env cs).st.withBackend b' } := by
  induction cs generalizing p b with
  | nil => exact ⟨b, rfl⟩
  | cons c cs ih =>
    obtain ⟨b', h⟩ := p.step_withBackend b env c.2 c.1
    simp only [Proc.run, h]
    exact ih _ b'

/-! ### What `destroy_process_group` leaves -/

namespace Inv

variable {s : State} {n : Nat}

/-- `destroy_process_group(g)` for a registered group other than the world returns, having
    deleted the group's record, name and rank map. -/
theorem destroy_subgroup (hi : Inv s n) {g : Handle} (hk : g ∈ s.pgMap.keys)
    (hw : s.world ≠ some g) :
    destroyProcessGroup (some g) s = ⟨DistributedC10d.erased s g, .ok ()⟩ := by
  rcases destroyProcessGroup_cases (some g) s with
    ⟨hg, -⟩ | ⟨hd, -⟩ | ⟨pg, hd, hk', -⟩ | ⟨pg, hw', hd, -, -⟩ |
    ⟨_, ⟨⟩, -, -, ⟨-, -, ho⟩ | hn | hr⟩
  · exact absurd (Option.some.inj hg) (Handle.ne_sentinel_of_builtBefore (hi.built g hk))
  · cases hd
  · cases hd
    exact absurd hk hk'
  · cases hd
    exact absurd hw' hw
  · exact ho
  · exact absurd ((hi.names_keys g).2 hk) hn
  · exact absurd (hi.ranks_keys g hk) hr

/-- `destroy_process_group()`, or with the world, while there is one: every global is as
    at import, but `_backend`. -/
theorem destroy_world (hi : Inv s n) {w : Handle} (hw : s.world = some w)
    {group : Option Handle} (hg : group = none ∨ group = some w) :
    destroyProcessGroup group s = ⟨State.initial.withBackend s.backend, .ok ()⟩ := by
  have hd : destroyTarget s group = some w := by
    rcases hg with rfl | rfl
    · exact hw
    · rfl
  rcases destroyProcessGroup_cases group s with
    ⟨rfl, -⟩ | ⟨hd', -⟩ | ⟨pg, hd', hk, -⟩ | ⟨pg, -, -, -, ho⟩ | ⟨pg, rfl, hw', -, -⟩
  · obtain rfl : Handle.nonGroupMember = w := by simpa using hg
    exact absurd hw hi.world_ne_sentinel
  · rw [hd] at hd'
    cases hd'
  · rw [hd] at hd'
    cases hd'
    exact absurd (hi.world w hw).1 hk
  · rw [ho]
    rfl
  · obtain rfl : pg = w := by simpa using hg
    exact absurd hw hw'

end Inv

/-- `destroy_process_group` from every state a run reaches. Given a registered group other
    than the world, it returns having deleted the group's record, name and rank map, and
    no other group's. Given nothing while there is a world, or the world, it leaves every
    global as the import left it, `_backend` apart, which keeps the name of the destroyed
    world's backend. No call reads `_backend`, so from there every later run of calls
    returns, call by call, what it returns from the globals of a fresh import, and leaves
    the same globals but `_backend`; nor does any query or dispatcher call read it. -/
theorem destroy_process_group_effect {p : Proc} (hp : Reachable p) :
    (∀ g ∈ p.st.pgMap.keys, p.st.world ≠ some g →
      destroyProcessGroup (some g) p.st = ⟨erased p.st g, .ok ()⟩ ∧
      ∀ h, (erased p.st g).pgMap.get? h = (if h = g then none else p.st.pgMap.get? h) ∧
        (erased p.st g).pgNames.get? h = (if h = g then none else p.st.pgNames.get? h) ∧
        (erased p.st g).pgGroupRanks.get? h =
          (if h = g then none else p.st.pgGroupRanks.get? h)) ∧
    (∀ w, p.st.world = some w → ∀ group, group = none ∨ group = some w →
      destroyProcessGroup group p.st = ⟨State.initial.withBackend p.st.backend, .ok ()⟩) ∧
    (∀ w, p.st.world = some w → ∀ env x env' cs, ∃ b,
      (p.step env x (.destroyProcessGroup .none)).1.run env' cs =
        { ({ p with st := State.initial } : Proc).run env' cs with
          st := (({ p with st := State.initial } : Proc).run env' cs).st.withBackend b } ∧
      ∀ c x', (((p.step env x (.destroyProcessGroup .none)).1.run env' cs).step env' x' c).2 =
        ((({ p with st := State.initial } : Proc).run env' cs).step env' x' c).2) ∧
    (∀ (s : State) (b : Attr) group,
      getRank (s.withBackend b) group = getRank s group ∧
      getWorldSize (s.withBackend b) group = getWorldSize s group ∧
      getBackend (s.withBackend b) group = getBackend s group ∧
      (∀ net op, runOp net (s.withBackend b) group op = runOp net s group op) ∧
      ∀ cls l, batchIsendIrecv cls (s.withBackend b) l = batchIsendIrecv cls s l) := by
  have hi := hp.inv
  refine ⟨fun g hk hw => ⟨hi.destroy_subgroup hk hw, fun h => by simp [PyDict.get?_erase]⟩,
    fun w hw group hg => hi.destroy_world hw hg, fun w hw env x env' cs => ?_,
    fun s b group => ⟨getRank_withBackend s b group, getWorldSize_withBackend s b group,
      getBackend_withBackend s b group, runOp_withBackend s b group,
      batchIsendIrecv_withBackend s b⟩⟩
  -- The teardown leaves the process with an import's globals but `_backend`.
  have hq : (p.step env x (.destroyProcessGroup .none)).1 =
      { ({ p with st := State.initial } : Proc) with
        st := State.initial.withBackend p.st.backend } := by
    simp only [Proc.step, Proc.resolve, hi.destroy_world hw (.inl rfl)]
  obtain ⟨b, h⟩ := Proc.run_withBackend env' cs { p with st := State.initial } p.st.backend
  refine ⟨b, by rw [hq]; exact h, fun c x' => ?_⟩
  obtain ⟨b', h'⟩ := (({ p with st := State.initial } : Proc).run env' cs).step_withBackend b
    env' x' c
  rw [hq, h]
  have hr := congrArg Prod.snd h'
  exact hr

/-- The same from rank 0 of a Gloo world of two. -/
theorem destroy_effect_on_world_of_two :
    Reachable worldOfTwo ∧
    (∀ g ∈ worldOfTwo.st.pgMap.keys, worldOfTwo.st.world ≠ some g →
      destroyProcessGroup (some g) worldOfTwo.st = ⟨erased worldOfTwo.st g, .ok ()⟩ ∧
      ∀ h, (erased worldOfTwo.st g).pgMap.get? h =
          (if h = g then none else worldOfTwo.st.pgMap.get? h) ∧
        (erased worldOfTwo.st g).pgNames.get? h =
          (if h = g then none else worldOfTwo.st.pgNames.get? h) ∧
        (erased worldOfTwo.st g).pgGroupRanks.get? h =
          (if h = g then none else worldOfTwo.st.pgGroupRanks.get? h)) ∧
    (∀ w, worldOfTwo.st.world = some w → ∀ group, group = none ∨ group = some w →
      destroyProcessGroup group worldOfTwo.st =
        ⟨State.initial.withBackend worldOfTwo.st.backend, .ok ()⟩) ∧
    (∀ w, worldOfTwo.st.world = some w → ∀ env x env' cs, ∃ b,
      (worldOfTwo.step env x (.destroyProcessGroup .none)).1.run env' cs =
        { ({ worldOfTwo with st := State.initial } : Proc).run env' cs with
          st := (({ worldOfTwo with st := State.initial } : Proc).run env' cs).st.withBackend b } ∧
      ∀ c x', (((worldOfTwo.step env x (.destroyProcessGroup .none)).1.run env' cs).step env' x'
          c).2 =
        ((({ worldOfTwo with st := State.initial } : Proc).run env' cs).step env' x' c).2) ∧
    (∀ (s : State) (b : Attr) group,
      getRank (s.withBackend b) group = getRank s group ∧
      getWorldSize (s.withBackend b) group = getWorldSize s group ∧
      getBackend (s.withBackend b) group = getBackend s group ∧
      (∀ net op, runOp net (s.withBackend b) group op = runOp net s group op) ∧
      ∀ cls l, batchIsendIrecv cls (s.withBackend b) l = batchIsendIrecv cls s l) :=
  ⟨worldOfTwo_reachable, destroy_process_group_effect worldOfTwo_reachable⟩

/-- A Gloo world of two built and then destroyed: every global is back to its value
    at import but `_backend`, which still names Gloo. -/
theorem destroyed_world_keeps_backend :
    (worldOfTwo.step glooWorld ⟨1, false, none⟩ (.destroyProcessGroup .none)).1.st =
      State.initial.withBackend (.str Backend.gloo) ∧
    (worldOfTwo.step glooWorld ⟨1, false, none⟩ (.destroyProcessGroup .none)).1.st ≠
      State.initial :=
  ⟨by decide, by decide⟩

end DistributedC10d
