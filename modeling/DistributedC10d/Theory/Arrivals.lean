import DistributedC10d.Theory.Barrier
import DistributedC10d.Theory.View

/-!
# Distinct Arrivals at the Barrier

`_store_based_barrier` is meant to let a process go once every rank of its world has
checked in. What it counts is `store.add(key, 1)` calls, so it means that only if no
process adds twice to one key. Each process computes its key from `_group_count`, after
the creation has named its group, and that count only moves on: `new_group` names its
group with the next count, and `init_process_group` starts without a world, so above
every key its process used before. Only `destroy_process_group` of the world sets the
count back, to 0.

So in every interleaving of processes sharing one store in which no process destroys its
world, no process adds to a key twice, and a process that passes its barrier has seen
`store.add(key, 1)` from exactly its world size of distinct processes. With a world
destroyed and built again the keys repeat, and the first world's arrivals are counted
for the second (`reinit_barrier_passes_early`).

## Main definitions

* `State.Grows`: The counter does not go back and a world stays.
* `Cluster.destroysWorld`, `Cluster.keepsWorlds`: An action, or a run, that destroys a
  process's world.
* `arrivals`: The processes that added to a key, one entry per add.
* `Cluster.AddsOnce`: Each process has added to each key at most once, below its count.

## Theorems

* `initProcessGroupSetup_grows`, `newGroupSetup_grows`, `destroyProcessGroup_keeps`: The
  lifecycle calls move the counter on, and only the world's destruction sets it back.
* `Cluster.AddsOnce.step`, `Cluster.AddsOnce.run`: Every action, and every run that
  destroys no world, keeps `AddsOnce`.
* `barrier_arrivals_distinct`: A process passes when its world size of distinct processes
  have added to its key.
-/

namespace DistributedC10d

theorem storeKey_injective {a b : Nat} (h : storeKey a = storeKey b) : a = b := by
  have hd := congrArg String.data h
  simp only [storeKey, String.data_append, List.append_assoc, List.append_cancel_left_eq] at hd
  exact toString_injective (String.ext hd)

/-! ### One process's counter -/

/-- One process's globals moving on without its world destroyed: `_group_count` does not
    go back, and a world, once built, stays. -/
structure State.Grows (s s' : State) : Prop where
  groupCount : s.groupCount ≤ s'.groupCount
  world : s.world ≠ none → s'.world ≠ none

theorem State.Grows.refl (s : State) : s.Grows s := ⟨le_rfl, id⟩

theorem State.Grows.named (s : State) (g : String) : s.Grows (named s g) :=
  ⟨by rw [named_groupCount]; split <;> omega, by simp⟩

/-- `init_process_group` up to its barrier moves the counter on, or leaves it; when it
    gets to the barrier it started without a world and has built one. -/
theorem initProcessGroupSetup_grows (env : Env) (ext : Ext) (backend : String)
    (initMethod : Option String) (timeout : Timeout) (worldSize rank : Int)
    (store : Option Store) (groupName : String) (s : State) :
    s.Grows (initProcessGroupSetup env ext backend initMethod timeout worldSize rank store
      groupName s).state ∧
    ∀ sync, (initProcessGroupSetup env ext backend initMethod timeout worldSize rank store
        groupName s).result = .ok sync →
      s.world = none ∧ (initProcessGroupSetup env ext backend initMethod timeout worldSize rank
        store groupName s).state.world ≠ none := by
  rcases initProcessGroupSetup_cases env ext backend initMethod timeout worldSize rank store
    groupName s with ⟨e, -, ho⟩ | ⟨a, -, hw, ⟨e, ho⟩ | ⟨r, size, b, st, -, -, ho⟩⟩ <;> rw [ho]
  · exact ⟨.refl s, fun _ h => by cases h⟩
  · exact ⟨.named s groupName, fun _ h => by cases h⟩
  · exact ⟨⟨(State.Grows.named s groupName).groupCount, by simp⟩, fun _ _ => ⟨hw, by simp⟩⟩

/-- `new_group` up to its barrier moves the counter on, or leaves it; when it gets to the
    barrier it has moved it on by one, and there is a world. -/
theorem newGroupSetup_grows (env : Env) (ext : Ext) (ranks : Option (List Int))
    (timeout : Timeout) (backend : Option String) (s : State) :
    s.Grows (newGroupSetup env ext ranks timeout backend s).state ∧
    ∀ r, (newGroupSetup env ext ranks timeout backend s).result = .ok r →
      (newGroupSetup env ext ranks timeout backend s).state.groupCount = s.groupCount + 1 ∧
      (newGroupSetup env ext ranks timeout backend s).state.world ≠ none := by
  rcases newGroupSetup_cases env ext ranks timeout backend s with
    ⟨e, -, ho⟩ | ⟨a, ha, ⟨e, ho⟩ | ⟨-, ho⟩ | ⟨r, size, b, st, -, -, -, ho⟩⟩ <;> rw [ho]
  · exact ⟨.refl s, fun _ h => by cases h⟩
  · exact ⟨.named s "", fun _ h => by cases h⟩
  all_goals
    have hw : s.world ≠ none := groupArgs_world ha
    exact ⟨⟨by simp, by simp⟩, fun _ _ => ⟨by simp, by simpa using hw⟩⟩

/-- `destroy_process_group` given anything but nothing or the world, while there is one,
    keeps the counter and the world. -/
theorem destroyProcessGroup_keeps {group : Option Handle} {s : State}
    (h : ¬(isInitialized s ∧ (group = none ∨ group = s.world))) :
    (destroyProcessGroup group s).state.groupCount = s.groupCount ∧
      (destroyProcessGroup group s).state.world = s.world := by
  unfold destroyProcessGroup
  split
  · exact ⟨rfl, rfl⟩
  simp only [Py.bind_apply, Py.get_apply]
  cases hd : destroyTarget s group with
  | none => exact ⟨rfl, rfl⟩
  | some pg =>
    simp only [Py.bind_apply, Py.raiseIf_apply]
    by_cases hk : s.pgMap.get? pg = none
    · rw [if_pos hk]
      exact ⟨rfl, rfl⟩
    -- The world's branch is taken only with a world.
    have hw : ¬(group = none ∨ group = s.world) := fun hw => h ⟨by
      cases group with
      | none =>
        simp only [destroyTarget] at hd
        simp [isInitialized, hd]
      | some g => simp [isInitialized, ← hw.resolve_left (by simp)], hw⟩
    rw [if_neg hk, if_neg hw]
    simp only [Py.bind_apply, Py.lift_apply, Py.set_apply, Py.modify_apply]
    cases s.pgMap.delItem pg <;> cases s.pgNames.delItem pg <;>
      cases s.pgGroupRanks.delItem pg <;> exact ⟨rfl, rfl⟩

/-! ### Runs that keep every world -/

namespace Cluster

/-- Whether `a` is a `destroy_process_group` call that destroys its process's world:
    given nothing, or the world, while there is one. -/
def destroysWorld (k : Cluster) : Action → Bool
  | .call i _ (.destroyProcessGroup target) _ => match k.nodes[i]? with
    | some ⟨p, .idle⟩ => match p.resolve target with
      | .ok group => decide (isInitialized p.st ∧ (group = none ∨ group = p.st.world))
      | .error _ => false
    | _ => false
  | _ => false

/-- Whether no action of a run destroys a process's world. -/
def keepsWorlds : Cluster → List Action → Bool
  | _, [] => true
  | k, a :: rest => !k.destroysWorld a && keepsWorlds (k.step a) rest

theorem setNode_getElem? {k : Cluster} {i j : Nat} {node₀ node : Node}
    (hi : k.nodes[i]? = some node₀) :
    (k.setNode i node).nodes[j]? = if i = j then some node else k.nodes[j]? := by
  have hlt : i < k.nodes.length := (List.getElem?_eq_some_iff.1 hi).1
  simp [setNode, List.getElem?_set, hlt]

end Cluster

/-! ### Each process adds to a key once -/

/-- The process an event is about. -/
def BarrierEvent.process : BarrierEvent → Nat
  | .added i _ => i
  | .passed i .. => i

/-- The processes that ran `store.add(key, 1)`, in order, one entry per add. -/
def arrivals (events : List BarrierEvent) (key : String) : List Nat :=
  (events.filter (BarrierEvent.addsTo key)).map BarrierEvent.process

theorem length_arrivals (events : List BarrierEvent) (key : String) :
    (arrivals events key).length = addedCount events key := by
  simp [arrivals, addedCount]

theorem count_arrivals (events : List BarrierEvent) (key : String) (i : Nat) :
    (arrivals events key).count i = events.count (.added i key) := by
  induction events with
  | nil => rfl
  | cons e events ih =>
    simp only [arrivals, List.filter_cons, List.count_cons] at ih ⊢
    cases e with
    | added j k' =>
      by_cases hk : k' = key <;>
        simp [BarrierEvent.addsTo, BarrierEvent.process, List.count_cons, hk, ih]
    | passed j k' w => simp [BarrierEvent.addsTo, ih]

/-- The key of a count below `s`'s, or of `s`'s own count while there is a world: what
    the keys a process has added to are, read against its globals. -/
def KeyBelow (s : State) (key : String) : Prop :=
  ∃ c, key = storeKey c ∧ (c < s.groupCount ∨ c = s.groupCount ∧ s.world ≠ none)

theorem KeyBelow.grows {s s' : State} {key : String} (h : KeyBelow s key) (hg : s.Grows s') :
    KeyBelow s' key := by
  obtain ⟨c, rfl, hc | ⟨rfl, hw⟩⟩ := h
  · exact ⟨c, rfl, .inl (Nat.lt_of_lt_of_le hc hg.groupCount)⟩
  · rcases Nat.lt_or_eq_of_le hg.groupCount with hlt | heq
    · exact ⟨_, rfl, .inl hlt⟩
    · exact ⟨_, rfl, .inr ⟨heq, hg.world hw⟩⟩

/-- Each process has added to each key at most once, and only to keys below its own
    count. -/
structure Cluster.AddsOnce (k : Cluster) : Prop where
  once : ∀ i key, k.events.count (.added i key) ≤ 1
  below : ∀ i node key, k.nodes[i]? = some node → BarrierEvent.added i key ∈ k.events →
    KeyBelow node.proc.st key

namespace Cluster.AddsOnce

variable {k : Cluster}

theorem initial (n : Nat) : (Cluster.initial n).AddsOnce :=
  ⟨by simp [Cluster.initial], by simp [Cluster.initial]⟩

/-- Process `i` moves on without adding. -/
theorem setNode (hk : k.AddsOnce) {i : Nat} {node₀ node : Node} (hi : k.nodes[i]? = some node₀)
    (hg : node₀.proc.st.Grows node.proc.st) : (k.setNode i node).AddsOnce := by
  refine ⟨hk.once, fun j node' key hj he => ?_⟩
  rw [Cluster.setNode_getElem? hi] at hj
  split at hj
  · subst j
    cases hj
    exact (hk.below i node₀ key hi he).grows hg
  · exact hk.below j node' key hj he

/-- Process `i` passes its barrier. -/
theorem passed (hk : k.AddsOnce) (i : Nat) (key : String) (worldSize : Int) :
    Cluster.AddsOnce { k with events := k.events ++ [.passed i key worldSize] } := by
  refine ⟨fun j key' => ?_, fun j node key' hj he => hk.below j node key' hj ?_⟩
  · simpa using hk.once j key'
  · simpa using he

/-- Process `i`, at globals above every key it used, adds to the key of its count and
    moves on. -/
theorem add (hk : k.AddsOnce) {i : Nat} {node₀ : Node} (hi : k.nodes[i]? = some node₀)
    (node : Node) (hg : node₀.proc.st.Grows node.proc.st)
    (hfresh : ∀ c, (c < node₀.proc.st.groupCount ∨
      c = node₀.proc.st.groupCount ∧ node₀.proc.st.world ≠ none) → c < node.proc.st.groupCount)
    (hw : node.proc.st.world ≠ none) (counters : Counters) :
    Cluster.AddsOnce (Cluster.setNode
      { k with counters := counters,
               events := k.events ++ [.added i (storeKey node.proc.st.groupCount)] } i node) := by
  -- The new key is none process `i` used before.
  have hnew : BarrierEvent.added i (storeKey node.proc.st.groupCount) ∉ k.events := fun he => by
    obtain ⟨c, hc, hlt⟩ := hk.below i node₀ _ hi he
    exact absurd (hfresh c hlt) (by rw [storeKey_injective hc]; exact Nat.lt_irrefl _)
  refine ⟨fun j key => ?_, fun j node' key hj he => ?_⟩
  · simp only [setNode_events, List.count_append, List.count_singleton, beq_iff_eq]
    by_cases he : BarrierEvent.added i (storeKey node.proc.st.groupCount) = .added j key
    · cases he
      simp [List.count_eq_zero_of_not_mem hnew]
    · simpa [he] using hk.once j key
  · simp only [setNode_events, List.mem_append, List.mem_singleton] at he
    have hi' : ({ k with counters := counters,
                         events := k.events ++ [.added i (storeKey node.proc.st.groupCount)] } :
        Cluster).nodes[i]? = some node₀ := hi
    rw [Cluster.setNode_getElem? hi'] at hj
    split at hj
    · subst j
      cases hj
      rcases he with he | he
      · exact (hk.below i node₀ key hi he).grows hg
      · cases he
        exact ⟨_, rfl, .inr ⟨rfl, hw⟩⟩
    · rcases he with he | he
      · exact hk.below j node' key hj he
      · cases he
        contradiction

/-- Process `i` goes into its barrier at globals above every key it used, with a world. -/
theorem enterBarrier (hk : k.AddsOnce) {i : Nat} {node₀ : Node} (hi : k.nodes[i]? = some node₀)
    {p : Proc} (hg : node₀.proc.st.Grows p.st)
    (hfresh : ∀ c, (c < node₀.proc.st.groupCount ∨
      c = node₀.proc.st.groupCount ∧ node₀.proc.st.world ≠ none) → c < p.st.groupCount)
    (hw : p.st.world ≠ none) (sync : Sync) (onReturn onRaise : Option Handle) :
    (k.enterBarrier i p sync onReturn onRaise).AddsOnce := by
  unfold Cluster.enterBarrier
  split
  · exact hk.setNode hi hg
  · split
    · exact hk.setNode hi hg
    · split
      · exact hk.add hi ⟨p, .waiting _ _ onReturn onRaise⟩ hg hfresh hw _
      · exact hk.add hi ⟨{ p with created := p.created ++ [onRaise] }, .idle⟩ hg hfresh hw _

/-- Every action that destroys no world keeps `AddsOnce`. -/
theorem step (hk : k.AddsOnce) {a : Action} (hd : k.destroysWorld a = false) :
    (k.step a).AddsOnce := by
  cases a with
  | call i env c x =>
    cases hi : k.nodes[i]? with
    | none => simp only [Cluster.step, hi]; exact hk
    | some node =>
      obtain ⟨p, _ | _⟩ := node
      case waiting => simp only [Cluster.step, hi]; exact hk
      cases c with
      | initProcessGroup backend initMethod timeout worldSize rank store groupName =>
        obtain ⟨hg, hok⟩ := initProcessGroupSetup_grows env { x with fresh := p.heap } backend
          initMethod timeout worldSize rank store groupName p.st
        simp only [Cluster.step, hi]
        split
        · -- It started without a world, so every key it used is below its count.
          obtain ⟨hw₀, hw⟩ := hok _ ‹_›
          refine hk.enterBarrier hi hg (fun c hc => ?_) hw _ _ _
          simp only [hw₀, ne_eq, not_true_eq_false, and_false, or_false] at hc
          exact Nat.lt_of_lt_of_le hc hg.groupCount
        · exact hk.setNode hi hg
      | newGroup ranks timeout backend =>
        obtain ⟨hg, hok⟩ := newGroupSetup_grows env { x with fresh := p.heap } ranks timeout
          backend p.st
        simp only [Cluster.step, hi]
        split
        · -- It moved the counter on past every key it used.
          obtain ⟨hc', hw⟩ := hok _ ‹_›
          refine hk.enterBarrier hi hg (fun c hc => ?_) hw _ _ _
          rw [hc']
          dsimp only at hc
          rcases hc with hc | ⟨rfl, -⟩ <;> omega
        · exact hk.setNode hi hg
      | destroyProcessGroup target =>
        simp only [Cluster.step, hi]
        refine hk.setNode hi ?_
        simp only [Cluster.destroysWorld, hi] at hd
        simp only [Proc.step]
        cases hr : p.resolve target with
        | error e => exact .refl _
        | ok group =>
          rw [hr] at hd
          obtain ⟨hc, hw⟩ := destroyProcessGroup_keeps (of_decide_eq_false hd)
          exact ⟨hc.ge, by rw [hw]; exact id⟩
  | poll i =>
    simp only [Cluster.step]
    split
    next _ p _ _ _ _ hi =>
      split
      · exact (hk.setNode hi (.refl p.st)).passed _ _ _
      · exact hk
    next => exact hk
  | timeout i =>
    simp only [Cluster.step]
    split
    next _ p _ _ _ _ hi => exact hk.setNode hi (.refl p.st)
    next => exact hk

/-- Every run that destroys no world keeps `AddsOnce`. -/
theorem run (hk : k.AddsOnce) {actions : List Action} (hkeep : k.keepsWorlds actions = true) :
    (k.run actions).AddsOnce := by
  induction actions generalizing k with
  | nil => exact hk
  | cons a actions ih =>
    simp only [Cluster.keepsWorlds, Bool.and_eq_true, Bool.not_eq_true'] at hkeep
    exact ih (hk.step hkeep.1) hkeep.2

end Cluster.AddsOnce

/-- In every interleaved run of processes sharing one store in which no process destroys
    its world, a process leaves `_store_based_barrier` on a key having seen
    `store.add(key, 1)` from pairwise distinct processes, as many as its world size. -/
theorem barrier_arrivals_distinct (n : Nat) (actions : List Action)
    (hkeep : (Cluster.initial n).keepsWorlds actions = true) (j i : Nat) (key : String)
    (worldSize : Int)
    (h : ((Cluster.initial n).run actions).events[j]? = some (.passed i key worldSize)) :
    (arrivals (((Cluster.initial n).run actions).events.take j) key).Nodup ∧
      ((arrivals (((Cluster.initial n).run actions).events.take j) key).length : Int) =
        worldSize := by
  have hk := (Cluster.AddsOnce.initial n).run hkeep
  -- Over the whole run, each process added to the key at most once.
  have hall : (arrivals ((Cluster.initial n).run actions).events key).Nodup :=
    List.nodup_iff_count_le_one.2 fun i' => (count_arrivals _ _ _).trans_le (hk.once i' key)
  refine ⟨hall.sublist (((List.take_sublist _ _).filter _).map _), ?_⟩
  rw [length_arrivals]
  exact ((Cluster.Counted.initial n).run actions).passed j i key worldSize h

/-- Processes 0 and 1 build a world of two on one store and pass its barrier. -/
def pairBarrierActions : List Action :=
  [.call 0 glooWorld (.initProcessGroup Backend.gloo none (.timedelta 1800) 2 0 (some ⟨0⟩) "")
    ⟨0, false, none⟩,
   .call 1 glooWorld (.initProcessGroup Backend.gloo none (.timedelta 1800) 2 1 (some ⟨0⟩) "")
    ⟨0, false, none⟩,
   .poll 0, .poll 1]

/-- In that run the first return, process 0's, follows one add by each process. -/
theorem pair_barrier_arrivals :
    (Cluster.initial 2).keepsWorlds pairBarrierActions = true ∧
    ((Cluster.initial 2).run pairBarrierActions).events[2]? =
      some (.passed 0 (storeKey 1) 2) ∧
    (arrivals (((Cluster.initial 2).run pairBarrierActions).events.take 2) (storeKey 1)).Nodup ∧
    ((arrivals (((Cluster.initial 2).run pairBarrierActions).events.take 2)
      (storeKey 1)).length : Int) = 2 :=
  ⟨by decide, by decide,
    barrier_arrivals_distinct 2 pairBarrierActions (by decide) 2 0 (storeKey 1) 2 (by decide)⟩

end DistributedC10d
