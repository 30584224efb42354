import DistributedC10d.Core.Cluster
import DistributedC10d.Theory.Registry

/-!
# The Store-Based Barrier Over a Shared Store

`_store_based_barrier` counts arrivals under the key `store_based_barrier_key:` followed
by `_group_count`. What it guarantees is exactly this: a process leaves it on a key when
the number of `store.add(key, 1)` made on that key, by every process and in every
creation so far, equals its world size. Those are the arrivals of one creation only while
no key is used twice. `destroy_process_group` of the world resets `_group_count` to 0, so
a world built again on the same store uses the keys of the one before, whose counters
still hold that world's arrivals. Built again with more ranks, its first rank finds the
counter already at the world size after its own `add`, and returns before any other rank
has called `init_process_group`.

## Main definitions

* `addedCount`: How many `store.add(key, 1)` a list of events holds.
* `Cluster.Counted`: The counters are the adds, and every return saw its world size.

## Theorems

* `Cluster.step_cases`: An action adds to one key, or lets one process pass, or neither.
* `Cluster.Counted.run`: Every run keeps `Counted`.
* `passed_counts_all_adds`: The counters are the adds, and a process passes only when the
  adds on its key, over the whole run, number its world size.
* `reinit_barrier_passes_early`: An NCCL world of two, destroyed and built again with
  three.
-/

namespace DistributedC10d

/-- Whether an event is a `store.add(key, 1)`. -/
def BarrierEvent.addsTo (key : String) : BarrierEvent → Bool
  | .added _ k => k = key
  | .passed .. => false

/-- The number of `store.add(key, 1)` among `events`. -/
def addedCount (events : List BarrierEvent) (key : String) : Nat :=
  (events.filter (BarrierEvent.addsTo key)).length

@[simp] theorem addedCount_nil (key : String) : addedCount [] key = 0 := rfl

@[simp] theorem addedCount_append_added (events : List BarrierEvent) (i : Nat)
    (key key' : String) :
    addedCount (events ++ [.added i key]) key' =
      addedCount events key' + if key = key' then 1 else 0 := by
  by_cases h : key = key' <;> simp [addedCount, BarrierEvent.addsTo, h]

@[simp] theorem addedCount_append_passed (events : List BarrierEvent) (i : Nat)
    (key key' : String) (worldSize : Int) :
    addedCount (events ++ [.passed i key worldSize]) key' = addedCount events key' := by
  simp [addedCount, BarrierEvent.addsTo]

@[simp] theorem Counters.get_add (c : Counters) (key key' : String) (amount : Int) :
    (c.add key amount).get key' = if key = key' then c.get key + amount else c.get key' := by
  by_cases h : key = key'
  · subst h
    simp [Counters.add, Counters.get, List.lookup_cons]
  · simp [Counters.add, Counters.get, List.lookup_cons, beq_false_of_ne (Ne.symm h), h]

namespace Cluster

@[simp] theorem setNode_counters (k : Cluster) (i : Nat) (node : Node) :
    (k.setNode i node).counters = k.counters := rfl

@[simp] theorem setNode_events (k : Cluster) (i : Nat) (node : Node) :
    (k.setNode i node).events = k.events := rfl

/-- Going into the barrier adds to one key, or raises before the store is touched, or,
    for MPI, leaves the store alone. -/
theorem enterBarrier_cases (k : Cluster) (i : Nat) (p : Proc) (sync : Sync)
    (onReturn onRaise : Option Handle) :
    let k' := k.enterBarrier i p sync onReturn onRaise
    (k'.counters = k.counters ∧ k'.events = k.events) ∨
      ∃ key, k'.counters = k.counters.add key 1 ∧ k'.events = k.events ++ [.added i key] := by
  unfold enterBarrier
  split
  · exact .inl ⟨rfl, rfl⟩
  · split
    · exact .inl ⟨rfl, rfl⟩
    · split <;> exact .inr ⟨_, rfl, rfl⟩

/-- What an action does to the store and the events: nothing, one `store.add(key, 1)`,
    or one process passing its barrier on a key whose counter is its world size. -/
theorem step_cases (k : Cluster) (a : Action) :
    ((k.step a).counters = k.counters ∧ (k.step a).events = k.events) ∨
    (∃ i key, (k.step a).counters = k.counters.add key 1 ∧
      (k.step a).events = k.events ++ [.added i key]) ∨
    (∃ i key worldSize, k.counters.get key = worldSize ∧ (k.step a).counters = k.counters ∧
      (k.step a).events = k.events ++ [.passed i key worldSize]) := by
  cases a with
  | call i env c x =>
    simp only [step]
    split
    · split
      · split
        · rcases enterBarrier_cases k i _ _ _ _ with h | ⟨key, h⟩
          · exact .inl h
          · exact .inr (.inl ⟨i, key, h⟩)
        · exact .inl ⟨rfl, rfl⟩
      · split
        · rcases enterBarrier_cases k i _ _ _ _ with h | ⟨key, h⟩
          · exact .inl h
          · exact .inr (.inl ⟨i, key, h⟩)
        · exact .inl ⟨rfl, rfl⟩
      · exact .inl ⟨rfl, rfl⟩
    · exact .inl ⟨rfl, rfl⟩
  | poll i =>
    simp only [step]
    split
    · split
      · exact .inr (.inr ⟨i, _, _, by assumption, rfl, rfl⟩)
      · exact .inl ⟨rfl, rfl⟩
    · exact .inl ⟨rfl, rfl⟩
  | timeout i =>
    simp only [step]
    split <;> exact .inl ⟨rfl, rfl⟩

/-- The counters are the adds the events record, and every process that passed found the
    adds made on its key before it equal to its world size. -/
structure Counted (k : Cluster) : Prop where
  counters : ∀ key, k.counters.get key = addedCount k.events key
  passed : ∀ j i key worldSize, k.events[j]? = some (.passed i key worldSize) →
    (addedCount (k.events.take j) key : Int) = worldSize

theorem Counted.initial (n : Nat) : (Cluster.initial n).Counted where
  counters key := rfl
  passed j i key worldSize h := by simp [Cluster.initial] at h

/-- An event appended after the others leaves every earlier event and what came before
    it as it was. -/
theorem passed_of_append {events : List BarrierEvent} {e : BarrierEvent}
    (h : ∀ j i key worldSize, events[j]? = some (.passed i key worldSize) →
      (addedCount (events.take j) key : Int) = worldSize)
    (he : ∀ i key worldSize, e = .passed i key worldSize →
      (addedCount events key : Int) = worldSize)
    (j i : Nat) (key : String) (worldSize : Int)
    (hj : (events ++ [e])[j]? = some (.passed i key worldSize)) :
    (addedCount ((events ++ [e]).take j) key : Int) = worldSize := by
  rcases Nat.lt_or_ge j events.length with hlt | hge
  · rw [List.getElem?_append_left hlt] at hj
    rw [List.take_append_of_le_length hlt.le]
    exact h j i key worldSize hj
  · rw [List.getElem?_append_right hge] at hj
    obtain ⟨hj0, rfl⟩ : j - events.length = 0 ∧ e = .passed i key worldSize := by
      cases hjl : j - events.length <;> simp_all
    rw [show j = events.length by omega, List.take_left]
    exact he i key worldSize rfl

theorem Counted.step {k : Cluster} (hk : k.Counted) (a : Action) : (k.step a).Counted := by
  rcases step_cases k a with ⟨hc, he⟩ | ⟨i, key, hc, he⟩ | ⟨i, key, ws, hws, hc, he⟩
  · exact ⟨fun key => by rw [hc, he, hk.counters], fun j => by rw [he]; exact hk.passed j⟩
  · refine ⟨fun key' => ?_, fun j => ?_⟩
    · rw [hc, he, Counters.get_add, addedCount_append_added, hk.counters, hk.counters]
      split <;> simp_all
    · rw [he]
      exact passed_of_append hk.passed (fun _ _ _ h => by cases h) j
  · refine ⟨fun key' => by rw [hc, he, addedCount_append_passed, hk.counters], fun j => ?_⟩
    rw [he]
    refine passed_of_append hk.passed (fun i' key' ws' h => ?_) j
    cases h
    rw [← hk.counters, hws]

theorem Counted.run {k : Cluster} (hk : k.Counted) (actions : List Action) :
    (k.run actions).Counted := by
  induction actions generalizing k with
  | nil => exact hk
  | cons a actions ih => exact ih (hk.step a)

end Cluster

/-- In every interleaved run of processes sharing one store, the store's counter of every
    key is the number of `store.add(key, 1)` made on it, and a process leaves
    `_store_based_barrier` on a key only when the adds made on that key before, by every
    process and in every earlier creation too, number its world size. -/
theorem passed_counts_all_adds (n : Nat) (actions : List Action) :
    (∀ key, ((Cluster.initial n).run actions).counters.get key =
      addedCount ((Cluster.initial n).run actions).events key) ∧
    ∀ j i key worldSize,
      ((Cluster.initial n).run actions).events[j]? = some (.passed i key worldSize) →
      (addedCount (((Cluster.initial n).run actions).events.take j) key : Int) = worldSize :=
  let hk := (Cluster.Counted.initial n).run actions
  ⟨hk.counters, hk.passed⟩

/-- Processes 0 and 1 build an NCCL world of two on one store, pass its barrier and
    destroy it; then process 0 builds a world of three on the same store. -/
def reinitActions : List Action :=
  [.call 0 ncclWorld (.initProcessGroup Backend.nccl none (.timedelta 1800) 2 0 (some ⟨0⟩) "")
    ⟨0, false, none⟩,
   .call 1 ncclWorld (.initProcessGroup Backend.nccl none (.timedelta 1800) 2 1 (some ⟨0⟩) "")
    ⟨0, false, none⟩,
   .poll 0, .poll 1,
   .call 0 ncclWorld (.destroyProcessGroup .none) ⟨0, false, none⟩,
   .call 1 ncclWorld (.destroyProcessGroup .none) ⟨0, false, none⟩,
   .call 0 ncclWorld (.initProcessGroup Backend.nccl none (.timedelta 1800) 3 0 (some ⟨0⟩) "")
    ⟨0, false, none⟩,
   .poll 0]

/-- Three processes running `reinitActions`. -/
def reinitRun : Cluster := (Cluster.initial 3).run reinitActions

/-- The last return of that run counts three adds on its key: two from the first world. -/
theorem reinit_pass_counts_three :
    reinitRun.events[5]? = some (.passed 0 (storeKey 1) 3) ∧
      (addedCount (reinitRun.events.take 5) (storeKey 1) : Int) = 3 :=
  ⟨by decide, (passed_counts_all_adds 3 reinitActions).2 5 0 (storeKey 1) 3 (by decide)⟩

/-- In that run, process 0 passes the barrier of the world of three after its own `add`
    alone: the key is the first world's, and its counter already held that world's two
    arrivals. Processes 1 and 2 have not yet called `init_process_group` for it. -/
theorem reinit_barrier_passes_early :
    reinitRun.events =
      [.added 0 (storeKey 1), .added 1 (storeKey 1), .passed 0 (storeKey 1) 2,
        .passed 1 (storeKey 1) 2, .added 0 (storeKey 1), .passed 0 (storeKey 1) 3] ∧
    reinitRun.nodes.map (fun node => (node.proc.st.world, node.phase)) =
      [(some (.pg 1 0 3), .idle), (none, .idle), (none, .idle)] :=
  ⟨by decide, by decide⟩

end DistributedC10d
