import DistributedC10d.Theory.Registry

/-!
# Failed Creations

A creation that raises does not always leave the globals as it found them. The helper
names an unnamed group `str(_group_count)` and advances the counter before it checks
anything, so a creation that fails in the helper (a name already taken, a timeout of the
wrong type, an unknown or unavailable backend, a constructor that raises) has used up a
default name. And the closing barrier comes after every write: a creation whose
store-based barrier times out leaves its group registered with its rank map, and
`init_process_group` leaves the world set.

These are the only two ways. A creation that raises leaves the globals unchanged, or
with only the counter moved on by one, or it raised at its barrier and leaves what it
wrote before it.

## Theorems

* `newGroup_failure`, `initProcessGroup_failure`: What a failed creation leaves.
* `failed_creation_effect`: Both together.
* `duplicate_name_moves_count`: A `new_group` that raises `DuplicateGroupName` and has
  moved the counter on.
-/

namespace DistributedC10d

/-- A failed `new_group` left the globals as they were, or moved only the counter on, or
    raised at its barrier after every write. -/
theorem newGroup_failure (env : Env) (ext : Ext) (ranks : Option (List Int))
    (timeout : Timeout) (backend : Option String) (s : State) (e : Error)
    (h : (newGroup env ext ranks timeout backend s).result = .error e) :
    let s' := (newGroup env ext ranks timeout backend s).state
    s' = s ∨ s' = { s with groupCount := s.groupCount + 1 } ∨
    ∃ pg sync, newGroupSetup env ext ranks timeout backend s = ⟨s', .ok (pg, sync)⟩ ∧
      (closeBarrier ext timeout sync s').result = .error e := by
  intro s'
  simp only [s', newGroup_apply] at h ⊢
  rcases newGroupSetup_cases env ext ranks timeout backend s with
    ⟨e', -, ho⟩ | ⟨a, -, ⟨e', ho⟩ | ⟨-, ho⟩ | ⟨r, size, b, st, -, -, -, ho⟩⟩ <;> rw [ho] at h ⊢
  · exact .inl rfl
  · exact .inr (.inl rfl)
  all_goals exact .inr (.inr ⟨_, _, rfl, Except.map_eq_error h⟩)

/-- A failed `init_process_group` left the globals as they were, or, given no group name,
    moved only the counter on, or raised at its barrier after every write. -/
theorem initProcessGroup_failure (env : Env) (ext : Ext) (backend : String)
    (initMethod : Option String) (timeout : Timeout) (worldSize rank : Int)
    (store : Option Store) (groupName : String) (s : State) (e : Error)
    (h : (initProcessGroup env ext backend initMethod timeout worldSize rank store groupName
      s).result = .error e) :
    let s' := (initProcessGroup env ext backend initMethod timeout worldSize rank store
      groupName s).state
    s' = s ∨ (groupName = "" ∧ s' = { s with groupCount := s.groupCount + 1 }) ∨
    ∃ sync, initProcessGroupSetup env ext backend initMethod timeout worldSize rank store
      groupName s = ⟨s', .ok sync⟩ ∧ (closeBarrier ext timeout sync s').result = .error e := by
  intro s'
  simp only [s', initProcessGroup_apply] at h ⊢
  rcases initProcessGroupSetup_cases env ext backend initMethod timeout worldSize rank store
    groupName s with ⟨e', -, ho⟩ | ⟨a, -, -, ⟨e', ho⟩ | ⟨r, size, b, st, -, -, ho⟩⟩ <;>
    rw [ho] at h ⊢
  · exact .inl rfl
  · by_cases hg : groupName = ""
    · exact .inr (.inl ⟨hg, by simp [DistributedC10d.named, hg]⟩)
    · exact .inl (by simp [DistributedC10d.named, hg])
  · exact .inr (.inr ⟨_, rfl, h⟩)

/-- A creation that raises leaves the globals unchanged, or with only `_group_count`
    moved on by one, the group having been given no name; or it raised at its closing
    barrier, after all its writes. -/
theorem failed_creation_effect (env : Env) (ext : Ext) (s : State) (e : Error) :
    (∀ ranks timeout backend, (newGroup env ext ranks timeout backend s).result = .error e →
      let s' := (newGroup env ext ranks timeout backend s).state
      s' = s ∨ s' = { s with groupCount := s.groupCount + 1 } ∨
      ∃ pg sync, newGroupSetup env ext ranks timeout backend s = ⟨s', .ok (pg, sync)⟩ ∧
        (closeBarrier ext timeout sync s').result = .error e) ∧
    (∀ backend initMethod timeout worldSize rank store groupName,
      (initProcessGroup env ext backend initMethod timeout worldSize rank store groupName
        s).result = .error e →
      let s' := (initProcessGroup env ext backend initMethod timeout worldSize rank store
        groupName s).state
      s' = s ∨ (groupName = "" ∧ s' = { s with groupCount := s.groupCount + 1 }) ∨
      ∃ sync, initProcessGroupSetup env ext backend initMethod timeout worldSize rank store
        groupName s = ⟨s', .ok sync⟩ ∧ (closeBarrier ext timeout sync s').result = .error e) :=
  ⟨fun ranks timeout backend => newGroup_failure env ext ranks timeout backend s e,
   fun backend initMethod timeout worldSize rank store groupName =>
    initProcessGroup_failure env ext backend initMethod timeout worldSize rank store groupName
      s e⟩

/-- Rank 0 has called `init_process_group` for a Gloo world of two, naming the world `"0"`. -/
def worldNamedZero : Proc := Proc.initial.run glooWorld
  [(.initProcessGroup Backend.gloo none (.timedelta 1800) 2 0 (some ⟨0⟩) "0", ⟨0, false, none⟩)]

/-- The world named `"0"`, then `new_group()`: the default name is `"0"`, taken, and the
    call raises with the counter already moved on. -/
theorem failed_creation_effect_duplicate :
    let s := worldNamedZero.st
    let s' := (newGroup glooWorld ⟨1, false, none⟩ none (.timedelta 1800) none s).state
    s' = s ∨ s' = { s with groupCount := s.groupCount + 1 } ∨
      ∃ pg sync, newGroupSetup glooWorld ⟨1, false, none⟩ none (.timedelta 1800) none s =
        ⟨s', .ok (pg, sync)⟩ ∧
        (closeBarrier ⟨1, false, none⟩ (.timedelta 1800) sync s').result =
          .error duplicateGroupName :=
  (failed_creation_effect glooWorld ⟨1, false, none⟩ _ duplicateGroupName).1 none
    (.timedelta 1800) none (by decide)

/-- In a reachable state, a `new_group` that raises `DuplicateGroupName` leaves
    `_group_count` one higher than it found it. -/
theorem duplicate_name_moves_count :
    Reachable worldNamedZero ∧
      (newGroup glooWorld ⟨1, false, none⟩ none (.timedelta 1800) none worldNamedZero.st).result =
        .error duplicateGroupName ∧
      (newGroup glooWorld ⟨1, false, none⟩ none (.timedelta 1800) none
        worldNamedZero.st).state.groupCount = worldNamedZero.st.groupCount + 1 :=
  ⟨Reachable.initial.run _ _, by decide, by decide⟩

end DistributedC10d
