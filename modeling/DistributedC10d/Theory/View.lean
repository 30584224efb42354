import DistributedC10d.Theory.Registry
import DistributedC10d.Theory.Membership

/-!
# What One Call Does to a Process

`Proc.view` is the part of a process's globals that every rank of a world computes
alike: the objects built so far, `_group_count`, `is_initialized()`, `get_world_size()`
and `get_backend()`, the default group's name, and which of the handles its creations
left it is the default group. Each lifecycle call clears the view with the world, or
keeps the world and moves only the object count, the counter and the handles on; and the
only rank map a call can add is under the object it builds.

A default name is `str(_group_count)`. Reading the digits back shows that a name handed
out for an earlier count is never the next one, so the next default name is taken only
when it is the world's.

## Main definitions

* `View`, `Proc.view`: What a process's globals show.
* `KeepsWorld`: A call that leaves the default group with its record and its name.

## Theorems

* `toString_injective`: Distinct counts give distinct default names.
* `Inv.destroy_state`: `destroy_process_group` clears everything or keeps the world.
* `Proc.step_destroy`, `Proc.step_newGroup`: The view after a call that keeps the world.
* `Proc.view_initialized`: The view once `init_process_group` has built the world.
-/

namespace DistributedC10d

/-! ### Default names -/

/-- The value of a list of decimal digits, most significant first. -/
def digitsValue (cs : List Char) (acc : Nat) : Nat :=
  cs.foldl (fun acc c => 10 * acc + (c.toNat - '0'.toNat)) acc

theorem digitChar_value {d : Nat} (h : d < 10) : (Nat.digitChar d).toNat - '0'.toNat = d := by
  have key : ∀ d < 10, (Nat.digitChar d).toNat - '0'.toNat = d := by decide
  exact key d h

/-- Reading back the digits `Nat.toDigitsCore` writes in front of `ds`, given the fuel
    it needs, is reading `ds` after `n`. -/
theorem digitsValue_toDigitsCore (fuel n : Nat) (ds : List Char) (h : n < fuel) :
    digitsValue (Nat.toDigitsCore 10 fuel n ds) 0 = digitsValue ds n := by
  induction fuel generalizing n ds with
  | zero => omega
  | succ fuel ih =>
    have hd := digitChar_value (Nat.mod_lt n (by decide : 10 > 0))
    show digitsValue (if n / 10 = 0 then Nat.digitChar (n % 10) :: ds
      else Nat.toDigitsCore 10 fuel (n / 10) (Nat.digitChar (n % 10) :: ds)) 0 = _
    split
    · simp only [digitsValue, List.foldl_cons, hd]
      congr 1
      omega
    · rw [ih _ _ (by omega)]
      simp only [digitsValue, List.foldl_cons, hd]
      congr 1
      omega

/-- `str(n)` tells counts apart. -/
theorem toString_injective {a b : Nat} (h : toString a = toString b) : a = b := by
  have hd : Nat.toDigits 10 a = Nat.toDigits 10 b := congrArg String.data h
  have hv : digitsValue (Nat.toDigitsCore 10 (a + 1) a []) 0 =
      digitsValue (Nat.toDigitsCore 10 (b + 1) b []) 0 := congrArg (digitsValue · 0) hd
  rw [digitsValue_toDigitsCore _ _ _ (Nat.lt_succ_self a),
    digitsValue_toDigitsCore _ _ _ (Nat.lt_succ_self b)] at hv
  exact hv

/-! ### The view of one process -/

/-- What two ranks of one world must agree on after every call: the objects built so far,
    `_group_count`, `is_initialized()`, `get_world_size()` and `get_backend()`, the default
    group's name, and which of the handles their creations left them is the default
    group. -/
structure View where
  heap : Nat
  groupCount : Nat
  initialized : Bool
  worldSize : Except Error Int
  backend : Except Error Attr
  worldName : Option String
  createdWorld : List Bool

/-- A process's `View`. -/
def Proc.view (p : Proc) : View where
  heap := p.heap
  groupCount := p.st.groupCount
  initialized := isInitialized p.st
  worldSize := getWorldSize p.st none
  backend := getBackend p.st none
  worldName := p.st.world.bind p.st.pgNames.get?
  createdWorld := p.created.map fun h => isInitialized p.st && h == p.st.world

/-- The view once the default group is destroyed, with everything else. -/
def View.cleared (v : View) : View :=
  { v with
    groupCount := 0
    initialized := false
    worldSize := .error notInitialized
    backend := .error notInitialized
    worldName := none
    createdWorld := v.createdWorld.map fun _ => false }

/-- The view once a creation that kept the world has run: one more object, the counter it
    left, and whether the handle it left is the world. -/
def View.afterCreation (v : View) (groupCount : Nat) (isWorld : Bool) : View :=
  { v with
    heap := v.heap + 1
    groupCount := groupCount
    createdWorld := v.createdWorld ++ [isWorld] }

/-- What every rank can pass `destroy_process_group` alike: nothing, the world, or its
    own handle from one creation. -/
def Target.Own : Target → Prop
  | .handle _ => False
  | _ => True

/-- Whether `destroy_process_group(target)` destroys the default group, read off the view:
    for `None` and the world, whether there is one; for a creation's handle, whether it
    is the world. -/
def View.destroysWorld (v : View) : Target → Bool
  | .none | .world => v.initialized
  | .created k => v.createdWorld[k]?.getD false
  | .handle _ => false

/-- Every handle a creation left a process with is the sentinel or an object built
    before. -/
def Proc.CreatedBuilt (p : Proc) : Prop :=
  ∀ h, some h ∈ p.created → h = .nonGroupMember ∨ h.builtBefore p.heap

/-- A call that leaves the default group with its record and its name. -/
structure KeepsWorld (s s' : State) : Prop where
  world : s'.world = s.world
  record : ∀ w, s.world = some w → s'.pgMap.get? w = s.pgMap.get? w
  name : ∀ w, s.world = some w → s'.pgNames.get? w = s.pgNames.get? w

namespace KeepsWorld

variable {s s' : State}

theorem getWorldSize (h : KeepsWorld s s') : getWorldSize s' none = getWorldSize s none := by
  simp [DistributedC10d.getWorldSize, getGroupSize, getDefaultGroup, h.world]

theorem getBackend (h : KeepsWorld s s') : getBackend s' none = getBackend s none := by
  cases hw : s.world with
  | none => simp [DistributedC10d.getBackend, getDefaultGroup, h.world, hw, bind, Except.bind]
  | some w =>
    simp [DistributedC10d.getBackend, getDefaultGroup, h.world, hw, bind, Except.bind,
      h.record w hw]

theorem worldName (h : KeepsWorld s s') :
    s'.world.bind s'.pgNames.get? = s.world.bind s.pgNames.get? := by
  cases hw : s.world with
  | none => simp [h.world, hw]
  | some w => simp [h.world, hw, h.name w hw]

/-- A process whose globals keep the world has the view of before, but for the objects,
    the counter and the handles. -/
theorem view {p p' : Proc} (h : KeepsWorld p.st p'.st) :
    p'.view =
      { p.view with
        heap := p'.heap
        groupCount := p'.st.groupCount
        createdWorld := p'.created.map fun g => isInitialized p.st && g == p.st.world } := by
  simp only [Proc.view, h.getWorldSize, h.getBackend, isInitialized]
  rw [h.worldName, h.world]

theorem refl (s : State) : KeepsWorld s s := ⟨rfl, fun _ _ => rfl, fun _ _ => rfl⟩

theorem named (s : State) (g : String) : KeepsWorld s (named s g) :=
  ⟨by simp, by simp, by simp⟩

theorem withRanks (h : KeepsWorld s s') (pg : Handle) (l : List Int) :
    KeepsWorld s (withRanks s' pg l) :=
  ⟨h.world, h.record, h.name⟩

/-- Registering an object other than the world. -/
theorem registered (h : KeepsWorld s s') {pg : Handle} (hw : s.world ≠ some pg)
    (record : Attr × Option Store) (name : String) :
    KeepsWorld s (DistributedC10d.registered s' pg record name) := by
  refine ⟨h.world, fun w hs => ?_, fun w hs => ?_⟩ <;>
    have hne : w ≠ pg := fun hwp => hw (hwp ▸ hs)
  · simp [PyDict.get?_set, hne, h.record w hs]
  · simp [PyDict.get?_set, hne, h.name w hs]

/-- Destroying a group other than the world. -/
theorem erased {pg : Handle} (hw : s.world ≠ some pg) : KeepsWorld s (erased s pg) := by
  refine ⟨rfl, fun w hs => ?_, fun w hs => ?_⟩ <;>
    have hne : w ≠ pg := fun hwp => hw (hwp ▸ hs)
  · simp [PyDict.get?_erase, hne]
  · simp [PyDict.get?_erase, hne]

end KeepsWorld

/-! ### Each call on one rank -/

section OneRank

variable {s : State} {n : Nat}

theorem Inv.world_ne_sentinel (hi : Inv s n) : s.world ≠ some .nonGroupMember := fun hw =>
  Handle.ne_sentinel_of_builtBefore (hi.built _ (hi.world _ hw).1) rfl

/-- Without a world there are no names. -/
theorem Inv.names_nil (hi : Inv s n) (hw : s.world = none) : s.pgNames.values = [] := by
  refine List.eq_nil_iff_forall_not_mem.2 fun v hv => ?_
  obtain ⟨k, hk⟩ := PyDict.mem_values.1 hv
  have hk' := (hi.names_keys k).1 (PyDict.mem_keys_iff.2 ⟨v, hk⟩)
  simp [(hi.empty hw).1] at hk'

/-- `destroy_process_group(group)` clears everything when it is given the world, or `None`
    while there is one; otherwise it keeps the world, and at most deletes another group. -/
theorem Inv.destroy_state (hi : Inv s n) (group : Option Handle) :
    (isInitialized s ∧ (group = none ∨ group = s.world) ∧
      (destroyProcessGroup group s).state = DistributedC10d.cleared s) ∨
    (¬(isInitialized s ∧ (group = none ∨ group = s.world)) ∧
      KeepsWorld s (destroyProcessGroup group s).state ∧
      (destroyProcessGroup group s).state.groupCount = s.groupCount ∧
      ∀ h m, (destroyProcessGroup group s).state.pgGroupRanks.get? h = some m →
        s.pgGroupRanks.get? h = some m) := by
  -- Given the world or `None`, the call acts on the world.
  have htarget : group = none ∨ group = s.world → destroyTarget s group = s.world := by
    rintro (rfl | rfl)
    · rfl
    · exact destroyTarget_world s
  rcases destroyProcessGroup_cases group s with
    ⟨rfl, ho⟩ | ⟨hd, ho⟩ | ⟨pg, hd, hk, ho⟩ | ⟨pg, hw, hd, hk, ho⟩ |
    ⟨pg, rfl, hw, hk, ⟨-, -, ho⟩ | hn | hr⟩
  -- A call that raises, or is given the sentinel, keeps the state as it was.
  · rw [ho]
    refine .inr ⟨fun ⟨_, hg⟩ => ?_, .refl s, rfl, fun _ _ => id⟩
    rcases hg with hg | hg
    · cases hg
    · exact hi.world_ne_sentinel hg.symm
  · rw [ho]
    refine .inr ⟨fun ⟨hin, hg⟩ => ?_, .refl s, rfl, fun _ _ => id⟩
    rw [htarget hg] at hd
    simp [isInitialized, hd] at hin
  · rw [ho]
    refine .inr ⟨fun ⟨_, hg⟩ => hk ?_, .refl s, rfl, fun _ _ => id⟩
    exact (hi.world pg ((htarget hg).symm.trans hd)).1
  · rw [ho]
    refine .inl ⟨by simp [isInitialized, hw], ?_, rfl⟩
    cases group with
    | none => exact .inl rfl
    | some g => exact .inr (hd.trans hw.symm)
  · rw [ho]
    refine .inr ⟨fun ⟨_, hg⟩ => ?_, .erased hw, rfl, fun h m hm => ?_⟩
    · rcases hg with hg | hg
      · cases hg
      · exact hw hg.symm
    · simp only [erased_pgGroupRanks, PyDict.get?_erase] at hm
      split at hm
      · cases hm
      · exact hm
  · exact absurd ((hi.names_keys pg).2 hk) hn
  · exact absurd (hi.ranks_keys pg hk) hr

theorem Proc.view_cleared (p : Proc) :
    ({ p with st := DistributedC10d.cleared p.st } : Proc).view = p.view.cleared := by
  simp [Proc.view, View.cleared, getWorldSize, getGroupSize, getDefaultGroup, getBackend,
    isInitialized, bind, Except.bind, Function.comp_def]

/-- Whether the call destroys the world, as the view tells it, is what `destroy_process_group`
    decides on the handle `target` resolves to. -/
theorem Proc.destroysWorld_eq (p : Proc) {target : Target} (ht : target.Own) :
    p.view.destroysWorld target = match p.resolve target with
      | .ok group => decide (isInitialized p.st ∧ (group = none ∨ group = p.st.world))
      | .error _ => false := by
  cases target with
  | none => simp [View.destroysWorld, Proc.view, Proc.resolve]
  | world => simp [View.destroysWorld, Proc.view, Proc.resolve]
  | created k =>
    simp only [View.destroysWorld, Proc.view, Proc.resolve, List.getElem?_map]
    rcases hk : p.created[k]? with _ | _ | h
    · rfl
    · cases hw : p.st.world <;> simp [isInitialized, hw]
    · cases hw : p.st.world <;> simp [isInitialized, hw, Bool.beq_eq_decide_eq]
  | handle h => exact ht.elim

/-- `destroy_process_group` of a handle every rank can name: the view is cleared or kept,
    and no rank map appears. -/
theorem Proc.step_destroy {p : Proc} (hi : Inv p.st p.heap) {target : Target} (ht : target.Own)
    (env : Env) (x : Ext) :
    (p.step env x (.destroyProcessGroup target)).1.view =
      (if p.view.destroysWorld target then p.view.cleared else p.view) ∧
    ∀ h m, (p.step env x (.destroyProcessGroup target)).1.st.pgGroupRanks.get? h = some m →
      p.st.pgGroupRanks.get? h = some m := by
  rw [p.destroysWorld_eq ht]
  simp only [Proc.step]
  cases p.resolve target with
  | error er =>
    simp only [Bool.false_eq_true, if_false]
    exact ⟨trivial, fun _ _ => id⟩
  | ok group =>
    rcases hi.destroy_state group with ⟨hin, hg, ho⟩ | ⟨hc, hk, hcount, hrm⟩
    · have hd : decide (isInitialized p.st = true ∧ (group = none ∨ group = p.st.world)) = true :=
        decide_eq_true ⟨hin, hg⟩
      simp only [hd, if_true, ho]
      exact ⟨p.view_cleared, by simp⟩
    · have hd : decide (isInitialized p.st = true ∧ (group = none ∨ group = p.st.world)) = false :=
        decide_eq_false hc
      simp only [hd, Bool.false_eq_true, if_false]
      refine ⟨?_, hrm⟩
      rw [KeepsWorld.view (p := p) hk]
      simp [Proc.view, hcount]

/-- The handle `new_group` returns is the sentinel or the object the call built. -/
theorem newGroup_ok {env : Env} {ext : Ext} {ranks : Option (List Int)} {timeout : Timeout}
    {backend : Option String} {h : Handle}
    (hr : (newGroup env ext ranks timeout backend s).result = .ok h) :
    h = .nonGroupMember ∨ ∃ r k, h = .pg ext.fresh r k := by
  rw [newGroup_apply] at hr
  rcases newGroupSetup_cases env ext ranks timeout backend s with
    ⟨e, -, ho⟩ | ⟨a, -, ⟨e, ho⟩ | ⟨-, ho⟩ | ⟨r, size, b, st, -, -, -, ho⟩⟩ <;>
    rw [ho] at hr
  · cases hr
  · cases hr
  · obtain ⟨_, -, hh⟩ := Except.map_eq_ok_iff.1 hr
    exact .inl hh.symm
  · obtain ⟨_, -, hh⟩ := Except.map_eq_ok_iff.1 hr
    exact .inr ⟨r, size, hh.symm⟩

/-- A handle that is the sentinel or a new object is not the world. -/
theorem Inv.not_world (hi : Inv s n) {h : Option Handle}
    (hh : h = none ∨ h = some .nonGroupMember ∨ ∃ r k, h = some (.pg n r k)) :
    (isInitialized s && h == s.world) = false := by
  cases hw : s.world with
  | none => simp [isInitialized, hw]
  | some w =>
    have hb := hi.built w (hi.world w hw).1
    rcases hh with rfl | rfl | ⟨r, k, rfl⟩
    · simp
    · simpa [isInitialized, hw] using (Handle.ne_sentinel_of_builtBefore hb).symm
    · simpa [isInitialized, hw] using (Handle.ne_of_builtBefore hb r k).symm

/-- `new_group` on one rank: the counter moves on exactly when its checks pass, the world
    is kept, the handle it leaves is not the world, and the only rank map it can add is
    under the object it builds, from the checked list. -/
theorem Proc.step_newGroup {p : Proc} (hi : Inv p.st p.heap) (env : Env) (x : Ext)
    (ranks : Option (List Int)) (timeout : Timeout) (backend : Option String) :
    (p.step env x (.newGroup ranks timeout backend)).1.view =
      p.view.afterCreation (if (groupArgs env p.st ranks backend).isOk then p.view.groupCount + 1
        else p.view.groupCount) false ∧
    ∀ i r k m,
      (p.step env x (.newGroup ranks timeout backend)).1.st.pgGroupRanks.get? (.pg i r k) =
        some m →
      p.st.pgGroupRanks.get? (.pg i r k) = some m ∨
        (i = p.heap ∧ ∃ a, groupArgs env p.st ranks backend = .ok a ∧ m = rankMap a.ranks) := by
  simp only [Proc.step, newGroup_state]
  have hflag : (isInitialized p.st &&
      (newGroup env { x with fresh := p.heap } ranks timeout backend p.st).result.toOption ==
        p.st.world) = false := by
    refine hi.not_world ?_
    cases hr : (newGroup env { x with fresh := p.heap } ranks timeout backend p.st).result with
    | error e => exact .inl rfl
    | ok h =>
      rcases newGroup_ok hr with rfl | ⟨r, k, rfl⟩
      · exact .inr (.inl rfl)
      · exact .inr (.inr ⟨r, k, rfl⟩)
  have hview : ∀ S : State, KeepsWorld p.st S →
      S.groupCount = (if (groupArgs env p.st ranks backend).isOk then p.st.groupCount + 1
        else p.st.groupCount) →
      (⟨S, p.heap + 1, p.created ++
        [(newGroup env { x with fresh := p.heap } ranks timeout backend p.st).result.toOption]⟩ :
          Proc).view =
        p.view.afterCreation (if (groupArgs env p.st ranks backend).isOk then
          p.view.groupCount + 1 else p.view.groupCount) false := fun S hk hc => by
    rw [KeepsWorld.view (p := p) hk]
    simp [Proc.view, View.afterCreation, hc, hflag]
  rcases newGroupSetup_cases env { x with fresh := p.heap } ranks timeout backend p.st with
    ⟨e, hg, ho⟩ | ⟨a, hg, ⟨e, ho⟩ | ⟨-, ho⟩ | ⟨r, size, b, st, -, -, -, ho⟩⟩ <;>
    simp only [ho]
  · exact ⟨hview _ (KeepsWorld.refl _) (by simp [hg, Except.isOk, Except.toBool]),
      fun _ _ _ _ => .inl⟩
  · exact ⟨hview _ (KeepsWorld.named _ _) (by simp [hg, Except.isOk, Except.toBool]),
      fun _ _ _ _ => .inl⟩
  · refine ⟨hview _ ((KeepsWorld.named _ _).withRanks _ _)
      (by simp [hg, Except.isOk, Except.toBool]), fun i r k m hm => .inl ?_⟩
    simpa [PyDict.get?_set] using hm
  · have hne : p.st.world ≠ some (.pg p.heap r size) := fun hw =>
      Handle.ne_of_builtBefore (hi.built _ (hi.world _ hw).1) r size rfl
    refine ⟨hview _ (((KeepsWorld.named _ _).registered hne _ _).withRanks _ _)
      (by simp [hg, Except.isOk, Except.toBool]), fun i r' k m hm => ?_⟩
    simp only [withRanks_pgGroupRanks, registered_pgGroupRanks, named_pgGroupRanks,
      PyDict.get?_set] at hm
    split at hm
    · rename_i heq
      cases heq
      exact .inr ⟨rfl, a, hg, (Option.some.inj hm).symm⟩
    · exact .inl hm

theorem Inv.lt_of_get? (hi : Inv s n) {i : Nat} {r k : Int} {m : PyDict Int Int}
    (h : s.pgGroupRanks.get? (.pg i r k) = some m) : i < n := by
  rcases hi.ranks_registered _ (PyDict.mem_keys_iff.2 ⟨m, h⟩) with hk | hk
  · exact hi.built _ hk
  · cases hk

/-- The next default name is taken exactly when it is the world's. -/
theorem Inv.defaultName_mem (hi : Inv s n) :
    toString s.groupCount ∈ s.pgNames.values ↔
      s.world.bind s.pgNames.get? = some (toString s.groupCount) := by
  constructor
  · intro hm
    obtain ⟨k, hk⟩ := PyDict.mem_values.1 hm
    rcases hi.names k _ hk with hw | ⟨c, hc, heq⟩
    · simp [hw, hk]
    · exact absurd (toString_injective heq) (by omega)
  · intro hb
    cases hw : s.world with
    | none => simp [hw] at hb
    | some w =>
      simp only [hw, Option.bind_some] at hb
      exact PyDict.mem_values.2 ⟨w, hb⟩

theorem Reachable.createdBuilt {p : Proc} (hp : Reachable p) : p.CreatedBuilt := by
  induction hp with
  | initial => intro h hh; simp [Proc.initial] at hh
  | step env x c hp ih =>
    rename_i p
    have hi := (hp.step env x c).inv
    have hold : ∀ h, some h ∈ p.created → h = .nonGroupMember ∨ h.builtBefore (p.heap + 1) :=
      fun h hh => (ih h hh).imp_right (·.mono (Nat.le_succ _))
    cases c with
    | initProcessGroup backend initMethod timeout worldSize rank store groupName =>
      intro h hh
      simp only [Proc.step, List.mem_append, List.mem_singleton] at hh hi
      rcases hh with hh | hh
      · exact hold h hh
      · exact .inr (hi.built h (hi.world h hh.symm).1)
    | newGroup ranks timeout backend =>
      intro h hh
      simp only [Proc.step, List.mem_append, List.mem_singleton] at hh
      rcases hh with hh | hh
      · exact hold h hh
      · have hr : (newGroup env { x with fresh := p.heap } ranks timeout backend p.st).result =
            .ok h := by
          revert hh
          cases (newGroup env { x with fresh := p.heap } ranks timeout backend p.st).result <;>
            simp [Except.toOption, eq_comm]
        rcases newGroup_ok hr with rfl | ⟨r, k, rfl⟩
        · exact .inl rfl
        · exact .inr (Nat.lt_succ_self _)
    | destroyProcessGroup target =>
      simp only [Proc.step]
      split <;> exact ih

/-- A creation that changed no global leaves the view of before, with one more object. -/
theorem Proc.view_unchanged (p : Proc) :
    (⟨p.st, p.heap + 1, p.created ++ [p.st.world]⟩ : Proc).view =
      p.view.afterCreation p.view.groupCount p.view.initialized := by
  rw [KeepsWorld.view (p := p) (KeepsWorld.refl _)]
  simp [Proc.view, View.afterCreation, isInitialized]

/-- `init_process_group` raising after naming the group, with no world. -/
theorem Proc.view_named (p : Proc) (hw : p.st.world = none) (g : String) :
    (⟨named p.st g, p.heap + 1, p.created ++ [(named p.st g).world]⟩ : Proc).view =
      p.view.afterCreation (named p.st g).groupCount false := by
  rw [KeepsWorld.view (p := p) (KeepsWorld.named _ _)]
  simp [Proc.view, View.afterCreation, isInitialized, hw]

/-- `init_process_group` building the world. -/
theorem Proc.view_initialized {p : Proc} (hc : p.CreatedBuilt) (hw : p.st.world = none)
    (g : String) (r size : Int) (b : Attr) (st : Option Store) (im : Option String) :
    (⟨initialized (registered (named p.st g) (.pg p.heap r size) (b, st) (nameOf p.st g))
        (.pg p.heap r size) size b im, p.heap + 1, p.created ++ [some (.pg p.heap r size)]⟩ :
          Proc).view =
      ⟨p.heap + 1, (named p.st g).groupCount, true, .ok size, .ok b, some (nameOf p.st g),
        p.view.createdWorld ++ [true]⟩ := by
  have hold : ∀ h ∈ p.created, (h == some (.pg p.heap r size)) = false := by
    intro h hh
    cases h with
    | none => rfl
    | some h =>
      rcases hc h hh with rfl | hb
      · rfl
      · simpa using Handle.ne_of_builtBefore hb r size
  unfold Proc.view
  congr 1
  case e_backend => simp [getBackend, getDefaultGroup, bind, Except.bind, pure, Except.pure]
  case e_worldName => simp
  case e_createdWorld =>
    simp only [isInitialized, hw, initialized_world, List.map_append, Option.isSome_some,
      Option.isSome_none, Bool.true_and, Bool.false_and]
    rw [List.map_congr_left hold]
    simp

end OneRank

end DistributedC10d
