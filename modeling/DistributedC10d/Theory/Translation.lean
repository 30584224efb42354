import DistributedC10d.Theory.Dispatch

/-!
# Rank Translation

The calls that name a peer or a root take its global rank `x` and hand the backend the
group-local one: `_pg_group_ranks[g][x]` for a subgroup, `x` itself for the default
group, whose numbering is the global one. The world's rank map is the identity over its
size, so over a registered group both come to the same thing: the object is handed
`m[x]`, where `m` is the group's rank map. `recv` from any source translates the sender
back through the same map, which is one-to-one, so it returns the one global rank that
maps to the reported source.

`gather` and `scatter` decide whether the caller is the root by comparing `x` with the
caller's global rank, and `reduce` by comparing the caller's group rank with `m[x]`. The
map is one-to-one, so the two tests agree. `reduce` hands the backend no root at all: it
all-reduces a clone of the tensor over the group, and the root copies the result back.

## Main definitions

* `Resolves`: The object a call is issued on, and the rank it hands it for `x`.
* `Translates`: What each call hands the backend, for one caller, group and rank.

## Theorems

* `isend_resolves` ... `reduce_resolves`: Each call, given how it resolves its group.
* `Inv.resolves`: In a reachable state, a registered group resolves `x` to `m[x]`.
* `dispatcher_rank_translation`: Every call translates through the group's rank map.
* `reduce_passes_no_root`: `reduce` issues the same call whatever the root.
-/

namespace DistributedC10d

theorem subgroup_eq_some {s : State} {group : Option Handle} {g : Handle} :
    subgroup s group = some g ↔ group = some g ∧ s.world ≠ some g := by
  unfold subgroup
  split_ifs with h <;> cases group <;> simp_all [eq_comm]

theorem groupOrDefault_of_subgroup_none {s : State} {group : Option Handle} {pg : Handle}
    (hs : subgroup s group = none) (hd : getDefaultGroup s = .ok pg) :
    groupOrDefault s group = .ok pg := by
  cases group with
  | none => exact hd
  | some g =>
    have hw : s.world = some g := by
      by_contra hw
      simp [subgroup_of_ne hw] at hs
    simpa [getDefaultGroup, hw] using hd

/-- `get_rank(group)` for `None` and `GroupMember.WORLD` is `get_rank()`. -/
theorem getRank_of_subgroup_none {s : State} {group : Option Handle}
    (hn : rankNotInGroup group = false) (hs : subgroup s group = none) :
    getRank s group = getRank s none := by
  cases group with
  | none => rfl
  | some g =>
    have hg : s.world = some g := by
      by_contra hg
      simp [subgroup_of_ne hg] at hs
    simp [getRank, hn, getDefaultGroup, hg]

/-- `get_rank(group)` for another group is the group rank of `get_rank()`. -/
theorem getRank_of_ne_world {s : State} {g : Handle} (hn : rankNotInGroup (some g) = false)
    (hw : s.world ≠ some g) : getRank s (some g) = getRank s none >>= getGroupRank s g := by
  cases hd : s.world with
  | none => simp [getRank, hn, getDefaultGroup, hd, bind, Except.bind]
  | some w =>
    have hwg : w ≠ g := fun h => hw (h ▸ hd)
    simp [getRank, hn, getDefaultGroup, hd, hwg, bind, Except.bind]

theorem validateOutputListForRank_eq_ok {myRank dst : Int} {gatherList : List Tensor} :
    validateOutputListForRank myRank dst gatherList = .ok () ↔
      (gatherList ≠ [] ↔ dst = myRank) := by
  unfold validateOutputListForRank
  cases gatherList <;> by_cases h : dst = myRank <;> simp [h]

/-- How a call resolves its group and the global rank `x` of a peer or root: for `None`
    and `GroupMember.WORLD`, the default group and `x` itself; for any other group, the
    group and `_get_group_rank(group, x)`. -/
def Resolves (s : State) (group : Option Handle) (pg : Handle) (x j : Int) : Prop :=
  (subgroup s group = none ∧ getDefaultGroup s = .ok pg ∧ j = x) ∨
    (subgroup s group = some pg ∧ getGroupRank s pg x = .ok j)

section Resolves

variable {s : State} {group : Option Handle} {pg : Handle} {x j : Int}

theorem Resolves.groupOrDefault (h : Resolves s group pg x j) :
    groupOrDefault s group = .ok pg := by
  rcases h with ⟨hs, hd, -⟩ | ⟨hs, -⟩
  · exact groupOrDefault_of_subgroup_none hs hd
  · rw [(subgroup_eq_some.1 hs).1]
    rfl

theorem Resolves.recvGroup (h : Resolves s group pg x j) : recvGroup s group = .ok pg := by
  rcases h with ⟨hs, hd, -⟩ | ⟨hs, -⟩
  · simp [DistributedC10d.recvGroup, hs, hd]
  · simp [DistributedC10d.recvGroup, hs]

/-- When the caller is the root, `get_rank(group)` is the rank the root is handed as. -/
theorem Resolves.getRank_root (h : Resolves s group pg x j) (hn : rankNotInGroup group = false)
    (hx : getRank s none = .ok x) : getRank s group = .ok j := by
  rcases h with ⟨hs, -, rfl⟩ | ⟨hs, hj⟩
  · rw [getRank_of_subgroup_none hn hs, hx]
  · obtain ⟨rfl, hw⟩ := subgroup_eq_some.1 hs
    rw [getRank_of_ne_world hn hw, hx]
    exact hj

variable (h : Resolves s group pg x j) (hn : rankNotInGroup group = false)
include h hn

theorem isend_resolves (t : Tensor) (tag : Int) (log : List Event) :
    isend s (.tensor t) x group tag log =
      ⟨log ++ [.call pg (.send [t] j tag)], .ok (some ⟨pg, log.length⟩)⟩ := by
  rcases h with ⟨hs, hr, rfl⟩ | ⟨hs, hr⟩ <;> simp [isend, hn, hs, hr]

theorem send_resolves (t : Tensor) (tag : Int) (log : List Event) :
    send s (.tensor t) x group tag log =
      ⟨log ++ [.call pg (.send [t] j tag), .wait ⟨pg, log.length⟩], .ok ()⟩ := by
  rcases h with ⟨hs, hr, rfl⟩ | ⟨hs, hr⟩ <;> simp [send, hn, hs, hr]

theorem irecv_resolves (t : Tensor) (tag : Int) (log : List Event) :
    irecv s (.tensor t) (some x) group tag log =
      ⟨log ++ [.call pg (.recv [t] j tag)], .ok (some ⟨pg, log.length⟩)⟩ := by
  have hr := h.recvGroup
  rcases h with ⟨hs, hd, rfl⟩ | ⟨hs, hj⟩
  · have hw : s.world = some pg := by
      unfold getDefaultGroup at hd
      split at hd <;> simp_all
    simp [irecv, hn, hr, hw]
  · simp [irecv, hn, hr, (subgroup_eq_some.1 hs).2, hj]

theorem recv_resolves (net : Net) (t : Tensor) (tag : Int) (log : List Event) :
    recv net s (.tensor t) (some x) group tag log =
      ⟨log ++ [.call pg (.recv [t] j tag), .wait ⟨pg, log.length⟩], .ok x⟩ := by
  have hp := h.groupOrDefault
  rcases h with ⟨hs, -, rfl⟩ | ⟨hs, hj⟩
  · simp [recv, hn, hp, hs]
  · simp [recv, hn, hp, hs, hj]

/-- `recv` from any source returns the sender as the backend reports it for the default
    group, and translates it back through the rank map otherwise. -/
theorem recv_anysource_resolves (net : Net) (t : Tensor) (tag : Int) (log : List Event) :
    recv net s (.tensor t) none group tag log =
      ⟨log ++ [.call pg (.recvAnysource [t] tag), .wait ⟨pg, log.length⟩],
        match subgroup s group with
        | none => .ok (net.sourceRank ⟨pg, log.length⟩)
        | some _ => getGlobalRank s pg (net.sourceRank ⟨pg, log.length⟩)⟩ := by
  have hp := h.groupOrDefault
  simp only [recv, hn, hp, checkSingleTensor_tensor, ↓Py.lift_bind_apply, Bool.false_eq_true,
    if_false, Py.bind_apply, issue_apply, waitOn_apply, List.append_assoc, List.cons_append,
    List.nil_append]
  rcases subgroup s group with _ | _ <;> rfl

theorem broadcast_resolves (t : Tensor) (asyncOp : Bool) (log : List Event) :
    broadcast s (.tensor t) x group asyncOp log =
      finish asyncOp ⟨pg, log.length⟩ (log ++ [.call pg (.broadcast [t] j 0)]) := by
  rcases h with ⟨hs, hr, rfl⟩ | ⟨hs, hr⟩ <;> simp [broadcast, hn, hs, hr]

/-- The caller is the root exactly when it hands `gather` a list. -/
theorem gather_resolves {gr : Int} (hgr : getRank s none = .ok gr) (t : Tensor)
    (gl : List Tensor) (asyncOp : Bool) (log : List Event) (hv : gl ≠ [] ↔ x = gr) :
    gather s (.tensor t) (.list (gl.map .tensor)) x group asyncOp log =
      finish asyncOp ⟨pg, log.length⟩
        (log ++ [.call pg (.gather (if x = gr then [gl] else []) [t] j)]) := by
  have hval := validateOutputListForRank_eq_ok.2 hv
  by_cases hgl : gl = []
  · subst hgl
    rcases h with ⟨hs, hr, rfl⟩ | ⟨hs, hr⟩ <;> simp [gather, Obj.truthy, hn, hgr, hval, hs, hr]
  · rcases h with ⟨hs, hr, rfl⟩ | ⟨hs, hr⟩ <;> simp [gather, hn, hgr, hval, hs, hr, hgl]

/-- The caller is the root exactly when it hands `scatter` a list. -/
theorem scatter_resolves {gr : Int} (hgr : getRank s none = .ok gr) (t : Tensor)
    (sl : List Tensor) (asyncOp : Bool) (log : List Event) (hv : sl ≠ [] ↔ x = gr) :
    scatter s (.tensor t) (.list (sl.map .tensor)) x group asyncOp log =
      finish asyncOp ⟨pg, log.length⟩
        (log ++ [.call pg (.scatter [t] (if x = gr then [sl] else []) j)]) := by
  -- The root hands a list, and every other rank none.
  obtain ⟨rfl, hsl⟩ | ⟨hx, rfl⟩ : (x = gr ∧ sl ≠ []) ∨ (x ≠ gr ∧ sl = []) := by
    cases sl with
    | nil => exact .inr ⟨fun hx => hv.2 hx rfl, rfl⟩
    | cons a l => exact .inl ⟨hv.1 (List.cons_ne_nil a l), List.cons_ne_nil a l⟩
  · rcases h with ⟨hs, hr, rfl⟩ | ⟨hs, hr⟩ <;> simp [scatter, hn, hgr, hs, hr, hsl]
  · rcases h with ⟨hs, hr, rfl⟩ | ⟨hs, hr⟩ <;> simp [scatter, Obj.truthy, hn, hgr, hs, hr, hx]

/-- `reduce` all-reduces a clone of the tensor, and copies it back when the caller's rank
    in the group is the one the root is translated to. -/
theorem reduce_resolves {i : Int} (hi : getRank s group = .ok i) (t : Tensor) (op : ReduceOp)
    (log : List Event) :
    reduce s (.tensor t) x op group false log =
      ⟨log ++ [.call pg (.allreduce [.clone t] op), .wait ⟨pg, log.length⟩] ++
        (if i = j then [.copy t (.clone t)] else []), .ok none⟩ := by
  rcases h with ⟨hs, hd, rfl⟩ | ⟨hs, hj⟩
  · rw [getRank_of_subgroup_none hn hs] at hi
    by_cases hij : i = j <;> simp [reduce, hn, hs, hd, hi, hij]
  · obtain ⟨rfl, -⟩ := subgroup_eq_some.1 hs
    by_cases hij : i = j <;> simp [reduce, hn, hs, hj, hi, hij]

end Resolves

section Rejects

variable {s : State} {group : Option Handle} {x gr : Int} (hn : rankNotInGroup group = false)
  (hgr : getRank s none = .ok gr)
include hn hgr

/-- A caller that hands `gather` a list when it is not the root, or none when it is,
    raises before anything is issued. -/
theorem gather_rejects (t : Tensor) (gl : List Tensor) (asyncOp : Bool) (log : List Event)
    (hv : ¬(gl ≠ [] ↔ x = gr)) :
    ∃ e, gather s (.tensor t) (.list (gl.map .tensor)) x group asyncOp log = ⟨log, .error e⟩ := by
  obtain ⟨e, he⟩ : ∃ e, validateOutputListForRank gr x gl = .error e := by
    cases hval : validateOutputListForRank gr x gl with
    | error e => exact ⟨e, rfl⟩
    | ok u => exact absurd (validateOutputListForRank_eq_ok.1 hval) hv
  refine ⟨e, ?_⟩
  by_cases hgl : gl = []
  · subst hgl
    simp [gather, Obj.truthy, hn, hgr, he]
  · simp [gather, hn, hgr, he, hgl]

/-- The same for `scatter`. -/
theorem scatter_rejects (t : Tensor) (sl : List Tensor) (asyncOp : Bool) (log : List Event)
    (hv : ¬(sl ≠ [] ↔ x = gr)) :
    ∃ e, scatter s (.tensor t) (.list (sl.map .tensor)) x group asyncOp log = ⟨log, .error e⟩ := by
  by_cases hsl : sl = []
  · subst hsl
    have hx : x = gr := by simpa using hv
    simp [scatter, Obj.truthy, hn, hgr, hx]
  · have hx : x ≠ gr := by simpa [hsl] using hv
    simp [scatter, hn, hgr, hx, hsl]

end Rejects

/-! ### Over a reachable state -/

theorem getDefaultGroup_eq_ok {s : State} {pg : Handle} :
    getDefaultGroup s = .ok pg ↔ s.world = some pg := by
  unfold getDefaultGroup
  split <;> simp_all

namespace Inv

variable {s : State} {n : Nat} (hi : Inv s n) {group : Option Handle} {pg : Handle}
  {m : PyDict Int Int}
include hi

/-- In a reachable state every group resolves a rank in its map to the rank's place
    there; for the world, whose map is the identity, that is the rank itself. -/
theorem resolves {x j : Int} (hpg : groupOrDefault s group = .ok pg)
    (hm : s.pgGroupRanks.get? pg = some m) (hx : m.get? x = some j) :
    Resolves s group pg x j := by
  cases hs : DistributedC10d.subgroup s group with
  | none =>
    have hd : getDefaultGroup s = .ok pg := by
      cases group with
      | none => exact hpg
      | some g =>
        have hw : s.world = some g := by
          by_contra hw
          simp [subgroup_of_ne hw] at hs
        obtain rfl : g = pg := Except.ok.inj hpg
        exact getDefaultGroup_eq_ok.2 hw
    obtain ⟨-, k, -, hr⟩ := hi.world pg (getDefaultGroup_eq_ok.1 hd)
    rw [hm, Option.some.injEq] at hr
    subst hr
    exact .inl ⟨hs, hd, (rankMap_worldRanks_get?.1 hx).2.2⟩
  | some g =>
    obtain ⟨rfl, hw⟩ := subgroup_eq_some.1 hs
    obtain rfl : g = pg := Except.ok.inj hpg
    exact .inr ⟨hs, by simp [getGroupRank, hw, hm, hx]⟩

/-- A rank map names each position at most once. -/
theorem rank_map_injective (hm : s.pgGroupRanks.get? pg = some m) {r r' v : Int}
    (h : m.get? r = some v) (h' : m.get? r' = some v) : r = r' := by
  obtain ⟨l, rfl⟩ := hi.rank_maps pg m hm
  exact rankMap_injective h h'

/-- `_get_global_rank` inverts a subgroup's rank map. -/
theorem getGlobalRank_eq (hw : s.world ≠ some pg) (hm : s.pgGroupRanks.get? pg = some m)
    {r v : Int} (hr : m.get? r = some v) : getGlobalRank s pg v = .ok r := by
  have hk : m.keyOf? v = some r :=
    (PyDict.keyOf?_eq_some_iff fun _ _ => hi.rank_map_injective hm).2 hr
  simp [getGlobalRank, hw, hm, hk]

end Inv

/-- What the calls that name a peer or a root do, for a caller of global rank `gr`, a
    group whose calls are issued on the object `pg` with rank map `m`, and a peer or root
    of global rank `x` whose place in `m` is `j`. -/
structure Translates (net : Net) (s : State) (group : Option Handle) (pg : Handle)
    (m : PyDict Int Int) (gr x j : Int) : Prop where
  /-- `isend` sends to `j`. -/
  isend_to : ∀ t tag log, isend s (.tensor t) x group tag log =
    ⟨log ++ [.call pg (.send [t] j tag)], .ok (some ⟨pg, log.length⟩)⟩
  /-- `send` sends to `j`, and waits. -/
  send_to : ∀ t tag log, send s (.tensor t) x group tag log =
    ⟨log ++ [.call pg (.send [t] j tag), .wait ⟨pg, log.length⟩], .ok ()⟩
  /-- `irecv` receives from `j`. -/
  irecv_from : ∀ t tag log, irecv s (.tensor t) (some x) group tag log =
    ⟨log ++ [.call pg (.recv [t] j tag)], .ok (some ⟨pg, log.length⟩)⟩
  /-- `recv` receives from `j`, waits, and returns `x`. -/
  recv_from : ∀ t tag log, recv net s (.tensor t) (some x) group tag log =
    ⟨log ++ [.call pg (.recv [t] j tag), .wait ⟨pg, log.length⟩], .ok x⟩
  /-- `recv` from any source returns the global rank whose place is the reported
      source. -/
  recv_any : ∀ t tag log r, m.get? r = some (net.sourceRank ⟨pg, log.length⟩) →
    recv net s (.tensor t) none group tag log =
      ⟨log ++ [.call pg (.recvAnysource [t] tag), .wait ⟨pg, log.length⟩], .ok r⟩
  /-- `broadcast` is rooted at `j`. -/
  broadcast_from : ∀ t asyncOp log, broadcast s (.tensor t) x group asyncOp log =
    finish asyncOp ⟨pg, log.length⟩ (log ++ [.call pg (.broadcast [t] j 0)])
  /-- `gather` is rooted at `j`, with the list as output exactly on the root. -/
  gather_to : ∀ t gl asyncOp log, (gl ≠ [] ↔ x = gr) →
    gather s (.tensor t) (.list (gl.map .tensor)) x group asyncOp log =
      finish asyncOp ⟨pg, log.length⟩
        (log ++ [.call pg (.gather (if x = gr then [gl] else []) [t] j)])
  /-- A list off the root, or none on it, is refused. -/
  gather_refused : ∀ t gl asyncOp log, ¬(gl ≠ [] ↔ x = gr) →
    ∃ e, gather s (.tensor t) (.list (gl.map .tensor)) x group asyncOp log = ⟨log, .error e⟩
  /-- `scatter` is rooted at `j`, with the list as input exactly on the root. -/
  scatter_from : ∀ t sl asyncOp log, (sl ≠ [] ↔ x = gr) →
    scatter s (.tensor t) (.list (sl.map .tensor)) x group asyncOp log =
      finish asyncOp ⟨pg, log.length⟩
        (log ++ [.call pg (.scatter [t] (if x = gr then [sl] else []) j)])
  /-- A list off the root, or none on it, is refused. -/
  scatter_refused : ∀ t sl asyncOp log, ¬(sl ≠ [] ↔ x = gr) →
    ∃ e, scatter s (.tensor t) (.list (sl.map .tensor)) x group asyncOp log = ⟨log, .error e⟩
  /-- On the root, `get_rank(group)` is `j`. -/
  root_rank : x = gr → getRank s group = .ok j
  /-- `reduce` names no root: it all-reduces a clone, waits, and copies the clone back
      exactly on the root. -/
  reduce_to : ∀ t op log, reduce s (.tensor t) x op group false log =
    ⟨log ++ [.call pg (.allreduce [.clone t] op), .wait ⟨pg, log.length⟩] ++
      (if x = gr then [.copy t (.clone t)] else []), .ok none⟩

/-- Take a reachable state, a group passed as `None`, as `GroupMember.WORLD` or as a
    registered subgroup, with rank map `m` (for the world, the identity), a caller whose
    global rank `gr` is in `m`, and a peer or root whose global rank `x` has place `j` in
    `m`. Every call that names `x` hands the group's object `j`, and the caller acts as
    the root exactly when `gr = x`; `reduce` hands it no root at all. -/
theorem dispatcher_rank_translation {p : Proc} (hp : Reachable p) {group : Option Handle}
    {pg : Handle} {m : PyDict Int Int} {gr i x j : Int}
    (hpg : groupOrDefault p.st group = .ok pg) (hreg : pg ∈ p.st.pgMap.keys)
    (hm : p.st.pgGroupRanks.get? pg = some m) (hgr : getRank p.st none = .ok gr)
    (hi : m.get? gr = some i) (hx : m.get? x = some j) (net : Net) :
    Translates net p.st group pg m gr x j := by
  have hinv := hp.inv
  have h := hinv.resolves hpg hm hx
  have hn : rankNotInGroup group = false := by
    cases group with
    | none => rfl
    | some g =>
      obtain rfl : g = pg := Except.ok.inj hpg
      simpa [rankNotInGroup] using Handle.ne_sentinel_of_builtBefore (hinv.built g hreg)
  -- The caller's own place, and the one-to-one map that makes the two root tests agree.
  have hrank : getRank p.st group = .ok i := (hinv.resolves hpg hm hi).getRank_root hn hgr
  have hroot : i = j ↔ x = gr := by
    constructor
    · rintro rfl
      exact (hinv.rank_map_injective hm hi hx).symm
    · rintro rfl
      exact Option.some.inj (hi.symm.trans hx)
  refine ⟨isend_resolves h hn, send_resolves h hn, irecv_resolves h hn, recv_resolves h hn net,
    fun t tag log r hr => ?_, broadcast_resolves h hn, fun t gl a log => gather_resolves h hn hgr t gl a log,
    fun t gl a log => gather_rejects hn hgr t gl a log,
    fun t sl a log => scatter_resolves h hn hgr t sl a log,
    fun t sl a log => scatter_rejects hn hgr t sl a log,
    fun hxr => h.getRank_root hn (hxr ▸ hgr), fun t op log => ?_⟩
  · rw [recv_anysource_resolves h hn]
    rcases h with ⟨hs, hd, -⟩ | ⟨hs, -⟩
    · -- The world's map is the identity, so the reported source is the global rank.
      obtain ⟨-, k, -, hk⟩ := hinv.world pg (getDefaultGroup_eq_ok.1 hd)
      rw [hm, Option.some.injEq] at hk
      subst hk
      simp [hs, (rankMap_worldRanks_get?.1 hr).2.2]
    · simp [hs, hinv.getGlobalRank_eq (subgroup_eq_some.1 hs).2 hm hr]
  · rw [reduce_resolves h hn hrank]
    simp only [hroot]

/-- Rank 0 of a world of two builds the subgroup `[0, 1]`: an `isend` to global rank 1 on
    it is issued to group rank 1. -/
theorem isend_in_subgroup_translated :
    isend subgroupPair.st (.tensor (.mk 0 false)) 1 (some (.pg 1 0 2)) 0 [] =
      ⟨[.call (.pg 1 0 2) (.send [.mk 0 false] 1 0)], .ok (some ⟨.pg 1 0 2, 0⟩)⟩ :=
  (@dispatcher_rank_translation _ subgroupPair_reachable (some (.pg 1 0 2)) (.pg 1 0 2)
    (rankMap [0, 1]) 0 0 1 1 rfl (by decide) (by decide) (by decide) (by decide) (by decide)
    ⟨fun _ => 0, .initial⟩).isend_to _ _ _

/-- In the same subgroup, `reduce` to root 0 and to root 1 issue the same call on the
    object, though the two roots have different group ranks: the backend is never told
    the root. -/
theorem reduce_passes_no_root :
    Reachable subgroupPair ∧ getGroupRank subgroupPair.st (.pg 1 0 2) 0 = .ok 0 ∧
      getGroupRank subgroupPair.st (.pg 1 0 2) 1 = .ok 1 ∧
      reduce subgroupPair.st (.tensor (.mk 0 false)) 0 .sum (some (.pg 1 0 2)) false [] =
        ⟨[.call (.pg 1 0 2) (.allreduce [.clone (.mk 0 false)] .sum), .wait ⟨.pg 1 0 2, 0⟩,
          .copy (.mk 0 false) (.clone (.mk 0 false))], .ok none⟩ ∧
      reduce subgroupPair.st (.tensor (.mk 0 false)) 1 .sum (some (.pg 1 0 2)) false [] =
        ⟨[.call (.pg 1 0 2) (.allreduce [.clone (.mk 0 false)] .sum), .wait ⟨.pg 1 0 2, 0⟩],
          .ok none⟩ :=
  ⟨subgroupPair_reachable, by decide, by decide, by decide, by decide⟩

end DistributedC10d
