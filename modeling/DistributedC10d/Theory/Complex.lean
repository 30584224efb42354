import DistributedC10d.Theory.Translation

/-!
# Complex Tensors in Reductions

`supports_complex(op)` denies the reductions that are wrong on the real view of a complex
tensor: MAX, MIN, PRODUCT and the three bitwise ones. `all_reduce` and
`all_reduce_coalesced` ask it before anything reaches the backend, raise when a complex
tensor meets a denied reduction, and otherwise hand every complex tensor over as
`torch.view_as_real` of itself and every real one as it is.

`reduce` and `reduce_scatter` ask nothing: `reduce` all-reduces a clone of its tensor,
complex when the tensor is, and `reduce_scatter` passes its tensors on as given, under
every reduction, the denied ones included.

## Theorems

* `supportsComplex_eq_false_iff`: The deny list.
* `allReduce_member`, `allReduceCoalesced_member`: A member's call, given its group: a
  raise for a denied reduction on a complex tensor, otherwise real views.
* `reduce_ops_skip_complex_check`: `reduce` and `reduce_scatter` raise nothing for complex
  tensors and pass them on as they are.
-/

namespace DistributedC10d

/-- The reductions `supports_complex` denies. -/
theorem supportsComplex_eq_false_iff (op : ReduceOp) :
    supportsComplex op = false ↔ op ∈ [ReduceOp.max, .min, .product, .band, .bor, .bxor] := by
  cases op <;> decide

section Member

variable {s : State} {group : Option Handle} {pg : Handle}
  (hn : rankNotInGroup group = false) (hg : groupOrDefault s group = .ok pg)
include hn hg

/-- `all_reduce` from a member of the group. -/
theorem allReduce_member (t : Tensor) (op : ReduceOp) (asyncOp : Bool) (log : List Event) :
    allReduce s (.tensor t) op group asyncOp log =
      if t.isComplex ∧ supportsComplex op = false then ⟨log, .error (complexUnsupported op)⟩
      else finish asyncOp ⟨pg, log.length⟩ (log ++ [.call pg (.allreduce [t.asReal] op)]) := by
  by_cases hc : t.isComplex ∧ supportsComplex op = false
  · simp [allReduce, hn, hc]
  · simp only [Bool.not_eq_true] at hc
    simp [allReduce, hn, hg, hc]

/-- `all_reduce_coalesced` from a member of the group. -/
theorem allReduceCoalesced_member (ts : List Tensor) (op : ReduceOp) (asyncOp : Bool)
    (log : List Event) :
    allReduceCoalesced s (.list (ts.map .tensor)) op group asyncOp log =
      if ts.any Tensor.isComplex ∧ supportsComplex op = false then
        ⟨log, .error (complexUnsupported op)⟩
      else finish asyncOp ⟨pg, log.length⟩
        (log ++ [.call pg (.allreduceCoalesced (ts.map Tensor.asReal) op)]) := by
  by_cases hc : ts.any Tensor.isComplex ∧ supportsComplex op = false
  · simp [allReduceCoalesced, hn, hc]
  · simp only [List.any_eq_true, Bool.not_eq_true] at hc
    simp [allReduceCoalesced, hn, hg, hc]

end Member

/-- Under every reduction, the denied ones included, `reduce` and `reduce_scatter` raise
    nothing for a complex tensor from a member of the group: `reduce` all-reduces a clone
    of its tensor, complex when the tensor is, and `reduce_scatter` hands the backend its
    output and input list as given. Neither asks `supports_complex`, and neither takes a
    real view. -/
theorem reduce_ops_skip_complex_check {s : State} {group : Option Handle} {pg : Handle}
    {dst j i : Int} (h : Resolves s group pg dst j) (hn : rankNotInGroup group = false)
    (hi : getRank s group = .ok i) (op : ReduceOp) (t output : Tensor)
    (inputList : List Tensor) (asyncOp : Bool) (log : List Event) :
    (∃ rest, reduce s (.tensor t) dst op group false log =
      ⟨log ++ .call pg (.allreduce [.clone t] op) :: rest, .ok none⟩) ∧
    reduceScatter s (.tensor output) (.list (inputList.map .tensor)) op group asyncOp log =
      finish asyncOp ⟨pg, log.length⟩
        (log ++ [.call pg (.reduceScatter [output] [inputList] op)]) := by
  refine ⟨⟨[.wait ⟨pg, log.length⟩] ++ (if i = j then [.copy t (.clone t)] else []),
    by rw [reduce_resolves h hn hi]; simp⟩, ?_⟩
  simp [reduceScatter, hn, h.groupOrDefault]

/-- Rank 0 of a Gloo world of two reduces a complex tensor to rank 0 with MAX, and
    reduce-scatters complex tensors with MAX: nothing raises, and the backend gets the
    complex tensors. -/
theorem reduce_complex_max_passes :
    Resolves worldOfTwo.st none (.pg 0 0 2) 0 0 ∧ rankNotInGroup none = false ∧
    getRank worldOfTwo.st none = .ok 0 ∧
    ((∃ rest, reduce worldOfTwo.st (.tensor (.mk 0 true)) 0 .max none false [] =
      ⟨[] ++ .call (.pg 0 0 2) (.allreduce [.clone (.mk 0 true)] .max) :: rest, .ok none⟩) ∧
    reduceScatter worldOfTwo.st (.tensor (.mk 1 true))
        (.list ([Tensor.mk 2 true, .mk 3 true].map .tensor)) .max none false [] =
      finish false ⟨.pg 0 0 2, 0⟩
        ([] ++ [.call (.pg 0 0 2)
          (.reduceScatter [.mk 1 true] [[.mk 2 true, .mk 3 true]] .max)])) :=
  ⟨.inl ⟨subgroup_none _, by decide, rfl⟩, rfl, by decide,
    @reduce_ops_skip_complex_check worldOfTwo.st none (.pg 0 0 2) 0 0 0
      (.inl ⟨subgroup_none _, by decide, rfl⟩) rfl (by decide) .max (.mk 0 true) (.mk 1 true)
      [.mk 2 true, .mk 3 true] false []⟩

end DistributedC10d
