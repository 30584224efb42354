import DistributedC10d.Core.Dispatch

/-!
# One Request per Call

Every call of the dispatcher but `batch_isend_irecv` has one shape. It checks its
arguments and looks things up, writing nothing. Then it calls one method on one process
group object, and with the work handle that comes back it does one of two things. It
returns the handle when `async_op` asks for it (`isend` and `irecv` always do). Otherwise
it calls `work.wait()` at once. After the wait, `reduce` copies the result back on the
destination and `recv` from any source translates the sender's rank; neither writes
anything else to the transport. A call that issues nothing gives no handle back.

`OneRequest` says this of one outcome and `IssuesOne` of a call from every log. The
rules in the namespaces `IssuesOne`, `Settles` and `CopiesOnly` follow the dispatcher's
`do` blocks: checks before the request, the request, then its work given back or waited
on. Each call's proof applies them in the order its body runs.

A batch issues one request per op that is not a no-op, waits on none, and gives the
handles back. So over any sequence of calls, each made in whatever state the process is
in, `LogInv` holds of the log. Every wait is on the request logged just before it, so no
request is waited on twice. Every handle given back names a request of the log that the
dispatcher never waited on: the caller owns it.

## Main definitions

* `OneRequest`: What one call may write after a log, and the handle it may give back.
* `IssuesOne`: A call that keeps to `OneRequest` from every log.
* `LogInv`: Waits follow their own requests; given-back handles are never waited on.
* `Call`, `runCalls`: Dispatcher calls one after another on one log.

## Theorems

* `runOp_issuesOne`: Every call but the batch keeps to `OneRequest`.
* `runOp_issues_one_request`: The same, with its three shapes spelled out.
* `OneRequest.logInv`: Such a call keeps the log invariant.
* `batchIsendIrecv_logInv`: So does a batch.
* `runCalls_logInv`: The invariant holds of every sequence of calls.
-/

namespace DistributedC10d

/-- The work handle a call's result gives back, if any. -/
def Ret.work? : Ret → Option Work
  | .work w => some w
  | _ => Option.none

theorem Ret.work?_ofWork (w : Option Work) : (Ret.ofWork w).work? = w := by
  cases w <;> rfl

/-! ### The shape of one call -/

section Shape

variable {α β : Type} {handed : α → Option Work}

/-- Events that are all `dst.copy_(src)`. -/
def AllCopies (events : List Event) : Prop := ∀ e ∈ events, ∃ dst src, e = .copy dst src

theorem AllCopies.nil : AllCopies [] := by simp [AllCopies]

/-- A result that gives no work handle back, `handed` reading the handle off a value. -/
def NoHandle (handed : α → Option Work) (result : Except Error α) : Prop :=
  ∀ r, result = .ok r → handed r = none

theorem NoHandle.error (e : Error) : NoHandle handed (.error e) := fun _ h => by cases h

/-- What one call may write after the log `log` it started from, and give back: nothing,
    and no handle; or one request, whose work is handed back with nothing after it; or one
    request and the wait on its work, then nothing but copies, and no handle. -/
inductive OneRequest (handed : α → Option Work) (log : List Event) :
    Outcome (List Event) α → Prop
  | quiet {result : Except Error α} (hr : NoHandle handed result) :
      OneRequest handed log ⟨log, result⟩
  | handedBack (pg : Handle) (request : Request) {r : α}
      (hr : handed r = some ⟨pg, log.length⟩) :
      OneRequest handed log ⟨log ++ [.call pg request], .ok r⟩
  | waited (pg : Handle) (request : Request) {copies : List Event} {result : Except Error α}
      (hc : AllCopies copies) (hr : NoHandle handed result) :
      OneRequest handed log ⟨log ++ .call pg request :: .wait ⟨pg, log.length⟩ :: copies, result⟩

theorem OneRequest.of_eq {log : List Event} {o o' : Outcome (List Event) α}
    (h : OneRequest handed log o) (hs : o'.state = o.state) (hr : o'.result = o.result) :
    OneRequest handed log o' := by
  obtain ⟨s, r⟩ := o'
  simp only at hs hr
  subst hs hr
  exact h

/-- A call that keeps to `OneRequest` from every log. -/
def IssuesOne (handed : α → Option Work) (x : Py (List Event) α) : Prop :=
  ∀ log, OneRequest handed log (x log)

/-- What a call may do once it has issued the request whose work is `w`: give `w` back
    having written nothing, or wait on it and then write nothing but copies, giving no
    handle back. -/
def Settles (handed : α → Option Work) (w : Work) (k : Py (List Event) α) : Prop :=
  ∀ log, ((k log).state = log ∧ ∃ r, (k log).result = .ok r ∧ handed r = some w) ∨
    ∃ copies, (k log).state = log ++ .wait w :: copies ∧ AllCopies copies ∧
      NoHandle handed (k log).result

/-- A call that writes nothing but copies and gives no handle back. -/
def CopiesOnly (handed : α → Option Work) (k : Py (List Event) α) : Prop :=
  ∀ log, ∃ copies, (k log).state = log ++ copies ∧ AllCopies copies ∧
    NoHandle handed (k log).result

namespace CopiesOnly

theorem pure {r : α} (h : handed r = none) : CopiesOnly handed (pure r) :=
  fun _ => ⟨[], by simp, .nil, by simpa [NoHandle] using h⟩

theorem lift (hn : ∀ r, handed r = none) (x : Except Error α) : CopiesOnly handed (liftM x) :=
  fun _ => ⟨[], by simp, .nil, fun r _ => hn r⟩

theorem ite {c : Prop} [Decidable c] {a b : Py (List Event) α} (ha : CopiesOnly handed a)
    (hb : CopiesOnly handed b) : CopiesOnly handed (if c then a else b) := by
  split <;> assumption

theorem copy_bind {k : Py (List Event) α} (hk : CopiesOnly handed k) (dst src : Tensor) :
    CopiesOnly handed (modify (· ++ [.copy dst src]) >>= fun _ => k) := fun log => by
  obtain ⟨copies, hs, hc, hr⟩ := hk (log ++ [.copy dst src])
  refine ⟨.copy dst src :: copies, by simpa using hs, ?_, hr⟩
  rintro e (_ | ⟨_, he⟩)
  · exact ⟨dst, src, rfl⟩
  · exact hc e he

end CopiesOnly

namespace Settles

theorem pure {r : α} {w : Work} (h : handed r = some w) : Settles handed w (pure r) :=
  fun _ => .inl ⟨rfl, r, rfl, h⟩

theorem wait {handed : Unit → Option Work} (hn : ∀ r, handed r = none) (w : Work) :
    Settles handed w (waitOn w) :=
  fun _ => .inr ⟨[], by simp, .nil, fun r _ => hn r⟩

theorem wait_bind {w : Work} {k : PUnit → Py (List Event) α} (hk : CopiesOnly handed (k ⟨⟩)) :
    Settles handed w (waitOn w >>= k) := fun log => by
  obtain ⟨copies, hs, hc, hr⟩ := hk (log ++ [.wait w])
  exact .inr ⟨copies, by simpa using hs, hc, hr⟩

theorem ite {c : Prop} [Decidable c] {w : Work} {a b : Py (List Event) α}
    (ha : Settles handed w a) (hb : Settles handed w b) : Settles handed w (if c then a else b) := by
  split <;> assumption

/-- `if async_op: return work else: work.wait()`. -/
theorem finish (asyncOp : Bool) (w : Work) : Settles id w (finish asyncOp w) := by
  unfold DistributedC10d.finish
  exact .ite (.pure rfl) (wait_bind (.pure rfl))

end Settles

namespace IssuesOne

theorem pure {r : α} (h : handed r = none) : IssuesOne handed (pure r) :=
  fun _ => .quiet (by simpa [NoHandle] using h)

theorem throw_bind (e : Error) (f : β → Py (List Event) α) : IssuesOne handed (throw e >>= f) :=
  fun _ => .quiet (.error e)

/-- Checks and lookups before the request write nothing. -/
theorem readOnly_bind {x : Py (List Event) β} {f : β → Py (List Event) α} (hx : Py.ReadOnly x)
    (hf : ∀ a, IssuesOne handed (f a)) : IssuesOne handed (x >>= f) := fun log => by
  have hs := hx log
  rcases h : x log with ⟨s, _ | a⟩ <;> rw [h] at hs <;> subst hs <;> simp only [Py.bind_apply, h]
  · exact .quiet (.error _)
  · exact hf a _

theorem lift_bind (x : Except Error β) {f : β → Py (List Event) α}
    (hf : ∀ a, IssuesOne handed (f a)) : IssuesOne handed (liftM x >>= f) :=
  readOnly_bind (Py.readOnly_lift x) hf

theorem raiseIf_bind (c : Prop) [Decidable c] (e : Error) {f : PUnit → Py (List Event) α}
    (hf : IssuesOne handed (f ⟨⟩)) : IssuesOne handed (Py.raiseIf c e >>= f) :=
  readOnly_bind (fun log => by by_cases hc : c <;> simp [hc]) fun _ => hf

theorem ite {c : Prop} [Decidable c] {a b : Py (List Event) α} (ha : IssuesOne handed a)
    (hb : IssuesOne handed b) : IssuesOne handed (if c then a else b) := by
  split <;> assumption

/-- The request, then what settles its work. -/
theorem issue_bind (pg : Handle) (request : Request) {k : Work → Py (List Event) α}
    (hk : ∀ w, Settles handed w (k w)) : IssuesOne handed (issue pg request >>= k) := fun log => by
  rcases hk ⟨pg, log.length⟩ (log ++ [.call pg request]) with ⟨hs, r, hr, h⟩ | ⟨copies, hs, hc, hr⟩
  · exact (OneRequest.handedBack pg request h).of_eq hs hr
  · exact (OneRequest.waited pg request hc hr).of_eq (by simpa using hs) rfl

theorem map_issue (pg : Handle) (request : Request) {f : Work → α}
    (hf : ∀ w, handed (f w) = some w) : IssuesOne handed (f <$> issue pg request) :=
  fun _ => .handedBack pg request (hf _)

/-- A map of the result that keeps the handle it gives back. -/
theorem map {handed' : β → Option Work} {x : Py (List Event) α} (hx : IssuesOne handed x)
    {f : α → β} (hf : ∀ a, handed' (f a) = handed a) : IssuesOne handed' (f <$> x) := fun log => by
  have hx' := hx log
  simp only [Py.map_apply]
  generalize x log = o at hx' ⊢
  have hn {result : Except Error α} (hr : NoHandle handed result) :
      NoHandle handed' (result.map f) := by
    rintro b hb
    obtain ⟨a, rfl, rfl⟩ := Except.map_eq_ok_iff.1 hb
    rw [hf]
    exact hr a rfl
  cases hx' with
  | @quiet result hr => cases result <;> exact .quiet (hn hr)
  | handedBack pg request hr => exact .handedBack pg request (by rw [hf]; exact hr)
  | @waited pg request copies result hc hr =>
    cases result <;> exact .waited pg request hc (hn hr)

end IssuesOne

end Shape

theorem readOnly_mapM_loop {β γ : Type} (f : β → Py (List Event) γ) (hf : ∀ b, Py.ReadOnly (f b))
    (bs : List β) (acc : List γ) : Py.ReadOnly (List.mapM.loop f bs acc) := by
  induction bs generalizing acc with
  | nil => exact Py.readOnly_pure _
  | cons b bs ih => exact Py.readOnly_bind (hf b) fun c => ih (c :: acc)

/-! ### Each call -/

section Calls

variable (s : State) (group : Option Handle)

theorem isend_issuesOne (t : Obj) (dst tag : Int) : IssuesOne id (isend s t dst group tag) := by
  unfold isend
  refine .lift_bind _ fun _ => .ite (.pure rfl) ?_
  split <;> exact .lift_bind _ fun _ => .map_issue _ _ fun _ => rfl

theorem irecv_issuesOne (t : Obj) (src : Option Int) (tag : Int) :
    IssuesOne id (irecv s t src group tag) := by
  unfold irecv
  refine .lift_bind _ fun _ => .ite (.pure rfl) (.lift_bind _ fun pg => ?_)
  split
  · exact .map_issue _ _ fun _ => rfl
  · exact .ite (.map_issue _ _ fun _ => rfl) (.lift_bind _ fun _ => .map_issue _ _ fun _ => rfl)

theorem send_issuesOne (t : Obj) (dst tag : Int) :
    IssuesOne (fun _ => none) (send s t dst group tag) := by
  unfold send
  refine .lift_bind _ fun _ => .ite (.pure rfl) ?_
  split <;> exact .lift_bind _ fun _ => .issue_bind _ _ (.wait fun _ => rfl)

/-- From any source, the wait comes before the sender's rank is translated, which may
    raise; from a given one, the wait is the last thing. -/
theorem recv_issuesOne (net : Net) (t : Obj) (src : Option Int) (tag : Int) :
    IssuesOne (fun _ => none) (recv net s t src group tag) := by
  unfold recv
  dsimp only
  refine .lift_bind _ fun _ => .ite (.pure rfl) (.lift_bind _ fun pg => ?_)
  split
  · refine .issue_bind _ _ fun w => .wait_bind ?_
    split
    · exact .pure rfl
    · exact .lift (fun _ => rfl) _
  · split
    · exact .issue_bind _ _ fun w => .wait_bind (.pure rfl)
    · exact .lift_bind _ fun _ => .issue_bind _ _ fun w => .wait_bind (.pure rfl)

theorem broadcast_issuesOne (t : Obj) (src : Int) (asyncOp : Bool) :
    IssuesOne id (broadcast s t src group asyncOp) := by
  unfold broadcast
  dsimp only
  refine .lift_bind _ fun _ => .ite (.pure rfl) ?_
  split <;> exact .lift_bind _ fun _ => .issue_bind _ _ (.finish asyncOp)

theorem allReduce_issuesOne (t : Obj) (op : ReduceOp) (asyncOp : Bool) :
    IssuesOne id (allReduce s t op group asyncOp) :=
  .lift_bind _ fun _ => .ite (.pure rfl)
    (.raiseIf_bind _ _ (.lift_bind _ fun _ => .issue_bind _ _ (.finish asyncOp)))

theorem allReduceCoalesced_issuesOne (ts : Obj) (op : ReduceOp) (asyncOp : Bool) :
    IssuesOne id (allReduceCoalesced s ts op group asyncOp) :=
  .lift_bind _ fun _ => .ite (.pure rfl)
    (.raiseIf_bind _ _ (.lift_bind _ fun _ => .issue_bind _ _ (.finish asyncOp)))

/-- The copy back on the destination comes after the wait. -/
theorem reduce_issuesOne (t : Obj) (dst : Int) (op : ReduceOp) (asyncOp : Bool) :
    IssuesOne id (reduce s t dst op group asyncOp) := by
  unfold reduce
  dsimp only [Py.pure_bind]
  refine .raiseIf_bind _ _ (.lift_bind _ fun _ => .ite (.pure rfl) ?_)
  split <;> exact .lift_bind _ fun _ => .lift_bind _ fun _ => .issue_bind _ _ fun _ =>
    .ite (.pure rfl) (.wait_bind (.ite (.copy_bind (.pure rfl) _ _) (.pure rfl)))

theorem allGather_issuesOne (tl t : Obj) (asyncOp : Bool) :
    IssuesOne id (allGather s tl t group asyncOp) :=
  .lift_bind _ fun _ => .lift_bind _ fun _ => .ite (.pure rfl)
    (.lift_bind _ fun _ => .issue_bind _ _ (.finish asyncOp))

theorem allGatherCoalesced_issuesOne (o i : Obj) (asyncOp : Bool) :
    IssuesOne id (allGatherCoalesced s o i group asyncOp) := by
  unfold allGatherCoalesced
  dsimp only
  refine .ite (.pure rfl) (.lift_bind _ fun _ => ?_)
  split
  · exact .readOnly_bind (readOnly_mapM_loop _ (fun _ => Py.readOnly_lift _) _ _)
      fun _ => .lift_bind _ fun _ => .issue_bind _ _ (.finish asyncOp)
  · exact .throw_bind _ _

theorem gather_issuesOne (t l : Obj) (dst : Int) (asyncOp : Bool) :
    IssuesOne id (gather s t l dst group asyncOp) := by
  unfold gather
  dsimp only [Py.pure_bind]
  refine .lift_bind _ fun _ => .ite (.lift_bind _ fun _ => ?_) ?_ <;>
    refine .ite (.pure rfl) (.lift_bind _ fun _ => .lift_bind _ fun _ => ?_) <;>
    split <;> exact .lift_bind _ fun _ => .issue_bind _ _ (.finish asyncOp)

theorem scatter_issuesOne (t l : Obj) (src : Int) (asyncOp : Bool) :
    IssuesOne id (scatter s t l src group asyncOp) := by
  unfold scatter
  dsimp only [Py.pure_bind]
  refine .lift_bind _ fun _ => .ite (.lift_bind _ fun _ => ?_) ?_ <;>
    refine .ite (.pure rfl) (.lift_bind _ fun _ =>
      .ite (.ite (.throw_bind _ _) ?_) (.ite (.throw_bind _ _) ?_)) <;>
    split <;> exact .lift_bind _ fun _ => .issue_bind _ _ (.finish asyncOp)

theorem reduceScatter_issuesOne (o il : Obj) (op : ReduceOp) (asyncOp : Bool) :
    IssuesOne id (reduceScatter s o il op group asyncOp) :=
  .lift_bind _ fun _ => .lift_bind _ fun _ => .ite (.pure rfl)
    (.lift_bind _ fun _ => .issue_bind _ _ (.finish asyncOp))

theorem allToAllSingle_issuesOne (o i : Obj) (os is : Option (List Int)) (asyncOp : Bool) :
    IssuesOne id (allToAllSingle s o i os is group asyncOp) :=
  .ite (.pure rfl) (.lift_bind _ fun _ => .lift_bind _ fun _ => .lift_bind _ fun _ =>
    .issue_bind _ _ (.finish asyncOp))

theorem allToAll_issuesOne (o i : Obj) (asyncOp : Bool) :
    IssuesOne id (allToAll s o i group asyncOp) :=
  .ite (.pure rfl) (.lift_bind _ fun _ => .lift_bind _ fun _ => .lift_bind _ fun _ =>
    .issue_bind _ _ (.finish asyncOp))

theorem barrier_issuesOne (cls : BackendClass) (asyncOp : Bool) (d : DeviceIds) :
    IssuesOne id (barrier cls s group asyncOp d) := by
  unfold barrier
  dsimp only [Py.pure_bind]
  refine .ite (.pure rfl) ?_
  split
  · exact .lift_bind _ fun _ => .issue_bind _ _ (.finish asyncOp)
  · refine .lift_bind _ fun _ => .ite (.throw_bind _ _) ?_
    split
    · exact .lift_bind _ fun _ => .issue_bind _ _ (.finish asyncOp)
    · exact .throw_bind _ _

end Calls

theorem runOp_issuesOne (net : Net) (s : State) (group : Option Handle) (op : Op) :
    IssuesOne Ret.work? (runOp net s group op) := by
  cases op with
  | send t dst tag => exact (send_issuesOne s group t dst tag).map fun _ => rfl
  | recv t src tag => exact (recv_issuesOne s group net t src tag).map fun _ => rfl
  | isend t dst tag => exact (isend_issuesOne s group t dst tag).map Ret.work?_ofWork
  | irecv t src tag => exact (irecv_issuesOne s group t src tag).map Ret.work?_ofWork
  | broadcast t src a => exact (broadcast_issuesOne s group t src a).map Ret.work?_ofWork
  | allReduce t op a => exact (allReduce_issuesOne s group t op a).map Ret.work?_ofWork
  | allReduceCoalesced t op a =>
    exact (allReduceCoalesced_issuesOne s group t op a).map Ret.work?_ofWork
  | reduce t dst op a => exact (reduce_issuesOne s group t dst op a).map Ret.work?_ofWork
  | allGather tl t a => exact (allGather_issuesOne s group tl t a).map Ret.work?_ofWork
  | allGatherCoalesced o i a =>
    exact (allGatherCoalesced_issuesOne s group o i a).map Ret.work?_ofWork
  | gather t l dst a => exact (gather_issuesOne s group t l dst a).map Ret.work?_ofWork
  | scatter t l src a => exact (scatter_issuesOne s group t l src a).map Ret.work?_ofWork
  | reduceScatter o il op a =>
    exact (reduceScatter_issuesOne s group o il op a).map Ret.work?_ofWork
  | allToAllSingle o i os is a =>
    exact (allToAllSingle_issuesOne s group o i os is a).map Ret.work?_ofWork
  | allToAll o i a => exact (allToAll_issuesOne s group o i a).map Ret.work?_ofWork
  | barrier a d => exact (barrier_issuesOne s group net.backendClass a d).map Ret.work?_ofWork

/-- Every call but the batch, in any state and on any group, from any log: it issues
    nothing and gives no handle back; or it issues one request on one object and gives its
    work back with nothing after it; or it issues one request and waits on it at once,
    writes nothing after the wait but copies, and gives no handle back. -/
theorem runOp_issues_one_request (net : Net) (s : State) (group : Option Handle) (op : Op)
    (log : List Event) :
    ((runOp net s group op log).state = log ∧
      ∀ r, (runOp net s group op log).result = .ok r → r.work? = none) ∨
    (∃ pg request r, runOp net s group op log = ⟨log ++ [.call pg request], .ok r⟩ ∧
      r.work? = some ⟨pg, log.length⟩) ∨
    ∃ pg request copies, (runOp net s group op log).state =
        log ++ .call pg request :: .wait ⟨pg, log.length⟩ :: copies ∧
      (∀ e ∈ copies, ∃ dst src, e = .copy dst src) ∧
      ∀ r, (runOp net s group op log).result = .ok r → r.work? = none := by
  have h := runOp_issuesOne net s group op log
  generalize runOp net s group op log = o at h ⊢
  cases h with
  | quiet hr => exact .inl ⟨rfl, hr⟩
  | handedBack pg request hr => exact .inr (.inl ⟨pg, request, _, rfl, hr⟩)
  | waited pg request hc hr => exact .inr (.inr ⟨pg, request, _, rfl, hc, hr⟩)

/-! ### The log over many calls -/

/-- What the dispatcher keeps true of a process's transport log and of the work handles
    its calls have given back. -/
structure LogInv (log : List Event) (handed : List Work) : Prop where
  /-- Every wait is on the request logged just before it. -/
  wait_after_call : ∀ i w, log[i]? = some (.wait w) →
    w.seq + 1 = i ∧ ∃ request, log[w.seq]? = some (.call w.pg request)
  /-- Every handle given back names a request of the log, and no wait follows it. -/
  handed_call : ∀ w ∈ handed,
    (∃ request, log[w.seq]? = some (.call w.pg request)) ∧ log[w.seq + 1]? ≠ some (.wait w)

/-- Events none of which is a wait. -/
def NoWait (events : List Event) : Prop := ∀ e ∈ events, ∀ w, e ≠ .wait w

theorem getElem?_append_cases {log new : List Event} {i : Nat} {e : Event}
    (h : (log ++ new)[i]? = some e) :
    (i < log.length ∧ log[i]? = some e) ∨ (log.length ≤ i ∧ new[i - log.length]? = some e) := by
  rcases Nat.lt_or_ge i log.length with hi | hi
  · exact .inl ⟨hi, by rwa [List.getElem?_append_left hi] at h⟩
  · exact .inr ⟨hi, by rwa [List.getElem?_append_right hi] at h⟩

namespace LogInv

variable {log : List Event} {handed : List Work}

theorem nil : LogInv [] [] := ⟨by simp, by simp⟩

theorem seq_lt (h : LogInv log handed) {w : Work} (hw : w ∈ handed) : w.seq < log.length := by
  obtain ⟨⟨_, hr⟩, -⟩ := h.handed_call w hw
  exact (List.getElem?_eq_some_iff.1 hr).1

theorem mono (h : LogInv log handed) {handed' : List Work} (hs : handed' ⊆ handed) :
    LogInv log handed' :=
  ⟨h.wait_after_call, fun w hw => h.handed_call w (hs hw)⟩

/-- Logging events other than waits keeps the invariant. -/
theorem append (h : LogInv log handed) {new : List Event} (hn : NoWait new) :
    LogInv (log ++ new) handed := by
  refine ⟨fun i w hi => ?_, fun w hw => ?_⟩
  · rcases getElem?_append_cases hi with ⟨hlt, hi⟩ | hm
    · obtain ⟨hs, r, hr⟩ := h.wait_after_call i w hi
      exact ⟨hs, r, by rw [List.getElem?_append_left (by omega), hr]⟩
    · exact absurd rfl (hn _ (List.getElem?_mem hm.2) w)
  · obtain ⟨⟨r, hr⟩, hnw⟩ := h.handed_call w hw
    refine ⟨⟨r, by rw [List.getElem?_append_left (h.seq_lt hw), hr]⟩, fun he => ?_⟩
    rcases getElem?_append_cases he with ⟨-, he⟩ | hm
    · exact hnw he
    · exact hn _ (List.getElem?_mem hm.2) w rfl

/-- So does a wait on the request just logged, if its work was not given back. -/
theorem append_wait (h : LogInv log handed) (w : Work) (request : Request)
    (hc : log[w.seq]? = some (.call w.pg request)) (hl : w.seq + 1 = log.length)
    (hw : w ∉ handed) : LogInv (log ++ [.wait w]) handed := by
  refine ⟨fun i w' hi => ?_, fun w' hw' => ?_⟩
  · rcases getElem?_append_cases hi with ⟨hlt, hi⟩ | ⟨hle, hm⟩
    · obtain ⟨hs, r, hr⟩ := h.wait_after_call i w' hi
      exact ⟨hs, r, by rw [List.getElem?_append_left (by omega), hr]⟩
    · have hi : i = log.length := by
        have := (List.getElem?_eq_some_iff.1 hm).1
        simp only [List.length_singleton] at this
        omega
      obtain rfl : w = w' := by simpa [hi] using hm
      exact ⟨by omega, request, by rw [List.getElem?_append_left (by omega), hc]⟩
  · obtain ⟨⟨r, hr⟩, hnw⟩ := h.handed_call w' hw'
    have hlt := h.seq_lt hw'
    refine ⟨⟨r, by rw [List.getElem?_append_left hlt, hr]⟩, fun he => ?_⟩
    rcases getElem?_append_cases he with ⟨-, he⟩ | ⟨hle, he⟩
    · exact hnw he
    · rw [show w'.seq + 1 - log.length = 0 by omega] at he
      obtain rfl : w = w' := by simpa using he
      exact hw hw'

/-- Giving back the work of the request just logged keeps the invariant. -/
theorem hand (h : LogInv log handed) (w : Work) (request : Request)
    (hc : log[w.seq]? = some (.call w.pg request)) (hl : w.seq + 1 = log.length) :
    LogInv log (handed ++ [w]) := by
  refine ⟨h.wait_after_call, fun w' hw' => ?_⟩
  rcases List.mem_append.1 hw' with hw' | hw'
  · exact h.handed_call w' hw'
  · obtain rfl : w' = w := by simpa using hw'
    exact ⟨⟨request, hc⟩, by simp [hl]⟩

end LogInv

/-- The work handles a call's result gives back, `handed` reading them off a value; a call
    that raises gives none. -/
def givenBack {α : Type} (handed : α → List Work) : Except Error α → List Work
  | .ok r => handed r
  | .error _ => []

theorem givenBack_of_noHandle {α : Type} {hd : α → Option Work} {result : Except Error α}
    (hr : NoHandle hd result) : givenBack (fun r => (hd r).toList) result = [] := by
  cases result with
  | error _ => rfl
  | ok r => simp [givenBack, hr r rfl]

/-- A call that keeps to `OneRequest` keeps the log invariant, with its handle added. -/
theorem OneRequest.logInv {α : Type} {hd : α → Option Work} {log : List Event}
    {o : Outcome (List Event) α} (ho : OneRequest hd log o) {handed : List Work}
    (hi : LogInv log handed) :
    LogInv o.state (handed ++ givenBack (fun r => (hd r).toList) o.result) := by
  have hcall {pg : Handle} {request : Request} : LogInv (log ++ [.call pg request]) handed :=
    hi.append (by simp [NoWait])
  cases ho with
  | quiet hr => simpa [givenBack_of_noHandle hr] using hi
  | handedBack pg request hr =>
    simpa [givenBack, hr] using hcall.hand ⟨pg, log.length⟩ request (by simp) (by simp)
  | waited pg request hc hr =>
    have hw : LogInv (log ++ [.call pg request] ++ [.wait ⟨pg, log.length⟩]) handed :=
      hcall.append_wait ⟨pg, log.length⟩ request (by simp) (by simp) fun hw => by
        simpa using hi.seq_lt hw
    have hcopies : NoWait _ := fun e he w => by obtain ⟨d, s, rfl⟩ := hc e he; simp
    simpa [givenBack_of_noHandle hr] using hw.append hcopies

theorem P2POp.call_issuesOne (s : State) (p : P2POp) : IssuesOne id (p.call s) := by
  unfold P2POp.call
  split
  · exact isend_issuesOne _ _ _ _ _
  · exact irecv_issuesOne _ _ _ _ _

/-- The loop of a batch keeps the invariant, with the handles it had and those it adds;
    when an op raises, the handles of the ops before it are dropped. -/
theorem batchLoop_logInv (s : State) (ops : List P2POp) (reqs : List Work) (log : List Event)
    (handed : List Work) (hi : LogInv log (handed ++ reqs)) :
    LogInv (batchLoop s reqs ops log).state
      (handed ++ givenBack id (batchLoop s reqs ops log).result) := by
  induction ops generalizing reqs log with
  | nil => simpa [batchLoop, givenBack] using hi
  | cons p rest ih =>
    have hs := ((P2POp.call_issuesOne s p) log).logInv hi
    simp only [batchLoop, Py.bind_apply]
    rcases h : p.call s log with ⟨log', _ | ret⟩ <;> rw [h] at hs
    · exact hs.mono (by simp [givenBack])
    · cases ret <;> exact ih _ _ (by simpa [givenBack] using hs)

theorem batchP2pManager_logInv (cls : BackendClass) (backend : Attr)
    {body : Py (List Event) (List Work)}
    (hb : ∀ log handed, LogInv log handed →
      LogInv (body log).state (handed ++ givenBack id (body log).result))
    {log : List Event} {handed : List Work} (hi : LogInv log handed) :
    LogInv (batchP2pManager cls backend body log).state
      (handed ++ givenBack id (batchP2pManager cls backend body log).result) := by
  unfold batchP2pManager
  by_cases hn : backend = cls.attr .nccl <;> simp only [hn, if_true, if_false]
  · exact (hb _ _ (hi.append (by simp [NoWait]))).append (by simp [NoWait])
  · exact hb _ _ hi

/-- A batch keeps the invariant, with the handles it gives back added. -/
theorem batchIsendIrecv_logInv (cls : BackendClass) (s : State) (l : OpList)
    {log : List Event} {handed : List Work} (hi : LogInv log handed) :
    LogInv (batchIsendIrecv cls s l log).state
      (handed ++ givenBack id (batchIsendIrecv cls s l log).result) := by
  simp only [batchIsendIrecv, ↓Py.lift_bind_apply]
  split
  · split
    · split
      · exact batchP2pManager_logInv _ _ (fun log handed hi =>
          batchLoop_logInv s _ [] log handed (by simpa using hi)) hi
      · simpa [givenBack] using hi
    · simpa [givenBack] using hi
  · simpa [givenBack] using hi

/-- A dispatcher call, made in whatever state the process is in at the time: a call on a
    group, or `batch_isend_irecv`. -/
inductive Call where
  | op (s : State) (group : Option Handle) (op : Op)
  | batch (s : State) (p2pOpList : OpList)

/-- One call on the log, with the handles it gives back added to those given so far. The
    next call starts from the log this one left, whether it returned or raised. -/
def Call.step (net : Net) : Call → List Event × List Work → List Event × List Work
  | .op s group o, (log, handed) =>
    ((runOp net s group o log).state,
      handed ++ givenBack (fun r => r.work?.toList) (runOp net s group o log).result)
  | .batch s l, (log, handed) =>
    ((batchIsendIrecv net.backendClass s l log).state,
      handed ++ givenBack id (batchIsendIrecv net.backendClass s l log).result)

/-- Calls one after another from an empty log: the log they leave, and every handle they
    gave back. -/
def runCalls (net : Net) (calls : List Call) : List Event × List Work :=
  calls.foldl (fun acc c => c.step net acc) ([], [])

theorem Call.step_logInv (net : Net) (c : Call) {acc : List Event × List Work}
    (hi : LogInv acc.1 acc.2) : LogInv (c.step net acc).1 (c.step net acc).2 := by
  obtain ⟨log, handed⟩ := acc
  cases c with
  | op s group o => exact (runOp_issuesOne net s group o log).logInv hi
  | batch s l => exact batchIsendIrecv_logInv net.backendClass s l hi

/-- Over any sequence of dispatcher calls, batches included, each in any state and
    whether it returned or raised: every wait in the log is on the request logged just
    before it, and every handle given back names a request of the log that the dispatcher
    never waited on. -/
theorem runCalls_logInv (net : Net) (calls : List Call) :
    LogInv (runCalls net calls).1 (runCalls net calls).2 := by
  suffices h : ∀ acc : List Event × List Work, LogInv acc.1 acc.2 →
      LogInv (calls.foldl (fun acc c => c.step net acc) acc).1
        (calls.foldl (fun acc c => c.step net acc) acc).2 from h _ .nil
  induction calls with
  | nil => exact fun _ hi => hi
  | cons c cs ih => exact fun acc hi => ih _ (c.step_logInv net hi)

end DistributedC10d
