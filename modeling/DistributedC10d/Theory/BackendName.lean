import DistributedC10d.Theory.Registry

/-!
# Backend Names

`Backend(name)` is documented to return "the parsed lowercase string", accepting
upper-case spellings too. It returns what the class binds at `GLOO`, `NCCL` or `MPI` when
the name finds one of those; for every other name it finds, `hccl` and the registered
backends among them, it returns `name` as the caller spelled it. Which names it accepts
does not depend on case, since the lookup is by `name.upper()`; what it returns does. The
helper dispatches on the returned string, so `"HCCL"` is not `Backend.HCCL` there, and it
falls through to the branch for registered backends, which calls the attribute it finds:
the string `"hccl"`.

What `Backend` returns is parsed again by the helper. A string comes back unchanged; a
factory, which `Backend("gloo")` returns once `GLOO` is registered over, raises
`ValueError` there. While no built-in name is registered over, `Backend` only returns
strings.

## Theorems

* `upper_lower`: Upper-casing undoes a lower-casing.
* `backend_new_ok_iff_lower`: For an ASCII name, `Backend(s)` succeeds exactly when
  `Backend(s.lower())` does.
* `backend_new_spelling`: Past `gloo`, `nccl` and `mpi`, `Backend` hands back the spelling.
* `backend_new_idem`, `backend_new_twice`: Parsing a parsed name gives it back.
* `BackendClass.attr_of_unshadowed`, `backend_new_reparse`: Unshadowed, every attribute is
  the class body's, and a second parse succeeds.
* `constructBackend_hccl_spelling`: Any other spelling of `hccl` is called as a string.
* `hccl_uppercase_fails`: `init_process_group("HCCL")` raises where `"hccl"` succeeds.
-/

namespace DistributedC10d

theorem Char.toNat_ofNat_of_lt {n : Nat} (h : n < 55296) : (Char.ofNat n).toNat = n := by
  have hv : n.isValidChar := Or.inl h
  simp [Char.ofNat, hv, Char.ofNatAux, Char.toNat, UInt32.toNat]

theorem Char.toUpper_toLower (c : Char) : (Char.toLower c).toUpper = c.toUpper := by
  simp only [Char.toLower]
  split
  · have h1 : (Char.ofNat (c.toNat + 32)).toNat = c.toNat + 32 :=
      Char.toNat_ofNat_of_lt (by omega)
    simp only [Char.toUpper, h1]
    rw [if_pos (by omega), if_neg (by omega)]
    simp
  · rfl

/-- `s.lower().upper() == s.upper()`. -/
theorem upper_lower (s : String) : upper (lower s) = upper s := by
  have h : Char.toUpper ∘ Char.toLower = Char.toUpper := funext Char.toUpper_toLower
  simp [upper, lower, h]

/-- What `getattr(Backend, name.upper(), Backend.UNDEFINED)` finds. -/
def Backend.value (cls : BackendClass) (name : String) : Attr :=
  (cls.getattr (upper name)).getD (cls.attr .undefined)

theorem Backend.new_eq (cls : BackendClass) (name : String) :
    Backend.new cls (.str name) =
      if Backend.value cls name = cls.attr .tcp then
        .error (.value ("TCP backend has been deprecated. Please use " ++
          "Gloo or MPI backend for collective operations " ++ "on CPU tensors."))
      else if Backend.value cls name = cls.attr .undefined then
        .error (.value ("Invalid backend: '" ++ name ++ "'"))
      else if Backend.value cls name ≠ cls.attr .gloo ∧
          Backend.value cls name ≠ cls.attr .nccl ∧
          Backend.value cls name ≠ cls.attr .mpi then .ok (.str name)
      else .ok (Backend.value cls name) :=
  rfl

/-- Whether `Backend(name)` raises is decided by the attribute it finds. -/
theorem backend_new_isOk (cls : BackendClass) (name : String) :
    (∃ b, Backend.new cls (.str name) = .ok b) ↔
      Backend.value cls name ≠ cls.attr .tcp ∧ Backend.value cls name ≠ cls.attr .undefined := by
  rw [Backend.new_eq]
  split_ifs <;> simp_all

/-- For an ASCII name, where `upper` and `lower` are Python's own, `Backend(s)` succeeds
    exactly when `Backend(s.lower())` does. -/
theorem backend_new_ok_iff_lower (cls : BackendClass) (s : {s : String // isAscii s = true}) :
    (∃ b, Backend.new cls (.str s.1) = .ok b) ↔
      ∃ b, Backend.new cls (.str (lower s.1)) = .ok b := by
  simp only [backend_new_isOk, Backend.value, upper_lower]

/-- A name whose attribute is neither deprecated, missing, nor what `GLOO`, `NCCL` or
    `MPI` is bound to comes back as spelled. -/
theorem backend_new_spelling {cls : BackendClass} {name : String}
    (h : Backend.value cls name ∉
      [cls.attr .tcp, cls.attr .undefined, cls.attr .gloo, cls.attr .nccl, cls.attr .mpi]) :
    Backend.new cls (.str name) = .ok (.str name) := by
  simp only [List.mem_cons, List.mem_singleton, not_or, List.not_mem_nil] at h
  rw [Backend.new_eq]
  simp [h]

/-- An attribute the class body binds is found under its own name. -/
theorem BackendClass.getattr_name (cls : BackendClass) (b : Builtin) :
    cls.getattr b.name = some (cls.attr b) := by
  unfold BackendClass.getattr BackendClass.attr
  cases cls.registered.lookup b.name with
  | some f => rfl
  | none => cases b <;> rfl

/-- A string still bound where the class body bound it is that body's string, found
    under its upper-case spelling. -/
theorem BackendClass.attr_str {cls : BackendClass} {b : Builtin} {v : String}
    (h : cls.attr b = .str v) : v = b.value ∧ cls.getattr (upper v) = some (.str v) := by
  have hv : v = b.value := by
    unfold BackendClass.attr at h
    split at h <;> cases h
    rfl
  subst hv
  refine ⟨rfl, ?_⟩
  have hu : upper b.value = b.name := by cases b <;> decide
  rw [hu, BackendClass.getattr_name, h]

/-- `Backend(Backend(name)) == Backend(name)` when the first gave a string. -/
theorem backend_new_idem {cls : BackendClass} {name b : String}
    (h : Backend.new cls (.str name) = .ok (.str b)) : Backend.new cls (.str b) = .ok (.str b) := by
  rw [Backend.new_eq] at h
  generalize hv : Backend.value cls name = v at h
  split_ifs at h with h1 h2 h3
  · cases h
    rw [Backend.new_eq]
    simp [hv, h1, h2, h3]
  · -- What `GLOO`, `NCCL` or `MPI` is bound to, a string, so the class body's.
    cases h
    have hget : cls.getattr (upper b) = some (.str b) := by
      simp only [not_and_or, not_not] at h3
      rcases h3 with h3 | h3 | h3 <;> exact (BackendClass.attr_str h3.symm).2
    have hb : Backend.value cls b = .str b := by simp [Backend.value, hget]
    rw [Backend.new_eq, hb]
    simp [h1, h2]

/-- Parsing what `Backend` returned gives it back, if it gives anything: a factory is not
    a string. -/
theorem backend_new_twice {cls : BackendClass} {x y b : Attr} (h : Backend.new cls x = .ok y)
    (h' : Backend.new cls y = .ok b) : b = y := by
  cases x with
  | factory _ => cases h
  | str n =>
    cases y with
    | factory _ => cases h'
    | str v => exact Except.ok.inj (h'.symm.trans (backend_new_idem h))

/-- While no built-in name is registered over, every attribute is the class body's. -/
theorem BackendClass.attr_of_unshadowed {cls : BackendClass} (hu : cls.unshadowed = true)
    (b : Builtin) : cls.attr b = .str b.value := by
  have hb : (cls.registered.lookup b.name).isNone = true :=
    List.all_eq_true.1 hu b (by cases b <;> decide)
  simp [BackendClass.attr, Option.isNone_iff_eq_none.1 hb]

/-- While no built-in name is registered over, `Backend` returns a string, which a
    second `Backend(...)` gives back. -/
theorem backend_new_reparse {cls : BackendClass} (hu : cls.unshadowed = true) {x y : Attr}
    (h : Backend.new cls x = .ok y) : Backend.new cls y = .ok y := by
  cases x with
  | factory _ => cases h
  | str n =>
    have hs : ∃ v, y = .str v := by
      rw [Backend.new_eq] at h
      split_ifs at h with h1 h2 h3
      · exact ⟨n, (Except.ok.inj h).symm⟩
      · simp only [not_and_or, not_not, BackendClass.attr_of_unshadowed hu] at h3
        rcases h3 with h3 | h3 | h3 <;> exact ⟨_, (Except.ok.inj h).symm.trans h3⟩
    obtain ⟨v, rfl⟩ := hs
    exact backend_new_idem h

/-- The helper compares the parsed name with `GLOO`, `NCCL` and `HCCL`. While `HCCL` is
    the class body's, any spelling of `hccl` other than `"hccl"` itself misses them all,
    and the attribute found under `HCCL`, the string `"hccl"`, is called: `TypeError`. -/
theorem constructBackend_hccl_spelling {env : Env} {ext : Ext} {b : String}
    {rank : Option Int} {worldSize : Int} (hu : upper b = "HCCL") (hb : b ≠ Backend.hccl)
    (hreg : env.backendClass.registered.lookup "HCCL" = none) :
    constructBackend env ext (.str b) rank worldSize = .error .type := by
  have hh : env.backendClass.attr .hccl = .str Backend.hccl := by
    simp [BackendClass.attr, Builtin.name, hreg, Builtin.value]
  have hs {v : Builtin} (hv : upper v.value ≠ "HCCL") : Attr.str b ≠ env.backendClass.attr v := by
    intro h
    obtain ⟨rfl, -⟩ := BackendClass.attr_str h.symm
    exact hv hu
  have hc : env.backendClass.getattr "HCCL" = some (.str Backend.hccl) := by
    simpa [hh] using BackendClass.getattr_name env.backendClass .hccl
  simp [constructBackend, hs (v := .gloo) (by decide), hs (v := .nccl) (by decide), hh, hb, hu,
    hc]

/-- Gloo and HCCL built in, nothing registered. -/
def hcclWorld : Env := { glooWorld with hcclAvailable := true }

/-- `Backend("HCCL")` is `"HCCL"`, not `"hccl"`; and `init_process_group` with `"HCCL"`
    raises `TypeError` building the group, where `"hccl"` succeeds. -/
theorem hccl_uppercase_fails :
    Backend.new BackendClass.initial (.str "HCCL") = .ok (.str "HCCL") ∧
    lower "HCCL" = Backend.hccl ∧
    (initProcessGroup hcclWorld ⟨0, false, none⟩ "HCCL" none (.timedelta 1800) 2 0
      (some ⟨0⟩) "" State.initial).result = .error .type ∧
    (initProcessGroup hcclWorld ⟨0, false, none⟩ Backend.hccl none (.timedelta 1800) 2 0
      (some ⟨0⟩) "" State.initial).result = .ok () :=
  ⟨by decide, by decide, by decide, by decide⟩

end DistributedC10d
