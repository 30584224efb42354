import DistributedC10d.Core.Python

/-!
# Backend Names

The `Backend` class. It is an enum-like class of lower-case strings, and calling it,
`Backend(name)`, parses a backend name: the name is upper-cased, looked up among the
class's attributes, and the value found decides the answer. `register_backend` sets an
attribute, so the set of names that parse grows at run time, and a name the class body
binds, `GLOO` say, can be rebound to a factory.

The class's attributes are read when the code runs, never fixed when it is written.
`Backend(name)` compares what it finds with `Backend.TCP`, `Backend.UNDEFINED`,
`Backend.GLOO`, `Backend.NCCL` and `Backend.MPI` as they are bound at that moment, and
so does every other comparison with an attribute in the module. It rejects `tcp` and
anything it cannot find, returns what is bound at `GLOO`, `NCCL` or `MPI` when the name
finds one of those, and for every other name it finds returns `name` as the caller
spelled it. So once `GLOO` is rebound to a factory, `Backend("gloo")` is that factory,
and a second `Backend(...)` of it raises `ValueError`, as it does for anything that is
not a string.

`upper` and `lower` are Python's `str.upper()` and `str.lower()` on ASCII text. Python
maps some other characters as well (the Kelvin sign lowers to `k`, the dotless `ı`
uppers to `I`), which these do not; what is proved about case holds for ASCII names.

## Main definitions

* `Attr`: What an attribute of the class is bound to.
* `Builtin`: The names the class body binds.
* `BackendClass`: The class's upper-case attributes at some point of a run.
* `BackendClass.attr`: `Backend.GLOO` and its siblings, as bound now.
* `BackendClass.registerBackend`: `Backend.register_backend(name, func)`.
* `BackendClass.unshadowed`: No built-in name has been registered over.
* `Backend.new`: `Backend(name)`.
-/

namespace DistributedC10d

/-- `s.upper()`, on ASCII text: Python's `str.upper()` maps some other characters too. -/
def upper (s : String) : String := ⟨s.data.map Char.toUpper⟩

/-- `s.lower()`, on ASCII text: Python's `str.lower()` maps some other characters too. -/
def lower (s : String) : String := ⟨s.data.map Char.toLower⟩

/-- Whether every character of `s` is ASCII, where `upper` and `lower` are Python's. -/
def isAscii (s : String) : Bool := s.data.all fun c => c.toNat < 128

/-- What a name on the `Backend` class is bound to: one of its string constants, or a
    factory that `register_backend` put there, known by an identity. -/
inductive Attr where
  | str (value : String)
  | factory (id : Nat)
  deriving DecidableEq, Repr

namespace Backend

/-- `Backend.UNDEFINED`. -/
def undefined : String := "undefined"

/-- `Backend.GLOO`. -/
def gloo : String := "gloo"

/-- `Backend.NCCL`. -/
def nccl : String := "nccl"

/-- `Backend.MPI`. -/
def mpi : String := "mpi"

/-- `Backend.TCP`. -/
def tcp : String := "tcp"

/-- `Backend.HCCL`. -/
def hccl : String := "hccl"

end Backend

/-- The names the class body binds: `Backend.UNDEFINED`, `GLOO`, `NCCL`, `MPI`, `TCP`
    and `HCCL`. -/
inductive Builtin where
  | undefined
  | gloo
  | nccl
  | mpi
  | tcp
  | hccl
  deriving DecidableEq, Repr

namespace Builtin

/-- The attribute's name. -/
def name : Builtin → String
  | undefined => "UNDEFINED"
  | gloo => "GLOO"
  | nccl => "NCCL"
  | mpi => "MPI"
  | tcp => "TCP"
  | hccl => "HCCL"

/-- The string the class body binds it to. -/
def value : Builtin → String
  | undefined => Backend.undefined
  | gloo => Backend.gloo
  | nccl => Backend.nccl
  | mpi => Backend.mpi
  | tcp => Backend.tcp
  | hccl => Backend.hccl

/-- All of them, in the order the class body binds them. -/
def all : List Builtin := [undefined, gloo, nccl, mpi, tcp, hccl]

end Builtin

/-- The `Backend` class's upper-case attributes: the factories `register_backend` has set,
    newest first, over the constants the class is defined with. -/
structure BackendClass where
  registered : List (String × Nat)
  deriving DecidableEq, Repr

namespace BackendClass

/-- The class body's constants. -/
def constants : List (String × Attr) := Builtin.all.map fun b => (b.name, .str b.value)

/-- The class as defined, before any registration. -/
def initial : BackendClass := ⟨[]⟩

/-- `getattr(Backend, name)`: a later `setattr` hides an earlier binding. -/
def getattr (cls : BackendClass) (name : String) : Option Attr :=
  match cls.registered.lookup name with
  | some func => some (.factory func)
  | none => constants.lookup name

/-- `Backend.GLOO` and its siblings, read when the code runs: the class body's string,
    unless `register_backend` has bound the name to a factory since. -/
def attr (cls : BackendClass) (b : Builtin) : Attr :=
  match cls.registered.lookup b.name with
  | some func => .factory func
  | none => .str b.value

/-- `Backend.register_backend(name, func)`: `setattr(Backend, name.upper(), func)`. -/
def registerBackend (cls : BackendClass) (name : String) (func : Nat) : BackendClass :=
  ⟨(upper name, func) :: cls.registered⟩

/-- No name the class body binds has been rebound by `register_backend` since. -/
def unshadowed (cls : BackendClass) : Bool :=
  Builtin.all.all fun b => (cls.registered.lookup b.name).isNone

end BackendClass

/-- What `"{}".format(value)` shows of an attribute. A factory's repr names its address,
    which is not modelled; its identity stands for it. -/
def Attr.format : Attr → String
  | .str value => value
  | .factory id => "<function " ++ toString id ++ ">"

/-- `Backend(name)`. The name is upper-cased and looked up, with `Backend.UNDEFINED` as
    the default, and what is found is compared with the class's attributes as they are
    bound now; a name that finds `GLOO`, `NCCL` or `MPI` gets back what is bound there,
    a factory if one was registered under that name. -/
def Backend.new (cls : BackendClass) (name : Attr) : Except Error Attr :=
  match name with
  | .factory _ => .error (.value ("Backend name must be a string, but got: " ++ name.format))
  | .str name =>
    let value := (cls.getattr (upper name)).getD (cls.attr .undefined)
    if value = cls.attr .tcp then
      .error (.value ("TCP backend has been deprecated. Please use " ++
        "Gloo or MPI backend for collective operations " ++ "on CPU tensors."))
    else if value = cls.attr .undefined then
      .error (.value ("Invalid backend: '" ++ name ++ "'"))
    else if value ≠ cls.attr .gloo ∧ value ≠ cls.attr .nccl ∧ value ≠ cls.attr .mpi then
      .ok (.str name)
    else .ok value

end DistributedC10d
