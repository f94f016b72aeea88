import ScriptHost.Host.Call

/-!
# The registry of an instance

Which modules are registered, which host functions have been issued to scripts, and which of them
are live.  A host function is known by its number: the number is issued once, and
`Registry.hiddenName` is the name of the global that stands for the function while it is live.
-/

namespace ScriptHost

/-- A host function as scripts reach it: the path of its place in a module, and what is called. -/
structure HostFunction where
  path : HostValue
  target : HostValue

instance : Inhabited HostFunction := ⟨⟨.none, .none⟩⟩

/-- A registered module. -/
structure Module where
  /-- The name it was first registered under. -/
  name : HostValue
  capability : HostValue

/-- The modules and host functions of an instance. -/
structure Registry where
  /-- The registered modules by name, in the order of their first registration. -/
  modules : List (Text × Module)
  /-- The functions that each module holds. -/
  bound : List (Text × List Nat)
  /-- The live functions, the oldest first. -/
  live : List Nat
  /-- All functions ever issued, by number. -/
  issued : Array HostFunction

namespace Registry

/-- The registry of a new instance. -/
def empty : Registry := { modules := [], bound := [], live := [], issued := #[] }

instance : Inhabited Registry := ⟨empty⟩

/-- The number of the next function. -/
def nextId (r : Registry) : Nat := r.issued.size

/-- What the names of hidden globals begin with. -/
def hiddenPrefix : Text := "__jsvm_host_"

/-- The hidden global of a function. -/
def hiddenName (id : Nat) : Text := hiddenPrefix ++ Text.ofNat id

/-- The module under a name. -/
def module? (r : Registry) (key : Text) : Option Module :=
  (r.modules.find? fun e => e.1 == key).map (·.2)

/-- Whether a module is registered under a name. -/
def contains (r : Registry) (key : Text) : Bool := r.modules.any fun e => e.1 == key

/-- The names of the registered modules. -/
def names (r : Registry) : List HostValue := r.modules.map (·.2.name)

/-- Puts a capability under a name; a module that is there keeps its place and its name. -/
def putModule (modules : List (Text × Module)) (key : Text) (name capability : HostValue) :
    List (Text × Module) :=
  match modules with
  | [] => [(key, { name, capability })]
  | (k, m) :: rest =>
    if k = key then (k, { m with capability }) :: rest
    else (k, m) :: putModule rest key name capability

/-- The functions that the module under a name holds. -/
def boundTo (r : Registry) (key : Text) : List Nat :=
  ((r.bound.find? fun e => e.1 == key).map (·.2)).getD []

/-- The registry once the module under a name holds no functions. -/
def unbind (r : Registry) (key : Text) : Registry :=
  { r with bound := r.bound.filter fun e => e.1 != key }

/-- The registry with a module under a name, and the functions that it holds. -/
def bind (r : Registry) (key : Text) (name capability : HostValue) (ids : List Nat) : Registry :=
  { r with
    modules := putModule r.modules key name capability
    bound := (r.bound.filter fun e => e.1 != key) ++ [(key, ids)] }

/-- Issues a function. -/
def issue (r : Registry) (f : HostFunction) : Registry := { r with issued := r.issued.push f }

/-- A function goes live. -/
def enliven (r : Registry) (id : Nat) : Registry := { r with live := r.live ++ [id] }

/-- A function is live no more. -/
def retire (r : Registry) (id : Nat) : Registry :=
  { r with live := r.live.filter fun i => i != id }

/-- The function with a number. -/
def function? (r : Registry) (id : Nat) : Option HostFunction := r.issued[id]?

/-- The live functions with the names of their hidden globals, the oldest first. -/
def liveFunctions (r : Registry) : List (Text × HostFunction) :=
  r.live.filterMap fun id => (r.function? id).map fun f => (hiddenName id, f)

end Registry

end ScriptHost
