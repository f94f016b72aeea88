import ScriptHost.Proofs.RegistrationRuns

/-!
# Which function stands where

A capability shows to scripts as a tree: its mappings and lists, with literals and host functions
at the leaves.  Reading the leaves from left to right numbers the host functions, and rendering a
capability is writing that tree out with the numbers in place.  The induction is over the
capability; what it carries from one member to the next is how far the numbers have come.
-/

namespace ScriptHost.Proofs.Dispatch

open Interpreter Registry
open ScriptHost.Proofs.Transition
open ScriptHost.Proofs.Invocation
open ScriptHost.Proofs.RenderedCapability
open ScriptHost.Proofs.Registration
open ScriptHost.Proofs.RegistryGrowth

/-! ## Trees -/

/-- A capability as scripts see it. -/
inductive Tree
  | literal (t : Text)
  | callable (f : HostFunction)
  | list (items : List Tree)
  | mapping (members : List (Text × Tree))

namespace Tree

mutual

/-- The host functions at the leaves, from left to right. -/
def callables : Tree → List HostFunction
  | .literal _ => []
  | .callable f => [f]
  | .list items => itemCallables items
  | .mapping members => memberCallables members

/-- The host functions of the items of a list. -/
def itemCallables : List Tree → List HostFunction
  | [] => []
  | r :: rest => r.callables ++ itemCallables rest

/-- The host functions of the members of a mapping. -/
def memberCallables : List (Text × Tree) → List HostFunction
  | [] => []
  | (_, r) :: rest => r.callables ++ memberCallables rest

end

/-- The expression for the function with a number. -/
def bridged (id : Nat) : Text := bridgeName ++ "(" ++ hiddenName id ++ ")"

mutual

/-- The tree as an expression, its host functions numbered on from `n`. -/
def text (n : Nat) : Tree → Text
  | .literal t => t
  | .callable _ => bridged n
  | .list items => Json.bracketed "[" "]" (itemTexts n items)
  | .mapping members => Json.bracketed "\x7b" "\x7d" (memberTexts n members)

/-- The items of a list as expressions. -/
def itemTexts (n : Nat) : List Tree → List Text
  | [] => []
  | r :: rest => r.text n :: itemTexts (n + r.callables.length) rest

/-- The members of a mapping as expressions. -/
def memberTexts (n : Nat) : List (Text × Tree) → List Text
  | [] => []
  | (key, r) :: rest =>
    renderedMember key (r.text n) :: memberTexts (n + r.callables.length) rest

end

end Tree

/-! ## The tree of a capability -/

/-- What is shown as a host function: what can be called, unless it says otherwise. -/
def isCallableLeaf : HostValue → Bool
  | .function _ _ => true
  | .object _ toScript exports call =>
    !exports.isCallable && call.isSome && !toScript.isPresent
  | _ => false

/-- What is shown as its literal. -/
def isPlainLeaf : HostValue → Bool
  | .dict _ | .mappingView _ | .list _ | .tuple _ => false
  | .enumeration _ | .recordType _ | .classObject _ _ _ _ => false
  | .function _ _ => false
  | .object _ toScript exports call =>
    !exports.isCallable && !(call.isSome && !toScript.isPresent)
  | _ => true

/-- What an object exports, if that is fixed. -/
def exported? : Attribute → Option HostValue
  | .method result => some result
  | .plain (.object _ _ _ (some v)) => some v
  | .plain (.function _ (.returns v)) => some v
  | _ => none

section Shows

variable {E V : Type}

mutual

/-- The tree that a capability shows as, if the path of its place in the module is `path`. -/
inductive Shows (X : Interpreter E V) : HostValue → HostValue → Tree → Prop
  | callable {path v : HostValue} (h : isCallableLeaf v = true) :
    Shows X path v (.callable { path, target := v })
  | literal {path v : HostValue} {t : Text} (h : isPlainLeaf v = true) (ht : v.literal = .ok t) :
    Shows X path v (.literal t)
  | mapping {path v : HostValue} {entries : List (HostValue × HostValue)}
    {members : List (Text × Tree)} (h : v.entries? = some entries)
    (hmembers : ShowsMembers X path entries members) : Shows X path v (.mapping members)
  | list {path : HostValue} {xs : List HostValue} {items : List Tree}
    (hitems : ShowsItems X path 0 xs items) : Shows X path (.list xs) (.list items)
  | tuple {path : HostValue} {xs : List HostValue} {items : List Tree}
    (hitems : ShowsItems X path 0 xs items) : Shows X path (.tuple xs) (.list items)
  | exported {path v : HostValue} {typeName : String} {toScript exports : Attribute}
    {call : Option HostValue} {r : Tree} (h : exported? exports = some v)
    (hv : Shows X path v r) : Shows X path (.object typeName toScript exports call) r
  /-- What a host function computes is plain data. -/
  | computed {path v : HostValue} {typeName : String} {toScript : Attribute}
    {call : Option HostValue} {id : Nat} {b : Behaviour} {s s' : E × Instance V} {t : Text}
    (hcall : X.callPlain id b [] s = .ok v s') (ht : v.literal = .ok t) :
    Shows X path (.object typeName toScript (.plain (.function id b)) call) (.literal t)

/-- The trees of the members of a mapping. -/
inductive ShowsMembers (X : Interpreter E V) :
    HostValue → List (HostValue × HostValue) → List (Text × Tree) → Prop
  | nil {path : HostValue} : ShowsMembers X path [] []
  | cons {path key v : HostValue} {t : Text} {r : Tree} {rest : List (HostValue × HostValue)}
    {members : List (Text × Tree)} (hkey : key.text? = some t)
    (hv : Shows X (memberPath path key) v r) (hrest : ShowsMembers X path rest members) :
    ShowsMembers X path ((key, v) :: rest) ((t, r) :: members)

/-- The trees of the items of a list, the first of them at place `i`. -/
inductive ShowsItems (X : Interpreter E V) :
    HostValue → Nat → List HostValue → List Tree → Prop
  | nil {path : HostValue} {i : Nat} : ShowsItems X path i [] []
  | cons {path v : HostValue} {i : Nat} {r : Tree} {rest : List HostValue} {items : List Tree}
    (hv : Shows X (itemPath path i) v r) (hrest : ShowsItems X path (i + 1) rest items) :
    ShowsItems X path i (v :: rest) (r :: items)

end

end Shows

/-! ## Functions one after the other -/

/-- The registry after some functions have been issued, one after the other, and gone live. -/
structure Numbered (r r' : Registry) (fs : List HostFunction) : Prop where
  modules : r'.modules = r.modules
  bound : r'.bound = r.bound
  issued : r'.issued.toList = r.issued.toList ++ fs
  live : r'.live = r.live ++ List.range' r.nextId fs.length

namespace Numbered

variable {r r' r'' : Registry} {fs gs : List HostFunction}

theorem refl (r : Registry) : Numbered r r [] :=
  ⟨rfl, rfl, (List.append_nil _).symm, (List.append_nil _).symm⟩

theorem nextId (h : Numbered r r' fs) : r'.nextId = r.nextId + fs.length := by
  simpa [Registry.nextId] using congrArg List.length h.issued

theorem trans (h : Numbered r r' fs) (h' : Numbered r' r'' gs) : Numbered r r'' (fs ++ gs) where
  modules := h'.modules.trans h.modules
  bound := h'.bound.trans h.bound
  issued := by rw [h'.issued, h.issued, List.append_assoc]
  live := by
    rw [h'.live, h.live, h.nextId, List.append_assoc, List.range'_append_1, List.length_append]

theorem issue (r : Registry) (f : HostFunction) :
    Numbered r ((r.issue f).enliven r.nextId) [f] where
  modules := rfl
  bound := rfl
  issued := by simp [Registry.issue, Registry.enliven]
  live := rfl

/-- The functions are found under their numbers. -/
theorem function? (h : Numbered r r' fs) (i : Nat) (hi : i < fs.length) :
    r'.function? (r.nextId + i) = some fs[i] := by
  have hsize : r.nextId + i < r'.issued.size := by
    have hnext := h.nextId
    simp only [Registry.nextId] at hnext ⊢
    omega
  rw [Registry.function?, ← Array.getElem?_toList, h.issued, Registry.nextId,
    ← Array.length_toList, List.getElem?_append_right (Nat.le_add_right _ _)]
  simp [hi]

end Numbered

section Walk

variable {E V α β : Type} {X : Interpreter E V}

/-- Some functions have been issued one after the other, gone live, and been noted. -/
structure Binds (s s' : List Nat × E × Instance V) (fs : List HostFunction) : Prop where
  noted : s'.1 = s.1 ++ List.range' s.2.2.registry.nextId fs.length
  registry : Numbered s.2.2.registry s'.2.2.registry fs

namespace Binds

variable {s s' s'' : List Nat × E × Instance V} {fs gs : List HostFunction}

theorem refl (s : List Nat × E × Instance V) : Binds s s [] :=
  ⟨(List.append_nil _).symm, .refl _⟩

theorem trans (h : Binds s s' fs) (h' : Binds s' s'' gs) : Binds s s'' (fs ++ gs) where
  noted := by
    rw [h'.noted, h.noted, h.registry.nextId, List.append_assoc, List.range'_append_1,
      List.length_append]
  registry := h.registry.trans h'.registry

end Binds

/-! ## What a step of the walk does -/

theorem ok_of_ofExcept {r : Except Fault α} {a : α} {s s' : List Nat × E × Instance V}
    (h : (BuildM.ofExcept r : BuildM E V α) s = .ok a s') : r = .ok a ∧ s' = s := by
  cases r with
  | ok b =>
      cases h
      exact ⟨rfl, rfl⟩
  | error f => cases h

theorem ok_of_lift {body : HostM E V α} {a : α} {s s' : List Nat × E × Instance V}
    (h : BuildM.lift body s = .ok a s') : body s.2 = .ok a s'.2 ∧ s'.1 = s.1 := by
  obtain ⟨ids, s⟩ := s
  cases hbody : body s with
  | ok b t =>
      rw [lift_ok ids hbody] at h
      cases h
      exact ⟨rfl, rfl⟩
  | error f t =>
      rw [lift_error ids hbody] at h
      cases h

/-- Whatever a computation does to the registry is undone. -/
theorem keepingRegistry_keeps (body : HostM E V α) :
    Meets SameRegistry (fun _ => True) (fun _ => True) (keepingRegistry body) :=
  keepingRegistry_meets
    (Meets.of_runs (fun _ _ _ _ => ⟨trivial, trivial⟩) fun _ _ _ _ => ⟨trivial, trivial⟩)

/-- Binding a function takes the next number for it. -/
theorem bindFunction_binds {path target : HostValue} {t : Text}
    {s s' : List Nat × E × Instance V}
    (h : (isolated X).bindFunction path target s = .ok t s') :
    Binds s s' [{ path, target }] ∧ t = Tree.bridged s.2.2.registry.nextId := by
  obtain ⟨ids, e, i⟩ := s
  rw [bindFunction_run] at h
  cases hadd : (isolated X).addFunction i.registry.nextId
      (e, { i with registry := i.registry.issue { path, target } }) with
  | error f s₁ =>
      rw [hadd] at h
      cases h
  | ok u s₁ =>
      have hkept := ((keepingRegistry_keeps (X.addFunction i.registry.nextId)).ok hadd).1
      obtain ⟨e', i'⟩ := s₁
      rw [hadd] at h
      cases h
      refine ⟨⟨rfl, ?_⟩, rfl⟩
      change Numbered i.registry (i'.registry.enliven i.registry.nextId) _
      rw [show i'.registry = _ from hkept]
      exact .issue i.registry { path, target }

/-- What an export runs in an isolated engine leaves the registry as it is. -/
theorem callPlain_keeps (X : Interpreter E V) (id : Nat) (b : Behaviour)
    (args : List HostValue) :
    Meets SameRegistry (fun _ => True) (fun _ => True) ((isolated X).callPlain id b args) := by
  have hrun : ∀ code, Meets SameRegistry (fun _ => True) (fun _ => True)
      ((isolated X).run code) := fun code =>
    run_meets chains_sameRegistry (keepingRegistry_keeps _) fun _ _ => trivial
  refine callPlain_meets chains_sameRegistry (fun _ _ _ => rfl) (fun _ _ _ => rfl)
    (fun name args => ?_) (fun _ _ => trivial) id b args
  exact invoke_keeps chains_sameRegistry (fun _ _ _ => rfl) (fun code _ => hrun code)
    (fun items => (meets_ofExcept (Q := fun _ => True) chains_sameRegistry (fun _ _ => trivial)
      fun _ _ => trivial).bind chains_sameRegistry fun _ _ => hrun _)
    (fun _ _ => keepingRegistry_keeps _) fun _ => keepingRegistry_keeps _

/-! ## The walk -/

/-- Rendering has led from one state to another: the capability shows as a tree, the functions at
its leaves are bound in their order, and the expression is the tree with their numbers. -/
def Renders (X : Interpreter E V) (path v : HostValue) (s s' : List Nat × E × Instance V)
    (t : Text) : Prop :=
  ∃ r, Shows X path v r ∧ Binds s s' r.callables ∧ t = r.text s.2.2.registry.nextId

theorem renders_callable {path v : HostValue} {s s' : List Nat × E × Instance V} {t : Text}
    (h : isCallableLeaf v = true) (hrun : (isolated X).bindFunction path v s = .ok t s') :
    Renders (isolated X) path v s s' t := by
  obtain ⟨hbinds, ht⟩ := bindFunction_binds hrun
  exact ⟨_, .callable h, hbinds, ht⟩

theorem renders_literal {path v : HostValue} {s s' : List Nat × E × Instance V} {t : Text}
    (h : isPlainLeaf v = true)
    (hrun : (BuildM.ofExcept v.literal : BuildM E V Text) s = .ok t s') :
    Renders X path v s s' t := by
  obtain ⟨ht, rfl⟩ := ok_of_ofExcept hrun
  exact ⟨_, .literal h ht, .refl s', rfl⟩

/-- What an object exports is rendered in its place. -/
theorem Renders.exported {path v : HostValue} {s s' : List Nat × E × Instance V} {t : Text}
    {typeName : String} {toScript exports : Attribute} {call : Option HostValue}
    (h : exported? exports = some v) (hv : Renders X path v s s' t) :
    Renders X path (.object typeName toScript exports call) s s' t := by
  obtain ⟨r, hshows, hbinds, ht⟩ := hv
  exact ⟨r, .exported h hshows, hbinds, ht⟩

theorem renders_computed {path : HostValue} {s s' : List Nat × E × Instance V} {t : Text}
    (typeName : String) (toScript : Attribute) (call : Option HostValue) (id : Nat) (b : Behaviour)
    (hrun : (do BuildM.ofExcept (← BuildM.lift ((isolated X).callPlain id b [])).literal :
      BuildM E V Text) s = .ok t s') :
    Renders (isolated X) path (.object typeName toScript (.plain (.function id b)) call) s s' t := by
  obtain ⟨v, s₁, hcall, hliteral⟩ := ok_of_bind hrun
  obtain ⟨hcall, hids⟩ := ok_of_lift hcall
  obtain ⟨ht, rfl⟩ := ok_of_ofExcept hliteral
  have hkept : s'.2.2.registry = s.2.2.registry := ((callPlain_keeps X id b []).ok hcall).1
  refine ⟨_, .computed hcall ht, ⟨by rw [hids]; exact (List.append_nil _).symm, ?_⟩, rfl⟩
  rw [hkept]
  exact .refl _

mutual

/-- Rendering a capability binds the functions at its leaves in their order. -/
theorem build_renders (path : HostValue) :
    ∀ v : HostValue, registersNothing v = true → ∀ {s s' t},
      (isolated X).build path v s = .ok t s' → Renders (isolated X) path v s s' t
  | .dict es, hes, _, _, _, hrun | .mappingView es, hes, _, _, _, hrun => by
      obtain ⟨texts, s₁, hmembers, hdone⟩ := ok_of_bind hrun
      cases hdone
      obtain ⟨members, hshows, hbinds, rfl⟩ := buildMembers_renders path es hes hmembers
      exact ⟨.mapping members, .mapping rfl hshows, hbinds, rfl⟩
  | .list xs, hxs, _, _, _, hrun => by
      obtain ⟨texts, s₁, hitems, hdone⟩ := ok_of_bind hrun
      cases hdone
      obtain ⟨items, hshows, hbinds, rfl⟩ := buildItems_renders path 0 xs hxs hitems
      exact ⟨.list items, .list hshows, hbinds, rfl⟩
  | .tuple xs, hxs, _, _, _, hrun => by
      obtain ⟨texts, s₁, hitems, hdone⟩ := ok_of_bind hrun
      cases hdone
      obtain ⟨items, hshows, hbinds, rfl⟩ := buildItems_renders path 0 xs hxs hitems
      exact ⟨.list items, .tuple hshows, hbinds, rfl⟩
  | .object typeName toScript exports call, hexports, _, _, _, hrun => by
      unfold Interpreter.build at hrun
      split at hrun
      · exact buildExports_renders path exports hexports typeName toScript call ‹_› hrun
      · rename_i hexported
        split at hrun
        · rename_i hcallable
          exact renders_callable (by simp [isCallableLeaf, hexported, hcallable]) hrun
        · rename_i hplain
          exact renders_literal (by simp only [isPlainLeaf, hexported, hplain]; rfl) hrun
  | .function id b, _, _, _, _, hrun => renders_callable rfl hrun
  | .none, _, _, _, _, hrun | .bool _, _, _, _, _, hrun | .int _, _, _, _, _, hrun
  | .float _, _, _, _, _, hrun | .str _, _, _, _, _, hrun | .intMember _, _, _, _, _, hrun
  | .strMember _, _, _, _, _, hrun | .member _, _, _, _, _, hrun | .set _, _, _, _, _, hrun
  | .bytes _, _, _, _, _, hrun | .complex _ _, _, _, _, _, hrun
  | .record _, _, _, _, _, hrun => renders_literal rfl hrun
termination_by structural v => v

theorem buildExports_renders (path : HostValue) :
    ∀ a : Attribute, exportsRegisterNothing a = true →
      ∀ (typeName : String) (toScript : Attribute) (call : Option HostValue) {s s' t},
      a.isCallable = true → (isolated X).buildExports path a s = .ok t s' →
      Renders (isolated X) path (.object typeName toScript a call) s s' t
  | .method result, hresult, _, _, _, _, _, _, _, hrun =>
      .exported rfl (build_renders path result hresult hrun)
  | .plain v, hv, typeName, toScript, call, _, _, _, _, hrun =>
      buildCalled_renders path v hv typeName toScript call hrun
  | .absent, _, _, _, _, _, _, _, hcallable, _ => nomatch hcallable
termination_by structural a => a

theorem buildCalled_renders (path : HostValue) :
    ∀ v : HostValue, callRegistersNothing v = true →
      ∀ (typeName : String) (toScript : Attribute) (call : Option HostValue) {s s' t},
      (isolated X).buildCalled path v s = .ok t s' →
      Renders (isolated X) path (.object typeName toScript (.plain v) call) s s' t
  | .object _ _ _ (some v), hv, _, _, _, _, _, _, hrun =>
      .exported rfl (build_renders path v hv hrun)
  | .function id b, hb, typeName, toScript, call, _, _, _, hrun =>
      buildReturned_renders path id b hb typeName toScript call hrun
termination_by structural v => v

theorem buildReturned_renders (path : HostValue) (id : Nat) :
    ∀ b : Behaviour, behaviourRegistersNothing b = true →
      ∀ (typeName : String) (toScript : Attribute) (call : Option HostValue) {s s' t},
      (isolated X).buildReturned path id b s = .ok t s' →
      Renders (isolated X) path (.object typeName toScript (.plain (.function id b)) call) s s' t
  | .returns v, hv, _, _, _, _, _, _, hrun => .exported rfl (build_renders path v hv hrun)
  | .args, _, typeName, toScript, call, _, _, _, hrun
  | .count, _, typeName, toScript, call, _, _, _, hrun
  | .first, _, typeName, toScript, call, _, _, _, hrun
  | .add, _, typeName, toScript, call, _, _, _, hrun
  | .keys, _, typeName, toScript, call, _, _, _, hrun
  | .type, _, typeName, toScript, call, _, _, _, hrun
  | .default, _, typeName, toScript, call, _, _, _, hrun
  | .none, _, typeName, toScript, call, _, _, _, hrun
  | .counter, _, typeName, toScript, call, _, _, _, hrun
  | .failSecond, _, typeName, toScript, call, _, _, _, hrun
  | .raises _ _, _, typeName, toScript, call, _, _, _, hrun
  | .runFunction _, _, typeName, toScript, call, _, _, _, hrun
  | .console _, _, typeName, toScript, call, _, _, _, hrun
  | .regex _, _, typeName, toScript, call, _, _, _, hrun =>
      renders_computed typeName toScript call id _ hrun
termination_by structural b => b

theorem buildMembers_renders (path : HostValue) :
    ∀ es : List (HostValue × HostValue), membersRegisterNothing es = true → ∀ {s s' texts},
      (isolated X).buildMembers path es s = .ok texts s' →
      ∃ members, ShowsMembers (isolated X) path es members ∧
        Binds s s' (Tree.memberCallables members) ∧
        texts = Tree.memberTexts s.2.2.registry.nextId members
  | [], _, _, _, _, hrun => by
      cases hrun
      exact ⟨[], .nil, .refl _, rfl⟩
  | (key, v) :: rest, hes, s, s', texts, hrun => by
      obtain ⟨hv, hrest⟩ := Bool.and_eq_true_iff.mp hes
      unfold Interpreter.buildMembers at hrun
      cases hkey : key.text? with
      | none =>
          simp only [hkey] at hrun
          cases hrun
      | some t =>
          simp only [hkey] at hrun
          obtain ⟨value, s₁, hvalue, hrun⟩ := ok_of_bind hrun
          obtain ⟨more, s₂, hmore, hdone⟩ := ok_of_bind hrun
          cases hdone
          obtain ⟨r, hshows, hbinds, rfl⟩ := build_renders _ v hv hvalue
          obtain ⟨members, hmembers, hbinds', rfl⟩ := buildMembers_renders path rest hrest hmore
          refine ⟨(t, r) :: members, .cons hkey hshows hmembers, hbinds.trans hbinds', ?_⟩
          rw [hbinds.registry.nextId]
          rfl
termination_by structural es => es

theorem buildItems_renders (path : HostValue) (i : Nat) :
    ∀ xs : List HostValue, itemsRegisterNothing xs = true → ∀ {s s' texts},
      (isolated X).buildItems path i xs s = .ok texts s' →
      ∃ items, ShowsItems (isolated X) path i xs items ∧
        Binds s s' (Tree.itemCallables items) ∧
        texts = Tree.itemTexts s.2.2.registry.nextId items
  | [], _, _, _, _, hrun => by
      cases hrun
      exact ⟨[], .nil, .refl _, rfl⟩
  | v :: rest, hxs, s, s', texts, hrun => by
      obtain ⟨hv, hrest⟩ := Bool.and_eq_true_iff.mp hxs
      obtain ⟨value, s₁, hvalue, hrun⟩ := ok_of_bind hrun
      obtain ⟨more, s₂, hmore, hdone⟩ := ok_of_bind hrun
      cases hdone
      obtain ⟨r, hshows, hbinds, rfl⟩ := build_renders _ v hv hvalue
      obtain ⟨items, hitems, hbinds', rfl⟩ := buildItems_renders path (i + 1) rest hrest hmore
      refine ⟨r :: items, .cons hshows hitems, hbinds.trans hbinds', ?_⟩
      rw [hbinds.registry.nextId]
      rfl
termination_by structural xs => xs

end

/-! ## No function at another's place -/

/-- The building runs by itself: no operation of the engine that it uses touches the registry. -/
def BuildsAlone (X : Interpreter E V) (path v : HostValue) (s : E × Instance V) : Prop :=
  X.build path v ([], s) = (isolated X).build path v ([], s)

/-- A capability that shows as a tree has been rendered: its functions are numbered on from the next
number, each of the numbers is live for the function at its own leaf, and the expression has each
number at that leaf. -/
structure Dispatched (X : Interpreter E V) (path v : HostValue) (s s' : E × Instance V)
    (ids : List Nat) (t : Text) (r : Tree) : Prop where
  shows : Shows X path v r
  bound : ids.map hiddenName =
    (List.range' s.2.registry.nextId r.callables.length).map hiddenName
  mapped : ∀ (i : Nat) (hi : i < r.callables.length) (f : HostFunction),
    (hiddenName (s.2.registry.nextId + i), f) ∈ s'.2.registry.liveFunctions ↔ f = r.callables[i]
  nextId : s'.2.registry.nextId = s.2.registry.nextId + r.callables.length
  text : t = r.text s.2.registry.nextId

theorem mem_liveFunctions {r : Registry} {id : Nat} {f : HostFunction} :
    (hiddenName id, f) ∈ r.liveFunctions ↔ id ∈ r.live ∧ r.function? id = some f := by
  simp only [liveFunctions, List.mem_filterMap, Option.map_eq_some_iff, Prod.mk.injEq]
  constructor
  · rintro ⟨id', hlive, f', hf, hname, rfl⟩
    obtain rfl := hiddenName_injective hname
    exact ⟨hlive, hf⟩
  · rintro ⟨hlive, hf⟩
    exact ⟨id, hlive, f, hf, rfl, rfl⟩

/-- Whatever capability is rendered, as long as nothing it exports registers a module in turn: the
callables at its leaves are numbered in their order, each number is live for its own callable under
the path of its own leaf, and stands in the expression where the callable stood. -/
theorem build_dispatches {path v : HostValue} {s s' : E × Instance V} {ids : List Nat} {t : Text}
    (hcapability : registersNothing v = true) (halone : BuildsAlone X path v s)
    (hrun : X.build path v ([], s) = .ok t (ids, s')) :
    ∃ r, Dispatched (isolated X) path v s s' ids t r := by
  rw [show _ = _ from halone] at hrun
  obtain ⟨r, hshows, hbinds, htext⟩ := build_renders path v hcapability hrun
  have hids : ids = List.range' s.2.registry.nextId r.callables.length := hbinds.noted
  refine ⟨r, hshows, congrArg (List.map hiddenName) hids, fun i hi f => ?_,
    hbinds.registry.nextId, htext⟩
  have hfunction : s'.2.registry.function? (s.2.registry.nextId + i) = some r.callables[i] :=
    hbinds.registry.function? i hi
  have hlive : s.2.registry.nextId + i ∈ s'.2.registry.live := by
    rw [show s'.2.registry.live = _ from hbinds.registry.live]
    exact List.mem_append_right _
      (List.mem_range'_1.mpr ⟨Nat.le_add_right _ _, Nat.add_lt_add_left hi _⟩)
  rw [mem_liveFunctions, hfunction]
  constructor
  · rintro ⟨-, ⟨⟩⟩
    rfl
  · rintro rfl
    exact ⟨hlive, rfl⟩

end Walk

/-! ## Two capabilities on the bare engine -/

/-- A module with functions in a member, in a list, and behind an export. -/
def nestedModule : HostValue :=
  .ofFields [("a", .function 0 .count),
    ("b", .list [.int 1, .ofFields [("c", .function 1 .first)]]),
    ("d", .object "Module" .absent (.method (.function 2 .none)) none)]

/-- Three functions of a nested module, each under its own path. -/
theorem nested_module_is_dispatched :
    ∃ t s' r,
      Dispatched (isolated HiddenGlobals.bareEngine) (.ofString "m") nestedModule
        RegistrationRuns.bareStart s' [0, 1, 2] t r ∧
      t = "\x7b\"a\": __jsvm_bridge(__jsvm_host_0), "
        ++ "\"b\": [1, \x7b\"c\": __jsvm_bridge(__jsvm_host_1)\x7d], "
        ++ "\"d\": __jsvm_bridge(__jsvm_host_2)\x7d" ∧
      s'.2.registry.liveFunctions = [
        (Text.ofString "__jsvm_host_0", ⟨.ofString "m.a", .function 0 .count⟩),
        (Text.ofString "__jsvm_host_1", ⟨.ofString "m.b[1].c", .function 1 .first⟩),
        (Text.ofString "__jsvm_host_2", ⟨.ofString "m.d", .function 2 .none⟩)] := by
  have hrun : HiddenGlobals.bareEngine.build (.ofString "m") nestedModule
      ([], RegistrationRuns.bareStart) = .ok _ ([0, 1, 2], _) := rfl
  have halone : BuildsAlone HiddenGlobals.bareEngine (.ofString "m") nestedModule
      RegistrationRuns.bareStart := rfl
  obtain ⟨r, hr⟩ := build_dispatches (by decide) halone hrun
  exact ⟨_, _, r, hr, by decide, rfl⟩

/-- A list of a function behind an export that registers another module first, and a function. -/
def registeringModule : HostValue :=
  .list [.object "Exporter" .absent
      (.plain (.function 0 (.register (.ofString "x") (.function 1 .count)))) none,
    .function 2 .count]

/-- An export that registers a module takes a number out of the row: the only function of the list
has the number after the next one. -/
theorem registering_export_is_not_dispatched :
    ∃ t s', HiddenGlobals.bareEngine.build (.ofString "m") registeringModule
        ([], RegistrationRuns.bareStart) = .ok t ([1], s') ∧
      ∀ r, ¬Dispatched HiddenGlobals.bareEngine (.ofString "m") registeringModule
        RegistrationRuns.bareStart s' [1] t r := by
  refine ⟨_, _, rfl, fun r h => ?_⟩
  have hnames := h.bound
  have hlength : r.callables.length = 1 := by
    simpa using (congrArg List.length hnames).symm
  rw [hlength] at hnames
  exact absurd (hiddenName_injective (List.cons.inj hnames).1) (by decide)

end ScriptHost.Proofs.Dispatch
