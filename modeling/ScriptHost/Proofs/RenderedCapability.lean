import ScriptHost.Instance.Capability
import ScriptHost.Proofs.Invocation

/-!
# Rendering a capability

What the walk over a capability does, whatever its shape: it issues functions one by one, runs host
code that a module's exports call, and ends in an expression made of literals, calls of the bridge,
lists and objects.  A relation between states that these two kinds of steps keep is kept by the
walk.
-/

namespace ScriptHost.Proofs.RenderedCapability

open Interpreter
open ScriptHost.Proofs.Transition
open ScriptHost.Proofs.HostFaults

variable {E V : Type} {X : Interpreter E V}

/-! ## Capabilities whose rendering registers nothing -/

mutual

/-- Whether rendering a capability registers no further module: no export registers one. -/
def registersNothing : HostValue → Bool
  | .dict es | .mappingView es => membersRegisterNothing es
  | .list xs | .tuple xs => itemsRegisterNothing xs
  | .object _ _ exports _ => exportsRegisterNothing exports
  | _ => true

/-- Whether calling an attribute for its exports registers nothing, nor does rendering them. -/
def exportsRegisterNothing : Attribute → Bool
  | .method result => registersNothing result
  | .plain v => callRegistersNothing v
  | _ => true

/-- Whether calling a value registers nothing, nor does rendering its result. -/
def callRegistersNothing : HostValue → Bool
  | .object _ _ _ (some v) => registersNothing v
  | .function _ b => behaviourRegistersNothing b
  | _ => true

/-- Whether a host function registers nothing, nor does rendering its result. -/
def behaviourRegistersNothing : Behaviour → Bool
  | .returns v => registersNothing v
  | .register _ _ => false
  | _ => true

/-- Whether rendering the members of a mapping registers nothing. -/
def membersRegisterNothing : List (HostValue × HostValue) → Bool
  | [] => true
  | (_, v) :: rest => registersNothing v && membersRegisterNothing rest

/-- Whether rendering the items of a list registers nothing. -/
def itemsRegisterNothing : List HostValue → Bool
  | [] => true
  | v :: rest => registersNothing v && itemsRegisterNothing rest

end

/-! ## Expressions -/

/-- The expressions that capabilities are rendered as. -/
inductive Rendered : Text → Prop
  | literal {v : HostValue} {t : Text} (h : v.literal = .ok t) : Rendered t
  | function (id : Nat) : Rendered (bridgeName ++ "(" ++ Registry.hiddenName id ++ ")")
  | list {items : List Text} (h : ∀ t ∈ items, Rendered t) :
    Rendered (Json.bracketed "[" "]" items)
  | mapping {members : List (Text × Text)} (h : ∀ m ∈ members, Rendered m.2) :
    Rendered (Json.bracketed "\x7b" "\x7d" (members.map fun m => renderedMember m.1 m.2))

/-- The members of a mapping whose values are rendered. -/
def RenderedMembers (texts : List Text) : Prop :=
  ∃ members : List (Text × Text),
    texts = (members.map fun m => renderedMember m.1 m.2) ∧ ∀ m ∈ members, Rendered m.2

theorem RenderedMembers.cons {key value : Text} {texts : List Text} (hvalue : Rendered value)
    (h : RenderedMembers texts) : RenderedMembers (renderedMember key value :: texts) := by
  obtain ⟨members, rfl, hmembers⟩ := h
  refine ⟨(key, value) :: members, rfl, fun m hm => ?_⟩
  rcases List.mem_cons.mp hm with rfl | hm
  · exact hvalue
  · exact hmembers m hm

/-! ## Host functions that are called for exports -/

theorem lift_run {α : Type} (body : HostM E V α) (ids : List Nat) (s : E × Instance V) :
    BuildM.lift body (ids, s) = match body s with
      | .ok a s => .ok a (ids, s)
      | .error f s => .error f (ids, s) := rfl

theorem lift_meets {α : Type} {R : List Nat × E × Instance V → List Nat × E × Instance V → Prop}
    {R' : E × Instance V → E × Instance V → Prop} {Q : α → Prop} {P : Fault → Prop}
    {body : HostM E V α} (h : Meets R' Q P body)
    (hR : ∀ ids s s', R' s s' → R (ids, s) (ids, s')) :
    Meets R Q P (BuildM.lift body) := by
  rintro ⟨ids, s⟩
  rw [lift_run]
  cases hrun : body s with
  | ok a s' => exact ⟨hR ids s s' (h.ok hrun).1, (h.ok hrun).2⟩
  | error f s' => exact ⟨hR ids s s' (h.error hrun).1, (h.error hrun).2⟩

/-- A host function that registers nothing counts its call, and then logs, calls into the script,
or computes. -/
theorem callPlain_meets {R : E × Instance V → E × Instance V → Prop} {P : Fault → Prop}
    (hR : Chains R) (hlog : ∀ e i log, R (e, i) (e, { i with log }))
    (hcounts : ∀ e i counts, R (e, i) (e, { i with counts }))
    (hinvoke : ∀ name args, Meets R (fun _ => True) P (X.invoke name args))
    (hP : ∀ f, Foreign f → P f) (id : Nat) (b : Behaviour) (args : List HostValue) :
    Meets R (fun _ => True) P (X.callPlain id b args) := by
  have hpure : ∀ {α : Type} {r : Except Fault α}, FailsIn Foreign r →
      Meets R (fun _ => True) P (HostM.ofExcept r : HostM E V α) := fun hr =>
    meets_ofExcept hR (fun _ _ => trivial) fun f hf => hP f (hr f hf)
  unfold Interpreter.callPlain
  refine (hpure (foreign_checkArity b args.length)).bind hR fun _ _ => ?_
  refine (meets_modifyInstance fun e i => hcounts e i _).bind hR fun _ _ => ?_
  split
  · exact hinvoke _ _
  · refine (hpure (foreign_format args)).bind hR fun text _ => ?_
    refine (meets_instance hR).bind hR fun i _ => ?_
    exact (meets_modifyInstance fun e i => hlog e i _).bind hR fun _ _ => Meets.pure hR trivial
  · exact (meets_instance hR).bind hR fun i _ => hpure (foreign_run _ _ _)

/-! ## The walk -/

/-- What the walk over a capability is made of keeps a relation and fails as it may. -/
structure Walks (X : Interpreter E V)
    (R : List Nat × E × Instance V → List Nat × E × Instance V → Prop) (P : Fault → Prop) :
    Prop where
  chains : Chains R
  bindFunction : ∀ path target, Meets R Rendered P (X.bindFunction path target)
  callPlain : ∀ id b, Meets R (fun _ => True) P (BuildM.lift (X.callPlain id b []))
  foreign : ∀ f, Foreign f → P f

namespace Walks

variable {R : List Nat × E × Instance V → List Nat × E × Instance V → Prop} {P : Fault → Prop}

theorem ofExcept (h : Walks X R P) {α : Type} {Q : α → Prop} {r : Except Fault α}
    (hr : FailsIn Foreign r) (hok : ∀ a, r = .ok a → Q a) :
    Meets R Q P (BuildM.ofExcept r : BuildM E V α) := by
  cases r with
  | ok a => exact Meets.pure h.chains (hok a rfl)
  | error f =>
      exact Meets.throw h.chains (h.foreign f (hr f rfl))

theorem literal (h : Walks X R P) (v : HostValue) :
    Meets R Rendered P (BuildM.ofExcept v.literal : BuildM E V Text) :=
  h.ofExcept (foreign_literal v) fun _ ht => .literal ht

theorem refuse (h : Walks X R P) {α : Type} {Q : α → Prop} {f : Fault}
    (hf : Foreign f) : Meets R Q P (throw f : BuildM E V α) :=
  Meets.throw h.chains (h.foreign f hf)

mutual

/-- Rendering a capability that registers nothing keeps what its steps keep. -/
theorem build (h : Walks X R P) (path : HostValue) :
    ∀ v : HostValue, registersNothing v = true → Meets R Rendered P (X.build path v)
  | .dict es, hes | .mappingView es, hes => by
      refine (buildMembers h path es hes).bind h.chains fun texts htexts => ?_
      obtain ⟨members, rfl, hmembers⟩ := htexts
      exact Meets.pure h.chains (.mapping hmembers)
  | .list xs, hxs | .tuple xs, hxs =>
      (buildItems h path 0 xs hxs).bind h.chains fun _ hitems =>
        Meets.pure h.chains (.list hitems)
  | .object typeName toScript exports call, hexports => by
      unfold Interpreter.build
      split
      · exact buildExports h path exports hexports
      · split
        · exact h.bindFunction path _
        · exact h.literal _
  | .function id b, _ => h.bindFunction path _
  | .enumeration _, _ | .recordType _, _ | .classObject _ _ _ _, _ => h.refuse (by simp [Foreign])
  | .none, _ | .bool _, _ | .int _, _ | .float _, _ | .str _, _ | .intMember _, _
  | .strMember _, _ | .member _, _ | .set _, _ | .bytes _, _ | .complex _ _, _
  | .record _, _ => h.literal _
termination_by structural v => v

theorem buildExports (h : Walks X R P) (path : HostValue) :
    ∀ a : Attribute, exportsRegisterNothing a = true →
      Meets R Rendered P (X.buildExports path a)
  | .method result, hresult => build h path result hresult
  | .failing _ _, _ | .unbound _, _ => h.refuse (by simp [Foreign])
  | .plain v, hv => buildCalled h path v hv
  | .absent, _ => h.literal _
termination_by structural a => a

theorem buildCalled (h : Walks X R P) (path : HostValue) :
    ∀ v : HostValue, callRegistersNothing v = true → Meets R Rendered P (X.buildCalled path v)
  | .object _ _ _ (some v), hv => build h path v hv
  | .function id b, hb => buildReturned h path id b hb
  | .object _ _ _ none, _ | .none, _ | .bool _, _ | .int _, _ | .float _, _ | .str _, _
  | .intMember _, _ | .strMember _, _ | .member _, _ | .enumeration _, _ | .list _, _
  | .tuple _, _ | .dict _, _ | .mappingView _, _ | .set _, _ | .bytes _, _ | .complex _ _, _
  | .record _, _ | .recordType _, _ | .classObject _ _ _ _, _ => h.refuse (by simp [Foreign])
termination_by structural v => v

theorem buildReturned (h : Walks X R P) (path : HostValue) (id : Nat) :
    ∀ b : Behaviour, behaviourRegistersNothing b = true →
      Meets R Rendered P (X.buildReturned path id b)
  | .returns v, hv => build h path v hv
  | .args, _ | .count, _ | .first, _ | .add, _ | .keys, _ | .type, _ | .default, _ | .none, _
  | .counter, _ | .failSecond, _ | .raises _ _, _ | .runFunction _, _ | .console _, _
  | .regex _, _ => (h.callPlain id _).bind h.chains fun v _ => h.literal v
termination_by structural b => b

theorem buildMembers (h : Walks X R P) (path : HostValue) :
    ∀ es : List (HostValue × HostValue), membersRegisterNothing es = true →
      Meets R RenderedMembers P (X.buildMembers path es)
  | [], _ => Meets.pure h.chains ⟨[], rfl, by simp⟩
  | (key, v) :: rest, hes => by
      obtain ⟨hv, hrest⟩ := Bool.and_eq_true_iff.mp hes
      unfold Interpreter.buildMembers
      split
      · refine (build h _ v hv).bind h.chains fun value hvalue => ?_
        refine (buildMembers h path rest hrest).bind h.chains fun texts htexts => ?_
        exact Meets.pure h.chains (htexts.cons hvalue)
      · exact h.refuse (by simp [Foreign])
termination_by structural es => es

theorem buildItems (h : Walks X R P) (path : HostValue) (i : Nat) :
    ∀ xs : List HostValue, itemsRegisterNothing xs = true →
      Meets R (fun texts => ∀ t ∈ texts, Rendered t) P (X.buildItems path i xs)
  | [], _ => Meets.pure h.chains (by simp)
  | v :: rest, hxs => by
      obtain ⟨hv, hrest⟩ := Bool.and_eq_true_iff.mp hxs
      refine (build h _ v hv).bind h.chains fun value hvalue => ?_
      refine (buildItems h path (i + 1) rest hrest).bind h.chains fun texts htexts => ?_
      exact Meets.pure h.chains (List.forall_mem_cons.mpr ⟨hvalue, htexts⟩)
termination_by structural xs => xs

end

end Walks

end ScriptHost.Proofs.RenderedCapability
