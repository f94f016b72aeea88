import ScriptHost.Proofs.RenderedCapability

/-!
# What registrations and calls keep

A relation between states that the operations of an engine keep, and that any change keeps which
only lets the list of issued functions grow, is kept by all that a host does with the engine: by
calls of script functions and by registrations, however they end and whatever they register in turn.
-/

namespace ScriptHost.Proofs.KeptStates

open Interpreter
open ScriptHost.Proofs.Transition
open ScriptHost.Proofs.Invocation
open ScriptHost.Proofs.RenderedCapability

variable {E V α β : Type} {X : Interpreter E V} {R : E × Instance V → E × Instance V → Prop}

/-- However a computation ends, the state it ends in is related to the one it began in. -/
abbrev Keeping {ε σ α : Type} (R : σ → σ → Prop) (body : EStateM ε σ α) : Prop :=
  Meets R (fun _ => True) (fun _ => True) body

/-- No function that has been issued is lost. -/
def Issues (i i' : Instance V) : Prop := i.registry.issued.toList <+: i'.registry.issued.toList

theorem Issues.function? {i i' : Instance V} (h : Issues i i') {id : Nat} {f : HostFunction}
    (hf : i.registry.function? id = some f) : i'.registry.function? id = some f := by
  obtain ⟨more, hmore⟩ := h
  unfold Registry.function? at hf ⊢
  rw [← Array.getElem?_toList] at hf ⊢
  rw [← hmore]
  exact List.getElem?_append_left (List.getElem?_eq_some_iff.mp hf).1 |>.trans hf

/-- A relation that the operations of an engine keep, and so do changes of the instance that lose
no function. -/
structure KeptBy (X : Interpreter E V) (R : E × Instance V → E × Instance V → Prop) : Prop where
  chains : Chains R
  host : ∀ e i i', Issues i i' → R (e, i) (e, i')
  evaluate : ∀ code, Keeping R (X.evaluate code)
  call : ∀ h args, Keeping R (X.call h args)
  dataText : ∀ h, Keeping R (X.dataText h)
  addFunction : ∀ id, Keeping R (X.addFunction id)

namespace KeptBy

/-- States of a rendering are related as those of the host are. -/
abbrev Along (R : E × Instance V → E × Instance V → Prop) :
    List Nat × E × Instance V → List Nat × E × Instance V → Prop := fun s s' => R s.2 s'.2

theorem chains_along (h : KeptBy X R) : Chains (Along R) :=
  ⟨fun s => h.chains.refl s.2, fun hab hbc => h.chains.trans hab hbc⟩

theorem ofExcept (h : KeptBy X R) (r : Except Fault α) :
    Keeping R (HostM.ofExcept r : HostM E V α) :=
  meets_ofExcept h.chains (fun _ _ => trivial) fun _ _ => trivial

theorem run (h : KeptBy X R) (code : Text) : Keeping R (X.run code) :=
  (h.ofExcept (checkCode code)).bind h.chains fun _ _ => h.evaluate code

theorem modifyInstance (h : KeptBy X R) {f : Instance V → Instance V} (hf : ∀ i, Issues i (f i)) :
    Keeping R (HostM.modifyInstance f : HostM E V Unit) :=
  meets_modifyInstance fun e i => h.host e i _ (hf i)

theorem modifyRegistry (h : KeptBy X R) {f : Registry → Registry}
    (hf : ∀ r, r.issued.toList <+: (f r).issued.toList) :
    Keeping R (HostM.modifyRegistry f : HostM E V Unit) :=
  h.modifyInstance fun i => hf i.registry

theorem record (h : KeptBy X R) (logger : Text) (level : LogLevel) (message : Text) :
    Keeping R (HostM.record logger level message : HostM E V Unit) :=
  h.modifyInstance fun _ => List.prefix_rfl

theorem wording (h : KeptBy X R) (f : Fault) : Keeping R (HostM.wording f : HostM E V Text) :=
  (meets_wording h.chains fun _ => trivial).weaken id (fun _ _ => trivial) fun _ h => h

/-- A call of a script function keeps the relation. -/
theorem invoke (h : KeptBy X R) (name args : HostValue) : Keeping R (X.invoke name args) :=
  invoke_keeps h.chains (fun e i _ => h.host e i _ List.prefix_rfl) (fun code _ => h.run code)
    (fun _ => (h.ofExcept _).bind h.chains fun _ _ => h.run _) h.call h.dataText

theorem callPlain (h : KeptBy X R) (id : Nat) (b : Behaviour) (args : List HostValue) :
    Keeping R (X.callPlain id b args) :=
  callPlain_meets h.chains (fun e i _ => h.host e i _ List.prefix_rfl)
    (fun e i _ => h.host e i _ List.prefix_rfl) h.invoke (fun _ _ => trivial) id b args

theorem release (h : KeptBy X R) (ids : List Nat) : Keeping R (X.release ids) := by
  induction ids with
  | nil => exact Meets.pure h.chains trivial
  | cons id rest ih =>
      refine (h.run _).bind h.chains fun _ _ => ?_
      exact (h.modifyRegistry (f := fun r => r.retire id) fun _ => List.prefix_rfl).bind h.chains
        fun _ _ => ih

/-! ## Registrations -/

theorem lift (h : Keeping R (body : HostM E V α)) : Keeping (Along R) (BuildM.lift body) :=
  lift_meets h fun _ _ _ hR => hR

theorem noted (h : Chains R) (id : Nat) :
    Keeping (Along R) (modify fun (ids, s) => (ids ++ [id], s) : BuildM E V PUnit) :=
  fun s => ⟨h.refl s.2, trivial⟩

theorem bindFunction (h : KeptBy X R) (path target : HostValue) :
    Keeping (Along R) (X.bindFunction path target) := by
  have hR := h.chains_along
  unfold Interpreter.bindFunction
  refine (lift (meets_registry h.chains)).bind hR fun r _ => ?_
  refine (lift (h.modifyRegistry fun r => by simp [Registry.issue])).bind hR fun _ _ => ?_
  refine (lift (h.addFunction _)).bind hR fun _ _ => ?_
  refine (lift (h.modifyRegistry (f := fun r' => r'.enliven r.nextId) fun _ =>
    List.prefix_rfl)).bind hR fun _ _ => ?_
  exact (noted h.chains r.nextId).bind hR fun _ _ => Meets.pure hR trivial

theorem assign (h : KeptBy X R) (key : Text) {expression : BuildM E V Text}
    (hexpression : Keeping (Along R) expression) : Keeping (Along R) (X.assign key expression) :=
  hexpression.bind h.chains_along fun _ _ =>
    (lift (h.run _)).bind h.chains_along fun _ _ => Meets.pure h.chains_along trivial

theorem outcome {body : BuildM E V α} (h : Keeping (Along R) body) :
    Keeping R (BuildM.outcome body) := by
  intro s
  unfold BuildM.outcome
  cases hrun : body ([], s) with
  | ok a s' => exact ⟨(h.ok hrun).1, trivial⟩
  | error f s' => exact ⟨(h.error hrun).1, trivial⟩

/-- A registration keeps the relation if rendering what is registered does. -/
theorem registerRendered (h : KeptBy X R) (name capability : HostValue)
    {expression : BuildM E V Text} (hexpression : Keeping (Along R) expression) :
    Keeping R (X.registerRendered name capability expression) := by
  have hR := h.chains
  unfold Interpreter.registerRendered
  dsimp only
  split
  · refine ((meets_show hR fun _ => trivial).weaken id (fun _ _ => trivial) fun _ h => h).bind hR
      fun _ _ => Meets.throw hR trivial
  · refine (outcome (h.assign _ hexpression)).bind hR fun done _ => ?_
    obtain ⟨outcome, ids⟩ := done
    cases outcome with
    | error f =>
        dsimp only
        split
        · refine (h.release ids).bind hR fun _ _ => ?_
          exact (h.wording f).bind hR fun _ _ => Meets.throw hR trivial
        · exact Meets.throw hR trivial
    | ok u =>
        refine (meets_registry hR).bind hR fun r _ => ?_
        have hplaced : Keeping R (do
            HostM.modifyRegistry fun r => r.unbind (name.text?.getD [])
            X.release (r.boundTo (name.text?.getD []))
            HostM.modifyRegistry fun r => r.bind (name.text?.getD []) name capability ids) := by
          have hunbound : Keeping R (HostM.modifyRegistry fun r => r.unbind (name.text?.getD []) :
              HostM E V Unit) := h.modifyRegistry fun _ => List.prefix_rfl
          refine hunbound.bind hR fun _ _ => (h.release _).bind hR fun _ _ => ?_
          exact h.modifyRegistry fun _ => List.prefix_rfl
        split
        · exact (h.record _ _ _).bind hR fun _ _ => hplaced
        · exact hplaced

theorem literal (h : KeptBy X R) (r : Except Fault Text) :
    Keeping (Along R) (BuildM.ofExcept r : BuildM E V Text) :=
  lift (h.ofExcept r)

theorem refuse (h : KeptBy X R) (f : Fault) : Keeping (Along R) (throw f : BuildM E V α) :=
  Meets.throw h.chains_along trivial

mutual

/-- Rendering a capability keeps the relation, also where its exports register further modules. -/
theorem build (h : KeptBy X R) (path : HostValue) :
    ∀ v : HostValue, Keeping (Along R) (X.build path v)
  | .dict es | .mappingView es =>
      (buildMembers h path es).bind h.chains_along fun _ _ => Meets.pure h.chains_along trivial
  | .list xs | .tuple xs =>
      (buildItems h path 0 xs).bind h.chains_along fun _ _ => Meets.pure h.chains_along trivial
  | .object typeName toScript exports call => by
      unfold Interpreter.build
      split
      · exact buildExports h path exports
      · split
        · exact h.bindFunction path _
        · exact h.literal _
  | .function id b => h.bindFunction path _
  | .enumeration _ | .recordType _ | .classObject _ _ _ _ => h.refuse _
  | .none | .bool _ | .int _ | .float _ | .str _ | .intMember _ | .strMember _ | .member _ | .set _
  | .bytes _ | .complex _ _ | .record _ => h.literal _
termination_by structural v => v

theorem buildExports (h : KeptBy X R) (path : HostValue) :
    ∀ a : Attribute, Keeping (Along R) (X.buildExports path a)
  | .method result => build h path result
  | .failing _ _ | .unbound _ => h.refuse _
  | .plain v => buildCalled h path v
  | .absent => h.literal _
termination_by structural a => a

theorem buildCalled (h : KeptBy X R) (path : HostValue) :
    ∀ v : HostValue, Keeping (Along R) (X.buildCalled path v)
  | .object _ _ _ (some v) => build h path v
  | .function id b => buildReturned h path id b
  | .object _ _ _ none | .none | .bool _ | .int _ | .float _ | .str _ | .intMember _ | .strMember _
  | .member _ | .enumeration _ | .list _ | .tuple _ | .dict _ | .mappingView _ | .set _ | .bytes _
  | .complex _ _ | .record _ | .recordType _ | .classObject _ _ _ _ => h.refuse _
termination_by structural v => v

theorem buildReturned (h : KeptBy X R) (path : HostValue) (id : Nat) :
    ∀ b : Behaviour, Keeping (Along R) (X.buildReturned path id b)
  | .returns v => build h path v
  | .register name v =>
      (lift (h.registerRendered name v (build h name v))).bind h.chains_along
        fun _ _ => h.literal _
  | .args | .count | .first | .add | .keys | .type | .default | .none | .counter | .failSecond
  | .raises _ _ | .runFunction _ | .console _ | .regex _ =>
      (lift (h.callPlain id _ [])).bind h.chains_along fun v _ => h.literal v.literal
termination_by structural b => b

theorem buildMembers (h : KeptBy X R) (path : HostValue) :
    ∀ es : List (HostValue × HostValue), Keeping (Along R) (X.buildMembers path es)
  | [] => Meets.pure h.chains_along trivial
  | (key, v) :: rest => by
      unfold Interpreter.buildMembers
      split
      · refine (build h _ v).bind h.chains_along fun value _ => ?_
        exact (buildMembers h path rest).bind h.chains_along fun _ _ =>
          Meets.pure h.chains_along trivial
      · exact h.refuse _
termination_by structural es => es

theorem buildItems (h : KeptBy X R) (path : HostValue) (i : Nat) :
    ∀ xs : List HostValue, Keeping (Along R) (X.buildItems path i xs)
  | [] => Meets.pure h.chains_along trivial
  | v :: rest =>
      (build h _ v).bind h.chains_along fun _ _ =>
        (buildItems h path (i + 1) rest).bind h.chains_along fun _ _ =>
          Meets.pure h.chains_along trivial
termination_by structural xs => xs

end

/-- A registration keeps the relation. -/
theorem register (h : KeptBy X R) (name capability : HostValue) :
    Keeping R (X.register name capability) :=
  h.registerRendered name capability (h.build name capability)

/-! ## Calls of host functions -/

theorem callHost (h : KeptBy X R) (target : HostValue) (args : List HostValue) :
    Keeping R (X.callHost target args) := by
  have hR := h.chains
  unfold Interpreter.callHost
  split
  · exact (h.register _ _).bind hR fun _ _ => Meets.pure hR trivial
  · exact h.callPlain _ _ _
  · exact Meets.pure hR trivial
  · exact Meets.throw hR trivial

/-- What a host function does that a script calls keeps the relation. -/
theorem replyTo (h : KeptBy X R) (f : HostFunction) (payload : HostValue) :
    Keeping R (X.replyTo f payload) := by
  have hR := h.chains
  have hcall : Keeping R (do
      X.callHost f.target (← HostM.ofExcept (HostFunction.arguments f.target payload))) :=
    (h.ofExcept _).bind hR fun args _ => h.callHost f.target args
  unfold Interpreter.replyTo
  refine Meets.bind (Q := fun _ => True) hR ?_ fun outcome _ => ?_
  · exact (hcall.bind hR fun _ _ => Meets.pure hR trivial).tryCatch hR fun _ _ =>
      Meets.pure hR trivial
  · dsimp only
    split
    · refine (h.wording _).bind hR fun reason _ => ?_
      exact (h.record _ _ _).bind hR fun _ _ => Meets.pure hR trivial
    · exact Meets.pure hR trivial

end KeptBy

end ScriptHost.Proofs.KeptStates
