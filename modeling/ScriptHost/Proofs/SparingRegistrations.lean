import ScriptHost.Proofs.ServedGlobals

/-!
# Registrations that spare all but their names

A registration in an engine that serves touches the keys of its own name and of hidden globals, and
leaves all else as it was, whether it succeeds or fails.  It fails only where rendering the capability
fails, or where the value of the capability cannot leave the engine.
-/

namespace ScriptHost.Proofs.SparingRegistrations

open Interpreter Registry ScriptEngine
open Script
open ScriptHost.Proofs.AssignedKeys
open ScriptHost.Proofs.Bindings
open ScriptHost.Proofs.BoundModules
open ScriptHost.Proofs.Bridge
open ScriptHost.Proofs.CapabilityPhrases
open ScriptHost.Proofs.DataScripts
open ScriptHost.Proofs.Dispatch (ok_of_lift ok_of_ofExcept)
open ScriptHost.Proofs.ExpressionScripts
open ScriptHost.Proofs.GlobalWrites
open ScriptHost.Proofs.HiddenGlobals (assignment)
open ScriptHost.Proofs.KeptStates
open ScriptHost.Proofs.PropertyChains (Finds)
open ScriptHost.Proofs.ReferenceTrees
open ScriptHost.Proofs.Registration hiding Issues
open ScriptHost.Proofs.RegistryBalance (find_putModule)
open ScriptHost.Proofs.RegistryGrowth
open ScriptHost.Proofs.RenderedTrees
open ScriptHost.Proofs.RenderedValues (IsReadyFor)
open ScriptHost.Proofs.ScriptRuns
open ScriptHost.Proofs.ServedGlobals
open ScriptHost.Proofs.Transition

variable {s s' s'' : Machine × Host} {names names' : List Text} {key : Text} {ids : List Nat}

/-! ## What registrations leave -/

/-- A name that the registry and its bridge do not rely on. -/
structure IsFree (key : Text) : Prop where
  notGlobal : key ≠ "globalThis"
  notPrototype : key ≠ "__proto__"
  notBridge : key ≠ bridgeName
  notHidden : ∀ id, key ≠ hiddenName id

/-- The keys of the global object that modules of given names take, and those of hidden globals. -/
def Touches (names : List Text) (k : PropertyKey) : Prop :=
  (∃ key ∈ names, k = keyName key) ∨ ∃ id, k = keyName (hiddenName id)

theorem not_touches_global (h : ∀ key ∈ names, IsFree key) : ¬Touches names (.name globalName) := by
  rintro (⟨key, hkey, heq⟩ | ⟨id, heq⟩)
  · exact keyName_ne (u := "globalThis") (by decide) (h key hkey).notGlobal heq.symm
  · exact global_ne_hidden id heq

theorem not_touches_bridge (h : ∀ key ∈ names, IsFree key) : ¬Touches names (keyName bridgeName) := by
  rintro (⟨key, hkey, heq⟩ | ⟨id, heq⟩)
  · exact keyName_ne (by decide) (h key hkey).notBridge heq.symm
  · exact bridgeKey_ne_hidden id heq

theorem ofText_ne_prototype (h : key ≠ "__proto__") : Utf16.ofText key ≠ prototypeName := fun heq =>
  keyName_ne (u := "__proto__") (by decide) h (congrArg PropertyKey.name heq)

/-- The engine of an instance serves its registrations. -/
def IsServed (s : Machine × Host) : Prop := Serves s.1 s.2.registry.nextId

/-- Modules of given names may have come and gone: all else in the engine is as it was, no function
that was issued is lost, and the other modules are the same. -/
structure Leaves (names : List Text) (s s' : Machine × Host) : Prop where
  spares : Spares (Touches names) s.1 s'.1
  issued : Issues s.2 s'.2
  modules : ∀ key ∉ names, s'.2.registry.module? key = s.2.registry.module? key

namespace Leaves

theorem refl (names : List Text) (s : Machine × Host) : Leaves names s s :=
  ⟨.refl _ _, List.prefix_rfl, fun _ _ => rfl⟩

theorem trans (h : Leaves names s s') (h' : Leaves names s' s'') : Leaves names s s'' :=
  ⟨h.spares.trans h'.spares, h.issued.trans h'.issued,
    fun key hkey => (h'.modules key hkey).trans (h.modules key hkey)⟩

theorem mono (h : Leaves names s s') (hnames : names ⊆ names') : Leaves names' s s' := by
  refine ⟨h.spares.mono fun k hk => ?_, h.issued, fun key hkey => h.modules key fun hin =>
    hkey (hnames hin)⟩
  rcases hk with ⟨key, hkey, heq⟩ | hhidden
  · exact .inl ⟨key, hnames hkey, heq⟩
  · exact .inr hhidden

theorem nextId_le (h : Leaves names s s') : s.2.registry.nextId ≤ s'.2.registry.nextId := by
  simpa [nextId] using h.issued.length_le

/-- An engine goes on serving whatever modules come and go under free names. -/
theorem served (h : Leaves names s s') (hnames : ∀ key ∈ names, IsFree key) (hs : IsServed s) :
    IsServed s' :=
  (Serves.spares hs h.spares (not_touches_global hnames) (not_touches_bridge hnames)).mono h.nextId_le

end Leaves

theorem leaves_of_deletion {id : Nat} (hspares : Spares (· = keyName (hiddenName id)) s.1 s'.1)
    (hissued : s'.2.registry.issued = s.2.registry.issued)
    (hmodules : s'.2.registry.modules = s.2.registry.modules) : Leaves [] s s' :=
  ⟨hspares.mono fun _ hk => .inr ⟨id, hk⟩, by unfold Issues; rw [hissued],
    fun key _ => by unfold module?; rw [hmodules]⟩

/-- Functions are released, whatever module held them. -/
theorem release_leaves (ids : List Nat) : ∀ s : Machine × Host, IsServed s → ∃ s',
    interpreter.release ids s = .ok () s' ∧ Leaves [] s s' := by
  induction ids with
  | nil => exact fun s _ => ⟨s, rfl, .refl _ s⟩
  | cons id rest ih =>
      intro s hs
      obtain ⟨w, s₁, hdelete, hhost, hspares⟩ := run_deletion hs id
      let s₂ : Machine × Host := (s₁.1, { s₁.2 with registry := s₁.2.registry.retire id })
      have hfirst : Leaves [] s s₂ := leaves_of_deletion hspares
        (by rw [← hhost]; rfl) (by rw [← hhost]; rfl)
      obtain ⟨s', hrest, hleaves⟩ := ih s₂ (hfirst.served (by simp) hs)
      refine ⟨s', ?_, hfirst.trans hleaves⟩
      rw [release_cons]
      change EStateM.bind _ _ s = _
      unfold EStateM.bind
      rw [hdelete]
      exact hrest

/-! ## Rendering -/

/-- A state of a rendering: the engine serves, and the functions issued so far are there. -/
structure Ready (s : List Nat × Machine × Host) : Prop where
  served : IsServed s.2
  issued : ∀ id ∈ s.1, id < s.2.2.registry.nextId
  functions : ∀ id ∈ s.1, ∃ t raw, CanBridge s.2.1 id t raw

/-- A rendering has gone on. -/
structure Advances (s s' : List Nat × Machine × Host) : Prop where
  ready : Ready s'
  leaves : Leaves [] s.2 s'.2

variable {α β : Type} {P : Fault → Prop} {Q : α → Prop} {Q' : β → Prop}

/-- A part of a rendering, from a state that is ready: it ends in such a state, with a result in `Q` or
a fault in `P`. -/
def Builds (Q : α → Prop) (P : Fault → Prop) (body : BuildM Machine Value α) : Prop :=
  ∀ s, Ready s → Ends (fun a s' => Advances s s' ∧ Q a) (fun f s' => Advances s s' ∧ P f) (body s)

namespace Builds

theorem pure {a : α} (ha : Q a) : Builds Q P (Pure.pure a : BuildM Machine Value α) :=
  fun _ hs => ⟨⟨hs, .refl _ _⟩, ha⟩

theorem throw {f : Fault} (hf : P f) : Builds Q P (MonadExcept.throw f : BuildM Machine Value α) :=
  fun _ hs => ⟨⟨hs, .refl _ _⟩, hf⟩

theorem bind {x : BuildM Machine Value α} {k : α → BuildM Machine Value β} (hx : Builds Q P x)
    (hk : ∀ a, Q a → Builds Q' P (k a)) : Builds Q' P (x >>= k) := by
  intro s hs
  have hfirst := hx s hs
  change Ends _ _ (EStateM.bind x k s)
  unfold EStateM.bind
  cases hrun : x s with
  | error f s₁ =>
      rw [hrun] at hfirst
      exact hfirst
  | ok a s₁ =>
      rw [hrun] at hfirst
      obtain ⟨hadvances, ha⟩ := hfirst
      have hsecond := hk a ha s₁ hadvances.ready
      dsimp only
      revert hsecond
      cases k a s₁ with
      | ok b s₂ => exact fun h => ⟨⟨h.1.ready, hadvances.leaves.trans h.1.leaves⟩, h.2⟩
      | error f s₂ => exact fun h => ⟨⟨h.1.ready, hadvances.leaves.trans h.1.leaves⟩, h.2⟩

theorem ofExcept {r : Except Fault α} (hok : ∀ a, r = .ok a → Q a) (herror : ∀ f, r = .error f → P f) :
    Builds Q P (BuildM.ofExcept r : BuildM Machine Value α) := by
  cases r with
  | ok a => exact .pure (hok a rfl)
  | error f => exact .throw (herror f rfl)

end Builds

/-- Neither the engine nor the registry has changed. -/
def Aside (s s' : Machine × Host) : Prop := s'.1 = s.1 ∧ s'.2.registry = s.2.registry

theorem chains_aside : Chains Aside :=
  ⟨fun _ => ⟨rfl, rfl⟩, fun h h' => ⟨h'.1.trans h.1, h'.2.trans h.2⟩⟩

/-- What the host does aside is part of a rendering. -/
theorem builds_lift {body : HostM Machine Value α} (h : Meets Aside Q P body) :
    Builds Q P (BuildM.lift body) := by
  rintro ⟨ids, s⟩ hs
  have hadvances {s' : Machine × Host} (h : Aside s s') : Advances (ids, s) (ids, s') := by
    obtain ⟨m, i⟩ := s
    obtain ⟨m', i'⟩ := s'
    obtain ⟨rfl, hregistry⟩ := h
    dsimp only at hregistry
    have hleaves : Leaves [] (m', i) (m', i') :=
      ⟨.refl _ _, by unfold Issues; rw [hregistry], fun key _ => by rw [hregistry]⟩
    exact ⟨⟨hleaves.served (by simp) hs.served, fun id hid => by
      change id < i'.registry.nextId
      rw [hregistry]
      exact hs.issued id hid, hs.functions⟩, hleaves⟩
  have hbody := h s
  unfold BuildM.lift
  dsimp only
  revert hbody
  cases body s with
  | ok a s' => exact fun h => ⟨hadvances h.1, h.2⟩
  | error f s' => exact fun h => ⟨hadvances h.1, h.2⟩

/-- Binding a function runs through: the engine takes it. -/
theorem bindFunction_builds (path target : HostValue) :
    Builds (fun _ => True) P (interpreter.bindFunction path target) := by
  rintro ⟨ids, e, i⟩ hs
  obtain ⟨s', hadd, hhost, hspares, -, hcan⟩ := addFunction_serves
    (s := (e, { i with registry := i.registry.issue { path, target } })) hs.served
  rw [bindFunction_run, hadd]
  have hissued : s'.2.registry.issued = i.registry.issued.push { path, target } := by
    rw [hhost]
    rfl
  let s'' : Machine × Host :=
    (s'.1, { s'.2 with registry := s'.2.registry.enliven i.registry.nextId })
  have hnext : s''.2.registry.nextId = i.registry.nextId + 1 := by
    change s'.2.registry.issued.size = _
    rw [hissued]
    simp [nextId]
  have hleaves : Leaves [] (e, i) s'' := by
    refine ⟨hspares.mono fun _ hk => .inr ⟨_, hk⟩, ?_, fun key _ => ?_⟩
    · change i.registry.issued.toList <+: s'.2.registry.issued.toList
      rw [hissued]
      simp
    · change module? s'.2.registry key = module? i.registry key
      rw [hhost]
      rfl
  refine ⟨⟨⟨hleaves.served (by simp) hs.served, fun id hid => ?_, fun id hid => ?_⟩, hleaves⟩, trivial⟩
  · rw [hnext]
    rcases List.mem_append.mp hid with hid | hid
    · exact Nat.lt_succ_of_lt (hs.issued id hid)
    · rw [List.mem_singleton.mp hid]
      exact Nat.lt_succ_self _
  · rcases List.mem_append.mp hid with hid | hid
    · obtain ⟨t, raw, hbefore⟩ := hs.functions id hid
      have hlt : id < i.registry.nextId := hs.issued id hid
      exact ⟨t, raw, canBridge_spares hbefore hspares (bridgeKey_ne_hidden _)
        (keyName_hidden_ne (Nat.ne_of_lt hlt))⟩
    · rw [List.mem_singleton.mp hid]
      exact hcan

/-! ## Capabilities -/

/-- Turning a value into a literal raises nothing but faults in `P`. -/
def LiteralIn (P : Fault → Prop) (v : HostValue) : Prop := ∀ f, v.literal = .error f → P f

/-- What a host function computes without arguments can be turned into a literal; if that or the
computation fails, it is with a fault in `P`. -/
def ComputesIn (P : Fault → Prop) (b : Behaviour) : Prop :=
  ∀ calls, match b.run calls [] with
    | .ok v => LiteralIn P v
    | .error f => P f

mutual

/-- Rendering a capability runs no code of the script and registers no further module, and raises
nothing but faults in `P`. -/
def RendersIn (P : Fault → Prop) : HostValue → Prop
  | .dict es | .mappingView es => MembersRenderIn P es
  | .list xs | .tuple xs => ItemsRenderIn P xs
  | .object typeName toScript exports call =>
    if exports.isCallable then ExportsRenderIn P exports
    else if call.isSome && !toScript.isPresent then True
    else LiteralIn P (.object typeName toScript exports call)
  | .function _ _ => True
  | .enumeration v => P (.classCapability ((HostValue.enumeration v).className?.getD ""))
  | .recordType fields => P (.classCapability ((HostValue.recordType fields).className?.getD ""))
  | .classObject metaName name toScript exports =>
    P (.classCapability ((HostValue.classObject metaName name toScript exports).className?.getD ""))
  | v => LiteralIn P v

/-- So does rendering what an attribute gives that is called for exports. -/
def ExportsRenderIn (P : Fault → Prop) : Attribute → Prop
  | .method result => RendersIn P result
  | .failing cls args => P (.raised cls args)
  | .unbound name => P (.unboundMethod name)
  | .plain v => CallRendersIn P v
  | .absent => True

/-- So does rendering what calling a value gives. -/
def CallRendersIn (P : Fault → Prop) : HostValue → Prop
  | .object _ _ _ (some v) => RendersIn P v
  | .function _ b => BehaviourRendersIn P b
  | v => P (.unrepresentable (v.className?.getD v.typeName))

/-- So does rendering what a host function gives. -/
def BehaviourRendersIn (P : Fault → Prop) : Behaviour → Prop
  | .returns v => RendersIn P v
  | .register _ _ | .runFunction _ => False
  | b => ComputesIn P b

/-- So does rendering the members of a mapping. -/
def MembersRenderIn (P : Fault → Prop) : List (HostValue × HostValue) → Prop
  | [] => True
  | (key, v) :: rest =>
    (key.text? = none → P (.memberNotText key.typeName)) ∧ RendersIn P v ∧ MembersRenderIn P rest

/-- So does rendering the items of a list. -/
def ItemsRenderIn (P : Fault → Prop) : List HostValue → Prop
  | [] => True
  | v :: rest => RendersIn P v ∧ ItemsRenderIn P rest

end

theorem literal_none : (HostValue.none).literal = .ok "null" := by
  rfl

theorem literal_builds {v : HostValue} (h : LiteralIn P v) :
    Builds (fun _ => True) P (BuildM.ofExcept v.literal : BuildM Machine Value Text) :=
  .ofExcept (fun _ _ => trivial) h

theorem run_of_checkArity {b : Behaviour} {f : Fault} (h : b.checkArity 0 = .error f) (calls : Nat) :
    b.run calls [] = .error f := by
  unfold Behaviour.run
  rw [show ([] : List HostValue).length = 0 from rfl, h]
  rfl

/-- A host function that neither calls the script nor registers anything computes a value aside. -/
theorem callPlain_aside (id : Nat) {b : Behaviour} (hscript : ∀ name, b ≠ .runFunction name)
    (h : ComputesIn P b) : Meets Aside (LiteralIn P) P (interpreter.callPlain id b []) := by
  have hcounts (f : Instance Value → CallCounts) (i : Instance Value) (m : Machine) :
      Aside (m, i) (m, { i with counts := f i }) := ⟨rfl, rfl⟩
  unfold Interpreter.callPlain
  refine Meets.bind chains_aside (Q := fun _ => True) (meets_ofExcept chains_aside (fun _ _ => trivial)
    fun f hf => ?_) fun _ _ => ?_
  · have hrun := h 0
    rw [run_of_checkArity hf] at hrun
    exact hrun
  refine (meets_modifyInstance fun e i => ⟨rfl, rfl⟩).bind chains_aside fun _ _ => ?_
  split
  · exact absurd rfl (hscript _)
  · refine Meets.bind chains_aside (Q := fun _ => True) (meets_ofExcept chains_aside (fun _ _ => trivial)
      fun f hf => nomatch hf) fun text _ => ?_
    refine (meets_instance chains_aside).bind chains_aside fun i _ => ?_
    refine (meets_modifyInstance fun e i => ⟨rfl, rfl⟩).bind chains_aside fun _ _ => ?_
    exact Meets.pure chains_aside fun f hf => by rw [literal_none] at hf; cases hf
  · refine (meets_instance chains_aside).bind chains_aside fun i _ => ?_
    refine meets_ofExcept chains_aside (fun v hv => ?_) fun f hf => ?_
    · have hrun := h (i.counts.get id)
      rw [show b.run (i.counts.get id) [] = .ok v from hv] at hrun
      exact hrun
    · have hrun := h (i.counts.get id)
      rw [show b.run (i.counts.get id) [] = .error f from hf] at hrun
      exact hrun

theorem refuse_builds (v : HostValue) (h : P (.classCapability (v.className?.getD ""))) :
    Builds (fun _ => True) P (refuseClass v : BuildM Machine Value Text) := .throw h

mutual

/-- Rendering a capability keeps the engine serving, and leaves all but hidden globals as it was. -/
theorem build_builds (path : HostValue) : ∀ v : HostValue, RendersIn P v →
    Builds (fun _ => True) P (interpreter.build path v)
  | .dict es, h | .mappingView es, h =>
      (buildMembers_builds path es h).bind fun _ _ => .pure trivial
  | .list xs, h | .tuple xs, h => (buildItems_builds path 0 xs h).bind fun _ _ => .pure trivial
  | .object typeName toScript exports call, h => by
      unfold RendersIn at h
      unfold Interpreter.build
      split
      · rename_i hexports
        rw [if_pos hexports] at h
        exact buildExports_builds path exports h
      · rename_i hexports
        rw [if_neg hexports] at h
        split
        · exact bindFunction_builds path _
        · rename_i hcall
          rw [if_neg hcall] at h
          exact literal_builds h
  | .function id b, _ => bindFunction_builds path _
  | .enumeration v, h => refuse_builds _ h
  | .recordType fields, h => refuse_builds _ h
  | .classObject metaName name toScript exports, h => refuse_builds _ h
  | .none, h | .bool _, h | .int _, h | .float _, h | .str _, h | .intMember _, h | .strMember _, h
  | .member _, h | .set _, h | .bytes _, h | .complex _ _, h | .record _, h => literal_builds h
termination_by structural v => v

theorem buildExports_builds (path : HostValue) : ∀ a : Attribute, ExportsRenderIn P a →
    Builds (fun _ => True) P (interpreter.buildExports path a)
  | .method result, h => build_builds path result h
  | .failing _ _, h => .throw h
  | .unbound _, h => .throw h
  | .plain v, h => buildCalled_builds path v h
  | .absent, _ => literal_builds (v := .none) fun f hf => by rw [literal_none] at hf; cases hf
termination_by structural a => a

theorem buildCalled_builds (path : HostValue) : ∀ v : HostValue, CallRendersIn P v →
    Builds (fun _ => True) P (interpreter.buildCalled path v)
  | .object _ _ _ (some v), h => build_builds path v h
  | .function id b, h => buildReturned_builds path id b h
  | .object _ _ _ none, h | .none, h | .bool _, h | .int _, h | .float _, h | .str _, h
  | .intMember _, h | .strMember _, h | .member _, h | .enumeration _, h | .list _, h | .tuple _, h
  | .dict _, h | .mappingView _, h | .set _, h | .bytes _, h | .complex _ _, h | .record _, h
  | .recordType _, h | .classObject _ _ _ _, h => .throw h
termination_by structural v => v

theorem buildReturned_builds (path : HostValue) (id : Nat) : ∀ b : Behaviour,
    BehaviourRendersIn P b → Builds (fun _ => True) P (interpreter.buildReturned path id b)
  | .returns v, h => build_builds path v h
  | .args, h | .count, h | .first, h | .add, h | .keys, h | .type, h | .default, h | .none, h
  | .counter, h | .failSecond, h | .raises _ _, h | .console _, h | .regex _, h => by
      unfold BehaviourRendersIn at h
      exact (builds_lift (callPlain_aside id (by simp) h)).bind fun _ hv => literal_builds hv
termination_by structural b => b

theorem buildMembers_builds (path : HostValue) : ∀ es : List (HostValue × HostValue),
    MembersRenderIn P es → Builds (fun _ => True) P (interpreter.buildMembers path es)
  | [], _ => .pure trivial
  | (key, v) :: rest, h => by
      unfold Interpreter.buildMembers
      cases hkey : key.text? with
      | some t =>
          exact (build_builds _ v h.2.1).bind fun _ _ =>
            (buildMembers_builds path rest h.2.2).bind fun _ _ => .pure trivial
      | none => exact .throw (h.1 hkey)
termination_by structural es => es

theorem buildItems_builds (path : HostValue) (i : Nat) : ∀ xs : List HostValue,
    ItemsRenderIn P xs → Builds (fun _ => True) P (interpreter.buildItems path i xs)
  | [], _ => .pure trivial
  | v :: rest, h =>
      (build_builds _ v h.1).bind fun _ _ =>
        (buildItems_builds path (i + 1) rest h.2).bind fun _ _ => .pure trivial
termination_by structural xs => xs

end

/-! ## One registration -/

variable {name capability : HostValue}

/-- A capability whose rendering has fewer characters than the engine has levels. -/
def IsShort (s : Machine × Host) (name capability : HostValue) : Prop :=
  ∀ t reached, interpreter.build name capability ([], s) = .ok t reached → t.length + 8 ≤ below

/-- The value of a rendered capability leaves the engine, unless it is a text that cannot. -/
theorem text_of_passed {e : Expr} {n d : Nat} {v : Value} {f : Fault}
    (hready : IsReadyFor ids s) (he : IsRendered ids n e)
    (h : (Engine.interp hostCall (d + 6)).evaluate scriptSite e s = .ok v s')
    (hpassed : passed v = .error f) : ∃ u, e = .literal (.string u) ∧ hostText u = .error f := by
  obtain ⟨r, rfl⟩ | rfl | ⟨b, rfl⟩ | hnumber | ⟨u, rfl, heq⟩ :=
    value_of_rendered hready.names hready.lines he h
  · cases hpassed
  · cases hpassed
  · cases hpassed
  · cases v with
    | int i => cases hpassed
    | float x => cases hpassed
    | _ => cases hnumber
  · refine ⟨u, heq, ?_⟩
    change (hostText u >>= fun t => Except.ok (Passed.plain (.str t))) = _ at hpassed
    cases htext : hostText u with
    | ok t =>
        rw [htext] at hpassed
        cases hpassed
    | error f' =>
        rw [htext] at hpassed
        cases hpassed
        rfl

/-- The capability is rendered as a text literal of its own, and the text cannot leave the engine. -/
def IsBrokenText (s : Machine × Host) (name capability : HostValue) (f : Fault) : Prop :=
  ∃ t reached u, interpreter.build name capability ([], s) = .ok t reached ∧
    parseProgram (parenthesized t) false = .ok (expressionProgram (.literal (.string u))) ∧
    hostText u = .error f

/-- The expression that a capability is rendered as has a value. -/
def IsValueOf (s : Machine × Host) (name capability : HostValue) (w : Value) : Prop :=
  ∃ t e ids s₁ s₂, interpreter.build name capability ([], s) = .ok t (ids, s₁) ∧
    parseProgram (parenthesized t) false = .ok (expressionProgram e) ∧
    (Engine.interp hostCall (below - 1)).evaluate scriptSite e (inScript s₁) = .ok w s₂

/-- A registration writes the value of the capability under its name, provided that the name can be
written. -/
def WritesValue (s s' : Machine × Host) (name capability : HostValue) : Prop :=
  IsOpenTo s.1 (keyOf name) → ∃ w, IsValueOf s name capability w ∧
    Finds s'.1 (keyName (keyOf name)) globalRef (some w)

/-- What assigning a rendered capability comes to: its value is written under its name, unless
rendering it fails; and if the value is a broken text that counts as a failure all the same. -/
theorem attempt_leaves (hs : IsServed s) (hkey : keyOf name ≠ "__proto__")
    (hr : RendersIn P capability) (hkeyed : IsKeyed capability) (hshort : IsShort s name capability) :
    ∃ ids s₁, Leaves [keyOf name] s s₁ ∧
      ((attempt interpreter name capability s = .ok () (ids, s₁) ∧ WritesValue s s₁ name capability) ∨
        ∃ f, attempt interpreter name capability s = .error f (ids, s₁) ∧
          (P f ∨ IsBrokenText s name capability f)) := by
  have hready : Ready ([], s) := ⟨hs, by simp, by simp⟩
  have hbuilds := build_builds name capability hr ([], s) hready
  cases hbuild : interpreter.build name capability ([], s) with
  | error f reached =>
      obtain ⟨ids, s₁⟩ := reached
      rw [hbuild] at hbuilds
      refine ⟨ids, s₁, hbuilds.1.leaves.mono (by simp), .inr ⟨f, ?_, .inl hbuilds.2⟩⟩
      change EStateM.bind _ _ ([], s) = _
      unfold EStateM.bind
      rw [hbuild]
  | ok t reached =>
      obtain ⟨ids, s₁⟩ := reached
      rw [hbuild] at hbuilds
      obtain ⟨-, p, rfl, hp⟩ :=
        build_isPhrase (invokesKeyed_interpreterOver evaluator) name capability hkeyed hbuild
      obtain ⟨hadvances, -⟩ := hbuilds
      obtain ⟨w, s₂, s₃, hvalue, hrun, hhost, hspares, hfinds⟩ := run_assignment hadvances.ready.served
        hadvances.ready.functions hp (hshort _ _ hbuild) (ofText_ne_prototype hkey)
      have hwritten : Leaves [keyOf name] s₁ s₃ :=
        ⟨hspares.mono fun k hk => .inl ⟨_, List.mem_singleton_self _, hk⟩,
          by unfold Issues; rw [hhost], fun key _ => by rw [hhost]⟩
      refine ⟨ids, s₃, (hadvances.leaves.mono (by simp)).trans hwritten, ?_⟩
      have hattempt : attempt interpreter name capability s =
          (BuildM.lift (HostM.ofExcept (passed w) : EngineM (Passed Value)) >>= fun _ => pure ())
            (ids, s₃) := by
        change EStateM.bind _ _ ([], s) = _
        unfold EStateM.bind
        rw [hbuild]
        change EStateM.bind (BuildM.lift (interpreter.run (assignment (keyOf name) p.text))) _
          (ids, s₁) = EStateM.bind _ _ _
        unfold EStateM.bind BuildM.lift
        dsimp only
        rw [hrun]
      rw [hattempt]
      cases hpassed : passed w with
      | ok a =>
          exact .inl ⟨rfl, fun ⟨n, hopen⟩ => ⟨w, ⟨p.text, p.tree, ids, s₁, s₂, hbuild, p.parse, hvalue⟩,
            (hfinds ⟨n, hadvances.leaves.spares.holdsUp (fun _ hp => hp) hopen⟩).1⟩⟩
      | error f =>
          obtain ⟨d, hd⟩ := below_levels 7 (by decide)
          rw [show below - 1 = d + 6 by omega] at hvalue
          obtain ⟨u, htree, hu⟩ := text_of_passed
            (hadvances.ready.served.isReadyFor hadvances.ready.functions) hp.rendered hvalue hpassed
          have hparse := p.parse
          rw [htree] at hparse
          exact .inr ⟨f, rfl, .inr ⟨p.text, (ids, s₁), u, hbuild, hparse, hu⟩⟩

theorem install_leaves (hs : IsServed s) (capability : HostValue) (ids : List Nat) : ∃ s',
    install interpreter name capability ids s = .ok () s' ∧ Leaves [keyOf name] s s' ∧
      Spares (Touches []) s.1 s'.1 := by
  have hvacated : Leaves [] s (vacated name s) :=
    ⟨.refl _ _, List.prefix_rfl, fun _ _ => rfl⟩
  obtain ⟨s₁, hrelease, hleaves⟩ := release_leaves (s.2.registry.boundTo (keyOf name))
    (vacated name s) (hvacated.served (by simp) hs)
  refine ⟨(s₁.1, { s₁.2 with
    registry := s₁.2.registry.bind (keyOf name) name capability ids }), ?_, ?_⟩
  · rw [install_run]
    unfold EStateM.bind
    rw [hrelease]
    rfl
  · have hbound : Leaves [keyOf name] s₁ (s₁.1, { s₁.2 with
        registry := s₁.2.registry.bind (keyOf name) name capability ids }) := by
      refine ⟨.refl _ _, List.prefix_rfl, fun key hkey => ?_⟩
      unfold module? Registry.bind
      dsimp only
      rw [find_putModule, if_neg fun h => hkey (List.mem_singleton.mpr h)]
    exact ⟨((hvacated.trans hleaves).mono (by simp)).trans hbound, (hvacated.trans hleaves).spares⟩

theorem undo_leaves (hs : IsServed s) (f : Fault) (ids : List Nat) : ∃ f' s',
    undo interpreter name f ids s = .error f' s' ∧ Leaves [] s s' := by
  obtain ⟨s₁, hrelease, hleaves⟩ := release_leaves ids s hs
  have hrun : undo interpreter name f ids s = (do
      let reason ← HostM.wording f
      throw (.failure (.moduleRegistration name (.str reason) (some f.cls))) : EngineM Unit) s₁ := by
    change EStateM.bind _ _ s = _
    unfold EStateM.bind
    rw [hrelease]
  rw [hrun]
  unfold HostM.wording
  cases f.message? with
  | some t => exact ⟨_, s₁, rfl, hleaves⟩
  | none => exact ⟨_, s₁, rfl, hleaves⟩

/-- A registration under a free name leaves all but that name as it was, however it ends.  If it ends
well it has written the value of the capability; and it does end well unless the name is empty, rendering
the capability fails, or the capability is a broken text. -/
theorem register_leaves (hs : IsServed s) (hfree : IsFree (keyOf name)) (hr : RendersIn P capability)
    (hkeyed : IsKeyed capability) (hshort : IsShort s name capability) :
    ∃ s', Leaves [keyOf name] s s' ∧
      ((interpreter.register name capability s = .ok () s' ∧ WritesValue s s' name capability) ∨
        ∃ f, interpreter.register name capability s = .error f s' ∧
          (keyOf name = [] ∨ ∃ f', P f' ∨ IsBrokenText s name capability f')) := by
  by_cases hkey : keyOf name = []
  · exact ⟨s, .refl _ s, .inr ⟨_, register_refused capability s hkey, .inl hkey⟩⟩
  obtain ⟨ids, s₁, hleaves, hrun⟩ := attempt_leaves hs hfree.notPrototype hr hkeyed hshort
  have hs₁ := hleaves.served (by simpa using hfree) hs
  rcases hrun with ⟨hok, hfinds⟩ | ⟨f, herror, hf⟩
  · obtain ⟨s', hinstall, hmore, hspares⟩ := install_leaves hs₁ capability ids
    refine ⟨s', hleaves.trans hmore, .inl ⟨(register_assigned hkey hok).trans hinstall, fun hopen => ?_⟩⟩
    obtain ⟨w, hvalue, hw⟩ := hfinds hopen
    refine ⟨w, hvalue, hspares.finds ?_ hw⟩
    rintro (⟨key, hin, -⟩ | ⟨id, heq⟩)
    · cases hin
    · exact keyName_ne_hidden (hfree.notHidden id) heq
  · have hfailed := register_failed hkey herror
    by_cases hfault : f.cls.isRegistrationFault = true
    · obtain ⟨f', s', hundo, hmore⟩ := undo_leaves hs₁ f ids
      rw [if_pos hfault, hundo] at hfailed
      exact ⟨s', hleaves.trans (hmore.mono (by simp)), .inr ⟨f', hfailed, .inr ⟨f, hf⟩⟩⟩
    · rw [if_neg hfault] at hfailed
      exact ⟨s₁, hleaves, .inr ⟨f, hfailed, .inr ⟨f, hf⟩⟩⟩

end ScriptHost.Proofs.SparingRegistrations
