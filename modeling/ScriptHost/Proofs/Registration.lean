import ScriptHost.Proofs.RegistryBalance
import ScriptHost.Proofs.RenderedCapability

/-!
# What a registration does to the registry

A registration renders and assigns, and then either puts the module in place or releases what was
issued.  The engine is taken to be `sealed`: none of its operations registers anything by itself.
The theorems cover every capability whose own rendering registers nothing, and every fault.
-/

namespace ScriptHost.Proofs.Registration

open Interpreter Registry
open ScriptHost.Proofs.Transition
open ScriptHost.Proofs.HostFaults
open ScriptHost.Proofs.Invocation
open ScriptHost.Proofs.RenderedCapability
open ScriptHost.Proofs.RegistryGrowth
open ScriptHost.Proofs.RegistryBalance

variable {E V α : Type} {X : Interpreter E V}

/-! ## The three ways of a registration -/

/-- The key that a module goes by. -/
def keyOf (name : HostValue) : Text := name.text?.getD []

/-- The fault of a name that is refused. -/
def refusal (name : HostValue) : Fault :=
  match name.display with
  | some t => .failure (.moduleRegistration (.str t)
      (.ofString "module name must be a non-empty string") none)
  | none => .integerTooLong

/-- The module is put in place once its expression is assigned. -/
def install (X : Interpreter E V) (name capability : HostValue) (ids : List Nat) :
    HostM E V Unit := do
  let registry ← HostM.registry
  if registry.contains (keyOf name) then
    HostM.record registryLogger .debug
      ("Module " ++ Failure.shown name ++ " re-registered, replacing prior binding")
  HostM.modifyRegistry fun r => r.unbind (keyOf name)
  X.release (registry.boundTo (keyOf name))
  HostM.modifyRegistry fun r => r.bind (keyOf name) name capability ids

/-- What was issued is released before the failure is raised. -/
def undo (X : Interpreter E V) (name : HostValue) (f : Fault) (ids : List Nat) :
    HostM E V Unit := do
  X.release ids
  let reason ← HostM.wording f
  throw (.failure (.moduleRegistration name (.str reason) (some f.cls)))

/-- Rendering a capability and assigning it to the global of its name, with the functions issued
for it and the state reached. -/
def attempt (X : Interpreter E V) (name capability : HostValue) (s : E × Instance V) :
    EStateM.Result Fault (List Nat × E × Instance V) Unit :=
  X.assign (keyOf name) (X.build name capability) ([], s)

section Ways

variable {name capability : HostValue} {s s₁ : E × Instance V} {f : Fault} {ids : List Nat}

theorem register_refused (capability : HostValue) (s : E × Instance V) (hkey : keyOf name = []) :
    X.register name capability s = .error (refusal name) s := by
  unfold keyOf at hkey
  unfold Interpreter.register Interpreter.registerRendered refusal
  simp only [hkey]
  cases hshown : name.display with
  | some t =>
      simp only [HostM.show_, hshown]
      rfl
  | none =>
      simp only [HostM.show_, hshown]
      rfl

theorem register_failed (hkey : keyOf name ≠ [])
    (hrun : attempt X name capability s = .error f (ids, s₁)) :
    X.register name capability s =
      if f.cls.isRegistrationFault then undo X name f ids s₁ else .error f s₁ := by
  have hempty : (name.text?.getD []).isEmpty = false := by simpa [keyOf] using hkey
  have houtcome : BuildM.outcome (X.assign (name.text?.getD []) (X.build name capability)) s =
      .ok (.error f, ids) s₁ := by
    unfold BuildM.outcome
    rw [show X.assign (name.text?.getD []) (X.build name capability) ([], s) = _ from hrun]
  unfold Interpreter.register Interpreter.registerRendered
  simp only [hempty]
  change EStateM.bind _ _ s = _
  unfold EStateM.bind
  rw [houtcome]
  dsimp only
  cases f.cls.isRegistrationFault with
  | true => rfl
  | false => rfl

theorem register_assigned (hkey : keyOf name ≠ [])
    (hrun : attempt X name capability s = .ok () (ids, s₁)) :
    X.register name capability s = install X name capability ids s₁ := by
  have hempty : (name.text?.getD []).isEmpty = false := by simpa [keyOf] using hkey
  have houtcome : BuildM.outcome (X.assign (name.text?.getD []) (X.build name capability)) s =
      .ok (.ok (), ids) s₁ := by
    unfold BuildM.outcome
    rw [show X.assign (name.text?.getD []) (X.build name capability) ([], s) = _ from hrun]
  unfold Interpreter.register Interpreter.registerRendered
  simp only [hempty]
  change EStateM.bind _ _ s = _
  unfold EStateM.bind
  rw [houtcome]
  rfl

end Ways

/-! ## Engines -/

/-- The faults that an engine raises. -/
def IsEngineFault : Fault → Prop
  | .script _ | .stackOverflow _ | .embeddedNull | .loneSurrogate _ _ _ | .notUtf8 _
  | .digitsTooMany _ | .functionNotAdded | .unsupportedArgument _ | .worded _ _ => True
  | _ => False

/-- An engine whose operations fail with faults of an engine: none of them is a failure of the
runtime, nor a number of the host that is too long. -/
structure RaisesEngineFaults (X : Interpreter E V) : Prop where
  evaluate : ∀ code, Meets (fun _ _ => True) (fun _ => True) IsEngineFault (X.evaluate code)
  call : ∀ h args, Meets (fun _ _ => True) (fun _ => True) IsEngineFault (X.call h args)
  dataText : ∀ h, Meets (fun _ _ => True) (fun _ => True) IsEngineFault (X.dataText h)
  addFunction : ∀ id, Meets (fun _ _ => True) (fun _ => True) IsEngineFault (X.addFunction id)

/-- A computation without its effect on the registry. -/
def keepingRegistry (body : HostM E V α) : HostM E V α := fun s =>
  match body s with
  | .ok a (e, i) => .ok a (e, { i with registry := s.2.registry })
  | .error f (e, i) => .error f (e, { i with registry := s.2.registry })

/-- The engine with operations that leave the registry alone. -/
def isolated (X : Interpreter E V) : Interpreter E V where
  evaluate code := keepingRegistry (X.evaluate code)
  call h args := keepingRegistry (X.call h args)
  dataText h := keepingRegistry (X.dataText h)
  addFunction id := keepingRegistry (X.addFunction id)

/-- States of one registry. -/
def SameRegistry (s s' : E × Instance V) : Prop := s'.2.registry = s.2.registry

theorem chains_sameRegistry : Chains (SameRegistry (E := E) (V := V)) :=
  chains_eq fun s : E × Instance V => s.2.registry

theorem keepingRegistry_meets {Q : α → Prop} {P : Fault → Prop} {body : HostM E V α}
    (h : Meets (fun _ _ => True) Q P body) : Meets SameRegistry Q P (keepingRegistry body) := by
  refine Meets.of_runs (fun s a s' hrun => ?_) (fun s f s' hrun => ?_)
  · unfold keepingRegistry at hrun
    cases hbody : body s with
    | ok b t =>
        rw [hbody] at hrun
        cases hrun
        exact ⟨rfl, (h.ok hbody).2⟩
    | error g t =>
        rw [hbody] at hrun
        cases hrun
  · unfold keepingRegistry at hrun
    cases hbody : body s with
    | ok b t =>
        rw [hbody] at hrun
        cases hrun
    | error g t =>
        rw [hbody] at hrun
        cases hrun
        exact ⟨rfl, (h.error hbody).2⟩

theorem run_meets {R : E × Instance V → E × Instance V → Prop} {Q : Passed V → Prop}
    {P : Fault → Prop} (hR : Chains R) {code : Text} (hevaluate : Meets R Q P (X.evaluate code))
    (hcode : ∀ f, checkCode code = .error f → P f) : Meets R Q P (X.run code) :=
  (meets_ofExcept (Q := fun _ => True) hR (fun _ _ => trivial) hcode).bind hR fun _ _ => hevaluate

theorem isEngineFault_checkCode {code : Text} {f : Fault} (h : checkCode code = .error f) :
    IsEngineFault f := by
  unfold checkCode at h
  split at h
  · cases h
    trivial
  · split at h
    · cases h
      trivial
    · cases h

theorem isolated_run (hX : RaisesEngineFaults X) (code : Text) :
    Meets SameRegistry (fun _ => True) IsEngineFault ((isolated X).run code) :=
  run_meets chains_sameRegistry (keepingRegistry_meets (hX.evaluate code))
    fun _ => isEngineFault_checkCode

theorem isolated_addFunction (hX : RaisesEngineFaults X) (id : Nat) :
    Meets SameRegistry (fun _ => True) IsEngineFault ((isolated X).addFunction id) :=
  keepingRegistry_meets (hX.addFunction id)

/-! ## Faults that are no registration failure -/

/-- The failure that registrations raise. -/
def IsRegistrationFailure (f : Fault) : Prop := ∃ g, f = .failure g ∧ g.kind = .moduleRegistration

/-- A fault that is none of the runtime's registration failures. -/
def NoRegistration (f : Fault) : Prop := ∀ g, f = .failure g → g.kind ≠ .moduleRegistration

theorem noRegistration_of_foreign {f : Fault} (h : Foreign f) : NoRegistration f :=
  fun g hg => absurd hg (h g)

theorem noRegistration_of_engine {f : Fault} (h : IsEngineFault f) : NoRegistration f := by
  rintro g rfl
  exact h.elim

theorem noRegistration_of_lookup {name : HostValue} {Q : Passed V → Prop} {f : Fault}
    (h : LookupFault IsEngineFault Q name f) : NoRegistration f := by
  cases h with
  | passedOn hf => exact noRegistration_of_engine hf
  | unshownName => exact noRegistration_of_foreign (by simp [Foreign])
  | unshownKind => exact noRegistration_of_foreign (by simp [Foreign])
  | unworded => exact noRegistration_of_foreign (by simp [Foreign])
  | _ =>
      rintro g ⟨⟩
      simp [Failure.functionNotFound, Failure.notExportable]

/-- A script function that an export calls keeps the registry, and fails for the function. -/
theorem isolated_invoke (hX : RaisesEngineFaults X) (name args : HostValue) :
    Meets SameRegistry (fun _ => True) NoRegistration ((isolated X).invoke name args) := by
  have hR := chains_sameRegistry (E := E) (V := V)
  have hlocate : Meets SameRegistry (fun _ => True) NoRegistration ((isolated X).locate name) :=
    (locate_meets (Q := fun _ => True) hR fun code _ => isolated_run hX code).weaken id
      (fun _ _ => trivial) fun _ => noRegistration_of_lookup
  have hcall : ∀ applier function items, args.normalizeArguments = .ok items →
      Meets SameRegistry (fun _ => True) (fun _ => True) (do
        (isolated X).toHost (← (isolated X).callPassed applier
          [.handle function, ← (isolated X).listOfHost items])) := by
    intro applier function items _
    have hpure : ∀ {β : Type} (r : Except Fault β),
        Meets SameRegistry (fun _ => True) (fun _ => True) (HostM.ofExcept r : HostM E V β) :=
      fun r => meets_ofExcept hR (fun _ _ => trivial) fun _ _ => trivial
    have hrun : ∀ code, Meets SameRegistry (fun _ => True) (fun _ => True)
        ((isolated X).run code) := fun code =>
      (isolated_run hX code).weaken id (fun _ h => h) fun _ _ => trivial
    refine ((hpure _).bind hR fun t _ => hrun _).bind hR fun list _ => ?_
    refine Meets.bind (Q := fun _ => True) hR ?_ fun result _ => ?_
    · cases applier with
      | handle h =>
          exact (keepingRegistry_meets (hX.call h _)).weaken id (fun _ h => h) fun _ _ => trivial
      | plain v => exact Meets.throw hR trivial
    · cases result with
      | plain v => exact Meets.pure hR trivial
      | handle h =>
          have hdata : Meets SameRegistry (fun _ => True) (fun _ => True)
              ((isolated X).dataText h) :=
            (keepingRegistry_meets (hX.dataText h)).weaken id (fun _ h => h) fun _ _ => trivial
          refine hdata.bind hR fun text _ => ?_
          cases text with
          | none => exact Meets.pure hR trivial
          | some t => exact hpure _
  refine (invoke_meets hR (fun _ _ _ => rfl) hlocate hcall).weaken id (fun _ h => h) ?_
  intro f hf
  cases hf with
  | arguments h =>
      unfold HostValue.normalizeArguments at h
      split at h
      · exact noRegistration_of_foreign (foreign_iterate args f h)
      · cases h
  | lookup h => exact h
  | runtime hf reason =>
      rintro g ⟨⟩
      simp [Failure.functionRuntime]
  | unworded => exact noRegistration_of_foreign (by simp [Foreign])

/-! ## Issuing and releasing -/

/-- The registry grows by the functions that are noted as issued. -/
def Issues (s s' : List Nat × E × Instance V) : Prop :=
  ∃ ids, s'.1 = s.1 ++ ids ∧ Grown s.2.2.registry s'.2.2.registry ids

theorem chains_issues : Chains (Issues (E := E) (V := V)) where
  refl s := ⟨[], (List.append_nil _).symm, .refl _⟩
  trans := by
    rintro a b c ⟨first, hb, hab⟩ ⟨second, hc, hbc⟩
    exact ⟨first ++ second, by rw [hc, hb, List.append_assoc], hab.trans hbc⟩

theorem lift_ok {body : HostM E V α} {s s' : E × Instance V} {a : α} (ids : List Nat)
    (h : body s = .ok a s') : BuildM.lift body (ids, s) = .ok a (ids, s') := by
  unfold BuildM.lift
  simp only [h]

theorem lift_error {body : HostM E V α} {s s' : E × Instance V} {f : Fault} (ids : List Nat)
    (h : body s = .error f s') : BuildM.lift body (ids, s) = .error f (ids, s') := by
  unfold BuildM.lift
  simp only [h]

/-- Binding a function issues the next number, and makes it live if the engine takes it. -/
theorem bindFunction_run (path target : HostValue) (ids : List Nat) (e : E) (i : Instance V) :
    X.bindFunction path target (ids, e, i) =
      match X.addFunction i.registry.nextId
          (e, { i with registry := i.registry.issue { path, target } }) with
      | .ok () (e', i') =>
        .ok (bridgeName ++ "(" ++ hiddenName i.registry.nextId ++ ")")
          (ids ++ [i.registry.nextId], e',
            { i' with registry := i'.registry.enliven i.registry.nextId })
      | .error f s => .error f (ids, s) := by
  change EStateM.bind (BuildM.lift (X.addFunction i.registry.nextId)) _
    (ids, e, { i with registry := i.registry.issue { path, target } }) = _
  unfold EStateM.bind
  cases hadd : X.addFunction i.registry.nextId
      (e, { i with registry := i.registry.issue { path, target } }) with
  | ok u s =>
      rw [lift_ok ids hadd]
      rfl
  | error f s =>
      rw [lift_error ids hadd]

theorem bindFunction_meets (hX : RaisesEngineFaults X) (path target : HostValue) :
    Meets Issues Rendered NoRegistration ((isolated X).bindFunction path target) := by
  rintro ⟨ids, e, i⟩
  have hadd := isolated_addFunction hX i.registry.nextId
    (e, { i with registry := i.registry.issue { path, target } })
  rw [bindFunction_run]
  revert hadd
  cases (isolated X).addFunction i.registry.nextId
      (e, { i with registry := i.registry.issue { path, target } }) with
  | ok u s =>
      rintro ⟨hregistry, -⟩
      obtain ⟨e', i'⟩ := s
      refine ⟨⟨[i.registry.nextId], rfl, ?_⟩, .function _⟩
      change Grown i.registry (i'.registry.enliven i.registry.nextId) _
      rw [show i'.registry = _ from hregistry]
      exact grown_enliven i.registry { path, target }
  | error f s =>
      rintro ⟨hregistry, hf⟩
      refine ⟨⟨[], (List.append_nil _).symm, ?_⟩, noRegistration_of_engine hf⟩
      change Grown i.registry s.2.registry []
      rw [show s.2.registry = _ from hregistry]
      exact grown_issue i.registry { path, target }

/-- The walk over a capability, on an engine whose operations leave the registry alone. -/
theorem walks (hX : RaisesEngineFaults X) : Walks (isolated X) Issues NoRegistration where
  chains := chains_issues
  bindFunction := bindFunction_meets hX
  callPlain id b := by
    refine lift_meets (callPlain_meets chains_sameRegistry (fun _ _ _ => rfl) (fun _ _ _ => rfl)
      (isolated_invoke hX) (fun _ => noRegistration_of_foreign) id b []) fun ids s s' hs => ?_
    refine ⟨[], (List.append_nil _).symm, ?_⟩
    change Grown s.2.registry s'.2.registry []
    rw [show s'.2.registry = s.2.registry from hs]
    exact .refl _
  foreign _ := noRegistration_of_foreign

/-- Rendering and assigning a capability issues functions and does nothing else to the registry. -/
theorem assign_meets (hX : RaisesEngineFaults X) (key : Text) (name : HostValue)
    {capability : HostValue} (hcapability : registersNothing capability = true) :
    Meets Issues (fun _ => True) NoRegistration
      ((isolated X).assign key ((isolated X).build name capability)) := by
  refine ((walks hX).build name capability hcapability).bind chains_issues fun value _ => ?_
  refine Meets.bind (Q := fun _ => True) chains_issues ?_ fun _ _ =>
    Meets.pure chains_issues trivial
  refine (lift_meets (isolated_run hX _) fun ids s s' hs => ?_).weaken id (fun _ h => h)
    fun _ => noRegistration_of_engine
  refine ⟨[], (List.append_nil _).symm, ?_⟩
  change Grown s.2.registry s'.2.registry []
  rw [show s'.2.registry = s.2.registry from hs]
  exact .refl _

/-- The attempt of a registration issues functions; its fault is none of another registration. -/
theorem attempt_grows (hX : RaisesEngineFaults X) (name : HostValue) {capability : HostValue}
    (hcapability : registersNothing capability = true) (s : E × Instance V) :
    Ends (fun _ reached => Grown s.2.registry reached.2.2.registry reached.1)
      (fun f reached => Grown s.2.registry reached.2.2.registry reached.1 ∧ NoRegistration f)
      (attempt (isolated X) name capability s) := by
  have hassign := assign_meets hX (keyOf name) name hcapability ([], s)
  unfold attempt
  revert hassign
  cases (isolated X).assign (keyOf name) ((isolated X).build name capability) ([], s) with
  | ok u reached =>
      rintro ⟨⟨ids, hids, hgrown⟩, -⟩
      obtain rfl : reached.1 = ids := hids
      exact hgrown
  | error f reached =>
      rintro ⟨⟨ids, hids, hgrown⟩, hf⟩
      obtain rfl : reached.1 = ids := hids
      exact ⟨hgrown, hf⟩

/-- The text that deletes a hidden global. -/
def deletion (id : Nat) : Text :=
  "delete globalThis[" ++ Json.writeString true (hiddenName id) ++ "];"

theorem release_cons (X : Interpreter E V) (id : Nat) (rest : List Nat) :
    X.release (id :: rest) = (do
      let _ ← X.run (deletion id)
      HostM.modifyRegistry fun r => r.retire id
      X.release rest) :=
  rfl

-- nothing of a deletion but its text matters, and the text is long to compute with
attribute [irreducible] deletion

/-- Releasing functions retires them, unless the engine fails on one of them. -/
theorem release_ends (hX : RaisesEngineFaults X) (ids : List Nat) (s : E × Instance V) :
    Ends (fun _ s' => s'.2.registry = retired s.2.registry ids)
      (fun f s' => IsEngineFault f ∧
        ∃ released, s'.2.registry = retired s.2.registry released)
      ((isolated X).release ids s) := by
  induction ids generalizing s with
  | nil => exact rfl
  | cons id rest ih =>
      have hdelete := isolated_run hX (deletion id) s
      rw [release_cons]
      change Ends _ _ (EStateM.bind ((isolated X).run (deletion id)) _ s)
      unfold EStateM.bind
      revert hdelete
      cases (isolated X).run _ s with
      | error f s₁ =>
          rintro ⟨hregistry, hf⟩
          exact ⟨hf, [], hregistry⟩
      | ok v s₁ =>
          rintro ⟨hregistry, -⟩
          have hrest := ih (s₁.1, { s₁.2 with registry := s₁.2.registry.retire id })
          have hretired : s₁.2.registry.retire id = s.2.registry.retire id :=
            congrArg (Registry.retire · id) hregistry
          change Ends _ _ ((isolated X).release rest _)
          revert hrest
          change Ends _ _ ((isolated X).release rest _) → _
          cases (isolated X).release rest _ with
          | ok u s₂ =>
              intro hrest
              exact hrest.trans (congrArg (retired · rest) hretired)
          | error f s₂ =>
              rintro ⟨hf, released, hreleased⟩
              exact ⟨hf, id :: released,
                hreleased.trans (congrArg (retired · released) hretired)⟩

/-! ## The whole of a registration -/

/-- What was issued and was not live before, and nothing else, may have gone live. -/
structure Drifted (r r' : Registry) : Prop where
  issued : r.issued.toList <+: r'.issued.toList
  live : ∀ id ∈ r'.live, id ∈ r.live ∨ r.nextId ≤ id ∧ id < r'.nextId

theorem Drifted.nextId_le {r r' : Registry} (h : Drifted r r') : r.nextId ≤ r'.nextId := by
  simpa [nextId] using h.issued.length_le

theorem drifted_grown {r r' : Registry} {ids : List Nat} (h : Grown r r' ids) : Drifted r r' where
  issued := h.issued
  live := by
    intro id hid
    rw [h.live] at hid
    exact (List.mem_append.mp hid).imp_right (h.fresh id)

theorem Drifted.retired {r r' : Registry} (h : Drifted r r') (ids : List Nat) :
    Drifted r (retired r' ids) where
  issued := by
    rw [retired_issued]
    exact h.issued
  live := by
    intro id hid
    rw [retired_live] at hid
    rw [nextId, nextId, retired_issued]
    exact h.live id (List.mem_filter.mp hid).1

theorem Drifted.unbind {r r' : Registry} (h : Drifted r r') (key : Text) :
    Drifted r (r'.unbind key) :=
  ⟨h.issued, h.live⟩

theorem drifted_installed {r r' : Registry} {key : Text} {name capability : HostValue}
    {ids : List Nat} (h : Installed r r' key name capability ids) : Drifted r r' where
  issued := h.issued
  live := by
    intro id hid
    rw [h.live] at hid
    exact (List.mem_append.mp (List.mem_filter.mp hid).1).imp_right (h.fresh id)

/-- Live functions stay functions that have been issued. -/
theorem Drifted.live_lt {r r' : Registry} (h : Drifted r r')
    (hlive : ∀ id ∈ r.live, id < r.nextId) : ∀ id ∈ r'.live, id < r'.nextId := by
  intro id hid
  rcases h.live id hid with hold | hnew
  · exact Nat.lt_of_lt_of_le (hlive id hold) h.nextId_le
  · exact hnew.2

/-- The faults of a registration of which nothing is left: a registration failure, or the fault
that a text for it cannot be written. -/
def IsSettled (f : Fault) : Prop := IsRegistrationFailure f ∨ f = .integerTooLong

theorem not_isSettled_of_engine {f : Fault} (h : IsEngineFault f) : ¬IsSettled f := by
  rintro (⟨g, rfl, -⟩ | rfl)
  · exact h
  · exact h

/-- The state in which the functions that a module held before are released: the module holds none
of them any more, and if it was registered before a record says so. -/
def vacated (name : HostValue) (s : E × Instance V) : E × Instance V :=
  let log :=
    if s.2.registry.contains (keyOf name) then
      { logger := registryLogger, level := .debug,
        message := "Module " ++ Failure.shown name ++ " re-registered, replacing prior binding" }
        :: s.2.log
    else s.2.log
  (s.1, { s.2 with registry := s.2.registry.unbind (keyOf name), log })

/-- Putting a module in place is a release between two changes of the registry. -/
theorem install_run (X : Interpreter E V) (name capability : HostValue) (ids : List Nat)
    (s : E × Instance V) :
    install X name capability ids s =
      EStateM.bind (X.release (s.2.registry.boundTo (keyOf name)))
        (fun _ => HostM.modifyRegistry fun r => r.bind (keyOf name) name capability ids)
        (vacated name s) := by
  unfold install vacated
  cases hknown : s.2.registry.contains (keyOf name) with
  | true =>
      change (if s.2.registry.contains (keyOf name) = true then _ else _ : HostM E V Unit) s = _
      rw [hknown]
      rfl
  | false =>
      change (if s.2.registry.contains (keyOf name) = true then _ else _ : HostM E V Unit) s = _
      rw [hknown]
      rfl

/-- A fault that a registration does not answer for is not settled. -/
theorem not_isSettled {f : Fault} (hf : NoRegistration f)
    (hescapes : ¬f.cls.isRegistrationFault = true) : ¬IsSettled f := by
  rintro (⟨g, rfl, hkind⟩ | rfl)
  · exact hf g rfl hkind
  · exact hescapes rfl

theorem install_ends (hX : RaisesEngineFaults X) (name capability : HostValue) (ids : List Nat)
    (s : E × Instance V) :
    Ends
      (fun _ s' => s'.2.registry =
        (retired (s.2.registry.unbind (keyOf name)) (s.2.registry.boundTo (keyOf name))).bind
          (keyOf name) name capability ids)
      (fun f s' => IsEngineFault f ∧
        ∃ released, s'.2.registry = retired (s.2.registry.unbind (keyOf name)) released)
      (install (isolated X) name capability ids s) := by
  have hrelease := release_ends hX (s.2.registry.boundTo (keyOf name)) (vacated name s)
  rw [install_run]
  unfold EStateM.bind
  revert hrelease
  cases (isolated X).release (s.2.registry.boundTo (keyOf name)) (vacated name s) with
  | ok u s' =>
      intro hregistry
      exact congrArg (Registry.bind · (keyOf name) name capability ids) hregistry
  | error f s' => exact id

/-- Undoing a registration ends in a registration failure, or in the fault that its reason cannot
be written, unless the engine fails to release a function. -/
theorem undo_ends (hX : RaisesEngineFaults X) (name : HostValue) (f : Fault) (ids : List Nat)
    (s : E × Instance V) :
    Ends (fun _ _ => False)
      (fun g s' =>
        IsSettled g ∧ s'.2.registry = retired s.2.registry ids ∨
          IsEngineFault g ∧ ∃ released, s'.2.registry = retired s.2.registry released)
      (undo (isolated X) name f ids s) := by
  have hrelease := release_ends hX ids s
  change Ends _ _ (EStateM.bind ((isolated X).release ids) _ s)
  unfold EStateM.bind
  revert hrelease
  cases (isolated X).release ids s with
  | ok u s' =>
      intro hregistry
      change Ends _ _ (EStateM.bind (HostM.wording f) _ s')
      unfold EStateM.bind HostM.wording
      cases f.message? with
      | some t => exact Or.inl ⟨Or.inl ⟨_, rfl, rfl⟩, hregistry⟩
      | none => exact Or.inl ⟨Or.inr rfl, hregistry⟩
  | error g s' => exact Or.inr

/-- What a registration does to the registry: it puts the module in place, or fails.  A fault that
counts as settled leaves the registry as it was, the numbers issued apart. -/
theorem register_ends (hX : RaisesEngineFaults X) (name : HostValue) {capability : HostValue}
    (hcapability : registersNothing capability = true) {s : E × Instance V}
    (hlive : ∀ id ∈ s.2.registry.live, id < s.2.registry.nextId) :
    Ends
      (fun _ s' => ∃ ids, Installed s.2.registry s'.2.registry (keyOf name) name capability ids)
      (fun f s' => Drifted s.2.registry s'.2.registry ∧
        (IsSettled f → Grown s.2.registry s'.2.registry []))
      ((isolated X).register name capability s) := by
  by_cases hkey : keyOf name = []
  · rw [register_refused capability s hkey]
    exact ⟨drifted_grown (.refl _), fun _ => .refl _⟩
  have hattempt := attempt_grows hX name hcapability s
  cases hrun : attempt (isolated X) name capability s with
  | ok u reached =>
      obtain ⟨ids, s₁⟩ := reached
      rw [hrun] at hattempt
      rw [register_assigned hkey hrun]
      have hinstall := install_ends hX name capability ids s₁
      revert hinstall
      cases install (isolated X) name capability ids s₁ with
      | ok u s' =>
          intro hregistry
          refine ⟨ids, ?_⟩
          rw [show s'.2.registry = _ from hregistry]
          exact installed_bind hattempt (keyOf name) name capability
      | error f s' =>
          rintro ⟨hf, released, hregistry⟩
          refine ⟨?_, fun hsettled => absurd hsettled (not_isSettled_of_engine hf)⟩
          rw [hregistry]
          exact ((drifted_grown hattempt).unbind (keyOf name)).retired released
  | error f reached =>
      obtain ⟨ids, s₁⟩ := reached
      rw [hrun] at hattempt
      obtain ⟨hgrown, hf⟩ := hattempt
      rw [register_failed hkey hrun]
      split
      · have hundo := undo_ends hX name f ids s₁
        revert hundo
        cases undo (isolated X) name f ids s₁ with
        | ok u s' => exact False.elim
        | error g s' =>
            rintro (⟨-, hregistry⟩ | ⟨hg, released, hregistry⟩)
            · have hback : Grown s.2.registry s'.2.registry [] := by
                rw [hregistry]
                exact grown_retired hgrown hlive
              exact ⟨drifted_grown hback, fun _ => hback⟩
            · refine ⟨?_, fun hsettled => absurd hsettled (not_isSettled_of_engine hg)⟩
              rw [hregistry]
              exact (drifted_grown hgrown).retired released
      · rename_i hescapes
        exact ⟨drifted_grown hgrown, fun hsettled => absurd hsettled (not_isSettled hf hescapes)⟩

end ScriptHost.Proofs.Registration
