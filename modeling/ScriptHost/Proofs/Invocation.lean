import ScriptHost.Instance.Invocation
import ScriptHost.Proofs.HostFaults
import ScriptHost.Proofs.Transition

/-!
# How a call of a script function ends

One theorem for each step of a call: looking a name up, and applying what was found.  Each says
which faults the step can end in, in terms of the faults of the engine operations below it, and
leaves open which relation between states the engine operations keep.
-/

namespace ScriptHost.Proofs.Invocation

open Interpreter
open ScriptHost.Proofs.Transition
open ScriptHost.Proofs.HostFaults

variable {E V : Type} {X : Interpreter E V}
  {R : E × Instance V → E × Instance V → Prop}

/-! ## Names as references -/

theorem globalReference_eq {name : HostValue} {t : Text} (ht : name.text? = some t) :
    globalReference name = .ok ("globalThis[" ++ Json.writeString true t ++ "]") := by
  cases name with
  | str s => cases ht; rfl
  | strMember s => cases ht; rfl
  | _ => cases ht

/-- The texts that the look-up of a name evaluates. -/
inductive IsLookup (name : HostValue) : Text → Prop
  | kind (h : name.isIdentifier = true) : IsLookup name ("typeof " ++ Failure.shown name)
  | binding {t : Text} (h : name.isIdentifier = true) (ht : name.text? = some t) :
    IsLookup name t
  | globalKind {ref : Text} (h : globalReference name = .ok ref) :
    IsLookup name ("typeof " ++ ref)
  | global {ref : Text} (h : globalReference name = .ok ref) : IsLookup name ref

/-- What the look-up of a name fails with, by the faults of its evaluations. -/
inductive LookupFault (P : Fault → Prop) (Q : Passed V → Prop) (name : HostValue) : Fault → Prop
  | unnamed {t : Text} (h : name.text?.getD [] = []) (ht : name.display = some t) :
    LookupFault P Q name (.failure (.functionNotFound (.str t)))
  | notFound : LookupFault P Q name (.failure (.functionNotFound name))
  | notExportable (reason : HostValue) (cause : Option FaultClass) :
    LookupFault P Q name (.failure (.notExportable name reason cause))
  | unshownName (h : name.text?.getD [] = []) (hshown : name.display = none) :
    LookupFault P Q name .integerTooLong
  | unshownKind {v : HostValue} (hv : Q (.plain v)) (hshown : v.display = none) :
    LookupFault P Q name .integerTooLong
  | unworded {f : Fault} (hf : P f) (hscript : f.cls.isScript = true) (h : f.message? = none) :
    LookupFault P Q name .integerTooLong
  | passedOn {f : Fault} (hf : P f) (hscript : f.cls.isScript = false) : LookupFault P Q name f

section Lookup

variable {P : Fault → Prop} {Q : Passed V → Prop} {name : HostValue} {t : Text}

theorem kind_meets (hR : Chains R) (ht : name.text? = some t)
    (hlookup : ∀ code, IsLookup name code → Meets R Q P (X.run code)) :
    Meets R Q P (X.kind name) := by
  have hglobal : Meets R Q P (do
      X.run ("typeof " ++ (← HostM.ofExcept (globalReference name)))) := by
    rw [globalReference_eq ht]
    exact hlookup _ (.globalKind (globalReference_eq ht))
  unfold Interpreter.kind
  dsimp only
  split
  · rename_i hidentifier
    exact meets_orOnScriptFault hR (hlookup _ (.kind hidentifier)) (fun _ _ _ => hglobal)
      fun _ hf _ => hf
  · exact hglobal

theorem notExported_meets {α : Type} {S : α → Prop} (hR : Chains R) {f : Fault} (hf : P f)
    (hscript : f.cls.isScript = true) :
    Meets R S (LookupFault P Q name) (notExported name f : HostM E V α) :=
  (meets_wording hR fun hlost => .unworded hf hscript hlost).bind hR fun reason _ =>
    Meets.throw hR (.notExportable (.str reason) (some f.cls))

theorem binding_meets (hR : Chains R) (ht : name.text? = some t)
    (hlookup : ∀ code, IsLookup name code → Meets R Q P (X.run code)) :
    Meets R Q (LookupFault P Q name) (X.binding name) := by
  unfold Interpreter.binding
  rw [globalReference_eq ht]
  have hglobal := hlookup _ (.global (globalReference_eq ht))
  have hfirst : Meets R Q P (X.run (if name.isIdentifier = true then name.text?.getD []
      else "globalThis[" ++ Json.writeString true t ++ "]")) := by
    split
    · rename_i hidentifier
      rw [ht]
      exact hlookup _ (.binding hidentifier ht)
    · exact hglobal
  exact meets_orOnScriptFault hR hfirst
    (fun _ _ _ => meets_orOnScriptFault hR hglobal
      (fun _ hf hscript => notExported_meets hR hf hscript) fun _ hf hstays => .passedOn hf hstays)
    fun _ hf hstays => .passedOn hf hstays

/-- A look-up gives a function under the name, or fails as look-ups do. -/
theorem locate_meets (hR : Chains R)
    (hlookup : ∀ code, IsLookup name code → Meets R Q P (X.run code)) :
    Meets R (fun found : Located V => found.name = name) (LookupFault P Q name)
      (X.locate name) := by
  unfold Interpreter.locate
  cases hempty : (name.text?.getD []).isEmpty with
  | true =>
      have hname : name.text?.getD [] = [] := List.isEmpty_iff.mp hempty
      exact (meets_show hR fun hshown => .unshownName hname hshown).bind hR fun _ hshown =>
        Meets.throw hR (.unnamed hname hshown)
  | false =>
      obtain ⟨t, ht⟩ : ∃ t, name.text? = some t := by
        cases htext : name.text? with
        | some t => exact ⟨t, rfl⟩
        | none => simp [htext] at hempty
      have hkind : Meets R Q (LookupFault P Q name)
          (HostM.orOnScriptFault (X.kind name) (notExported name)) :=
        meets_orOnScriptFault hR (kind_meets hR ht hlookup)
          (fun _ hf hscript => notExported_meets hR hf hscript)
          fun _ hf hstays => .passedOn hf hstays
      refine hkind.bind hR fun v hv => ?_
      have htext : Meets R (fun _ => True) (LookupFault P Q name)
          (kindText v : HostM E V Text) := by
        cases v with
        | plain v =>
            exact (meets_show hR fun hshown => .unshownKind hv hshown).weaken id
              (fun _ _ => trivial) fun _ hf => hf
        | handle h => exact Meets.pure hR trivial
      refine htext.bind hR fun kind _ => ?_
      by_cases hundefined : kind = "undefined"
      · rw [if_pos hundefined]
        exact Meets.throw hR .notFound
      · rw [if_neg hundefined]
        by_cases hfunction : kind ≠ "function"
        · rw [if_pos hfunction]
          exact Meets.throw hR (.notExportable _ none)
        · rw [if_neg hfunction]
          refine (binding_meets hR ht hlookup).bind hR fun w _ => ?_
          cases w with
          | handle function => exact Meets.pure hR rfl
          | plain w => exact Meets.throw hR (.notExportable _ none)

end Lookup

/-- What a call of a function under a name fails with, by the faults of the look-up and of the
protected call. -/
inductive InvokeFault (L P : Fault → Prop) (name args : HostValue) : Fault → Prop
  | arguments {f : Fault} (h : args.normalizeArguments = .error f) : InvokeFault L P name args f
  | lookup {f : Fault} (h : L f) : InvokeFault L P name args f
  | runtime {f : Fault} (hf : P f) (reason : HostValue) :
    InvokeFault L P name args (.failure (.functionRuntime name reason (some f.cls)))
  | unworded {f : Fault} (hf : P f) (h : f.message? = none) :
    InvokeFault L P name args .integerTooLong

/-- A failed call writes a record and fails for its function, if the fault can be worded. -/
theorem failCall_meets {α : Type} {S : α → Prop} {L P : Fault → Prop} {name args : HostValue}
    (hR : Chains R) (hlog : ∀ e i log, R (e, i) (e, { i with log })) {f : Fault} (hf : P f) :
    Meets R S (InvokeFault L P name args) (failCall name f : HostM E V α) := by
  unfold Interpreter.failCall
  refine (meets_wording hR fun hlost => .unworded hf hlost).bind hR fun reason _ => ?_
  have hrecord : ∀ message, Meets R (fun _ => True) (InvokeFault L P name args)
      (HostM.record invocationLogger .warning message : HostM E V Unit) := fun message =>
    meets_modifyInstance fun e i => hlog e i _
  split
  · exact (hrecord _).bind hR fun _ _ => Meets.throw hR (.runtime hf _)
  · exact (hrecord _).bind hR fun _ _ => Meets.throw hR (.runtime hf _)

section Call

variable {L P : Fault → Prop} {Q : HostValue → Prop} {name args : HostValue}

/-- A call gives what the protected call gives, and fails as calls do. -/
theorem invokeThrough_meets (hR : Chains R)
    (hlog : ∀ e i log, R (e, i) (e, { i with log })) (applier : Passed V)
    (hlocate : Meets R (fun _ => True) L (X.locate name))
    (hcall : ∀ function items, args.normalizeArguments = .ok items → Meets R Q P (do
      X.toHost (← X.callPassed applier [.handle function, ← X.listOfHost items]))) :
    Meets R Q (InvokeFault L P name args) (X.invokeThrough applier name args) := by
  unfold Interpreter.invokeThrough
  cases hitems : args.normalizeArguments with
  | error f => exact Meets.throw hR (.arguments hitems)
  | ok items =>
      change Meets R Q _ (X.locate name >>= fun found => tryCatch (do
        X.toHost (← X.callPassed applier [.handle found.function, ← X.listOfHost items]))
        (failCall name))
      refine (hlocate.weaken id (fun _ h => h)
        fun _ h => .lookup h).bind hR fun found _ => ?_
      exact (hcall found.function items hitems).tryCatch hR fun f hf => failCall_meets hR hlog hf

theorem invoke_meets (hR : Chains R)
    (hlog : ∀ e i log, R (e, i) (e, { i with log }))
    (hlocate : Meets R (fun _ => True) L (X.locate name))
    (hcall : ∀ applier function items, args.normalizeArguments = .ok items → Meets R Q P (do
      X.toHost (← X.callPassed applier [.handle function, ← X.listOfHost items]))) :
    Meets R Q (InvokeFault L P name args) (X.invoke name args) :=
  (meets_instance hR).bind hR fun i _ =>
    invokeThrough_meets hR hlog i.applier hlocate (hcall i.applier)

end Call

/-- A call of a script function keeps what the engine operations below it keep. -/
theorem invoke_keeps {name args : HostValue} (hR : Chains R)
    (hlog : ∀ e i log, R (e, i) (e, { i with log }))
    (hlookup : ∀ code, IsLookup name code → Meets R (fun _ => True) (fun _ => True) (X.run code))
    (hlist : ∀ items, Meets R (fun _ => True) (fun _ => True) (X.listOfHost items))
    (happly : ∀ h list, Meets R (fun _ => True) (fun _ => True) (X.call h list))
    (hdata : ∀ h, Meets R (fun _ => True) (fun _ => True) (X.dataText h)) :
    Meets R (fun _ => True) (fun _ => True) (X.invoke name args) := by
  have hlocate : Meets R (fun _ => True) (fun _ => True) (X.locate name) :=
    (locate_meets hR hlookup).weaken id (fun _ _ => trivial) fun _ _ => trivial
  refine (invoke_meets (P := fun _ => True) hR hlog hlocate ?_).weaken id (fun _ h => h)
    fun _ _ => trivial
  intro applier function items _
  refine (hlist items).bind hR fun list _ => Meets.bind (Q := fun _ => True) hR ?_ fun v _ => ?_
  · cases applier with
    | handle a => exact happly a _
    | plain v => exact Meets.throw hR trivial
  · cases v with
    | plain v => exact Meets.pure hR trivial
    | handle r =>
        refine (hdata r).bind hR fun text _ => ?_
        cases text with
        | none => exact Meets.pure hR trivial
        | some t => exact meets_ofExcept hR (fun _ _ => trivial) fun _ _ => trivial

end ScriptHost.Proofs.Invocation
