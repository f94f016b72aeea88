import ScriptHost.Proofs.Applier
import ScriptHost.Proofs.CallArguments
import ScriptHost.Proofs.CallBoundary
import ScriptHost.Proofs.HostImages

/-!
# Which call a call by name is

A call by name is one plain call of the function that is found under the name, with the images of
the arguments, unless the script has given the function a method `apply` of its own: then that
method is called in its place.
-/

namespace ScriptHost.Proofs.PlainCall

open Script Script.Eval ScriptEngine Interpreter
open ScriptHost.Proofs.CallBoundary
open ScriptHost.Proofs.Evaluation
open ScriptHost.Proofs.Applier
open ScriptHost.Proofs.CallArguments
open ScriptHost.Proofs.DataValues
open ScriptHost.Proofs.HostImages

variable {name args : HostValue} {items : List HostValue} {found : Located Value}
  {s s₁ s₂ : Machine × Host} {a r l g : Ref} {c : Closure} {x : Specials}

/-! ## Levels -/

/-- The level that calls by name are made on, from below. -/
def depth : Nat := Engine.nesting - 4

/-- The evaluator that the applier reads and calls with. -/
def inner : Interp Host := Engine.interp hostCall (depth + 1)

/-- The evaluator that a function called by name runs on. -/
def innermost : Interp Host := Engine.interp hostCall depth

theorem nesting_eq : Engine.nesting = depth + 4 := rfl

theorem evaluator_eq : evaluator = Engine.interp hostCall (depth + 4) := by
  unfold evaluator
  rw [nesting_eq]

/-! ## From the host into the engine and back -/

/-- What comes out of the engine at the end of an evaluation. -/
def given (body : Eval Host Value) : EngineM (Passed Value) := do
  HostM.ofExcept (passed (← perform evaluator body))

/-- The outcome of a call by name: a host value, or the failure of the function. -/
def reported (name : HostValue) (body : Eval Host Value) : EngineM HostValue :=
  tryCatch (do interpreter.toHost (← given body)) (failCall name)

theorem given_congr {x y : Eval Host Value} (h : x s = y s) : given x s = given y s := by
  have hperform : perform evaluator x s = perform evaluator y s := by
    unfold perform
    rw [h]
  change EStateM.bind (perform evaluator x) _ s = EStateM.bind (perform evaluator y) _ s
  unfold EStateM.bind
  rw [hperform]

theorem reported_congr {x y : Eval Host Value} (h : x s = y s) :
    reported name x s = reported name y s := by
  have hbound : EStateM.bind (given x) interpreter.toHost s =
      EStateM.bind (given y) interpreter.toHost s := by
    unfold EStateM.bind
    rw [given_congr h]
  change EStateM.tryCatch (EStateM.bind (given x) _) _ s =
    EStateM.tryCatch (EStateM.bind (given y) _) _ s
  unfold EStateM.tryCatch
  rw [hbound]

/-- Once the arguments are a list of the engine, a call by name is a call of the applier. -/
theorem invoke_run (hargs : args.normalizeArguments = .ok items)
    (hlocate : interpreter.locate name s = .ok found s₁) (hfound : found.function = .object r)
    (happlier : s.2.applier = .handle (.object a))
    (hlist : interpreter.listOfHost items s₁ = .ok (.handle (.object l)) s₂) :
    interpreter.invoke name args s =
      reported name (evaluator.call (.object a) .undefined #[.object r, .object l]) s₂ := by
  have hprotected : protectedCall interpreter (.handle (.object a)) (.object r) items s₁ =
      EStateM.bind (given (evaluator.call (.object a) .undefined #[.object r, .object l]))
        interpreter.toHost s₂ := by
    change EStateM.bind (interpreter.listOfHost items) _ s₁ = _
    unfold EStateM.bind
    rw [hlist]
    rfl
  rw [invoke_located hargs hlocate, hfound, happlier]
  change _ = EStateM.tryCatch (EStateM.bind (given _) _) _ s₂
  unfold EStateM.tryCatch
  rw [hprotected]

/-! ## The law of calls by name -/

/-- One plain call of a function: without a receiver, with given values, and inside the calls of the
applier and of the function `apply` of the engine. -/
def plain (a : Ref) (c : Closure) (g r l : Ref) (values : Array Value) : Eval Host Value := do
  Engine.checkDepth
  withFrame (Callable.frameOf a c.code.info) do
    let _ ← openScope (applierScope a c.home r l)
    calledPlainly innermost g r values

/-- The method `apply` of a function is the engine's own: reading it runs nothing of the script. -/
structure HasOwnApply (g r : Ref) (s : Machine × Host) : Prop where
  read : getProperty inner r (.name applyName) s = .ok (.object g) s
  own : IsApply s.1 g

variable {values : Array Value} {b : Bool}

theorem applied_plain (happly : HasOwnApply g r (inApplier a c r l s))
    (hr : (objectAt s.1 r).isCallable = true)
    (hl : (objectAt s.1 l).kind = .array values values.size b) :
    applied inner a c r l s = plain a c g r l values s := by
  unfold applied plain
  cases hdepth : Engine.checkDepth s with
  | error e s' => rw [bind_error hdepth, bind_error hdepth]
  | ok u s' =>
      obtain rfl := checkDepth_ok hdepth
      rw [bind_ok hdepth, bind_ok hdepth]
      refine withFrame_congr ?_
      rw [bind_ok (openScope_run _ _), bind_ok (openScope_run _ _)]
      unfold throughApply
      rw [show opened _ _ = inApplier a c r l s' from rfl, bind_ok happly.read]
      exact @call_apply _ _ _ _ hostCall depth _ _ _ happly.own hr hl

/-- The arguments that are given for a call, and the items that it is made with: a text in the place
of nothing. -/
inductive Passes : HostValue → List HostValue → Prop
  | nothing : Passes .none [HostValue.placeholder]
  | empty : Passes (.list []) [HostValue.placeholder]
  | items {items : List HostValue} (h : items ≠ []) : Passes (.list items) items

theorem normalizeArguments_of (h : Passes args items) : args.normalizeArguments = .ok items := by
  cases h with
  | nothing => rfl
  | empty => rfl
  | items h =>
      obtain ⟨v, rest, rfl⟩ := List.exists_cons_of_ne_nil h
      rfl

/-- An engine that can make a call of a function: the applier is what it was made as, the constants
have their names, and the function can be called. -/
structure IsServed (s : Machine × Host) (a r : Ref) (c : Closure) (x : Specials) : Prop where
  applier : IsApplier s.1 a c
  undefined : HasConstant s.1 undefinedName .undefined
  numbers : HasNumbers s.1 x
  callable : (objectAt s.1 r).isCallable = true

theorem IsServed.withObjects (h : IsServed s a r c x) (os : List Object) :
    IsServed (withObjects os s) a r c x := by
  have hold {p : Ref} (hp : objectAt s.1 p ≠ default) :
      objectAt (DataValues.withObjects os s).1 p = objectAt s.1 p :=
    objectAt_withObjects (index_lt hp)
  have ha : objectAt s.1 a ≠ default := by
    intro hdefault
    have hkind := h.applier.kind
    rw [hdefault] at hkind
    cases hkind
  have hr : objectAt s.1 r ≠ default := by
    intro hdefault
    have hcallable := h.callable
    rw [hdefault] at hcallable
    cases hcallable
  exact ⟨⟨by rw [hold ha]; exact h.applier.kind, h.applier.code, h.applier.scope⟩,
    DataValues.HasConstant.withObjects h.undefined os,
    ⟨DataValues.HasConstant.withObjects h.numbers.nan os,
      DataValues.HasConstant.withObjects h.numbers.infinity os⟩,
    by rw [hold hr]; exact h.callable⟩

/-- A call of the applier with a function and a list is one plain call of the function. -/
theorem applier_plain (h : IsServed s a r c x) (happly : HasOwnApply g r (inApplier a c r l s))
    (hl : (objectAt s.1 l).kind = .array values values.size b) :
    evaluator.call (.object a) .undefined #[.object r, .object l] s = plain a c g r l values s := by
  have hread : ∀ v s', getProperty inner r (.name applyName) (inApplier a c r l s) = .ok v s' →
      UnderWay s'.1 s.1.scopes.size r l := by
    intro v s' hget
    rw [happly.read] at hget
    cases hget
    exact underWay_inApplier h.applier.code h.undefined
  rw [evaluator_eq]
  exact (call_applier h.applier h.undefined hread).trans (applied_plain happly h.callable hl)

/-- Calling a function by name is one plain call of the function that the name is found to mean,
without a receiver and with the images of the arguments in their order, as long as the method
`apply` of the function is the engine's own. -/
theorem call_by_name_is_plain {images : List HostValue} {t : Text} (hpasses : Passes args items)
    (hkeyed : AllWellKeyed items) (himages : HostValue.imageItems items = .ok images)
    (ht : Json.write Json.wire (.list images) = .ok t)
    (hlevels : levels (.list images) < Engine.nesting)
    (hlocate : interpreter.locate name s = .ok found s₁) (hfound : found.function = .object r)
    (happlier : s.2.applier = .handle (.object a)) (hserved : IsServed s₁ a r c x)
    (happly : HasOwnApply g r
      (inApplier a c r (listFor x s₁.1.objects.size images) (withList x images s₁))) :
    interpreter.invoke name args s =
      reported name
        (plain a c g r (listFor x s₁.1.objects.size images)
          (placedItems x s₁.1.objects.size images).1.toArray)
        (withList x images s₁) := by
  have hdata := isDatum_imageItems items hkeyed himages
  have hlist := listOfHost_run himages hdata ht hlevels hserved.numbers
  have hafter : IsServed (withList x images s₁) a r c x := hserved.withObjects _
  rw [invoke_run (normalizeArguments_of hpasses) hlocate hfound happlier hlist]
  refine reported_congr (applier_plain hafter happly (b := true) ?_)
  rw [objectAt_list]
  rfl

/-! ## Calls in a small realm -/

/-- A realm with the function `apply` and the names of constants alone. -/
def smallRealm : Machine :=
  let build : Realm.Build Unit := do
    let f ← newNative (.functionMethod .apply) "apply" 2
    putProperty Intrinsic.functionPrototype.ref "apply" (.hidden (.object f))
    putProperty Intrinsic.globalObject.ref "undefined" (.fixed .undefined)
    putProperty Intrinsic.globalObject.ref "NaN" (.fixed (.float Binary.nan))
    putProperty Intrinsic.globalObject.ref "Infinity" (.fixed (.float (Binary.infinity false)))
  match build (Realm.bareMachine, ()) with
  | .ok _ (m, _) => m
  | .error _ (m, _) => m

/-- The state of an instance in the small realm, once it has run a script. -/
def stateAfter (script : Text) : Machine × Host :=
  let prepared : EngineM Unit := do
    let applier ← interpreter.run applierSource
    HostM.modifyInstance fun i => { i with applier }
    let _ ← interpreter.run script
  match prepared (smallRealm, Instance.blank Value) with
  | .ok _ s => s
  | .error _ s => s

/-- The value that the engine has given a name, if it has. -/
def constant? (m : Machine) (n : Name) : Option Value :=
  match m.scopes[0]?, (objectAt m Intrinsic.globalObject.ref).kind,
    (objectAt m Intrinsic.globalObject.ref).own? (.name n) with
  | some c, .ordinary, some ⟨.data v _, _, _⟩ =>
    if c.parent.isNone && (Variable.indexIn c n).isNone then some v else none
  | _, _, _ => none

theorem hasConstant_of {m : Machine} {n : Name} {v : Value} (h : constant? m n = some v) :
    HasConstant m n v := by
  unfold constant? at h
  split at h
  · rename_i hscope hkind hown
    split at h
    · rename_i hboth
      cases h
      obtain ⟨hparent, hunbound⟩ := Bool.and_eq_true_iff.mp hboth
      refine ⟨⟨_, hscope, Option.isNone_iff_eq_none.mp hparent,
        Option.isNone_iff_eq_none.mp hunbound⟩, fun _ _ _ => ?_, ⟨_, _, _, hown⟩⟩
      rw [hkind]
      exact fun h => nomatch h
    · cases h
  · cases h

/-- The function `apply` that a function of the script takes from its prototype. -/
def inheritedApply? (m : Machine) (r : Ref) : Option Ref :=
  match (objectAt m r).kind, (objectAt m r).own? (.name applyName), (objectAt m r).prototype with
  | .closure _, none, some p =>
    match (objectAt m p).kind, (objectAt m p).own? (.name applyName) with
    | .native _, some ⟨.data (.object g) _, _, _⟩ =>
      match (objectAt m g).kind with
      | .native (.functionMethod .apply) => some g
      | _ => none
    | _, _ => none
  | _, _, _ => none

/-- What it takes for a function to have its method `apply` from its prototype. -/
structure InheritsApply (m : Machine) (r p g : Ref) : Prop where
  closure : ∃ c, (objectAt m r).kind = .closure c
  none : (objectAt m r).own? (.name applyName) = none
  prototype : (objectAt m r).prototype = some p
  native : ∃ n, (objectAt m p).kind = .native n
  own : ∃ w e k, (objectAt m p).own? (.name applyName) = some ⟨.data (.object g) w, e, k⟩
  apply : IsApply m g

theorem inheritsApply_of {m : Machine} (h : inheritedApply? m r = some g) :
    ∃ p, InheritsApply m r p g := by
  unfold inheritedApply? at h
  split at h
  · rename_i hclosure hnone hprototype
    split at h
    · rename_i hnative hown
      split at h
      · rename_i happly
        cases h
        exact ⟨_, ⟨_, hclosure⟩, hnone, hprototype, ⟨_, hnative⟩, ⟨_, _, _, hown⟩, happly⟩
      · cases h
    · cases h
  · cases h

namespace InheritsApply

variable {p : Ref}

theorem withObjects (h : InheritsApply s.1 r p g) (os : List Object) :
    InheritsApply (DataValues.withObjects os s).1 r p g := by
  obtain ⟨k, hclosure⟩ := h.closure
  obtain ⟨n, hnative⟩ := h.native
  have hold {q : Ref} (hq : (objectAt s.1 q).kind ≠ (default : Object).kind) :
      objectAt (DataValues.withObjects os s).1 q = objectAt s.1 q :=
    objectAt_withObjects (index_lt fun hdefault => hq (by rw [hdefault]))
  have hr := hold (q := r) (by rw [hclosure]; exact fun h => nomatch h)
  have hp := hold (q := p) (by rw [hnative]; exact fun h => nomatch h)
  have hg := hold (q := g) (by rw [show _ = _ from h.apply]; exact fun h => nomatch h)
  refine ⟨⟨k, by rw [hr, hclosure]⟩, by rw [hr, h.none], by rw [hr, h.prototype],
    ⟨n, by rw [hp, hnative]⟩, ?_, ?_⟩
  · rw [hp]
    exact h.own
  · unfold IsApply
    rw [hg]
    exact h.apply

theorem inApplier (h : InheritsApply s.1 r p g) : InheritsApply (Applier.inApplier a c r l s).1 r p g :=
  ⟨h.closure, h.none, h.prototype, h.native, h.own, h.apply⟩

/-- Reading the method runs nothing of the script. -/
theorem hasOwnApply (h : InheritsApply s.1 r p g) : HasOwnApply g r s := by
  obtain ⟨k, hclosure⟩ := h.closure
  obtain ⟨n, hnative⟩ := h.native
  obtain ⟨w, e, d, hown⟩ := h.own
  have hsize : p.index < s.1.objects.size := index_lt fun hdefault => by
    rw [hdefault] at hnative
    cases hnative
  refine ⟨?_, h.apply⟩
  obtain ⟨fuel, hfuel⟩ : ∃ fuel, s.1.objects.size = fuel + 1 := ⟨s.1.objects.size - 1, by omega⟩
  change getAlong inner _ (.object r) (s.1.objects.size + 1) r s = _
  rw [getAlong, bind_ok (object_run r s)]
  simp only [hclosure, h.none, h.prototype]
  rw [hfuel, getAlong, bind_ok (object_run p s)]
  simp only [hnative, hown]
  rfl

end InheritsApply

/-- Whether an engine can make a call of a function that has the engine's method `apply`. -/
def canCall (s : Machine × Host) (r : Ref) : Bool :=
  match s.2.applier, constant? s.1 undefinedName, constant? s.1 (nameOf "NaN"),
    constant? s.1 (nameOf "Infinity") with
  | .handle (.object a), some .undefined, some (.float _), some (.float _) =>
    match (objectAt s.1 a).kind with
    | .closure c => appliesFirst c.code && c.scope == 0 && (inheritedApply? s.1 r).isSome
    | _ => false
  | _, _, _, _ => false

theorem isServed_of (h : canCall s r = true) :
    ∃ a c x p g, s.2.applier = .handle (.object a) ∧ IsServed s a r c x ∧
      InheritsApply s.1 r p g := by
  unfold canCall at h
  split at h
  · rename_i a y z happlier hundefined hnan hinfinity
    split at h
    · rename_i c hclosure
      simp only [Bool.and_eq_true, beq_iff_eq] at h
      obtain ⟨⟨hcode, hscope⟩, hinherited⟩ := h
      obtain ⟨g, hg⟩ := Option.isSome_iff_exists.mp hinherited
      obtain ⟨p, hp⟩ := inheritsApply_of hg
      refine ⟨a, c, ⟨y, z⟩, p, g, happlier,
        ⟨⟨hclosure, appliesFirst_of hcode, hscope⟩, hasConstant_of hundefined,
          ⟨hasConstant_of hnan, hasConstant_of hinfinity⟩, ?_⟩, hp⟩
      obtain ⟨k, hk⟩ := hp.closure
      unfold Object.isCallable
      rw [hk]
    · cases h
  · cases h

/-- Whether a name is found to mean a function that an engine can call. -/
def findsCallable (name : HostValue) (s : Machine × Host) : Bool :=
  match interpreter.locate name s, s.2.applier with
  | .ok ⟨_, .object r⟩ s₁, .handle (.object a) =>
    canCall s₁ r && (match s₁.2.applier with
      | .handle (.object b) => a == b
      | _ => false)
  | _, _ => false

/-- A function that returns a number is called plainly, with the placeholder alone. -/
theorem main_is_called_plainly : ∃ r g l values s₂ a c,
    interpreter.invoke (.ofString "main") .none (stateAfter "function main(x)\x7breturn 7\x7d") =
      reported (.ofString "main") (plain a c g r l values) s₂ ∧
    values = #[.string (Utf16.ofString "undefined")] := by
  have hfinds : findsCallable (.ofString "main") (stateAfter "function main(x)\x7breturn 7\x7d") =
      true := by decide +kernel
  generalize stateAfter "function main(x)\x7breturn 7\x7d" = s at hfinds ⊢
  unfold findsCallable at hfinds
  split at hfinds
  · rename_i k r s₁ a hlocate happlier
    obtain ⟨hcan, hsame⟩ := Bool.and_eq_true_iff.mp hfinds
    obtain ⟨a', c, x, p, g, happlier', hserved, hinherits⟩ := isServed_of hcan
    rw [happlier'] at hsame
    obtain rfl : a = a' := beq_iff_eq.mp hsame
    have himages : HostValue.imageItems [HostValue.placeholder] = .ok [HostValue.placeholder] := rfl
    refine ⟨r, g, _, _, _, a, c, call_by_name_is_plain
      .nothing ⟨trivial, trivial⟩ himages rfl (by decide) hlocate rfl happlier hserved
      (hinherits.withObjects _).inApplier.hasOwnApply, ?_⟩
    rfl
  · cases hfinds

/-- The integer that a call ends in, if it does. -/
def integer? : EStateM.Result Fault (Machine × Host) HostValue → Option Int
  | .ok (.int i) _ => some i
  | _ => none

/-- What a call by name gives, and what a plain call of the function gives that the name means. -/
def bothCalls (name : HostValue) (s : Machine × Host) : Option Int × Option Int :=
  match interpreter.locate name s with
  | .ok ⟨_, .object r⟩ s₁ =>
    (integer? (interpreter.invoke name .none s),
      integer? (reported name
        (evaluator.call (.object r) .undefined #[.string (Utf16.ofString "undefined")]) s₁))
  | _ => (none, none)

/-- A function whose script has given it a method `apply` is not called by its name: that method is,
and the call gives what the method returns. -/
theorem own_apply_is_called : ∃ s found s₁ r,
    interpreter.locate (.ofString "main") s = .ok found s₁ ∧ found.function = .object r ∧
    integer? (interpreter.invoke (.ofString "main") .none s) = some 8 ∧
    integer? (reported (.ofString "main")
      (evaluator.call (.object r) .undefined #[.string (Utf16.ofString "undefined")]) s₁) =
        some 7 := by
  obtain ⟨s, hboth⟩ : ∃ s, bothCalls (.ofString "main") s = (some 8, some 7) :=
    ⟨stateAfter "function main(x)\x7breturn 7\x7d\nmain.apply = function()\x7breturn 8\x7d;",
      by decide +kernel⟩
  unfold bothCalls at hboth
  split at hboth
  · rename_i k r s₁ hlocate
    obtain ⟨hinvoke, hplain⟩ := Prod.mk.inj hboth
    exact ⟨s, _, s₁, r, hlocate, rfl, hinvoke, hplain⟩
  · cases hboth

end ScriptHost.Proofs.PlainCall
