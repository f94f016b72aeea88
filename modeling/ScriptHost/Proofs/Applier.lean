import ScriptHost.Instance.Invocation
import ScriptHost.Proofs.Evaluation

/-!
# What the applier does

A function is called through another one, which spreads a list over it: the method `apply` of the
function is read and called.  What is read is the function `apply` of the engine, unless the script
has put something else in its place.
-/

namespace ScriptHost.Proofs.Applier

open Script Script.Eval
open ScriptHost.Proofs.Evaluation

variable {σ : Type} {s : Machine × σ} {I : Interp σ}

/-! ## The text of the applier -/

/-- The first parameter of the applier. -/
def functionName : Name := Utf16.ofString "fn"

/-- The second parameter of the applier. -/
def listName : Name := Utf16.ofString "args"

/-- The method that the applier calls. -/
def applyName : Name := Utf16.ofString "apply"

theorem functionName_ne_listName : functionName ≠ listName := by decide

theorem functionName_ne_undefinedName : functionName ≠ undefinedName := by decide

theorem listName_ne_undefinedName : listName ≠ undefinedName := by decide

/-- Whether a function passes its second parameter to the method `apply` of its first. -/
def appliesFirst : Function → Bool
  | .mk i [(.name p _, none), (.name q _, none)] none []
      [.returning (some (.call (.member (.name p' _) k false _)
        [.item (.name u _), .item (.name q' _)] false _))] =>
    i.kind == .plain && !i.isGenerator && !i.isAsync && !i.strict && !i.usesArguments &&
      !i.bindsName && !i.hasLines && p == functionName && q == listName && p' == functionName &&
      k == applyName && u == undefinedName && q' == listName
  | _ => false

/-- What a function is that passes its second parameter to the method `apply` of its first. -/
structure AppliesFirst (f : Function) : Prop where
  kind : f.info.kind = .plain
  isGenerator : f.info.isGenerator = false
  isAsync : f.info.isAsync = false
  strict : f.info.strict = false
  usesArguments : f.info.usesArguments = false
  bindsName : f.info.bindsName = false
  hasLines : f.info.hasLines = false
  params : ∃ a b, f.params = [(.name functionName a, none), (.name listName b, none)]
  rest : f.rest = none
  declarations : f.declarations = []
  body : ∃ a b c d e, f.body =
    [.returning (some (.call (.member (.name functionName a) applyName false b)
      [.item (.name undefinedName c), .item (.name listName d)] false e))]

theorem appliesFirst_of {f : Function} (h : appliesFirst f = true) : AppliesFirst f := by
  unfold appliesFirst at h
  split at h
  · simp only [Bool.and_eq_true, beq_iff_eq, Bool.not_eq_true'] at h
    obtain ⟨⟨⟨⟨⟨⟨⟨⟨⟨⟨⟨⟨hkind, hgenerator⟩, hasync⟩, hstrict⟩, harguments⟩, hbinds⟩, hlines⟩, rfl⟩,
      rfl⟩, rfl⟩, rfl⟩, rfl⟩, rfl⟩ := h
    exact ⟨hkind, hgenerator, hasync, hstrict, harguments, hbinds, hlines, ⟨_, _, rfl⟩, rfl, rfl,
      ⟨_, _, _, _, _, rfl⟩⟩
  · cases h

/-- Whether a script is one function expression with a property. -/
def isOneFunction (p : Function → Bool) : Except SyntaxFault Program → Bool
  | .ok ⟨[], [.expression (.function f)], false, false⟩ => p f
  | _ => false

theorem function_of_isOneFunction {p : Function → Bool} {r : Except SyntaxFault Program}
    (h : isOneFunction p r = true) : ∃ f, r = .ok ⟨[], [.expression (.function f)], false, false⟩ ∧ p f = true := by
  unfold isOneFunction at h
  split at h
  · rename_i f
    exact ⟨f, rfl, h⟩
  · cases h

/-- The applier's text is that of a function that passes its list to the method `apply` of the
function that it is given. -/
theorem parse_applierSource :
    ∃ f, parseProgram Interpreter.applierSource false =
        .ok ⟨[], [.expression (.function f)], false, false⟩ ∧ AppliesFirst f := by
  have hread : isOneFunction appliesFirst (parseProgram Interpreter.applierSource false) = true := by
    decide +kernel
  obtain ⟨f, hparsed, hf⟩ := function_of_isOneFunction hread
  exact ⟨f, hparsed, appliesFirst_of hf⟩

/-! ## The call of the applier -/

/-- A function of the engine that is the applier. -/
structure IsApplier (m : Machine) (a : Ref) (c : Closure) : Prop where
  kind : (objectAt m a).kind = .closure c
  code : AppliesFirst c.code
  scope : c.scope = 0

variable {a r l : Ref} {c : Closure} {i : Nat}

/-- What a call of the applier binds. -/
def applierBindings (r l : Ref) : Array Binding :=
  #[Variable.mutableBinding functionName (.object r), Variable.mutableBinding listName (.object l)]

/-- The scope of a call of the applier. -/
def applierScope (a : Ref) (home : Option Ref) (r l : Ref) : Scope :=
  { bindings := applierBindings r l, parent := some 0,
    call := some ⟨some (.object Intrinsic.globalObject.ref), a, .undefined, home⟩,
    holdsVariables := true }

/-- The state in the body of the applier. -/
def inApplier (a : Ref) (c : Closure) (r l : Ref) (s : Machine × σ) : Machine × σ :=
  opened (applierScope a c.home r l) (within (Callable.frameOf a c.code.info) s)

/-- The applier is under way, in a scope, for a function and a list. -/
structure UnderWay (m : Machine) (i : Nat) (r l : Ref) : Prop
    extends HasConstant m undefinedName .undefined where
  scope : ∃ c, m.scopes[i]? = some c ∧ c.bindings = applierBindings r l ∧ c.parent = some 0
  line : ∀ f ∈ m.frames.head?, f.line = none

theorem underWay_inApplier (hc : AppliesFirst c.code)
    (h : HasConstant s.1 undefinedName .undefined) :
    UnderWay (inApplier a c r l s).1 s.1.scopes.size r l := by
  obtain ⟨c₀, hc₀, houtermost⟩ := h.outermost
  have hfirst : (s.1.scopes.push (applierScope a c.home r l))[0]? = some c₀ := by
    have hsize := (Array.getElem?_eq_some_iff.mp hc₀).1
    rw [Array.getElem?_push, if_neg (by omega)]
    exact hc₀
  refine ⟨⟨⟨c₀, hfirst, houtermost⟩, h.direct, h.property⟩, ?_, ?_⟩
  · exact ⟨applierScope a c.home r l, Array.getElem?_push_size, rfl, rfl⟩
  · rintro f ⟨⟩
    unfold Callable.frameOf
    rw [hc.hasLines]
    rfl

namespace UnderWay

variable {site : Site}

theorem read_function (h : UnderWay s.1 i r l) :
    Variable.read I i functionName s = .ok (.object r) s := by
  obtain ⟨c, hc, hbindings, -⟩ := h.scope
  refine read_binding (j := 0) (b := Variable.mutableBinding functionName (.object r)) hc ?_ ?_ rfl
  · unfold Variable.indexIn
    rw [hbindings]
    simp [applierBindings, Variable.mutableBinding, List.findIdx?_cons]
  · rw [hbindings]
    rfl

theorem read_list (h : UnderWay s.1 i r l) :
    Variable.read I i listName s = .ok (.object l) s := by
  obtain ⟨c, hc, hbindings, -⟩ := h.scope
  refine read_binding (j := 1) (b := Variable.mutableBinding listName (.object l)) hc ?_ ?_ rfl
  · unfold Variable.indexIn
    rw [hbindings]
    simp [applierBindings, Variable.mutableBinding, List.findIdx?_cons, functionName_ne_listName]
  · rw [hbindings]
    rfl

theorem read_undefined (h : UnderWay s.1 i r l) :
    Variable.read I i undefinedName s = .ok .undefined s := by
  obtain ⟨c, hc, hbindings, hparent⟩ := h.scope
  refine h.toHasConstant.read_inside hc hparent ?_
  unfold Variable.indexIn
  rw [hbindings]
  simp [applierBindings, Variable.mutableBinding, functionName_ne_undefinedName,
    listName_ne_undefinedName]

end UnderWay

/-! ## What the applier calls -/

/-- What the body of the applier does: it reads the method `apply` of a function, and calls what it
has read with the function as the receiver. -/
def throughApply (J : Interp σ) (r l : Ref) : Eval σ Value := do
  let g ← getProperty J r (.name applyName)
  J.call g (.object r) #[.undefined, .object l]

/-- What a call of the applier does. -/
def applied (J : Interp σ) (a : Ref) (c : Closure) (r l : Ref) : Eval σ Value := do
  Engine.checkDepth
  withFrame (Callable.frameOf a c.code.info) do
    let _ ← openScope (applierScope a c.home r l)
    throughApply J r l

theorem throughOptional_run (v : Value) (s : Machine × σ) :
    Expression.throughOptional false v s = .ok () s := rfl

theorem enter_applier (hc : AppliesFirst c.code) (hscope : c.scope = 0) :
    Callable.enter I ⟨a, c, some (.object Intrinsic.globalObject.ref), .undefined⟩
        #[.object r, .object l] s =
      .ok ⟨s.1.scopes.size, false, false⟩ (opened (applierScope a c.home r l) s) := by
  obtain ⟨p, q, hparams⟩ := hc.params
  have hbound : Callable.bindParameters I ⟨s.1.scopes.size, false, false⟩
      [(.name functionName p, none), (.name listName q, none)] none [.object r, .object l]
      (opened ⟨#[], some 0,
        some ⟨some (.object Intrinsic.globalObject.ref), a, .undefined, c.home⟩, true⟩ s) =
        .ok () (opened (applierScope a c.home r l) s) := by
    unfold Callable.bindParameters
    rw [bind_ok (bind_opened (by simp [Variable.indexIn]))]
    unfold Callable.bindParameters
    rw [bind_ok (bind_opened ?_)]
    · rfl
    · simp [Variable.indexIn, Variable.mutableBinding, functionName_ne_listName]
  unfold Callable.enter
  simp only [hc.kind, hc.strict, hc.usesArguments, hparams, hc.rest, hc.declarations, hscope]
  rw [bind_ok (openScope_run _ s)]
  exact bind_ok hbound

section Levels

variable {host : Engine.HostCall σ} {n : Nat} {site : Site}

theorem evaluate_name {k : Name} {v : Value} {line : Nat} (h : UnderWay s.1 site.scope r l)
    (hread : Variable.read (Engine.interp host n) site.scope k s = .ok v s) :
    (Engine.interp host (n + 1)).evaluate site (.name k line) s = .ok v s := by
  change (reachLine line >>= fun _ => Variable.read (Engine.interp host n) site.scope k) s = _
  rw [bind_ok (reachLine_run h.line line)]
  exact hread

theorem elements_applier {a b : Nat} (h : UnderWay s.1 site.scope r l) :
    Expression.elements (Engine.interp host (n + 1)) site
      [.item (.name undefinedName a), .item (.name listName b)] #[] s =
        .ok #[.undefined, .object l] s := by
  unfold Expression.elements
  rw [bind_ok (evaluate_name h h.read_undefined)]
  unfold Expression.elements
  rw [bind_ok (evaluate_name h h.read_list)]
  rfl

theorem reference_apply {a b : Nat} (h : UnderWay s.1 site.scope r l) :
    Expression.reference (Engine.interp host (n + 1)) site
        (.member (.name functionName a) applyName false b) s =
      (getProperty (Engine.interp host (n + 1)) r (.name applyName) >>= fun g =>
        pure (.object r, g)) s := by
  unfold Expression.reference
  rw [bind_ok (evaluate_name h h.read_function), bind_ok (throughOptional_run _ _),
    bind_ok (reachLine_run h.line b)]
  rfl

/-- The expression of the applier's body, as long as reading the method leaves the applier's
variables alone. -/
theorem call_throughApply {p q t u v : Nat} (h : UnderWay s.1 site.scope r l)
    (hread : ∀ g s', getProperty (Engine.interp host (n + 1)) r (.name applyName) s = .ok g s' →
      UnderWay s'.1 site.scope r l) :
    Expression.call (Engine.interp host (n + 1)) site
        (.member (.name functionName p) applyName false q)
        [.item (.name undefinedName t), .item (.name listName u)] false v s =
      throughApply (Engine.interp host (n + 1)) r l s := by
  have hreference : Expression.reference (Engine.interp host (n + 1)) site
        (.member (.name functionName p) applyName false q) s =
      (getProperty (Engine.interp host (n + 1)) r (.name applyName) >>= fun g =>
        pure (.object r, g)) s := reference_apply h
  unfold Expression.call throughApply
  cases hget : getProperty (Engine.interp host (n + 1)) r (.name applyName) s with
  | error e s' =>
      rw [bind_error hget] at hreference
      rw [bind_error hreference, bind_error hget]
  | ok g s' =>
      have h' := hread g s' hget
      rw [bind_ok hget] at hreference
      rw [bind_ok hreference, bind_ok hget]
      dsimp only
      rw [bind_ok (throughOptional_run _ _), bind_ok (elements_applier h'),
        bind_ok (reachLine_run h'.line v)]
      rfl

/-- A body that is one `return` gives the value of its expression. -/
theorem resultOf_returning {e : Expr} {x : Eval σ Value}
    (he : (Engine.interp host (n + 2)).evaluate site e s = x s) :
    (Callable.executeAll (Engine.interp host (n + 3)) site [.returning (some e)] >>= fun c =>
      pure (Callable.resultOf c)) s = x s := by
  have hexecute : (Engine.interp host (n + 3)).execute site (.returning (some e)) s =
      (x >>= fun v => pure (.returned v)) s := bind_congr he
  unfold Callable.executeAll
  cases hx : x s with
  | ok v s' =>
      rw [bind_ok hx] at hexecute
      exact bind_ok (a := Completion.returned v) ((bind_ok hexecute).trans rfl)
  | error e s' =>
      rw [bind_error hx] at hexecute
      exact bind_error (bind_error hexecute)

theorem runBody_applier (hc : AppliesFirst c.code) (hscope : c.scope = 0)
    (h : HasConstant s.1 undefinedName .undefined)
    (hread : ∀ g s', getProperty (Engine.interp host (n + 1)) r (.name applyName)
      (inApplier a c r l s) = .ok g s' → UnderWay s'.1 s.1.scopes.size r l) :
    Callable.runBody (Engine.interp host (n + 3))
        ⟨a, c, some (.object Intrinsic.globalObject.ref), .undefined⟩ #[.object r, .object l]
        (within (Callable.frameOf a c.code.info) s) =
      throughApply (Engine.interp host (n + 1)) r l (inApplier a c r l s) := by
  obtain ⟨p, q, t, u, v, hbody⟩ := hc.body
  unfold Callable.runBody
  rw [bind_ok (enter_applier hc hscope)]
  dsimp only
  rw [hbody]
  exact resultOf_returning (call_throughApply (underWay_inApplier hc h) hread)

/-- Calling the applier with a function and a list is reading the method `apply` of the function
and calling it. -/
theorem call_applier (ha : IsApplier s.1 a c) (h : HasConstant s.1 undefinedName .undefined)
    (hread : ∀ g s', getProperty (Engine.interp host (n + 1)) r (.name applyName)
      (inApplier a c r l s) = .ok g s' → UnderWay s'.1 s.1.scopes.size r l) :
    (Engine.interp host (n + 4)).call (.object a) .undefined #[.object r, .object l] s =
      applied (Engine.interp host (n + 1)) a c r l s := by
  change Engine.callValue (Engine.interp host (n + 3)) (.object a) .undefined _ s = _
  unfold Engine.callValue applied
  cases hdepth : Engine.checkDepth s with
  | error e s' => rw [bind_error hdepth, bind_error hdepth]
  | ok u s' =>
      obtain rfl := checkDepth_ok hdepth
      rw [bind_ok hdepth, bind_ok hdepth]
      dsimp only
      rw [bind_ok (object_run a s')]
      simp only [ha.kind]
      unfold Callable.callClosure
      simp only [ha.code.kind, ha.code.isGenerator, ha.code.isAsync, ha.code.strict]
      refine withFrame_congr ?_
      exact (runBody_applier ha.code ha.scope h hread).trans (bind_ok rfl).symm

/-! ## The function `apply` of the engine -/

/-- The function `apply` of the engine. -/
def IsApply (m : Machine) (g : Ref) : Prop :=
  (objectAt m g).kind = .native (.functionMethod .apply)

/-- One call of a function without a receiver, as the function `apply` of the engine makes it. -/
def calledPlainly (J : Interp σ) (g r : Ref) (values : Array Value) : Eval σ Value := do
  Engine.checkDepth
  withFrame (Engine.nativeFrame g) (J.call (.object r) .undefined values)

variable {g : Ref} {values : Array Value} {b : Bool}

theorem listItems_run (hl : (objectAt s.1 l).kind = .array values values.size b) :
    listItems I (.object l) s = .ok values s := by
  unfold listItems
  dsimp only
  rw [bind_ok (object_run l s)]
  simp only [hl]
  rfl

theorem needCallable_run (hr : (objectAt s.1 r).isCallable = true) :
    Library.needCallable (.object r) s = .ok () s := by
  have hcallable : isCallable (.object r) s = .ok true s := by
    unfold isCallable
    dsimp only
    rw [bind_ok (object_run r s), hr]
    rfl
  unfold Library.needCallable
  rw [bind_ok hcallable]
  rfl

theorem functionMethod_apply (hr : (objectAt s.1 r).isCallable = true)
    (hl : (objectAt s.1 l).kind = .array values values.size b) :
    Library.functionMethod I .apply (.object r) #[.undefined, .object l] s =
      I.call (.object r) .undefined values s := by
  unfold Library.functionMethod
  dsimp only
  rw [bind_ok (needCallable_run hr)]
  exact bind_ok (listItems_run hl)

/-- The function `apply` of the engine calls its receiver with the items of a list. -/
theorem call_apply (hg : IsApply s.1 g) (hr : (objectAt s.1 r).isCallable = true)
    (hl : (objectAt s.1 l).kind = .array values values.size b) :
    (Engine.interp host (n + 1)).call (.object g) (.object r) #[.undefined, .object l] s =
      calledPlainly (Engine.interp host n) g r values s := by
  change Engine.callValue (Engine.interp host n) (.object g) (.object r) _ s = _
  unfold Engine.callValue calledPlainly
  cases hdepth : Engine.checkDepth s with
  | error e s' => rw [bind_error hdepth, bind_error hdepth]
  | ok u s' =>
      obtain rfl := checkDepth_ok hdepth
      have hkind : (objectAt s'.1 g).kind = .native (.functionMethod .apply) := hg
      rw [bind_ok hdepth, bind_ok hdepth]
      dsimp only
      rw [bind_ok (object_run g s')]
      simp only [hkind]
      exact withFrame_congr (functionMethod_apply (s := within (Engine.nativeFrame g) s') hr hl)

end Levels

end ScriptHost.Proofs.Applier
