import ScriptHost.Proofs.Applier
import ScriptHost.Proofs.NewObjects

/-!
# Functions of one parameter

A function of a script that has one parameter and gives the value of an expression.  Its call opens a
scope with the parameter alone, evaluates the expression there, and is over.
-/

namespace ScriptHost.Proofs.ParameterCalls

open Script Script.Eval
open ScriptHost.Proofs.Applier
open ScriptHost.Proofs.Evaluation

variable {σ : Type} {s s' : Machine × σ} {I : Interp σ} {host : Engine.HostCall σ} {c : Closure}
  {p : Name} {e : Expr} {r : Ref} {w : Value} {args : Array Value} {n line : Nat}

/-- What a function is that has one parameter and gives the value of an expression. -/
structure Computes (f : Function) (p : Name) (e : Expr) : Prop where
  kind : f.info.kind = .plain
  isGenerator : f.info.isGenerator = false
  isAsync : f.info.isAsync = false
  strict : f.info.strict = false
  usesArguments : f.info.usesArguments = false
  bindsName : f.info.bindsName = false
  hasLines : f.info.hasLines = false
  params : ∃ l, f.params = [(.name p l, none)]
  rest : f.rest = none
  declarations : f.declarations = []
  body : f.body = [.returning (some e)]

/-- The parameter and the expression of a function, if it has one of each. -/
def computation? : Function → Option (Name × Expr)
  | .mk i [(.name p _, none)] none [] [.returning (some e)] =>
    if (i.kind == .plain && !i.isGenerator && !i.isAsync && !i.strict && !i.usesArguments &&
        !i.bindsName && !i.hasLines) = true then some (p, e)
    else none
  | _ => none

theorem computes_of {f : Function} (h : computation? f = some (p, e)) : Computes f p e := by
  unfold computation? at h
  split at h
  · split at h
    · rename_i hall
      cases h
      simp only [Bool.and_eq_true, beq_iff_eq, Bool.not_eq_true'] at hall
      obtain ⟨⟨⟨⟨⟨⟨hkind, hgenerator⟩, hasync⟩, hstrict⟩, harguments⟩, hbinds⟩, hlines⟩ := hall
      exact ⟨hkind, hgenerator, hasync, hstrict, harguments, hbinds, hlines, ⟨_, rfl⟩, rfl, rfl, rfl⟩
    · cases h
  · cases h

/-! ## The call -/

/-- The scope of a call. -/
def callScope (r : Ref) (c : Closure) (p : Name) (v : Value) : Scope :=
  { bindings := #[Variable.mutableBinding p v], parent := some c.scope,
    call := some ⟨some (.object Intrinsic.globalObject.ref), r, .undefined, c.home⟩,
    holdsVariables := true }

/-- The state in the body of a call. -/
def inCall (r : Ref) (c : Closure) (p : Name) (v : Value) (s : Machine × σ) : Machine × σ :=
  opened (callScope r c p v) (within (Callable.frameOf r c.code.info) s)

/-- The site of the body of a call. -/
def callSite (s : Machine × σ) : Site := ⟨s.1.scopes.size, false, false⟩

/-- The parameter of a call with some arguments. -/
def given (args : Array Value) : Value := args.toList.headD .undefined

theorem enter_run (hf : Computes c.code p e) :
    Callable.enter I ⟨r, c, some (.object Intrinsic.globalObject.ref), .undefined⟩ args s =
      .ok (callSite s) (opened (callScope r c p (given args)) s) := by
  obtain ⟨l, hparams⟩ := hf.params
  have hbound : Callable.bindParameters I (callSite s) [(.name p l, none)] none args.toList
      (opened ⟨#[], some c.scope,
        some ⟨some (.object Intrinsic.globalObject.ref), r, .undefined, c.home⟩, true⟩ s) =
        .ok () (opened (callScope r c p (given args)) s) := by
    unfold Callable.bindParameters callSite
    rw [bind_ok (bind_opened (by simp [Variable.indexIn]))]
    rfl
  unfold Callable.enter
  simp only [hf.kind, hf.strict, hf.usesArguments, hparams, hf.rest, hf.declarations]
  rw [bind_ok (openScope_run _ s)]
  exact bind_ok hbound

/-- A call gives what the expression gives with the parameter in its reach. -/
theorem call_run (hr : (objectAt s.1 r).kind = .closure c) (hf : Computes c.code p e)
    (hroom : s.1.depth ≤ Engine.callLimit)
    (he : (Engine.interp host (n + 2)).evaluate (callSite s) e (inCall r c p (given args) s) =
      .ok w s') :
    (Engine.interp host (n + 4)).call (.object r) .undefined args s = .ok w (after s') := by
  have hbody : Callable.runBody (Engine.interp host (n + 3))
      ⟨r, c, some (.object Intrinsic.globalObject.ref), .undefined⟩ args
      (within (Callable.frameOf r c.code.info) s) = .ok w s' := by
    unfold Callable.runBody
    rw [bind_ok (enter_run hf)]
    dsimp only
    rw [hf.body]
    exact (resultOf_returning rfl).trans he
  have hclosure : Callable.callClosure (Engine.interp host (n + 3)) r c .undefined args s =
      .ok w (after s') := by
    unfold Callable.callClosure
    simp only [hf.kind, hf.isGenerator, hf.isAsync, hf.strict]
    change withFrame (Callable.frameOf r c.code.info) _ s = _
    rw [withFrame_run, hbody]
  change Engine.callValue (Engine.interp host (n + 3)) (.object r) .undefined args s = _
  unfold Engine.callValue
  rw [bind_ok (checkDepth_run hroom)]
  dsimp only
  rw [bind_ok (object_run r s)]
  simp only [hr]
  exact hclosure

/-! ## The body -/

theorem hasNoLines_inCall (hf : Computes c.code p e) (r : Ref) (v : Value) (s : Machine × σ) :
    ∀ f ∈ (inCall r c p v s).1.frames.head?, f.line = none := by
  rintro f hframe
  cases hframe
  unfold Callable.frameOf
  rw [hf.hasLines]
  rfl

theorem scope_inCall (r : Ref) (v : Value) (s : Machine × σ) :
    (inCall r c p v s).1.scopes[s.1.scopes.size]? = some (callScope r c p v) :=
  Array.getElem?_push_size

/-- The parameter as the body sees it. -/
theorem evaluate_parameter (hf : Computes c.code p e) (r : Ref) (v : Value) (s : Machine × σ) :
    (Engine.interp host (n + 1)).evaluate (callSite s) (.name p line) (inCall r c p v s) =
      .ok v (inCall r c p v s) := by
  change (reachLine line >>= fun _ => Variable.read (Engine.interp host n) s.1.scopes.size p) _ = _
  rw [bind_ok (reachLine_run (hasNoLines_inCall hf r v s) line)]
  refine read_binding (j := 0) (b := Variable.mutableBinding p v) (scope_inCall r v s) ?_ rfl rfl
  unfold Variable.indexIn callScope
  simp [Variable.mutableBinding, List.findIdx?_cons]

/-- A constant as the body of a function of the outermost scope sees it. -/
theorem evaluate_constant {k : Name} {v w : Value} (hf : Computes c.code p e) (hscope : c.scope = 0)
    (hk : k ≠ p) (h : HasConstant s.1 k w) (r : Ref) :
    (Engine.interp host (n + 1)).evaluate (callSite s) (.name k line) (inCall r c p v s) =
      .ok w (inCall r c p v s) := by
  obtain ⟨c₀, hc₀, houtermost⟩ := h.outermost
  have hfirst : (s.1.scopes.push (callScope r c p v))[0]? = some c₀ := by
    have hsize := (Array.getElem?_eq_some_iff.mp hc₀).1
    rw [Array.getElem?_push, if_neg (by omega)]
    exact hc₀
  have hinside : HasConstant (inCall r c p v s).1 k w :=
    ⟨⟨c₀, hfirst, houtermost⟩, h.direct, h.property⟩
  change (reachLine line >>= fun _ => Variable.read (Engine.interp host n) s.1.scopes.size k) _ = _
  rw [bind_ok (reachLine_run (hasNoLines_inCall hf r v s) line)]
  refine hinside.read_inside (scope_inCall r v s) (congrArg some hscope) ?_
  unfold Variable.indexIn callScope
  simp [Variable.mutableBinding, hk.symm]

end ScriptHost.Proofs.ParameterCalls
