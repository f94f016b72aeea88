import ScriptHost.Proofs.PropertyChains
import ScriptHost.Proofs.ReferenceTrees
import ScriptHost.Proofs.ScriptRuns

/-!
# What names are bound to

A name means the lexical variable of the outermost scope, or else the property of the global object.
The scripts that ask for what a name is bound to, and for its type, give that and change nothing.
-/

namespace ScriptHost.Proofs.Bindings

open Script Script.Eval ScriptEngine
open ScriptHost.Proofs.DataTexts
open ScriptHost.Proofs.Evaluation
open ScriptHost.Proofs.ExpressionScripts
open ScriptHost.Proofs.LookupTexts
open ScriptHost.Proofs.PropertyChains
open ScriptHost.Proofs.ReferenceTrees
open ScriptHost.Proofs.ScriptRuns

variable {σ : Type} {s : Machine × σ} {I : Interp σ} {host : Engine.HostCall σ} {m m' : Machine}
  {n : Name} {x : Option Value} {v : Value} {r : Ref} {d : Nat}

/-- The global object. -/
abbrev globalRef : Ref := Intrinsic.globalObject.ref

/-- What a name is bound to: the value of the outermost lexical variable, or else what the global
object has, by itself or from its prototypes. -/
inductive Binds (m : Machine) (n : Name) : Option Value → Prop
  | lexical {c : Scope} {j : Nat} {b : Binding} {v : Value} (hc : m.scopes[0]? = some c)
    (hj : Variable.indexIn c n = some j) (hb : c.bindings[j]? = some b) (hv : b.value = some v) :
    Binds m n (some v)
  | property {c : Scope} {x : Option Value} (hc : m.scopes[0]? = some c) (hparent : c.parent = none)
    (hn : Variable.indexIn c n = none) (hx : Finds m (.name n) globalRef x) : Binds m n x

/-- A name is bound as no lexical variable. -/
def IsNotLexical (m : Machine) (n : Name) : Prop :=
  ∀ c, m.scopes[0]? = some c → Variable.indexIn c n = none

theorem Binds.finds (h : Binds m n x) (hn : IsNotLexical m n) : Finds m (.name n) globalRef x := by
  cases h with
  | lexical hc hj _ _ =>
      rw [hn _ hc] at hj
      cases hj
  | property _ _ _ hx => exact hx

theorem Binds.extends (h : Binds m n x) (hm : Extends m m') : Binds m' n x := by
  cases h with
  | lexical hc hj hb hv => exact .lexical (by rw [hm.scopes]; exact hc) hj hb hv
  | property hc hparent hn hx =>
      exact .property (by rw [hm.scopes]; exact hc) hparent hn (hm.finds hx)

/-- What a name is bound to, if that can be told without running code. -/
def bound? (m : Machine) (n : Name) : Option (Option Value) :=
  match m.scopes[0]? with
  | none => none
  | some c =>
    match Variable.indexIn c n, c.parent with
    | some j, _ => (c.bindings[j]?.bind (·.value)).map some
    | none, none => found? m (.name n) m.objects.size globalRef
    | none, some _ => none

theorem binds_of_bound (h : bound? m n = some x) : Binds m n x := by
  unfold bound? at h
  split at h
  · cases h
  · rename_i hc
    split at h
    · rename_i hj
      obtain ⟨v, hv, rfl⟩ := Option.map_eq_some_iff.mp h
      obtain ⟨b, hb, hvalue⟩ := Option.bind_eq_some_iff.mp hv
      exact .lexical hc hj hb hvalue
    · rename_i hn hparent
      exact .property hc hparent hn (finds_of_found h)
    · cases h

/-! ## Reading -/

theorem Binds.read? (h : Binds s.1 n x) : Variable.read? I 0 n s = .ok x s := by
  cases h with
  | lexical hc hj hb hv => exact read?_found (findFrom_here hc hj) hc hb hv
  | property hc hparent hn hx =>
      rw [read?_global (findFrom_global hc hn hparent)]
      unfold Variable.readGlobal?
      rw [bind_ok hx.hasProperty]
      cases x with
      | none => rfl
      | some v =>
          change (getProperty I _ _ >>= _) s = _
          rw [bind_ok hx.getProperty]
          rfl

theorem Binds.read (h : Binds s.1 n (some v)) : Variable.read I 0 n s = .ok v s := by
  unfold Variable.read
  rw [bind_ok h.read?]
  rfl

/-- What `typeof` says of a value. -/
def kindOf (m : Machine) : Value → String
  | .object r => if (objectAt m r).isCallable then "function" else "object"
  | v => v.primitiveTypeName

theorem typeName_run (v : Value) (s : Machine × σ) :
    Operator.typeName v s = .ok (kindOf s.1 v) s := by
  cases v with
  | object r =>
      change (if (objectAt s.1 r).isCallable = true then pure "function"
        else pure "object" : Eval σ String) s = _
      cases hcallable : (objectAt s.1 r).isCallable with
      | false =>
          simp only [kindOf, hcallable]
          rfl
      | true =>
          simp only [kindOf, hcallable]
          rfl
  | _ => rfl

/-! ## Questions as expressions -/

/-- The state is one in which a script has no lines to tell apart. -/
def HasNoLines (s : Machine × σ) : Prop := ∀ f ∈ s.1.frames.head?, f.line = none

theorem hasNoLines_inScript (s : Machine × σ) : HasNoLines (inScript s) := by
  rintro f hf
  cases hf
  rfl

theorem extends_inScript (s : Machine × σ) : Extends s.1 (inScript s).1 :=
  ⟨fun _ h => ⟨h, rfl⟩, rfl⟩

theorem evaluate_variable (hlines : HasNoLines s) (h : Binds s.1 n (some v)) :
    (Engine.interp host (d + 1)).evaluate scriptSite (.name n 1) s = .ok v s := by
  change (Eval.reachLine 1 >>= fun _ => Variable.read _ 0 n) s = _
  rw [bind_ok (reachLine_run hlines 1)]
  exact h.read

theorem evaluate_typeofVariable (hlines : HasNoLines s) (h : Binds s.1 n x) :
    (Engine.interp host (d + 1)).evaluate scriptSite (.typeOf (.name n 1)) s =
      .ok (.ofString (kindOf s.1 (x.getD .undefined))) s := by
  change (Eval.reachLine 1 >>= fun _ => Variable.read? _ 0 n >>= fun y =>
    Operator.typeName (y.getD .undefined) >>= fun k => pure (Value.ofString k)) s = _
  rw [bind_ok (reachLine_run hlines 1), bind_ok h.read?, bind_ok (typeName_run _ s)]
  rfl

/-- The name of the global object means an object. -/
abbrev NamesObject (m : Machine) (r : Ref) : Prop := Binds m globalName (some (.object r))

/-- The name of the global object means the global object. -/
abbrev NamesGlobal (m : Machine) : Prop := NamesObject m globalRef

/-- The expression that refers to a key gives what the object has under the key that the name of the
global object means. -/
theorem evaluate_reference {key : Text} (hlines : HasNoLines s) (hglobal : NamesObject s.1 r)
    (h : Finds s.1 (.name (Utf16.ofText key)) r x) :
    (Engine.interp host (d + 2)).evaluate scriptSite (referenceTree key) s =
      .ok (x.getD .undefined) s := by
  change (Expression.reference (Engine.interp host (d + 1)) scriptSite (referenceTree key) >>= fun y =>
    pure y.2) s = _
  have href : Expression.reference (Engine.interp host (d + 1)) scriptSite (referenceTree key) s =
      .ok (.object r, x.getD .undefined) s := by
    have hbase := @evaluate_variable _ _ host _ _ d hlines hglobal
    have hthrough : Expression.throughOptional false (.object r) s = .ok () s := rfl
    have hkey : (Engine.interp host (d + 1)).evaluate scriptSite
        (.literal (.string (Utf16.ofText key))) s = .ok (.string (Utf16.ofText key)) s := rfl
    have hto : toKey (Engine.interp host (d + 1)) (.string (Utf16.ofText key)) s =
        .ok (.name (Utf16.ofText key)) s := rfl
    have hmember : getMember (Engine.interp host (d + 1)) (.object r)
        (.name (Utf16.ofText key)) s = .ok (x.getD .undefined) s := h.getProperty
    unfold referenceTree Expression.reference
    rw [bind_ok hbase, bind_ok hthrough, bind_ok hkey, bind_ok (reachLine_run hlines 1), bind_ok hto,
      bind_ok hmember]
    rfl
  rw [bind_ok href]
  rfl

theorem evaluate_typeofReference {key : Text} (hlines : HasNoLines s) (hglobal : NamesGlobal s.1)
    (h : Finds s.1 (.name (Utf16.ofText key)) globalRef x) :
    (Engine.interp host (d + 3)).evaluate scriptSite (.typeOf (referenceTree key)) s =
      .ok (.ofString (kindOf s.1 (x.getD .undefined))) s := by
  change ((Engine.interp host (d + 2)).evaluate scriptSite (referenceTree key) >>= fun v =>
    Operator.typeName v >>= fun k => pure (Value.ofString k)) s = _
  rw [bind_ok (evaluate_reference hlines hglobal h), bind_ok (typeName_run _ s)]
  rfl

/-! ## Questions as scripts -/

theorem below_eq : ∃ d, below = d + 3 := ⟨below - 3, by decide⟩

section Host

variable {s : Machine × Host} {t : Text} {e : Expr} {w : Passed Value}

/-- A script whose expression leaves the state as it is gives the value of the expression, and
nothing else happens. -/
theorem run_quiet (hclean : IsClean t) (hparse : parseProgram t false = .ok (expressionProgram e))
    (he : (Engine.interp hostCall below).evaluate scriptSite e (inScript s) = .ok v (inScript s))
    (hpassed : passed v = .ok w) : interpreter.run t s = .ok w s :=
  (run_evaluated hclean hparse he hpassed).trans (by rw [leftScript_inScript])

/-- What `typeof` can say. -/
def kindNames : List String :=
  ["function", "object", "undefined", "boolean", "number", "string", "bigint", "symbol"]

theorem kindOf_mem (m : Machine) (v : Value) : kindOf m v ∈ kindNames := by
  cases v with
  | object r => cases hcallable : (objectAt m r).isCallable <;> simp [kindOf, hcallable, kindNames]
  | _ => simp [kindOf, Value.primitiveTypeName, kindNames]

theorem hostText_kind : ∀ k ∈ kindNames,
    (hostText (Utf16.ofString k)).toOption = some (Text.ofString k) := by decide +kernel

/-- The type of a value, as a host text. -/
def typeText (m : Machine) (v : Value) : Text := Text.ofString (kindOf m v)

theorem passed_kind (m : Machine) (v : Value) :
    passed (.ofString (kindOf m v)) = .ok (.plain (.str (typeText m v))) := by
  have hshown := hostText_kind _ (kindOf_mem m v)
  cases htext : hostText (Utf16.ofString (kindOf m v)) with
  | error f =>
      rw [htext] at hshown
      cases hshown
  | ok t =>
      rw [htext] at hshown
      obtain rfl : t = typeText m v := Option.some.inj hshown
      change (hostText _ >>= fun t => Except.ok (Passed.plain (.str t))) = _
      rw [htext]
      rfl

/-- A script that asks for the type of a key of the global object. -/
theorem run_typeofReference {key : Text} (hglobal : NamesGlobal s.1)
    (h : Finds s.1 (.name (Utf16.ofText key)) globalRef x) :
    interpreter.run ("typeof " ++ reference key) s =
      .ok (.plain (.str (typeText s.1 (x.getD .undefined)))) s := by
  obtain ⟨d, hd⟩ := below_eq
  have hextends := extends_inScript s
  refine run_quiet ((isClean_word "typeof " (Scanning.forall_of_all (by decide))).append
    (isClean_reference key)) (parse_typeofReference key) ?_ (passed_kind s.1 _)
  rw [hd]
  exact evaluate_typeofReference (hasNoLines_inScript s) (hglobal.extends hextends)
    (hextends.finds h)

/-- What a script gives that refers to a key. -/
theorem runScript_reference {key : Text} (hglobal : NamesObject s.1 r)
    (h : Finds s.1 (.name (Utf16.ofText key)) r x) :
    Statement.runScript evaluator (reference key) s = .ok (x.getD .undefined) s := by
  obtain ⟨d, hd⟩ := below_eq
  have hextends := extends_inScript s
  have he := @evaluate_reference _ _ hostCall _ _ (d + 1) _ (hasNoLines_inScript s)
    (hglobal.extends hextends) (hextends.finds h)
  rw [evaluator_below, hd]
  exact (runScript_evaluated (parse_reference key) he).trans (by rw [leftScript_inScript])

/-- A script that refers to a key of the global object. -/
theorem run_reference {key : Text} (hglobal : NamesGlobal s.1)
    (h : Finds s.1 (.name (Utf16.ofText key)) globalRef x)
    (hpassed : passed (x.getD .undefined) = .ok w) :
    interpreter.run (reference key) s = .ok w s := by
  obtain ⟨d, hd⟩ := below_eq
  have hextends := extends_inScript s
  refine run_quiet (isClean_reference key) (parse_reference key) ?_ hpassed
  rw [hd]
  exact evaluate_reference (hasNoLines_inScript s) (hglobal.extends hextends) (hextends.finds h)

/-- A script that asks for the type of a variable. -/
theorem run_typeofVariable (hclean : IsClean t)
    (hparse : parseProgram ("typeof " ++ t) false =
      .ok (expressionProgram (.typeOf (variableTree t))))
    (h : Binds s.1 (Utf16.ofText t) x) :
    interpreter.run ("typeof " ++ t) s = .ok (.plain (.str (typeText s.1 (x.getD .undefined)))) s := by
  obtain ⟨d, hd⟩ := below_eq
  refine run_quiet ((isClean_word "typeof " (Scanning.forall_of_all (by decide))).append hclean) hparse ?_
    (passed_kind s.1 _)
  rw [hd]
  exact evaluate_typeofVariable (hasNoLines_inScript s) (h.extends (extends_inScript s))

/-- A script that is a variable. -/
theorem run_variable (hclean : IsClean t)
    (hparse : parseProgram t false = .ok (expressionProgram (variableTree t)))
    (h : Binds s.1 (Utf16.ofText t) (some v)) (hpassed : passed v = .ok w) :
    interpreter.run t s = .ok w s := by
  obtain ⟨d, hd⟩ := below_eq
  refine run_quiet hclean hparse ?_ hpassed
  rw [hd]
  exact evaluate_variable (hasNoLines_inScript s) (h.extends (extends_inScript s))

end Host

end ScriptHost.Proofs.Bindings
