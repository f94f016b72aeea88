import ScriptHost.Instance.Construction
import ScriptHost.Proofs.Applier
import ScriptHost.Proofs.DataValues
import ScriptHost.Proofs.NewObjects
import ScriptHost.Proofs.SameTrees

/-!
# What the bridge makes

The bridge is given a function of the host, and makes a function of the script of it: one that
writes its arguments as a text, calls what the bridge was given with it, and reads the reply.
-/

namespace ScriptHost.Proofs.Bridge

open Script Script.Eval
open ScriptHost.Proofs.Applier
open ScriptHost.Proofs.DataValues
open ScriptHost.Proofs.Evaluation
open ScriptHost.Proofs.NewObjects
open ScriptHost.Proofs.SameTrees

variable {σ : Type} {s s' : Machine × σ} {I : Interp σ} {host : Engine.HostCall σ} {site : Site}
  {n id : Nat} {r b raw j : Ref} {c : Closure} {v p : Value}

/-! ## The text of the bridge -/

/-- The parameter of the bridge. -/
def rawName : Name := Utf16.ofString "raw"

/-- The variable for the reply of the host. -/
def replyName : Name := Utf16.ofString "reply"

/-- The object that reads and writes data. -/
def jsonName : Name := Utf16.ofString "JSON"

/-- The method that reads data. -/
def parseName : Name := Utf16.ofString "parse"

/-- A body that asks the host first: the line it stands on, the expression of what is told to the
host, and the statements that follow. -/
structure Telling where
  line : Nat
  payload : Expr
  rest : List Stmt

namespace Telling

/-- The call of what was captured. -/
def question (t : Telling) : Expr :=
  .call (.name rawName t.line) [.item t.payload] false t.line

/-- The call that reads the reply. -/
def answer (t : Telling) : Expr :=
  .call (.member (.name jsonName t.line) parseName false t.line) [.item t.question] false t.line

/-- The statements of the body. -/
def body (t : Telling) : List Stmt :=
  .declare .var [(.name replyName t.line, some t.answer)] :: t.rest

end Telling

/-- How a function asks the host first, if it does. -/
def telling? : Function → Option Telling
  | .mk i [] none [.var d] (.declare .var [(.name d' l₁, some (.call
      (.member (.name k l₂) m false l₃) [.item (.call (.name w l₄) [.item payload] false l₅)]
      false l₆))] :: rest) =>
    if (i.kind == .plain && !i.isGenerator && !i.isAsync && !i.strict && i.usesArguments &&
        !i.bindsName && d == replyName && d' == replyName && k == jsonName && m == parseName &&
        w == rawName && [l₂, l₃, l₄, l₅, l₆].all (· == l₁)) = true then some ⟨l₁, payload, rest⟩
    else none
  | _ => none

/-- What a function is that asks the host first. -/
structure Tells (f : Function) (t : Telling) : Prop where
  kind : f.info.kind = .plain
  isGenerator : f.info.isGenerator = false
  isAsync : f.info.isAsync = false
  strict : f.info.strict = false
  usesArguments : f.info.usesArguments = true
  bindsName : f.info.bindsName = false
  params : f.params = []
  rest : f.rest = none
  declarations : f.declarations = [.var replyName]
  body : f.body = t.body

theorem tells_of {f : Function} {t : Telling} (h : telling? f = some t) : Tells f t := by
  unfold telling? at h
  split at h
  · split at h
    · rename_i hall
      cases h
      simp only [Bool.and_eq_true, beq_iff_eq, Bool.not_eq_true', List.all_cons, List.all_nil,
        Bool.and_true] at hall
      obtain ⟨⟨⟨⟨⟨⟨⟨⟨⟨⟨⟨hkind, hgenerator⟩, hasync⟩, hstrict⟩, harguments⟩, hbinds⟩, rfl⟩, rfl⟩,
        rfl⟩, rfl⟩, rfl⟩, rfl, rfl, rfl, rfl, rfl⟩ := hall
      exact ⟨hkind, hgenerator, hasync, hstrict, harguments, hbinds, rfl, rfl, rfl, rfl⟩
    · cases h
  · cases h

/-- How the function that a function makes asks the host first, if it does and has captured the
parameter. -/
def bridge? : Function → Option Telling
  | .mk i [(.name w _, none)] none [] [.returning (some (.function f))] =>
    if (i.kind == .plain && !i.isGenerator && !i.isAsync && !i.strict && !i.usesArguments &&
        w == rawName) = true then telling? f
    else none
  | _ => none

/-- What a function is that makes one which asks the host first. -/
structure Bridges (f : Function) (t : Telling) : Prop where
  kind : f.info.kind = .plain
  isGenerator : f.info.isGenerator = false
  isAsync : f.info.isAsync = false
  strict : f.info.strict = false
  usesArguments : f.info.usesArguments = false
  params : ∃ l, f.params = [(.name rawName l, none)]
  rest : f.rest = none
  declarations : f.declarations = []
  body : ∃ g, f.body = [.returning (some (.function g))] ∧ telling? g = some t

theorem bridges_of {f : Function} {t : Telling} (h : bridge? f = some t) : Bridges f t := by
  unfold bridge? at h
  split at h
  · split at h
    · rename_i hall
      simp only [Bool.and_eq_true, beq_iff_eq, Bool.not_eq_true'] at hall
      obtain ⟨⟨⟨⟨⟨hkind, hgenerator⟩, hasync⟩, hstrict⟩, harguments⟩, rfl⟩ := hall
      exact ⟨hkind, hgenerator, hasync, hstrict, harguments, ⟨_, rfl⟩, rfl, rfl, _, rfl, h⟩
    · cases h
  · cases h

/-! ## The tree of the bridge -/

/-- The arguments of a call as a list, and that as a text. -/
def writtenArguments (line : Nat) : Expr :=
  let array : Expr := .name (Utf16.ofString "Array") line
  let method : Expr := .member (.member array (Utf16.ofString "prototype") false line)
    (Utf16.ofString "slice") false line
  .call (.member (.name jsonName line) (Utf16.ofString "stringify") false line)
    [.item (.call (.member method (Utf16.ofString "call") false line)
      [.item (.name (Utf16.ofString "arguments") line)] false line)] false line

/-- The test for a fault, and the error that it is thrown as. -/
def throwsFault : Stmt :=
  let own : Expr := .member (.member (.name (Utf16.ofString "Object") 5)
    (Utf16.ofString "prototype") false 5) (Utf16.ofString "hasOwnProperty") false 5
  let test : Expr := .call (.member own (Utf16.ofString "call") false 5)
    [.item (.name replyName 5), .item (.literal (.string (Utf16.ofString "error")))] false 5
  let message : Expr := .member (.name replyName 6) (Utf16.ofString "error") false 6
  .conditional test (.block []
    [.throwing (.construct (.name (Utf16.ofString "Error") 6) [.item message] 6) 6]) none

/-- How the functions that the bridge makes ask the host. -/
def asking : Telling where
  line := 4
  payload := writtenArguments 4
  rest := [throwsFault,
    .returning (some (.member (.name replyName 8) (Utf16.ofString "value") false 8))]

deriving instance DecidableEq for FunctionInfo

/-- What is known of a function that the bridge makes, with its source. -/
def askingInfo (source : Text) : FunctionInfo :=
  { name := none, kind := .plain, isGenerator := false, isAsync := false, strict := false, arity := 0,
    usesArguments := true, bindsName := false, source, line := 3, hasLines := true }

/-- What is known of the bridge, with its source. -/
def bridgeInfo (source : Text) : FunctionInfo :=
  { name := none, kind := .plain, isGenerator := false, isAsync := false, strict := false, arity := 1,
    usesArguments := false, bindsName := false, source, line := 2, hasLines := true }

/-- The script that gives a function to the global of the bridge. -/
def givenProgram (f : Function) : Program :=
  ⟨[], [.expression (.assign (.member (.name (Utf16.ofString "globalThis") 2)
    (Utf16.ofText Interpreter.bridgeName) false 2) (.function f))], false, true⟩

/-- The bridge, with its source and that of the functions that it makes. -/
def bridgeWith (outer inner : Text) : Function :=
  .mk (bridgeInfo outer) [(.name rawName 2, none)] none []
    [.returning (some (.function (.mk (askingInfo inner) [] none [.var replyName] asking.body)))]

/-- The sources of the function that a script gives to a global and of the one that it makes. -/
def sourcesOf : Except SyntaxFault Program → Text × Text
  | .ok ⟨_, [.expression (.assign _ (.function (.mk i _ _ _ [.returning (some (.function g))])))], _, _⟩ =>
    (i.source, g.info.source)
  | _ => ([], [])

/-- The bridge. Its sources are what the reader cuts out of the text. -/
def bridgeFunction : Function :=
  let sources := sourcesOf (parseProgram Interpreter.bridgeSource false)
  bridgeWith sources.1 sources.2

theorem bridges_bridgeFunction : Bridges bridgeFunction asking where
  kind := rfl
  isGenerator := rfl
  isAsync := rfl
  strict := rfl
  usesArguments := rfl
  params := ⟨2, rfl⟩
  rest := rfl
  declarations := rfl
  body := ⟨_, rfl, rfl⟩

theorem ofString_append (a b : String) :
    Text.ofString (a ++ b) = Text.ofString a ++ Text.ofString b := by
  simp [Text.ofString]

theorem ofString_ofList (cs : List Char) :
    Text.ofString (String.ofList cs) = cs.map CodePoint.ofChar := by
  simp [Text.ofString]

/-- Whether a script gives the bridge to its global, whatever its sources are. -/
def isBridging : Except SyntaxFault Program → Bool
  | .ok ⟨[], [.expression (.assign (.member (.name n l) k false l') (.function (.mk i
      [(.name w m, none)] none [] [.returning (some (.function (.mk j [] none [.var d] b)))])))],
      false, true⟩ =>
    n == Utf16.ofString "globalThis" && l == 2 && k == Utf16.ofText Interpreter.bridgeName && l' == 2 &&
      { i with source := [] } == bridgeInfo [] && w == rawName && m == 2 &&
      { j with source := [] } == askingInfo [] && d == replyName && b.isEqv asking.body (sameStmt 10)
  | _ => false

theorem bridges_of_isBridging {r : Except SyntaxFault Program} (h : isBridging r = true) :
    r = .ok (givenProgram (bridgeWith (sourcesOf r).1 (sourcesOf r).2)) := by
  unfold isBridging at h
  split at h
  · rename_i n l k l' i w m j d b
    simp only [Bool.and_eq_true, beq_iff_eq] at h
    obtain ⟨⟨⟨⟨⟨⟨⟨⟨⟨rfl, rfl⟩, rfl⟩, rfl⟩, houter⟩, rfl⟩, rfl⟩, hinner⟩, rfl⟩, hbody⟩ := h
    have hi : bridgeInfo i.source = i := by rw [show bridgeInfo i.source = { bridgeInfo [] with source := i.source } from rfl, ← houter]
    have hj : askingInfo j.source = j := by rw [show askingInfo j.source = { askingInfo [] with source := j.source } from rfl, ← hinner]
    rw [eq_of_sameStmts hbody]
    simp only [sourcesOf, givenProgram, bridgeWith, Function.info, hi, hj]
  · cases h

/-- The text of the bridge is read as its tree. -/
theorem parse_bridgeSource :
    parseProgram Interpreter.bridgeSource false = .ok (givenProgram bridgeFunction) := by
  refine bridges_of_isBridging ?_
  unfold Interpreter.bridgeSource
  -- the characters of the text stand in the goal before it is computed
  simp only [ofString_append]
  iterate 9 rw [ofString_ofList]
  decide +kernel

/-! ## What has been captured -/

/-- A function object that has captured the host function with a number: it asks the host first,
and the variable that it asks through is the parameter of the bridge that made it. -/
structure Captures (m : Machine) (r : Ref) (id : Nat) (c : Closure) (t : Telling) (raw : Ref) :
    Prop where
  closure : (objectAt m r).kind = .closure c
  code : telling? c.code = some t
  scope : ∃ sc, m.scopes[c.scope]? = some sc ∧
    sc.bindings = #[Variable.mutableBinding rawName (.object raw)] ∧ sc.parent = some 0
  native : (objectAt m raw).kind = .native (.host id)

/-- The bridge as an object of the engine. -/
structure IsBridge (m : Machine) (b : Ref) (c : Closure) (t : Telling) : Prop where
  closure : (objectAt m b).kind = .closure c
  code : Bridges c.code t
  scope : c.scope = 0

theorem index_lt_of_closure {m : Machine} (h : (objectAt m r).kind = .closure c) :
    r.index < m.objects.size :=
  index_lt fun hdefault => by
    rw [hdefault] at h
    cases h

theorem index_lt_of_native {m : Machine} {f : Native} (h : (objectAt m r).kind = .native f) :
    r.index < m.objects.size :=
  index_lt fun hdefault => by
    rw [hdefault] at h
    cases h

/-! ## Making a function -/

/-- The function object of a function, before it has properties. -/
def closureObject (site : Site) (f : Function) : Object :=
  .bare (.closure ⟨f, site.scope, none, []⟩) (some (Callable.functionPrototype f.info).ref)

/-- The properties that the object of a function has from the start. -/
def furnish (f : Function) (q : Ref) : Eval σ Ref := do
  putProperty q "length" (.readOnly (Value.ofNat f.info.arity))
  putProperty q "name" (.readOnly (.string (f.info.name.getD ∅)))
  if f.info.kind == FunctionKind.plain && !f.info.isAsync then
    let w ← newObject
    putProperty w "constructor" (.hidden (.object q))
    putProperty q "prototype" ⟨.data (.object w) true, false, false⟩
  return q

theorem adds_furnish (f : Function) (hr : n ≤ r.index) :
    Adds (σ := σ) n (furnish f r) fun q => q = r := by
  unfold furnish
  refine (adds_put hr _ _).bind fun _ _ => (adds_put hr _ _).bind fun _ _ => ?_
  split
  · refine (adds_allocate _).bind fun w hw => ?_
    exact (adds_put hw _ _).bind fun _ _ => (adds_put hr _ _).bind fun _ _ => .pure rfl
  · exact .pure rfl

/-- A function object is made of a function, and what was there before stays. -/
theorem make_run (site : Site) {f : Function} (hbinds : f.info.bindsName = false)
    (hgenerator : f.info.isGenerator = false) (s : Machine × σ) :
    ∃ s', Callable.make site f s = .ok ⟨s.1.objects.size⟩ s' ∧ Newer s.1.objects.size s s' ∧
      (objectAt s'.1 ⟨s.1.objects.size⟩).kind = .closure ⟨f, site.scope, none, []⟩ := by
  have hnewer : Newer s.1.objects.size s
      ({ s.1 with objects := s.1.objects.push (closureObject site f) }, s.2) :=
    newer_push _ (Nat.le_refl _)
  obtain ⟨q, s', hrun, hrest, rfl⟩ := adds_furnish f (Nat.le_refl s.1.objects.size) _ hnewer.size
  have hmade : Callable.make site f s = furnish f ⟨s.1.objects.size⟩
      ({ s.1 with objects := s.1.objects.push (closureObject site f) }, s.2) := by
    unfold Callable.make Callable.makeWith
    simp only [hbinds, hgenerator]
    rfl
  refine ⟨s', hmade.trans hrun, hnewer.trans hrest, ?_⟩
  rw [hrest.kinds _ (by simp)]
  unfold objectAt
  simp
  rfl

/-! ## The call of the bridge -/

/-- The scope of a call of the bridge. -/
def bridgeScope (b : Ref) (home : Option Ref) (raw : Ref) : Scope :=
  { bindings := #[Variable.mutableBinding rawName (.object raw)], parent := some 0,
    call := some ⟨some (.object Intrinsic.globalObject.ref), b, .undefined, home⟩,
    holdsVariables := true }

variable {t : Telling}

theorem enter_bridge (hb : Bridges c.code t) (hscope : c.scope = 0) :
    Callable.enter I ⟨b, c, some (.object Intrinsic.globalObject.ref), .undefined⟩
        #[.object raw] s =
      .ok ⟨s.1.scopes.size, false, false⟩ (opened (bridgeScope b c.home raw) s) := by
  obtain ⟨l, hparams⟩ := hb.params
  have hbound : Callable.bindParameters I ⟨s.1.scopes.size, false, false⟩
      [(.name rawName l, none)] none [.object raw]
      (opened ⟨#[], some 0,
        some ⟨some (.object Intrinsic.globalObject.ref), b, .undefined, c.home⟩, true⟩ s) =
        .ok () (opened (bridgeScope b c.home raw) s) := by
    unfold Callable.bindParameters
    rw [bind_ok (bind_opened (by simp [Variable.indexIn]))]
    rfl
  unfold Callable.enter
  simp only [hb.kind, hb.strict, hb.usesArguments, hparams, hb.rest, hb.declarations, hscope]
  rw [bind_ok (openScope_run _ s)]
  exact bind_ok hbound

/-- The bridge makes a function object of a host function, which has captured it. -/
theorem call_bridge (hb : IsBridge s.1 b c t) (hraw : (objectAt s.1 raw).kind = .native (.host id))
    (hdepth : Engine.checkDepth s = .ok () s) : ∃ c' s',
    (Engine.interp host (n + 5)).call (.object b) .undefined #[.object raw] s =
        .ok (.object ⟨s.1.objects.size⟩) s' ∧
      Grows s.1.objects.size s s' ∧ Captures s'.1 ⟨s.1.objects.size⟩ id c' t raw := by
  obtain ⟨g, hbody, hg⟩ := hb.code.body
  let frame := Callable.frameOf b c.code.info
  let inside := opened (bridgeScope b c.home raw) (within frame s)
  obtain ⟨s₂, hmake, hnewer, hclosure⟩ := make_run ⟨s.1.scopes.size, false, false⟩
    (tells_of hg).bindsName (tells_of hg).isGenerator inside
  have hresult : (Callable.executeAll (Engine.interp host (n + 4))
      ⟨s.1.scopes.size, false, false⟩ [.returning (some (.function g))] >>= fun done =>
        pure (Callable.resultOf done)) inside = .ok (.object ⟨s.1.objects.size⟩) s₂ := by
    refine (resultOf_returning (x := do
      return .object (← Callable.make ⟨s.1.scopes.size, false, false⟩ g)) rfl).trans ?_
    exact bind_ok hmake
  have hrun : Callable.runBody (Engine.interp host (n + 4))
      ⟨b, c, some (.object Intrinsic.globalObject.ref), .undefined⟩ #[.object raw]
      (within frame s) = .ok (.object ⟨s.1.objects.size⟩) s₂ := by
    unfold Callable.runBody
    rw [bind_ok (enter_bridge hb.code hb.scope)]
    dsimp only
    rw [hbody]
    exact hresult
  have hcall : Callable.callClosure (Engine.interp host (n + 4)) b c .undefined #[.object raw] s =
      .ok (.object ⟨s.1.objects.size⟩) (after s₂) := by
    unfold Callable.callClosure
    simp only [hb.code.kind, hb.code.isGenerator, hb.code.isAsync, hb.code.strict]
    change withFrame frame _ s = _
    rw [withFrame_run, hrun]
  have hscope : s₂.1.scopes[s.1.scopes.size]? = some (bridgeScope b c.home raw) := by
    rw [hnewer.scopes]
    exact Array.getElem?_push_size
  refine ⟨⟨g, s.1.scopes.size, none, []⟩, after s₂, ?_, ⟨hnewer.host, ?_, hnewer.size, hnewer.old, ?_, ?_⟩,
    hclosure, hg, ⟨bridgeScope b c.home raw, hscope, rfl, rfl⟩, ?_⟩
  · change Engine.callValue (Engine.interp host (n + 4)) (.object b) .undefined _ s = _
    unfold Engine.callValue
    rw [bind_ok hdepth]
    dsimp only
    rw [bind_ok (object_run b s)]
    simp only [hb.closure]
    exact hcall
  · exact congrArg (· - 1) hnewer.depth
  · intro i sc hsc
    have hi : i < s.1.scopes.size := (Array.getElem?_eq_some_iff.mp hsc).1
    change s₂.1.scopes[i]? = _
    rw [hnewer.scopes]
    exact (Array.getElem?_push_lt hi).trans ((Array.getElem?_eq_getElem hi).symm.trans hsc)
  · exact .after hnewer.calls
  · exact (hnewer.kinds raw (index_lt_of_native hraw)).trans hraw

theorem checkDepth_of_call {f receiver : Value} {args : Array Value}
    (h : (Engine.interp host (n + 1)).call f receiver args s = .ok v s') :
    Engine.checkDepth s = .ok () s := by
  change Engine.callValue (Engine.interp host n) f receiver args s = _ at h
  unfold Engine.callValue at h
  cases hdepth : Engine.checkDepth s with
  | error e s₁ =>
      rw [bind_error hdepth] at h
      cases h
  | ok u s₁ =>
      obtain rfl := checkDepth_ok hdepth
      rfl

/-- What the bridge makes of a host function has captured it. -/
theorem captures_of_call (hb : IsBridge s.1 b c t)
    (hraw : (objectAt s.1 raw).kind = .native (.host id))
    (h : (Engine.interp host (n + 5)).call (.object b) .undefined #[.object raw] s = .ok v s') :
    ∃ r c', v = .object r ∧ Captures s'.1 r id c' t raw ∧ s'.2 = s.2 := by
  obtain ⟨c', s₁, hrun, hgrows, hcaptures⟩ :=
    call_bridge (n := n) hb hraw (checkDepth_of_call h)
  rw [hrun] at h
  cases h
  exact ⟨_, c', rfl, hcaptures, hgrows.host⟩

/-! ## The expression of a host function -/

theorem HasConstant.newer {k : Name} (h : HasConstant s.1 k v) (hnewer : Newer n s s')
    (hn : s.1.objects.size ≤ n) : HasConstant s'.1 k v := by
  obtain ⟨w, e, d, hown⟩ := h.property
  have hglobal : objectAt s'.1 Intrinsic.globalObject.ref = objectAt s.1 Intrinsic.globalObject.ref :=
    hnewer.old _ (Nat.lt_of_lt_of_le (index_lt (ne_default_of_own hown)) hn)
  refine ⟨?_, by rw [hglobal]; exact h.direct, ⟨w, e, d, by rw [hglobal]; exact hown⟩⟩
  rw [hnewer.scopes]
  exact h.outermost

/-- The name of a constant is read, and but for the line that is reached nothing changes. -/
theorem evaluate_global (host : Engine.HostCall σ) (n line : Nat) {k : Name}
    (h : HasConstant s.1 k v) (hsite : site.scope = 0) :
    ∃ s', (Engine.interp host (n + 1)).evaluate site (.name k line) s = .ok v s' ∧
      Newer s.1.objects.size s s' := by
  obtain ⟨u, s', hline, hnewer, -⟩ := adds_reachLine line s (Nat.le_refl _)
  refine ⟨s', ?_, hnewer⟩
  change (reachLine line >>= fun _ => Variable.read (Engine.interp host n) site.scope k) s = _
  rw [bind_ok hline, hsite]
  exact (HasConstant.newer h hnewer (Nat.le_refl _)).read_outermost

theorem elements_one {e : Expr} (he : I.evaluate site e s = .ok v s') :
    Expression.elements I site [.item e] #[] s = .ok #[v] s' := by
  unfold Expression.elements
  rw [bind_ok he]
  rfl

/-- A call of something that is named, but not as the function that evaluates texts. -/
theorem call_named {k : Name} {e : Expr} {line line' : Nat} {s₁ s₂ s₃ : Machine × σ} {v w : Value}
    (hk : k ≠ Utf16.ofString "eval") (hv : I.evaluate site (.name k line) s = .ok v s₁)
    (he : I.evaluate site e s₁ = .ok w s₂) (hline : reachLine line' s₂ = .ok () s₃) :
    Expression.call I site (.name k line) [.item e] false line' s = I.call v .undefined #[w] s₃ := by
  have hreference : Expression.reference I site (.name k line) s = .ok (.undefined, v) s₁ := by
    unfold Expression.reference
    rw [bind_ok hv]
    rfl
  have hnamed : Expression.namesTextEvaluator (.name k line) = false := by
    simpa [Expression.namesTextEvaluator] using hk
  unfold Expression.call
  rw [bind_ok hreference]
  dsimp only
  rw [bind_ok (throughOptional_run _ _), bind_ok (elements_one he), bind_ok hline, hnamed]
  rfl

/-- The expression of a host function: the bridge, called with the hidden global. -/
def bridging (id line : Nat) : Expr :=
  .call (.name (Utf16.ofText Interpreter.bridgeName) line)
    [.item (.name (Utf16.ofText (Registry.hiddenName id)) line)] false line

/-- An engine in which the expression of a host function means what it should: the bridge and the
function have their names. -/
structure CanBridge (m : Machine) (id : Nat) (t : Telling) (raw : Ref) : Prop where
  bridge : ∃ b c, HasConstant m (Utf16.ofText Interpreter.bridgeName) (.object b) ∧ IsBridge m b c t
  hidden : HasConstant m (Utf16.ofText (Registry.hiddenName id)) (.object raw)
  native : (objectAt m raw).kind = .native (.host id)

/-- The expression of a host function is a call of the bridge with the function. -/
theorem evaluate_bridging_eq (line : Nat) (hcan : CanBridge s.1 id t raw) (hsite : site.scope = 0) :
    ∃ b c s₁, (Engine.interp host (n + 6)).evaluate site (bridging id line) s =
        (Engine.interp host (n + 5)).call (.object b) .undefined #[.object raw] s₁ ∧
      Newer s.1.objects.size s s₁ ∧ IsBridge s₁.1 b c t ∧
      (objectAt s₁.1 raw).kind = .native (.host id) := by
  obtain ⟨b, c, hname, hb⟩ := hcan.bridge
  obtain ⟨s₁, hbridge, hnewer₁⟩ := evaluate_global host (n + 4) line hname hsite
  have hhidden := HasConstant.newer hcan.hidden hnewer₁ (Nat.le_refl _)
  obtain ⟨s₂, hglobal, hnewer₂⟩ := evaluate_global host (n + 4) line hhidden hsite
  obtain ⟨u, s₃, hline, hnewer₃, -⟩ := adds_reachLine line s₂ (Nat.le_refl s₂.1.objects.size)
  have hnewer : Newer s.1.objects.size s s₃ :=
    (hnewer₁.trans (hnewer₂.mono hnewer₁.size)).trans
      (hnewer₃.mono (Nat.le_trans hnewer₁.size hnewer₂.size))
  exact ⟨b, c, s₃, call_named (by decide) hbridge hglobal hline, hnewer,
    ⟨(hnewer.kinds b (index_lt_of_closure hb.closure)).trans hb.closure, hb.code, hb.scope⟩,
    (hnewer.kinds raw (index_lt_of_native hcan.native)).trans hcan.native⟩

/-- What the expression of a host function makes has captured the function. -/
theorem captures_of_bridging {line : Nat} (hcan : CanBridge s.1 id t raw) (hsite : site.scope = 0)
    (h : (Engine.interp host (n + 6)).evaluate site (bridging id line) s = .ok v s') :
    ∃ r c, v = .object r ∧ Captures s'.1 r id c t raw ∧ s'.2 = s.2 := by
  obtain ⟨b, c, s₁, hcall, hnewer, hb, hraw⟩ :=
    evaluate_bridging_eq (n := n) line hcan hsite
  rw [hcall] at h
  obtain ⟨r, c', hv, hcaptures, hhost⟩ := captures_of_call hb hraw h
  exact ⟨r, c', hv, hcaptures, hhost.trans hnewer.host⟩

/-- Where there is room for a call, the expression of a host function makes a function object that has
captured the function. -/
theorem evaluate_bridging (line : Nat) (hcan : CanBridge s.1 id t raw) (hsite : site.scope = 0)
    (hdepth : s.1.depth ≤ Engine.callLimit) : ∃ r c s',
    (Engine.interp host (n + 6)).evaluate site (bridging id line) s = .ok (.object r) s' ∧
      Grows s.1.objects.size s s' ∧ Captures s'.1 r id c t raw := by
  obtain ⟨b, c, s₁, hcall, hnewer, hb, hraw⟩ :=
    evaluate_bridging_eq (n := n) line hcan hsite
  have hroom : Engine.checkDepth s₁ = .ok () s₁ := checkDepth_run (by rw [hnewer.depth]; exact hdepth)
  obtain ⟨c', s₂, hrun, hgrows, hcaptures⟩ := call_bridge (n := n) hb hraw hroom
  exact ⟨_, c', s₂, hcall.trans hrun, hnewer.grows.trans (hgrows.mono hnewer.size), hcaptures⟩

end ScriptHost.Proofs.Bridge
