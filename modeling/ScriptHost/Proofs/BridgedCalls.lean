import ScriptHost.Proofs.Bridge

/-!
# Calls of bridged functions

A function that has captured a host function writes its arguments as a text, calls the host function
with it, and goes on with the reply, as long as the engine's own reader of data is in its place.
-/

namespace ScriptHost.Proofs.BridgedCalls

open Script Script.Eval
open ScriptHost.Proofs.Applier
open ScriptHost.Proofs.Bridge
open ScriptHost.Proofs.DataValues
open ScriptHost.Proofs.Evaluation
open ScriptHost.Proofs.NewObjects

variable {σ α β : Type} {s s' : Machine × σ} {I : Interp σ} {host : Engine.HostCall σ} {site : Site}
  {n i k id line : Nat} {r raw j : Ref} {c : Closure} {t : Telling} {p v this : Value}
  {args : Array Value}

/-! ## Entering a function that asks the host first -/

/-- The scope of a call, with the object that holds its arguments. -/
def tellingScope (r : Ref) (c : Closure) (this : Value) (a : Ref) : Scope :=
  { bindings := #[Variable.mutableBinding "arguments" (.object a),
      Variable.mutableBinding replyName .undefined],
    parent := some c.scope, call := some ⟨some this, r, .undefined, c.home⟩, holdsVariables := true }

/-- A call has been entered: there is one more scope, and what was there before is as it was. -/
structure Entered (s s' : Machine × σ) (sc : Scope) : Prop where
  host : s'.2 = s.2
  scopes : s'.1.scopes = s.1.scopes.push sc
  old : ∀ r : Ref, r.index < s.1.objects.size → objectAt s'.1 r = objectAt s.1 r

theorem opened_of_scopes {sc : Scope} (h : s'.1.scopes = s.1.scopes.push sc) :
    s' = opened sc ({ s'.1 with scopes := s.1.scopes }, s'.2) := by
  unfold opened
  rw [← h]

/-- A variable that is declared in the scope opened last has no value yet. -/
theorem bindVariable_opened {sc : Scope} {x : Name} (h : Variable.indexIn sc x = none) :
    Variable.bindVariable s.1.scopes.size x (opened sc s) =
      .ok () (opened { sc with bindings := sc.bindings.push (Variable.mutableBinding x .undefined) } s) := by
  change EStateM.Result.ok ()
    (({ s.1 with scopes := (s.1.scopes.push sc).modify s.1.scopes.size _ }, s.2) :
      Machine × σ) = _
  rw [modify_push, h]
  rfl

theorem enter_telling (hc : Tells c.code t) (r : Ref) (this : Value) (args : Array Value)
    (s : Machine × σ) :
    ∃ a s', Callable.enter I ⟨r, c, some this, .undefined⟩ args s =
        .ok ⟨s.1.scopes.size, false, false⟩ s' ∧ Entered s s' (tellingScope r c this a) := by
  let bare : Scope :=
    ⟨#[], some c.scope, some ⟨some this, r, .undefined, c.home⟩, true⟩
  obtain ⟨a, s₁, hmade, hnewer, -⟩ := adds_makeArguments r false args (opened bare s)
    (Nat.le_refl s.1.objects.size)
  have hopened := opened_of_scopes (s := s) (hnewer.scopes : s₁.1.scopes = _)
  let base : Machine × σ := ({ s₁.1 with scopes := s.1.scopes }, s₁.2)
  refine ⟨a, opened (tellingScope r c this a) base, ?_, ⟨hnewer.host, rfl, fun q hq => hnewer.old q hq⟩⟩
  have hbind : Variable.bind s.1.scopes.size (Variable.mutableBinding "arguments" (.object a)) s₁ =
      .ok () (opened { bare with
        bindings := #[Variable.mutableBinding "arguments" (.object a)] } base) := by
    rw [hopened]
    exact bind_opened (s := base) (by simp [Variable.indexIn, bare])
  have hdeclare : Variable.bindVariable s.1.scopes.size replyName
      (opened { bare with bindings := #[Variable.mutableBinding "arguments" (.object a)] } base) =
      .ok () (opened (tellingScope r c this a) base) := by
    refine bindVariable_opened (s := base) ?_
    simp [Variable.indexIn, Variable.mutableBinding]
    decide
  unfold Callable.enter
  simp only [hc.kind, hc.strict, hc.usesArguments, hc.params, hc.rest, hc.declarations]
  rw [bind_ok (openScope_run _ s)]
  have hdeclared : Callable.declareAll ⟨s.1.scopes.size, false, false⟩ [.var replyName]
      (opened { bare with bindings := #[Variable.mutableBinding "arguments" (.object a)] } base) =
      .ok () (opened (tellingScope r c this a) base) := (bind_ok hdeclare).trans rfl
  exact (bind_ok hmade).trans ((bind_ok hbind).trans ((bind_ok rfl).trans (bind_ok hdeclared)))

/-! ## What the body sees -/

/-- The engine's own reader of data is where scripts find it. -/
structure HasJson (m : Machine) (j : Ref) (p : Value) : Prop where
  json : HasConstant m jsonName (.object j)
  direct : IsDirect (objectAt m j)
  parse : ∃ w e d, (objectAt m j).own? (.name parseName) = some ⟨.data p w, e, d⟩

/-- The scopes of a call that asks the host: its own one, with what its variable for the reply holds,
inside the one of the bridge, inside the outermost. -/
def InCall (m : Machine) (i : Nat) (raw : Ref) (reply : Value) : Prop :=
  ∃ inner outer k a, m.scopes[i]? = some inner ∧ m.scopes[k]? = some outer ∧
    inner.bindings = #[Variable.mutableBinding "arguments" (.object a),
      Variable.mutableBinding replyName reply] ∧ inner.parent = some k ∧
    outer.bindings = #[Variable.mutableBinding rawName (.object raw)] ∧ outer.parent = some 0

/-- A function that asks the host first is under way, in a scope. -/
structure Asking (m : Machine) (i : Nat) (raw j : Ref) (p : Value) : Prop extends HasJson m j p where
  scopes : InCall m i raw .undefined

theorem HasConstant.entered {x : Name} {sc : Scope} (h : HasConstant s.1 x v) (he : Entered s s' sc) :
    HasConstant s'.1 x v := by
  obtain ⟨c₀, hc₀, houtermost⟩ := h.outermost
  obtain ⟨w, e, d, hown⟩ := h.property
  have hglobal : objectAt s'.1 Intrinsic.globalObject.ref = objectAt s.1 Intrinsic.globalObject.ref :=
    he.old _ (index_lt (ne_default_of_own hown))
  refine ⟨⟨c₀, ?_, houtermost⟩, by rw [hglobal]; exact h.direct, ⟨w, e, d, by rw [hglobal]; exact hown⟩⟩
  have hsize := (Array.getElem?_eq_some_iff.mp hc₀).1
  rw [he.scopes, Array.getElem?_push, if_neg (by omega)]
  exact hc₀

theorem HasJson.entered {sc : Scope} (h : HasJson s.1 j p) (he : Entered s s' sc) :
    HasJson s'.1 j p := by
  obtain ⟨w, e, d, hown⟩ := h.parse
  have hj : objectAt s'.1 j = objectAt s.1 j := he.old _ (index_lt (ne_default_of_own hown))
  exact ⟨HasConstant.entered h.json he, by rw [hj]; exact h.direct,
    ⟨w, e, d, by rw [hj]; exact hown⟩⟩

/-- Where a function that has captured a host function has been entered, it asks. -/
theorem asking_entered {a : Ref} (h : Captures s.1 r id c t raw) (hjson : HasJson s.1 j p)
    (he : Entered s s' (tellingScope r c this a)) : Asking s'.1 s.1.scopes.size raw j p := by
  obtain ⟨sc, hsc, hbindings, hparent⟩ := h.scope
  have hsize := (Array.getElem?_eq_some_iff.mp hsc).1
  refine ⟨hjson.entered he, tellingScope r c this a, sc, c.scope, a, ?_, ?_, rfl, rfl, hbindings, hparent⟩
  · rw [he.scopes]
    exact Array.getElem?_push_size
  · rw [he.scopes, Array.getElem?_push, if_neg (by omega)]
    exact hsc

theorem Asking.newer (h : Asking s.1 i raw j p) (hnewer : Newer s.1.objects.size s s') :
    Asking s'.1 i raw j p := by
  obtain ⟨w, e, d, hown⟩ := h.parse
  have hj : objectAt s'.1 j = objectAt s.1 j := hnewer.old _ (index_lt (ne_default_of_own hown))
  refine ⟨⟨HasConstant.newer h.json hnewer (Nat.le_refl _), by rw [hj]; exact h.direct,
    ⟨w, e, d, by rw [hj]; exact hown⟩⟩, ?_⟩
  unfold InCall
  rw [hnewer.scopes]
  exact h.scopes

theorem rawName_ne : rawName ≠ Utf16.ofString "arguments" ∧ rawName ≠ replyName := by decide

theorem jsonName_ne : jsonName ≠ Utf16.ofString "arguments" ∧ jsonName ≠ replyName ∧
    jsonName ≠ rawName := by decide

namespace InCall

variable {reply : Value}

/-- The captured variable is read as the host function. -/
theorem read_raw (h : InCall s.1 i raw reply) :
    Variable.read I i rawName s = .ok (.object raw) s := by
  obtain ⟨inner, outer, k, a, hinner, houter, hbindings, hparent, hcaptured, -⟩ := h
  have hnone : Variable.indexIn inner rawName = none := by
    unfold Variable.indexIn
    rw [hbindings]
    simp [Variable.mutableBinding, Ne.symm rawName_ne.1, Ne.symm rawName_ne.2]
  have hsome : Variable.indexIn outer rawName = some 0 := by
    unfold Variable.indexIn
    rw [hcaptured]
    simp [Variable.mutableBinding, List.findIdx?_cons]
  have hsize := (Array.getElem?_eq_some_iff.mp houter).1
  obtain ⟨fuel, hfuel⟩ : ∃ fuel, s.1.scopes.size = fuel + 1 := ⟨s.1.scopes.size - 1, by omega⟩
  refine read_found (i := k) (j := 0) ?_ houter (b := Variable.mutableBinding rawName (.object raw)) ?_ rfl
  · change Variable.findFrom rawName (s.1.scopes.size + 1) i s = _
    rw [hfuel, findFrom_parent hinner hnone hparent, findFrom_here houter hsome]
  · rw [hcaptured]
    rfl

/-- A constant that has no other meaning in the call is read from the outermost scope. -/
theorem read_constant (h : InCall s.1 i raw reply) {x : Name} (hx : HasConstant s.1 x v)
    (hne : x ≠ Utf16.ofString "arguments" ∧ x ≠ replyName ∧ x ≠ rawName) :
    Variable.read I i x s = .ok v s := by
  obtain ⟨inner, outer, k, a, hinner, houter, hbindings, hparent, hcaptured, hzero⟩ := h
  obtain ⟨c₀, hc₀, hparent₀, hunbound₀⟩ := hx.outermost
  have hinnerNone : Variable.indexIn inner x = none := by
    unfold Variable.indexIn
    rw [hbindings]
    simp [Variable.mutableBinding, Ne.symm hne.1, Ne.symm hne.2.1]
  have houterNone : Variable.indexIn outer x = none := by
    unfold Variable.indexIn
    rw [hcaptured]
    simp [Variable.mutableBinding, Ne.symm hne.2.2]
  have hscope : i ≠ 0 := by
    rintro rfl
    rw [hc₀] at hinner
    cases hinner
    rw [hparent₀] at hparent
    cases hparent
  have hsize := (Array.getElem?_eq_some_iff.mp hinner).1
  obtain ⟨fuel, hfuel⟩ : ∃ fuel, s.1.scopes.size = fuel + 2 := ⟨s.1.scopes.size - 2, by omega⟩
  refine hx.read_found ?_
  change Variable.findFrom x (s.1.scopes.size + 1) i s = _
  rw [hfuel, findFrom_parent hinner hinnerNone hparent, findFrom_parent houter houterNone hzero,
    findFrom_global hc₀ hunbound₀ hparent₀]

end InCall

/-- The reader of data is read from the outermost scope. -/
theorem Asking.read_json (h : Asking s.1 i raw j p) :
    Variable.read I i jsonName s = .ok (.object j) s :=
  h.scopes.read_constant h.json jsonName_ne

/-! ## What the body does -/

/-- A line that has been reached is not reached again. -/
theorem reachLine_again (line : Nat) (s : Machine × σ) :
    ∃ s', reachLine line s = .ok () s' ∧ reachLine line s' = .ok () s' ∧
      Newer s.1.objects.size s s' := by
  obtain ⟨u, s', hrun, hnewer, -⟩ := adds_reachLine line s (Nat.le_refl _)
  refine ⟨s', hrun, ?_, hnewer⟩
  rw [reachLine_eq] at hrun ⊢
  cases hframes : s.1.frames with
  | nil =>
      rw [hframes] at hrun
      cases hrun
      rw [hframes]
  | cons f rest =>
      simp only [hframes] at hrun
      split at hrun
      · cases hrun
        simp
      · rename_i hline
        cases hrun
        simp only [hframes, if_neg hline]

/-- The host is asked: what it is told is evaluated, and what was captured is called with it. -/
def asked (host : Engine.HostCall σ) (n : Nat) (t : Telling) (site : Site)
    (answer : Value → Eval σ Value) : Eval σ Value := do
  let v ← (Engine.interp host (n + 2)).evaluate site t.payload
  reachLine t.line
  answer v

/-- What follows once the host has been asked: its reply is read, and the rest of the body runs. -/
def concluded (host : Engine.HostCall σ) (n : Nat) (t : Telling) (site : Site) (j : Ref)
    (p reply : Value) : Eval σ Value := do
  reachLine t.line
  let w ← (Engine.interp host (n + 3)).call p (.object j) #[reply]
  reachLine t.line
  Variable.write (Engine.interp host (n + 4)) site.scope replyName w site.strict
  return Callable.resultOf (← Callable.executeAll (Engine.interp host (n + 5)) site t.rest)

/-- The call of what was captured. -/
def rawCall (host : Engine.HostCall σ) (n : Nat) (raw : Ref) (v : Value) : Eval σ Value :=
  (Engine.interp host (n + 2)).call (.object raw) .undefined #[v]

theorem elements_item (e : Expr) : Expression.elements I site [.item e] #[] =
    (do return #[← I.evaluate site e]) := rfl

theorem evaluate_question (h : Asking s.1 site.scope raw j p)
    (hline : reachLine t.line s = .ok () s) :
    (Engine.interp host (n + 3)).evaluate site t.question s =
      asked host n t site (rawCall host n raw) s := by
  have hraw : (Engine.interp host (n + 2)).evaluate site (.name rawName t.line) s =
      .ok (.object raw) s := by
    change (reachLine t.line >>= fun _ =>
      Variable.read (Engine.interp host (n + 1)) site.scope rawName) s = _
    rw [bind_ok hline]
    exact h.scopes.read_raw
  have hreference : Expression.reference (Engine.interp host (n + 2)) site (.name rawName t.line) s =
      .ok (.undefined, .object raw) s := (bind_ok hraw).trans rfl
  have hnamed : Expression.namesTextEvaluator (.name rawName t.line) = false := by
    have hne : rawName ≠ Utf16.ofString "eval" := by decide
    simpa [Expression.namesTextEvaluator] using hne
  change Expression.call (Engine.interp host (n + 2)) site _ [.item t.payload] false t.line s = _
  unfold Expression.call asked
  rw [bind_ok hreference]
  dsimp only
  rw [bind_ok (throughOptional_run _ _), elements_item, hnamed]
  simp only [bind_assoc, pure_bind]
  rfl

theorem reference_parse (h : Asking s'.1 site.scope raw j p)
    (hline : reachLine t.line s = .ok () s') (hagain : reachLine t.line s' = .ok () s') :
    Expression.reference (Engine.interp host (n + 1)) site
        (.member (.name jsonName t.line) parseName false t.line) s = .ok (.object j, p) s' := by
  obtain ⟨w, e, d, hown⟩ := h.parse
  have hjson : (Engine.interp host (n + 1)).evaluate site (.name jsonName t.line) s =
      .ok (.object j) s' := by
    change (reachLine t.line >>= fun _ =>
      Variable.read (Engine.interp host n) site.scope jsonName) s = _
    rw [bind_ok hline]
    exact h.read_json
  have hparse : getMember (Engine.interp host (n + 1)) (.object j) (.name parseName) s' = .ok p s' :=
    getProperty_own h.direct hown
  unfold Expression.reference
  rw [bind_ok hjson, bind_ok (throughOptional_run _ _), bind_ok hagain, bind_ok hparse]
  rfl

theorem bind_across {x y : Eval σ α} {f : α → Eval σ β} (h : x s = y s') :
    (x >>= f) s = (y >>= f) s' := by
  change EStateM.bind x f s = EStateM.bind y f s'
  unfold EStateM.bind
  rw [h]

theorem executeAll_cons (I : Interp σ) (site : Site) (statement : Stmt) (rest : List Stmt) :
    Callable.executeAll I site (statement :: rest) = (I.execute site statement >>= fun done =>
      match done with
      | .normal => Callable.executeAll I site rest
      | other => pure other) := rfl

/-- The body asks the host, and goes on with what it replies. -/
theorem executeAll_body (h : Asking s'.1 site.scope raw j p)
    (hline : reachLine t.line s = .ok () s') (hagain : reachLine t.line s' = .ok () s') :
    (Callable.executeAll (Engine.interp host (n + 5)) site t.body >>= fun done =>
        pure (Callable.resultOf done)) s =
      (asked host n t site (rawCall host n raw) >>= concluded host n t site j p) s' := by
  have hanswer : (Engine.interp host (n + 4)).evaluate site t.answer s =
      (asked host n t site (rawCall host n raw) >>= fun reply => do
        reachLine t.line
        (Engine.interp host (n + 3)).call p (.object j) #[reply]) s' := by
    change Expression.call (Engine.interp host (n + 3)) site _ [.item t.question] false t.line s = _
    unfold Expression.call
    rw [bind_ok (reference_parse h hline hagain)]
    dsimp only
    rw [bind_ok (throughOptional_run _ _), elements_item]
    simp only [bind_assoc, pure_bind]
    exact bind_congr (evaluate_question h hagain)
  have hexecute : (Engine.interp host (n + 5)).execute site
      (.declare .var [(.name replyName t.line, some t.answer)]) =
      ((Engine.interp host (n + 4)).evaluate site t.answer >>= fun w => do
        reachLine t.line
        Variable.write (Engine.interp host (n + 4)) site.scope replyName w site.strict
        pure Completion.normal) := by
    have hstatement : (Engine.interp host (n + 5)).execute site
        (.declare .var [(.name replyName t.line, some t.answer)]) =
        Statement.execute (Engine.interp host (n + 4)) site
          (.declare .var [(.name replyName t.line, some t.answer)]) := rfl
    rw [hstatement, Statement.execute]
    simp only [Statement.declareOne, List.forIn_cons, List.forIn_nil, bind_assoc, pure_bind,
      Callable.bindPattern, Callable.giveName]
  have hbody : t.body = .declare .var [(.name replyName t.line, some t.answer)] :: t.rest := rfl
  rw [hbody, executeAll_cons, hexecute, bind_assoc, bind_assoc, bind_across hanswer]
  simp only [bind_assoc, pure_bind]
  rfl

/-! ## The call as a whole -/

variable {receiver : Value} {sc : Scope}

theorem Captures.newer (h : Captures s.1 r id c t raw) (hnewer : Newer n s s') :
    Captures s'.1 r id c t raw := by
  have hr := index_lt_of_closure h.closure
  refine ⟨(hnewer.kinds r hr).trans h.closure, h.code, ?_,
    (hnewer.kinds raw (index_lt_of_native h.native)).trans h.native⟩
  rw [hnewer.scopes]
  exact h.scope

theorem Captures.entered (h : Captures s.1 r id c t raw) (he : Entered s s' sc) :
    Captures s'.1 r id c t raw := by
  obtain ⟨outer, houter, hscope⟩ := h.scope
  have hr := index_lt_of_closure h.closure
  have hsize := (Array.getElem?_eq_some_iff.mp houter).1
  refine ⟨by rw [he.old r hr]; exact h.closure, h.code, ⟨outer, ?_, hscope⟩,
    by rw [he.old raw (index_lt_of_native h.native)]; exact h.native⟩
  rw [he.scopes, Array.getElem?_push, if_neg (by omega)]
  exact houter

theorem HasJson.newer (h : HasJson s.1 j p) (hnewer : Newer s.1.objects.size s s') :
    HasJson s'.1 j p := by
  obtain ⟨w, e, d, hown⟩ := h.parse
  have hj : objectAt s'.1 j = objectAt s.1 j := hnewer.old _ (index_lt (ne_default_of_own hown))
  exact ⟨HasConstant.newer h.json hnewer (Nat.le_refl _), by rw [hj]; exact h.direct,
    ⟨w, e, d, by rw [hj]; exact hown⟩⟩

theorem Captures.within (h : Captures s.1 r id c t raw) (f : Frame) :
    Captures (Evaluation.within f s).1 r id c t raw :=
  ⟨h.closure, h.code, h.scope, h.native⟩

theorem HasJson.within (h : HasJson s.1 j p) (f : Frame) : HasJson (Evaluation.within f s).1 j p :=
  ⟨⟨h.json.outermost, h.json.direct, h.json.property⟩, h.direct, h.parse⟩

/-- What a call does of a function that asks the host first, by what answers it. -/
def asks (host : Engine.HostCall σ) (n : Nat) (r : Ref) (c : Closure) (t : Telling) (j : Ref)
    (p : Value) (answer : Value → Eval σ Value) (receiver : Value) (args : Array Value) :
    Eval σ Value := do
  Engine.checkDepth
  let this ← Callable.receiverFor false receiver
  withFrame (Callable.frameOf r c.code.info) do
    let site ← Callable.enter (Engine.interp host (n + 5)) ⟨r, c, some this, .undefined⟩ args
    reachLine t.line
    concluded host n t site j p (← asked host n t site answer)

/-- A call of a function that has captured a host function asks, and what was captured answers. -/
theorem call_captured (h : Captures s.1 r id c t raw) (hjson : HasJson s.1 j p) :
    (Engine.interp host (n + 6)).call (.object r) receiver args s =
      asks host n r c t j p (rawCall host n raw) receiver args s := by
  have hc := tells_of h.code
  change Engine.callValue (Engine.interp host (n + 5)) (.object r) receiver args s = _
  unfold Engine.callValue asks
  cases hdepth : Engine.checkDepth s with
  | error e s' => rw [bind_error hdepth, bind_error hdepth]
  | ok u s' =>
      obtain rfl := checkDepth_ok hdepth
      obtain ⟨this, s₁, hreceiver, hnewer, -⟩ := adds_receiverFor receiver s' (Nat.le_refl _)
      rw [bind_ok hdepth, bind_ok hdepth, bind_ok hreceiver]
      dsimp only
      rw [bind_ok (object_run r s')]
      simp only [h.closure]
      unfold Callable.callClosure
      simp only [hc.kind, hc.isGenerator, hc.isAsync, hc.strict]
      refine (bind_ok hreceiver).trans (withFrame_congr ?_)
      obtain ⟨a, s₂, henter, he⟩ := enter_telling (I := Engine.interp host (n + 5)) hc r this args
        (within (Callable.frameOf r c.code.info) s₁)
      obtain ⟨s₃, hline, hagain, hnewer₃⟩ := reachLine_again t.line s₂
      have hcaptures : Captures (within (Callable.frameOf r c.code.info) s₁).1 r id c t raw :=
        Captures.within (Captures.newer h hnewer) _
      have hreader : HasJson (within (Callable.frameOf r c.code.info) s₁).1 j p :=
        HasJson.within (HasJson.newer hjson hnewer) _
      have hasking := (asking_entered hcaptures hreader he).newer hnewer₃
      unfold Callable.runBody
      rw [bind_ok henter, bind_ok henter, bind_ok hline, hc.body]
      exact executeAll_body hasking hline hagain

end ScriptHost.Proofs.BridgedCalls
