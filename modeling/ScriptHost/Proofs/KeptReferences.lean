import ScriptHost.Proofs.BridgedCalls
import ScriptHost.Proofs.KeptStates
import ScriptHost.Proofs.PlainCall
import ScriptHost.Proofs.Registration

/-!
# References that scripts keep

A function of the script that the bridge has made of a host function calls that host function for
as long as it is kept: whatever is registered, replaced, released or called in between.  The numbers
of host functions are issued once, and the function object has captured its own.
-/

namespace ScriptHost.Proofs.KeptReferences

open Script Script.Eval ScriptEngine Interpreter
open ScriptHost.Proofs.Applier
open ScriptHost.Proofs.Bridge
open ScriptHost.Proofs.BridgedCalls
open ScriptHost.Proofs.CallBoundary (checkCode_bridgeSource)
open ScriptHost.Proofs.DataValues
open ScriptHost.Proofs.Evaluation
open ScriptHost.Proofs.KeptStates
open ScriptHost.Proofs.NewObjects
open ScriptHost.Proofs.PlainCall
open ScriptHost.Proofs.ScriptRuns (run_parsed runTree)
open ScriptHost.Proofs.Transition

/-! ## What answers a question -/

section Answers

variable {σ α β : Type} {s s' : Machine × Host} {I : Interp Host} {n id : Nat} {raw : Ref}
  {f : HostFunction} {v : Value}

/-- A reply as it reaches the script. -/
def delivered (reply : EStateM.Result Fault (Machine × Host) Text) :
    EStateM.Result Signal (Machine × Host) Value :=
  match reply with
  | .ok t s => .ok (.string (Utf16.ofText t)) s
  | .error _ s => Eval.fail "InternalError" "Python call failed." s

/-- What a script is told that asks a host function: its reply to the text. -/
def told (I : Interp Host) (f : HostFunction) (v : Value) : Eval Host Value := fun s =>
  delivered ((do (interpreterOver I).replyTo f (← HostM.ofExcept (payload v)) : EngineM Text) s)

/-- What answers to the number of a function, in a registry. -/
def behind (I : Interp Host) (id : Nat) (v : Value) (r : Registry) : EngineM Text :=
  match r.function? id, [v] with
  | some f, [v] => do (interpreterOver I).replyTo f (← HostM.ofExcept (payload v))
  | _, _ => throw .functionNotAdded

/-- The number of a function stands for the function that was issued with it. -/
theorem hostCall_told (h : s.2.registry.function? id = some f) :
    hostCall I id #[v] s = told I f v s := by
  change delivered (behind I id v s.2.registry s) = _
  rw [behind, h]
  rfl

/-- A host function answers, as a call of the engine. -/
def answers (n : Nat) (raw : Ref) (f : HostFunction) (v : Value) : Eval Host Value := do
  Engine.checkDepth
  withFrame (Engine.nativeFrame raw) (told (Engine.interp hostCall n) f v)

/-- The call of what was captured is answered by the function that was issued with its number. -/
theorem rawCall_answers (hkind : (objectAt s.1 raw).kind = .native (.host id))
    (hf : s.2.registry.function? id = some f) :
    rawCall hostCall n raw v s = answers n raw f v s := by
  change Engine.callValue (Engine.interp hostCall (n + 1)) (.object raw) .undefined #[v] s = _
  unfold Engine.callValue answers
  cases hdepth : Engine.checkDepth s with
  | error e s' => rw [bind_error hdepth, bind_error hdepth]
  | ok u s' =>
      obtain rfl := checkDepth_ok hdepth
      rw [bind_ok hdepth, bind_ok hdepth]
      dsimp only
      rw [bind_ok (object_run raw s')]
      simp only [hkind]
      exact withFrame_congr (hostCall_told hf)

end Answers

/-! ## What is asked -/

section Questions

variable {σ α β : Type} {s : Machine × σ} {host : Engine.HostCall σ} {n : Nat} {r j : Ref}
  {c : Closure} {t : Telling} {p receiver : Value} {args : Array Value}
  {answer answer' : Value → Eval σ Value}

/-- What a call of a function writes for the host: its result is what the host is asked, and it
ends in the state in which the host is asked. -/
def written (host : Engine.HostCall σ) (n : Nat) (r : Ref) (c : Closure) (t : Telling)
    (receiver : Value) (args : Array Value) : Eval σ Value := do
  Engine.checkDepth
  let this ← Callable.receiverFor false receiver
  modify (within (Callable.frameOf r c.code.info))
  let site ← Callable.enter (Engine.interp host (n + 5)) ⟨r, c, some this, .undefined⟩ args
  reachLine t.line
  let v ← (Engine.interp host (n + 2)).evaluate site t.payload
  reachLine t.line
  return v

theorem bind_same {x : Eval σ α} {k k' : α → Eval σ β}
    (h : ∀ a s', x s = .ok a s' → k a s' = k' a s') : (x >>= k) s = (x >>= k') s := by
  cases hrun : x s with
  | ok a s' => rw [bind_ok hrun, bind_ok hrun, h a s' hrun]
  | error e s' => rw [bind_error hrun, bind_error hrun]

/-- Two ways of answering that give the same to what a call asks make no difference to the call. -/
theorem asks_same (h : ∀ v s', written host n r c t receiver args s = .ok v s' →
      answer v s' = answer' v s') :
    asks host n r c t j p answer receiver args s = asks host n r c t j p answer' receiver args s := by
  unfold asks
  refine bind_same fun u s₁ hdepth => bind_same fun this s₂ hreceiver => withFrame_congr ?_
  refine bind_same fun site s₃ henter => bind_same fun u s₄ hline => ?_
  simp only [asked, bind_assoc]
  refine bind_same fun v s₅ hpayload => bind_same fun u s₆ hagain => bind_congr (h v s₆ ?_)
  unfold written
  rw [bind_ok hdepth, bind_ok hreceiver]
  exact (bind_ok henter).trans ((bind_ok hline).trans ((bind_ok hpayload).trans (bind_ok hagain)))

end Questions

/-! ## Runs -/

variable {X : Interpreter Machine Value} {intact : Machine → Prop} {s s' s₀ s₁ s₂ s₃ s₄ : Machine × Host}

/-- The engine goes on: as long as its functions are left intact they stay so, and what a function
has captured stays captured.  No function that the host has issued is lost. -/
structure Keeps (intact : Machine → Prop) (s s' : Machine × Host) : Prop where
  issued : Issues s.2 s'.2
  stays : intact s.1 → intact s'.1
  captured : intact s.1 → ∀ r id c t raw, Captures s.1 r id c t raw → Captures s'.1 r id c t raw

theorem chains_keeps : Chains (Keeps intact) where
  refl _ := ⟨List.prefix_rfl, id, fun _ _ _ _ _ _ h => h⟩
  trans hab hbc :=
    ⟨hab.issued.trans hbc.issued, fun h => hbc.stays (hab.stays h), fun h r id c t raw hr =>
      hbc.captured (hab.stays h) r id c t raw (hab.captured h r id c t raw hr)⟩

/-- An engine that leaves functions alive, with what they have captured, for as long as anything
refers to them. -/
structure KeepsFunctions (X : Interpreter Machine Value) (intact : Machine → Prop) : Prop where
  evaluate : ∀ code, Keeping (Keeps intact) (X.evaluate code)
  call : ∀ h args, Keeping (Keeps intact) (X.call h args)
  dataText : ∀ h, Keeping (Keeps intact) (X.dataText h)
  addFunction : ∀ id, Keeping (Keeps intact) (X.addFunction id)

theorem KeepsFunctions.keptBy (h : KeepsFunctions X intact) : KeptBy X (Keeps intact) where
  chains := chains_keeps
  host _ _ _ hissues := ⟨hissues, id, fun _ _ _ _ _ _ h => h⟩
  evaluate := h.evaluate
  call := h.call
  dataText := h.dataText
  addFunction := h.addFunction

/-- The state that a computation ends in, however it ends. -/
def endOf {ε σ α : Type} : EStateM.Result ε σ α → σ
  | .ok _ s => s
  | .error _ s => s

/-- What may happen to an instance, in any order and however each of it ends: modules are
registered, script functions called, and scripts call host functions; in between the engine goes
on. -/
inductive Run (X : Interpreter Machine Value) (intact : Machine → Prop) (s₀ : Machine × Host) :
    Machine × Host → Prop
  | start : Run X intact s₀ s₀
  | register {s : Machine × Host} (h : Run X intact s₀ s) (name capability : HostValue) :
    Run X intact s₀ (endOf (X.register name capability s))
  | invoke {s : Machine × Host} (h : Run X intact s₀ s) (name args : HostValue) :
    Run X intact s₀ (endOf (X.invoke name args s))
  | reply {s : Machine × Host} (h : Run X intact s₀ s) (f : HostFunction) (payload : HostValue) :
    Run X intact s₀ (endOf (X.replyTo f payload s))
  | goOn {s s' : Machine × Host} (h : Run X intact s₀ s) (hkeeps : Keeps intact s s') :
    Run X intact s₀ s'

theorem endOf_related {ε σ α : Type} {R : σ → σ → Prop} {body : EStateM ε σ α} (h : Keeping R body)
    (s : σ) : R s (endOf (body s)) := by
  cases hrun : body s with
  | ok a s' => exact (h.ok hrun).1
  | error e s' => exact (h.error hrun).1

/-- Whatever happens to an instance keeps what functions have captured, and loses no function that
was issued. -/
theorem Run.keeps (hX : KeepsFunctions X intact) (h : Run X intact s₀ s) : Keeps intact s₀ s := by
  have hkept := hX.keptBy
  induction h with
  | start => exact chains_keeps.refl _
  | register _ name capability ih =>
      exact chains_keeps.trans ih (endOf_related (hkept.register name capability) _)
  | invoke _ name args ih =>
      exact chains_keeps.trans ih (endOf_related (hkept.invoke name args) _)
  | reply _ f payload ih =>
      exact chains_keeps.trans ih (endOf_related (hkept.replyTo f payload) _)
  | goOn _ hkeeps ih => exact chains_keeps.trans ih hkeeps

/-! ## Kept references -/

variable {site : Site} {path target : HostValue} {v p : Value} {ids ids' : List Nat} {code : Text}
  {raw j : Ref} {t : Telling} {k n line : Nat}

/-- A function that is bound has the number that is next. -/
theorem bindFunction_issued (hX : KeepsFunctions X intact)
    (h : X.bindFunction path target (ids, s) = .ok code (ids', s')) :
    code = bridgeName ++ "(" ++ Registry.hiddenName s.2.registry.nextId ++ ")" ∧
      s'.2.registry.function? s.2.registry.nextId = some ⟨path, target⟩ := by
  obtain ⟨e, i⟩ := s
  rw [Registration.bindFunction_run] at h
  split at h
  · rename_i e' i' hadd
    cases h
    have hissued : (i.registry.issue ⟨path, target⟩).function? i.registry.nextId =
        some ⟨path, target⟩ := by
      simp [Registry.function?, Registry.issue, Registry.nextId]
    exact ⟨rfl, ((hX.addFunction _).ok hadd).1.issued.function? hissued⟩
  · cases h

/-- Between two states, a host function has stayed what it is, and none is lost that was issued. -/
structure Holds (raw : Ref) (s s' : Machine × Host) : Prop where
  function : (objectAt s'.1 raw).kind = (objectAt s.1 raw).kind
  issued : Issues s.2 s'.2

/-- What has captured a number calls the host function that was issued with the number, as long as
that function holds while the arguments are written. -/
theorem call_answered {f : HostFunction} {r : Ref} {id : Nat} {c : Closure} {receiver : Value}
    {args : Array Value} (h : Captures s.1 r id c t raw) (hf : s.2.registry.function? id = some f)
    (hjson : HasJson s.1 j p)
    (hwritten : ∀ w s', written hostCall n r c t receiver args s = .ok w s' → Holds raw s s') :
    (Engine.interp hostCall (n + 6)).call (.object r) receiver args s =
      asks hostCall n r c t j p (answers n raw f) receiver args s := by
  refine (call_captured h hjson).trans (asks_same fun w s' hrun => ?_)
  have hholds := hwritten w s' hrun
  exact rawCall_answers (hholds.function.trans h.native) (hholds.issued.function? hf)

/-- A function as it was, with whatever else has become of the object. -/
def steadyObject (o o' : Object) : Object :=
  match o.kind with
  | .closure _ | .native _ => { o' with kind := o.kind }
  | _ => o'

/-- Whether a scope is that of a call of the bridge. -/
def isCaptured (c : Scope) : Bool :=
  c.parent == some 0 && c.bindings.size == 1 && c.bindings[0]?.any (·.name == rawName)

/-- What has become of a machine, with its functions and what they have captured as they were. -/
def steadyMachine (m m' : Machine) : Machine :=
  { m' with
    objects := ((List.range (max m.objects.size m'.objects.size)).map fun i =>
      steadyObject (objectAt m ⟨i⟩) (objectAt m' ⟨i⟩)).toArray
    scopes := ((List.range (max m.scopes.size m'.scopes.size)).map fun i =>
      if isCaptured (m.scopes[i]?.getD default) then m.scopes[i]?.getD default
      else m'.scopes[i]?.getD default).toArray }

/-- The functions that were issued, and those that have been issued since. -/
def steadyInstance (i i' : Instance Value) : Instance Value :=
  { i' with registry := { i'.registry with
    issued := (i.registry.issued.toList ++
      i'.registry.issued.toList.drop i.registry.issued.size).toArray } }

/-- A computation after which functions, what they have captured and what was issued are as they
were before. -/
def steadily {α : Type} (body : EngineM α) : EngineM α := fun s =>
  match body s with
  | .ok a s' => .ok a (steadyMachine s.1 s'.1, steadyInstance s.2 s'.2)
  | .error f s' => .error f (steadyMachine s.1 s'.1, steadyInstance s.2 s'.2)

/-- An engine that never touches a function, whatever a script does. -/
def steady (X : Interpreter Machine Value) : Interpreter Machine Value where
  evaluate code := steadily (X.evaluate code)
  call h args := steadily (X.call h args)
  dataText h := steadily (X.dataText h)
  addFunction id := steadily (X.addFunction id)

theorem objectAt_steady {m m' : Machine} {r : Ref} (hr : r.index < m.objects.size) :
    objectAt (steadyMachine m m') r = steadyObject (objectAt m r) (objectAt m' r) := by
  unfold steadyMachine objectAt
  have hlt : r.index < max m.objects.size m'.objects.size := by omega
  simp [hlt]

theorem captures_steady {m m' : Machine} {r raw : Ref} {id : Nat} {c : Closure} {t : Telling}
    (h : Captures m r id c t raw) : Captures (steadyMachine m m') r id c t raw := by
  have hr := index_lt_of_closure h.closure
  have hraw := index_lt_of_native h.native
  refine ⟨?_, h.code, ?_, ?_⟩
  · rw [objectAt_steady hr]
    simp [steadyObject, h.closure]
  · obtain ⟨sc, hsc, hbindings, hparent⟩ := h.scope
    refine ⟨sc, ?_, hbindings, hparent⟩
    have hsize := (Array.getElem?_eq_some_iff.mp hsc).1
    have hlt : c.scope < max m.scopes.size m'.scopes.size := by omega
    have hcaptured : isCaptured sc = true := by
      simp [isCaptured, hbindings, hparent, Variable.mutableBinding]
    simp [steadyMachine, hlt, hsc, hcaptured]
  · rw [objectAt_steady hraw]
    simp [steadyObject, h.native]

theorem keeps_steady (s s' : Machine × Host) :
    Keeps (fun _ => True) s (steadyMachine s.1 s'.1, steadyInstance s.2 s'.2) where
  issued := List.prefix_append _ _
  stays _ := trivial
  captured _ _ _ _ _ _ h := captures_steady h

theorem steadily_keeping {α : Type} (body : EngineM α) :
    Keeping (Keeps fun _ => True) (steadily body) := by
  intro s
  unfold steadily
  cases body s with
  | ok a s' => exact ⟨keeps_steady s s', trivial⟩
  | error f s' => exact ⟨keeps_steady s s', trivial⟩

theorem keepsFunctions_steady (X : Interpreter Machine Value) :
    KeepsFunctions (steady X) fun _ => True :=
  ⟨fun _ => steadily_keeping _, fun _ _ => steadily_keeping _, fun _ => steadily_keeping _,
    fun _ => steadily_keeping _⟩

/-! ## A function that is kept -/

/-- What stands in the way of no call of the bridge: the objects that its function needs, and few
others. -/
def bridgedRealm : Machine :=
  let build : Realm.Build Unit := do
    let g := Intrinsic.globalObject.ref
    Realm.install Intrinsic.functionPrototype.ref [("call", 1, .functionMethod .call)]
    let ctor ← Realm.constructor "Object" 1 .object Intrinsic.objectPrototype.ref
    Realm.install ctor [("defineProperty", 3, .objectFunction .defineProperty)]
    Realm.install Intrinsic.objectPrototype.ref
      [("hasOwnProperty", 1, .objectMethod .hasOwnProperty)]
    let _ ← Realm.constructor "Array" 1 .array Intrinsic.arrayPrototype.ref
    Realm.install Intrinsic.arrayPrototype.ref [("slice", 2, .arrayMethod .slice)]
    let json ← newObject
    Realm.install json Realm.jsonFunctions
    putProperty g "JSON" (.hidden (.object json))
    putProperty g "undefined" (.fixed .undefined)
    putProperty g "globalThis" (.hidden (.object g))
  (endOf (build (Realm.bareMachine, ()))).1

/-- The state of an instance in the realm of the bridge, once the bridge is there. -/
def bridgedState : Machine × Host :=
  endOf (interpreter.run bridgeSource (bridgedRealm, Instance.blank Value))

/-- The script of the bridge is run from its tree on. -/
theorem run_bridgeTree : interpreter.run bridgeSource = runTree (givenProgram bridgeFunction) :=
  run_parsed checkCode_bridgeSource parse_bridgeSource

/-- The host function that is called, or the function object of the bridge, as it was found. -/
def bridging? (m : Machine) (id : Nat) : Option Ref :=
  match constant? m (Utf16.ofText Interpreter.bridgeName),
    constant? m (Utf16.ofText (Registry.hiddenName id)) with
  | some (.object b), some (.object raw) =>
    match (objectAt m b).kind, (objectAt m raw).kind with
    | .closure c, .native (.host i) =>
      if c.scope = 0 ∧ i = id ∧ (bridge? c.code).isSome then some raw else none
    | _, _ => none
  | _, _ => none

theorem canBridge_of {m : Machine} {id : Nat} (h : bridging? m id = some raw) :
    ∃ t, CanBridge m id t raw := by
  unfold bridging? at h
  split at h
  · rename_i b raw' hbridge hhidden
    split at h
    · rename_i c i hclosure hnative
      split at h
      · rename_i hall
        cases h
        obtain ⟨hscope, rfl, hcode⟩ := hall
        obtain ⟨t, ht⟩ := Option.isSome_iff_exists.mp hcode
        exact ⟨t, ⟨b, c, hasConstant_of hbridge, hclosure, bridges_of ht, hscope⟩,
          hasConstant_of hhidden, hnative⟩
      · cases h
    · cases h
  · cases h

/-- The reader of data, where scripts find it. -/
def reader? (m : Machine) : Option (Ref × Value) :=
  match constant? m jsonName with
  | some (.object j) =>
    match (objectAt m j).kind, (objectAt m j).own? (.name parseName) with
    | .ordinary, some ⟨.data p _, _, _⟩ => some (j, p)
    | _, _ => none
  | _ => none

theorem hasJson_of {m : Machine} (h : reader? m = some (j, p)) : HasJson m j p := by
  unfold reader? at h
  split at h
  · rename_i j' hjson
    split at h
    · rename_i hkind hown
      cases h
      refine ⟨hasConstant_of hjson, fun _ _ _ => ?_, ⟨_, _, _, hown⟩⟩
      rw [hkind]
      exact fun h => nomatch h
    · cases h
  · cases h

/-- Whether a function of the host that returns a number or calls a script function is another one. -/
def isSame : HostFunction → HostFunction → Bool
  | ⟨.str p, .function i (.returns (.int a))⟩, ⟨.str q, .function l (.returns (.int b))⟩ =>
    p == q && i == l && a == b
  | ⟨.str p, .function i (.runFunction (.str a))⟩, ⟨.str q, .function l (.runFunction (.str b))⟩ =>
    p == q && i == l && a == b
  | _, _ => false

/-- Whether some of these functions are the first of others. -/
def areFirst : List HostFunction → List HostFunction → Bool
  | [], _ => true
  | f :: fs, g :: gs => isSame f g && areFirst fs gs
  | _ :: _, [] => false

theorem prefix_of_areFirst {fs gs : List HostFunction} (h : areFirst fs gs = true) : fs <+: gs := by
  induction fs generalizing gs with
  | nil => exact List.nil_prefix
  | cons f fs ih =>
      cases gs with
      | nil => cases h
      | cons g gs =>
          obtain ⟨hsame, hrest⟩ := Bool.and_eq_true_iff.mp h
          have hfg : f = g := by
            unfold isSame at hsame
            split at hsame
            iterate 2
              · simp only [Bool.and_eq_true, beq_iff_eq] at hsame
                obtain ⟨⟨rfl, rfl⟩, rfl⟩ := hsame
                rfl
            · cases hsame
          rw [hfg]
          exact List.cons_prefix_cons.mpr ⟨rfl, ih hrest⟩

/-- Whether a host function is seen to hold. -/
def holds (raw : Ref) (s s' : Machine × Host) : Bool :=
  match (objectAt s.1 raw).kind, (objectAt s'.1 raw).kind with
  | .native (.host i), .native (.host l) =>
    i == l && areFirst s.2.registry.issued.toList s'.2.registry.issued.toList
  | _, _ => false

theorem holds_of {raw : Ref} (h : holds raw s s' = true) : Holds raw s s' := by
  unfold holds at h
  split at h
  · rename_i i l hi hl
    obtain ⟨hsame, hfirst⟩ := Bool.and_eq_true_iff.mp h
    refine ⟨?_, prefix_of_areFirst hfirst⟩
    rw [hi, hl, beq_iff_eq.mp hsame]
  · cases h

/-- A host function that returns a number. -/
def returning (id : Nat) (i : Int) : HostValue := .function id (.returns (.int i))

/-- Whether a function object writes its arguments with its host function holding, and gives a
number in the end. -/
def givesSeven (r raw : Ref) (s : Machine × Host) : Bool :=
  match (objectAt s.1 r).kind with
  | .closure c =>
    match telling? c.code with
    | some t =>
      (match written hostCall 30 r c t .undefined #[] s with
        | .ok _ s' => holds raw s s'
        | .error _ _ => true) &&
      (match (Engine.interp hostCall 36).call (.object r) .undefined #[] s with
        | .ok (.int i) _ => i == 7
        | _ => false)
    | none => false
  | _ => false

/-- Whether what has been said of kept references can be seen on an engine: a function is bound, the
bridge makes an object of it, a module is registered, and the object is called. -/
def isKept (X : Interpreter Machine Value) (s₀ : Machine × Host) : Bool :=
  match X.bindFunction (.ofString "m") (returning 0 7) ([], s₀) with
  | .ok _ (_, s₁) =>
    match bridging? s₁.1 s₀.2.registry.nextId,
      (Engine.interp hostCall 36).evaluate ⟨0, false, false⟩
        (bridging s₀.2.registry.nextId 1) s₁ with
    | some raw, .ok (.object r) s₂ =>
      let s₃ := endOf (X.register (.ofString "m") (returning 1 8) s₂)
      (reader? s₃.1).isSome && givesSeven r raw s₃
    | _, _ => false
  | .error _ _ => false


theorem isKept_steady : isKept (steady interpreter) bridgedState = true := by
  rw [bridgedState, run_bridgeTree]
  decide +kernel

/-- A script that lets the second host function be found under its name as the first. -/
def trapScript : Text :=
  "var raw = __jsvm_host_0; Object.defineProperty(globalThis, '__jsvm_host_1', \x7bget: function()\x7breturn raw\x7d, set: function()\x7b\x7d\x7d)"

/-- What calling a function of the second of two modules gives, where a script runs in between. -/
def afterTrap (script : Text) (s₀ : Machine × Host) : Option Int :=
  match interpreter.register (.ofString "a") (.ofFields [("f", returning 0 7)]) s₀ with
  | .ok _ s₁ =>
    match interpreter.run script s₁ with
    | .ok _ s₂ =>
      match interpreter.register (.ofString "b") (.ofFields [("f", returning 1 8)]) s₂ with
      | .ok _ s₃ =>
        match interpreter.run "b.f()" s₃ with
        | .ok (.plain (.int i)) _ => some i
        | _ => none
      | .error _ _ => none
    | .error _ _ => none
  | .error _ _ => none

/-- How often a function has been called, where its call with something that has no JSON text has
failed. -/
def afterBigint (s₀ : Machine × Host) : Option Nat :=
  match interpreter.register (.ofString "a") (.ofFields [("f", returning 0 7)]) s₀ with
  | .ok _ s₁ =>
    match interpreter.run "a.f(1n)" s₁ with
    | .error _ s₂ => some (s₂.2.counts.get 0)
    | .ok _ _ => none
  | .error _ _ => none

theorem afterTrap_and_afterBigint :
    (afterTrap trapScript bridgedState, afterBigint bridgedState) = (some 7, some 0) := by
  rw [bridgedState, run_bridgeTree, trapScript, ofString_ofList]
  decide +kernel

theorem runs_of_afterTrap {script : Text} {i : Int} (h : afterTrap script s = some i) :
    ∃ s₁ v s₂ s₃ s₄,
      interpreter.register (.ofString "a") (.ofFields [("f", returning 0 7)]) s = .ok () s₁ ∧
      interpreter.run script s₁ = .ok v s₂ ∧
      interpreter.register (.ofString "b") (.ofFields [("f", returning 1 8)]) s₂ = .ok () s₃ ∧
      interpreter.run "b.f()" s₃ = .ok (.plain (.int i)) s₄ := by
  unfold afterTrap at h
  split at h
  · rename_i s₁ hfirst
    split at h
    · rename_i v s₂ hscript
      split at h
      · rename_i s₃ hsecond
        split at h
        · rename_i s₄ hrun
          cases h
          exact ⟨s₁, v, s₂, s₃, s₄, hfirst, hscript, hsecond, hrun⟩
        · cases h
      · cases h
    · cases h
  · cases h

theorem runs_of_afterBigint {n : Nat} (h : afterBigint s = some n) :
    ∃ s₁ f s₂,
      interpreter.register (.ofString "a") (.ofFields [("f", returning 0 7)]) s = .ok () s₁ ∧
      interpreter.run "a.f(1n)" s₁ = .error f s₂ ∧ s₂.2.counts.get 0 = n := by
  unfold afterBigint at h
  split at h
  · rename_i s₁ hregister
    split at h
    · rename_i f s₂ hrun
      cases h
      exact ⟨s₁, f, s₂, hregister, hrun, rfl⟩
    · cases h
  · cases h

end ScriptHost.Proofs.KeptReferences
