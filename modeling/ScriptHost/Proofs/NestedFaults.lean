import ScriptHost.Proofs.AnsweredCalls
import ScriptHost.Proofs.IntactTexts
import ScriptHost.Proofs.ReachedCalls

/-!
# Faults that pass several boundaries

A script function calls a host function, which calls a script function by its name, and so on.  What
goes wrong in the last one is told to the first caller, with the names of the functions that it has
passed in between, as long as none of them catches it.  What a function gives instead is what its caller
goes on with.
-/

namespace ScriptHost.Proofs.NestedFaults

open Script Script.Eval ScriptEngine Interpreter
open ScriptHost.Proofs.AnsweredCalls
open ScriptHost.Proofs.AnsweredCalls.BridgedCall (engine)
open ScriptHost.Proofs.Bridge
open ScriptHost.Proofs.CallBoundary
open ScriptHost.Proofs.Conclusions
open ScriptHost.Proofs.DataTrees (IsFinite)
open ScriptHost.Proofs.ErrorTexts
open ScriptHost.Proofs.Evaluation
open ScriptHost.Proofs.IntactTexts
open ScriptHost.Proofs.KeptReferences
open ScriptHost.Proofs.PropertyChains
open ScriptHost.Proofs.ReachedCalls
open ScriptHost.Proofs.Replies

variable {n k id : Nat} {name next args d : HostValue} {items names : List HostValue}
  {s s' s₁ s₂ t t' t₁ : Machine × Host} {f a l p proto : Ref} {x : BridgedCall} {q : HostValue}
  {e : Fault} {v w : Value} {m u errorName : Text}

/-! ## Texts in order -/

/-- Texts occur in a text one after the other. -/
def InOrder : List Text → Text → Prop
  | [], _ => True
  | u :: us, t => ∃ before after, t = before ++ u ++ after ∧ InOrder us after

theorem InOrder.append_left {us : List Text} {t : Text} (before : Text) (h : InOrder us t) :
    InOrder us (before ++ t) := by
  cases us with
  | nil => trivial
  | cons u us =>
      obtain ⟨front, back, rfl, hmore⟩ := h
      exact ⟨before ++ front, back, by simp, hmore⟩

theorem InOrder.append_right {us : List Text} {t : Text} (after : Text) (h : InOrder us t) :
    InOrder us (t ++ after) := by
  induction us generalizing t with
  | nil => trivial
  | cons u us ih =>
      obtain ⟨front, back, rfl, hmore⟩ := h
      exact ⟨front, back ++ after, by simp, ih hmore⟩

theorem InOrder.self (u : Text) : InOrder [u] u := ⟨[], [], by simp, trivial⟩

/-! ## Calls by name -/

/-- A call by name at a level finds a function, and is about to apply it to a list of its arguments. -/
structure Invokes (n : Nat) (name args : HostValue) (s s₁ : Machine × Host) (f a l : Ref) : Prop where
  arguments : ∃ items, args.normalizeArguments = .ok items ∧ ∃ found s₀,
    (engine n).locate name s = .ok found s₀ ∧ found.function = .object f ∧
    s.2.applier = .handle (.object a) ∧
    (engine n).listOfHost items s₀ = .ok (.handle (.object l)) s₁

/-- The application of a function to a list. -/
def applying (n : Nat) (f a l : Ref) : Eval Host Value :=
  (Engine.interp hostCall (n + 1)).call (.object a) .undefined #[.object f, .object l]

/-- What comes out of the engine at the end of a computation. -/
def givenBy (n : Nat) (body : Eval Host Value) : EngineM (Passed Value) := do
  HostM.ofExcept (passed (← perform (Engine.interp hostCall (n + 1)) body))

/-- The same as a host value. -/
def handed (n : Nat) (body : Eval Host Value) : EngineM HostValue := do
  (engine n).toHost (← givenBy n body)

/-- A call by name hands over what the application gives, and otherwise fails for the function. -/
theorem invoke_eq (h : Invokes n name args s s₁ f a l) :
    (engine n).invoke name args s =
      EStateM.tryCatch (handed n (applying n f a l)) (failCall name) s₁ := by
  obtain ⟨items, hargs, found, s₀, hlocate, hfound, happlier, hlist⟩ := h.arguments
  have hprotected : protectedCall (engine n) (.handle (.object a)) (.object f) items s₀ =
      handed n (applying n f a l) s₁ := by
    change EStateM.bind ((engine n).listOfHost items) _ s₀ = _
    unfold EStateM.bind
    rw [hlist]
    rfl
  rw [invoke_located hargs hlocate, hfound, happlier]
  unfold EStateM.tryCatch
  rw [hprotected]

/-- A failed call whose fault is an exception of the engine fails with its message. -/
theorem failCall_script (hscript : e.cls.isScript = true) (hm : e.message? = some m)
    (s : Machine × Host) : ∃ s', (failCall name e : EngineM HostValue) s =
      .error (.failure (.functionRuntime name (.str m) (some e.cls))) s' := by
  change ∃ s', EStateM.bind (HostM.wording e) _ s = _
  unfold EStateM.bind HostM.wording
  rw [hm]
  change ∃ s', (if e.cls.isScript = true then _ else _ : EngineM HostValue) s = _
  rw [if_pos hscript]
  exact ⟨_, rfl⟩

/-! ## What an uncaught error becomes -/

theorem message_errorFault (text stack : Utf16) :
    (errorFault text stack).message? = some (lossyText text ++ "\n" ++ lossyText stack) := by
  unfold errorFault
  dsimp only
  split <;> rfl

/-- An error with a message that crosses the boundary is worded with it. -/
theorem shown_of_intact (hname : IsIntact errorName) (hm : IsIntact m) (hne : m ≠ []) :
    ∃ before, lossyText (errorShown (Utf16.ofText errorName) (Utf16.ofText m)) = before ++ m := by
  unfold errorShown
  rw [isEmpty_ofText, isEmpty_ofText]
  cases errorName with
  | nil => exact ⟨[], by simpa using lossyText_of_intact hm⟩
  | cons c cs =>
      have hsep : IsIntact (Text.ofString ": ") := isIntact_of_plain (by decide)
      refine ⟨(c :: cs) ++ Text.ofString ": ", ?_⟩
      rw [if_neg (by simp), if_neg (by simpa using hne), Utf16.ofString, ← ofText_append,
        ← ofText_append]
      exact lossyText_of_intact ((hname.append hsep).append hm)

theorem made_shows (h : IsMade s.1 p proto (Utf16.ofText m))
    (hmembers : ErrorMembers s.1 proto (Utf16.ofText errorName)) :
    ∃ stack, ShowsError s.1 p (Utf16.ofText errorName) (Utf16.ofText m) stack := by
  obtain ⟨stack, hobject⟩ := h.object
  have hget (k : PropertyKey) : (objectAt s.1 p).own? k =
      (errorObject proto (Utf16.ofText m) stack).properties.get? k := by
    rw [hobject]
    rfl
  have hordinary : IsOrdinary s.1 p := ⟨h.inRange, by rw [hobject]; exact fun _ _ _ h => nomatch h⟩
  refine ⟨stack, hmembers.shows hordinary (by rw [hobject]; rfl) (fun k hk => (hget k).trans ?_)
    ((hget _).trans ?_) ((hget _).trans (BuiltData.get_put_self _ _ _))⟩
  · obtain ⟨hmessage, hstack⟩ : k ≠ "message" ∧ k ≠ "stack" := by
      revert k
      unfold inheritedKeys
      decide
    refine (BuiltData.get_put_ne _ _ hstack).trans ((BuiltData.get_put_ne _ _ hmessage).trans ?_)
    simp [Object.bare, PropertyTable.get?, PropertyTable.place?, PropertyTable.empty]
  · exact (BuiltData.get_put_ne _ _ (by decide)).trans (BuiltData.get_put_self _ _ _)

/-- A function that is called by its name and does not catch an error fails with a reason that holds the
message of the error. -/
theorem fails_of_thrown (h : Invokes n name args s s₁ f a l)
    (hthrown : applying n f a l s₁ = .error (.thrown (.object p)) s₂)
    (hroom : s₂.1.depth ≤ Engine.callLimit) {stack : Utf16}
    (hshown : ShowsError s₂.1 p (Utf16.ofText errorName) (Utf16.ofText m) stack)
    (hname : IsIntact errorName) (hm : IsIntact m) (hne : m ≠ []) :
    ∃ before after cause s', IsIntact (before ++ m ++ after) ∧ (engine n).invoke name args s =
      .error (.failure (.functionRuntime name (.str (before ++ m ++ after)) cause)) s' := by
  obtain ⟨before, hbefore⟩ := shown_of_intact hname hm hne
  have hfault := thrownFault_run (d := n) hshown hroom
  have hperform : handed n (applying n f a l) s₁ =
      .error (errorFault (errorShown (Utf16.ofText errorName) (Utf16.ofText m)) stack) s₂ := by
    change EStateM.bind (EStateM.bind (perform _ _) _) _ s₁ = _
    unfold EStateM.bind perform
    rw [hthrown]
    dsimp only
    rw [hfault]
  obtain ⟨s', hfail⟩ := failCall_script (isScript_errorFault _ _)
    (message_errorFault (errorShown (Utf16.ofText errorName) (Utf16.ofText m)) stack) s₂
  refine ⟨before, "\n" ++ lossyText stack,
    some (errorFault (errorShown (Utf16.ofText errorName) (Utf16.ofText m)) stack).cls, s', ?_, ?_⟩
  · rw [← hbefore]
    exact (isIntact_lossyText _).append (IsIntact.append (isIntact_of_plain (by decide)) (isIntact_lossyText _))
  · rw [invoke_eq h]
    unfold EStateM.tryCatch
    rw [hperform]
    rw [hbefore, List.append_assoc] at hfail
    exact hfail

/-! ## Host functions that call by name -/

/-- A call of a host function has been counted. -/
def counting (id : Nat) (s : Machine × Host) : Machine × Host :=
  (s.1, { s.2 with counts := s.2.counts.increment id })

/-- The host function calls the script function under a name with the arguments that it is given. -/
structure CallsBack (x : BridgedCall) (q : HostValue) (id : Nat) (next : HostValue)
    (items : List HostValue) : Prop where
  target : x.function.target = .function id (.runFunction next)
  arguments : HostFunction.arguments x.function.target q = .ok items

theorem called_back (h : CallsBack x q id next items) (s : Machine × Host) :
    called (engine k) x.function q s = (engine k).invoke next (.list items) (counting id s) := by
  obtain ⟨htarget, harguments⟩ := h
  unfold called
  rw [harguments, htarget]
  have harity : (Behaviour.runFunction next).checkArity items.length = .ok () := by
    unfold Behaviour.checkArity Behaviour.parameters
    simp
  change (engine k).callPlain id (.runFunction next) items s = _
  unfold Interpreter.callPlain
  rw [harity]
  rfl

/-- What the call by name fails with is what the host function raises. -/
theorem outcome_failed (h : CallsBack x q id next items)
    (hinvoke : (engine k).invoke next (.list items) (counting id (x.start t₁)) = .error e s') :
    x.outcome k t₁ q = .error e := by
  unfold BridgedCall.outcome ending
  rw [called_back h, hinvoke]
  rfl

/-- What the call by name gives is what the host function returns. -/
theorem outcome_returned (h : CallsBack x q id next items)
    (hinvoke : (engine k).invoke next (.list items) (counting id (x.start t₁)) = .ok d s') :
    x.outcome k t₁ q = returnedData (.ok d) := by
  unfold BridgedCall.outcome ending
  rw [called_back h, hinvoke]

/-! ## One level -/

/-- A computation comes to a call of a host function and does not catch what it throws.  Errors of the
bridge are shown with a name of their own when the reply comes back. -/
structure Uncaught (body : Eval Host Value) (s : Machine × Host) (x : BridgedCall) (k : Nat)
    (t t₁ : Machine × Host) (q : HostValue) (errorName : Text) : Prop where
  asks : x.Asks k t t₁ q
  passes : LetsThrough body s (x.run k) t
  members : ErrorMembers (x.replied k t₁ q).1 x.tools.errorPrototype (Utf16.ofText errorName)
  intact : IsIntact errorName

/-- A function that does not catch what a host function raises fails with a reason that holds the message
of what was raised. -/
theorem Uncaught.fails (h : Uncaught (applying n f a l) s₁ x k t t₁ q errorName)
    (hinvokes : Invokes n name args s s₁ f a l) (he : x.outcome k t₁ q = .error e)
    (hm : e.message? = some u) (hintact : IsIntact u) (hne : u ≠ []) :
    ∃ before after cause s', IsIntact (before ++ u ++ after) ∧ (engine n).invoke name args s =
      .error (.failure (.functionRuntime name (.str (before ++ u ++ after)) cause)) s' := by
  obtain ⟨p, t', hrun, hmade, hobjects, hroom⟩ := BridgedCall.run_throws h.asks he hm
  have htext : errorText e u = u := if_neg (by simpa using hne)
  rw [htext] at hmade
  obtain ⟨stack, hshown⟩ := made_shows hmade (h.members.of_objects hobjects)
  obtain ⟨s₂, hthrown, hdepth, hstays⟩ := h.passes p t' hrun
  exact fails_of_thrown hinvokes hthrown (Nat.le_trans hdepth hroom) (hstays _ _ _ hshown) h.intact
    hintact hne

/-! ## Chains of calls -/

/-- What is told of a function under a name that has failed. -/
def ranFailed (name : HostValue) : Text := "function " ++ Failure.shown name ++ " run failed"

/-- A call by name comes down to an error with a message: the function throws it or calls a host function
that raises it, or it calls a host function that calls another function by name, and this comes down to
the error.  None of them catches anything.  The names that are passed on the way are listed. -/
inductive Falls (m : Text) : Nat → HostValue → HostValue → Machine × Host → List HostValue → Prop
  | throws {n : Nat} {name args : HostValue} {s s₁ s₂ : Machine × Host} {f a l p : Ref}
    {errorName : Text} {stack : Utf16} (invokes : Invokes n name args s s₁ f a l)
    (thrown : applying n f a l s₁ = .error (.thrown (.object p)) s₂)
    (room : s₂.1.depth ≤ Engine.callLimit)
    (shown : ShowsError s₂.1 p (Utf16.ofText errorName) (Utf16.ofText m) stack)
    (intact : IsIntact errorName) : Falls m n name args s []
  | raises {n k : Nat} {name args q : HostValue} {s s₁ t t₁ : Machine × Host} {f a l : Ref}
    {x : BridgedCall} {errorName : Text} {e : Fault} (invokes : Invokes n name args s s₁ f a l)
    (uncaught : Uncaught (applying n f a l) s₁ x k t t₁ q errorName)
    (raised : x.outcome k t₁ q = .error e) (worded : e.message? = some m) : Falls m n name args s []
  | calls {n k id : Nat} {name args next q : HostValue} {items names : List HostValue}
    {s s₁ t t₁ : Machine × Host} {f a l : Ref} {x : BridgedCall} {errorName : Text}
    (invokes : Invokes n name args s s₁ f a l)
    (uncaught : Uncaught (applying n f a l) s₁ x k t t₁ q errorName)
    (back : CallsBack x q id next items)
    (below : Falls m k next (.list items) (counting id (x.start t₁)) names) :
    Falls m n name args s (next :: names)

theorem message_functionRuntime (name : HostValue) (u : Text) (cause : Option FaultClass) :
    (Fault.failure (.functionRuntime name (.str u) cause)).message? =
      some (ranFailed name ++ (" - " ++ u)) := by
  have htext : (Failure.functionRuntime name (.str u) cause).message? =
      some ("function " ++ Failure.shown name ++ " run failed - " ++ u) := rfl
  have hparts : Text.ofString " run failed - " = Text.ofString " run failed" ++ Text.ofString " - " := by
    decide
  change (Failure.functionRuntime name (.str u) cause).message? = _
  rw [htext, hparts]
  simp [ranFailed]

theorem ranFailed_ne_nil (name : HostValue) (u : Text) : ranFailed name ++ u ≠ [] := by
  have hne : Text.ofString "function " ≠ [] := by decide
  simp [ranFailed, hne]

/-- By induction on the chain: each level puts its own text around the message of the level below. -/
theorem falls_fails (h : Falls m n name args s names) (hm : IsIntact m) (hne : m ≠ [])
    (hnames : ∀ next ∈ names, IsIntact (Failure.shown next)) :
    ∃ reason cause s', IsIntact reason ∧ InOrder (names.map ranFailed ++ [m]) reason ∧
      (engine n).invoke name args s =
        .error (.failure (.functionRuntime name (.str reason) cause)) s' := by
  induction h with
  | throws invokes thrown room shown intact =>
      obtain ⟨before, after, cause, s', hreason, hrun⟩ :=
        fails_of_thrown invokes thrown room shown intact hm hne
      exact ⟨_, cause, s', hreason, ((InOrder.self m).append_left before).append_right after, hrun⟩
  | raises invokes uncaught raised worded =>
      obtain ⟨before, after, cause, s', hreason, hrun⟩ := uncaught.fails invokes raised worded hm hne
      exact ⟨_, cause, s', hreason, ((InOrder.self m).append_left before).append_right after, hrun⟩
  | @calls n k id name args next q items names s s₁ t t₁ f a l x errorName invokes uncaught back _ ih =>
      obtain ⟨reason, cause, s', hreason, horder, hrun⟩ :=
        ih fun other hother => hnames other (List.mem_cons_of_mem _ hother)
      have hword : IsIntact (ranFailed next ++ (" - " ++ reason)) :=
        (((isIntact_of_plain (by decide)).append (hnames next List.mem_cons_self)).append
          (isIntact_of_plain (by decide))).append ((isIntact_of_plain (by decide)).append hreason)
      obtain ⟨before, after, cause', s'', hwhole, hfails⟩ := uncaught.fails invokes
        (outcome_failed back hrun) (message_functionRuntime next reason cause) hword
        (ranFailed_ne_nil next _)
      refine ⟨_, cause', s'', hwhole, InOrder.append_right after (InOrder.append_left before ?_), hfails⟩
      exact ⟨[], _, rfl, horder.append_left _⟩

/-- A call by name gives a value: its function returns, or it calls a host function that calls another
function by name, which gives a value in turn, and goes on with the image of this. -/
inductive Recovers : Nat → HostValue → HostValue → Machine × Host → HostValue → Prop
  | returns {n : Nat} {name args d : HostValue} {s s₁ s₂ : Machine × Host} {f a l : Ref}
    (invokes : Invokes n name args s s₁ f a l)
    (returned : handed n (applying n f a l) s₁ = .ok d s₂) : Recovers n name args s d
  | goesOn {n k id : Nat} {name args next q d given image : HostValue} {items : List HostValue}
    {s s₁ t t₁ : Machine × Host} {f a l : Ref} {x : BridgedCall} {rest : Value → Eval Host Value}
    (invokes : Invokes n name args s s₁ f a l) (asks : x.Asks k t t₁ q)
    (back : CallsBack x q id next items)
    (below : Recovers k next (.list items) (counting id (x.start t₁)) given)
    (data : returnedData (.ok given) = .ok image) (finite : IsFinite image)
    (goes : GoesOn (applying n f a l) s₁ (x.run k) t rest)
    (ends : ∀ w t', IsImage t'.1 w image → ∃ s₂, handed n (rest w) t' = .ok d s₂) :
    Recovers n name args s d

/-- The script gets the image of what a function gives that is called back, and no error. -/
theorem image_of_returned {given image : HostValue} (hasks : x.Asks k t t₁ q)
    (hback : CallsBack x q id next items)
    (hinvoke : ∃ s', (engine k).invoke next (.list items) (counting id (x.start t₁)) = .ok given s')
    (hdata : returnedData (.ok given) = .ok image) (hfinite : IsFinite image) :
    ∃ w t', x.run k t = .ok w t' ∧ IsImage t'.1 w image := by
  obtain ⟨s', hrun⟩ := hinvoke
  exact BridgedCall.run_value hasks ((outcome_returned hback hrun).trans hdata) hfinite

theorem handed_congr {body body' : Eval Host Value} (h : body s = body' s') :
    handed n body s = handed n body' s' := by
  change EStateM.bind (EStateM.bind (perform _ body) _) _ s =
    EStateM.bind (EStateM.bind (perform _ body') _) _ s'
  unfold EStateM.bind perform
  rw [h]

theorem invoke_handed (h : Invokes n name args s s₁ f a l)
    (hreturned : handed n (applying n f a l) s₁ = .ok d s₂) :
    (engine n).invoke name args s = .ok d s₂ := by
  rw [invoke_eq h]
  unfold EStateM.tryCatch
  rw [hreturned]

/-- By induction on the chain: each level goes on with the image of what the level below gives. -/
theorem recovers_returns (h : Recovers n name args s d) :
    ∃ s', (engine n).invoke name args s = .ok d s' := by
  induction h with
  | returns invokes returned => exact ⟨_, invoke_handed invokes returned⟩
  | goesOn invokes asks back _ data finite goes ends ih =>
      obtain ⟨w, t', hrun, himage⟩ := image_of_returned asks back ih data finite
      obtain ⟨s₂, hhanded⟩ := ends w t' himage
      exact ⟨s₂, invoke_handed invokes ((handed_congr (goes w t' hrun)).trans hhanded)⟩

/-- A chain of calls by name through host functions comes down to an error with a message: then the
first call fails with its own name, and its reason tells of each function that was passed in their order
and then the message, as long as the names and the message have no zero characters and no surrogates.  If
one of the functions gives a value instead, which can be told, its caller gets the image of this and sees
no error; and the first call gives what it comes to in the end by going on so. -/
theorem faults_survive_boundaries (hm : IsIntact m) (hne : m ≠ []) :
    (∀ n name args s names, Falls m n name args s names →
      (∀ next ∈ names, IsIntact (Failure.shown next)) →
      ∃ reason cause s', InOrder (names.map ranFailed ++ [m]) reason ∧
        (engine n).invoke name args s =
          .error (.failure (.functionRuntime name (.str reason) cause)) s') ∧
    (∀ n name args s d, Recovers n name args s d → ∃ s', (engine n).invoke name args s = .ok d s') ∧
    ∀ k id next q items given image t t₁ (x : BridgedCall), x.Asks k t t₁ q →
      CallsBack x q id next items →
      Recovers k next (.list items) (counting id (x.start t₁)) given →
      returnedData (.ok given) = .ok image → IsFinite image →
      ∃ w t', x.run k t = .ok w t' ∧ IsImage t'.1 w image := by
  refine ⟨fun n name args s names hfalls hnames => ?_, fun n name args s d => recovers_returns,
    fun k id next q items given image t t₁ x hasks hback hbelow hdata hfinite =>
      image_of_returned hasks hback (recovers_returns hbelow) hdata hfinite⟩
  obtain ⟨reason, cause, s', -, horder, hrun⟩ := falls_fails hfalls hm hne hnames
  exact ⟨reason, cause, s', horder, hrun⟩

/-- Calls that the host makes are made at the highest level. -/
theorem engine_top : engine (Engine.nesting - 1) = interpreter := rfl

/-! ## Chains that can be seen -/

/-- What a call by name applies to what, and the state in which it does. -/
def invoked? (n : Nat) (name args : HostValue) (s : Machine × Host) :
    Option (Ref × Ref × Ref × (Machine × Host)) :=
  match args.normalizeArguments, (engine n).locate name s, s.2.applier with
  | .ok items, .ok ⟨_, .object f⟩ s₀, .handle (.object a) =>
    match (engine n).listOfHost items s₀ with
    | .ok (.handle (.object l)) s₁ => some (f, a, l, s₁)
    | _ => none
  | _, _, _ => none

theorem invokes_of (h : invoked? n name args s = some (f, a, l, s₁)) : Invokes n name args s s₁ f a l := by
  unfold invoked? at h
  split at h
  · rename_i items k f' s₀ a' hargs hlocate happlier
    split at h
    · rename_i l' s₁' hlist
      cases h
      exact ⟨items, hargs, _, s₀, hlocate, rfl, happlier, hlist⟩
    · cases h
  · cases h

/-- The call of a host function that a function comes to which is called by its name, and what it asks. -/
def passed? (k : Nat) (name args : HostValue) (s : Machine × Host) :
    Option (BridgedCall × (Machine × Host) × HostValue) := do
  let (f, a, l, s₁) ← invoked? (k + 13) name args s
  let (c, g, values) ← appliance? s₁ a f l
  let (y, t) ← impending? (k + 6) f values (inApply a c f g l s₁)
  match y.function with
  | .object r => do
    let x ← bridgedCall? t r
    let (t₁, q) ← BridgedCall.asked? { x with receiver := y.receiver, args := y.args } k t
    some ({ x with receiver := y.receiver, args := y.args }, t₁, q)
  | _ => none

/-- A function that is called by its name comes to a call of a host function and hands back what this
gives. -/
theorem passes_of (h : passed? k name args s = some (x, t₁, q)) :
    ∃ s₁ f a l t rest, Invokes (k + 13) name args s s₁ f a l ∧ x.Asks k t t₁ q ∧ HandsBack rest ∧
      Reaches (x.run k) t (applying (k + 13) f a l) s₁ rest := by
  unfold passed? at h
  simp only [Option.bind_eq_bind, Option.bind_eq_some_iff] at h
  obtain ⟨⟨f, a, l, s₁⟩, hinvoked, ⟨c, g, values⟩, happliance, ⟨y, t⟩, himpending, h⟩ := h
  split at h
  · rename_i r hr
    simp only [Option.bind_eq_some_iff] at h
    obtain ⟨x', hx, ⟨t₁', q'⟩, hasked, h⟩ := h
    cases h
    have hasks := BridgedCall.asks_of hx hasked
    obtain ⟨rest, hback, hreaches⟩ := reaches_impending himpending
    obtain ⟨rest', hback', happlied⟩ := reaches_applied (canApply_of happliance) hback hreaches
    have hcall : y.call (k + 6) = BridgedCall.run { x' with receiver := y.receiver, args := y.args } k := by
      unfold Impending.call BridgedCall.run
      rw [hr, (bridgedCall_of hx).1]
    rw [hcall] at happlied
    exact ⟨s₁, f, a, l, t, rest', invokes_of hinvoked, hasks, hback', happlied⟩
  · cases h

/-- The call by name that a host function makes. -/
def callBack? (x : BridgedCall) (q : HostValue) : Option (Nat × HostValue × List HostValue) :=
  match x.function.target with
  | .function id (.runFunction next) =>
    match HostFunction.arguments x.function.target q with
    | .ok items => some (id, next, items)
    | .error _ => none
  | _ => none

theorem callsBack_of (h : callBack? x q = some (id, next, items)) : CallsBack x q id next items := by
  unfold callBack? at h
  split at h
  · rename_i htarget
    split at h
    · rename_i hitems
      cases h
      exact ⟨htarget, hitems⟩
    · cases h
  · cases h

/-- The name that the engine shows the errors with a prototype by. -/
def errorName? (m : Machine) (proto : Ref) : Option Utf16 :=
  match found? m KnownSymbol.toPrimitive.key m.objects.size proto,
    found? m "toString" m.objects.size proto, found? m "name" m.objects.size proto with
  | some none, some (some (.object f)), some (some (.string name)) =>
    match (objectAt m f).kind with
    | .native .errorToString => if f.index < m.objects.size then some name else none
    | _ => none
  | _, _, _ => none

theorem errorMembers_of {m : Machine} {name : Utf16} (h : errorName? m proto = some name) :
    ErrorMembers m proto name := by
  unfold errorName? at h
  split at h
  · rename_i f name' hprimitive htext hname
    split at h
    · rename_i hkind
      split at h
      · rename_i hrange
        cases h
        exact ⟨finds_of_found hprimitive, ⟨f, hrange, finds_of_found htext, hkind⟩, finds_of_found hname⟩
      · cases h
    · cases h
  · cases h

/-- The name and the message that an error is shown with. -/
def shown? (m : Machine) (p : Ref) : Option (Utf16 × Utf16) :=
  match found? m "message" m.objects.size p, found? m "stack" m.objects.size p, errorName? m p with
  | some (some (.string message)), some (some (.string _)), some name => some (name, message)
  | _, _, _ => none

theorem shows_of {m : Machine} {name message : Utf16} (h : shown? m p = some (name, message)) :
    ∃ stack, ShowsError m p name message stack := by
  unfold shown? at h
  split at h
  · rename_i message' stack name' hmessage hstack hname
    cases h
    obtain ⟨hprimitive, ⟨f, -, htext, hkind⟩, hname⟩ := errorMembers_of hname
    exact ⟨stack, hprimitive, ⟨f, htext, hkind⟩, hname, finds_of_found hmessage, finds_of_found hstack⟩
  · cases h

/-- Whether a function that is called by its name throws an error with a message. -/
def isThrown (errorName m : Text) (n : Nat) (name args : HostValue) (s : Machine × Host) : Bool :=
  match invoked? n name args s with
  | some (f, a, l, s₁) =>
    match applying n f a l s₁ with
    | .error (.thrown (.object p)) s₂ =>
      decide (s₂.1.depth ≤ Engine.callLimit ∧
        shown? s₂.1 p = some (Utf16.ofText errorName, Utf16.ofText m))
    | _ => false
  | none => false

theorem falls_of_thrown (h : isThrown errorName m n name args s = true) (hintact : IsIntact errorName) :
    Falls m n name args s [] := by
  unfold isThrown at h
  split at h
  · rename_i f a l s₁ hinvoked
    split at h
    · rename_i p s₂ hthrown
      obtain ⟨hroom, hshown⟩ := of_decide_eq_true h
      obtain ⟨stack, hshows⟩ := shows_of hshown
      exact .throws (invokes_of hinvoked) hthrown hroom hshows hintact
    · cases h
  · cases h

/-- Whether a function that is called by its name passes on an error of another one with a message. -/
def isPassed (errorName m next : Text) (k : Nat) (name args : HostValue) (s : Machine × Host) : Bool :=
  match passed? k name args s with
  | some (x, t₁, q) =>
    match callBack? x q with
    | some (id, .str u, items) =>
      decide (u = next ∧
        errorName? (x.replied k t₁ q).1 x.tools.errorPrototype = some (Utf16.ofText errorName)) &&
      isThrown errorName m k (.str u) (.list items) (counting id (x.start t₁))
    | _ => false
  | none => false

theorem falls_of_passed {next : Text} (h : isPassed errorName m next k name args s = true)
    (hintact : IsIntact errorName) : Falls m (k + 13) name args s [.str next] := by
  unfold isPassed at h
  split at h
  · rename_i x t₁ q hpassed
    split at h
    · rename_i id u items hback
      obtain ⟨hboth, hthrown⟩ := Bool.and_eq_true_iff.mp h
      obtain ⟨rfl, hname⟩ := of_decide_eq_true hboth
      obtain ⟨s₁, f, a, l, t, rest, hinvokes, hasks, -, hreaches⟩ := passes_of hpassed
      exact .calls hinvokes ⟨hasks, hreaches.letsThrough, errorMembers_of hname, hintact⟩
        (callsBack_of hback) (falls_of_thrown hthrown hintact)
    · cases h
  · cases h

/-- Whether a function that is called by its name gives five. -/
def isFive (n : Nat) (name args : HostValue) (s : Machine × Host) : Bool :=
  match invoked? n name args s with
  | some (f, a, l, s₁) =>
    match handed n (applying n f a l) s₁ with
    | .ok (.int i) _ => i == 5
    | _ => false
  | none => false

theorem recovers_of_five (h : isFive n name args s = true) : Recovers n name args s (.int 5) := by
  unfold isFive at h
  split at h
  · rename_i f a l s₁ hinvoked
    split at h
    · rename_i i s₂ hhanded
      obtain rfl := beq_iff_eq.mp h
      exact .returns (invokes_of hinvoked) hhanded
    · cases h
  · cases h

/-- Whether a function that is called by its name calls back another one that gives five. -/
def isFiveBelow (k : Nat) (name args : HostValue) (s : Machine × Host) : Bool :=
  match passed? k name args s with
  | some (x, t₁, q) =>
    match callBack? x q with
    | some (id, next, items) => isFive k next (.list items) (counting id (x.start t₁))
    | none => false
  | none => false

theorem handed_five {rest : Value → Eval Host Value} (hback : HandsBack rest)
    (himage : IsImage t'.1 w (.int 5)) : ∃ s₂, handed n (rest w) t' = .ok (.int 5) s₂ := by
  obtain ⟨i, rfl, -⟩ := himage
  obtain ⟨s₂, hrest⟩ := hback (.int 5) t'
  have hsame : handed n (rest (.int 5)) t' = handed n (pure (.int 5)) s₂ := handed_congr hrest
  exact ⟨s₂, hsame⟩

theorem recovers_of_below (h : isFiveBelow k name args s = true) :
    Recovers (k + 13) name args s (.int 5) := by
  unfold isFiveBelow at h
  split at h
  · rename_i x t₁ q hpassed
    split at h
    · rename_i id next items hback
      obtain ⟨s₁, f, a, l, t, rest, hinvokes, hasks, hrest, hreaches⟩ := passes_of hpassed
      have hdata : returnedData (.ok (.int 5)) = .ok (.int 5) := rfl
      exact .goesOn hinvokes hasks (callsBack_of hback) (recovers_of_five h) hdata trivial
        (fun w t' => hreaches.goesOn) fun w t' himage => handed_five hrest himage
    · cases h
  · cases h

/-- The realm of the bridge, in which functions are applied and errors are shown. -/
def chainRealm : Machine :=
  let build : Realm.Build Unit := do
    Realm.install Intrinsic.functionPrototype.ref [("apply", 2, .functionMethod .apply)]
    Realm.install (errorPrototype 0) [("toString", 0, .errorToString)]
    putProperty (errorPrototype 0) "name" (.hidden (.string (Utf16.ofString "Error")))
    putProperty Intrinsic.globalObject.ref "NaN" (.fixed (.float Binary.nan))
    putProperty Intrinsic.globalObject.ref "Infinity" (.fixed (.float (Binary.infinity false)))
  (endOf (build (replyRealm, ()))).1

/-- The zero character. -/
def zero : CodePoint := .ofNat 0

/-- A name with a zero character in it. -/
def zeroName : Text := "b" ++ [zero] ++ "c"

/-- The state of an instance in that realm, once it has a module of functions that call back and has run
scripts. -/
def stateWith (members : List (String × HostValue)) (scripts : List Text) : Machine × Host :=
  let prepared : EngineM Unit := do
    let applier ← interpreter.run applierSource
    HostM.modifyInstance fun i => { i with applier }
    let _ ← interpreter.run bridgeSource
    interpreter.register (.ofString "m") (.ofFields members)
    for script in scripts do
      let _ ← interpreter.run script
  endOf (prepared (chainRealm, Instance.blank Value))

/-- A state with a function that throws an error, a function that catches what it throws, and two
functions that call these back. -/
def chainState : Machine × Host :=
  stateWith [("g", .function 0 (.runFunction (.ofString "b"))),
      ("h", .function 1 (.runFunction (.ofString "d")))]
    ["function b()\x7bthrow Error('boom')\x7d", "function d()\x7btry\x7bb()\x7dcatch(e)\x7breturn 5\x7d\x7d",
      "function a()\x7breturn m.g()\x7d", "function c()\x7breturn m.h()\x7d"]

/-- A state with a function that throws an error, under a name with a zero character, and one that calls
it back. -/
def zeroState : Machine × Host :=
  stateWith [("k", .function 0 (.runFunction (.str zeroName)))]
    ["function b()\x7bthrow Error('boom')\x7d", "globalThis['b\\u0000c']=b",
      "function e()\x7breturn m.k()\x7d"]

/-- The level of the calls that are made from a call of the host. -/
def lower : Nat := Engine.nesting - 14

/-- Whether a call has failed for a function with a reason that has no zero character. -/
def failsWithoutZero : EStateM.Result Fault (Machine × Host) HostValue → Bool
  | .error (.failure f) _ =>
    match f.kind, f.reason with
    | .functionRuntime, some (.str reason) => decide (zero ∉ reason)
    | _, _ => false
  | _ => false

theorem chain_passes : isPassed "Error" "boom" "b" lower (.ofString "a") .none chainState = true := by
  rw [chainState, stateWith, run_bridgeTree]
  decide +kernel

theorem chain_recovers : isFiveBelow lower (.ofString "c") .none chainState = true := by
  rw [chainState, stateWith, run_bridgeTree]
  decide +kernel

theorem zero_passes : isPassed "Error" "boom" zeroName lower (.ofString "e") .none zeroState = true := by
  rw [zeroState, stateWith, run_bridgeTree]
  decide +kernel

theorem zero_fails : failsWithoutZero (interpreter.invoke (.ofString "e") .none zeroState) = true := by
  rw [zeroState, stateWith, run_bridgeTree]
  decide +kernel

/-- A function whose callee throws an error fails with a reason that tells of the callee and of the
message, and a function whose callee catches one gives what this gives. -/
theorem boom_survives : ∃ s,
    Falls "boom" (lower + 13) (.ofString "a") .none s [.str "b"] ∧
    (∃ reason cause s', InOrder [ranFailed (.str "b"), "boom"] reason ∧
      interpreter.invoke (.ofString "a") .none s =
        .error (.failure (.functionRuntime (.ofString "a") (.str reason) cause)) s') ∧
    Recovers (lower + 13) (.ofString "c") .none s (.int 5) ∧
    ∃ s', interpreter.invoke (.ofString "c") .none s = .ok (.int 5) s' := by
  have hpassed := chain_passes
  have hfive := chain_recovers
  generalize chainState = s at hpassed hfive
  have hfalls := falls_of_passed hpassed (isIntact_of_plain (by decide))
  have hrecovers := recovers_of_below hfive
  obtain ⟨hfails, hreturns, -⟩ :=
    faults_survive_boundaries (m := "boom") (isIntact_of_plain (by decide)) (by decide)
  refine ⟨s, hfalls, hfails _ _ _ _ _ hfalls fun next hnext => ?_, hrecovers, hreturns _ _ _ _ _ hrecovers⟩
  obtain rfl := List.mem_singleton.mp hnext
  exact isIntact_of_plain (by decide)

/-- A reason does not tell of a function that has a zero character in its name: it ends there. -/
theorem zero_cuts_reasons : ∃ s f reason s',
    Falls "boom" (lower + 13) (.ofString "e") .none s [.str zeroName] ∧
    interpreter.invoke (.ofString "e") .none s = .error (.failure f) s' ∧ f.kind = .functionRuntime ∧
    f.reason = some (.str reason) ∧ ¬InOrder [ranFailed (.str zeroName), "boom"] reason := by
  obtain ⟨s, hpassed, hcut⟩ : ∃ s, isPassed "Error" "boom" zeroName lower (.ofString "e") .none s = true ∧
      failsWithoutZero (interpreter.invoke (.ofString "e") .none s) = true :=
    ⟨_, zero_passes, zero_fails⟩
  have hfalls := falls_of_passed hpassed (isIntact_of_plain (by decide))
  unfold failsWithoutZero at hcut
  split at hcut
  · rename_i f s' hinvoke
    split at hcut
    · rename_i reason hkind hreason
      refine ⟨s, f, reason, s', hfalls, hinvoke, hkind, hreason, ?_⟩
      rintro ⟨before, after, rfl, -⟩
      have hzero : zero ∈ ranFailed (.str zeroName) := by decide
      exact of_decide_eq_true hcut (List.mem_append_left _ (List.mem_append_right _ hzero))
    · cases hcut
  · cases hcut

end ScriptHost.Proofs.NestedFaults
