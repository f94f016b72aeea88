import ScriptHost.Proofs.BuiltData
import ScriptHost.Proofs.PropertyChains
import ScriptHost.Proofs.ScriptRuns

/-!
# What the host is told of an error

An error that a script ends in crosses as its text and its stack.  Where the members that these are
read from are the engine's own, reading them runs nothing of the script, and the state is as it was
when the error was thrown.
-/

namespace ScriptHost.Proofs.ErrorTexts

open Script Script.Eval ScriptEngine
open ScriptHost.Proofs.BuiltData
open ScriptHost.Proofs.DataTexts
open ScriptHost.Proofs.DataValues
open ScriptHost.Proofs.Evaluation
open ScriptHost.Proofs.PropertyChains
open ScriptHost.Proofs.ScriptRuns

variable {σ : Type} {s s' : Machine × σ} {I : Interp σ} {host : Engine.HostCall σ} {m m' : Machine}
  {r f : Ref} {x : Option Value} {name message stack : Utf16} {d line : Nat}

/-! ## The text of an error -/

/-- The text of an error with a name and a message. -/
def errorShown (name message : Utf16) : Utf16 :=
  if name.isEmpty then message
  else if message.isEmpty then name else name ++ Utf16.ofString ": " ++ message

/-- The members that an error is shown by: its name and its message, a stack, and the engine's own
method that makes a text of them. -/
structure ShowsError (m : Machine) (r : Ref) (name message stack : Utf16) : Prop where
  primitive : Finds m KnownSymbol.toPrimitive.key r none
  method : ∃ f, Finds m "toString" r (some (.object f)) ∧
    (objectAt m f).kind = .native .errorToString
  name : Finds m "name" r (some (.string name))
  message : Finds m "message" r (some (.string message))
  stack : Finds m "stack" r (some (.string stack))

namespace ShowsError

theorem within (h : ShowsError s.1 r name message stack) (c : Frame) :
    ShowsError (within c s).1 r name message stack := by
  have hextends : Extends s.1 (Evaluation.within c s).1 := ⟨fun _ h => ⟨h, rfl⟩, rfl⟩
  obtain ⟨f, hf, hkind⟩ := h.method
  exact ⟨hextends.finds h.primitive, ⟨f, hextends.finds hf, hkind⟩, hextends.finds h.name,
    hextends.finds h.message, hextends.finds h.stack⟩

/-- A part of the text of an error that is found as a text. -/
theorem partText {k : PropertyKey} {t : Utf16} (hk : Finds s.1 k r (some (.string t))) (absent : Utf16) :
    (getProperty I r k >>= fun v => match v with
      | .undefined => pure absent
      | v => toText I v) s = .ok t s := by
  rw [bind_ok hk.getProperty]
  rfl

theorem errorText (h : ShowsError s.1 r name message stack) :
    Library.errorText I (.object r) s = .ok (.string (errorShown name message)) s := by
  have hneed : Library.needObject (.object r) s = .ok r s := rfl
  unfold Library.errorText
  rw [bind_ok hneed]
  dsimp only
  refine (bind_ok (partText h.name _)).trans ?_
  refine (bind_ok (partText h.message _)).trans ?_
  unfold errorShown
  split
  · rfl
  · split
    · rfl
    · rfl

/-- The engine's own method makes the text of an error. -/
theorem callText (h : ShowsError s.1 r name message stack) (hf : (objectAt s.1 f).kind = .native .errorToString)
    (hdepth : s.1.depth ≤ Engine.callLimit) :
    (Engine.interp host (d + 1)).call (.object f) (.object r) #[] s =
      .ok (.string (errorShown name message)) s := by
  rw [call_native hf hdepth]
  change withFrame (Engine.nativeFrame f) (Library.errorText (Engine.interp host d) (.object r)) s = _
  rw [withFrame_run, (h.within _).errorText]
  rfl

theorem toText (h : ShowsError s.1 r name message stack) (hdepth : s.1.depth ≤ Engine.callLimit) :
    toText (Engine.interp host (d + 1)) (.object r) s = .ok (errorShown name message) s := by
  obtain ⟨f, hf, hkind⟩ := h.method
  have hcallable : isCallable (.object f) s = .ok true s := by
    change EStateM.Result.ok (objectAt s.1 f).isCallable s = _
    unfold Object.isCallable
    rw [hkind]
  have hordinary : ordinaryPrimitive (Engine.interp host (d + 1)) (.object r) .string s =
      .ok (.string (errorShown name message)) s := by
    change primitiveBy (Engine.interp host (d + 1)) (.object r) ["toString", "valueOf"] s = _
    unfold primitiveBy
    change (getProperty _ r _ >>= _) s = _
    rw [bind_ok hf.getProperty_some, bind_ok hcallable]
    rw [if_pos rfl, bind_ok (h.callText hkind hdepth)]
    rfl
  have hprimitive : toPrimitive (Engine.interp host (d + 1)) (.object r) .string s =
      .ok (.string (errorShown name message)) s := by
    change (getProperty _ r _ >>= _) s = _
    rw [bind_ok h.primitive.getProperty]
    exact hordinary
  unfold Eval.toText
  rw [bind_ok hprimitive]
  rfl

theorem stackText (h : ShowsError s.1 r name message stack) :
    (getMember I (.object r) "stack" >>= Eval.toText I) s = .ok stack s := by
  change (getProperty I r "stack" >>= Eval.toText I) s = _
  rw [bind_ok h.stack.getProperty_some]
  rfl

end ShowsError

/-- What an error inherits that it is shown by. -/
def inheritedKeys : List PropertyKey := [KnownSymbol.toPrimitive.key, "toString", "name"]

/-- The engine's own members of the errors with a prototype: a name, and the method that makes a text of
it. -/
structure ErrorMembers (m : Machine) (proto : Ref) (name : Utf16) : Prop where
  primitive : Finds m KnownSymbol.toPrimitive.key proto none
  method : ∃ f, f.index < m.objects.size ∧ Finds m "toString" proto (some (.object f)) ∧
    (objectAt m f).kind = .native .errorToString
  name : Finds m "name" proto (some (.string name))

namespace ErrorMembers

variable {proto : Ref}

theorem of_objects (h : ErrorMembers m proto name) (hobjects : HasObjects m m') :
    ErrorMembers m' proto name := by
  obtain ⟨f, hf, hmethod, hkind⟩ := h.method
  obtain ⟨hrange, hsame⟩ := hobjects f hf
  exact ⟨h.primitive.of_objects hobjects,
    ⟨f, hrange, hmethod.of_objects hobjects, by rw [hsame]; exact hkind⟩, h.name.of_objects hobjects⟩

/-- An error with a message and a stack of its own is shown by these and by what it inherits. -/
theorem shows (h : ErrorMembers m proto name) (hr : IsOrdinary m r)
    (hproto : (objectAt m r).prototype = some proto)
    (hnone : ∀ k ∈ inheritedKeys, (objectAt m r).own? k = none)
    (hmessage : (objectAt m r).own? "message" = some (.hidden (.string message)))
    (hstack : (objectAt m r).own? "stack" = some (.hidden (.string stack))) :
    ShowsError m r name message stack := by
  have hinherited {k : PropertyKey} {x : Option Value} (hk : k ∈ inheritedKeys) (hx : Finds m k proto x) :
      Finds m k r x := .inherited hr (hnone k hk) hproto hx
  obtain ⟨f, -, hmethod, hkind⟩ := h.method
  exact ⟨hinherited (by simp [inheritedKeys]) h.primitive,
    ⟨f, hinherited (by simp [inheritedKeys]) hmethod, hkind⟩,
    hinherited (by simp [inheritedKeys]) h.name, .own hr hmessage, .own hr hstack⟩

end ErrorMembers

/-- The fault that an error with a text and a stack is to the host. -/
def errorFault (text stack : Utf16) : Fault :=
  let shown := lossyText text
  let message := shown ++ "\n" ++ lossyText stack
  if ((Utf16.ofText shown).indexOf? (Utf16.ofString "stack overflow") 0).isSome then
    .stackOverflow message
  else .script message

theorem isScript_errorFault (text stack : Utf16) : (errorFault text stack).cls.isScript = true := by
  unfold errorFault
  dsimp only
  split
  · rfl
  · rfl

section Host

variable {s s' : Machine × Host} {t : Text} {e : SyntaxFault}

theorem attempt_ok {α : Type} {body : Eval Host α} {a : α} (h : body s = .ok a s') :
    attempt body s = .ok (some a) s' := by
  change EStateM.tryCatch (EStateM.bind body _) _ s = _
  unfold EStateM.tryCatch EStateM.bind
  rw [h]
  rfl

theorem thrownFault_run (h : ShowsError s.1 r name message stack)
    (hdepth : s.1.depth ≤ Engine.callLimit) :
    thrownFault (Engine.interp hostCall (d + 1)) (.object r) s =
      .ok (errorFault (errorShown name message) stack) s := by
  have htext : attempt (toText (Engine.interp hostCall (d + 1)) (.object r)) s =
      .ok (some (errorShown name message)) s := attempt_ok (h.toText hdepth)
  have hstack : attempt (do
      toText (Engine.interp hostCall (d + 1))
        (← getMember (Engine.interp hostCall (d + 1)) (.object r) "stack")) s = .ok (some stack) s :=
    attempt_ok h.stackText
  unfold thrownFault
  rw [bind_ok htext]
  change (attempt _ >>= _) s = _
  rw [bind_ok hstack]
  rfl

/-! ## Texts that cannot be read -/

/-- The prototype of syntax errors. -/
def syntaxPrototype : Ref := errorPrototype (errorClass "SyntaxError")

/-- An object with one more property. -/
def withPut (o : Object) (k : PropertyKey) (p : Property) : Object :=
  { o with properties := o.properties.put k p }

/-- A syntax error before it has a stack. -/
def stacklessError (message : Text) (line : Nat) : Object :=
  withPut (withPut (withPut (.bare .error (some syntaxPrototype))
    "message" (.hidden (.string (Utf16.ofText message))))
    "fileName" (.hidden (.string (Utf16.ofString "<input>"))))
    "lineNumber" (.hidden (.int (Int32.ofNat line)))

/-- A syntax error. -/
def syntaxError (message : Text) (line : Nat) (stack : Utf16) : Object :=
  withPut (stacklessError message line) "stack" (.hidden (.string stack))

theorem putProperty_new (o : Object) (os : List Object) (k : PropertyKey) (p : Property)
    (s : Machine × σ) :
    putProperty ⟨s.1.objects.size⟩ k p (withObjects (o :: os) s) =
      .ok () (withObjects (withPut o k p :: os) s) := updateObject_new _

theorem frameText_run (c : Frame) (s : Machine × σ) : ∃ t, frameText c s = .ok t s := by
  unfold frameText
  cases hcallee : c.callee with
  | none => exact ⟨_, rfl⟩
  | some r =>
      have hname : ∃ t, functionName r s = .ok t s := by
        unfold functionName
        rw [bind_ok (object_run r s)]
        generalize (objectAt s.1 r).properties.get? "name" = p
        rcases p with _ | ⟨⟨v, w⟩ | ⟨g, u⟩, e, c⟩
        · exact ⟨_, rfl⟩
        · cases v <;> exact ⟨_, rfl⟩
        · exact ⟨_, rfl⟩
      obtain ⟨t, ht⟩ := hname
      dsimp only
      rw [bind_ok ht]
      exact ⟨_, rfl⟩

/-- Writing down the calls under way changes nothing. -/
theorem trace_run (skipped : Nat) (s : Machine × σ) : ∃ t, trace skipped s = .ok t s := by
  have hlines : ∀ cs : List Frame, ∃ ts, cs.mapM frameText s = .ok ts s := by
    intro cs
    induction cs with
    | nil => exact ⟨[], rfl⟩
    | cons c cs ih =>
        obtain ⟨t, ht⟩ := frameText_run c s
        obtain ⟨ts, hts⟩ := ih
        refine ⟨t :: ts, ?_⟩
        rw [List.mapM_cons, bind_ok ht, bind_ok hts]
        rfl
  obtain ⟨ts, hts⟩ := hlines (s.1.frames.drop skipped)
  refine ⟨ts.foldl (· ++ ·) ∅, ?_⟩
  change ((s.1.frames.drop skipped).mapM frameText >>= _) s = _
  rw [bind_ok hts]
  rfl

/-- A text that cannot be read ends in a new error. -/
theorem failSyntax_run {α : Type} (message : Text) (line : Nat) (s : Machine × σ) :
    ∃ stack, (failSyntax message line : Eval σ α) s =
      .error (.thrown (.object ⟨s.1.objects.size⟩)) (withObjects [syntaxError message line stack] s) := by
  obtain ⟨stack, hstack⟩ := trace_run 0 (withObjects [stacklessError message line] s)
  refine ⟨Utf16.ofString ("    at <input>:" ++ Nat.repr line ++ "\n") ++ stack, ?_⟩
  unfold failSyntax
  rw [bind_ok (allocate_run _ s), bind_ok (putProperty_new _ _ _ _ s),
    bind_ok (putProperty_new _ _ _ _ s), bind_ok (putProperty_new _ _ _ _ s)]
  refine (bind_ok hstack).trans ?_
  rw [bind_ok (putProperty_new _ _ _ _ s)]
  rfl

/-- The engine's own members of syntax errors: a name, and the method that makes a text of it. -/
structure HasOwnErrors (m : Machine) : Prop where
  depth : m.depth ≤ Engine.callLimit
  primitive : Finds m KnownSymbol.toPrimitive.key syntaxPrototype none
  method : ∃ f, f.index < m.objects.size ∧ Finds m "toString" syntaxPrototype (some (.object f)) ∧
    (objectAt m f).kind = .native .errorToString
  name : ∃ n, Finds m "name" syntaxPrototype (some (.string n))

/-- Whether syntax errors have the engine's own members. -/
def hasOwnErrors (m : Machine) : Bool :=
  decide (m.depth ≤ Engine.callLimit) &&
    (match found? m KnownSymbol.toPrimitive.key m.objects.size syntaxPrototype,
        found? m "toString" m.objects.size syntaxPrototype,
        found? m "name" m.objects.size syntaxPrototype with
      | some none, some (some (.object f)), some (some (.string _)) =>
        decide (f.index < m.objects.size) && (match (objectAt m f).kind with
          | .native .errorToString => true
          | _ => false)
      | _, _, _ => false)

theorem hasOwnErrors_of (h : hasOwnErrors m = true) : HasOwnErrors m := by
  obtain ⟨hdepth, hmembers⟩ := (Bool.and_eq_true _ _).mp h
  split at hmembers
  · rename_i f n hprimitive hmethod hname
    obtain ⟨hf, hkind⟩ := (Bool.and_eq_true _ _).mp hmembers
    refine ⟨of_decide_eq_true hdepth, finds_of_found hprimitive,
      ⟨f, of_decide_eq_true hf, finds_of_found hmethod, ?_⟩, ⟨n, finds_of_found hname⟩⟩
    split at hkind
    · assumption
    · cases hkind
  · cases hmembers

theorem extends_withObjects (os : List Object) (s : Machine × σ) :
    Extends s.1 (withObjects os s).1 :=
  ⟨fun r h => ⟨by rw [size_withObjects]; omega, objectAt_withObjects h⟩, rfl⟩

theorem HasOwnErrors.withObjects (h : HasOwnErrors s.1) (os : List Object) :
    HasOwnErrors (withObjects os s).1 := by
  have hextends := extends_withObjects os s
  obtain ⟨f, hf, hmethod, hkind⟩ := h.method
  obtain ⟨n, hn⟩ := h.name
  obtain ⟨hf', hsame⟩ := hextends.objects f hf
  exact ⟨h.depth, hextends.finds h.primitive,
    ⟨f, hf', hextends.finds hmethod, by rw [hsame]; exact hkind⟩, ⟨n, hextends.finds hn⟩⟩

/-- The keys of a syntax error. -/
def syntaxErrorKeys : List PropertyKey := ["message", "fileName", "lineNumber", "stack"]

theorem get_syntaxError_none {k : PropertyKey} (hk : k ∉ syntaxErrorKeys) (message : Text) (line : Nat)
    (stack : Utf16) : (syntaxError message line stack).properties.get? k = none := by
  simp only [syntaxErrorKeys, List.mem_cons, List.not_mem_nil, or_false, not_or] at hk
  obtain ⟨hmessage, hfile, hline, hstack⟩ := hk
  unfold syntaxError stacklessError withPut
  rw [get_put_ne _ _ hstack, get_put_ne _ _ hline, get_put_ne _ _ hfile, get_put_ne _ _ hmessage]
  simp [Object.bare, PropertyTable.get?, PropertyTable.place?, PropertyTable.empty]

theorem get_syntaxError_message (message : Text) (line : Nat) (stack : Utf16) :
    (syntaxError message line stack).properties.get? "message" =
      some (.hidden (.string (Utf16.ofText message))) := by
  unfold syntaxError stacklessError withPut
  rw [get_put_ne _ _ (by decide), get_put_ne _ _ (by decide), get_put_ne _ _ (by decide), get_put_self]

theorem get_syntaxError_stack (message : Text) (line : Nat) (stack : Utf16) :
    (syntaxError message line stack).properties.get? "stack" = some (.hidden (.string stack)) :=
  get_put_self _ _ _

theorem HasOwnErrors.members (h : HasOwnErrors m) : ∃ n, ErrorMembers m syntaxPrototype n := by
  obtain ⟨n, hn⟩ := h.name
  exact ⟨n, h.primitive, h.method, hn⟩

/-- A new syntax error is shown by its own message and stack. -/
theorem showsError_new (h : HasOwnErrors s.1) (message : Text) (line : Nat) (stack : Utf16) :
    ∃ n, ShowsError (withObjects [syntaxError message line stack] s).1 ⟨s.1.objects.size⟩ n
      (Utf16.ofText message) stack := by
  obtain ⟨n, hmembers⟩ := h.members
  have hnew := objectAt_new (syntaxError message line stack) [] s
  have hget (k : PropertyKey) : (objectAt (DataValues.withObjects [syntaxError message line stack] s).1
      ⟨s.1.objects.size⟩).own? k = (syntaxError message line stack).properties.get? k := by
    rw [hnew]
    rfl
  have hordinary : IsOrdinary (DataValues.withObjects [syntaxError message line stack] s).1
      ⟨s.1.objects.size⟩ := by
    refine ⟨by simp, ?_⟩
    rw [hnew]
    exact fun _ _ _ h => nomatch h
  refine ⟨n, (hmembers.of_objects (extends_withObjects _ s).objects).shows hordinary (by rw [hnew]; rfl)
    (fun k hk => (hget k).trans (get_syntaxError_none ?_ message line stack))
    ((hget _).trans (get_syntaxError_message _ _ _)) ((hget _).trans (get_syntaxError_stack _ _ _))⟩
  revert k
  unfold inheritedKeys syntaxErrorKeys
  decide

/-- A script that cannot be read ends in a script fault; all that is left of it is a new error. -/
theorem run_refused (hclean : IsClean t) (hparse : parseProgram t false = .error e)
    (h : HasOwnErrors s.1) :
    ∃ f stack, interpreter.run t s =
      .error f (withObjects [syntaxError e.message e.line stack] s) ∧ f.cls.isScript = true := by
  obtain ⟨stack, hfail⟩ := failSyntax_run (α := Program) e.message e.line s
  obtain ⟨n, hshows⟩ := showsError_new h e.message e.line stack
  have hdepth : (DataValues.withObjects [syntaxError e.message e.line stack] s).1.depth ≤
      Engine.callLimit := h.depth
  have hscript : Statement.runScript evaluator t s = .error (.thrown (.object ⟨s.1.objects.size⟩))
      (DataValues.withObjects [syntaxError e.message e.line stack] s) := by
    have hread : Statement.parse t false s = .error (.thrown (.object ⟨s.1.objects.size⟩))
        (DataValues.withObjects [syntaxError e.message e.line stack] s) := by
      unfold Statement.parse
      rw [hparse]
      exact hfail
    unfold Statement.runScript
    exact bind_error hread
  refine ⟨errorFault (errorShown n (Utf16.ofText e.message)) stack, stack, ?_,
    isScript_errorFault _ _⟩
  unfold Interpreter.run
  rw [checkCode_ok hclean]
  change EStateM.bind (perform evaluator (Statement.runScript evaluator t)) _ s = _
  unfold EStateM.bind perform
  rw [hscript]
  dsimp only
  rw [evaluator_below, thrownFault_run hshows hdepth]

end Host

end ScriptHost.Proofs.ErrorTexts
