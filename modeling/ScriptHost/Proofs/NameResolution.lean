import ScriptHost.Proofs.Bindings
import ScriptHost.Proofs.ErrorTexts

/-!
# What a name resolves to

A name is located by up to four scripts, chosen by what the name looks like and by which of them
cannot be read.  Together they find what the name itself is bound to.
-/

namespace ScriptHost.Proofs.NameResolution

open Script Script.Eval Script.Read ScriptEngine Interpreter
open ScriptHost.Proofs.Bindings
open ScriptHost.Proofs.DataTexts
open ScriptHost.Proofs.DataValues
open ScriptHost.Proofs.ErrorTexts
open ScriptHost.Proofs.Evaluation
open ScriptHost.Proofs.ExpressionScripts
open ScriptHost.Proofs.HiddenGlobals
open ScriptHost.Proofs.Invocation
open ScriptHost.Proofs.LookupTexts
open ScriptHost.Proofs.PropertyChains
open ScriptHost.Proofs.ReferenceTrees
open ScriptHost.Proofs.ScannedNames
open ScriptHost.Proofs.Transition (host_bind_ok orOnScriptFault_fault orOnScriptFault_ok)

variable {s s' : Machine × Host} {m : Machine} {t w : Text} {x : Option Value} {v : Value}

/-! ## Words -/

/-- The words that are names in a plain script, and mean something else in other code. -/
def contextualWords : List String := ["async", "arguments", "eval", "yield", "await", "let"]

/-- The reserved words that are values of their own. -/
def constantWords : List String := ["this", "null", "true", "false"]

/-- Whether a script is a variable, or asks for the type of one. -/
def isVariableScript (n : Name) (typed : Bool) : Except SyntaxFault Program → Bool
  | .ok ⟨[], [.expression (.name l 1)], false, false⟩ => !typed && l == n
  | .ok ⟨[], [.expression (.typeOf (.name l 1))], false, false⟩ => typed && l == n
  | _ => false

theorem contextual_script : ∀ w ∈ contextualWords,
    isVariableScript (nameOf w) false (parseProgram (Text.ofString w) false) = true ∧
    isVariableScript (nameOf w) true (parseProgram ("typeof " ++ Text.ofString w) false) = true := by
  decide +kernel

theorem eq_of_isVariableScript {n : Name} {p : Except SyntaxFault Program}
    (h : isVariableScript n false p = true) : p = .ok (expressionProgram (.name n 1)) := by
  unfold isVariableScript at h
  split at h
  · obtain rfl : _ = n := by simpa using h
    rfl
  · cases h
  · cases h

theorem eq_of_isTypedScript {n : Name} {p : Except SyntaxFault Program}
    (h : isVariableScript n true p = true) : p = .ok (expressionProgram (.typeOf (.name n 1))) := by
  unfold isVariableScript at h
  split at h
  · cases h
  · obtain rfl : _ = n := by simpa using h
    rfl
  · cases h

/-- Whether a script cannot be read. -/
def isUnreadable (t : Text) : Bool := (parseProgram t false).toOption.isNone

theorem error_of_isUnreadable (h : isUnreadable t = true) : ∃ e, parseProgram t false = .error e := by
  unfold isUnreadable at h
  cases hparse : parseProgram t false with
  | ok p =>
      rw [hparse] at h
      cases h
  | error e => exact ⟨e, rfl⟩

theorem typeof_isUnreadable : ∀ w ∈ reservedWords, w ∉ constantWords →
    isUnreadable ("typeof " ++ Text.ofString w) = true := by decide

theorem reserved_isUnreadable : ∀ w ∈ reservedWords, w ∉ constantWords → w ≠ "debugger" →
    isUnreadable (Text.ofString w) = true := by decide

/-- A name that is read as a variable. -/
structure IsFree (t : Text) : Prop where
  isName : IsName t
  unreserved : reservedWords.contains (spelling t) = false

/-- A name that is no variable in any code. -/
structure IsReserved (t : Text) : Prop where
  isName : IsName t
  reserved : spelling t ∈ reservedWords

theorem isIdentifierText_name (h : IsName t) : isIdentifierText t = true := by
  have htail : ∀ u : Text, (∀ c ∈ u, isPlainPart c = true) → isPlainTail u = true := by
    intro u hu
    induction u with
    | nil => rfl
    | cons c u ih =>
        have hc := hu c List.mem_cons_self
        cases u with
        | nil => exact (Bool.or_eq_true _ _).mpr (.inl hc)
        | cons d u =>
            exact (Bool.and_eq_true _ _).mpr
              ⟨hc, ih fun e he => hu e (List.mem_cons_of_mem _ he)⟩
  obtain ⟨c, u, rfl⟩ := List.exists_cons_of_ne_nil h.nonempty
  exact (Bool.and_eq_true _ _).mpr
    ⟨h.start c rfl, htail u fun d hd => h.parts d (List.mem_cons_of_mem _ hd)⟩

/-- A name is free or reserved, or it is no identifier. -/
theorem name_cases (hfeed : ∀ w, IsName w → t ≠ w ++ [CodePoint.ofChar '\n']) :
    IsFree t ∨ IsReserved t ∨ isIdentifierText t = false := by
  cases hidentifier : isIdentifierText t with
  | false => exact .inr (.inr rfl)
  | true =>
      obtain ⟨w, hw, rfl | heq⟩ := isName_of_identifier hidentifier
      · cases hreserved : reservedWords.contains (spelling t) with
        | false => exact .inl ⟨hw, hreserved⟩
        | true => exact .inr (.inl ⟨hw, List.contains_iff_mem.mp hreserved⟩)
      · exact absurd heq (hfeed w hw)

theorem IsFree.parse (h : IsFree t) :
    parseProgram ("typeof " ++ t) false = .ok (expressionProgram (.typeOf (variableTree t))) ∧
      parseProgram t false = .ok (expressionProgram (variableTree t)) := by
  by_cases hodd : spelling t ∈ contextualWords
  · obtain ⟨hvariable, htyped⟩ := contextual_script _ hodd
    rw [ofString_spelling h.isName] at hvariable htyped
    rw [nameOf_spelling h.isName] at hvariable htyped
    exact ⟨eq_of_isTypedScript htyped, eq_of_isVariableScript hvariable⟩
  · have hvariable : IsVariable (spelling t) := ⟨h.unreserved, hodd⟩
    exact ⟨parse_typeofVariable h.isName hvariable, parse_variable h.isName hvariable⟩

theorem IsReserved.parse_typeof (h : IsReserved t) (hconstant : ∀ w ∈ constantWords, t ≠ Text.ofString w) :
    ∃ e, parseProgram ("typeof " ++ t) false = .error e := by
  have hback := ofString_spelling h.isName
  have hunreadable := typeof_isUnreadable _ h.reserved fun hw => hconstant _ hw hback.symm
  rw [hback] at hunreadable
  exact error_of_isUnreadable hunreadable

theorem IsReserved.parse (h : IsReserved t) (hconstant : ∀ w ∈ constantWords, t ≠ Text.ofString w)
    (hdebugger : t ≠ Text.ofString "debugger") : ∃ e, parseProgram t false = .error e := by
  have hback := ofString_spelling h.isName
  have hunreadable := reserved_isUnreadable _ h.reserved (fun hw => hconstant _ hw hback.symm)
    fun hw => hdebugger (by rw [← hw, hback])
  rw [hback] at hunreadable
  exact error_of_isUnreadable hunreadable

/-! ## Look-ups that fail to be read -/

/-- A state differs from another one in new errors alone. -/
def AddsErrors (s s' : Machine × Host) : Prop :=
  ∃ os : List Object, (∀ o ∈ os, o.isCallable = false) ∧ s' = withObjects os s

namespace AddsErrors

theorem refl (s : Machine × Host) : AddsErrors s s := ⟨[], by simp, by simp⟩

theorem trans {s'' : Machine × Host} (h : AddsErrors s s') (h' : AddsErrors s' s'') :
    AddsErrors s s'' := by
  obtain ⟨os, hos, rfl⟩ := h
  obtain ⟨more, hmore, rfl⟩ := h'
  refine ⟨os ++ more, fun o ho => ?_, by simp⟩
  rcases List.mem_append.mp ho with ho | ho
  · exact hos o ho
  · exact hmore o ho

theorem extended (h : AddsErrors s s') : Extends s.1 s'.1 := by
  obtain ⟨os, -, rfl⟩ := h
  exact extends_withObjects os s

theorem hasOwnErrors (h : AddsErrors s s') (herrors : HasOwnErrors s.1) : HasOwnErrors s'.1 := by
  obtain ⟨os, -, rfl⟩ := h
  exact herrors.withObjects os

/-- New errors are no functions, so that no value is another kind of value for them. -/
theorem kindOf (h : AddsErrors s s') (v : Value) : kindOf s'.1 v = kindOf s.1 v := by
  obtain ⟨os, hos, rfl⟩ := h
  have hcallable (r : Ref) : (objectAt (withObjects os s).1 r).isCallable =
      (objectAt s.1 r).isCallable := by
    by_cases hr : r.index < s.1.objects.size
    · rw [objectAt_withObjects hr]
    · have hold : objectAt s.1 r = default := by
        unfold objectAt
        rw [Array.getElem?_eq_none (by omega)]
        rfl
      rw [hold]
      unfold objectAt withObjects
      rw [Array.getElem?_append_right (by omega), List.getElem?_toArray]
      cases hget : os[r.index - s.1.objects.size]? with
      | none => rfl
      | some o => exact hos o (List.mem_of_getElem? hget)
  cases v with
  | object r => simp only [Bindings.kindOf, hcallable]
  | _ => rfl

end AddsErrors

/-! ## Looking up -/

/-- A script that cannot be read ends in a script fault and adds an error. -/
theorem run_unreadable {code : Text} (hclean : IsClean code)
    (hparse : ∃ e, parseProgram code false = .error e) (h : HasOwnErrors s.1) :
    ∃ f s', interpreter.run code s = .error f s' ∧ f.cls.isScript = true ∧ AddsErrors s s' := by
  obtain ⟨e, hparse⟩ := hparse
  obtain ⟨f, stack, hrun, hf⟩ := run_refused hclean hparse h
  refine ⟨f, _, hrun, hf, [_], fun o ho => ?_, rfl⟩
  obtain rfl := List.mem_singleton.mp ho
  rfl

/-- The global object is where keys are looked up, and it has the value of a name under its key. -/
structure IsKeyed (m : Machine) (t : Text) : Prop where
  notLexical : IsNotLexical m (Utf16.ofText t)
  global : NamesGlobal m

theorem IsKeyed.extended {m' : Machine} (h : IsKeyed m t) (hm : Extends m m') : IsKeyed m' t :=
  ⟨fun c hc => h.notLexical c (by rw [← hm.scopes]; exact hc), h.global.extends hm⟩

/-- The look-ups of a name reach what is bound under it. -/
structure IsReachable (m : Machine) (t : Text) (x : Option Value) : Prop where
  /-- The name is no identifier with a line feed after it, which would be looked up without it. -/
  noFeed : ∀ w, IsName w → t ≠ w ++ [CodePoint.ofChar '\n']
  /-- The name is no word that is a value by itself. -/
  noConstant : ∀ w ∈ constantWords, t ≠ Text.ofString w
  /-- The name is not that of the statement that does nothing, if a function is bound under it. -/
  noDebugger : t = Text.ofString "debugger" → kindOf m (x.getD .undefined) ≠ "function"
  /-- A name that is no variable is bound as a key alone, and there is the global object to have it. -/
  keyed : ¬IsFree t → IsKeyed m t
  /-- A reserved word that cannot be read is reported without running code of the script. -/
  errors : IsReserved t → HasOwnErrors m

theorem not_isFree_of_isReserved (h : IsReserved t) : ¬IsFree t := fun hfree => by
  have hcontains := hfree.unreserved
  rw [List.contains_iff_mem.mpr h.reserved] at hcontains
  cases hcontains

theorem not_isFree_of_other (h : isIdentifierText t = false) : ¬IsFree t := fun hfree => by
  rw [isIdentifierText_name hfree.isName] at h
  cases h

theorem kind_key (hidentifier : isIdentifierText t = false) :
    interpreter.kind (.str t) s = interpreter.run ("typeof " ++ reference t) s := by
  have hnot : (HostValue.str t).isIdentifier = false := hidentifier
  unfold Interpreter.kind
  rw [globalReference_eq (t := t) rfl, hnot]
  rfl

theorem kind_identifier (hidentifier : isIdentifierText t = true) :
    interpreter.kind (.str t) s = HostM.orOnScriptFault (interpreter.run ("typeof " ++ t))
      (fun _ => interpreter.run ("typeof " ++ reference t)) s := by
  have hyes : (HostValue.str t).isIdentifier = true := hidentifier
  unfold Interpreter.kind
  rw [globalReference_eq (t := t) rfl, hyes]
  rfl

/-- The type that is found for a name is that of what is bound under it. -/
theorem kind_run (hbinds : Binds s.1 (Utf16.ofText t) x) (h : IsReachable s.1 t x) :
    ∃ s', AddsErrors s s' ∧ interpreter.kind (.str t) s =
      .ok (.plain (.str (typeText s.1 (x.getD .undefined)))) s' := by
  rcases name_cases h.noFeed with hfree | hreserved | hother
  · refine ⟨s, .refl s, ?_⟩
    rw [kind_identifier (isIdentifierText_name hfree.isName)]
    exact orOnScriptFault_ok (run_typeofVariable (isClean_name hfree.isName) hfree.parse.1 hbinds)
  · have hkeyed := h.keyed (not_isFree_of_isReserved hreserved)
    have hclean : IsClean ("typeof " ++ t) :=
      (isClean_word "typeof " (Scanning.forall_of_all (by decide))).append (isClean_name hreserved.isName)
    obtain ⟨f, s', hrun, hf, hadds⟩ := run_unreadable hclean (hreserved.parse_typeof h.noConstant)
      (h.errors hreserved)
    refine ⟨s', hadds, ?_⟩
    have hfinds := hadds.extended.finds (hbinds.finds hkeyed.notLexical)
    rw [kind_identifier (isIdentifierText_name hreserved.isName), orOnScriptFault_fault hrun hf,
      run_typeofReference (hkeyed.extended hadds.extended).global hfinds, typeText, hadds.kindOf]
    rfl
  · refine ⟨s, .refl s, ?_⟩
    have hkeyed := h.keyed (not_isFree_of_other hother)
    rw [kind_key hother]
    exact run_typeofReference hkeyed.global (hbinds.finds hkeyed.notLexical)

theorem binding_key (hidentifier : isIdentifierText t = false) :
    interpreter.binding (.str t) s = HostM.orOnScriptFault (interpreter.run (reference t))
      (fun _ => HostM.orOnScriptFault (interpreter.run (reference t)) (notExported (.str t))) s := by
  have hnot : (HostValue.str t).isIdentifier = false := hidentifier
  unfold Interpreter.binding
  rw [globalReference_eq (t := t) rfl, hnot]
  rfl

theorem binding_identifier (hidentifier : isIdentifierText t = true) :
    interpreter.binding (.str t) s = HostM.orOnScriptFault (interpreter.run t)
      (fun _ => HostM.orOnScriptFault (interpreter.run (reference t)) (notExported (.str t))) s := by
  have hyes : (HostValue.str t).isIdentifier = true := hidentifier
  unfold Interpreter.binding
  rw [globalReference_eq (t := t) rfl, hyes]
  rfl

/-- A function that is bound under a name is what the second look-up gives. -/
theorem binding_run {r : Ref} (hbinds : Binds s.1 (Utf16.ofText t) (some (.object r)))
    (h : IsReachable s.1 t (some (.object r))) (hkind : kindOf s.1 (.object r) = "function") :
    ∃ s', AddsErrors s s' ∧
      interpreter.binding (.str t) s = .ok (.handle (.object r)) s' := by
  have hpassed : passed (.object r) = .ok (.handle (.object r)) := rfl
  rcases name_cases h.noFeed with hfree | hreserved | hother
  · refine ⟨s, .refl s, ?_⟩
    rw [binding_identifier (isIdentifierText_name hfree.isName)]
    exact orOnScriptFault_ok (run_variable (isClean_name hfree.isName) hfree.parse.2 hbinds hpassed)
  · have hkeyed := h.keyed (not_isFree_of_isReserved hreserved)
    have hparse := hreserved.parse h.noConstant fun heq => h.noDebugger heq hkind
    obtain ⟨f, s', hrun, hf, hadds⟩ := run_unreadable (isClean_name hreserved.isName) hparse
      (h.errors hreserved)
    refine ⟨s', hadds, ?_⟩
    have hfinds := hadds.extended.finds (hbinds.finds hkeyed.notLexical)
    rw [binding_identifier (isIdentifierText_name hreserved.isName), orOnScriptFault_fault hrun hf]
    exact orOnScriptFault_ok (run_reference (hkeyed.extended hadds.extended).global hfinds hpassed)
  · refine ⟨s, .refl s, ?_⟩
    have hkeyed := h.keyed (not_isFree_of_other hother)
    rw [binding_key hother]
    exact orOnScriptFault_ok (run_reference hkeyed.global (hbinds.finds hkeyed.notLexical) hpassed)

/-! ## Resolution -/

/-- What locating a name comes to, by what is bound under the name: the function, or the failure that
nothing is bound or that something else is. -/
def resolution (m : Machine) (t : Text) (x : Option Value) : Except Fault (Located Value) :=
  let v := x.getD .undefined
  if kindOf m v = "undefined" then .error (.failure (.functionNotFound (.str t)))
  else if kindOf m v = "function" then .ok ⟨.str t, v⟩
  else
    .error (.failure (.notExportable (.str t)
      (.str ("binding is " ++ typeText m v ++ ", not a function")) none))

theorem typeText_eq (m : Machine) (v : Value) {k : String} (hk : k ∈ kindNames) :
    typeText m v = Text.ofString k ↔ kindOf m v = k := by
  have hinjective : ∀ k ∈ kindNames, ∀ l ∈ kindNames, Text.ofString k = Text.ofString l → k = l := by
    decide
  exact ⟨hinjective _ (kindOf_mem m v) _ hk, fun h => by rw [typeText, h]⟩

/-- Only an object is a function. -/
theorem object_of_function (h : kindOf m v = "function") : ∃ r, v = .object r := by
  cases v with
  | object r => exact ⟨r, rfl⟩
  | _ => exact absurd h (by simp [kindOf, Value.primitiveTypeName])

/-- What the engine gives for a function, as the function under a name. -/
def handed (t : Text) : Passed Value → EngineM (Located Value)
  | .handle function => return { name := .str t, function }
  | .plain _ =>
    throw (.failure
      (.notExportable (.str t) (.ofString "binding could not be exported as a callable") none))

/-- What locating a name does once the type of what is bound under it is known. -/
theorem locate_kind {k : Text} (hne : t ≠ [])
    (hkind : interpreter.kind (.str t) s = .ok (.plain (.str k)) s') :
    interpreter.locate (.str t) s =
      (if k = "undefined" then throw (.failure (.functionNotFound (.str t)))
      else if k = "function" then interpreter.binding (.str t) >>= handed t
      else
        throw (.failure (.notExportable (.str t)
          (.str ("binding is " ++ k ++ ", not a function")) none)) : EngineM (Located Value)) s' := by
  have hempty : ((HostValue.str t).text?.getD []).isEmpty = false := by
    cases t with
    | nil => exact absurd rfl hne
    | cons c u => rfl
  have hshown : Interpreter.kindText (.plain (.str k)) s' = .ok k s' := rfl
  unfold Interpreter.locate
  rw [if_neg (by simp [hempty])]
  refine (host_bind_ok (orOnScriptFault_ok hkind)).trans ?_
  refine (host_bind_ok hshown).trans ?_
  by_cases hundefined : k = "undefined"
  · rw [if_pos hundefined, if_pos hundefined]
    rfl
  · rw [if_neg hundefined, if_neg hundefined]
    by_cases hfunction : k = "function"
    · rw [if_neg (by simp [hfunction]), if_pos hfunction]
      refine congrArg (fun next => (interpreter.binding (.str t) >>= next) s') (funext fun y => ?_)
      cases y with
      | handle f => rfl
      | plain v => rfl
    · rw [if_pos hfunction, if_neg hfunction]
      rfl

theorem IsReachable.after (h : IsReachable s.1 t x) (hadds : AddsErrors s s') :
    IsReachable s'.1 t x where
  noFeed := h.noFeed
  noConstant := h.noConstant
  noDebugger heq := by
    rw [hadds.kindOf]
    exact h.noDebugger heq
  keyed hfree := (h.keyed hfree).extended hadds.extended
  errors hreserved := hadds.hasOwnErrors (h.errors hreserved)

/-- A name resolves to what is bound under it. -/
theorem locate_resolves (hne : t ≠ []) (hbinds : Binds s.1 (Utf16.ofText t) x)
    (h : IsReachable s.1 t x) :
    ∃ s', AddsErrors s s' ∧ interpreter.locate (.str t) s =
      (HostM.ofExcept (resolution s.1 t x) : EngineM (Located Value)) s' := by
  obtain ⟨s₁, hadds, hkind⟩ := kind_run hbinds h
  rw [locate_kind hne hkind]
  unfold resolution
  dsimp only
  by_cases hundefined : kindOf s.1 (x.getD .undefined) = "undefined"
  · refine ⟨s₁, hadds, ?_⟩
    rw [if_pos ((typeText_eq _ _ (by decide)).mpr hundefined), if_pos hundefined]
    rfl
  · by_cases hfunction : kindOf s.1 (x.getD .undefined) = "function"
    · obtain ⟨r, hr⟩ := object_of_function hfunction
      obtain rfl : x = some (.object r) := by
        cases x with
        | none => cases hr
        | some v => exact congrArg some hr
      have hkept : kindOf s₁.1 (.object r) = "function" := (hadds.kindOf _).trans hfunction
      obtain ⟨s₂, hadds₂, hbinding⟩ := binding_run (hbinds.extends hadds.extended) (h.after hadds) hkept
      refine ⟨s₂, hadds.trans hadds₂, ?_⟩
      rw [if_neg (mt (typeText_eq _ _ (by decide)).mp hundefined),
        if_pos ((typeText_eq _ _ (by decide)).mpr hfunction), if_neg hundefined, if_pos hfunction]
      exact host_bind_ok hbinding
    · refine ⟨s₁, hadds, ?_⟩
      rw [if_neg (mt (typeText_eq _ _ (by decide)).mp hundefined),
        if_neg (mt (typeText_eq _ _ (by decide)).mp hfunction), if_neg hundefined, if_neg hfunction]
      rfl

/-! ## Names in a small realm -/

/-- A realm with the name of the global object and the members of errors alone. -/
def nameRealm : Machine :=
  let build : Realm.Build Unit := do
    putProperty globalRef "globalThis" (.hidden (.object globalRef))
    let f ← newNative .errorToString "toString" 0
    putProperty Intrinsic.errorPrototype.ref "toString" (.hidden (.object f))
    putProperty syntaxPrototype "name" (.hidden (.string "SyntaxError"))
  match build (Realm.bareMachine, ()) with
  | .ok _ (m, _) => m
  | .error _ (m, _) => m

/-- The state of an instance in the small realm, once it has run a script. -/
def namedBy (script : Text) : Machine × Host :=
  match interpreter.run script (nameRealm, Instance.blank Value) with
  | .ok _ s => s
  | .error _ s => s

/-- The function that a name is bound to, if it is bound to one. -/
def boundFunction? (m : Machine) (n : Name) : Option Ref :=
  match bound? m n with
  | some (some (.object r)) => if (objectAt m r).isCallable then some r else none
  | _ => none

/-- Whether a name is no lexical variable, and its name for the global object means that. -/
def isKeyed (m : Machine) (t : Text) : Bool :=
  (match m.scopes[0]? with
    | some c => (Variable.indexIn c (Utf16.ofText t)).isNone
    | none => true) &&
  (match bound? m globalName with
    | some (some (.object r)) => r == globalRef
    | _ => false)

theorem isKeyed_of (h : isKeyed m t = true) : IsKeyed m t := by
  obtain ⟨hscope, hglobal⟩ := (Bool.and_eq_true _ _).mp h
  constructor
  · intro c hc
    rw [hc] at hscope
    exact Option.isNone_iff_eq_none.mp hscope
  · split at hglobal
    · rename_i r hbound
      obtain rfl : r = globalRef := beq_iff_eq.mp hglobal
      exact binds_of_bound hbound
    · cases hglobal

/-- What it takes for the word `if` to resolve to a function. -/
def servesIf (s : Machine × Host) : Bool :=
  (boundFunction? s.1 (Utf16.ofText "if")).isSome && isKeyed s.1 "if" && hasOwnErrors s.1

/-- A reserved word that is the key of a function resolves to that function. -/
theorem reserved_word_resolves : ∃ s r s',
    Binds s.1 (Utf16.ofText "if") (some (.object r)) ∧
    interpreter.locate (.str "if") s = .ok ⟨.str "if", .object r⟩ s' := by
  have hserves : servesIf (namedBy "globalThis[\"if\"] = function()\x7breturn 7\x7d") = true := by
    decide +kernel
  generalize namedBy _ = s at hserves
  obtain ⟨hboth, herrors⟩ := (Bool.and_eq_true _ _).mp hserves
  obtain ⟨hbound, hkeyed⟩ := (Bool.and_eq_true _ _).mp hboth
  unfold boundFunction? at hbound
  split at hbound
  · rename_i r hr
    split at hbound
    · rename_i hcallable
      have hkind : kindOf s.1 (.object r) = "function" := by simp [kindOf, hcallable]
      have hreachable : IsReachable s.1 "if" (some (.object r)) := by
        refine ⟨fun w _ heq => ?_, by decide, fun heq => absurd heq (by decide),
          fun _ => isKeyed_of hkeyed, fun _ => hasOwnErrors_of herrors⟩
        have hlast := congrArg List.getLast? heq
        rw [List.getLast?_concat] at hlast
        exact absurd hlast (by decide)
      obtain ⟨s', -, hlocate⟩ := locate_resolves (by decide) (binds_of_bound hr) hreachable
      refine ⟨s, r, s', binds_of_bound hr, hlocate.trans ?_⟩
      unfold resolution
      simp only [Option.getD_some, hkind]
      rfl
    · cases hbound
  · cases hbound

/-- Whether nothing is bound under a name that a function is located under all the same. -/
def locatesUnbound (name : Text) (s : Machine × Host) : Bool :=
  match bound? s.1 (Utf16.ofText name), interpreter.locate (.str name) s with
  | some none, .ok _ _ => true
  | _, _ => false

/-- A line feed after the name of a function is not part of a name that anything is bound under, and
yet the function is located under the name with it. -/
theorem line_feed_is_ignored : ∃ s f s',
    Binds s.1 (Utf16.ofText "main\n") none ∧
    interpreter.locate (.str "main\n") s = .ok f s' := by
  have hchecks : locatesUnbound "main\n" (namedBy "function main(x)\x7breturn 7\x7d") = true := by
    decide +kernel
  generalize namedBy _ = s at hchecks
  unfold locatesUnbound at hchecks
  split at hchecks
  · rename_i f s' hbound hlocate
    exact ⟨s, f, s', binds_of_bound hbound, hlocate⟩
  · cases hchecks

end ScriptHost.Proofs.NameResolution
