import ScriptHost.Instance.Construction
import ScriptHost.Proofs.EngineBoundary
import ScriptHost.Proofs.JsonData

/-!
# What leaves an instance

Building an instance ends in one kind of failure, and calling a function in a tree of plain values
or in one of three kinds of failure, whatever the engine does.  The one thing that gets past this is
a text that the host cannot write.
-/

namespace ScriptHost.Proofs.CallBoundary

open Interpreter
open ScriptHost.Proofs.Transition
open ScriptHost.Proofs.HostFaults
open ScriptHost.Proofs.Invocation
open ScriptHost.Proofs.Registration
open ScriptHost.Proofs.EngineBoundary
open ScriptHost.Proofs.JsonData

variable {E V : Type} {X : Interpreter E V} {name args : HostValue} {s s' : E × Instance V}
  {f : Fault}

/-! ## Steps of a call -/

/-- The part of a call that answers for every fault. -/
def protectedCall (X : Interpreter E V) (applier : Passed V) (function : V)
    (items : List HostValue) : HostM E V HostValue := do
  X.toHost (← X.callPassed applier [.handle function, ← X.listOfHost items])

/-- A name that is not found is reported whatever the arguments are. -/
theorem invoke_unlocated {items : List HostValue} (hargs : args.normalizeArguments = .ok items)
    (hlocate : X.locate name s = .error f s') : X.invoke name args s = .error f s' := by
  change EStateM.bind (HostM.ofExcept args.normalizeArguments) _ s = _
  rw [hargs]
  change EStateM.bind (X.locate name) _ s = _
  unfold EStateM.bind
  rw [hlocate]

theorem invoke_located {items : List HostValue} {found : Located V}
    (hargs : args.normalizeArguments = .ok items) (hlocate : X.locate name s = .ok found s') :
    X.invoke name args s =
      EStateM.tryCatch (protectedCall X s.2.applier found.function items) (failCall name) s' := by
  change EStateM.bind (HostM.ofExcept args.normalizeArguments) _ s = _
  rw [hargs]
  change EStateM.bind (X.locate name) _ s = _
  unfold EStateM.bind
  rw [hlocate]
  rfl

theorem locate_unnamed (hname : name.text?.getD [] = []) :
    X.locate name s = .error
      (match name.display with
      | some t => .failure (.functionNotFound (.str t))
      | none => .integerTooLong) s := by
  unfold Interpreter.locate
  simp only [hname]
  unfold HostM.show_
  cases name.display with
  | some t => rfl
  | none => rfl

/-- A failed call ends in the failure of its function, or in the fault that it cannot be worded. -/
theorem failCall_ends (name : HostValue) (f : Fault) (s : E × Instance V) :
    Ends (fun _ _ => False)
      (fun g _ =>
        (f.message?.isSome = true ∧
          ∃ reason, g = .failure (.functionRuntime name reason (some f.cls))) ∨
        f.message? = none ∧ g = .integerTooLong)
      (failCall name f s : EStateM.Result Fault (E × Instance V) HostValue) := by
  change Ends _ _ (EStateM.bind (HostM.wording f) _ s)
  unfold EStateM.bind HostM.wording
  cases hworded : f.message? with
  | none => exact Or.inr ⟨rfl, rfl⟩
  | some reason =>
      cases f.cls.isScript with
      | true => exact Or.inl ⟨rfl, _, rfl⟩
      | false => exact Or.inl ⟨rfl, _, rfl⟩

/-! ## Values that come out -/

theorem length_of_display {i : Int} (h : (HostValue.int i).display.isSome = true) :
    (Nat.toDigits 10 i.natAbs).length ≤ maxIntegerDigits := by
  by_contra hlong
  change (decimalOf? i).isSome = true at h
  unfold decimalOf? at h
  rw [if_pos (by omega)] at h
  cases h

theorem closed_plain {P : HostValue → Prop} (hP : IsClosed P) {v : HostValue}
    (h : IsEngineValue (V := V) (.plain v)) : P v := by
  obtain ⟨h, hshown⟩ := h
  cases v with
  | none => exact hP.none
  | bool b => exact hP.bool b
  | int i => exact hP.int i (length_of_display hshown)
  | float x => exact hP.float x
  | str t => exact hP.str t
  | _ => exact h.elim

theorem meets_any {α : Type} (body : HostM E V α) :
    Meets (fun _ _ => True) (fun _ => True) (fun _ => True) body :=
  Meets.of_runs (fun _ _ _ _ => ⟨trivial, trivial⟩) fun _ _ _ _ => ⟨trivial, trivial⟩

/-- What a protected call gives is of each kind that covers what comes out of the engine and what a
reader puts together, whatever its steps fail with. -/
theorem protectedCall_meets {P : HostValue → Prop} (hP : IsClosed P)
    (hcall : ∀ h args, Meets (fun _ _ => True) IsEngineValue (fun _ => True) (X.call h args))
    (applier : Passed V) (function : V) (items : List HostValue) :
    Meets (fun _ _ => True) P (fun _ => True) (protectedCall X applier function items) := by
  refine (meets_any _).bind chains_true fun list _ => ?_
  refine Meets.bind (Q := IsEngineValue) chains_true ?_ fun result hresult => ?_
  · cases applier with
    | handle h => exact hcall h _
    | plain v => exact Meets.throw chains_true trivial
  · cases result with
    | plain v => exact Meets.pure chains_true (closed_plain hP hresult)
    | handle h =>
        refine (meets_any (X.dataText h)).bind chains_true fun text _ => ?_
        cases text with
        | none => exact Meets.pure chains_true hP.none
        | some t =>
            exact meets_ofExcept chains_true (read_closed hP t) fun _ _ => trivial

/-! ## Failures that come out -/

theorem message_of_engine (h : IsEngineFault f) : f.message?.isSome = true := by
  cases f with
  | raised c args => exact h.elim
  | _ => rfl

/-- The name that failures are to carry: the name asked for, or its display if it is no text. -/
def requested (name : HostValue) : Option HostValue :=
  match name.text? with
  | some _ => some name
  | none => name.display.map .str

/-- The failures of a call under a name. -/
def IsCallFailure (name : HostValue) (f : Fault) : Prop :=
  ∃ g, f = .failure g ∧
    (g.kind = .functionNotFound ∨ g.kind = .notExportable ∨ g.kind = .functionRuntime) ∧
    g.name.isSome = true ∧ g.name = requested name

/-- A call gives a tree, or fails as calls do. -/
def IsBounded (name : HostValue) : EStateM.Result Fault (E × Instance V) HostValue → Prop :=
  Ends (fun v _ => IsTree v) fun f _ => IsCallFailure name f

/-- The fault of the protected part of a call, if it is reached and faults. -/
def protectedFault? (X : Interpreter E V) (name args : HostValue) (s : E × Instance V) :
    Option Fault :=
  match args.normalizeArguments, X.locate name s with
  | .ok items, .ok found s' =>
    match protectedCall X s.2.applier found.function items s' with
    | .ok _ _ => none
    | .error f _ => some f
  | _, _ => none

/-- What can be reported about a call.  A name that is no text or an empty one is shown as what it
is: the display of an empty member of an enumeration is another one.  A fault of the protected part
can be worded. -/
structure CanBeReported (X : Interpreter E V) (name args : HostValue) (s : E × Instance V) :
    Prop where
  shown : name.text?.getD [] = [] → name.display.isSome = true ∧ name ≠ .strMember []
  worded : ∀ f, protectedFault? X name args s = some f → f.message?.isSome = true

theorem requested_of_text (h : name.text?.getD [] ≠ []) : requested name = some name := by
  unfold requested
  cases htext : name.text? with
  | some t => rfl
  | none => exact absurd (by simp [htext]) h

/-- An empty name is the one that was asked for unless an enumeration displays it as another. -/
theorem requested_of_display (h : name.text?.getD [] = []) {t : Text}
    (ht : name.display = some t) : requested name = some (.str t) ↔ name ≠ .strMember [] := by
  cases name with
  | str u =>
      obtain rfl : u = [] := h
      obtain rfl : ([] : Text) = t := Option.some.inj ht
      exact iff_of_true rfl (by simp)
  | strMember u =>
      obtain rfl : u = [] := h
      exact iff_of_false (by simp [requested, HostValue.text?]) (by simp)
  | _ => exact iff_of_true (by simp [requested, HostValue.text?, ht]) (by simp)

section Calls

variable {items : List HostValue}

/-- What the look-up of a name that is a text fails with, if the engine's faults in look-ups are its
own exceptions. -/
theorem isCallFailure_of_lookup (hname : name.text?.getD [] ≠ [])
    (h : LookupFault StopsScript (IsEngineValue (V := V)) name f) : IsCallFailure name f := by
  have hrequested := (requested_of_text hname).symm
  cases h with
  | unnamed hempty => exact absurd hempty hname
  | notFound => exact ⟨_, rfl, Or.inl rfl, rfl, hrequested⟩
  | notExportable reason cause => exact ⟨_, rfl, Or.inr (Or.inl rfl), rfl, hrequested⟩
  | unshownName hempty => exact absurd hempty hname
  | unshownKind hv hshown => exact absurd hv.2 (by simp [hshown])
  | unworded hf hscript hlost => exact absurd (message_of_engine hf.1) (by simp [hlost])
  | passedOn hf hscript => exact absurd hf.2 (by simp [hscript])

/-- A call is bounded if and only if it can be reported. -/
theorem invoke_isBounded_iff (hargs : args.normalizeArguments = .ok items)
    (hlookup : ∀ code, IsLookup name code →
      Meets (fun _ _ => True) IsEngineValue StopsScript (X.run code))
    (hcall : ∀ h args, Meets (fun _ _ => True) IsEngineValue (fun _ => True) (X.call h args)) :
    IsBounded name (X.invoke name args s) ↔ CanBeReported X name args s := by
  by_cases hname : name.text?.getD [] = []
  · have hlocate := locate_unnamed (X := X) (s := s) hname
    have hfault : protectedFault? X name args s = none := by
      unfold protectedFault?
      rw [hargs, hlocate]
    rw [invoke_unlocated hargs hlocate]
    cases hshown : name.display with
    | none =>
        refine iff_of_false ?_ fun h => absurd (h.shown hname).1 (by simp [hshown])
        rintro ⟨g, ⟨⟩, -⟩
    | some t =>
        have hcarried := requested_of_display hname hshown
        constructor
        · rintro ⟨g, ⟨⟩, -, -, hg⟩
          exact ⟨fun _ => ⟨by simp [hshown], hcarried.mp hg.symm⟩, by simp [hfault]⟩
        · intro h
          exact ⟨_, rfl, Or.inl rfl, rfl, (hcarried.mpr (h.shown hname).2).symm⟩
  · cases hlocate : X.locate name s with
    | error f s' =>
        have hlookupFault := ((locate_meets chains_true hlookup).error hlocate).2
        have hfault : protectedFault? X name args s = none := by
          unfold protectedFault?
          rw [hargs, hlocate]
        rw [invoke_unlocated hargs hlocate]
        refine iff_of_true (isCallFailure_of_lookup hname hlookupFault) ?_
        exact ⟨fun h => absurd h hname, by simp [hfault]⟩
    | ok found s' =>
        have hprotected := protectedCall_meets isClosed_isTree hcall s.2.applier found.function items s'
        have hfault : ∀ {f}, protectedFault? X name args s = some f ↔
            ∃ s'', protectedCall X s.2.applier found.function items s' = .error f s'' := by
          intro f
          unfold protectedFault?
          rw [hargs, hlocate]
          dsimp only
          cases protectedCall X s.2.applier found.function items s' with
          | ok v s'' => simp
          | error g s'' => simp
        rw [invoke_located hargs hlocate]
        unfold EStateM.tryCatch
        cases hrun : protectedCall X s.2.applier found.function items s' with
        | ok v s'' =>
            rw [hrun] at hprotected
            refine iff_of_true hprotected.2 ⟨fun h => absurd h hname, fun f hf => ?_⟩
            obtain ⟨_, hother⟩ := hfault.mp hf
            rw [hrun] at hother
            cases hother
        | error f s'' =>
            have hfailed := failCall_ends name f s''
            change IsBounded name (failCall name f s'') ↔ _
            revert hfailed
            cases failCall name f s'' with
            | ok v _ => exact False.elim
            | error g _ =>
                rintro (⟨hworded, reason, rfl⟩ | ⟨hlost, rfl⟩)
                · refine iff_of_true
                    ⟨_, rfl, Or.inr (Or.inr rfl), rfl, (requested_of_text hname).symm⟩
                    ⟨fun h => absurd h hname, fun g hg => ?_⟩
                  obtain ⟨_, hsame⟩ := hfault.mp hg
                  rw [hrun] at hsame
                  cases hsame
                  exact hworded
                · refine iff_of_false ?_ fun h =>
                    absurd (h.worded f (hfault.mpr ⟨_, hrun⟩)) (by simp [hlost])
                  rintro ⟨g, ⟨⟩, -⟩

end Calls

theorem invoke_raises_no_script_fault {items : List HostValue} (hargs : args.normalizeArguments = .ok items)
    (hlookup : ∀ code, IsLookup name code →
      Meets (fun _ _ => True) IsEngineValue StopsScript (X.run code)) :
    Meets (fun _ _ => True) (fun _ => True) (fun f => f.cls.isScript = false)
      (X.invoke name args) := by
  have hlocate : Meets (fun _ _ => True) (fun _ => True)
      (LookupFault StopsScript (IsEngineValue (V := V)) name) (X.locate name) :=
    (locate_meets chains_true hlookup).weaken id (fun _ _ => trivial) fun _ h => h
  refine (invoke_meets chains_true (fun _ _ _ => trivial) hlocate fun applier function items _ =>
    meets_any _).weaken id (fun _ h => h) fun f hf => ?_
  cases hf with
  | arguments h =>
      rw [hargs] at h
      cases h
  | lookup h =>
      cases h with
      | passedOn hf hscript => exact hscript
      | _ => rfl
  | runtime => rfl
  | unworded => rfl

/-! ## Texts of the host -/

theorem isSurrogate_ofChar (c : Char) : (CodePoint.ofChar c).isSurrogate = false := by
  have hvalid := c.valid
  simp only [UInt32.isValidChar, Nat.isValidChar] at hvalid
  rw [CodePoint.isSurrogate, Bool.and_eq_false_iff, decide_eq_false_iff_not,
    decide_eq_false_iff_not]
  change ¬0xD800 ≤ c.val.toNat ∨ ¬c.val.toNat < 0xE000
  omega

theorem firstSurrogate_ofString (t : String) : Utf8.firstSurrogate? (Text.ofString t) = none := by
  have hscalar : ∀ (i : Nat) (cs : List Char),
      Utf8.firstSurrogate?.go i (cs.map CodePoint.ofChar) = none := by
    intro i cs
    induction cs generalizing i with
    | nil => rfl
    | cons c rest ih =>
        simp only [List.map_cons, Utf8.firstSurrogate?.go, isSurrogate_ofChar]
        exact ih (i + 1)
  exact hscalar 0 t.toList

/-- A text of the host without the zero character. -/
def NonZero (t : String) : Prop := '\x00' ∉ t.toList

theorem NonZero.append {a b : String} (ha : NonZero a) (hb : NonZero b) : NonZero (a ++ b) := by
  rw [NonZero, String.toList_append, List.mem_append, not_or]
  exact ⟨ha, hb⟩

theorem nonZero_ofList {cs : List Char} (h : '\x00' ∉ cs) : NonZero (String.ofList cs) := by
  rw [NonZero, String.toList_ofList]
  exact h

/-- Every engine takes the texts of the host without the zero character. -/
theorem checkCode_ofString {t : String} (h : NonZero t) : checkCode (Text.ofString t) = .ok () := by
  have hzero : (Text.ofString t).any (·.val == 0) = false := by
    rw [List.any_eq_false]
    intro p hp hzero
    obtain ⟨c, hc, rfl⟩ := List.mem_map.mp hp
    have hval : (CodePoint.ofChar c).val = 0 := by simpa using hzero
    obtain rfl : c = '\x00' := Char.toNat_inj.mp hval
    exact h hc
  unfold checkCode
  rw [firstSurrogate_ofString, hzero]
  rfl

theorem checkCode_bridgeSource : checkCode bridgeSource = .ok () := by
  refine checkCode_ofString ?_
  repeat refine NonZero.append ?_ ?_
  all_goals exact nonZero_ofList (by decide)

theorem checkCode_applierSource : checkCode applierSource = .ok () :=
  checkCode_ofString (nonZero_ofList (by decide))

theorem checkCode_globalFunctionsSource : checkCode globalFunctionsSource = .ok () := by
  have hjoined : ∀ a b : String, Text.ofString a ++ Text.ofString b = Text.ofString (a ++ b) := by
    intro a b
    rw [Text.ofString, Text.ofString, Text.ofString, String.toList_append, List.map_append]
  unfold globalFunctionsSource
  rw [hjoined]
  exact checkCode_ofString ((nonZero_ofList (by decide)).append (nonZero_ofList (by decide)))

/-! ## Building an instance -/

/-- The faults of a script text that is evaluated: what it throws, and that it is rejected. -/
def StopsText (f : Fault) : Prop :=
  IsEngineFault f ∧ (f.cls.isScript = true ∨ f.cls.isValue = true)

/-- The failure of a script's top level. -/
def IsScriptFailure (f : Fault) : Prop := ∃ g, f = .failure g ∧ g.kind = .scriptExecution

theorem runTopLevel_meets {text : Text}
    (hscript : Meets (fun _ _ => True) (fun _ => True) StopsText (X.run text)) :
    Meets (fun _ _ => True) (fun _ => True) IsScriptFailure (X.runTopLevel text) := by
  have hbody : Meets (fun _ _ => True) (fun _ => True) StopsText
      (do let _ ← X.run text : HostM E V Unit) :=
    hscript.bind chains_true fun _ _ => Meets.pure chains_true trivial
  refine hbody.tryCatch chains_true fun f hf => ?_
  rw [if_pos (by simpa using hf.2)]
  refine (meets_wording chains_true fun hlost => ?_).bind chains_true fun reason _ => ?_
  · exact absurd (message_of_engine hf.1) (by simp [hlost])
  · exact (meets_modifyInstance fun _ _ => trivial).bind chains_true fun _ _ =>
      Meets.throw chains_true ⟨_, rfl, rfl⟩

/-- What is left to do once an instance is set up: the script's top level, and a record. -/
def finish (X : Interpreter E V) (text : Text) : HostM E V Unit := do
  X.runTopLevel text
  let names := (← HostM.registry).names
  HostM.record constructionLogger .debug
    ("Runtime ready with modules " ++ Failure.shown (.list names))

theorem construct_run {plan : Blueprint} {script : HostValue} {text : Text} {s₁ : E × Instance V}
    (hsetUp : X.setUp plan script s = .ok text s₁) :
    X.construct plan script s = finish X text s₁ := by
  change EStateM.bind (X.setUp plan script) _ s = _
  unfold EStateM.bind
  rw [hsetUp]
  rfl

theorem construct_ends {plan : Blueprint} {script : HostValue} {text : Text} {s₁ : E × Instance V}
    (hsetUp : X.setUp plan script s = .ok text s₁)
    (hscript : Meets (fun _ _ => True) (fun _ => True) StopsText (X.run text)) :
    Ends (fun _ _ => True) (fun f _ => IsScriptFailure f) (X.construct plan script s) := by
  have hfinish : Meets (fun _ _ => True) (fun _ => True) IsScriptFailure (finish X text) :=
    (runTopLevel_meets hscript).bind chains_true fun _ _ =>
      (meets_registry chains_true).bind chains_true fun _ _ =>
        meets_modifyInstance fun _ _ => trivial
  have hends := hfinish s₁
  rw [construct_run hsetUp]
  revert hends
  cases finish X text s₁ with
  | ok u s' => exact fun _ => trivial
  | error f s' => exact fun h => h.2

theorem normalizeArguments_ok (hargs : args = .none ∨ ∃ items, args = .list items) :
    ∃ items, args.normalizeArguments = .ok items := by
  rcases hargs with rfl | ⟨items, rfl⟩
  · exact ⟨_, rfl⟩
  · unfold HostValue.normalizeArguments
    split
    · exact ⟨_, rfl⟩
    · exact ⟨_, rfl⟩

theorem run_checked {code : Text} (h : checkCode code = .ok ()) :
    X.run code = X.evaluate code := by
  unfold Interpreter.run
  rw [h]
  rfl

/-- An engine that gives what stands on a tape, whatever it is asked for, and `[1]` for the text of
every object. -/
def tapeEngine : Interpreter (List (Subtype (IsEngineValue (V := Unit)))) Unit where
  evaluate _ := fun (tape, i) =>
    match tape with
    | [] => .ok (.plain .none) ([], i)
    | v :: rest => .ok v.1 (rest, i)
  call _ _ := pure (.handle ())
  dataText _ := pure (some "[1]")
  addFunction _ := pure ()

/-- The outcomes of a construction, of a look-up that finds a function, and of its arguments. -/
def tape : List (Subtype (IsEngineValue (V := Unit))) :=
  [⟨.plain .none, trivial, rfl⟩, ⟨.handle (), trivial⟩, ⟨.plain (.ofString "[]"), trivial, rfl⟩,
    ⟨.plain .none, trivial, rfl⟩, ⟨.plain (.ofString "function"), trivial, rfl⟩,
    ⟨.handle (), trivial⟩, ⟨.handle (), trivial⟩]

/-- A blueprint without built-in modules. -/
def bareBlueprint : Blueprint :=
  { Blueprint.standard with config := { Config.standard with registerBuiltins := .bool false } }

theorem tapeEngine_setUp : ∃ s,
    tapeEngine.setUp bareBlueprint (.ofString "") (tape, .blank Unit) = .ok (Text.ofString "") s ∧
      s.1 = tape.drop 3 ∧ s.2.applier = .handle () := by
  unfold setUp prepare globalFunctions jsonItems
  rw [run_checked checkCode_bridgeSource, run_checked checkCode_applierSource,
    run_checked checkCode_globalFunctionsSource]
  exact ⟨_, rfl, rfl, rfl⟩

theorem tapeEngine_construct : ∃ s,
    tapeEngine.construct bareBlueprint (.ofString "") (tape, .blank Unit) = .ok () s ∧
      s.1 = tape.drop 4 ∧ s.2.applier = .handle () := by
  obtain ⟨⟨rest, i⟩, hsetUp, hrest, happlier⟩ := tapeEngine_setUp
  obtain rfl : rest = tape.drop 3 := hrest
  have hempty : checkCode (Text.ofString "") = .ok () := rfl
  rw [construct_run hsetUp]
  unfold finish runTopLevel
  rw [run_checked hempty]
  exact ⟨_, rfl, rfl, happlier⟩

theorem tapeEngine_evaluate (code : Text) :
    Meets (fun _ _ => True) IsEngineValue (fun _ => False) (tapeEngine.evaluate code) := by
  rintro ⟨rest, i⟩
  cases rest with
  | nil => exact ⟨trivial, trivial, rfl⟩
  | cons v rest => exact ⟨trivial, v.2⟩

theorem tapeEngine_lookup (code : Text) (h : IsLookup (.ofString "main") code) :
    Meets (fun _ _ => True) IsEngineValue StopsScript (tapeEngine.run code) := by
  have hchecked : checkCode code = .ok () := by
    cases h with
    | kind => rfl
    | binding h ht =>
        cases ht
        rfl
    | globalKind h =>
        cases h
        rfl
    | global h =>
        cases h
        rfl
  rw [run_checked hchecked]
  exact (tapeEngine_evaluate code).weaken id (fun _ h => h) fun _ h => h.elim

theorem tapeEngine_call (h : Unit) (args : List (Passed Unit)) :
    Meets (fun _ _ => True) IsEngineValue (fun _ => True) (tapeEngine.call h args) :=
  Meets.pure chains_true trivial

/-- A power of ten with more digits than the host writes has no display. -/
theorem display_powerOfTen {n : Nat} (h : maxIntegerDigits ≤ n) :
    (HostValue.int (10 ^ n)).display = none := by
  have habs : ((10 : Int) ^ n).natAbs = 10 ^ n := Int.natAbs_pow 10 n
  change decimalOf? (10 ^ n) = none
  unfold decimalOf?
  refine if_pos ?_
  rw [habs]
  by_contra hshort
  have hbound := (Nat.length_toDigits_le_iff (by omega) (by decide)).mp (Nat.le_of_not_lt hshort)
  exact absurd hbound (Nat.not_lt.mpr (Nat.pow_le_pow_right (by omega) h))

/-- A value whose image fails with a fault that holds an integer. -/
def failingWith (i : Int) : HostValue :=
  .object "Scripted" (.failing .value [.int i]) .absent none

end ScriptHost.Proofs.CallBoundary
