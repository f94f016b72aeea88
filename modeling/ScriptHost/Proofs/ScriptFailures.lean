import ScriptHost.Proofs.CallBoundary
import ScriptHost.Proofs.PreparedInstances

/-!
# What building an instance ends in

Setting up an instance succeeds for every script, and whatever stops the script's top level is a failure
of the script.  Its message has no surrogates: what the engine says is replaced where it has them, and
what the host says of a text shows them by number.
-/

namespace ScriptHost.Proofs.ScriptFailures

open Interpreter ScriptEngine
open Script Script.Eval
open ScriptHost.Proofs.CallBoundary
open ScriptHost.Proofs.EngineBoundary
open ScriptHost.Proofs.PreparedInstances
open ScriptHost.Proofs.Registration
open ScriptHost.Proofs.Transition

variable {t u : Text} {f : Fault}

/-! ## Texts without surrogates -/

theorem isScalar_ofString (s : String) : (Text.ofString s).IsScalar := by
  intro c hc
  obtain ⟨d, -, rfl⟩ := List.mem_map.mp hc
  exact isSurrogate_ofChar d

theorem isScalar_append (ht : t.IsScalar) (hu : u.IsScalar) : (t ++ u).IsScalar := fun c hc =>
  (List.mem_append.mp hc).elim (ht c) (hu c)

theorem isScalar_lossyText (s : Utf16) : (lossyText s).IsScalar := by
  intro c hc
  obtain ⟨d, -, hd⟩ := List.mem_flatMap.mp hc
  split at hd
  · have hreplaced : c = replacement := by simpa using hd
    rw [hreplaced]
    decide
  · rename_i hscalar
    obtain rfl := List.mem_singleton.mp hd
    exact (Bool.not_eq_true _).mp hscalar

/-! ## Faults of scripts -/

/-- A fault that a script text is stopped with, worded without surrogates. -/
def StopsInWords (f : Fault) : Prop := StopsText f ∧ f.message.IsScalar

theorem stopsInWords_checkCode (h : checkCode t = .error f) : StopsInWords f := by
  unfold checkCode at h
  split at h
  · cases h
    exact ⟨⟨trivial, .inr rfl⟩, isScalar_ofString _⟩
  · split at h
    · cases h
      exact ⟨⟨trivial, .inr rfl⟩, isScalar_ofString _⟩
    · cases h

theorem stopsInWords_passed {v : Value} (h : passed v = .error f) : StopsInWords f := by
  obtain ⟨hengine, hvalue⟩ := isEngineFault_passed h
  refine ⟨⟨hengine, .inr hvalue⟩, ?_⟩
  cases v with
  | string s =>
      change (hostText s >>= fun t => Except.ok (Passed.plain (.str t))) = _ at h
      unfold hostText at h
      split at h
      · cases h
      · cases h
        exact isScalar_ofString _
  | bigint i =>
      unfold passed at h
      dsimp only at h
      split at h
      · cases h
        exact isScalar_ofString _
      · cases h
  | _ => cases h

/-- What a thrown value is to the host is worded without surrogates. -/
theorem thrownFault_words (I : Interp Host) (v : Value) :
    Meets (fun _ _ => True) StopsInWords (fun _ => True) (thrownFault I v) := by
  have hany : ∀ {α : Type} (body : Eval Host α),
      Meets (fun _ _ => True) (fun _ => True) (fun _ => True) body := fun body =>
    Meets.of_runs (fun _ _ _ _ => ⟨trivial, trivial⟩) fun _ _ _ _ => ⟨trivial, trivial⟩
  have hchosen : ∀ (c : Prop) [Decidable c] {m : Text}, m.IsScalar →
      StopsInWords (if c then .stackOverflow m else .script m) := by
    intro c _ m hm
    split
    · exact ⟨⟨trivial, .inl rfl⟩, hm⟩
    · exact ⟨⟨trivial, .inl rfl⟩, hm⟩
  have hstack (stack : Option Utf16) : ((stack.map lossyText).getD []).IsScalar := by
    cases stack with
    | none => simp [Text.IsScalar]
    | some s => exact isScalar_lossyText s
  unfold thrownFault
  refine (hany _).bind chains_true fun text _ => ?_
  dsimp only
  split
  all_goals
    refine (hany _).bind chains_true fun stack _ => ?_
    cases text with
    | none => exact Meets.pure chains_true ⟨⟨trivial, .inl rfl⟩, isScalar_ofString _⟩
    | some text =>
        refine Meets.pure chains_true (hchosen _ ?_)
        exact isScalar_append (isScalar_append (isScalar_lossyText text) (isScalar_ofString _)) (hstack stack)

theorem perform_words {α : Type} (I : Interp Host) (body : Eval Host α) :
    Meets (fun _ _ => True) (fun _ => True) StopsInWords (perform I body) := by
  have hexhausted : StopsInWords exhausted := ⟨⟨trivial, .inl rfl⟩, isScalar_ofString _⟩
  intro s
  unfold perform
  cases body s with
  | ok a s₁ => exact ⟨trivial, trivial⟩
  | error signal s₁ =>
      cases signal with
      | thrown v =>
          have hfault := thrownFault_words I v s₁
          revert hfault
          dsimp only
          cases thrownFault I v s₁ with
          | ok f s₂ => exact fun hf => ⟨trivial, hf.2⟩
          | error g s₂ => exact fun _ => ⟨trivial, hexhausted⟩
      | _ => exact ⟨trivial, hexhausted⟩

/-- Whatever stops a script text is worded without surrogates. -/
theorem run_words (t : Text) :
    Meets (fun _ _ => True) (fun _ => True) StopsInWords (interpreter.run t) := by
  refine Meets.bind (Q := fun _ => True) chains_true ?_ fun _ _ => ?_
  · exact meets_ofExcept chains_true (fun _ _ => trivial) fun _ => stopsInWords_checkCode
  · refine (perform_words evaluator _).bind chains_true fun v _ => ?_
    exact meets_ofExcept chains_true (fun _ _ => trivial) fun _ => stopsInWords_passed

/-! ## Failures of instances -/

/-- The failure of a script, worded without surrogates. -/
def IsWordedFailure (f : Fault) : Prop :=
  ∃ m cause, f = .failure (.scriptExecution m cause) ∧ m.IsScalar

theorem runTopLevel_words (t : Text) :
    Meets (fun _ _ => True) (fun _ => True) IsWordedFailure (interpreter.runTopLevel t) := by
  have hbody : Meets (fun _ _ => True) (fun _ => True) StopsInWords
      (do let _ ← interpreter.run t : EngineM Unit) :=
    (run_words t).bind chains_true fun _ _ => Meets.pure chains_true trivial
  refine hbody.tryCatch chains_true fun f hf => ?_
  rw [if_pos (by simpa using hf.1.2)]
  have hreason : Meets (fun _ _ => True) (fun r => r.IsScalar) IsWordedFailure
      (HostM.wording f : EngineM Text) := by
    have hmessage : f.message? = some f.message := by
      have hworded := message_of_engine hf.1.1
      cases f with
      | raised c args => exact hf.1.1.elim
      | _ => rfl
    unfold HostM.wording
    rw [hmessage]
    exact Meets.pure chains_true hf.2
  refine hreason.bind chains_true fun reason hscalar => ?_
  exact (meets_modifyInstance fun _ _ => trivial).bind chains_true fun _ _ =>
    Meets.throw chains_true ⟨_, _, rfl, isScalar_append (isScalar_ofString _) hscalar⟩

/-- What is left to do once an instance is set up succeeds, or the script has failed. -/
theorem finish_words (t : Text) :
    Meets (fun _ _ => True) (fun _ => True) IsWordedFailure (finish interpreter t) :=
  (runTopLevel_words t).bind chains_true fun _ _ =>
    (meets_registry chains_true).bind chains_true fun _ _ =>
      meets_modifyInstance fun _ _ => trivial

theorem construct_finish (entrypoint : HostValue) (t : Text) :
    ∃ s, interpreter.construct (blueprint entrypoint) (.str t) fresh = finish interpreter t s :=
  (setUp_run entrypoint t).imp fun _ h => construct_run h.1

/-- If no instance is built for a script, the script has failed. -/
theorem construct_fails {entrypoint : HostValue} {s : Machine × Host}
    (h : interpreter.construct (blueprint entrypoint) (.str t) fresh = .error f s) :
    IsWordedFailure f := by
  obtain ⟨s₁, hrun⟩ := construct_finish entrypoint t
  exact ((finish_words t).error (hrun.symm.trans h)).2

end ScriptHost.Proofs.ScriptFailures
