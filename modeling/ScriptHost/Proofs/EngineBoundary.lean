import ScriptHost.Instance.ScriptEngine
import ScriptHost.Proofs.Registration

/-!
# What crosses the boundary of the engine

The script engine hands out objects by reference and everything else as a primitive that can be
written down.  Whatever stops a script becomes a fault of the engine.
-/

namespace ScriptHost.Proofs.EngineBoundary

open Script Script.Eval ScriptEngine
open ScriptHost.Proofs.Transition
open ScriptHost.Proofs.HostFaults
open ScriptHost.Proofs.Registration

/-- The values that come out of an engine: references, and primitives that can be written down. -/
def IsEngineValue {V : Type} : Passed V → Prop
  | .handle _ => True
  | .plain v =>
    (match v with
      | .none | .bool _ | .int _ | .float _ | .str _ => True
      | _ => False) ∧ v.display.isSome

theorem display_int {i : Int} (h : (Nat.toDigits 10 i.natAbs).length ≤ maxIntegerDigits) :
    (HostValue.int i).display.isSome := by
  change (decimalOf? i).isSome
  unfold decimalOf?
  rw [if_neg (by omega)]
  rfl

theorem toDigits_int32 (i : Int32) :
    (Nat.toDigits 10 i.toInt.natAbs).length ≤ maxIntegerDigits := by
  have hlow : -(2 ^ 31) ≤ i.toInt := i.le_toInt
  have hhigh : i.toInt < 2 ^ 31 := i.toInt_lt
  have hlength : (Nat.toDigits 10 i.toInt.natAbs).length ≤ 10 := by
    rw [Nat.length_toDigits_le_iff (by omega) (by omega)]
    omega
  exact Nat.le_trans hlength (by decide)

theorem isEngineValue_passed {v : Value} {w : Passed Value} (h : passed v = .ok w) :
    IsEngineValue w := by
  cases v with
  | undefined => cases h; exact ⟨trivial, rfl⟩
  | null => cases h; exact ⟨trivial, rfl⟩
  | symbol id => cases h; exact ⟨trivial, rfl⟩
  | bool b => cases h; exact ⟨trivial, rfl⟩
  | float x => cases h; exact ⟨trivial, rfl⟩
  | object r => cases h; trivial
  | int i =>
      cases h
      exact ⟨trivial, display_int (toDigits_int32 i)⟩
  | string s =>
      change (hostText s >>= fun t => Except.ok (Passed.plain (.str t))) = _ at h
      cases htext : hostText s with
      | ok t =>
          rw [htext] at h
          cases h
          exact ⟨trivial, rfl⟩
      | error f =>
          rw [htext] at h
          cases h
  | bigint i =>
      unfold passed at h
      dsimp only at h
      split at h
      · cases h
      · rename_i hcount
        cases h
        exact ⟨trivial, display_int (by omega)⟩

theorem isEngineFault_hostText {s : Utf16} {f : Fault} (h : hostText s = .error f) :
    IsEngineFault f ∧ f.cls.isValue = true := by
  unfold hostText at h
  split at h
  · cases h
  · cases h
    exact ⟨trivial, rfl⟩

theorem isEngineFault_passed {v : Value} {f : Fault} (h : passed v = .error f) :
    IsEngineFault f ∧ f.cls.isValue = true := by
  cases v with
  | string s =>
      change (hostText s >>= fun t => Except.ok (Passed.plain (.str t))) = _ at h
      cases htext : hostText s with
      | ok t =>
          rw [htext] at h
          cases h
      | error g =>
          rw [htext] at h
          cases h
          exact isEngineFault_hostText htext
  | bigint i =>
      unfold passed at h
      dsimp only at h
      split at h
      · cases h
        exact ⟨trivial, rfl⟩
      · cases h
  | _ => cases h

/-! ## Faults of scripts -/

/-- A fault that a script is stopped with. -/
def StopsScript (f : Fault) : Prop := IsEngineFault f ∧ f.cls.isScript = true

/-- A thrown value is to the host an exception of the engine. -/
theorem thrownFault_meets (I : Interp Host) (v : Value) :
    Meets (fun _ _ => True) StopsScript (fun _ => True) (thrownFault I v) := by
  have hany : ∀ {α : Type} (body : Eval Host α),
      Meets (fun _ _ => True) (fun _ => True) (fun _ => True) body := fun body =>
    Meets.of_runs (fun _ _ _ _ => ⟨trivial, trivial⟩) fun _ _ _ _ => ⟨trivial, trivial⟩
  have hchosen : ∀ (c : Prop) [Decidable c] (m : Text),
      StopsScript (if c then .stackOverflow m else .script m) := by
    intro c _ m
    split
    · exact ⟨trivial, rfl⟩
    · exact ⟨trivial, rfl⟩
  unfold thrownFault
  refine (hany _).bind chains_true fun text _ => ?_
  dsimp only
  split
  all_goals
    refine (hany _).bind chains_true fun stack _ => ?_
    cases text with
    | none => exact Meets.pure chains_true ⟨trivial, rfl⟩
    | some text => exact Meets.pure chains_true (hchosen _ _)

/-- Whatever ends a run of the engine before its time is an exception of the engine. -/
theorem perform_meets {α : Type} (I : Interp Host) (body : Eval Host α) :
    Meets (fun _ _ => True) (fun _ => True) StopsScript (perform I body) := by
  intro s
  unfold perform
  cases body s with
  | ok a s₁ => exact ⟨trivial, trivial⟩
  | error signal s₁ =>
      cases signal with
      | thrown v =>
          have hfault := thrownFault_meets I v s₁
          revert hfault
          dsimp only
          cases thrownFault I v s₁ with
          | ok f s₂ => exact fun hf => ⟨trivial, hf.2⟩
          | error g s₂ => exact fun _ => ⟨trivial, trivial, rfl⟩
      | _ => exact ⟨trivial, trivial, rfl⟩

/-- A script text gives a value of the engine, or fails with an exception of the engine or a value
that cannot cross. -/
theorem evaluate_meets (I : Interp Host) (code : Text) :
    Meets (fun _ _ => True) IsEngineValue
      (fun f => IsEngineFault f ∧ (f.cls.isScript = true ∨ f.cls.isValue = true))
      ((interpreterOver I).evaluate code) := by
  refine ((perform_meets I _).weaken id (fun _ h => h) fun f hf => ⟨hf.1, Or.inl hf.2⟩).bind
    chains_true fun v _ => ?_
  refine meets_ofExcept chains_true (fun w hw => isEngineValue_passed hw) fun f hf => ?_
  obtain ⟨hengine, hvalue⟩ := isEngineFault_passed hf
  exact ⟨hengine, Or.inr hvalue⟩

theorem valuesIn_fails (args : List (Passed Value)) : FailsIn IsEngineFault (valuesIn args) := by
  have hfloat : ∀ i, FailsIn IsEngineFault (numberIn i) := by
    intro i
    unfold numberIn
    split
    · exact .ok _
    · refine FailsIn.bind ?_ fun _ => .ok _
      unfold HostValue.floatOfInt
      dsimp only
      split
      · exact .error trivial
      · exact .ok _
  have hcheck : ∀ v, FailsIn IsEngineFault (checkArgument v) := by
    intro v
    unfold checkArgument
    repeat' split
    all_goals first | exact .ok _ | exact .error trivial
  have hvalue : ∀ v, FailsIn IsEngineFault (valueIn v) := by
    intro v
    unfold valueIn
    repeat' split
    all_goals first | exact .ok _ | exact .error trivial | exact hfloat _
  exact (FailsIn.forM hcheck args).bind fun _ => FailsIn.mapM args fun v _ => hvalue v

/-- The script engine fails with faults of an engine, whatever a script does. -/
theorem raisesEngineFaults (I : Interp Host) : RaisesEngineFaults (interpreterOver I) where
  evaluate code := (evaluate_meets I code).weaken id (fun _ _ => trivial) fun _ hf => hf.1
  call h args := by
    refine Meets.bind (Q := fun _ => True) chains_true ?_ fun values _ => ?_
    · exact meets_ofExcept chains_true (fun _ _ => trivial) (valuesIn_fails args)
    · refine ((perform_meets I _).weaken id (fun _ h => h) fun f hf => hf.1).bind
        chains_true fun v _ => ?_
      exact meets_ofExcept chains_true (fun _ _ => trivial) fun f hf => (isEngineFault_passed hf).1
  dataText h := by
    refine ((perform_meets I _).weaken id (fun _ h => h) fun f hf => hf.1).bind
      chains_true fun v _ => ?_
    split
    · refine Meets.bind (Q := fun _ => True) chains_true ?_ fun _ _ => Meets.pure chains_true trivial
      exact meets_ofExcept chains_true (fun _ _ => trivial) fun f hf =>
        (isEngineFault_hostText hf).1
    · exact Meets.pure chains_true trivial
  addFunction id := by
    intro s
    change Ends _ _ (addFunction I id s)
    unfold addFunction
    dsimp only
    split
    · exact ⟨trivial, trivial⟩
    · exact ⟨trivial, trivial⟩

end ScriptHost.Proofs.EngineBoundary
