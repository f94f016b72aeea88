import ScriptHost.Proofs.CheckedScripts

/-!
# How a call with decoded arguments ends

What is read from JSON can be written, so a call with such arguments and what it gives is never too long
to be written or worded.  The call gives data that can be written, or fails with a failure that has no
path; any other fault is one of the look-up of its function.
-/

namespace ScriptHost.Proofs.CallOutcomes

open CommandLine Interpreter Json
open ScriptEngine hiding perform
open Script
open ScriptHost.Proofs.CallBoundary
open ScriptHost.Proofs.CheckedScripts
open ScriptHost.Proofs.EngineBoundary
open ScriptHost.Proofs.HostFaults
open ScriptHost.Proofs.Invocation
open ScriptHost.Proofs.JsonData
open ScriptHost.Proofs.NormalForms
open ScriptHost.Proofs.Registration
open ScriptHost.Proofs.Transition

variable {v name : HostValue} {xs : List HostValue} {raws : List Text} {f : Fault}
  {s s' : Machine × Host}

/-! ## Data that can be written -/

/-- Plain data that can be written. -/
structure IsWritable (v : HostValue) : Prop where
  data : v.isData = true
  written : ∃ t, write wire v = .ok t

theorem isWritable_list (h : ∀ v ∈ xs, IsWritable v) : IsWritable (.list xs) :=
  ⟨(allData_iff xs).mpr fun v hv => (h v hv).data,
    (write_list_isOk xs).mpr fun v hv => (h v hv).written⟩

theorem isWritable_dict {fields : List (Text × HostValue)} (h : ∀ e ∈ fields, IsWritable e.2) :
    IsWritable (.dict (fields.map fun e => (.str e.1, e.2))) := by
  have hentries : ∀ e ∈ fields.map (fun e => (HostValue.str e.1, e.2)),
      e.1.text?.isSome = true ∧ IsWritable e.2 := by
    intro e he
    obtain ⟨field, hfield, rfl⟩ := List.mem_map.mp he
    exact ⟨rfl, h field hfield⟩
  exact ⟨(allEntriesData_iff _).mpr fun e he => ⟨(hentries e he).1, (hentries e he).2.data⟩,
    (write_dict_isOk fun e he => (hentries e he).1).mpr fun e he => (hentries e he).2.written⟩

/-- What comes out of the engine, and what is read, can be written. -/
theorem isClosed_isWritable : IsClosed IsWritable where
  none := ⟨rfl, _, rfl⟩
  bool _ := ⟨rfl, _, rfl⟩
  int i hshort := ⟨rfl, (writeInt_isOk i).mpr (Nat.not_lt.mpr hshort)⟩
  float _ := ⟨rfl, _, rfl⟩
  str _ := ⟨rfl, _, rfl⟩
  list := isWritable_list
  dict h := isWritable_dict h.values

theorem isWritable_decoded (raw : Text) : IsWritable (decodeArgument raw) := by
  unfold decodeArgument
  split
  · rename_i v hread
    exact read_closed isClosed_isWritable raw _ hread
  · exact ⟨rfl, _, rfl⟩

/-- The arguments of a call on the command line. -/
theorem arguments_writable (raws : List Text) : ∃ items,
    (HostValue.list (decodeArguments raws)).normalizeArguments = .ok items ∧
      ∀ v ∈ items, IsWritable v := by
  unfold HostValue.normalizeArguments
  split
  · refine ⟨_, rfl, fun v hv => ?_⟩
    obtain ⟨raw, -, rfl⟩ := List.mem_map.mp hv
    exact isWritable_decoded raw
  · exact ⟨_, rfl, fun v hv => List.mem_singleton.mp hv ▸ ⟨rfl, _, rfl⟩⟩

theorem literal_writable (h : IsWritable v) : ∃ t, v.literal = .ok t := by
  obtain ⟨t, ht⟩ := h.written
  refine ⟨t, ?_⟩
  unfold HostValue.literal
  rw [image_of_isData v h.data]
  exact ht

/-! ## Faults that can be worded -/

theorem worded_read (t : Text) : FailsIn (fun f => f.message?.isSome = true) (Json.read t) := by
  unfold Json.read
  split
  · exact .ok _
  · rename_i e he
    cases e <;> exact .error rfl

/-- What the protected part of a call with such arguments faults with can be worded. -/
theorem protectedCall_worded (applier : Passed Value) (function : Value)
    (h : ∀ v ∈ xs, IsWritable v) :
    Meets (fun _ _ => True) (fun _ => True) (fun f => f.message?.isSome = true)
      (protectedCall interpreter applier function xs) := by
  have hengine := raisesEngineFaults evaluator
  have hrun (code : Text) : Meets (fun _ _ => True) (fun _ => True)
      (fun f => f.message?.isSome = true) (interpreter.run code) :=
    run_meets chains_true
      ((hengine.evaluate code).weaken id (fun _ h => h) fun _ => message_of_engine)
      fun _ hf => message_of_engine (isEngineFault_checkCode hf)
  obtain ⟨t, ht⟩ := literal_writable (isWritable_list h)
  have hlist : Meets (fun _ _ => True) (fun _ => True) (fun f => f.message?.isSome = true)
      (interpreter.listOfHost xs) := by
    unfold Interpreter.listOfHost
    rw [ht]
    exact hrun _
  unfold protectedCall
  refine hlist.bind chains_true fun list _ => Meets.bind (Q := fun _ => True) chains_true ?_ fun w _ => ?_
  · cases applier with
    | handle a =>
        exact (hengine.call a _).weaken id (fun _ h => h) fun _ => message_of_engine
    | plain v => exact Meets.throw chains_true rfl
  · cases w with
    | plain v => exact Meets.pure chains_true trivial
    | handle r =>
        refine Meets.bind (Q := fun _ => True) chains_true
          ((hengine.dataText r).weaken id (fun _ h => h) fun _ => message_of_engine) fun text _ => ?_
        cases text with
        | none => exact Meets.pure chains_true trivial
        | some t => exact meets_ofExcept chains_true (fun _ _ => trivial) (worded_read t)

theorem call_gives (h : Value) (args : List (Passed Value)) :
    Meets (fun _ _ => True) IsEngineValue (fun _ => True) (interpreter.call h args) := by
  refine (meets_any _).bind chains_true fun values _ => ?_
  refine (meets_any _).bind chains_true fun w _ => ?_
  exact meets_ofExcept chains_true (fun w hw => isEngineValue_passed hw) fun _ _ => trivial

/-! ## Calls -/

/-- A failure that does not come from a file. -/
def IsPathless (f : Fault) : Prop := ∃ g, f = .failure g ∧ g.path = .none

/-- A look-up fails with a failure without a path, or with a fault of the engine. -/
theorem locate_fails (h : interpreter.locate name s = .error f s') : IsPathless f ∨ Foreign f := by
  have hlookup : ∀ code, IsLookup name code →
      Meets (fun _ _ => True) (fun _ => True) Foreign (interpreter.run code) := fun code _ => run_foreign code
  cases ((locate_meets chains_true hlookup).error h).2 with
  | unnamed | notFound | notExportable => exact .inl ⟨_, rfl, rfl⟩
  | unshownName | unshownKind | unworded => exact .inr (by simp [Foreign])
  | passedOn hf => exact .inr hf

/-- How a call ends. -/
theorem invoke_outcome (name : HostValue) (raws : List Text) (s : Machine × Host) :
    Ends (fun v _ => IsWritable v)
      (fun f _ => IsPathless f ∨ (Foreign f ∧ ∃ s', interpreter.locate name s = .error f s'))
      (interpreter.invoke name (.list (decodeArguments raws)) s) := by
  obtain ⟨items, hitems, hwritable⟩ := arguments_writable raws
  cases hlocate : interpreter.locate name s with
  | error f s' =>
      rw [invoke_unlocated hitems hlocate]
      exact (locate_fails hlocate).imp_right fun hf => ⟨hf, s', rfl⟩
  | ok found s' =>
      rw [invoke_located hitems hlocate]
      have hgives := protectedCall_meets isClosed_isWritable call_gives s.2.applier found.function items
      have hworded := protectedCall_worded s.2.applier found.function hwritable
      unfold EStateM.tryCatch
      cases hrun : protectedCall interpreter s.2.applier found.function items s' with
      | ok v s'' => exact (hgives.ok hrun).2
      | error f s'' =>
          have hmessage := (hworded.error hrun).2
          have hends := failCall_ends name f s''
          change Ends _ _ (failCall name f s'')
          revert hends
          cases failCall name f s'' with
          | ok v _ => exact False.elim
          | error g _ =>
              rintro (⟨-, reason, rfl⟩ | ⟨hlost, -⟩)
              · exact .inl ⟨_, rfl, rfl⟩
              · rw [hlost] at hmessage
                cases hmessage

end ScriptHost.Proofs.CallOutcomes
