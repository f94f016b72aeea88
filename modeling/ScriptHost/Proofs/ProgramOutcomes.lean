import ScriptHost.CommandLine.Program
import ScriptHost.Proofs.LinedTexts
import ScriptHost.Proofs.LoadedScripts
import ScriptHost.Proofs.NameResolution
import ScriptHost.Proofs.NormalForms

/-!
# What the command line program leaves

A result goes to the output and ends the program with 0.  A failure is reported behind the log and ends
it with 1.  Texts without surrogates are printed as they are, and so is JSON, which is ASCII.
-/

namespace ScriptHost.Proofs.ProgramOutcomes

open CommandLine Interpreter Json ScriptEngine
open Script
open ScriptHost.Proofs.DataTexts
open ScriptHost.Proofs.DataTokens (ok_of_bind)
open ScriptHost.Proofs.DataTrees
open ScriptHost.Proofs.LinedTexts
open ScriptHost.Proofs.NormalForms
open ScriptHost.Proofs.PreparedInstances
open ScriptHost.Proofs.ScriptFailures
open ScriptHost.Proofs.StrictJson
open ScriptHost.Proofs.Transition (host_bind_error host_bind_ok)

variable {t u doc : Text} {f : Fault} {g : Failure} {s s' : Machine × Host} {v : HostValue}
  {fields members : List (String × HostValue)} {names : List Text}

/-! ## Printed texts -/

theorem firstSurrogate_none (h : t.IsScalar) : Utf8.firstSurrogate? t = none := by
  have hgo : ∀ i, Utf8.firstSurrogate?.go i t = none := by
    induction t with
    | nil => exact fun _ => rfl
    | cons c t ih =>
        obtain ⟨hc, ht⟩ := List.forall_mem_cons.mp h
        have hnot : c.isSurrogate = false := hc
        intro i
        unfold Utf8.firstSurrogate?.go
        rw [hnot]
        exact ih ht (i + 1)
  exact hgo 0

theorem firstSurrogate_some (h : ¬t.IsScalar) : ∃ e, Utf8.firstSurrogate? t = some e := by
  have hgo : ∀ i, ∃ e, Utf8.firstSurrogate?.go i t = some e := by
    induction t with
    | nil => exact absurd (by simp [Text.IsScalar]) h
    | cons c t ih =>
        intro i
        unfold Utf8.firstSurrogate?.go
        cases hc : c.isSurrogate with
        | true => exact ⟨_, rfl⟩
        | false => exact ih (fun ht => h (List.forall_mem_cons.mpr ⟨hc, ht⟩)) (i + 1)
  exact hgo 0

theorem isScalar_of_clean (h : IsClean t) : t.IsScalar := by
  intro c hc
  have hlow := (h c hc).2
  simp only [CodePoint.IsScalar, CodePoint.isSurrogate, Bool.and_eq_false_iff,
    decide_eq_false_iff_not]
  omega

theorem escaped_append (t u : Text) : escaped (t ++ u) = escaped t ++ escaped u :=
  List.flatMap_append

theorem escaped_of_scalar (h : t.IsScalar) : escaped t = t := by
  unfold escaped
  induction t with
  | nil => rfl
  | cons c t ih =>
      obtain ⟨hc, ht⟩ := List.forall_mem_cons.mp h
      have hnot : c.isSurrogate = false := hc
      rw [List.flatMap_cons, ih ht, hnot]
      rfl

theorem isClean_newline : IsClean (Text.ofString "\n") := by
  intro c hc
  obtain rfl := List.mem_singleton.mp hc
  decide

/-! ## Documents -/

theorem isFinite_ofFields (h : ∀ e ∈ fields, IsFinite e.2) : IsFinite (.ofFields fields) := by
  change EntriesFinite (fields.map fun e => (HostValue.str (Text.ofString e.1), e.2))
  induction fields with
  | nil => trivial
  | cons e fields ih =>
      obtain ⟨he, hfields⟩ := List.forall_mem_cons.mp h
      exact ⟨he, ih hfields⟩

/-- Fields whose values can be written are written over several lines, as JSON if their floats are
finite. -/
theorem fields_written (h : ∀ e ∈ fields, ∃ t, write wire e.2 = .ok t) :
    ∃ doc, writeLines 0 (.ofFields fields) = .ok doc ∧
      IsLined IsValue (∀ e ∈ fields, IsFinite e.2) doc := by
  obtain ⟨line, hline⟩ : ∃ t, write wire (.ofFields fields) = .ok t := by
    refine (write_dict_isOk fun e he => ?_).mpr fun e he => ?_
    · obtain ⟨field, -, rfl⟩ := List.mem_map.mp he
      rfl
    · obtain ⟨field, hfield, rfl⟩ := List.mem_map.mp he
      exact h field hfield
  obtain ⟨doc, hdoc, hlined⟩ := writeLines_run _ 0 hline
  exact ⟨doc, hdoc, hlined.clean, fun hall => hlined.strict (isFinite_ofFields hall)⟩

/-- A value that every document can hold. -/
inductive IsPrintable : HostValue → Prop
  | none : IsPrintable .none
  | bool (b : Bool) : IsPrintable (.bool b)
  | str (t : Text) : IsPrintable (.str t)
  | texts (ts : List Text) : IsPrintable (.list (ts.map .str))

theorem isPrintable_ofString (t : String) : IsPrintable (.ofString t) := .str _

theorem IsPrintable.written (h : IsPrintable v) : ∃ t, write wire v = .ok t := by
  cases h with
  | none => exact ⟨_, rfl⟩
  | bool b => exact ⟨_, rfl⟩
  | str t => exact ⟨_, rfl⟩
  | texts ts =>
      refine (write_list_isOk _).mpr fun v hv => ?_
      obtain ⟨t, -, rfl⟩ := List.mem_map.mp hv
      exact ⟨_, rfl⟩

theorem IsPrintable.finite (h : IsPrintable v) : IsFinite v := by
  cases h with
  | none => trivial
  | bool b => trivial
  | str t => trivial
  | texts ts =>
      change ItemsFinite (ts.map .str)
      induction ts with
      | nil => trivial
      | cons t ts ih => exact ⟨trivial, ih⟩

/-- Fields that every document can hold are written as JSON. -/
theorem fields_printed (h : ∀ e ∈ fields, IsPrintable e.2) :
    ∃ doc, writeLines 0 (.ofFields fields) = .ok doc ∧ IsClean doc ∧ IsValue doc := by
  obtain ⟨doc, hdoc, hlined⟩ := fields_written fun e he => (h e he).written
  exact ⟨doc, hdoc, hlined.clean, hlined.strict fun e he => (h e he).finite⟩

theorem isPrintable_report (hpath : IsPrintable g.path) : ∀ e ∈ g.report, IsPrintable e.2 := by
  unfold Failure.report
  simp only [List.forall_mem_cons, List.not_mem_nil, false_implies, implies_true, and_true]
  exact ⟨isPrintable_ofString _, isPrintable_ofString _, .str _, hpath⟩

/-- The report of a failure, with members before it, is a document. -/
theorem report_printed (hmembers : ∀ e ∈ members, IsPrintable e.2) (hpath : IsPrintable g.path)
    (marker : Text) :
    ∃ doc, writeLines 0 (.ofFields (members ++ g.report)) = .ok doc ∧ IsClean doc ∧ IsValue doc ∧
      failureText true marker members g = .ok (doc ++ "\n") := by
  have hall : ∀ e ∈ members ++ g.report, IsPrintable e.2 := fun e he =>
    (List.mem_append.mp he).elim (hmembers e) (isPrintable_report hpath e)
  obtain ⟨doc, hdoc, hclean, hvalue⟩ := fields_printed hall
  refine ⟨doc, hdoc, hclean, hvalue, ?_⟩
  unfold failureText
  rw [hdoc]
  rfl

/-! ## Effects -/

theorem effectOf_ok {body : EngineM Text} (h : body fresh = .ok t s) :
    effectOf body = { log := s.2.log, result := .ok t } := by
  unfold effectOf
  rw [h]

theorem effectOf_error {body : EngineM Text} (h : body fresh = .error f s) :
    effectOf body = { log := s.2.log, result := .error f } := by
  unfold effectOf
  rw [h]

variable {verbose : Bool} {showFailure : Failure → Except Fault Text} {log : List LogRecord}

theorem outcomeOf_output (h : t.IsScalar) :
    outcomeOf verbose showFailure { log, result := .ok t } =
      { exitCode := 0, stdout := t, stderr := escaped (shownLog verbose log), escaped := none } := by
  unfold outcomeOf
  dsimp only
  rw [firstSurrogate_none h]

theorem outcomeOf_unprintable (h : ¬t.IsScalar) :
    (outcomeOf verbose showFailure { log, result := .ok t }).escaped.isSome = true := by
  obtain ⟨e, he⟩ := firstSurrogate_some h
  unfold outcomeOf
  dsimp only
  rw [he]
  rfl

theorem outcomeOf_report (h : showFailure g = .ok t) :
    outcomeOf verbose showFailure { log, result := .error (.failure g) } =
      { exitCode := 1, stdout := [], stderr := escaped (shownLog verbose log ++ t), escaped := none } := by
  unfold outcomeOf
  dsimp only
  rw [h]

/-- A fault that is no failure is not answered for. -/
theorem outcomeOf_escape (h : ∀ g, f ≠ .failure g) :
    outcomeOf verbose showFailure { log, result := .error f } =
      { exitCode := 1, stdout := [], stderr := escaped (shownLog verbose log), escaped := some f } := by
  cases f with
  | failure g => exact absurd rfl (h g)
  | _ => rfl

/-! ## Commands -/

variable {files : FileTree} {path function : Text} {args : List Text} {json : Bool}

/-- The functions of a checked script as the program lists them. -/
def listing (path : Text) (json : Bool) (names : List Text) : Except Fault Text :=
  if json then do
    return (← writeLines 0 (.ofFields
      [("valid", .bool true), ("script", .str path), ("functions", .list (names.map .str))])) ++ "\n"
  else
    .ok ("✓ " ++ path ++ " loaded\n  Functions: " ++
      (if names.isEmpty then Text.ofString "(none)" else Text.joinWith ", " names) ++ "\n")

/-- The result of a call as a document. -/
def resultDocument (function : Text) (result : HostValue) : Except Fault Text := do
  return (← writeLines 0 (.ofFields
    [("success", .bool true), ("function", .str function), ("result", result)])) ++ "\n"

theorem checkScript_unbuilt
    (h : interpreter.constructFrom .standard files (.str path) fresh = .error f s) :
    checkScript files path json fresh = .error f s := host_bind_error h

theorem checkScript_unlisted
    (h : interpreter.constructFrom .standard files (.str path) fresh = .ok () s)
    (hnames : interpreter.functionNames s = .error f s') :
    checkScript files path json fresh = .error f s' :=
  (host_bind_ok h).trans (host_bind_error hnames)

theorem checkScript_listed
    (h : interpreter.constructFrom .standard files (.str path) fresh = .ok () s)
    (hnames : interpreter.functionNames s = .ok names s') :
    checkScript files path json fresh = HostM.ofExcept (listing path json names) s' := by
  refine (host_bind_ok h).trans ((host_bind_ok hnames).trans ?_)
  unfold listing
  cases json with
  | false => rfl
  | true =>
      dsimp only [if_true]
      cases writeLines 0 (.ofFields
        [("valid", .bool true), ("script", .str path), ("functions", .list (names.map .str))]) with
      | ok t => rfl
      | error f => rfl

theorem runScript_unbuilt
    (h : interpreter.constructFrom (blueprint (.str function)) files (.str path) fresh = .error f s) :
    runScript files path function args json fresh = .error f s := host_bind_error h

theorem runScript_failed
    (h : interpreter.constructFrom (blueprint (.str function)) files (.str path) fresh = .ok () s)
    (hcall : interpreter.runEntrypoint (.list (decodeArguments args)) s = .error f s') :
    runScript files path function args json fresh = .error f s' :=
  (host_bind_ok h).trans (host_bind_error hcall)

theorem runScript_called
    (h : interpreter.constructFrom (blueprint (.str function)) files (.str path) fresh = .ok () s)
    (hcall : interpreter.runEntrypoint (.list (decodeArguments args)) s = .ok v s') :
    runScript files path function args true fresh = HostM.ofExcept (resultDocument function v) s' := by
  refine (host_bind_ok h).trans ((host_bind_ok hcall).trans ?_)
  unfold resultDocument
  dsimp only [if_true]
  cases writeLines 0 (.ofFields
    [("success", .bool true), ("function", .str function), ("result", v)]) with
  | ok t => rfl
  | error f => rfl

end ScriptHost.Proofs.ProgramOutcomes
