import ScriptHost.Proofs.FunctionListings
import ScriptHost.Proofs.ProgramOutcomes
import ScriptHost.Service.Routes

/-!
# Checking scripts

A script is checked by building its instance and listing its functions.  If the instance is not built,
the failure is reported; if the functions are listed, so are their names.  But nothing answers for a
fault of the listing itself, nor for a name that no output can carry.
-/

namespace ScriptHost.Proofs.CheckedScripts

open CommandLine Interpreter Service
open ScriptEngine hiding perform
open Script
open ScriptHost.Proofs.EngineBoundary
open ScriptHost.Proofs.FunctionListings
open ScriptHost.Proofs.HostFaults
open ScriptHost.Proofs.LoadedScripts
open ScriptHost.Proofs.PreparedInstances
open ScriptHost.Proofs.ProgramOutcomes
open ScriptHost.Proofs.Registration
open ScriptHost.Proofs.ScriptFailures
open ScriptHost.Proofs.Transition

variable {t u : Text} {f : Fault} {g : Failure} {s s' : Machine × Host} {names : List Text}

/-! ## Faults of the listing -/

theorem foreign_of_engine (h : IsEngineFault f) : Foreign f := by
  intro g heq
  subst heq
  exact h.elim

theorem run_foreign (code : Text) :
    Meets (fun _ _ => True) (fun _ => True) Foreign (interpreter.run code) :=
  run_meets chains_true
    (((raisesEngineFaults evaluator).evaluate code).weaken id (fun _ h => h) fun _ => foreign_of_engine)
    fun _ hf => foreign_of_engine (isEngineFault_checkCode hf)

theorem foreign_read (t : Text) : FailsIn Foreign (Json.read t) := by
  unfold Json.read
  split
  · exact .ok _
  · rename_i e he
    cases e <;> exact .error (by simp [Foreign, Json.ReadError.fault])

theorem ownFunctions_foreign (hidden : List Text) (listed : List HostValue) :
    FailsIn Foreign (ownFunctions hidden listed) := by
  induction listed with
  | nil => exact .ok _
  | cons v rest ih =>
      unfold ownFunctions
      refine (foreign_checkHashable v).bind fun _ => ?_
      split
      · exact .error (by simp [Foreign])
      · exact ih.bind fun _ => .ok _

section Engine

variable {E V : Type} {X : Interpreter E V}
  (hrun : ∀ code, Meets (fun _ _ => True) (fun _ => True) Foreign (X.run code))

include hrun

theorem jsonItems_foreign (code : Text) :
    Meets (fun _ _ => True) (fun _ => True) Foreign (X.jsonItems code) := by
  refine (hrun code).bind chains_true fun v _ => ?_
  cases v with
  | handle h => exact Meets.throw chains_true (by simp [Foreign])
  | plain v =>
      dsimp only
      cases v.text? with
      | none => exact Meets.throw chains_true (by simp [Foreign])
      | some t =>
          exact meets_ofExcept chains_true (fun _ _ => trivial)
            ((foreign_read t).bind fun w => foreign_iterate w)

theorem addLexical_foreign (hidden names scanned : List Text) :
    Meets (fun _ _ => True) (fun _ => True) Foreign (X.addLexical hidden names scanned) := by
  induction scanned generalizing names with
  | nil => exact Meets.pure chains_true trivial
  | cons t rest ih =>
      unfold Interpreter.addLexical
      split
      · exact ih names
      · refine Meets.bind (Q := fun _ => True) chains_true ?_ fun _ _ => ih _
        exact Invocation.kind_meets chains_true rfl fun code _ => hrun code

/-- What the listing of functions fails with is no failure of an instance. -/
theorem functionNames_foreign :
    Meets (fun _ _ => True) (fun _ => True) Foreign X.functionNames := by
  unfold Interpreter.functionNames
  refine (meets_instance chains_true).bind chains_true fun i _ => ?_
  refine (jsonItems_foreign hrun globalFunctionsSource).bind chains_true fun listed _ => ?_
  refine Meets.bind (Q := fun _ => True) chains_true ?_ fun names _ =>
    addLexical_foreign hrun _ _ _
  exact meets_ofExcept chains_true (fun _ _ => trivial) (ownFunctions_foreign _ listed)

end Engine

/-! ## Listed names -/

/-- Whenever an instance is built for a script, its functions are listed, all under names in `P`. -/
def Lists (P : Text → Prop) (t : Text) : Prop :=
  ∀ s, interpreter.construct .standard (.str t) fresh = .ok () s →
    ∃ names s', interpreter.functionNames s = .ok names s' ∧ ∀ n ∈ names, P n

/-- How the check of a script ends. -/
inductive Checks (t : Text) : Prop
  /-- The script has failed, in words without surrogates. -/
  | failed {m : Text} {cause : Option FaultClass} {s : Machine × Host}
    (h : interpreter.construct .standard (.str t) fresh =
      .error (.failure (.scriptExecution m cause)) s) (hm : m.IsScalar)
  /-- The functions of the instance are listed. -/
  | listed {s s' : Machine × Host} {names : List Text}
    (h : interpreter.construct .standard (.str t) fresh = .ok () s)
    (hnames : interpreter.functionNames s = .ok names s')
  /-- The listing has failed. -/
  | unlisted {s s' : Machine × Host} {f : Fault}
    (h : interpreter.construct .standard (.str t) fresh = .ok () s)
    (hnames : interpreter.functionNames s = .error f s') (hf : Foreign f)

theorem blueprint_main : blueprint (.ofString "main") = .standard := rfl

theorem checks (t : Text) : Checks t := by
  have hfails : ∀ f s, interpreter.construct (blueprint (.ofString "main")) (.str t) fresh =
      .error f s → IsWordedFailure f := fun _ _ h => construct_fails h
  rw [blueprint_main] at hfails
  have hlisting := @functionNames_foreign _ _ interpreter run_foreign
  cases hconstruct : interpreter.construct .standard (.str t) fresh with
  | error f s =>
      obtain ⟨m, cause, rfl, hm⟩ := hfails f s hconstruct
      exact .failed hconstruct hm
  | ok u s =>
      cases hnames : interpreter.functionNames s with
      | ok names s' => exact .listed hconstruct hnames
      | error f s' =>
          exact .unlisted hconstruct hnames (hlisting.error hnames).2

theorem lists_of_failed {P : Text → Prop}
    (h : interpreter.construct .standard (.str t) fresh = .error f s) : Lists P t := by
  intro s' h'
  rw [h] at h'
  cases h'

theorem lists_of_listed {P : Text → Prop}
    (h : interpreter.construct .standard (.str t) fresh = .ok () s)
    (hnames : interpreter.functionNames s = .ok names s') : Lists P t ↔ ∀ n ∈ names, P n := by
  constructor
  · intro hlists
    obtain ⟨names', s'', hnames', hall⟩ := hlists s h
    rw [hnames] at hnames'
    cases hnames'
    exact hall
  · intro hall s₁ h₁
    rw [h] at h₁
    cases h₁
    exact ⟨names, s', hnames, hall⟩

theorem not_lists_of_unlisted {P : Text → Prop}
    (h : interpreter.construct .standard (.str t) fresh = .ok () s)
    (hnames : interpreter.functionNames s = .error f s') : ¬Lists P t := by
  intro hlists
  obtain ⟨names, s'', hnames', -⟩ := hlists s h
  rw [hnames] at hnames'
  cases hnames'

/-! ## Over the service -/

/-- What the service reports of a checked script. -/
def checkReport (valid : Bool) (functions error errorType : HostValue) : HostValue :=
  .ofFields [("valid", .bool valid), ("functions", functions), ("error", error),
    ("error_type", errorType)]

/-- The report for a script: its functions, or why it has failed. -/
inductive ServiceReport (t : Text) : HostValue → Prop
  | listed {s s' : Machine × Host} {names : List Text}
    (h : interpreter.construct .standard (.str t) fresh = .ok () s)
    (hnames : interpreter.functionNames s = .ok names s') :
    ServiceReport t (checkReport true (.list (names.map .str)) .none .none)
  | failed {m : Text} {cause : Option FaultClass} {s : Machine × Host}
    (h : interpreter.construct .standard (.str t) fresh =
      .error (.failure (.scriptExecution m cause)) s) :
    ServiceReport t (checkReport false (.list []) (.str m) (.ofString "ScriptExecutionError"))

theorem carried_str (h : t.IsScalar) : carried (.str t) = some (.str t) := by
  have hany : t.any (·.isSurrogate) = false := by
    rw [List.any_eq_false]
    exact fun c hc => by rw [show c.isSurrogate = false from h c hc]; simp
  unfold carried
  rw [hany]
  rfl

theorem carried_surrogate (h : ¬t.IsScalar) : carried (.str t) = none := by
  have hany : t.any (·.isSurrogate) = true := by
    rw [List.any_eq_true]
    by_contra hnone
    exact h fun c hc => (Bool.not_eq_true _).mp fun hsurrogate => hnone ⟨c, hc, hsurrogate⟩
  unfold carried
  rw [hany]
  rfl

theorem carriedItems_texts (h : ∀ n ∈ names, n.IsScalar) :
    carriedItems (names.map .str) = some (names.map .str) := by
  induction names with
  | nil => rfl
  | cons n names ih =>
      obtain ⟨hn, hnames⟩ := List.forall_mem_cons.mp h
      rw [List.map_cons, carriedItems, carried_str hn, ih hnames]
      rfl

theorem carriedItems_surrogate (h : ¬∀ n ∈ names, n.IsScalar) :
    carriedItems (names.map .str) = none := by
  induction names with
  | nil => exact absurd (by simp) h
  | cons n names ih =>
      rw [List.map_cons, carriedItems]
      by_cases hn : n.IsScalar
      · have hrest : ¬∀ n ∈ names, n.IsScalar := fun hall => h (List.forall_mem_cons.mpr ⟨hn, hall⟩)
        rw [ih hrest, carried_str hn]
        rfl
      · rw [carried_surrogate hn]
        rfl

theorem carried_ofFields {fields : List (String × HostValue)}
    (h : ∀ e ∈ fields, carried e.2 = some e.2) : carried (.ofFields fields) = some (.ofFields fields) := by
  have hentries : carriedEntries (fields.map fun e => (.str (Text.ofString e.1), e.2)) =
      some (fields.map fun e => (.str (Text.ofString e.1), e.2)) := by
    induction fields with
    | nil => rfl
    | cons e fields ih =>
        obtain ⟨he, hrest⟩ := List.forall_mem_cons.mp h
        rw [List.map_cons, carriedEntries, carried_str (isScalar_ofString e.1), he, ih hrest]
        rfl
  unfold HostValue.ofFields
  rw [carried, hentries]
  rfl

theorem carried_ofFields_none {fields : List (String × HostValue)} {e : String × HostValue}
    (he : e ∈ fields) (h : carried e.2 = none) : carried (.ofFields fields) = none := by
  have hentries : carriedEntries (fields.map fun e => (.str (Text.ofString e.1), e.2)) = none := by
    induction fields with
    | nil => cases he
    | cons d fields ih =>
        rw [List.map_cons, carriedEntries, carried_str (isScalar_ofString d.1)]
        rcases List.mem_cons.mp he with rfl | he
        · rw [h]
          rfl
        · rw [ih he]
          cases carried d.2 <;> rfl
  unfold HostValue.ofFields
  rw [carried, hentries]
  rfl

theorem carrying_of_carried {v : HostValue} (h : carried v = some v) :
    Response.carrying v = { status := 200, content := .json v } := by
  unfold Response.carrying
  rw [h]

theorem carrying_listed (h : ∀ n ∈ names, n.IsScalar) :
    Response.carrying (checkReport true (.list (names.map .str)) .none .none) =
      { status := 200, content := .json (checkReport true (.list (names.map .str)) .none .none) } := by
  have hnames : carried (.list (names.map .str)) = some (.list (names.map .str)) := by
    rw [carried, carriedItems_texts h]
    rfl
  refine carrying_of_carried (carried_ofFields ?_)
  simp only [List.forall_mem_cons, List.not_mem_nil, false_implies, implies_true, and_true]
  exact ⟨rfl, hnames, rfl, rfl⟩

theorem carrying_surrogate (h : ¬∀ n ∈ names, n.IsScalar) :
    Response.carrying (checkReport true (.list (names.map .str)) .none .none) = .internalError := by
  have hnames : carried (.list (names.map .str)) = none := by
    rw [carried, carriedItems_surrogate h]
    rfl
  unfold Response.carrying
  rw [show carried (checkReport true (.list (names.map .str)) .none .none) = none from
    @carried_ofFields_none _ ("functions", .list (names.map .str)) (by simp) hnames]

theorem carrying_failed {m : Text} (hm : m.IsScalar) :
    Response.carrying
        (checkReport false (.list []) (.str m) (.ofString "ScriptExecutionError")) =
      { status := 200, content := .json
          (checkReport false (.list []) (.str m) (.ofString "ScriptExecutionError")) } := by
  refine carrying_of_carried (carried_ofFields ?_)
  simp only [List.forall_mem_cons, List.not_mem_nil, false_implies, implies_true, and_true]
  exact ⟨rfl, rfl, carried_str hm, carried_str (isScalar_ofString _)⟩

/-- What is done on a fresh instance to check a script. -/
def checkBody (script : HostValue) : EngineM HostValue := do
  Service.load script
  return .list ((← interpreter.functionNames).map .str)

/-- What the service responds, by how that ends. -/
def responseTo : Except Fault HostValue → Response
  | .ok functions => .carrying (checkReport true functions .none .none)
  | .error (.failure g) =>
    .carrying (checkReport false (.list []) (.str g.message) (.ofString g.kind.className))
  | .error _ => .internalError

theorem checkRequest_response (script : HostValue) :
    (checkRequest script).response = responseTo (onFresh (checkBody script)).1 := by
  unfold checkRequest checkBody
  generalize onFresh _ = outcome
  obtain ⟨outcome, log⟩ := outcome
  cases outcome with
  | ok functions => rfl
  | error f => cases f <;> rfl

theorem onFresh_ok {body : EngineM HostValue} {v : HostValue} (h : body fresh = .ok v s) :
    (onFresh body).1 = .ok v := by
  unfold onFresh
  rw [h]

theorem onFresh_error {body : EngineM HostValue} (h : body fresh = .error f s) :
    (onFresh body).1 = .error f := by
  unfold onFresh
  rw [h]

theorem load_eq (script : HostValue) :
    Service.load script = interpreter.construct .standard script := rfl

theorem checkBody_failed (h : interpreter.construct .standard (.str t) fresh = .error f s) :
    checkBody (.str t) fresh = .error f s := by
  rw [← load_eq] at h
  exact host_bind_error h

theorem checkBody_unlisted (h : interpreter.construct .standard (.str t) fresh = .ok () s)
    (hnames : interpreter.functionNames s = .error f s') : checkBody (.str t) fresh = .error f s' := by
  rw [← load_eq] at h
  exact (host_bind_ok h).trans (host_bind_error hnames)

theorem checkBody_listed (h : interpreter.construct .standard (.str t) fresh = .ok () s)
    (hnames : interpreter.functionNames s = .ok names s') :
    checkBody (.str t) fresh = .ok (.list (names.map .str)) s' := by
  rw [← load_eq] at h
  exact (host_bind_ok h).trans (host_bind_ok hnames)

/-- The service reports on a script if its functions are listed, under names that it can carry. -/
theorem service_reports (h : Lists Text.IsScalar t) : ∃ v,
    (checkRequest (.str t)).response = { status := 200, content := .json v } ∧ ServiceReport t v := by
  rw [checkRequest_response]
  cases checks t with
  | failed hfails hm =>
      refine ⟨_, ?_, .failed hfails⟩
      rw [onFresh_error (checkBody_failed hfails)]
      exact carrying_failed hm
  | listed hbuilt hnames =>
      refine ⟨_, ?_, .listed hbuilt hnames⟩
      rw [onFresh_ok (checkBody_listed hbuilt hnames)]
      exact carrying_listed ((lists_of_listed hbuilt hnames).mp h)
  | unlisted hbuilt hnames => exact absurd h (not_lists_of_unlisted hbuilt hnames)

theorem service_faults (h : ¬Lists Text.IsScalar t) :
    (checkRequest (.str t)).response = .internalError := by
  rw [checkRequest_response]
  cases checks t with
  | failed hfails => exact absurd (lists_of_failed hfails) h
  | listed hbuilt hnames =>
      rw [onFresh_ok (checkBody_listed hbuilt hnames)]
      exact carrying_surrogate fun hall => h ((lists_of_listed hbuilt hnames).mpr hall)
  | @unlisted _ _ f hbuilt hnames hf =>
      rw [onFresh_error (checkBody_unlisted hbuilt hnames)]
      cases f with
      | failure g => exact absurd rfl (hf g)
      | _ => rfl

/-! ## On the command line -/

variable {files : FileTree} {path : Text} {verbose json : Bool} {p : Parsed}

/-- How the program reports a failed check. -/
def failedCheck (json : Bool) : Failure → Except Fault Text :=
  failureText json "✗ " [("valid", .bool false)]

/-- The report for a script: its functions as output, or why it has failed as an error; with the exit
code, and the two texts. -/
inductive ProgramReport (t path : Text) (json : Bool) : Nat → Text → Text → Prop
  | listed {s s' : Machine × Host} {names : List Text} {out : Text}
    (h : interpreter.construct .standard (.str t) fresh = .ok () s)
    (hnames : interpreter.functionNames s = .ok names s') (hout : listing path json names = .ok out) :
    ProgramReport t path json 0 out []
  | failed {m err : Text} {cause : Option FaultClass} {s : Machine × Host}
    (h : interpreter.construct .standard (.str t) fresh =
      .error (.failure (.scriptExecution m cause)) s)
    (herr : failedCheck json ((Failure.scriptExecution m cause).withPath (.str path)) = .ok err) :
    ProgramReport t path json 1 [] err

theorem perform_check (verbose : Bool) (p : Parsed) (hcheck : (FilePath.ofText path).check = .ok ()) :
    perform files verbose checkCommand p path =
      outcomeOf verbose (failedCheck (p.has "--json-output"))
        (effectOf (checkScript files path (p.has "--json-output"))) := by
  unfold perform
  dsimp only
  rw [hcheck]
  rfl

theorem failedCheck_run (json : Bool) (g : Failure) (hpath : IsPrintable g.path) :
    ∃ err, failedCheck json g = .ok err := by
  cases json with
  | false => exact ⟨_, rfl⟩
  | true =>
      have hmembers : ∀ e ∈ [("valid", HostValue.bool false)], IsPrintable e.2 := by
        simp [IsPrintable.bool]
      obtain ⟨doc, -, -, -, hdoc⟩ := report_printed hmembers hpath "✗ "
      exact ⟨_, hdoc⟩

theorem isScalar_joinWith {separator : Text} (hseparator : separator.IsScalar)
    (h : ∀ n ∈ names, n.IsScalar) : (Text.joinWith separator names).IsScalar := by
  induction names with
  | nil => simp [Text.joinWith, Text.IsScalar]
  | cons n rest ih =>
      obtain ⟨hn, hrest⟩ := List.forall_mem_cons.mp h
      cases rest with
      | nil => exact hn
      | cons n' rest => exact isScalar_append (isScalar_append hn hseparator) (ih hrest)

theorem mem_joinWith {separator : Text} {n : Text} {c : CodePoint} (hn : n ∈ names) (hc : c ∈ n) :
    c ∈ Text.joinWith separator names := by
  induction names with
  | nil => cases hn
  | cons n' rest ih =>
      cases rest with
      | nil =>
          obtain rfl := List.mem_singleton.mp hn
          exact hc
      | cons n'' rest =>
          change c ∈ n' ++ separator ++ Text.joinWith separator (n'' :: rest)
          rcases List.mem_cons.mp hn with rfl | hn
          · exact List.mem_append_left _ (List.mem_append_left _ hc)
          · exact List.mem_append_right _ (ih hn)

/-- The listing can be printed if it is JSON, or the names have no surrogates. -/
theorem listing_run (hpath : path.IsScalar) (h : ∀ n ∈ names, json = true ∨ n.IsScalar) :
    ∃ out, listing path json names = .ok out ∧ out.IsScalar := by
  unfold listing
  cases json with
  | true =>
      have hfields : ∀ e ∈ [("valid", HostValue.bool true), ("script", .str path),
          ("functions", .list (names.map .str))], IsPrintable e.2 := by
        simp [IsPrintable.bool, IsPrintable.str, IsPrintable.texts]
      obtain ⟨doc, hdoc, hclean, -⟩ := fields_printed hfields
      refine ⟨doc ++ "\n", ?_, isScalar_of_clean (hclean.append isClean_newline)⟩
      rw [if_pos rfl, hdoc]
      rfl
  | false =>
      have hnames : ∀ n ∈ names, n.IsScalar := fun n hn => (h n hn).resolve_left Bool.false_ne_true
      refine ⟨_, rfl, ?_⟩
      refine isScalar_append (isScalar_append (isScalar_append (isScalar_append
        (isScalar_ofString _) hpath) (isScalar_ofString _)) ?_) (isScalar_ofString _)
      split
      · exact isScalar_ofString _
      · exact isScalar_joinWith (isScalar_ofString _) hnames

/-- A listing in words shows each name. -/
theorem listing_unprintable (h : ¬∀ n ∈ names, json = true ∨ n.IsScalar) :
    ∃ out, listing path json names = .ok out ∧ ¬out.IsScalar := by
  simp only [not_forall, not_or] at h
  obtain ⟨n, hn, hjson, hsurrogate⟩ := h
  obtain rfl : json = false := (Bool.not_eq_true _).mp hjson
  refine ⟨_, rfl, fun hall => hsurrogate fun c hc => hall c ?_⟩
  have hne : names.isEmpty = false := by
    rw [List.isEmpty_eq_false_iff]
    exact List.ne_nil_of_mem hn
  rw [hne]
  exact List.mem_append_left _ (List.mem_append_right _ (mem_joinWith hn hc))

/-- The program reports on the script of a file, with the exit code 0 or 1, if its functions are
listed, under names that it can print. -/
theorem program_reports (verbose : Bool) (p : Parsed)
    (hload : ScriptText.load files (.str path) ScriptText.defaultEncoding = .ok t) (hpath : path.IsScalar)
    (h : Lists (fun n => p.has "--json-output" = true ∨ n.IsScalar) t) : ∃ log code out err,
    perform files verbose checkCommand p path =
        { exitCode := code, stdout := out, stderr := escaped (shownLog verbose log ++ err),
          escaped := none } ∧
      ProgramReport t path (p.has "--json-output") code out err := by
  have hbuild := constructFrom_loaded .standard fresh hload
  rw [perform_check verbose p (checked_of_load hload).1]
  generalize p.has "--json-output" = json at h ⊢
  cases checks t with
  | @failed m cause s hfails =>
      rw [hfails] at hbuild
      obtain ⟨err, herr⟩ := failedCheck_run json ((Failure.scriptExecution m cause).withPath (.str path))
        (.str _)
      refine ⟨s.2.log, 1, [], err, ?_, .failed hfails herr⟩
      rw [effectOf_error (checkScript_unbuilt hbuild), outcomeOf_report herr]
  | @listed s s' names hbuilt hnames =>
      rw [hbuilt] at hbuild
      obtain ⟨out, hout, hscalar⟩ := listing_run hpath ((lists_of_listed hbuilt hnames).mp h)
      refine ⟨s'.2.log, 0, out, [], ?_, .listed hbuilt hnames hout⟩
      have hrun : checkScript files path json fresh = _ := checkScript_listed hbuild hnames
      rw [hout] at hrun
      rw [effectOf_ok hrun, outcomeOf_output hscalar, List.append_nil]
  | unlisted hbuilt hnames => exact absurd h (not_lists_of_unlisted hbuilt hnames)

theorem program_faults (verbose : Bool) (p : Parsed)
    (hload : ScriptText.load files (.str path) ScriptText.defaultEncoding = .ok t)
    (h : ¬Lists (fun n => p.has "--json-output" = true ∨ n.IsScalar) t) :
    (perform files verbose checkCommand p path).escaped.isSome = true := by
  have hbuild := constructFrom_loaded .standard fresh hload
  rw [perform_check verbose p (checked_of_load hload).1]
  generalize p.has "--json-output" = json at h ⊢
  cases checks t with
  | failed hfails => exact absurd (lists_of_failed hfails) h
  | @listed s s' names hbuilt hnames =>
      rw [hbuilt] at hbuild
      obtain ⟨out, hout, hsurrogate⟩ := @listing_unprintable names path json
        fun hall => h ((lists_of_listed hbuilt hnames).mpr hall)
      have hrun : checkScript files path json fresh = _ := checkScript_listed hbuild hnames
      rw [hout] at hrun
      rw [effectOf_ok hrun]
      exact outcomeOf_unprintable hsurrogate
  | @unlisted s s' f hbuilt hnames hf =>
      rw [hbuilt] at hbuild
      rw [effectOf_error (checkScript_unlisted hbuild hnames), outcomeOf_escape hf]
      rfl

/-- Checking a script, over the service and on the command line: it is reported on, with the status 200
or the exit code 0 or 1, if and only if the functions are listed whenever an instance is built, all under
names that can be carried or printed; otherwise the fault is not answered for.  Where no code of the
script has to run for the listing, the functions are listed: exactly those that are of one of the two
kinds. -/
theorem checks_are_reported_iff (t : Text) :
    ((Lists Text.IsScalar t → ∃ v, (checkRequest (.str t)).response =
        { status := 200, content := .json v } ∧ ServiceReport t v) ∧
      (¬Lists Text.IsScalar t → (checkRequest (.str t)).response = .internalError)) ∧
    (∀ files verbose p path, ScriptText.load files (.str path) ScriptText.defaultEncoding = .ok t →
      path.IsScalar →
      (Lists (fun n => p.has "--json-output" = true ∨ n.IsScalar) t → ∃ log code out err,
        perform files verbose checkCommand p path =
            { exitCode := code, stdout := out, stderr := escaped (shownLog verbose log ++ err),
              escaped := none } ∧
          ProgramReport t path (p.has "--json-output") code out err) ∧
      (¬Lists (fun n => p.has "--json-output" = true ∨ n.IsScalar) t →
        (perform files verbose checkCommand p path).escaped.isSome = true)) ∧
    ∀ s, interpreter.construct .standard (.str t) fresh = .ok () s → IsListable s →
      ∃ names s', interpreter.functionNames s = .ok names s' ∧ ∀ n, n ∈ names ↔ IsListed s n := by
  refine ⟨⟨service_reports, service_faults⟩, fun files verbose p path hload hpath => ?_, fun s _ h => ?_⟩
  · exact ⟨program_reports verbose p hload hpath, program_faults verbose p hload⟩
  · obtain ⟨names, s', hnames, -, hlisted⟩ := functionNames_run h
    exact ⟨names, s', hnames, hlisted⟩

end ScriptHost.Proofs.CheckedScripts
