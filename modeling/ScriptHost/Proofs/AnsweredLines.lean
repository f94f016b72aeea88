import ScriptHost.Proofs.CallOutcomes

/-!
# Command lines that ask for JSON

A command that is asked for JSON answers with one document: as its output if it has succeeded, and else
on the error stream, behind the log.  Nothing answers for a path that cannot be handed to the file
system, nor for a fault of the engine while the function is looked up or the functions are listed.
-/

namespace ScriptHost.Proofs.AnsweredLines

open CommandLine Interpreter Json
open ScriptEngine hiding perform
open Script
open ScriptHost.Proofs.CallOutcomes
open ScriptHost.Proofs.CheckedScripts
open ScriptHost.Proofs.DataTexts
open ScriptHost.Proofs.DataTrees
open ScriptHost.Proofs.HostFaults
open ScriptHost.Proofs.LoadedScripts
open ScriptHost.Proofs.PreparedInstances
open ScriptHost.Proofs.ProgramOutcomes
open ScriptHost.Proofs.ScannedNumbers (toNat_digit)
open ScriptHost.Proofs.ScriptFailures
open ScriptHost.Proofs.StrictJson
open ScriptHost.Proofs.Transition (host_bind_error)

variable {files : FileTree} {words : List Text} {verbose : Bool} {c : CommandSpec} {p : Parsed}
  {path function doc t : Text} {f : Fault} {g : Failure} {s : Machine × Host}

/-! ## Valid lines -/

/-- Words that are a valid command line: a command that is not asked for help, with its options and its
path. -/
structure Reads (words : List Text) (verbose : Bool) (c : CommandSpec) (p : Parsed) (path : Text) :
    Prop where
  command : ∃ q word rest, parse program.options false words = .ok q ∧ q.has "--help" = false ∧
    q.has "--verbose" = verbose ∧ q.remaining = word :: rest ∧
    (commands.find? fun c => Text.ofString c.name == word) = some c ∧
    parse c.options true rest = .ok p
  noHelp : p.has "--help" = false
  argument : p.allArguments = [path]

theorem run_of_reads (h : Reads words verbose c p path) (files : FileTree) (name : String) :
    CommandLine.run files name words = perform files verbose c p path := by
  obtain ⟨⟨q, word, rest, hq, hhelp, rfl, hremaining, hfind, hp⟩, hnohelp, hargument⟩ := h
  have hnonempty : words.isEmpty = false := by
    cases words with
    | nil =>
        cases hq
        cases hremaining
    | cons w ws => rfl
  unfold CommandLine.run runCommandWords
  simp only [hnonempty, hq, hhelp, hremaining, hfind, hp, hnohelp, hargument, Bool.false_eq_true, if_false]

theorem command_of_reads (h : Reads words verbose c p path) : c = checkCommand ∨ c = runCommand := by
  obtain ⟨q, word, rest, -, -, -, -, hfind, -⟩ := h.command
  simpa [commands] using List.mem_of_find?_eq_some hfind

/-- The function that a line names. -/
def functionOf (p : Parsed) : Text := ((p.valuesOf "--func").getLast?).getD "main"

/-! ## Answers -/

/-- What a failed command says before the report of the failure. -/
def failureMembers (c : CommandSpec) (p : Parsed) : List (String × HostValue) :=
  if c.name = "run" then [("success", .bool false), ("function", .str (functionOf p))]
  else [("valid", .bool false)]

/-- What a command does on a fresh instance. -/
def bodyOf (files : FileTree) (p : Parsed) (path : Text) (c : CommandSpec) : EngineM Text :=
  if c.name = "run" then runScript files path (functionOf p) (p.valuesOf "--arg") true
  else checkScript files path true

/-- The outcome with a document as output. -/
def succeeded (verbose : Bool) (log : List LogRecord) (doc : Text) : Outcome :=
  { exitCode := 0, stdout := doc ++ "\n", stderr := escaped (shownLog verbose log), escaped := none }

/-- The outcome with a document behind the log. -/
def reported (verbose : Bool) (log : List LogRecord) (doc : Text) : Outcome :=
  { exitCode := 1, stdout := [], stderr := escaped (shownLog verbose log) ++ (doc ++ "\n"),
    escaped := none }

/-- The answer to a line that asks for JSON: what the function gave or the functions that are listed, as
output, or a failure, as an error. -/
inductive Answers (files : FileTree) (verbose : Bool) (p : Parsed) (path : Text) (c : CommandSpec) :
    Outcome → Prop
  | called {s s' : Machine × Host} {v : HostValue} {doc : Text} (hc : c = runCommand)
    (hbuilt : interpreter.constructFrom (blueprint (.str (functionOf p))) files (.str path) fresh =
      .ok () s)
    (hcall : interpreter.runEntrypoint (.list (decodeArguments (p.valuesOf "--arg"))) s = .ok v s')
    (hdoc : writeLines 0 (.ofFields [("success", .bool true), ("function", .str (functionOf p)),
      ("result", v)]) = .ok doc)
    (hjson : IsFinite v → IsJson (doc ++ "\n")) :
    Answers files verbose p path c (succeeded verbose s'.2.log doc)
  | listed {s s' : Machine × Host} {names : List Text} {doc : Text} (hc : c = checkCommand)
    (hbuilt : interpreter.constructFrom .standard files (.str path) fresh = .ok () s)
    (hnames : interpreter.functionNames s = .ok names s')
    (hdoc : writeLines 0 (.ofFields [("valid", .bool true), ("script", .str path),
      ("functions", .list (names.map .str))]) = .ok doc)
    (hjson : IsJson (doc ++ "\n")) :
    Answers files verbose p path c (succeeded verbose s'.2.log doc)
  | failed {g : Failure} {s : Machine × Host} {doc : Text}
    (hfails : bodyOf files p path c fresh = .error (.failure g) s)
    (hdoc : writeLines 0 (.ofFields (failureMembers c p ++ g.report)) = .ok doc)
    (hjson : IsJson (doc ++ "\n")) :
    Answers files verbose p path c (reported verbose s.2.log doc)

/-- The faults that no command answers for. -/
inductive Escapes (files : FileTree) (p : Parsed) (path : Text) (c : CommandSpec) : Fault → Prop
  | path {f : Fault} (h : (FilePath.ofText path).check = .error f) : Escapes files p path c f
  | lookup {s s' : Machine × Host} {f : Fault} (hc : c = runCommand)
    (hbuilt : interpreter.constructFrom (blueprint (.str (functionOf p))) files (.str path) fresh =
      .ok () s)
    (hlocate : interpreter.locate s.2.entrypoint s = .error f s') (hf : Foreign f) :
    Escapes files p path c f
  | listing {s s' : Machine × Host} {f : Fault} (hc : c = checkCommand)
    (hbuilt : interpreter.constructFrom .standard files (.str path) fresh = .ok () s)
    (hnames : interpreter.functionNames s = .error f s') : Escapes files p path c f

theorem isJson_line (h : IsValue doc) : IsJson (doc ++ "\n") :=
  .spaced isBlank_nil h (by simp [IsBlank, Text.ofString])

/-- How a command shows a failure. -/
def shownFailure (c : CommandSpec) (p : Parsed) : Failure → Except Fault Text :=
  failureText true (if c.name = "run" then "Error: " else "✗ ") (failureMembers c p)

theorem perform_line (h : c = checkCommand ∨ c = runCommand) (hjson : p.has "--json-output" = true)
    (hcheck : (FilePath.ofText path).check = .ok ()) :
    perform files verbose c p path =
      outcomeOf verbose (shownFailure c p) (effectOf (bodyOf files p path c)) := by
  unfold perform
  rw [hcheck, hjson]
  rcases h with rfl | rfl
  · rfl
  · rfl

/-- A failure is reported behind the log. -/
theorem outcomeOf_failed (verbose : Bool) (hfails : bodyOf files p path c fresh = .error (.failure g) s)
    (hpath : IsPrintable g.path) : ∃ doc,
    writeLines 0 (.ofFields (failureMembers c p ++ g.report)) = .ok doc ∧ IsValue doc ∧
      outcomeOf verbose (shownFailure c p) (effectOf (bodyOf files p path c)) =
        reported verbose s.2.log doc := by
  have hmembers : ∀ e ∈ failureMembers c p, IsPrintable e.2 := by
    unfold failureMembers
    split
    · simp [IsPrintable.bool, IsPrintable.str]
    · simp [IsPrintable.bool]
  obtain ⟨doc, hdoc, hclean, hvalue, htext⟩ :=
    report_printed hmembers hpath (if c.name = "run" then "Error: " else "✗ ")
  have hline := isScalar_of_clean (hclean.append isClean_newline)
  have hshow : shownFailure c p g = .ok (doc ++ "\n") := htext
  refine ⟨doc, hdoc, hvalue, ?_⟩
  rw [effectOf_error hfails, outcomeOf_report hshow, escaped_append, escaped_of_scalar hline]
  rfl

theorem answers_failed (hfails : bodyOf files p path c fresh = .error (.failure g) s)
    (hpath : IsPrintable g.path) :
    Answers files verbose p path c
      (outcomeOf verbose (shownFailure c p) (effectOf (bodyOf files p path c))) := by
  obtain ⟨doc, hdoc, hvalue, houtcome⟩ := outcomeOf_failed verbose hfails hpath
  rw [houtcome]
  exact .failed hfails hdoc (isJson_line hvalue)

/-- What building an instance from a file fails with has the path of the file. -/
theorem constructFrom_fails {entrypoint : HostValue} (hcheck : (FilePath.ofText path).check = .ok ())
    (h : interpreter.constructFrom (blueprint entrypoint) files (.str path) fresh = .error f s) :
    ∃ g, f = .failure g ∧ IsPrintable g.path := by
  cases hload : ScriptText.load files (.str path) ScriptText.defaultEncoding with
  | error e =>
      cases (constructFrom_unloaded (blueprint entrypoint) fresh hload).symm.trans h
      obtain ⟨g, rfl, hg⟩ := load_fails hcheck hload
      exact ⟨g, rfl, hg.path ▸ .str _⟩
  | ok t =>
      rw [constructFrom_loaded (blueprint entrypoint) fresh hload] at h
      split at h
      · cases h
      · cases h
        exact ⟨_, rfl, .str _⟩
      · rename_i hother hconstruct
        obtain ⟨m, cause, rfl, -⟩ := construct_fails hconstruct
        exact absurd rfl (hother _)

/-- A document is printed as output. -/
theorem outcomeOf_document {body : EngineM Text} {showFailure : Failure → Except Fault Text}
    (h : body fresh = .ok (doc ++ "\n") s) (hclean : IsClean doc) :
    outcomeOf verbose showFailure (effectOf body) = succeeded verbose s.2.log doc := by
  rw [effectOf_ok h, outcomeOf_output (isScalar_of_clean (hclean.append isClean_newline))]
  rfl

/-- A fault that is no failure escapes. -/
theorem escaped_of_fault {body : EngineM Text} {showFailure : Failure → Except Fault Text}
    (h : body fresh = .error f s) (hf : Foreign f) :
    (outcomeOf verbose showFailure (effectOf body)).escaped = some f := by
  rw [effectOf_error h, outcomeOf_escape hf]

theorem check_answers (verbose : Bool) (hcheck : (FilePath.ofText path).check = .ok ()) :
    let o := outcomeOf verbose (shownFailure checkCommand p)
      (effectOf (bodyOf files p path checkCommand))
    Answers files verbose p path checkCommand o ∨
      ∃ f, o.escaped = some f ∧ Escapes files p path checkCommand f := by
  have hbody : bodyOf files p path checkCommand = checkScript files path true := rfl
  have hfails : ∀ f s, interpreter.constructFrom (blueprint (.ofString "main")) files (.str path) fresh =
      .error f s → ∃ g, f = .failure g ∧ IsPrintable g.path := fun _ _ h => constructFrom_fails hcheck h
  rw [blueprint_main] at hfails
  have hlisting := @functionNames_foreign _ _ interpreter run_foreign
  dsimp only
  cases hbuilt : interpreter.constructFrom .standard files (.str path) fresh with
  | error f s =>
      obtain ⟨g, rfl, hpath⟩ := hfails f s hbuilt
      exact .inl (answers_failed (hbody ▸ checkScript_unbuilt hbuilt) hpath)
  | ok u s =>
      cases hnames : interpreter.functionNames s with
      | error f s' =>
          refine .inr ⟨f, ?_, .listing rfl hbuilt hnames⟩
          exact escaped_of_fault (hbody ▸ checkScript_unlisted hbuilt hnames) (hlisting.error hnames).2
      | ok names s' =>
          have hfields : ∀ e ∈ [("valid", HostValue.bool true), ("script", .str path),
              ("functions", .list (names.map .str))], IsPrintable e.2 := by
            simp [IsPrintable.bool, IsPrintable.str, IsPrintable.texts]
          obtain ⟨doc, hdoc, hclean, hvalue⟩ := fields_printed hfields
          have hlist : listing path true names = .ok (doc ++ "\n") := by
            unfold listing
            rw [if_pos rfl, hdoc]
            rfl
          have hrun : checkScript files path true fresh = _ := checkScript_listed hbuilt hnames
          rw [hlist] at hrun
          rw [outcomeOf_document (hbody ▸ hrun) hclean]
          exact .inl (.listed rfl hbuilt hnames hdoc (isJson_line hvalue))

theorem run_answers (verbose : Bool) (hcheck : (FilePath.ofText path).check = .ok ()) :
    let o := outcomeOf verbose (shownFailure runCommand p) (effectOf (bodyOf files p path runCommand))
    Answers files verbose p path runCommand o ∨
      ∃ f, o.escaped = some f ∧ Escapes files p path runCommand f := by
  have hbody : bodyOf files p path runCommand =
      runScript files path (functionOf p) (p.valuesOf "--arg") true := rfl
  dsimp only
  cases hbuilt : interpreter.constructFrom (blueprint (.str (functionOf p))) files (.str path) fresh with
  | error f s =>
      obtain ⟨g, rfl, hpath⟩ := constructFrom_fails hcheck hbuilt
      exact .inl (answers_failed (hbody ▸ runScript_unbuilt hbuilt) hpath)
  | ok u s =>
      have houtcome := invoke_outcome s.2.entrypoint (p.valuesOf "--arg") s
      have hentry : interpreter.runEntrypoint (.list (decodeArguments (p.valuesOf "--arg"))) s =
        interpreter.invoke s.2.entrypoint (.list (decodeArguments (p.valuesOf "--arg"))) s := rfl
      rw [← hentry] at houtcome
      cases hcall : interpreter.runEntrypoint (.list (decodeArguments (p.valuesOf "--arg"))) s with
      | error f s' =>
          rw [hcall] at houtcome
          have hfails := hbody ▸ runScript_failed hbuilt hcall
          rcases houtcome with ⟨g, rfl, hpath⟩ | ⟨hf, s'', hlocate⟩
          · exact .inl (answers_failed hfails (hpath ▸ .none))
          · exact .inr ⟨f, escaped_of_fault hfails hf, .lookup rfl hbuilt hlocate hf⟩
      | ok v s' =>
          rw [hcall] at houtcome
          have hwritable : IsWritable v := houtcome
          have hfields : ∀ e ∈ [("success", HostValue.bool true), ("function", .str (functionOf p)),
              ("result", v)], ∃ t, write wire e.2 = .ok t := by
            simp [IsPrintable.written, IsPrintable.bool, IsPrintable.str, hwritable.written]
          obtain ⟨doc, hdoc, hlined⟩ := fields_written hfields
          have hresult : resultDocument (functionOf p) v = .ok (doc ++ "\n") := by
            unfold resultDocument
            rw [hdoc]
            rfl
          have hrun := runScript_called hbuilt hcall
          rw [hresult] at hrun
          rw [outcomeOf_document (hbody ▸ hrun) hlined.clean]
          refine .inl (.called rfl hbuilt hcall hdoc fun hfinite => isJson_line (hlined.strict ?_))
          simp [IsFinite, hfinite]

/-- A script that is not there, with an argument that is no JSON. -/
def missingLine : List Text := ["run", "lib/missing.js", "--arg", "[1", "--json-output"]

/-- What the command is asked for. -/
def missingParsed : Parsed :=
  { options := [(argumentOption, some "[1"), (jsonOption, none)], arguments := ["lib/missing.js"],
    remaining := [] }

/-- A capital letter. -/
def IsCapital (c : CodePoint) : Prop := 0x41 ≤ c.val ∧ c.val ≤ 0x5A

instance (c : CodePoint) : Decidable (IsCapital c) := inferInstanceAs (Decidable (_ ∧ _))

theorem isNumber_head {ds : List Char} (h : IsNumber ds) : ∃ d rest, ds = d :: rest ∧
    ¬IsCapital (.ofChar d) := by
  obtain ⟨hsign, hwhole, -, -⟩ := h
  have hstarts : ∀ {whole : List Char}, IsWhole whole → ∃ d rest, whole = d :: rest ∧
      ¬IsCapital (.ofChar d) := by
    intro whole hwhole
    cases hwhole with
    | zero => exact ⟨_, _, rfl, by decide⟩
    | digits hds hne =>
        obtain ⟨d, rest, rfl⟩ := List.exists_cons_of_ne_nil hne
        have hdigit := toNat_digit (hds d List.mem_cons_self)
        refine ⟨d, rest, rfl, fun hcapital => ?_⟩
        have hlow : 0x41 ≤ d.toNat := hcapital.1
        omega
  rcases hsign with rfl | rfl
  · obtain ⟨d, rest, rfl, hd⟩ := hstarts hwhole
    exact ⟨d, _, rfl, hd⟩
  · exact ⟨_, _, rfl, by decide⟩

/-- A value does not start with a capital letter. -/
theorem isValue_head (h : IsValue t) : ∃ c rest, t = c :: rest ∧ ¬IsCapital c := by
  cases h with
  | @word w hw =>
      have hwords : ∀ w ∈ ["null", "true", "false"], ∀ c ∈ (Text.ofString w).head?, ¬IsCapital c := by
        decide
      have hnonempty : ∀ w ∈ ["null", "true", "false"], Text.ofString w ≠ [] := by decide
      obtain ⟨c, rest, heq⟩ := List.exists_cons_of_ne_nil (hnonempty w hw)
      exact ⟨c, rest, heq, hwords w hw c (by rw [heq]; rfl)⟩
  | number h =>
      obtain ⟨d, rest, rfl, hd⟩ := isNumber_head h
      exact ⟨_, _, rfl, hd⟩
  | string h =>
      obtain ⟨hunits⟩ := h
      exact ⟨_, _, rfl, by decide⟩
  | emptyList | list | emptyRecord | record => exact ⟨_, _, rfl, by decide⟩

theorem not_isJson_capital {c : CodePoint} (hc : IsCapital c) (rest : Text) : ¬IsJson (c :: rest) := by
  intro h
  generalize htext : c :: rest = t at h
  obtain ⟨hbefore, hvalue, -⟩ := h
  rename_i before t after
  cases before with
  | nil =>
      obtain ⟨d, rest', rfl, hd⟩ := isValue_head hvalue
      exact hd ((List.cons.inj htext).1 ▸ hc)
  | cons b before =>
      have hblank := hbefore b List.mem_cons_self
      rw [← (List.cons.inj htext).1] at hblank
      have hblanks : ∀ b ∈ [' ', '\t', '\n', '\r'].map CodePoint.ofChar, ¬IsCapital b := by decide
      exact hblanks c hblank hc

/-- A shown log starts with the name of a level. -/
theorem shownLog_head {log : List LogRecord} (h : shownLog verbose log ≠ []) :
    ∃ c rest, shownLog verbose log = c :: rest ∧ IsCapital c := by
  have hlevel : ∀ l : LogLevel, ∃ c rest, Text.ofString l.name = c :: rest ∧ IsCapital c := by
    intro l
    cases l with
    | debug | info | warning | error => exact ⟨_, _, rfl, by decide⟩
  unfold shownLog at h ⊢
  dsimp only at h ⊢
  generalize (log.reverse.filter fun r => (threshold verbose).rank ≤ r.level.rank) = shown at h ⊢
  cases shown with
  | nil => exact absurd rfl h
  | cons r shown =>
      obtain ⟨c, rest, hname, hc⟩ := hlevel r.level
      rw [List.flatMap_cons, hname]
      exact ⟨c, _, rfl, hc⟩

theorem shownLog_ne_nil {log : List LogRecord} {r : LogRecord} (hr : r ∈ log)
    (hrank : (threshold verbose).rank ≤ r.level.rank) : shownLog verbose log ≠ [] := by
  have hshown : r ∈ log.reverse.filter fun r => (threshold verbose).rank ≤ r.level.rank :=
    List.mem_filter.mpr ⟨List.mem_reverse.mpr hr, decide_eq_true hrank⟩
  intro hnil
  have hline := List.flatMap_eq_nil_iff.mp hnil r hshown
  simp [Text.ofString] at hline

/-- Where a record is shown, the error stream as a whole is no JSON. -/
theorem not_isJson_logged {log : List LogRecord} (h : shownLog verbose log ≠ []) (t : Text) :
    ¬IsJson (escaped (shownLog verbose log) ++ t) := by
  obtain ⟨c, rest, hlog, hc⟩ := shownLog_head h
  have hscalar : c.isSurrogate = false := by
    unfold IsCapital at hc
    simp only [CodePoint.isSurrogate, Bool.and_eq_false_iff, decide_eq_false_iff_not]
    omega
  have hescaped : escaped (c :: rest) = c :: escaped rest := by
    unfold escaped
    rw [List.flatMap_cons, hscalar]
    rfl
  rw [hlog, hescaped]
  exact not_isJson_capital hc _

/-- The failure of a script with a zero character. -/
def zeroFailure : Failure :=
  .scriptExecution "script execution failed - embedded null character" (some .value)

/-- A script with a zero character is refused, and a record says so. -/
theorem finish_zero (h : checkCode t = .error .embeddedNull) (s : Machine × Host) :
    ∃ r : LogRecord, r.level = .debug ∧ CallBoundary.finish interpreter t s =
      .error (.failure zeroFailure) (s.1, { s.2 with log := r :: s.2.log }) := by
  have hrun : interpreter.run t s = .error .embeddedNull s := by
    unfold Interpreter.run
    rw [h]
    rfl
  refine ⟨⟨constructionLogger, .debug, "Script top level failed: embedded null character"⟩, rfl,
    host_bind_error ?_⟩
  unfold runTopLevel
  change EStateM.tryCatch _ _ s = _
  unfold EStateM.tryCatch
  rw [host_bind_error hrun]
  rfl

/-- Where log records of all levels are shown, a script that is refused has one before its report. -/
theorem refused_is_logged (h : Reads words true checkCommand p path)
    (hjson : p.has "--json-output" = true)
    (hload : ScriptText.load files (.str path) ScriptText.defaultEncoding = .ok t)
    (hzero : checkCode t = .error .embeddedNull) (name : String) :
    (CommandLine.run files name words).exitCode = 1 ∧ (CommandLine.run files name words).stdout = [] ∧
      ¬IsJson (CommandLine.run files name words).stderr := by
  obtain ⟨s, hsetUp⟩ := construct_finish (.ofString "main") t
  obtain ⟨r, hlevel, hfinish⟩ := finish_zero hzero s
  have hbuild := constructFrom_loaded (blueprint (.ofString "main")) fresh hload
  rw [hsetUp, hfinish, blueprint_main] at hbuild
  have hbody : bodyOf files p path checkCommand = checkScript files path true := rfl
  have hfails : checkScript files path true fresh = _ := checkScript_unbuilt hbuild
  rw [← hbody] at hfails
  obtain ⟨doc, -, -, houtcome⟩ := outcomeOf_failed true hfails (.str _)
  have hshown : shownLog true (r :: s.2.log) ≠ [] :=
    shownLog_ne_nil List.mem_cons_self (by rw [hlevel]; decide)
  rw [run_of_reads h, perform_line (.inl rfl) hjson (checked_of_load hload).1, houtcome]
  exact ⟨rfl, rfl, not_isJson_logged hshown _⟩

/-- A working directory with a script with a zero character. -/
def zeroFiles : FileTree := { entries := [(["f.js"], .regular [0])] }

/-- The line that checks it, with more log records. -/
def zeroLine : List Text := ["--verbose", "check", "f.js", "--json-output"]

/-- What the command is asked for. -/
def zeroParsed : Parsed :=
  { options := [(jsonOption, none)], arguments := ["f.js"], remaining := [] }

end ScriptHost.Proofs.AnsweredLines
