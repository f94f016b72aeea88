import ScriptHost.Instance.ScriptEngine
import ScriptHost.Proofs.DataTexts
import ScriptHost.Proofs.Evaluation
import ScriptHost.Proofs.ExpressionScripts
import ScriptHost.Proofs.Transition

/-!
# Running scripts of one expression

A script of one expression gives the value of the expression.  The expression is evaluated in the
outermost scope, with the script as one more call under way.
-/

namespace ScriptHost.Proofs.ScriptRuns

open Script Script.Eval ScriptEngine
open ScriptHost.Proofs.DataTexts
open ScriptHost.Proofs.Evaluation
open ScriptHost.Proofs.ExpressionScripts
open ScriptHost.Proofs.Transition (ok_of_bind)

variable {σ : Type} {s s' : Machine × σ} {I : Interp σ} {host : Engine.HostCall σ} {site : Site}
  {n : Nat} {e : Expr} {t : Text} {v : Value}

/-- The state at the start of the statements of a text. -/
def cleared (s : Machine × σ) : Machine × σ := ({ s.1 with completion := .undefined }, s.2)

/-- A text gives the value of its last expression statement, and then the one before it is back. -/
theorem runText_run {body : List Stmt} {c : Completion}
    (h : Callable.executeAll I site body (cleared s) = .ok c s') :
    Statement.runText I site body s =
      .ok s'.1.completion ({ s'.1 with completion := s.1.completion }, s'.2) := by
  unfold Statement.runText
  rw [bind_ok (machine_run s)]
  change EStateM.tryCatch (EStateM.bind (Callable.executeAll I site body) _) _ (cleared s) = _
  unfold EStateM.tryCatch EStateM.bind
  rw [h]
  rfl

theorem runText_failed {body : List Stmt} {x : Signal}
    (h : Callable.executeAll I site body (cleared s) = .error x s') :
    Statement.runText I site body s =
      .error x ({ s'.1 with completion := s.1.completion }, s'.2) := by
  unfold Statement.runText
  rw [bind_ok (machine_run s)]
  change EStateM.tryCatch (EStateM.bind (Callable.executeAll I site body) _) _ (cleared s) = _
  unfold EStateM.tryCatch EStateM.bind
  rw [h]
  rfl

/-- Runs a script that has been read. -/
def runProgram (I : Interp σ) (p : Program) : Eval σ Value :=
  withFrame (Statement.textFrame p) do
    let site : Site := { scope := 0, strict := p.strict, records := true }
    for d in p.declarations do
      Variable.checkGlobal d
    Statement.declareGlobal I site p.declarations
    Statement.runText I site p.body

theorem runScript_parsed {p : Program} (hparse : parseProgram t false = .ok p) :
    Statement.runScript I t = runProgram I p := by
  funext s
  have hread : Statement.parse t false s = .ok p s := by
    unfold Statement.parse
    rw [hparse]
    rfl
  unfold Statement.runScript
  rw [bind_ok hread]
  rfl

/-- The call of a script that has no lines to tell apart. -/
def scriptFrame : Frame := { callee := none, isNative := false, strict := false, line := none }

/-- Where the statements of a script are evaluated. -/
def scriptSite : Site := { scope := 0, strict := false, records := true }

/-- The state in the statements of a script. -/
def inScript (s : Machine × σ) : Machine × σ := cleared (within scriptFrame s)

/-- The state after a script, from the one before it and the one at the end of its statements. -/
def leftScript (s s' : Machine × σ) : Machine × σ :=
  after ({ s'.1 with completion := s.1.completion }, s'.2)

/-- A script that leaves its statements as it enters them changes nothing. -/
theorem leftScript_inScript (s : Machine × σ) : leftScript s (inScript s) = s := rfl

/-- A script that is an expression alone, perhaps on several lines. -/
def linedProgram (e : Expr) (lines : Bool) : Program := ⟨[], [.expression e], false, lines⟩

/-- The state in the statements of a script that may have lines to tell apart. -/
def inLines (lines : Bool) (s : Machine × σ) : Machine × σ :=
  cleared (within { scriptFrame with line := if lines then some 1 else none } s)

/-- A script that is an expression alone ends as the expression does. -/
theorem runScript_lines {b : Bool} (hparse : parseProgram t false = .ok (linedProgram e b)) (n : Nat)
    (s : Machine × σ) :
    Statement.runScript (Engine.interp host (n + 1)) t s =
      match (Engine.interp host n).evaluate scriptSite e (inLines b s) with
      | .ok v s' => .ok v (leftScript s s')
      | .error x s' => .error x (leftScript s s') := by
  let fr : Frame := { scriptFrame with line := if b then some 1 else none }
  have hstatement : (Engine.interp host (n + 1)).execute scriptSite (.expression e) (inLines b s) =
      ((Engine.interp host n).evaluate scriptSite e >>= fun v =>
        Eval.modifyMachine (fun m => { m with completion := v }) >>= fun _ => pure Completion.normal)
          (inLines b s) := rfl
  have htext : Statement.runText (Engine.interp host (n + 1)) scriptSite [.expression e]
      (within fr s) =
        match (Engine.interp host n).evaluate scriptSite e (inLines b s) with
        | .ok v s' => .ok v ({ s'.1 with completion := s.1.completion }, s'.2)
        | .error x s' => .error x ({ s'.1 with completion := s.1.completion }, s'.2) := by
    cases hvalue : (Engine.interp host n).evaluate scriptSite e (inLines b s) with
    | ok v s' =>
        rw [bind_ok hvalue] at hstatement
        have hexecute : Callable.executeAll (Engine.interp host (n + 1)) scriptSite [.expression e]
            (inLines b s) = .ok .normal ({ s'.1 with completion := v }, s'.2) := by
          unfold Callable.executeAll
          exact (bind_ok hstatement).trans rfl
        exact runText_run hexecute
    | error x s' =>
        rw [bind_error hvalue] at hstatement
        have hexecute : Callable.executeAll (Engine.interp host (n + 1)) scriptSite [.expression e]
            (inLines b s) = .error x s' := by
          unfold Callable.executeAll
          exact bind_error hstatement
        exact runText_failed hexecute
  rw [runScript_parsed hparse]
  change withFrame fr _ s = _
  rw [withFrame_run]
  simp only [linedProgram, List.forIn_nil, Statement.declareGlobal, pure_bind]
  rw [show (⟨0, false, true⟩ : Site) = scriptSite from rfl, htext]
  cases (Engine.interp host n).evaluate scriptSite e (inLines b s) with
  | ok v s' => rfl
  | error x s' => rfl

/-- On one line there are no lines to tell apart. -/
theorem runScript_run (hparse : parseProgram t false = .ok (expressionProgram e)) (n : Nat)
    (s : Machine × σ) :
    Statement.runScript (Engine.interp host (n + 1)) t s =
      match (Engine.interp host n).evaluate scriptSite e (inScript s) with
      | .ok v s' => .ok v (leftScript s s')
      | .error x s' => .error x (leftScript s s') :=
  @runScript_lines _ host e t false hparse n s

/-- A script that is an expression alone gives the value of the expression. -/
theorem runScript_evaluated (hparse : parseProgram t false = .ok (expressionProgram e))
    (he : (Engine.interp host n).evaluate scriptSite e (inScript s) = .ok v s') :
    Statement.runScript (Engine.interp host (n + 1)) t s = .ok v (leftScript s s') := by
  rw [runScript_run hparse, he]

section Host

variable {s s' : Machine × Host} {w : Passed Value}

/-- What the engine gives for a script that has been read. -/
def runTree (p : Program) : EngineM (Passed Value) := do
  HostM.ofExcept (passed (← perform evaluator (runProgram evaluator p)))

/-- A script whose tree is known is run from its tree on. -/
theorem run_parsed {p : Program} (hcheck : checkCode t = .ok ())
    (hparse : parseProgram t false = .ok p) : interpreter.run t = runTree p := by
  have hevaluate : interpreter.evaluate t = runTree p := by
    change (perform evaluator (Statement.runScript evaluator t) >>= fun v =>
      HostM.ofExcept (passed v)) = _
    rw [runScript_parsed hparse]
    rfl
  unfold Interpreter.run
  rw [hcheck]
  exact hevaluate

theorem perform_ok {α : Type} {x : Eval Host α} {a : α} (h : x s = .ok a s') :
    perform evaluator x s = .ok a s' := by
  unfold perform
  rw [h]

/-- The level below that of the evaluator of scripts. -/
def below : Nat := Engine.nesting - 1

theorem evaluator_below : evaluator = Engine.interp hostCall (below + 1) := rfl

/-- What a clean script gives is the value that it ends with, if that can leave the engine. -/
theorem run_script (hclean : IsClean t) (hscript : Statement.runScript evaluator t s = .ok v s') :
    interpreter.run t s = HostM.ofExcept (passed v) s' := by
  have hevaluate : interpreter.evaluate t s = HostM.ofExcept (passed v) s' := by
    change EStateM.bind (perform evaluator (Statement.runScript evaluator _)) _ s = _
    unfold EStateM.bind
    rw [perform_ok hscript]
  unfold Interpreter.run
  rw [checkCode_ok hclean]
  exact hevaluate

/-- A script that is an expression alone runs through, and gives the value of the expression if that
can leave the engine. -/
theorem run_expression (hclean : IsClean t) (hparse : parseProgram t false = .ok (expressionProgram e))
    (he : (Engine.interp hostCall below).evaluate scriptSite e (inScript s) = .ok v s') :
    interpreter.run t s = HostM.ofExcept (passed v) (leftScript s s') := by
  refine run_script hclean ?_
  rw [evaluator_below]
  exact runScript_evaluated hparse he

/-- What the engine gives for a script that is an expression alone. -/
theorem run_evaluated (hclean : IsClean t) (hparse : parseProgram t false = .ok (expressionProgram e))
    (he : (Engine.interp hostCall below).evaluate scriptSite e (inScript s) = .ok v s')
    (hpassed : passed v = .ok w) : interpreter.run t s = .ok w (leftScript s s') := by
  rw [run_expression hclean hparse he, hpassed]
  rfl

theorem ok_of_perform {α : Type} {I : Interp Host} {x : Eval Host α} {a : α}
    (h : perform I x s = .ok a s') : x s = .ok a s' := by
  unfold perform at h
  cases hx : x s with
  | ok b s₁ =>
      rw [hx] at h
      cases h
      rfl
  | error signal s₁ =>
      rw [hx] at h
      cases signal with
      | thrown u =>
          dsimp only at h
          cases hfault : thrownFault I u s₁ with
          | ok f s₂ =>
              rw [hfault] at h
              cases h
          | error y s₂ =>
              rw [hfault] at h
              cases h
      | _ => cases h

/-- A script that is an expression alone has evaluated the expression if it gives anything. -/
theorem evaluated_of_run (hparse : parseProgram t false = .ok (expressionProgram e))
    (h : interpreter.run t s = .ok w s') :
    ∃ v s₁, (Engine.interp hostCall below).evaluate scriptSite e (inScript s) = .ok v s₁ ∧
      s' = leftScript s s₁ := by
  obtain ⟨u, s₀, hcode, hevaluate⟩ := ok_of_bind h
  obtain rfl : s₀ = s := by
    cases hcheck : checkCode t with
    | ok u =>
        rw [hcheck] at hcode
        cases hcode
        rfl
    | error f =>
        rw [hcheck] at hcode
        cases hcode
  obtain ⟨v, s₁, hperform, hout⟩ := ok_of_bind hevaluate
  have hscript := ok_of_perform hperform
  rw [evaluator_below, runScript_run hparse] at hscript
  have hpassed : s₁ = s' := by
    cases hvalue : passed v with
    | ok w =>
        rw [hvalue] at hout
        cases hout
        rfl
    | error f =>
        rw [hvalue] at hout
        cases hout
  cases hvalue : (Engine.interp hostCall below).evaluate scriptSite e (inScript s₀) with
  | ok v₂ s₂ =>
      rw [hvalue] at hscript
      cases hscript
      exact ⟨v, s₂, rfl, hpassed.symm⟩
  | error x s₂ =>
      rw [hvalue] at hscript
      cases hscript

end Host

end ScriptHost.Proofs.ScriptRuns
