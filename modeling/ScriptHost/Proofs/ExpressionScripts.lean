import ScriptHost.Proofs.Operands

/-!
# Scripts of one expression

A script that is one expression, perhaps with a semicolon after it, is read as one statement.
-/

namespace ScriptHost.Proofs.ExpressionScripts

open Script Read
open ScriptHost.Proofs.Operands
open ScriptHost.Proofs.Readers

variable {s : Array CodePoint} {fs : List OpenFunction} {ks ls ms : List TokenKind} {k : TokenKind}
  {e : Expr} {G : Grammar} {t : Text} {n : Nat}

/-! ## Statements -/

theorem reads_expression (h : Reads s fs (G.assignment true) ks e ls)
    (hcomma : isMark "," (headKind ls) = false) : Reads s fs (readExpression G true) ks e ls := by
  refine h.bind ?_
  refine Reads.get_bind fun r _ => ?_
  unfold readCommas
  exact (reads_accept_not hcomma).bind .pure

/-- What ends a statement, with what stands after it. -/
inductive EndsStatement : List TokenKind → List TokenKind → Prop
  | script : EndsStatement [] []
  | semicolon (ks : List TokenKind) : EndsStatement (.punct ";" :: ks) ks

theorem EndsStatement.endsOperand (h : EndsStatement ls ms) : EndsOperand ls := by
  cases h with
  | script => exact .inl rfl
  | semicolon ks => exact .inr ⟨";", by decide, rfl⟩

theorem reads_expectEnd (hfs : IsPlain fs) (h : EndsStatement ls ms) :
    Reads s fs expectEnd ls () ms := by
  refine Reads.token_bind fun t hkind _ _ => ?_
  cases h with
  | script =>
      rw [if_neg (by simp [isPunct_eq hkind, isMark, headKind]), hkind]
      exact .pure
  | semicolon =>
      rw [if_pos (by simp [isPunct_eq hkind, isMark, headKind])]
      exact reads_next hfs

/-- An expression up to the end of its statement. -/
theorem reads_expressionStatement (hfs : IsPlain fs)
    (h : Reads s fs (readAssignment (grammarOf n) true) ks e ls) (hend : EndsStatement ls ms) :
    Reads s fs (readExpressionStatement (grammarOf (n + 2))) ks (.expression e) ms := by
  have hcomma : isMark "," (headKind ls) = false := by
    cases hend with
    | script => rfl
    | semicolon => rfl
  exact (reads_expression h hcomma).bind ((reads_expectEnd hfs hend).bind .pure)

/-- A statement that starts with no word, brace or semicolon is an expression. -/
theorem reads_statement_other {place : StatementPlace} {x : Stmt} (hk : isOther k = true)
    (hbrace : isMark "\x7b" k = false) (hsemicolon : isMark ";" k = false)
    (h : Reads s fs (readExpressionStatement G) (k :: ks) x ls) :
    Reads s fs (readStatement G place) (k :: ks) x ls := by
  refine Reads.token_bind fun t hkind _ _ => ?_
  rw [hkind]
  cases k with
  | word w escaped => cases hk
  | punct p =>
      have hne {q : String} (h : isMark q (.punct p) = false) : p ≠ q := beq_eq_false_iff_ne.mp h
      simp only [headKind, List.headD_cons]
      split
      · rename_i heq
        exact absurd (TokenKind.punct.inj heq) (hne hbrace)
      · rename_i heq
        exact absurd (TokenKind.punct.inj heq) (hne hsemicolon)
      · rename_i heq
        cases heq
      · exact h
  | _ => exact h

/-- A statement that starts with an operator that is a word is an expression. -/
theorem reads_statement_operator {place : StatementPlace} {w : String} {x : Stmt}
    (hw : w ∈ ["typeof", "delete"])
    (h : Reads s fs (readExpressionStatement G) (.word w false :: ks) x ls) :
    Reads s fs (readStatement G place) (.word w false :: ks) x ls := by
  refine Reads.token_bind fun t hkind _ _ => ?_
  rw [hkind]
  simp only [List.mem_cons, List.not_mem_nil, or_false] at hw
  rcases hw with rfl | rfl
  all_goals
    refine (reads_isReserved (by decide)).bind ?_
    exact Reads.bind .pure h

theorem reads_refuseEscapedKeyword {w : String} :
    Reads s fs refuseEscapedKeyword (.word w false :: ks) () (.word w false :: ks) := by
  refine Reads.token_bind fun t hkind _ _ => ?_
  rw [hkind]
  exact .pure

/-- A statement that starts with a name which no colon follows is an expression. -/
theorem reads_statement_name (hfs : IsPlain fs) {place : StatementPlace} {w : String} {x : Stmt}
    (hreserved : reservedWords.contains w = false) (hlet : w ≠ "let") (hasync : w ≠ "async")
    (hcolon : isMark ":" (headKind ks) = false)
    (h : Reads s fs (readExpressionStatement G) (.word w false :: ks) x ls) :
    Reads s fs (readStatement G place) (.word w false :: ks) x ls := by
  have hword {t : Token} {v : String} (hkind : t.kind = headKind (.word w false :: ks)) (hv : w ≠ v) :
      isKeyword t v = false := by
    rw [isKeyword_eq hkind]
    simp [isWord, headKind, hv]
  have hdeclares : Reads s fs (letDeclares place) (.word w false :: ks) false (.word w false :: ks) := by
    refine Reads.token_bind fun t hkind _ _ => ?_
    rw [if_pos (by simp [hword hkind hlet])]
    exact .pure
  have hname : Reads s fs (readNameStatement G place w) (.word w false :: ks) x ls := by
    refine peek_bind hfs fun t hkind _ _ => ?_
    rw [if_neg (by simp [isPunct_eq hkind, hcolon])]
    refine hdeclares.bind ?_
    refine Reads.bind (reads_atKeyword "async") ?_
    rw [if_neg (by simp [isWord, headKind, hasync])]
    exact h
  refine Reads.token_bind fun t hkind _ _ => ?_
  rw [hkind]
  refine (reads_isReserved_not hfs hreserved).bind ?_
  exact reads_refuseEscapedKeyword.bind hname

/-! ## Scripts -/

/-- The marks at the start of a script, one at a time. -/
def directiveStep : Read (Option (Bool × Bool)) := do
  match (← token).kind with
  | .string _ =>
    let r ← get
    let text := between r.source (r.token.start + 1) (r.token.stop - 1)
    next
    let t ← token
    let ended ←
      if ← accept ";" then pure true
      else
        match t.kind with
        | .eof => pure true
        | _ => pure (isPunct t "\x7d" || t.afterNewline)
    if ended then return some (text == ("use strict" : Text), true) else return none
  | _ => return none

theorem readDirectives_eq :
    readDirectives = (do
      let saved ← get
      let strict ← gather directiveStep
      set saved
      if strict.any id then
        modifyCurrent fun f => { f with strict := true }
        rescan) := rfl

/-- A kind of token that starts a statement which is no mark of strictness. -/
def StartsStatement : TokenKind → Prop
  | .word _ _ | .punct _ => True
  | _ => False

/-- A word or bracket at the start of a script is no mark of strictness. -/
theorem reads_readDirectives (hk : StartsStatement k) :
    Reads s fs readDirectives (k :: ks) () (k :: ks) := by
  have hnone : Reads s fs directiveStep (k :: ks) none (k :: ks) := by
    refine Reads.token_bind fun t hkind _ _ => ?_
    rw [hkind]
    cases k with
    | word w escaped => exact .pure
    | punct p => exact .pure
    | _ => cases hk
  have hgather : Reads s fs (gather directiveStep) (k :: ks) [] (k :: ks) :=
    Reads.get_bind fun r _ => hnone.bind .pure
  intro r hr
  obtain ⟨r', hrun, -⟩ := hgather r hr
  refine ⟨r, ?_, hr⟩
  rw [readDirectives_eq, run_bind (get_run r), run_bind hrun]
  rfl

/-- A script that is being read, before anything is declared in it. -/
def openScript : OpenFunction :=
  { isScript := true, kind := .plain, isGenerator := false, isAsync := false, strict := false,
    superCallAllowed := false, superAllowed := false, line := 1, hasLines := false,
    usesArguments := false, params := [], blocks := [{ id := 0, names := [], declarations := [] }],
    nextBlock := 1, declared := [], exits := [] }

theorem isPlain_openScript : IsPlain [openScript] := ⟨openScript, [], rfl, rfl, rfl, rfl, rfl⟩

/-- The script of an expression alone. -/
def expressionProgram (e : Expr) : Program := ⟨[], [.expression e], false, false⟩

/-- The statements of a script, one at a time. -/
def statementStep (G : Grammar) : Read (Option (Stmt × Bool)) := do
  match (← token).kind with
  | .eof => return none
  | _ => return some (← G.statement bodyPlace, true)

theorem readProgram_eq (G : Grammar) :
    readProgram G = do
      next
      readDirectives
      let body ← gather (statementStep G)
      let declarations ← closeBlock
      let closed ← closeFunction
      return { declarations, body, strict := closed.any (·.strict),
               hasLines := closed.any (·.hasLines) } := rfl

theorem readProgram_run {r : Reading} (hr : Holds s [openScript] r (.eof :: k :: ks))
    (hk : StartsStatement k)
    (h : Reads s [openScript] (G.statement bodyPlace) (k :: ks) (.expression e) []) :
    ∃ r', readProgram G r = .ok (expressionProgram e) r' := by
  have hfirst : Reads s [openScript] (statementStep G) (k :: ks)
      (some (.expression e, true)) [] := by
    refine Reads.token_bind fun t hkind _ _ => ?_
    rw [hkind]
    cases k with
    | word w escaped => exact h.bind .pure
    | punct p => exact h.bind .pure
    | _ => cases hk
  have hlast : Reads s [openScript] (statementStep G) [] none [] := by
    refine Reads.token_bind fun t hkind _ _ => ?_
    rw [hkind]
    exact .pure
  have hbody : Reads s [openScript] (gather (statementStep G)) (k :: ks) [.expression e] [] := by
    refine Reads.get_bind fun r _ => ?_
    exact hfirst.bind (hlast.bind .pure)
  obtain ⟨r₁, hrun₁, hr₁⟩ := reads_next isPlain_openScript r hr
  obtain ⟨r₂, hrun₂, hr₂⟩ := reads_readDirectives hk r₁ hr₁
  obtain ⟨r₃, hrun₃, hr₃⟩ := hbody r₂ hr₂
  rw [readProgram_eq, run_bind hrun₁, run_bind hrun₂, run_bind hrun₃]
  obtain ⟨source, token, cursor, lastLine, lastStop, functions⟩ := r₃
  obtain rfl : functions = [openScript] := hr₃.functions
  exact ⟨_, rfl⟩

/-- The reading of a script, before its first token. -/
def startOf (source : Array CodePoint) : Reading :=
  { source, token := { kind := .eof, start := 0, stop := 0, line := 1, afterNewline := false },
    cursor := { position := 0, line := 1 }, lastLine := 1, lastStop := 0,
    functions := [openScript] }

theorem parseProgram_eq (t : Text) : parseProgram t false =
    match readProgram (grammarOf (8 * t.toArray.size + 64)) (startOf t.toArray) with
    | .ok p _ => .ok p
    | .error e _ => .error e := rfl

/-- A script is read whose tokens are read as an expression, whatever number of levels there are
beyond the number of the tokens. -/
theorem parse_expression (hahead : Ahead t.toArray 0 (k :: ks)) (hk : StartsStatement k)
    (h : ∀ n, ks.length ≤ n → Reads t.toArray [openScript] ((grammarOf (n + 5)).statement bodyPlace)
      (k :: ks) (.expression e) []) :
    parseProgram t false = .ok (expressionProgram e) := by
  have hbound : ks.length ≤ t.toArray.size := by
    obtain ⟨j, hstreams, hend⟩ := hahead.streams
    have hlength := hstreams.length_le
    have hsize := hend.size
    simp only [List.length_cons, List.length_nil] at hlength hsize
    omega
  obtain ⟨n, hn, hlevel⟩ : ∃ n, ks.length ≤ n ∧ 8 * t.toArray.size + 64 = n + 5 :=
    ⟨8 * t.toArray.size + 59, by omega, rfl⟩
  have hstart : Holds t.toArray [openScript] (startOf t.toArray) (.eof :: k :: ks) :=
    ⟨⟨rfl, rfl, rfl, rfl, hahead⟩, rfl, rfl, rfl⟩
  obtain ⟨r, hrun⟩ := readProgram_run hstart hk (h n hn)
  rw [parseProgram_eq, hlevel, hrun]

end ScriptHost.Proofs.ExpressionScripts
