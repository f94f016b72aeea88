import ScriptHost.Proofs.DataTrees

/-!
# Scripts that are data

A script that is data in parentheses is read, and its only statement is the expression of the data.
-/

namespace ScriptHost.Proofs.DataScripts

open Script Read Json
open ScriptHost.Proofs.DataTokens
open ScriptHost.Proofs.DataTrees
open ScriptHost.Proofs.ExpressionScripts
open ScriptHost.Proofs.Operands
open ScriptHost.Proofs.Readers
open ScriptHost.Proofs.Scanning

variable {s : Array CodePoint} {fs : List OpenFunction} {ks : List TokenKind} {e : Expr} {v : HostValue} {t : Text} {n : Nat}

/-- An expression in parentheses, as a statement at the end of a script. -/
theorem reads_statement (hfs : IsPlain fs) {inner : List TokenKind} (hinner : Balanced inner)
    (h : Reads s fs (readAssignment (grammarOf n) true) (inner ++ [.punct ")"]) e [.punct ")"]) :
    Reads s fs ((grammarOf (n + 5)).statement bodyPlace) (.punct "(" :: (inner ++ [.punct ")"]))
      (.expression e) [] := by
  have hend : EndsOperand [] := .inl rfl
  have hparen : Reads s fs (readPrimary (grammarOf (n + 2)))
      (.punct "(" :: (inner ++ [.punct ")"])) e [] := by
    refine Reads.token_bind fun t hkind _ _ => ?_
    rw [hkind]
    refine (reads_next hfs).bind ?_
    refine Reads.bind (reads_expression h rfl) ?_
    exact (reads_expect hfs ")").bind .pure
  have hstart : StartsOperand (.punct "(") := by simp [StartsOperand]
  have hassignment := reads_assignment (reads_arrowFollows_paren hfs hinner rfl) rfl rfl
    (reads_unary hstart hparen hend.stops) hend
  exact reads_statement_other rfl rfl rfl (reads_expressionStatement hfs hassignment .script)

/-- The text of a value in parentheses. -/
def parenthesized (t : Text) : Text := "(" ++ t ++ ")"

/-- The tokens of an operand in parentheses stand in the text of the script. -/
theorem ahead_parenthesized (hscanned : IsScannedAs t ks) (hbalanced : Balanced ks) :
    Ahead (parenthesized t).toArray 0 (.punct "(" :: (ks ++ [.punct ")"])) := by
  have hstands : Stands (parenthesized t).toArray 0 (CodePoint.ofChar '(' ::
      (t ++ [CodePoint.ofChar ')'])) := ⟨Nat.zero_le _, rfl⟩
  have hopen := scans_mark (.here hstands) (show '(' ∈ marks by decide)
  have hclose := hstands.tail.skip
  have hoperand := hscanned _ _ _ _ (.here hstands.tail) (closes_mark (by decide))
  have hlast := scans_mark (.here hclose) (show ')' ∈ marks by decide)
  refine ⟨⟨_, .cons hopen (Nat.lt_succ_self _) (hoperand.append (.single hlast (Nat.lt_succ_self _))),
    hclose.tail⟩, ?_⟩
  exact noSlash_balanced (.nested (p := "(") (q := ")") (by decide) hbalanced .nil)

/-- A script that is an operand in parentheses is read as the expression of the operand. -/
theorem parse_parenthesized (hscanned : IsScannedAs t ks) (hbalanced : Balanced ks)
    (h : ∀ n, ks.length ≤ n → Reads (parenthesized t).toArray [openScript]
      (readAssignment (grammarOf n) true) (ks ++ [.punct ")"]) e [.punct ")"]) :
    parseProgram (parenthesized t) false = .ok (expressionProgram e) := by
  refine parse_expression (ahead_parenthesized hscanned hbalanced) trivial fun n hn => ?_
  rw [List.length_append] at hn
  exact reads_statement isPlain_openScript hbalanced (h n (by omega))

/-- A script that is a value in parentheses is read as the expression of the value. -/
theorem parse_datum (hv : IsDatum v) (ht : write wire v = .ok t) :
    parseProgram (parenthesized t) false = .ok (expressionProgram (tree v)) :=
  parse_parenthesized (isScannedAs_written v ht) (balanced_tokens v) fun _ hn =>
    reads_datum isPlain_openScript hv hn (endsOperand_mark (by decide))

end ScriptHost.Proofs.DataScripts
