import ScriptHost.Proofs.Readers

/-!
# Operands

An operand that no operator follows goes through all levels of expressions unchanged; one that is
assigned to, through all levels but the outermost.
-/

namespace ScriptHost.Proofs.Operands

open Script Read
open ScriptHost.Proofs.Readers

variable {s : Array CodePoint} {fs : List OpenFunction} {ks ls : List TokenKind} {k : TokenKind}
  {e : Expr} {t : Token} {G : Grammar}

/-- The separators and brackets that end an operand. -/
def enders : List String := [",", "]", "\x7d", ")", ";"]

/-- What may follow an operand that no operator takes. -/
def followers : List String := "=" :: enders

/-- The tokens ahead start with none but some marks. -/
def StartsIn (marks : List String) (ks : List TokenKind) : Prop :=
  headKind ks = .eof ∨ ∃ p ∈ marks, headKind ks = .punct p

/-- The tokens ahead go on with no operator. -/
abbrev EndsOperand (ks : List TokenKind) : Prop := StartsIn enders ks

/-- The tokens ahead go on with no operator, but perhaps with an assignment. -/
abbrev StopsOperand (ks : List TokenKind) : Prop := StartsIn followers ks

namespace StartsIn

variable {ps : List String}

theorem not_mark (h : StartsIn ps ks) {p : String} (hp : p ∉ ps) : isMark p (headKind ks) = false := by
  rcases h with heof | ⟨q, hq, hmark⟩
  · rw [heof]
    rfl
  · rw [hmark]
    refine beq_eq_false_iff_ne.mpr ?_
    rintro rfl
    exact hp hq

theorem not_word (h : StartsIn ps ks) (w : String) : isWord w (headKind ks) = false := by
  rcases h with heof | ⟨q, -, hmark⟩
  · rw [heof]
    rfl
  · rw [hmark]
    rfl

theorem stops (h : EndsOperand ks) : StopsOperand ks :=
  h.imp_right fun ⟨q, hq, hmark⟩ => ⟨q, List.mem_cons_of_mem _ hq, hmark⟩

end StartsIn

/-- The words of data. -/
def dataWords : List String := ["null", "true", "false", "NaN", "Infinity"]

/-- The words that say how an operand, or what stands in its place, is read. -/
def leadingWords : List String := ["void", "typeof", "delete", "await", "new", "yield", "async"]

/-- A kind of token that an operand without a sign starts with. -/
def StartsOperand : TokenKind → Prop
  | .number _ | .string _ => True
  | .word w escaped => w ∉ leadingWords ∧ escaped = false
  | .punct p => p ∈ ["(", "[", "\x7b"]
  | _ => False

namespace StartsOperand

theorem not_mark (h : StartsOperand k) {p : String} (hp : p ∉ ["(", "[", "\x7b"]) :
    isMark p k = false := by
  cases k with
  | punct q =>
      refine beq_eq_false_iff_ne.mpr ?_
      rintro rfl
      exact hp h
  | _ => rfl

theorem not_word (h : StartsOperand k) {w : String} (hw : w ∈ leadingWords) :
    isWord w k = false := by
  cases k with
  | word v escaped =>
      have hne : v ≠ w := by
        rintro rfl
        exact h.1 hw
      simp [isWord, hne]
  | _ => rfl

end StartsOperand

/-! ## Links and signs -/

theorem reads_link_none (hend : StopsOperand ks) : Reads s fs (readLink G true e) ks none ks := by
  refine Reads.token_bind fun t hkind _ _ => ?_
  dsimp only
  rcases hend with heof | ⟨p, hp, hmark⟩
  · rw [hkind, heof]
    exact .pure
  · rw [hkind, hmark]
    simp only [followers, enders, List.mem_cons, List.not_mem_nil, or_false] at hp
    rcases hp with rfl | rfl | rfl | rfl | rfl | rfl
    all_goals exact .pure

theorem reads_links_none (hend : StopsOperand ks) (n : Nat) :
    Reads s fs (readLinks G true n e false) ks e ks := by
  cases n with
  | zero => exact .pure
  | succ n => exact (reads_link_none hend).bind .pure

theorem reads_linked (hnew : isWord "new" (headKind ks) = false)
    (h : Reads s fs (readPrimary G) ks e ls) (hend : StopsOperand ls) :
    Reads s fs (readLinked G) ks e ls := by
  refine Reads.get_bind fun r _ => ?_
  refine Reads.bind (hnew ▸ reads_atKeyword "new") ?_
  exact h.bind (reads_links_none hend _)

theorem reads_postfixed (h : Reads s fs (readLinked G) ks e ls) (hend : StopsOperand ls) :
    Reads s fs (readPostfix G) ks e ls := by
  refine h.bind ?_
  refine Reads.token_bind fun t hkind _ hline => ?_
  have hsign : (!t.afterNewline && (isPunct t "++" || isPunct t "--")) = false := by
    rw [isPunct_eq hkind, isPunct_eq hkind, hend.not_mark (by decide), hend.not_mark (by decide)]
    simp
  rw [if_neg (by simp [hsign])]
  exact .pure

theorem unaryOp_none (hstart : StartsOperand k) (hkind : t.kind = k) : unaryOp? t = none := by
  unfold unaryOp?
  simp only [isPunct_eq hkind, isKeyword_eq hkind]
  simp [hstart.not_mark, hstart.not_word (w := "void") (by decide)]

/-- An operand without a sign. -/
theorem reads_unsigned (hstart : StartsOperand (headKind ks))
    (h : Reads s fs (readPostfix G) ks e ls) : Reads s fs (readUnary G) ks (e, false) ls := by
  refine Reads.token_bind fun t hkind _ _ => ?_
  have hplus : (isPunct t "++" || isPunct t "--") = false := by
    rw [isPunct_eq hkind, isPunct_eq hkind, hstart.not_mark (by decide), hstart.not_mark (by decide)]
    rfl
  have hword (w : String) (hw : w ∈ leadingWords) : isKeyword t w = false := by
    rw [isKeyword_eq hkind]
    exact hstart.not_word hw
  rw [unaryOp_none hstart hkind]
  dsimp only
  rw [if_neg (by simp [hplus]), if_neg (by simp [hword "typeof" (by decide)]),
    if_neg (by simp [hword "delete" (by decide)])]
  refine reads_current.bind ?_
  rw [if_neg (by simp [hword "await" (by decide)])]
  exact h.bind .pure

/-- An operand without a sign that nothing is linked to. -/
theorem reads_unary (hstart : StartsOperand (headKind ks))
    (h : Reads s fs (readPrimary G) ks e ls) (hend : StopsOperand ls) :
    Reads s fs (readUnary G) ks (e, false) ls :=
  reads_unsigned hstart (reads_postfixed (reads_linked (hstart.not_word (by decide)) h hend) hend)

/-- An operand after a sign. -/
theorem reads_negated (hfs : IsPlain fs) (h : Reads s fs G.unary ks e ls) :
    Reads s fs (readUnary G) (.punct "-" :: ks) (.unary .negate e, true) ls := by
  refine Reads.token_bind fun t hkind _ _ => ?_
  have hop : unaryOp? t = some .negate := by
    unfold unaryOp?
    rw [isPunct_eq hkind]
    rfl
  rw [hop]
  exact (reads_next hfs).bind (h.bind .pure)

/-! ## Operators between operands -/

/-- What the grammar reads at the level of signs is the operand, with or without one. -/
theorem reads_power {guarded : Bool} (h : Reads s fs (readUnary G) ks (e, guarded) ls)
    (hend : StopsOperand ls) (n : Nat) : Reads s fs (readPower G (n + 1)) ks e ls := by
  unfold readPower
  refine h.bind ?_
  refine Reads.bind (hend.not_mark (p := "**") (by decide) ▸ reads_at "**") ?_
  exact .pure

theorem binaryOp_none {level : List (String × BinaryOp)} (hlevel : level ∈ binaryLevels)
    (hend : StopsOperand ks) (hkind : t.kind = headKind ks) : binaryOp? level true t = none := by
  unfold binaryOp?
  rw [hkind]
  rcases hend with heof | ⟨p, hp, hmark⟩
  · rw [heof]
  · rw [hmark]
    have hnone : ∀ level ∈ binaryLevels, ∀ p ∈ followers, level.find? (·.1 == p) = none := by decide
    simp only
    rw [hnone level hlevel p hp]
    rfl

theorem reads_binary {guarded : Bool} (h : Reads s fs (readUnary G) ks (e, guarded) ls)
    (hend : StopsOperand ls) {levels : List (List (String × BinaryOp))}
    (hlevels : ∀ level ∈ levels, level ∈ binaryLevels) :
    Reads s fs (readBinary G true levels) ks e ls := by
  induction levels with
  | nil => exact Reads.get_bind fun r _ => reads_power h hend _
  | cons level tighter ih =>
      unfold readBinary
      refine (ih fun l hl => hlevels l (List.mem_cons_of_mem _ hl)).bind ?_
      refine Reads.get_bind fun r _ => ?_
      unfold readBinaryTail
      refine Reads.token_bind fun t hkind _ _ => ?_
      rw [binaryOp_none (hlevels level List.mem_cons_self) hend hkind]
      exact .pure

theorem reads_logicalTail {operand : Read Expr} {p : String} {op : LogicalOp} (hp : p ∉ followers)
    (hend : StopsOperand ks) (n : Nat) :
    Reads s fs (readLogicalTail operand p op n e) ks e ks := by
  cases n with
  | zero => exact .pure
  | succ n => exact (reads_accept_not (hend.not_mark hp)).bind .pure

theorem reads_logical {guarded : Bool} (h : Reads s fs (readUnary G) ks (e, guarded) ls)
    (hend : StopsOperand ls) : Reads s fs (readLogical G true) ks e ls := by
  refine Reads.get_bind fun r _ => ?_
  have hlevels : ∀ level ∈ binaryLevels.reverse, level ∈ binaryLevels :=
    fun level hlevel => List.mem_reverse.mp hlevel
  refine (reads_binary h hend hlevels).bind ?_
  have hcoalesce : isMark "??" (headKind ls) = false := hend.not_mark (by decide)
  refine Reads.bind (hcoalesce ▸ reads_at "??") ?_
  refine (reads_logicalTail (by decide) hend _).bind ?_
  refine (reads_logicalTail (by decide) hend _).bind ?_
  exact Reads.bind (hcoalesce ▸ reads_at "??") .pure

theorem reads_conditional {guarded : Bool} (h : Reads s fs (readUnary G) ks (e, guarded) ls)
    (hend : StopsOperand ls) : Reads s fs (readConditional G true) ks e ls := by
  refine (reads_logical h hend).bind ?_
  exact (reads_accept_not (hend.not_mark (by decide))).bind .pure

/-! ## Whole expressions -/

theorem reads_asyncArrowFollows_not (h : isWord "async" (headKind ks) = false) :
    Reads s fs asyncArrowFollows ks false ks := by
  refine Reads.token_bind fun t hkind _ _ => ?_
  rw [if_pos (by simp [isKeyword_eq hkind, h])]
  exact .pure

/-- An operand that starts no arrow function is an expression by itself. -/
theorem reads_assignment {guarded : Bool} (harrow : Reads s fs arrowFollows ks false ks)
    (hyield : isWord "yield" (headKind ks) = false) (hasync : isWord "async" (headKind ks) = false)
    (h : Reads s fs (readUnary G) ks (e, guarded) ls) (hend : EndsOperand ls) :
    Reads s fs (readAssignment G true) ks e ls := by
  refine Reads.token_bind fun t hkind _ _ => ?_
  refine reads_current.bind ?_
  rw [if_neg (by simp [isKeyword_eq hkind, hyield])]
  refine harrow.bind ?_
  refine (reads_asyncArrowFollows_not hasync).bind ?_
  refine (reads_conditional h hend.stops).bind ?_
  refine Reads.token_bind fun t hkind _ _ => ?_
  rcases hend with heof | ⟨p, hp, hmark⟩
  · rw [hkind, heof]
    exact .pure
  · rw [hkind, hmark]
    simp only [enders, List.mem_cons, List.not_mem_nil, or_false] at hp
    rcases hp with rfl | rfl | rfl | rfl | rfl
    all_goals exact .pure

/-- A kind of token that is no word. -/
def isOther : TokenKind → Bool
  | .word _ _ => false
  | _ => true

theorem reads_nameOf_other (h : isOther k = true) (hkind : t.kind = k) :
    Reads s fs (nameOf? t) ks none ks := by
  subst hkind
  unfold nameOf?
  cases hk : t.kind with
  | word w escaped => rw [hk] at h; cases h
  | _ => exact .pure

theorem reads_nameOf_reserved {w : String} (hw : reservedWords.contains w = true)
    (hkind : t.kind = .word w false) : Reads s fs (nameOf? t) ks none ks := by
  unfold nameOf?
  rw [hkind]
  exact (reads_isReserved hw).bind .pure

theorem reads_nameOf_name (hfs : IsPlain fs) {w : String} (hw : reservedWords.contains w = false)
    (hkind : t.kind = .word w false) : Reads s fs (nameOf? t) ks (some w) ks := by
  unfold nameOf?
  rw [hkind]
  exact (reads_isReserved_not hfs hw).bind .pure

/-- No arrow function starts with a token that is no word and no parenthesis. -/
theorem reads_arrowFollows_other (h : isOther (headKind ks) = true)
    (hparen : isMark "(" (headKind ks) = false) : Reads s fs arrowFollows ks false ks := by
  refine Reads.token_bind fun t hkind _ _ => ?_
  rw [if_neg (by simp [isPunct_eq hkind, hparen])]
  exact (reads_nameOf_other h hkind).bind .pure

theorem reads_arrowFollows_reserved {w : String} (hw : reservedWords.contains w = true) :
    Reads s fs arrowFollows (.word w false :: ks) false (.word w false :: ks) := by
  refine Reads.token_bind fun t hkind _ _ => ?_
  rw [if_neg (by simp [isPunct_eq hkind, isMark, headKind])]
  exact (reads_nameOf_reserved hw hkind).bind .pure

theorem reads_arrowFollows_name (hfs : IsPlain fs) {w : String}
    (hw : reservedWords.contains w = false) (harrow : isMark "=>" (headKind ks) = false) :
    Reads s fs arrowFollows (.word w false :: ks) false (.word w false :: ks) := by
  refine Reads.token_bind fun t hkind _ _ => ?_
  rw [if_neg (by simp [isPunct_eq hkind, isMark, headKind])]
  refine (reads_nameOf_name hfs hw hkind).bind ?_
  refine peek_bind hfs fun t' hkind' _ _ => ?_
  rw [isPunct_eq hkind', harrow]
  exact .pure

/-- No arrow function starts with a bracketed part that no arrow follows. -/
theorem reads_arrowFollows_paren (hfs : IsPlain fs) {inner : List TokenKind}
    (hinner : Balanced inner) (harrow : isMark "=>" (headKind ks) = false) :
    Reads s fs arrowFollows (.punct "(" :: (inner ++ .punct ")" :: ks)) false
      (.punct "(" :: (inner ++ .punct ")" :: ks)) := by
  refine Reads.token_bind fun t hkind _ _ => ?_
  rw [if_pos (by simp [isPunct_eq hkind, isMark, headKind])]
  refine skipped_bind hfs (by decide) hinner fun x hx => ?_
  rw [isPunct_eq hx, harrow]
  exact .pure

end ScriptHost.Proofs.Operands
