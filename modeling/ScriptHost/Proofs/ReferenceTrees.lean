import ScriptHost.Proofs.DataTrees
import ScriptHost.Proofs.LookupTexts

/-!
# The trees of references

The texts that look a name up are read as what they say: a variable, or a key of the global object,
or the type of one.  So are the texts that delete a key.
-/

namespace ScriptHost.Proofs.ReferenceTrees

open Script Read
open ScriptHost.Proofs.DataTokens
open ScriptHost.Proofs.DataTrees
open ScriptHost.Proofs.ExpressionScripts
open ScriptHost.Proofs.LookupTexts
open ScriptHost.Proofs.Operands
open ScriptHost.Proofs.Readers
open ScriptHost.Proofs.ScannedNames
open ScriptHost.Proofs.Scanning

variable {s : Array CodePoint} {fs : List OpenFunction} {ks ls : List TokenKind} {e : Expr}
  {G : Grammar} {n : Nat} {w : String} {key t code : Text}

/-- The name of the global object. -/
def globalName : Name := nameOf "globalThis"

/-- The expression that refers to a key of the global object. -/
def referenceTree (key : Text) : Expr :=
  .index (.name globalName 1) (.literal (.string (Utf16.ofText key))) false 1

/-! ## Operators that are words -/

theorem reads_typeof (hfs : IsPlain fs) (h : Reads s fs G.unary ks e ls) :
    Reads s fs (readUnary G) (.word "typeof" false :: ks) (.typeOf e, true) ls := by
  refine Reads.token_bind fun t hkind _ _ => ?_
  have hop : unaryOp? t = none := by
    unfold unaryOp?
    simp only [isPunct_eq hkind, isKeyword_eq hkind]
    rfl
  rw [hop]
  dsimp only
  rw [if_neg (by simp [isPunct_eq hkind, isMark, headKind]),
    if_pos (by simp [isKeyword_eq hkind, isWord, headKind])]
  exact (reads_next hfs).bind (h.bind .pure)

theorem reads_deletion (hfs : IsPlain fs) (h : Reads s fs G.unary ks (referenceTree key) ls) :
    Reads s fs (readUnary G) (.word "delete" false :: ks) (.deletion (referenceTree key), true) ls := by
  refine Reads.token_bind fun t hkind _ _ => ?_
  have hop : unaryOp? t = none := by
    unfold unaryOp?
    simp only [isPunct_eq hkind, isKeyword_eq hkind]
    rfl
  rw [hop]
  dsimp only
  rw [if_neg (by simp [isPunct_eq hkind, isMark, headKind]),
    if_neg (by simp [isKeyword_eq hkind, isWord, headKind]),
    if_pos (by simp [isKeyword_eq hkind, isWord, headKind])]
  refine (reads_next hfs).bind (h.bind ?_)
  exact .pure

/-! ## Variables and keys -/

/-- A word that is read as a variable wherever an operand stands. -/
structure IsVariable (w : String) : Prop where
  unreserved : reservedWords.contains w = false
  plain : w ∉ ["async", "arguments", "eval", "yield", "await", "let"]

theorem IsVariable.startsOperand (h : IsVariable w) : StartsOperand (.word w false) := by
  obtain ⟨hreserved, hplain⟩ := h
  refine ⟨fun hmem => ?_, rfl⟩
  have hleading : ∀ v ∈ leadingWords, reservedWords.contains v = true ∨
      v ∈ ["async", "arguments", "eval", "yield", "await", "let"] := by decide
  rcases hleading w hmem with hcontains | hodd
  · rw [hcontains] at hreserved
    cases hreserved
  · exact hplain hodd

theorem IsVariable.ne (h : IsVariable w) {v : String}
    (hv : v ∈ ["async", "arguments", "eval", "yield", "await", "let"]) : w ≠ v := by
  rintro rfl
  exact h.plain hv

theorem IsVariable.reads (h : IsVariable w) (hfs : IsPlain fs) :
    Reads s fs (readPrimary G) (.word w false :: ks) (.name (nameOf w) 1) ks := by
  refine reads_name hfs h.unreserved ?_
  simp only [List.mem_cons, List.not_mem_nil, or_false, not_or]
  exact ⟨h.ne (by decide), h.ne (by decide), h.ne (by decide)⟩

theorem IsVariable.not_word (h : IsVariable w) {v : String}
    (hv : v ∈ ["async", "arguments", "eval", "yield", "await", "let"]) :
    isWord v (.word w false) = false := by
  simp [isWord, h.ne hv]

/-- A key in brackets after an expression. -/
theorem reads_keyLink (hfs : IsPlain fs) (x : Utf16) :
    Reads s fs (readLink (grammarOf (n + 2)) true e) (.punct "[" :: .string x :: .punct "]" :: ks)
      (some (.index e (.literal (.string x)) false 1, false)) ks := by
  have hkey : Reads s fs ((grammarOf (n + 2)).expression true) (.string x :: .punct "]" :: ks)
      (.literal (.string x)) (.punct "]" :: ks) :=
    reads_expression (G := grammarOf (n + 1)) (reads_literalString hfs x (endsOperand_mark (by decide)))
      rfl
  refine Reads.token_bind fun t hkind _ _ => ?_
  dsimp only
  rw [hkind]
  refine Reads.bind (a := .index e (.literal (.string x)) false 1) ?_ .pure
  refine (reads_next hfs).bind (Reads.get_bind fun r hr => ?_)
  rw [hr.lastLine]
  exact hkey.bind ((reads_expect hfs "]").bind .pure)

theorem isVariable_global : IsVariable "globalThis" := ⟨by decide, by decide⟩

/-- A reference to a key of the global object. -/
theorem reads_reference (hfs : IsPlain fs) (key : Text) (hend : StopsOperand ks) :
    Reads s fs (readPostfix (grammarOf (n + 2))) (referenceTokens key ++ ks) (referenceTree key) ks := by
  refine reads_postfixed (Reads.get_bind fun r hr => ?_) hend
  refine (reads_atKeyword "new").bind ?_
  refine (isVariable_global.reads hfs).bind ?_
  obtain ⟨fuel, hfuel⟩ : ∃ fuel, r.source.size = fuel + 2 := by
    have hlength := hr.length_le
    rw [← hr.source] at hlength
    simp only [referenceTokens, List.cons_append, List.nil_append, List.length_cons] at hlength
    exact ⟨r.source.size - 2, by omega⟩
  rw [hfuel]
  exact (reads_keyLink hfs _).bind (reads_links_none hend _)

/-! ## Look-ups as scripts -/

/-- The characters of a name are those that it is spelled with. -/
theorem ofString_spelling (hw : IsName t) : Text.ofString (spelling t) = t := by
  unfold Text.ofString spelling
  rw [String.toList_ofList, List.map_map]
  refine (List.map_congr_left fun c hc => ?_).trans (List.map_id t)
  have hbounds := lt_of_isPlainPart (hw.parts c hc)
  have hvalid : c.val.isValidChar := .inl (by omega)
  have hval : (Char.ofNat c.val).toNat = c.val := by
    rw [Char.ofNat, dif_pos hvalid]
    rfl
  exact (CodePoint.mk.injEq ..).mpr hval

theorem nameOf_spelling (hw : IsName t) : nameOf (spelling t) = Utf16.ofText t := by
  rw [nameOf, Utf16.ofString, ofString_spelling hw]

/-- A text that stands at the end of a source is tokens of given kinds. -/
def IsLastAs (t : Text) (ks : List TokenKind) : Prop :=
  ∀ {s i j}, Leads s i j t → ∃ l, Streams s i ks l ∧ Stands s l []

theorem isLastAs_name (hw : IsName t) : IsLastAs t [.word (spelling t) false] := by
  intro s i j h
  have hpos := List.length_pos_iff.mpr hw.nonempty
  have hle := h.le
  have hleads : Leads s i j (t ++ []) := by simpa using h
  exact ⟨_, .single (scans_name hleads hw endsName_nil) (by omega), hleads.stands.skip⟩

theorem isLastAs_reference (key : Text) : IsLastAs (reference key) (referenceTokens key) := by
  intro s i j h
  have hleads : Leads s i j (reference key ++ []) := by simpa using h
  exact ⟨_, streams_reference hleads, hleads.stands.skip⟩

theorem ahead_last (h : IsLastAs t ks) (hslash : ∀ k ∈ ks, NoSlash k) : Ahead t.toArray 0 ks :=
  ⟨h (.here (stands_start t)), hslash⟩

theorem ahead_typeof (h : IsLastAs t ks) (hslash : ∀ k ∈ ks, NoSlash k) :
    Ahead (List.toArray ("typeof " ++ t)) 0 (.word "typeof" false :: ks) :=
  ⟨streams_typeof h, List.forall_mem_cons.mpr ⟨⟨rfl, rfl⟩, hslash⟩⟩

theorem noSlash_word (w : String) : ∀ k ∈ [TokenKind.word w false], NoSlash k := by
  intro k hk
  obtain rfl := List.mem_singleton.mp hk
  exact ⟨rfl, rfl⟩

theorem noSlash_reference (key : Text) : ∀ k ∈ referenceTokens key, NoSlash k := by
  intro k hk
  simp only [referenceTokens, List.mem_cons, List.not_mem_nil, or_false] at hk
  rcases hk with rfl | rfl | rfl | rfl
  all_goals exact ⟨rfl, rfl⟩

/-- A script that is an operand after an operator that is a word. -/
theorem parse_operator (hahead : Ahead t.toArray 0 (.word w false :: ks))
    (hw : w ∈ ["typeof", "delete"])
    (h : ∀ n, Reads t.toArray [openScript] (readUnary (grammarOf (n + 3)))
      (.word w false :: ks) (e, true) ls) (hend : EndsStatement ls []) (hks : ks ≠ []) :
    parseProgram t false = .ok (expressionProgram e) := by
  refine parse_expression hahead trivial fun n hn => ?_
  obtain ⟨n, rfl⟩ : ∃ m, n = m + 1 := ⟨n - 1, by
    have hpos := List.length_pos_iff.mpr hks
    omega⟩
  have hfacts : ∀ w ∈ ["typeof", "delete"], reservedWords.contains w = true ∧ w ≠ "yield" ∧
      w ≠ "async" := by decide
  obtain ⟨hreserved, hyield, hasync⟩ := hfacts w hw
  refine reads_statement_operator hw (reads_expressionStatement (n := n + 3) isPlain_openScript ?_ hend)
  exact reads_assignment (reads_arrowFollows_reserved hreserved) (by simp [isWord, headKind, hyield])
    (by simp [isWord, headKind, hasync]) (h n) hend.endsOperand

/-- The expression of a variable. -/
def variableTree (t : Text) : Expr := .name (Utf16.ofText t) 1

/-- A script that is a variable. -/
theorem parse_variable (hw : IsName t) (h : IsVariable (spelling t)) :
    parseProgram t false = .ok (expressionProgram (variableTree t)) := by
  refine parse_expression (ahead_last (isLastAs_name hw) (noSlash_word _)) trivial fun n _ => ?_
  have hend : EndsOperand [] := .inl rfl
  rw [variableTree, ← nameOf_spelling hw]
  refine reads_statement_name isPlain_openScript h.unreserved (h.ne (by decide)) (h.ne (by decide)) rfl
    (reads_expressionStatement (n := n + 2) isPlain_openScript ?_ .script)
  exact reads_assignment (reads_arrowFollows_name isPlain_openScript h.unreserved rfl)
    (h.not_word (by decide)) (h.not_word (by decide))
    (reads_unary h.startsOperand (h.reads isPlain_openScript) hend.stops) hend

/-- A script that asks for the type of a variable. -/
theorem parse_typeofVariable (hw : IsName t) (h : IsVariable (spelling t)) :
    parseProgram ("typeof " ++ t) false = .ok (expressionProgram (.typeOf (variableTree t))) := by
  have hstops : StopsOperand [] := .inl rfl
  refine parse_operator (ahead_typeof (isLastAs_name hw) (noSlash_word _)) (by decide) (fun n => ?_)
    .script (by simp)
  rw [variableTree, ← nameOf_spelling hw]
  have hoperand : Reads (List.toArray ("typeof " ++ t)) [openScript] (readUnary (grammarOf (n + 2)))
      [.word (spelling t) false] (.name (nameOf (spelling t)) 1, false) [] :=
    reads_unary h.startsOperand (h.reads isPlain_openScript) hstops
  exact reads_typeof isPlain_openScript (reads_power hoperand hstops 0)

/-- A script that refers to a key of the global object. -/
theorem parse_reference (key : Text) :
    parseProgram (reference key) false = .ok (expressionProgram (referenceTree key)) := by
  refine parse_expression (ahead_last (isLastAs_reference key) (noSlash_reference key)) trivial
    fun n _ => ?_
  have hend : EndsOperand [] := .inl rfl
  have hglobal := isVariable_global
  have hread := reads_reference (s := (reference key).toArray) (n := n) isPlain_openScript key hend.stops
  rw [List.append_nil] at hread
  refine reads_statement_name isPlain_openScript hglobal.unreserved (hglobal.ne (by decide))
    (hglobal.ne (by decide)) rfl (reads_expressionStatement (n := n + 2) isPlain_openScript ?_ .script)
  exact reads_assignment (reads_arrowFollows_name isPlain_openScript hglobal.unreserved rfl)
    (hglobal.not_word (by decide)) (hglobal.not_word (by decide))
    (reads_unsigned hglobal.startsOperand hread) hend

/-- A script that asks for the type of a key of the global object. -/
theorem parse_typeofReference (key : Text) :
    parseProgram ("typeof " ++ reference key) false =
      .ok (expressionProgram (.typeOf (referenceTree key))) := by
  have hstops : StopsOperand [] := .inl rfl
  refine parse_operator (ahead_typeof (isLastAs_reference key) (noSlash_reference key)) (by decide)
    (fun n => ?_) .script (by simp [referenceTokens])
  have hread := reads_reference (s := List.toArray ("typeof " ++ reference key)) (n := n)
    isPlain_openScript key hstops
  rw [List.append_nil] at hread
  have hoperand : Reads (List.toArray ("typeof " ++ reference key)) [openScript]
      (readUnary (grammarOf (n + 2))) (referenceTokens key) (referenceTree key, false) [] :=
    reads_unsigned isVariable_global.startsOperand hread
  exact reads_typeof isPlain_openScript (reads_power hoperand hstops 0)

/-- The text that deletes a key of the global object. -/
def deletionText (key : Text) : Text := "delete " ++ reference key ++ ";"

theorem ahead_deletion (key : Text) :
    Ahead (deletionText key).toArray 0
      (.word "delete" false :: (referenceTokens key ++ [.punct ";"])) := by
  have hstands : Stands (deletionText key).toArray 0 (Text.ofString "delete" ++
      CodePoint.ofChar ' ' :: (reference key ++ [CodePoint.ofChar ';'])) := by
    have hstart := stands_start (deletionText key)
    unfold deletionText at hstart ⊢
    simpa [Text.ofString] using hstart
  have hword : Scans (deletionText key).toArray 0 (.word "delete" false) 6 :=
    scans_letters (.here hstands) (by decide) (forall_of_all (by decide))
      (endsName_cons (by decide) (by decide))
  have hkey := streams_reference (.blank hstands.skip)
  have hafter := hstands.skip.tail.skip
  have hlast := scans_mark (.here hafter) (show ';' ∈ marks by decide)
  refine ⟨⟨_, .cons hword (by decide) (hkey.append (.single hlast (Nat.lt_succ_self _))),
    hafter.tail⟩, List.forall_mem_cons.mpr ⟨⟨rfl, rfl⟩, fun k hk => ?_⟩⟩
  rcases List.mem_append.mp hk with hk | hk
  · exact noSlash_reference key k hk
  · obtain rfl := List.mem_singleton.mp hk
    exact ⟨rfl, rfl⟩

/-- A script that deletes a key of the global object. -/
theorem parse_deletion (key : Text) :
    parseProgram (deletionText key) false =
      .ok (expressionProgram (.deletion (referenceTree key))) := by
  have hend : EndsStatement [.punct ";"] [] := .semicolon []
  refine parse_operator (ahead_deletion key) (by decide) (fun n => ?_) hend (by simp [referenceTokens])
  have hoperand : Reads (deletionText key).toArray [openScript] (readUnary (grammarOf (n + 2)))
      (referenceTokens key ++ [.punct ";"]) (referenceTree key, false) [.punct ";"] :=
    reads_unsigned isVariable_global.startsOperand
      (reads_reference isPlain_openScript key hend.endsOperand.stops)
  exact reads_deletion isPlain_openScript (reads_power hoperand hend.endsOperand.stops 0)

end ScriptHost.Proofs.ReferenceTrees
