import ScriptHost.Proofs.Bridge
import ScriptHost.Proofs.DataScripts
import ScriptHost.Proofs.HostImages
import ScriptHost.Proofs.ReferenceTrees

/-!
# The trees of rendered capabilities

A phrase is a text that is read as one expression wherever an operand stands.  The texts that
capabilities are rendered as are phrases: data, calls of the bridge, and lists and objects of phrases.
A phrase that is assigned to a key of the global object is a script of one expression.
-/

namespace ScriptHost.Proofs.RenderedTrees

open Script Read
open ScriptHost.Proofs.Bridge
open ScriptHost.Proofs.DataScripts
open ScriptHost.Proofs.DataTokens
open ScriptHost.Proofs.DataTrees
open ScriptHost.Proofs.ExpressionScripts
open ScriptHost.Proofs.HiddenGlobals (assignment)
open ScriptHost.Proofs.LookupTexts
open ScriptHost.Proofs.Operands
open ScriptHost.Proofs.Readers
open ScriptHost.Proofs.ReferenceTrees
open ScriptHost.Proofs.ScannedNames
open ScriptHost.Proofs.Scanning

variable {s : Array CodePoint} {fs : List OpenFunction} {ks ls : List TokenKind} {e : Expr}
  {G : Grammar} {n : Nat} {w : String} {t : Text}

/-! ## Calls of one argument -/

/-- The arguments of a call, one at a time. -/
def argumentStep (G : Grammar) : Read (Option (Element × Bool)) := do
  if ← at_ ")" then return none
  let item : Element ←
    if ← accept "..." then pure (.spread (← G.assignment true))
    else pure (.item (← G.assignment true))
  if ← at_ ")" then return some (item, false)
  expect ","
  return some (item, true)

theorem readArguments_eq (G : Grammar) :
    readArguments G = do
      next
      let items ← gather (argumentStep G)
      expect ")"
      return items := rfl

theorem reads_argument (hfs : IsPlain fs) (h : IsOperand s fs G ls e) :
    Reads s fs (readArguments G) (.punct "(" :: (ls ++ .punct ")" :: ks)) [.item e] ks := by
  have hend : EndsOperand (.punct ")" :: ks) := endsOperand_mark (by decide)
  have hstep : Reads s fs (argumentStep G) (ls ++ .punct ")" :: ks) (some (.item e, false))
      (.punct ")" :: ks) := by
    refine Reads.bind (h.starts _ ")" (by decide) ▸ reads_at ")") ?_
    refine (reads_accept_not (h.starts _ _ (by decide))).bind ?_
    refine (h.reads _ hend).bind ?_
    refine Reads.bind .pure ?_
    exact Reads.bind (reads_at ")") .pure
  have hitems : Reads s fs (gather (argumentStep G)) (ls ++ .punct ")" :: ks) [.item e]
      (.punct ")" :: ks) := Reads.get_bind fun r _ => hstep.bind .pure
  rw [readArguments_eq]
  exact (reads_next hfs).bind (hitems.bind ((reads_expect hfs ")").bind .pure))

/-- A call with one argument after an expression. -/
theorem reads_callLink {f : Expr} (hfs : IsPlain fs) (h : IsOperand s fs G ls e) :
    Reads s fs (readLink G true f) (.punct "(" :: (ls ++ .punct ")" :: ks))
      (some (.call f [.item e] false 1, false)) ks := by
  refine Reads.token_bind fun t hkind _ _ => ?_
  dsimp only
  rw [hkind]
  refine Reads.bind (a := .call f [.item e] false 1) ?_ .pure
  refine (reads_argument hfs h).bind (Reads.get_bind fun r hr => ?_)
  rw [hr.lastLine]
  exact .pure

theorem isOperand_variable (hfs : IsPlain fs) (h : IsVariable w) :
    IsOperand s fs (grammarOf (n + 1)) [.word w false] (.name (nameOf w) 1) := by
  refine ⟨fun _ _ _ => rfl, fun ls hend => ?_, fun _ => rfl⟩
  exact reads_assignment
    (reads_arrowFollows_name hfs h.unreserved (hend.not_mark (by decide))) (h.not_word (by decide))
    (h.not_word (by decide)) (reads_unary h.startsOperand (h.reads hfs) hend.stops) hend

/-- A call of a variable with one argument. -/
theorem isOperand_call (hfs : IsPlain fs) (h : IsVariable w)
    (he : IsOperand s fs (grammarOf (n + 1)) ls e) :
    IsOperand s fs (grammarOf (n + 2)) (.word w false :: .punct "(" :: (ls ++ [.punct ")"]))
      (.call (.name (nameOf w) 1) [.item e] false 1) := by
  refine ⟨fun _ _ _ => rfl, fun ms hend => ?_, fun _ => rfl⟩
  have hlinked : Reads s fs (readLinked (grammarOf (n + 1)))
      (.word w false :: .punct "(" :: (ls ++ .punct ")" :: ms))
      (.call (.name (nameOf w) 1) [.item e] false 1) ms := by
    refine Reads.get_bind fun r hr => ?_
    have hnew : isWord "new" (headKind (.word w false :: .punct "(" :: (ls ++ .punct ")" :: ms))) =
        false := h.startsOperand.not_word (by decide)
    refine Reads.bind (hnew ▸ reads_atKeyword "new") ?_
    refine (h.reads hfs).bind ?_
    obtain ⟨fuel, hfuel⟩ : ∃ fuel, r.source.size = fuel + 1 := by
      have hlength := hr.length_le
      rw [← hr.source] at hlength
      simp only [List.length_cons] at hlength
      exact ⟨r.source.size - 1, by omega⟩
    rw [hfuel]
    exact (reads_callLink hfs he).bind (reads_links_none hend.stops _)
  have hcall : Reads s fs (readAssignment (grammarOf (n + 1)) true)
      (.word w false :: .punct "(" :: (ls ++ .punct ")" :: ms))
      (.call (.name (nameOf w) 1) [.item e] false 1) ms :=
    reads_assignment (reads_arrowFollows_name hfs h.unreserved rfl) (h.not_word (by decide))
      (h.not_word (by decide)) (reads_unsigned h.startsOperand (reads_postfixed hlinked hend.stops)) hend
  rw [List.cons_append, List.cons_append, List.append_assoc]
  exact hcall

/-! ## Names -/

theorem isScannedAs_name (hw : IsName t) : IsScannedAs t [.word (spelling t) false] := by
  intro s i j rest h hrest
  have hpos := List.length_pos_iff.mpr hw.nonempty
  have hle := h.le
  exact .single (scans_name h hw (endsName_closes hrest)) (by omega)

/-- A name with another one in parentheses. -/
theorem isScannedAs_call {u : Text} (ht : IsName t) (hu : IsName u) :
    IsScannedAs (t ++ "(" ++ u ++ ")")
      [.word (spelling t) false, .punct "(", .word (spelling u) false, .punct ")"] := by
  intro s i j rest h hrest
  have hopen : Leads s i j (t ++ CodePoint.ofChar '(' :: (u ++ CodePoint.ofChar ')' :: rest)) := by
    simpa [Text.ofString] using h
  have hpos := List.length_pos_iff.mpr ht.nonempty
  have hle := h.le
  have hparen : Stands s (j + t.length) (CodePoint.ofChar '(' :: (u ++ CodePoint.ofChar ')' :: rest)) :=
    hopen.stands.skip
  have hargument := isScannedAs_name hu s _ _ _ (.here hparen.tail) (closes_mark (by decide))
  have hclose := hparen.tail.skip
  have hfirst : Scans s i (.word (spelling t) false) (j + t.length) :=
    scans_name hopen ht (endsName_cons (by decide) (by decide))
  have hlast := Streams.single (scans_mark (.here hclose) (show ')' ∈ marks by decide))
    (Nat.lt_succ_self _)
  have hstop : j + (t ++ "(" ++ u ++ ")").length = j + t.length + 1 + u.length + 1 := by
    simp [Text.ofString]
    omega
  rw [hstop]
  exact .cons hfirst (by omega) (.cons (scans_mark (.here hparen) (by decide)) (Nat.lt_succ_self _)
    (hargument.append hlast))

/-- A name that starts with an underscore is a variable. -/
theorem isVariable_underscore {cs : List Char} : IsVariable (String.ofList ('_' :: cs)) := by
  have hne : ∀ v ∈ reservedWords ++ ["async", "arguments", "eval", "yield", "await", "let"],
      v.toList.head? ≠ some '_' := by decide
  have hother : String.ofList ('_' :: cs) ∉
      reservedWords ++ ["async", "arguments", "eval", "yield", "await", "let"] := fun hmem =>
    hne _ hmem (by rw [String.toList_ofList]; rfl)
  obtain ⟨hreserved, hplain⟩ := not_or.mp (mt List.mem_append.mpr hother)
  exact ⟨by simpa using hreserved, hplain⟩

/-- A name of the runtime: it starts with two underscores. -/
structure IsInternal (t : Text) : Prop where
  name : IsName t
  starts : t.head? = some (CodePoint.ofChar '_')

theorem IsInternal.isVariable (h : IsInternal t) : IsVariable (spelling t) := by
  obtain ⟨-, hstarts⟩ := h
  cases t with
  | nil => cases hstarts
  | cons c t =>
      cases hstarts
      exact isVariable_underscore

theorem isInternal_bridge : IsInternal Interpreter.bridgeName := by
  refine ⟨⟨?_, ?_, ?_⟩, ?_⟩
  all_goals decide

theorem isInternal_hidden (id : Nat) : IsInternal (Registry.hiddenName id) := by
  have hlead : ∀ c ∈ Registry.hiddenPrefix, isPlainPart c = true := by decide
  refine ⟨⟨?_, fun c hc => ?_, ?_⟩, rfl⟩
  · rintro c ⟨⟩
    decide
  · rcases List.mem_append.mp hc with hc | hc
    · exact hlead c hc
    · unfold isPlainPart
      rw [HiddenGlobals.isDigit_ofNat c hc, Bool.or_true]
  · rintro ⟨⟩

/-! ## Phrases -/

/-- A text that is read as one expression wherever an operand stands. -/
structure Phrase where
  text : Text
  tokens : List TokenKind
  tree : Expr
  scanned : IsScannedAs text tokens
  balanced : Balanced tokens
  operand : ∀ {s fs n}, IsPlain fs → tokens.length ≤ n →
    IsOperand s fs (grammarOf (n + 1)) tokens tree

section Joined

variable {β : Type} {f : β → Text} {g : β → List TokenKind} {xs : List β} {x : β}

theorem isScannedAs_parts (h : ∀ x ∈ xs, IsScannedAs (f x) (g x)) (hne : xs.map f ≠ []) :
    IsScannedAs (Text.joinWith ", " (xs.map f)) (joined g xs) := by
  induction xs with
  | nil => exact absurd rfl hne
  | cons x rest ih =>
      obtain ⟨hx, hrest⟩ := List.forall_mem_cons.mp h
      refine isScannedAs_joined hx (by simp) (fun hnil => ?_) fun hmore => ih hrest hmore
      obtain rfl := List.map_eq_nil_iff.mp hnil
      rfl

/-- The parts of a list or an object. -/
theorem isScannedAs_between {o c : Char} (ho : o ∈ marks) (hc : c = ']' ∨ c = '\x7d')
    (h : ∀ x ∈ xs, IsScannedAs (f x) (g x)) :
    IsScannedAs (CodePoint.ofChar o :: (Text.joinWith ", " (xs.map f) ++ [CodePoint.ofChar c]))
      (.punct (String.singleton o) :: (joined g xs ++ [.punct (String.singleton c)])) := by
  refine isScannedAs_bracketed ho hc (fun hnil => ?_) (isScannedAs_parts h)
  obtain rfl := List.map_eq_nil_iff.mp hnil
  rfl

theorem balanced_joined (h : ∀ x ∈ xs, Balanced (g x)) : Balanced (joined g xs) := by
  induction xs with
  | nil => exact .nil
  | cons x rest ih =>
      obtain ⟨hx, hrest⟩ := List.forall_mem_cons.mp h
      exact hx.append ((balanced_comma rest).append (ih hrest))

theorem length_le_joined (hx : x ∈ xs) : (g x).length ≤ (joined g xs).length := by
  induction xs with
  | nil => cases hx
  | cons y rest ih =>
      unfold joined
      rw [List.length_append, List.length_append]
      rcases List.mem_cons.mp hx with rfl | hx
      · omega
      · have hrest := ih hx
        omega

end Joined

namespace Phrase

/-- Data. -/
def datum (v : HostValue) (t : Text) (hv : IsDatum v) (ht : Json.write Json.wire v = .ok t) :
    Phrase where
  text := t
  tokens := DataTokens.tokens v
  tree := DataTrees.tree v
  scanned := isScannedAs_written v ht
  balanced := balanced_tokens v
  operand hfs hn := isOperand_datum hv fun _ hend => reads_datum hfs hv hn hend

/-- Phrases in brackets. -/
def list (ps : List Phrase) : Phrase where
  text := Json.bracketed "[" "]" (ps.map text)
  tokens := .punct "[" :: (joined tokens ps ++ [TokenKind.punct "]"])
  tree := .array (ps.map fun p => .item p.tree)
  scanned := isScannedAs_between (o := '[') (c := ']') (f := text) (g := tokens)
    (by decide) (.inl rfl) fun p _ => p.scanned
  balanced := .nested (by decide) (balanced_joined fun p _ => p.balanced) .nil
  operand {s fs n} hfs hn := by
    rw [List.length_cons, List.length_append] at hn
    obtain ⟨n, rfl⟩ : ∃ m, n = m + 1 := ⟨n - 1, by omega⟩
    refine ⟨fun _ p hp => ?_, fun ls hend => ?_, fun _ => rfl⟩
    · exact beq_eq_false_iff_ne.mpr fun heq => hp (by simp [← heq])
    · have hitems : ∀ p ∈ ps, IsOperand s fs (grammarOf (n + 1)) p.tokens p.tree := by
        intro p hp
        have hlength := length_le_joined (g := tokens) hp
        exact p.operand hfs (by omega)
      rw [List.cons_append, List.append_assoc]
      exact reads_listOperand hfs (balanced_joined fun p _ => p.balanced) hend (reads_array hfs hitems)

/-- A call of the bridge with a hidden global. -/
def bridging (id : Nat) : Phrase where
  text := Interpreter.bridgeName ++ "(" ++ Registry.hiddenName id ++ ")"
  tokens := [.word (spelling Interpreter.bridgeName) false, .punct "(",
    .word (spelling (Registry.hiddenName id)) false, .punct ")"]
  tree := Bridge.bridging id 1
  scanned := isScannedAs_call isInternal_bridge.name (isInternal_hidden id).name
  balanced := .flat (k := .word _ _) trivial
    (.nested (p := "(") (q := ")") (by decide) (.flat (k := .word _ _) trivial .nil) .nil)
  operand {s fs n} hfs hn := by
    obtain ⟨n, rfl⟩ : ∃ m, n = m + 1 := ⟨n - 1, by simp at hn; omega⟩
    have hcall := isOperand_call (n := n) hfs isInternal_bridge.isVariable
      (isOperand_variable (s := s) hfs (isInternal_hidden id).isVariable)
    rw [nameOf_spelling isInternal_bridge.name, nameOf_spelling (isInternal_hidden id).name] at hcall
    exact hcall

/-- Not more than one key sets the prototype of an object. -/
theorem prototypes_le {ms : List (Text × Phrase)} (hkeys : (ms.map (·.1)).Nodup) :
    ((ms.map fun m => entryTree (Utf16.ofText m.1) m.2.tree).filter isPrototype).length ≤ 1 := by
  have hcount : (ms.map fun m => entryTree (Utf16.ofText m.1) m.2.tree).countP isPrototype ≤
      (ms.map (·.1)).count prototypeKey := by
    rw [List.countP_map, List.count_eq_countP, List.countP_map]
    refine List.countP_mono_left fun m _ hproto => ?_
    have hkey := (isPrototype_entryTree _ _).symm.trans hproto
    exact beq_iff_eq.mpr (Option.some.inj (text_of_prototype (k := .str m.1) hkey rfl))
  rw [← List.countP_eq_length_filter]
  exact Nat.le_trans hcount (List.nodup_iff_count.mp hkeys _)

theorem balanced_member (m : Text × Phrase) :
    Balanced (memberPart (Utf16.ofText m.1) m.2.tokens) :=
  .flat (k := .string _) trivial (.flat (by simp [IsFlat]) m.2.balanced)

/-- Phrases with keys, between braces. -/
def mapping (ms : List (Text × Phrase)) (hkeys : (ms.map (·.1)).Nodup) : Phrase where
  text := Json.bracketed "\x7b" "\x7d" (ms.map fun m => Interpreter.renderedMember m.1 m.2.text)
  tokens := .punct "\x7b" ::
    (joined (fun m => memberPart (Utf16.ofText m.1) m.2.tokens) ms ++ [TokenKind.punct "\x7d"])
  tree := .object (ms.map fun m => entryTree (Utf16.ofText m.1) m.2.tree)
  scanned := isScannedAs_between (o := '\x7b') (c := '\x7d')
    (f := fun m : Text × Phrase => Interpreter.renderedMember m.1 m.2.text)
    (g := fun m => memberPart (Utf16.ofText m.1) m.2.tokens)
    (by decide) (.inr rfl) fun m _ => isScannedAs_entry m.2.scanned
  balanced := .nested (by decide) (balanced_joined fun m _ => balanced_member m) .nil
  operand {s fs n} hfs hn := by
    rw [List.length_cons, List.length_append] at hn
    obtain ⟨n, rfl⟩ : ∃ m, n = m + 1 := ⟨n - 1, by omega⟩
    refine ⟨fun _ p hp => ?_, fun ls hend => ?_, fun _ => rfl⟩
    · exact beq_eq_false_iff_ne.mpr fun heq => hp (by simp [← heq])
    · have hentries : ∀ m ∈ ms, IsOperand s fs (grammarOf (n + 1)) m.2.tokens m.2.tree := by
        intro m hm
        have hlength := length_le_joined (g := fun m => memberPart (Utf16.ofText m.1) m.2.tokens) hm
        have hpart : (memberPart (Utf16.ofText m.1) m.2.tokens).length = m.2.tokens.length + 2 := rfl
        exact m.2.operand hfs (by omega)
      rw [List.cons_append, List.append_assoc]
      exact reads_objectOperand hfs
        (balanced_joined fun m _ => balanced_member m) hend
        (reads_object hfs (prototypes_le hkeys) hentries)

end Phrase

/-! ## Phrases as scripts -/

/-- A phrase in parentheses is a script of one expression. -/
theorem Phrase.parse (p : Phrase) :
    parseProgram (parenthesized p.text) false = .ok (expressionProgram p.tree) :=
  parse_parenthesized p.scanned p.balanced fun _ hn =>
    (p.operand isPlain_openScript hn).reads _ (endsOperand_mark (by decide))

/-- The expression that assigns a value to a key of the global object. -/
def assignmentTree (key : Text) (e : Expr) : Expr := .assign (referenceTree key) e

theorem reads_assigned (hfs : IsPlain fs) (key : Text)
    (h : Reads s fs (readAssignment (grammarOf (n + 1)) true) ks e ls) :
    Reads s fs (readAssignment (grammarOf (n + 2)) true)
      (referenceTokens key ++ .punct "=" :: ks) (assignmentTree key e) ls := by
  have hglobal := isVariable_global
  have hstops : StopsOperand (.punct "=" :: ks) := .inr ⟨"=", by decide, rfl⟩
  have hreference : Reads s fs (readUnary (grammarOf (n + 2)))
      (referenceTokens key ++ .punct "=" :: ks) (referenceTree key, false) (.punct "=" :: ks) :=
    reads_unsigned hglobal.startsOperand (reads_reference hfs key hstops)
  refine Reads.token_bind fun t hkind _ _ => ?_
  refine reads_current.bind ?_
  rw [if_neg (by simp [isKeyword_eq hkind, referenceTokens, headKind, isWord])]
  refine (reads_arrowFollows_name hfs hglobal.unreserved rfl).bind ?_
  refine (reads_asyncArrowFollows_not rfl).bind ?_
  refine (reads_conditional hreference hstops).bind ?_
  refine Reads.token_bind fun t hkind _ _ => ?_
  rw [hkind]
  refine (reads_next hfs).bind ?_
  exact Reads.bind .pure (h.bind .pure)

theorem noSlash_assignment (key : Text) (hks : Balanced ks) :
    ∀ k ∈ referenceTokens key ++ .punct "=" :: (ks ++ [.punct ";"]), NoSlash k := by
  intro k hk
  rcases List.mem_append.mp hk with hk | hk
  · exact noSlash_reference key k hk
  · rcases List.mem_cons.mp hk with rfl | hk
    · exact ⟨rfl, rfl⟩
    · rcases List.mem_append.mp hk with hk | hk
      · exact noSlash_balanced hks k hk
      · obtain rfl := List.mem_singleton.mp hk
        exact ⟨rfl, rfl⟩

/-- The tokens of an assignment stand in the text of the script. -/
theorem Phrase.ahead_assignment (p : Phrase) (key : Text) :
    Ahead (assignment key p.text).toArray 0
      (referenceTokens key ++ .punct "=" :: (p.tokens ++ [.punct ";"])) := by
  have hstands : Stands (assignment key p.text).toArray 0 (reference key ++ (CodePoint.ofChar ' ' ::
      CodePoint.ofChar '=' :: CodePoint.ofChar ' ' :: (p.text ++ [CodePoint.ofChar ';']))) := by
    have hstart := stands_start (assignment key p.text)
    rw [(assigns_assignment key p.text).text] at hstart ⊢
    simpa [Text.ofString] using hstart
  have htarget := streams_reference (.here hstands)
  have hafter := hstands.skip
  have hequals := scans_equals (.blank hafter) (by decide) (by decide)
  have hvalue := hafter.tail.tail
  have hstreams := p.scanned _ _ _ _ (.blank hvalue) (closes_mark (by decide))
  have hlast := scans_mark (.here hvalue.tail.skip) (show ';' ∈ marks by decide)
  refine ⟨⟨_, htarget.append (.cons hequals (by omega) (hstreams.append (.single hlast
    (Nat.lt_succ_self _)))), hvalue.tail.skip.tail⟩, noSlash_assignment key p.balanced⟩

/-- A phrase that is assigned to a key of the global object is a script of one expression. -/
theorem Phrase.parse_assignment (p : Phrase) (key : Text) :
    parseProgram (assignment key p.text) false =
      .ok (expressionProgram (assignmentTree key p.tree)) := by
  refine parse_expression (p.ahead_assignment key) trivial fun n hn => ?_
  have hlength : p.tokens.length ≤ n + 1 := by
    simp [List.append_eq] at hn
    omega
  have hend : EndsStatement [.punct ";"] [] := .semicolon []
  have hglobal := isVariable_global
  have hphrase := (p.operand (s := (assignment key p.text).toArray) isPlain_openScript hlength).reads
    [.punct ";"] hend.endsOperand
  refine reads_statement_name isPlain_openScript hglobal.unreserved (hglobal.ne (by decide))
    (hglobal.ne (by decide)) rfl (reads_expressionStatement (n := n + 2) isPlain_openScript ?_ hend)
  exact reads_assigned isPlain_openScript key hphrase

end ScriptHost.Proofs.RenderedTrees
