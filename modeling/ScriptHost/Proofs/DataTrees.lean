import ScriptHost.Proofs.ExpressionScripts

/-!
# The trees of data

A script that is data in parentheses is read as one expression: literals, lists and objects as the
data has them.
-/

namespace ScriptHost.Proofs.DataTrees

open Script Read Json
open ScriptHost.Proofs.DataTokens
open ScriptHost.Proofs.ExpressionScripts
open ScriptHost.Proofs.Numerals
open ScriptHost.Proofs.Operands
open ScriptHost.Proofs.Readers
open ScriptHost.Proofs.ScannedStrings
open ScriptHost.Proofs.Scanning (forall_of_all)

variable {s : Array CodePoint} {fs : List OpenFunction} {ks ls : List TokenKind} {k : TokenKind}
  {e : Expr} {t : Token} {G : Grammar} {v : HostValue} {n : Nat}

/-! ## Data -/

/-- Plain data as the host holds it: the keys of a dictionary are texts, and no key stands twice. -/
inductive IsDatum : HostValue → Prop
  | none : IsDatum .none
  | bool (b : Bool) : IsDatum (.bool b)
  | int (i : Int) : IsDatum (.int i)
  | intMember (i : Int) : IsDatum (.intMember i)
  | float (x : Float) : IsDatum (.float x)
  | str (t : Text) : IsDatum (.str t)
  | strMember (t : Text) : IsDatum (.strMember t)
  | list {xs : List HostValue} (h : ∀ v ∈ xs, IsDatum v) : IsDatum (.list xs)
  | dict {es : List (HostValue × HostValue)} (hkeys : (es.map fun e => e.1.text?).Nodup)
    (htexts : ∀ e ∈ es, e.1.text?.isSome = true) (h : ∀ e ∈ es, IsDatum e.2) : IsDatum (.dict es)

mutual

/-- No float of the data is infinite or no number. -/
def IsFinite : HostValue → Prop
  | .float x => ∃ negative significand exponent,
    Binary.Parts.ofFloat x = .finite negative significand exponent
  | .list xs | .tuple xs => ItemsFinite xs
  | .dict es => EntriesFinite es
  | _ => True

/-- No float of the items is infinite or no number. -/
def ItemsFinite : List HostValue → Prop
  | [] => True
  | v :: rest => IsFinite v ∧ ItemsFinite rest

/-- No float of the values of the entries is infinite or no number. -/
def EntriesFinite : List (HostValue × HostValue) → Prop
  | [] => True
  | (_, v) :: rest => IsFinite v ∧ EntriesFinite rest

end

/-- An expression after a sign. -/
def signed (negative : Bool) (e : Expr) : Expr := if negative then .unary .negate e else e

/-- The expression of a float. -/
def floatTree : Binary.Parts → Expr
  | .nan => .name (nameOf "NaN") 1
  | .infinite negative => signed negative (.name (nameOf "Infinity") 1)
  | .finite negative significand exponent =>
    signed negative (.literal (magnitude significand exponent).value)

/-- The member of a key and a value. -/
def entryTree (k : Utf16) (e : Expr) : Member :=
  if (PropertyKey.name k).isNamed "__proto__" then .prototype e else .value (.fixed (.name k)) e

mutual

/-- The expression of a value of plain data. -/
def tree : HostValue → Expr
  | .none => .literal .null
  | .bool b => .literal (.bool b)
  | .int i | .intMember i => signed (i < 0) (.literal (.ofInt i.natAbs))
  | .float x => floatTree (Binary.Parts.ofFloat x)
  | .str t | .strMember t => .literal (.string (Utf16.ofText t))
  | .list xs => .array (itemTrees xs)
  | .dict es => .object (entryTrees es)
  | _ => .literal .undefined

/-- The elements of the items of a list. -/
def itemTrees : List HostValue → List Element
  | [] => []
  | v :: rest => .item (tree v) :: itemTrees rest

/-- The members of the entries of a dictionary. -/
def entryTrees : List (HostValue × HostValue) → List Member
  | [] => []
  | (k, v) :: rest => entryTree (keyString k) (tree v) :: entryTrees rest

end

/-! ## Brackets of data -/

theorem balanced_flat (hk : IsFlat k) : Balanced [k] := .flat hk .nil

theorem balanced_sign (negative : Bool) : Balanced (signTokens negative) := by
  cases negative with
  | false => exact .nil
  | true => exact balanced_flat (by simp [IsFlat])

theorem balanced_comma {α : Type} (rest : List α) : Balanced (comma rest) := by
  unfold comma
  split
  · exact .nil
  · exact balanced_flat (by simp [IsFlat])

theorem balanced_float (x : Binary.Parts) : Balanced (floatTokens x) := by
  cases x with
  | nan => exact balanced_flat trivial
  | infinite negative => exact (balanced_sign negative).append (balanced_flat trivial)
  | finite negative significand exponent =>
      exact (balanced_sign negative).append (balanced_flat trivial)

mutual

theorem balanced_tokens : ∀ v : HostValue, Balanced (tokens v)
  | .none => balanced_flat trivial
  | .bool _ => balanced_flat trivial
  | .int _ => (balanced_sign _).append (balanced_flat trivial)
  | .intMember _ => (balanced_sign _).append (balanced_flat trivial)
  | .float _ => balanced_float _
  | .str _ => balanced_flat trivial
  | .strMember _ => balanced_flat trivial
  | .list xs => .nested (by decide) (balanced_items xs) .nil
  | .tuple xs => .nested (by decide) (balanced_items xs) .nil
  | .dict es => .nested (by decide) (balanced_entries es) .nil
  | .member _ | .enumeration _ | .mappingView _ | .set _ | .bytes _ | .complex _ _ | .record _
  | .recordType _ | .object _ _ _ _ | .classObject _ _ _ _ | .function _ _ => .nil

theorem balanced_items : ∀ xs : List HostValue, Balanced (itemTokens xs)
  | [] => .nil
  | v :: rest => (balanced_tokens v).append ((balanced_comma rest).append (balanced_items rest))

theorem balanced_entries : ∀ es : List (HostValue × HostValue), Balanced (entryTokens es)
  | [] => .nil
  | (_, v) :: rest =>
    .flat trivial (.flat (by simp [IsFlat])
      ((balanced_tokens v).append ((balanced_comma rest).append (balanced_entries rest))))

end

/-! ## Literals and names -/

theorem reads_number (hfs : IsPlain fs) (v : Value) :
    Reads s fs (readPrimary G) (.number v :: ks) (.literal v) ks := by
  refine Reads.token_bind fun t hkind _ _ => ?_
  rw [hkind]
  exact (reads_next hfs).bind .pure

theorem reads_string (hfs : IsPlain fs) (v : Utf16) :
    Reads s fs (readPrimary G) (.string v :: ks) (.literal (.string v)) ks := by
  refine Reads.token_bind fun t hkind _ _ => ?_
  rw [hkind]
  exact (reads_next hfs).bind .pure

/-- The words that stand for constants. -/
def constants : List (String × Value) :=
  [("null", .null), ("true", .bool true), ("false", .bool false)]

theorem reads_constant (hfs : IsPlain fs) {w : String} {v : Value} (h : (w, v) ∈ constants) :
    Reads s fs (readPrimary G) (.word w false :: ks) (.literal v) ks := by
  refine Reads.token_bind fun t hkind _ _ => ?_
  rw [hkind]
  simp only [constants, List.mem_cons, List.not_mem_nil, or_false, Prod.mk.injEq] at h
  rcases h with ⟨rfl, rfl⟩ | ⟨rfl, rfl⟩ | ⟨rfl, rfl⟩
  all_goals
    exact (reads_isReserved (by decide)).bind ((reads_next hfs).bind .pure)

/-- A name that is read as a variable. -/
theorem reads_name (hfs : IsPlain fs) {w : String} (hreserved : reservedWords.contains w = false)
    (hw : w ∉ ["async", "arguments", "eval"]) :
    Reads s fs (readPrimary G) (.word w false :: ks) (.name (nameOf w) 1) ks := by
  refine Reads.token_bind fun t hkind _ _ => ?_
  rw [hkind]
  simp only [List.mem_cons, List.not_mem_nil, or_false, not_or] at hw
  obtain ⟨hasync, harguments, heval⟩ := hw
  refine (reads_isReserved_not hfs hreserved).bind ?_
  refine reads_refuseEscapedKeyword.bind ?_
  rw [if_neg (by simp [hasync])]
  refine (reads_next hfs).bind ?_
  have hnote : Reads s fs (noteName w) ks () ks := by
    unfold noteName
    rw [if_neg (by simp [harguments, heval])]
    exact .pure
  refine hnote.bind ?_
  refine Reads.get_bind fun r hr => ?_
  rw [hr.lastLine]
  exact .pure

/-! ## Operands of data -/

/-- An operand, perhaps after a sign. -/
theorem reads_signed (hfs : IsPlain fs) (negative : Bool) (hstart : StartsOperand k)
    (harrow : Reads s fs arrowFollows (k :: ks) false (k :: ks))
    (hprimary : ∀ G, Reads s fs (readPrimary G) (k :: ks) e ks) (hend : EndsOperand ks)
    (hn : 0 < n) :
    Reads s fs (readAssignment (grammarOf n) true) (signTokens negative ++ k :: ks)
      (signed negative e) ks := by
  obtain ⟨n, rfl⟩ : ∃ m, n = m + 1 := ⟨n - 1, by omega⟩
  have hoperand (G : Grammar) : Reads s fs (readUnary G) (k :: ks) (e, false) ks :=
    reads_unary hstart (hprimary G) hend.stops
  cases negative with
  | false =>
      exact reads_assignment harrow (hstart.not_word (by decide)) (hstart.not_word (by decide))
        (hoperand _) hend
  | true =>
      have hnegated := reads_negated (G := grammarOf (n + 1)) hfs
        (reads_power (hoperand (grammarOf n)) hend.stops 0)
      exact reads_assignment (reads_arrowFollows_other rfl rfl) rfl rfl hnegated hend

/-- A bracketed part that no assignment follows is not read as a pattern. -/
theorem assignsPattern_bind {α : Type} {a : α} {p q : String} {inner : List TokenKind}
    {f : Bool → Read α} (hfs : IsPlain fs) (hb : (p, q) ∈ brackets) (hinner : Balanced inner)
    (hend : EndsOperand ks)
    (h : Reads s fs (f false) (.punct p :: (inner ++ .punct q :: ks)) a ls) :
    Reads s fs (assignsPattern >>= f) (.punct p :: (inner ++ .punct q :: ks)) a ls := by
  have hassigns : Reads s fs assignsPattern (.punct p :: (inner ++ .punct q :: ks)) false
      (.punct p :: (inner ++ .punct q :: ks)) := by
    refine skipped_bind hfs hb hinner fun x hx => ?_
    rw [isPunct_eq hx, hend.not_mark (by decide)]
    exact .pure
  exact hassigns.bind h

theorem reads_listOperand (hfs : IsPlain fs) {inner : List TokenKind} (hinner : Balanced inner)
    (hend : EndsOperand ks)
    (h : Reads s fs (readArray G) (.punct "[" :: (inner ++ .punct "]" :: ks)) e ks) :
    Reads s fs (readAssignment G true) (.punct "[" :: (inner ++ .punct "]" :: ks)) e ks := by
  have hprimary : Reads s fs (readPrimary G) (.punct "[" :: (inner ++ .punct "]" :: ks)) e ks := by
    refine Reads.token_bind fun t hkind _ _ => ?_
    rw [hkind]
    exact assignsPattern_bind hfs (by decide) hinner hend h
  have hstart : StartsOperand (.punct "[") := by simp [StartsOperand]
  exact reads_assignment (reads_arrowFollows_other rfl rfl) rfl rfl
    (reads_unary hstart hprimary hend.stops) hend

theorem reads_objectOperand (hfs : IsPlain fs) {inner : List TokenKind} (hinner : Balanced inner)
    (hend : EndsOperand ks)
    (h : Reads s fs (readObject G) (.punct "\x7b" :: (inner ++ .punct "\x7d" :: ks)) e ks) :
    Reads s fs (readAssignment G true) (.punct "\x7b" :: (inner ++ .punct "\x7d" :: ks)) e ks := by
  have hprimary : Reads s fs (readPrimary G)
      (.punct "\x7b" :: (inner ++ .punct "\x7d" :: ks)) e ks := by
    refine Reads.token_bind fun t hkind _ _ => ?_
    rw [hkind]
    exact assignsPattern_bind hfs (by decide) hinner hend h
  have hstart : StartsOperand (.punct "\x7b") := by simp [StartsOperand]
  exact reads_assignment (reads_arrowFollows_other rfl rfl) rfl rfl
    (reads_unary hstart hprimary hend.stops) hend

/-! ## Items and members -/

section Gathering

variable {α β : Type} {toks : β → List TokenKind} {res : β → α} {step : Read (Option (α × Bool))}
  {close : TokenKind} {xs : List β}

/-- The tokens of items with commas between them. -/
def joined (toks : β → List TokenKind) : List β → List TokenKind
  | [] => []
  | x :: rest => toks x ++ (comma rest ++ joined toks rest)

theorem length_joined (toks : β → List TokenKind) (xs : List β) :
    xs.length ≤ (joined toks xs).length + 1 := by
  induction xs with
  | nil => exact Nat.zero_le _
  | cons x rest ih =>
      cases rest with
      | nil => exact Nat.le_add_left _ _
      | cons y rest =>
          have hcomma : (comma (y :: rest)).length = 1 := rfl
          rw [joined, List.length_append, List.length_append, hcomma, List.length_cons]
          omega

/-- Reading an item tells whether a comma follows, and takes it. -/
def TakesItem (s : Array CodePoint) (fs : List OpenFunction) (step : Read (Option (α × Bool)))
    (ks : List TokenKind) (a : α) (close : TokenKind) (rest : List TokenKind) : Prop :=
  (∀ ls, Reads s fs step (ks ++ .punct "," :: ls) (some (a, true)) ls) ∧
    Reads s fs step (ks ++ close :: rest) (some (a, false)) (close :: rest)

theorem reads_gatherFor (hnone : Reads s fs step (close :: ks) none (close :: ks))
    (hstep : ∀ x ∈ xs, TakesItem s fs step (toks x) (res x) close ks) (acc : List α)
    (hn : xs.length < n) :
    Reads s fs (gatherFor step n acc) (joined toks xs ++ close :: ks) (acc.reverse ++ xs.map res)
      (close :: ks) := by
  induction xs generalizing n acc with
  | nil =>
      obtain ⟨n, rfl⟩ : ∃ m, n = m + 1 := ⟨n - 1, by simp at hn; omega⟩
      rw [List.map_nil, List.append_nil]
      exact hnone.bind .pure
  | cons x rest ih =>
      obtain ⟨n, rfl⟩ : ∃ m, n = m + 1 := ⟨n - 1, by simp at hn; omega⟩
      obtain ⟨hmore, hlast⟩ := hstep x List.mem_cons_self
      have hresult : acc.reverse ++ (x :: rest).map res = (res x :: acc).reverse ++ rest.map res := by
        simp
      rw [hresult]
      cases rest with
      | nil =>
          rw [List.map_nil, List.append_nil]
          have htokens : joined toks [x] ++ close :: ks = toks x ++ close :: ks := by
            simp [joined, comma]
          rw [htokens]
          exact hlast.bind .pure
      | cons y rest =>
          have htokens : joined toks (x :: y :: rest) ++ close :: ks =
              toks x ++ .punct "," :: (joined toks (y :: rest) ++ close :: ks) := by
            simp [joined, comma]
          rw [htokens]
          exact (hmore _).bind (ih (fun z hz => hstep z (List.mem_cons_of_mem _ hz)) _
            (by simp at hn ⊢; omega))

/-- Items up to a closing bracket. -/
theorem reads_gather (hnone : Reads s fs step (close :: ks) none (close :: ks))
    (hstep : ∀ x ∈ xs, TakesItem s fs step (toks x) (res x) close ks) :
    Reads s fs (gather step) (joined toks xs ++ close :: ks) (xs.map res) (close :: ks) := by
  refine Reads.get_bind fun r hr => ?_
  have hbound := hr.length_le
  have hjoined := length_joined toks xs
  rw [List.length_append, List.length_cons] at hbound
  rw [hr.source]
  exact reads_gatherFor hnone hstep [] (by omega)

end Gathering

/-! ## Lists -/

/-- A kind of token that a value of data starts with. -/
def StartsDatum : TokenKind → Prop
  | .number _ | .string _ => True
  | .word w escaped => w ∈ dataWords ∧ escaped = false
  | .punct p => p ∈ ["-", "[", "\x7b"]
  | _ => False

theorem StartsDatum.not_mark (h : StartsDatum k) {p : String} (hp : p ∉ ["-", "[", "\x7b"]) :
    isMark p k = false := by
  cases k with
  | punct q =>
      refine beq_eq_false_iff_ne.mpr ?_
      rintro rfl
      exact hp h
  | _ => rfl

theorem startsDatum_signed (negative : Bool) (hk : StartsDatum k) :
    StartsDatum (headKind (signTokens negative ++ k :: ks)) := by
  cases negative with
  | false => exact hk
  | true => simp [signTokens, headKind, StartsDatum]

/-- A value of plain data starts with a token of its own. -/
theorem startsDatum (hv : IsDatum v) (ks : List TokenKind) :
    StartsDatum (headKind (tokens v ++ ks)) := by
  cases hv with
  | none => exact ⟨by decide, rfl⟩
  | bool b =>
      cases b with
      | false => exact ⟨by decide, rfl⟩
      | true => exact ⟨by decide, rfl⟩
  | int i =>
      unfold tokens
      rw [List.append_assoc]
      exact startsDatum_signed _ trivial
  | intMember i =>
      unfold tokens
      rw [List.append_assoc]
      exact startsDatum_signed _ trivial
  | float x =>
      unfold tokens
      cases Binary.Parts.ofFloat x with
      | nan => exact ⟨by decide, rfl⟩
      | infinite negative =>
          unfold floatTokens
          rw [List.append_assoc]
          exact startsDatum_signed _ ⟨by decide, rfl⟩
      | finite negative significand exponent =>
          unfold floatTokens
          rw [List.append_assoc]
          exact startsDatum_signed _ trivial
  | str t => exact trivial
  | strMember t => exact trivial
  | list h => simp [tokens, headKind, StartsDatum]
  | dict _ _ h => simp [tokens, headKind, StartsDatum]

/-- The items of an array, one at a time. -/
def arrayStep (G : Grammar) : Read (Option (Element × Bool)) := do
  if ← at_ "]" then return none
  if ← accept "," then return some (.hole, true)
  let item : Element ←
    if ← accept "..." then pure (.spread (← G.assignment true))
    else pure (.item (← G.assignment true))
  return some (item, ← accept ",")

theorem readArray_eq (G : Grammar) :
    readArray G = do
      next
      let items ← gather (arrayStep G)
      expect "]"
      return .array items := rfl

/-- Tokens are read as an expression that takes no name, whatever ends it. -/
structure IsOperand (s : Array CodePoint) (fs : List OpenFunction) (G : Grammar)
    (ks : List TokenKind) (e : Expr) : Prop where
  starts : ∀ ls p, p ∉ ["-", "[", "\x7b"] → isMark p (headKind (ks ++ ls)) = false
  reads : ∀ ls, EndsOperand ls → Reads s fs (G.assignment true) (ks ++ ls) e ls
  unnamed : ∀ n, e.nameAs n = e

theorem endsOperand_mark {p : String} (hp : p ∈ enders) : EndsOperand (.punct p :: ks) :=
  .inr ⟨p, hp, rfl⟩

section Operands

variable {β : Type} {toks : β → List TokenKind} {res : β → Expr} {key : β → Utf16}

theorem takesItem_array (hfs : IsPlain fs) (h : IsOperand s fs G ls e) :
    TakesItem s fs (arrayStep G) ls (.item e) (.punct "]") ks := by
  have hitem (ms : List TokenKind) {b : Bool} {ns : List TokenKind} (hend : EndsOperand ms)
      (haccept : Reads s fs (accept ",") ms b ns) :
      Reads s fs (arrayStep G) (ls ++ ms) (some (.item e, b)) ns := by
    refine Reads.bind (h.starts ms "]" (by decide) ▸ reads_at "]") ?_
    refine (reads_accept_not (h.starts ms _ (by decide))).bind ?_
    refine (reads_accept_not (h.starts ms _ (by decide))).bind ?_
    refine (h.reads ms hend).bind ?_
    exact haccept.bind .pure
  refine ⟨fun ms => hitem _ (endsOperand_mark (by decide)) (reads_accept hfs ","), ?_⟩
  exact hitem _ (endsOperand_mark (by decide)) (reads_accept_not rfl)

/-- Operands between brackets are read as an array. -/
theorem reads_array (hfs : IsPlain fs) {xs : List β}
    (h : ∀ x ∈ xs, IsOperand s fs G (toks x) (res x)) :
    Reads s fs (readArray G) (.punct "[" :: (joined toks xs ++ .punct "]" :: ks))
      (.array (xs.map fun x => .item (res x))) ks := by
  rw [readArray_eq]
  have hnone : Reads s fs (arrayStep G) (.punct "]" :: ks) none (.punct "]" :: ks) :=
    (reads_at "]").bind .pure
  have hitems : Reads s fs (gather (arrayStep G)) (joined toks xs ++ .punct "]" :: ks)
      (xs.map fun x => .item (res x)) (.punct "]" :: ks) :=
    reads_gather hnone fun x hx => takesItem_array hfs (h x hx)
  exact (reads_next hfs).bind (hitems.bind ((reads_expect hfs "]").bind .pure))

/-! ## Objects -/

theorem reads_memberHead (hfs : IsPlain fs) (x : Utf16) :
    Reads s fs (readMemberHead G true false) (.string x :: ks) ⟨.fixed (.name x), .value, none⟩ ks := by
  unfold readMemberHead
  dsimp only
  rw [if_neg (by simp)]
  refine Reads.token_bind fun t hkind _ _ => ?_
  have hword (w : String) : isKeyword t w = false := isKeyword_eq hkind
  rw [if_neg (by simp [hword]), if_neg (by simp [isPunct_eq hkind, isMark, headKind])]
  refine peek_bind hfs fun t' _ _ _ => ?_
  rw [if_neg (by simp [hword])]
  refine Reads.token_bind fun t hkind _ _ => ?_
  rw [hkind]
  exact (reads_next hfs).bind .pure

theorem reads_member (hfs : IsPlain fs) {x : Utf16} (h : IsOperand s fs G ls e)
    (hend : EndsOperand ks) :
    Reads s fs (readMember G) (.string x :: .punct ":" :: (ls ++ ks)) (entryTree x e) ks := by
  refine Reads.token_bind fun t _ _ _ => ?_
  refine (reads_accept_not rfl).bind ?_
  refine (reads_memberHead hfs x).bind ?_
  refine Reads.bind (reads_at "(") ?_
  refine (reads_expect hfs ":").bind ?_
  refine (h.reads ks hend).bind ?_
  dsimp only
  unfold entryTree
  split
  · exact .pure
  · rw [h.unnamed]
    exact .pure

/-- The members of an object, one at a time. -/
def objectStep (G : Grammar) : Read (Option (Member × Bool)) := do
  if ← at_ "\x7d" then return none
  let m ← readMember G
  return some (m, ← accept ",")

theorem readObject_eq (G : Grammar) :
    readObject G = do
      next
      let members ← gather (objectStep G)
      if 1 < (members.filter isPrototype).length then fail "duplicate __proto__ property name"
      expect "\x7d"
      return .object members := rfl

/-- The tokens of an operand after its key. -/
def memberPart (key : Utf16) (ks : List TokenKind) : List TokenKind := .string key :: .punct ":" :: ks

theorem takesItem_object (hfs : IsPlain fs) {x : Utf16} (h : IsOperand s fs G ls e) :
    TakesItem s fs (objectStep G) (memberPart x ls) (entryTree x e) (.punct "\x7d") ks := by
  have hmember (ms : List TokenKind) {b : Bool} {ns : List TokenKind} (hend : EndsOperand ms)
      (haccept : Reads s fs (accept ",") ms b ns) :
      Reads s fs (objectStep G) (memberPart x ls ++ ms) (some (entryTree x e, b)) ns := by
    refine Reads.bind (reads_at "\x7d") ?_
    refine (reads_member hfs h hend).bind ?_
    exact haccept.bind .pure
  refine ⟨fun ms => hmember _ (endsOperand_mark (by decide)) (reads_accept hfs ","), ?_⟩
  exact hmember _ (endsOperand_mark (by decide)) (reads_accept_not rfl)

/-- Operands with keys between braces are read as an object, if at most one key is that of the
prototype. -/
theorem reads_object (hfs : IsPlain fs) {xs : List β}
    (hproto : ((xs.map fun x => entryTree (key x) (res x)).filter isPrototype).length ≤ 1)
    (h : ∀ x ∈ xs, IsOperand s fs G (toks x) (res x)) :
    Reads s fs (readObject G)
      (.punct "\x7b" :: (joined (fun x => memberPart (key x) (toks x)) xs ++ .punct "\x7d" :: ks))
      (.object (xs.map fun x => entryTree (key x) (res x))) ks := by
  have hnone : Reads s fs (objectStep G) (.punct "\x7d" :: ks) none (.punct "\x7d" :: ks) :=
    (reads_at "\x7d").bind .pure
  have hmembers : Reads s fs (gather (objectStep G))
      (joined (fun x => memberPart (key x) (toks x)) xs ++ .punct "\x7d" :: ks)
      (xs.map fun x => entryTree (key x) (res x)) (.punct "\x7d" :: ks) :=
    reads_gather hnone fun x hx => takesItem_object hfs (h x hx)
  rw [readObject_eq]
  refine (reads_next hfs).bind (hmembers.bind ?_)
  rw [if_neg (by omega)]
  exact (reads_expect hfs "\x7d").bind .pure

end Operands

/-! ## Data as operands -/

theorem itemTokens_eq (xs : List HostValue) : itemTokens xs = joined tokens xs := by
  induction xs with
  | nil => rfl
  | cons v rest ih =>
      unfold itemTokens joined
      rw [ih]

theorem itemTrees_eq (xs : List HostValue) : itemTrees xs = xs.map fun v => .item (tree v) := by
  induction xs with
  | nil => rfl
  | cons v rest ih =>
      unfold itemTrees
      rw [ih]
      rfl

theorem nameAs_signed (negative : Bool) (n : Name) (he : e.nameAs n = e) :
    (signed negative e).nameAs n = signed negative e := by
  cases negative with
  | false => exact he
  | true => rfl

/-- A value of data takes no name. -/
theorem nameAs_tree (hv : IsDatum v) (n : Name) : (tree v).nameAs n = tree v := by
  cases hv with
  | int i => exact nameAs_signed _ _ rfl
  | intMember i => exact nameAs_signed _ _ rfl
  | float x =>
      unfold tree
      cases Binary.Parts.ofFloat x with
      | nan => rfl
      | infinite negative => exact nameAs_signed _ _ rfl
      | finite negative significand exponent => exact nameAs_signed _ _ rfl
  | _ => rfl

/-- A value of data is an operand where its tokens are read as its expression. -/
theorem isOperand_datum (hv : IsDatum v)
    (h : ∀ ls, EndsOperand ls → Reads s fs (G.assignment true) (tokens v ++ ls) (tree v) ls) :
    IsOperand s fs G (tokens v) (tree v) :=
  ⟨fun ls _ hp => (startsDatum hv ls).not_mark hp, h, nameAs_tree hv⟩

/-! ## Keys -/

theorem encodePoint_plain {c : CodePoint} {u : UInt16} {us vs : List UInt16}
    (h : Utf16.encodePoint c ++ us = u :: vs) (hu : u.toNat < 128) :
    c = CodePoint.ofNat u.toNat ∧ us = vs := by
  unfold Utf16.encodePoint at h
  split at h
  · rename_i hlow
    obtain ⟨rfl, rfl⟩ := List.cons.inj h
    have hval : c.val.toUInt16.toNat = c.val := by
      simp
      omega
    rw [hval, CodePoint.ofNat_val]
    exact ⟨rfl, rfl⟩
  · have hc := c.isLt
    obtain ⟨rfl, -⟩ := List.cons.inj h
    simp at hu
    omega

/-- Only a plain text has the units of a plain text. -/
theorem encode_plain {us : List UInt16} (hus : ∀ u ∈ us, u.toNat < 128) (t : Text)
    (h : Utf16.encode t = us) : t = us.map fun u => CodePoint.ofNat u.toNat := by
  induction t generalizing us with
  | nil =>
      subst h
      rfl
  | cons c t ih =>
      cases us with
      | nil =>
          have hnil : Utf16.encodePoint c = [] := (List.append_eq_nil_iff.mp h).1
          unfold Utf16.encodePoint at hnil
          split at hnil
          · cases hnil
          · cases hnil
      | cons u us =>
          have hsplit : Utf16.encodePoint c ++ Utf16.encode t = u :: us := h
          obtain ⟨rfl, hmore⟩ := encodePoint_plain hsplit (hus u (by simp))
          rw [ih (fun v hv => hus v (List.mem_cons_of_mem _ hv)) hmore]
          simp

/-- The key that sets the prototype of an object. -/
def prototypeKey : Text := Text.ofString "__proto__"

theorem text_of_prototype {k : HostValue}
    (hk : (PropertyKey.name (keyString k)).isNamed "__proto__" = true)
    (htext : k.text?.isSome = true) : k.text? = some prototypeKey := by
  obtain ⟨t, ht⟩ := Option.isSome_iff_exists.mp htext
  have hstring : keyString k = Utf16.ofText t := by
    cases k with
    | str u => cases ht; rfl
    | strMember u => cases ht; rfl
    | _ => cases ht
  have hunits : Utf16.encode t = Utf16.encode prototypeKey := by
    have heq : Utf16.ofText t = Utf16.ofText prototypeKey := by
      rw [hstring] at hk
      exact PropertyKey.name.inj (beq_iff_eq.mp hk)
    have harrays := congrArg Utf16.units heq
    rw [ofText_units, ofText_units] at harrays
    exact congrArg Array.toList harrays
  rw [ht, encode_plain (forall_of_all (by decide)) t hunits]
  rfl

theorem isPrototype_entryTree (x : Utf16) (e : Expr) :
    isPrototype (entryTree x e) = (PropertyKey.name x).isNamed "__proto__" := by
  unfold entryTree
  split
  · rename_i h
    exact h.symm
  · rename_i h
    exact (Bool.eq_false_iff.mpr h).symm

theorem entryTrees_eq (es : List (HostValue × HostValue)) :
    entryTrees es = es.map fun e => entryTree (keyString e.1) (tree e.2) := by
  induction es with
  | nil => rfl
  | cons e rest ih =>
      unfold entryTrees
      rw [ih]
      rfl

theorem prototypes_le {es : List (HostValue × HostValue)}
    (hkeys : (es.map fun e => e.1.text?).Nodup) (htexts : ∀ e ∈ es, e.1.text?.isSome = true) :
    ((entryTrees es).filter isPrototype).length ≤ 1 := by
  have hcount : (entryTrees es).countP isPrototype ≤
      (es.map fun e => e.1.text?).count (some prototypeKey) := by
    rw [entryTrees_eq, List.countP_map, List.count_eq_countP, List.countP_map]
    refine List.countP_mono_left fun e he hproto => ?_
    have hkey := (isPrototype_entryTree _ _).symm.trans hproto
    exact beq_iff_eq.mpr (text_of_prototype hkey (htexts e he))
  rw [← List.countP_eq_length_filter]
  exact Nat.le_trans hcount (List.nodup_iff_count.mp hkeys _)

theorem entryTokens_eq (es : List (HostValue × HostValue)) :
    entryTokens es = joined (fun e => memberPart (keyString e.1) (tokens e.2)) es := by
  induction es with
  | nil => rfl
  | cons e rest ih =>
      unfold entryTokens joined
      rw [ih]
      rfl

/-! ## Values -/

theorem length_tokens_item {xs : List HostValue} (hv : v ∈ xs) :
    (tokens v).length ≤ (itemTokens xs).length := by
  induction xs with
  | nil => cases hv
  | cons w rest ih =>
      unfold itemTokens
      rw [List.length_append, List.length_append]
      rcases List.mem_cons.mp hv with rfl | hv
      · omega
      · have hrest := ih hv
        omega

theorem length_tokens_entry {es : List (HostValue × HostValue)} {x : HostValue × HostValue}
    (hx : x ∈ es) : (tokens x.2).length ≤ (entryTokens es).length := by
  induction es with
  | nil => cases hx
  | cons w rest ih =>
      unfold entryTokens
      rw [List.length_cons, List.length_cons, List.length_append, List.length_append]
      rcases List.mem_cons.mp hx with rfl | hx
      · omega
      · have hrest := ih hx
        omega

/-- A sign and a token, or a token alone. -/
theorem reads_signedNumber (hfs : IsPlain fs) (negative : Bool) (v : Value) (hend : EndsOperand ks)
    (hn : 0 < n) :
    Reads s fs (readAssignment (grammarOf n) true) (signTokens negative ++ [.number v] ++ ks)
      (signed negative (.literal v)) ks := by
  rw [List.append_assoc]
  exact reads_signed hfs negative trivial (reads_arrowFollows_other rfl rfl)
    (fun _ => reads_number hfs v) hend hn

theorem reads_signedName (hfs : IsPlain fs) (negative : Bool) {w : String}
    (hw : w ∈ ["NaN", "Infinity"]) (hend : EndsOperand ks) (hn : 0 < n) :
    Reads s fs (readAssignment (grammarOf n) true) (signTokens negative ++ [.word w false] ++ ks)
      (signed negative (.name (nameOf w) 1)) ks := by
  have hfacts : ∀ w ∈ ["NaN", "Infinity"], reservedWords.contains w = false ∧
      w ∉ ["async", "arguments", "eval"] ∧ w ∉ leadingWords := by decide
  obtain ⟨hreserved, hother, hleading⟩ := hfacts w hw
  rw [List.append_assoc]
  exact reads_signed hfs negative ⟨hleading, rfl⟩
    (reads_arrowFollows_name hfs hreserved (hend.not_mark (by decide)))
    (fun _ => reads_name hfs hreserved hother) hend hn

theorem reads_literalWord (hfs : IsPlain fs) {w : String} {v : Value} (h : (w, v) ∈ constants)
    (hend : EndsOperand ks) :
    Reads s fs (readAssignment (grammarOf n) true) (.word w false :: ks) (.literal v) ks := by
  have hfacts : ∀ w ∈ constants.map (·.1), reservedWords.contains w = true ∧ w ∉ leadingWords := by
    decide
  obtain ⟨hreserved, hleading⟩ := hfacts w (List.mem_map.mpr ⟨_, h, rfl⟩)
  have hstart : StartsOperand (.word w false) := ⟨hleading, rfl⟩
  exact reads_assignment (reads_arrowFollows_reserved hreserved) (hstart.not_word (by decide))
    (hstart.not_word (by decide)) (reads_unary hstart (reads_constant hfs h) hend.stops) hend

theorem reads_literalString (hfs : IsPlain fs) (x : Utf16) (hend : EndsOperand ks) :
    Reads s fs (readAssignment (grammarOf n) true) (.string x :: ks) (.literal (.string x)) ks := by
  have hstart : StartsOperand (.string x) := trivial
  exact reads_assignment (reads_arrowFollows_other rfl rfl) rfl rfl
    (reads_unary hstart (reads_string hfs x) hend.stops) hend

/-- The tokens of a value are read as the expression of the value. -/
theorem reads_datum (hfs : IsPlain fs) (hv : IsDatum v) (hn : (tokens v).length ≤ n)
    (hend : EndsOperand ks) :
    Reads s fs (readAssignment (grammarOf n) true) (tokens v ++ ks) (tree v) ks := by
  induction hv generalizing n ks with
  | none => exact reads_literalWord hfs (by simp [constants]) hend
  | bool b =>
      cases b with
      | false => exact reads_literalWord hfs (by simp [constants]) hend
      | true => exact reads_literalWord hfs (by simp [constants]) hend
  | int i =>
      refine reads_signedNumber hfs _ _ hend ?_
      unfold tokens at hn
      simp at hn
      omega
  | intMember i =>
      refine reads_signedNumber hfs _ _ hend ?_
      unfold tokens at hn
      simp at hn
      omega
  | float x =>
      unfold tokens at hn ⊢
      unfold tree
      cases hparts : Binary.Parts.ofFloat x with
      | nan => exact reads_signedName hfs false (by decide) hend (by rw [hparts] at hn; exact hn)
      | infinite negative =>
          refine reads_signedName hfs negative (by decide) hend ?_
          rw [hparts] at hn
          simp [floatTokens] at hn
          omega
      | finite negative significand exponent =>
          refine reads_signedNumber hfs negative _ hend ?_
          rw [hparts] at hn
          simp [floatTokens] at hn
          omega
  | str t => exact reads_literalString hfs _ hend
  | strMember t => exact reads_literalString hfs _ hend
  | @list xs hdata ih =>
      unfold tokens at hn ⊢
      rw [List.length_cons, List.length_append] at hn
      obtain ⟨n, rfl⟩ : ∃ m, n = m + 1 := ⟨n - 1, by omega⟩
      have hitems : ∀ v ∈ xs, IsOperand s fs (grammarOf (n + 1)) (tokens v) (tree v) := by
        intro v hv
        have hlength := length_tokens_item hv
        exact isOperand_datum (hdata v hv) fun ls hend => ih v hv (by omega) hend
      have harray : Reads s fs (readArray (grammarOf (n + 1)))
          (.punct "[" :: (itemTokens xs ++ .punct "]" :: ks)) (.array (itemTrees xs)) ks := by
        rw [itemTokens_eq, itemTrees_eq]
        exact reads_array hfs hitems
      unfold tree
      simpa using reads_listOperand hfs (balanced_items xs) hend harray
  | @dict es hkeys htexts hdata ih =>
      unfold tokens at hn ⊢
      rw [List.length_cons, List.length_append] at hn
      obtain ⟨n, rfl⟩ : ∃ m, n = m + 1 := ⟨n - 1, by omega⟩
      have hentries : ∀ x ∈ es, IsOperand s fs (grammarOf (n + 1)) (tokens x.2) (tree x.2) := by
        intro x hx
        have hlength := length_tokens_entry hx
        exact isOperand_datum (hdata x hx) fun ls hend => ih x hx (by omega) hend
      have hobject : Reads s fs (readObject (grammarOf (n + 1)))
          (.punct "\x7b" :: (entryTokens es ++ .punct "\x7d" :: ks)) (.object (entryTrees es)) ks := by
        have hproto := prototypes_le hkeys htexts
        rw [entryTrees_eq] at hproto
        rw [entryTokens_eq, entryTrees_eq]
        exact reads_object hfs hproto hentries
      unfold tree
      simpa using reads_objectOperand hfs (balanced_entries es) hend hobject

end ScriptHost.Proofs.DataTrees
