import ScriptHost.Proofs.DataTexts
import ScriptHost.Proofs.HiddenGlobals

/-!
# The texts that a name is looked up with

Whatever characters a name has, the texts that its look-up gives to the engine hold it as data: as
one identifier that is the whole name, or as one string that is a key of the global object.  So
does the target of the assignment that a registration gives to the engine.

The name is a plain text.  A member of a string enumeration is a text, too, but `typeof` is asked of
what it is shown as, which is its qualified name.
-/

namespace ScriptHost.Proofs.LookupTexts

open Script Json Interpreter
open ScriptHost.Proofs.DataTexts
open ScriptHost.Proofs.DataTokens
open ScriptHost.Proofs.HiddenGlobals
open ScriptHost.Proofs.Invocation
open ScriptHost.Proofs.Registration
open ScriptHost.Proofs.ScannedNames
open ScriptHost.Proofs.ScannedStrings
open ScriptHost.Proofs.Scanning
open ScriptHost.Proofs.Transition

variable {s : Array CodePoint} {i j : Nat} {c : CodePoint} {t w rest code : Text}
  {ks : List TokenKind}

/-! ## Tokens of whole texts -/

/-- What is left of a source from a place on is no token. -/
def IsOver (s : Array CodePoint) (i : Nat) : Prop :=
  ∃ token after, scan s false ⟨i, 1⟩ = .ok (token, after) ∧ token.kind = .eof

/-- A text starts with tokens of given kinds. -/
def OpensWith (code : Text) (ks : List TokenKind) : Prop := ∃ j, Streams code.toArray 0 ks j

/-- A text is made of tokens of given kinds. -/
def HasTokens (code : Text) (ks : List TokenKind) : Prop :=
  ∃ j, Streams code.toArray 0 ks j ∧ IsOver code.toArray j

theorem stands_start (code : Text) : Stands code.toArray 0 code := ⟨Nat.zero_le _, by simp⟩

theorem isOver_end (h : Stands s i []) : IsOver s i := by
  obtain ⟨start, hscan⟩ := scans_end h
  exact ⟨_, _, hscan, rfl⟩

theorem isOver_lineFeed (h : Stands s i [CodePoint.ofChar '\n']) : IsOver s i := by
  have hsize : s.size = i + 1 := h.size
  have hpoint : pointAt s i = 10 := h.pointAt
  have hend : s[i + 1]? = none := h.tail.getElem? 0
  have hskip : skipTrivia s (s.size - i + 1) ⟨i, 1⟩ false = .ok (⟨i + 1, 2⟩, true) := by
    have hfuel : s.size - i + 1 = 1 + 1 := by omega
    rw [hfuel]
    simp [skipTrivia, hpoint, hsize, isLineEnd]
  refine ⟨{ tokenAt .eof (i + 1) (i + 1) with line := 2, afterNewline := true }, ⟨i + 1, 2⟩, ?_, rfl⟩
  unfold scan
  simp only [hskip, bind, Except.bind, hend]
  rfl

theorem scans_equals (h : Leads s i j (CodePoint.ofChar '=' :: c :: rest)) (hequal : c.ascii ≠ '=')
    (harrow : c.ascii ≠ '>') : Scans s i (.punct "=") (j + 1) := by
  refine ⟨j, ?_⟩
  have hhead := h.stands.head
  have hchar := h.stands.charAt
  have hnext := h.stands.tail.charAt
  have hpunct : punctuatorAt? s j = some "=" := by
    unfold punctuatorAt?
    simp [punctuators, charsAt, hchar, ascii_ofChar, hnext, hequal, harrow]
  unfold scan
  simp only [h.skipTrivia (by unfold StartsToken; decide), bind, Except.bind, hhead, hpunct]
  simp [ascii_ofChar, CodePoint.isDigit, startsName]
  exact ⟨rfl, rfl⟩

/-! ## A name as an identifier -/

/-- The text of a variable: a name, perhaps with a line feed after it. -/
theorem isName_of_identifier (h : isIdentifierText t = true) :
    ∃ w, IsName w ∧ (t = w ∨ t = w ++ [CodePoint.ofChar '\n']) := by
  have htail : ∀ u : Text, isPlainTail u = true → ∃ w, (∀ c ∈ w, isPlainPart c = true) ∧
      (u = w ∨ u = w ++ [CodePoint.ofChar '\n']) := by
    intro u
    induction u with
    | nil => exact fun _ => ⟨[], by simp, .inl rfl⟩
    | cons c u ih =>
        intro hu
        cases u with
        | nil =>
            rcases (Bool.or_eq_true _ _).mp hu with hpart | hfeed
            · exact ⟨[c], by simpa using hpart, .inl rfl⟩
            · have hc : c = CodePoint.ofChar '\n' := (CodePoint.mk.injEq ..).mpr (by simpa using hfeed)
              exact ⟨[], by simp, .inr (by simp [hc])⟩
        | cons d u =>
            obtain ⟨hpart, hu⟩ := (Bool.and_eq_true _ _).mp hu
            obtain ⟨w, hw, heq⟩ := ih hu
            refine ⟨c :: w, by simpa using ⟨hpart, hw⟩, ?_⟩
            rcases heq with heq | heq
            · exact .inl (by rw [heq])
            · exact .inr (by rw [heq, List.cons_append])
  cases t with
  | nil => cases h
  | cons c u =>
      obtain ⟨hstart, hu⟩ := (Bool.and_eq_true _ _).mp h
      obtain ⟨w, hw, heq⟩ := htail u hu
      have hname : IsName (c :: w) := by
        refine ⟨by simpa using hstart, ?_, by simp⟩
        simpa [isPlainPart, hstart] using hw
      refine ⟨c :: w, hname, ?_⟩
      rcases heq with heq | heq
      · exact .inl (by rw [heq])
      · exact .inr (by rw [heq, List.cons_append])

theorem isClean_name (h : IsName w) : IsClean w := by
  intro c hc
  have hbounds := lt_of_isPlainPart (h.parts c hc)
  omega

theorem isClean_word (word : String) (h : AreClean word.toList) : IsClean (Text.ofString word) :=
  .ofChars h

/-- A word of letters, from the start of a text. -/
theorem scans_letters {word : String} (h : Leads s i j (Text.ofString word ++ rest))
    (hne : word.toList ≠ []) (hletters : ∀ d ∈ word.toList, d.isAlpha = true) (hrest : EndsName rest) :
    Scans s i (.word word false) (j + (Text.ofString word).length) := by
  have hscans := scans_name h (isName_letters hne hletters) hrest
  have hspelling : spelling (Text.ofString word) = word := by
    rw [Text.ofString, spelling_ofChars, String.ofList_toList]
  rwa [hspelling] at hscans

/-! ## A name as a key -/

/-- The text that refers to a key of the global object. -/
def reference (key : Text) : Text := "globalThis[" ++ writeString true key ++ "]"

/-- The tokens of a reference. -/
def referenceTokens (key : Text) : List TokenKind :=
  [.word "globalThis" false, .punct "[", .string (Utf16.ofText key), .punct "]"]

theorem isClean_reference (key : Text) : IsClean (reference key) :=
  ((isClean_word "globalThis[" (forall_of_all (by decide))).append (isClean_string key)).append
    (isClean_word "]" (forall_of_all (by decide)))

theorem length_reference (key : Text) :
    (reference key).length = 11 + (writeString true key).length + 1 := by
  unfold reference
  rw [List.length_append, List.length_append]
  rfl

/-- A reference is read as its tokens, whatever stands after it. -/
theorem streams_reference {key : Text} (h : Leads s i j (reference key ++ rest)) :
    Streams s i (referenceTokens key) (j + (reference key).length) := by
  have hopen : Leads s i j (Text.ofString "globalThis" ++ CodePoint.ofChar '[' ::
      (writeString true key ++ CodePoint.ofChar ']' :: rest)) := by
    simpa [reference, Text.ofString] using h
  have hword : Scans s i (.word "globalThis" false) (j + 10) :=
    scans_letters hopen (by decide) (forall_of_all (by decide)) (endsName_cons (by decide) (by decide))
  have hbracket : Stands s (j + 10) (CodePoint.ofChar '[' ::
      (writeString true key ++ CodePoint.ofChar ']' :: rest)) := hopen.stands.skip
  have hkey := hbracket.tail
  have hclose := hkey.skip
  have hlength := lt_writeString (.here hkey)
  have hle := h.le
  refine .cons hword (by omega) (.cons (scans_mark (.here hbracket) (by decide)) (by omega)
    (.cons (scans_string (.here hkey)) hlength ?_))
  have hlast := Streams.single (scans_mark (.here hclose) (by decide)) (by omega)
  rw [length_reference, show j + (11 + (writeString true key).length + 1) =
    j + 10 + 1 + (writeString true key).length + 1 by omega]
  exact hlast

theorem hasTokens_reference (key : Text) : HasTokens (reference key) (referenceTokens key) := by
  have hstands : Stands (reference key).toArray 0 (reference key ++ []) := by
    simpa using stands_start (reference key)
  exact ⟨_, streams_reference (.here hstands), isOver_end hstands.skip⟩

/-! ## Questions about a name -/

/-- The tokens that stand for what a name is bound to. -/
inductive Refers (t : Text) : List TokenKind → Prop
  /-- One identifier, which is all of the name up to a line feed at its end. -/
  | identifier {w : Text} (hw : IsName w) (h : t = w ∨ t = w ++ [CodePoint.ofChar '\n']) :
    Refers t [.word (spelling w) false]
  /-- A key of the global object; the key has the units of the name. -/
  | key : Refers t (referenceTokens t)

/-- A text that asks for what a name is bound to, or for its type, and does nothing else. -/
structure IsQuestion (t code : Text) : Prop where
  clean : IsClean code
  tokens : ∃ ks, Refers t ks ∧ (HasTokens code ks ∨ HasTokens code (.word "typeof" false :: ks))

/-- An identifier is read as one token. -/
theorem streams_identifier (h : Leads s i j t) (hw : IsName w)
    (ht : t = w ∨ t = w ++ [CodePoint.ofChar '\n']) :
    ∃ l, Streams s i [.word (spelling w) false] l ∧ IsOver s l := by
  have hpos := List.length_pos_iff.mpr hw.nonempty
  have hle := h.le
  rcases ht with rfl | rfl
  · have hleads : Leads s i j (t ++ []) := by simpa using h
    exact ⟨_, .single (scans_name hleads hw endsName_nil) (by omega), isOver_end hleads.stands.skip⟩
  · have hends : EndsName [CodePoint.ofChar '\n'] := endsName_cons (by decide) (by decide)
    exact ⟨_, .single (scans_name h hw hends) (by omega), isOver_lineFeed h.stands.skip⟩

/-- The type of what tokens refer to, up to where the tokens end. -/
theorem streams_typeof {P : Array CodePoint → Nat → Prop}
    (h : ∀ {s i j}, Leads s i j t → ∃ l, Streams s i ks l ∧ P s l) :
    ∃ l, Streams (List.toArray ("typeof " ++ t)) 0 (.word "typeof" false :: ks) l ∧
      P (List.toArray ("typeof " ++ t)) l := by
  have hstands : Stands (List.toArray ("typeof " ++ t)) 0
      (Text.ofString "typeof" ++ CodePoint.ofChar ' ' :: t) := stands_start ("typeof " ++ t)
  have hword : Scans (List.toArray ("typeof " ++ t)) 0 (.word "typeof" false) 6 :=
    scans_letters (.here hstands) (by decide) (forall_of_all (by decide))
      (endsName_cons (by decide) (by decide))
  obtain ⟨l, hstreams, hends⟩ := h (.blank hstands.skip)
  exact ⟨l, .cons hword (by decide) hstreams, hends⟩

theorem isQuestion_typeof {u : Text} (hclean : IsClean u) (href : Refers t ks)
    (h : ∀ {s i j}, Leads s i j u → ∃ l, Streams s i ks l ∧ IsOver s l) :
    IsQuestion t ("typeof " ++ u) where
  clean := (isClean_word "typeof " (forall_of_all (by decide))).append hclean
  tokens := ⟨ks, href, .inr (streams_typeof h)⟩

theorem isClean_identifier (hw : IsName w) (ht : t = w ∨ t = w ++ [CodePoint.ofChar '\n']) :
    IsClean t := by
  have hfeed : IsClean [CodePoint.ofChar '\n'] := fun c hc => by revert c; decide
  rcases ht with rfl | rfl
  · exact isClean_name hw
  · exact (isClean_name hw).append hfeed

/-- Every text of a look-up is a question about the name. -/
theorem isQuestion_lookup (h : IsLookup (.str t) code) : IsQuestion t code := by
  have hkey : ∀ {ref : Text}, globalReference (.str t) = .ok ref → ref = reference t := by
    intro ref href
    rw [globalReference_eq (t := t) rfl] at href
    exact (Except.ok.inj href).symm
  cases h with
  | kind h =>
      obtain ⟨w, hw, ht⟩ := isName_of_identifier h
      exact isQuestion_typeof (isClean_identifier hw ht) (.identifier hw ht)
        fun hleads => streams_identifier hleads hw ht
  | binding h htext =>
      obtain rfl : t = code := Option.some.inj htext
      obtain ⟨w, hw, ht⟩ := isName_of_identifier h
      exact ⟨isClean_identifier hw ht, _, .identifier hw ht,
        .inl (streams_identifier (.here (stands_start t)) hw ht)⟩
  | globalKind h =>
      obtain rfl := hkey h
      refine isQuestion_typeof (isClean_reference t) .key fun {s i j} hleads => ?_
      have hwhole : Leads s i j (reference t ++ []) := by simpa using hleads
      exact ⟨_, streams_reference hwhole, isOver_end hwhole.stands.skip⟩
  | global h =>
      obtain rfl := hkey h
      exact ⟨isClean_reference t, _, .key, .inl (hasTokens_reference t)⟩

/-- A text that assigns to the key of the global object that a name is, and not to anything else. -/
structure Assigns (t value code : Text) : Prop where
  text : code = reference t ++ " = " ++ value ++ ";"
  clean : IsClean (reference t)
  target : HasTokens (reference t) (referenceTokens t)
  tokens : OpensWith code (referenceTokens t ++ [.punct "="])

theorem assigns_assignment (t value : Text) : Assigns t value (assignment t value) := by
  have htext : assignment t value = reference t ++ " = " ++ value ++ ";" := by
    simp [assignment, reference, Text.ofString]
  refine ⟨htext, isClean_reference t, hasTokens_reference t, ?_⟩
  have hstands : Stands (assignment t value).toArray 0 (reference t ++ (CodePoint.ofChar ' ' ::
      CodePoint.ofChar '=' :: CodePoint.ofChar ' ' :: (value ++ ";"))) := by
    have hstart := stands_start (assignment t value)
    rw [htext] at hstart ⊢
    simpa [Text.ofString] using hstart
  have hequals := scans_equals (.blank hstands.skip) (by decide) (by decide)
  exact ⟨_, (streams_reference (.here hstands)).append (.single hequals (by omega))⟩

/-! ## What the engine is given -/

variable {E V α : Type} {X : Interpreter E V}

/-- What an operation ends in, with the texts that have been given to the engine by then. -/
def noted (texts : List Text) :
    EStateM.Result Fault (E × Instance V) α → EStateM.Result Fault ((E × List Text) × Instance V) α
  | .ok a (e, i) => .ok a ((e, texts), i)
  | .error f (e, i) => .error f ((e, texts), i)

/-- An engine that keeps the texts that it has been given to evaluate. -/
def recording (X : Interpreter E V) : Interpreter (E × List Text) V where
  evaluate code := fun ((e, texts), i) => noted (texts ++ [code]) (X.evaluate code (e, i))
  call f args := fun ((e, texts), i) => noted texts (X.call f args (e, i))
  dataText v := fun ((e, texts), i) => noted texts (X.dataText v (e, i))
  addFunction id := fun ((e, texts), i) => noted texts (X.addFunction id (e, i))

/-- All texts that the engine is given on the way have a property. -/
def Gives (P : Text → Prop) (s s' : (E × List Text) × Instance V) : Prop :=
  ∃ texts, s'.1.2 = s.1.2 ++ texts ∧ ∀ code ∈ texts, P code

theorem chains_gives (P : Text → Prop) : Chains (Gives (E := E) (V := V) P) where
  refl s := ⟨[], by simp, by simp⟩
  trans := by
    rintro a b c ⟨texts, hb, htexts⟩ ⟨more, hc, hmore⟩
    refine ⟨texts ++ more, by rw [hc, hb, List.append_assoc], fun code hcode => ?_⟩
    rcases List.mem_append.mp hcode with h | h
    · exact htexts code h
    · exact hmore code h

/-- A fault that refuses a text unread is one of the evaluation itself. -/
def IsTaken (X : Interpreter E V) (f : Fault) : Prop :=
  (∃ code, checkCode code = .error f) → ∃ code s s', X.evaluate code s = .error f s'

theorem recording_evaluate {P : Text → Prop} (hcode : P code) :
    Meets (Gives P) (fun _ => True) (IsTaken X) ((recording X).evaluate code) := by
  rintro ⟨⟨e, texts⟩, i⟩
  have hgives : ∀ e' i', Gives (V := V) P ((e, texts), i) ((e', texts ++ [code]), i') :=
    fun _ _ => ⟨[code], rfl, by simpa using hcode⟩
  change Ends _ _ (noted (texts ++ [code]) (X.evaluate code (e, i)))
  cases hrun : X.evaluate code (e, i) with
  | ok a s' => exact ⟨hgives s'.1 s'.2, trivial⟩
  | error f s' => exact ⟨hgives s'.1 s'.2, fun _ => ⟨code, _, _, hrun⟩⟩

/-- A clean text is given to the engine, which refuses it only by evaluating it. -/
theorem recording_run {P : Text → Prop} (hclean : IsClean code) (hcode : P code) :
    Meets (Gives P) (fun _ => True) (IsTaken X) ((recording X).run code) := by
  refine run_meets (chains_gives P) (recording_evaluate hcode) fun f hf => ?_
  rw [checkCode_ok hclean] at hf
  cases hf

/-- A fault of a look-up refuses no text but by evaluating it. -/
theorem isTaken_lookup {name : HostValue} {Q : Passed V → Prop} {f : Fault}
    (h : LookupFault (IsTaken X) Q name f) : IsTaken X f := by
  have hother (hnone : ¬IsEngineFault f) : IsTaken X f := fun ⟨_, hcode⟩ =>
    absurd (isEngineFault_checkCode hcode) hnone
  cases h with
  | passedOn hf _ => exact hf
  | unnamed _ _ => exact hother id
  | notFound => exact hother id
  | notExportable _ _ => exact hother id
  | unshownName _ _ => exact hother id
  | unshownKind _ _ => exact hother id
  | unworded _ _ _ => exact hother id

/-- All that a registration gives to the engine once its capability is rendered, up to the point
where the module is put in place, is the assignment to the key that the name is. -/
theorem attempt_assigns (capability : HostValue) {s : (E × List Text) × Instance V} {value : Text}
    {reached : List Nat × (E × List Text) × Instance V}
    (hrun : (recording X).build (.str t) capability ([], s) = .ok value reached) :
    Ends (fun _ after => Gives (Assigns t value) reached.2 after.2)
      (fun _ after => Gives (Assigns t value) reached.2 after.2)
      (attempt (recording X) (.str t) capability s) := by
  obtain ⟨ids, s₁⟩ := reached
  have hassign : Meets (Gives (Assigns t value)) (fun _ => True) (fun _ => True)
      ((recording X).run (assignment t value)) :=
    (run_meets (P := fun _ => True) (chains_gives _)
      ((recording_evaluate (assigns_assignment t value)).weaken id (fun _ h => h)
        fun _ _ => trivial) fun _ _ => trivial)
  change Ends _ _ (EStateM.bind ((recording X).build (.str t) capability) _ ([], s))
  unfold EStateM.bind
  rw [hrun]
  change Ends _ _ (EStateM.bind (BuildM.lift ((recording X).run (assignment t value))) _ (ids, s₁))
  unfold EStateM.bind
  cases hdone : (recording X).run (assignment t value) s₁ with
  | ok v s₂ =>
      rw [lift_ok ids hdone]
      exact (hassign.ok hdone).1
  | error f s₂ =>
      rw [lift_error ids hdone]
      exact (hassign.error hdone).1

/-- A name of a quote, a bracket, a backslash, a zero character, line ends, a character beyond the
basic plane and a lone surrogate. -/
def hostileName : Text :=
  [0x22, 0x5D, 0x5C, 0x00, 0x0A, 0x2028, 0x1F600, 0xD800].map CodePoint.ofNat

end ScriptHost.Proofs.LookupTexts
