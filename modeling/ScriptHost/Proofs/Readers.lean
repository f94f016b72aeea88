import ScriptHost.Proofs.DataTokens
import ScriptHost.Script.Grammar

/-!
# What readers take

A reader of scripts takes tokens from the ones ahead and gives a result.  All tokens stand in the
first line, and the code is a plain script.
-/

namespace ScriptHost.Proofs.Readers

open Script Read
open ScriptHost.Proofs.Scanning
open ScriptHost.Proofs.DataTokens

/-- A script that is open, or a function, without strictness and without words of its own. -/
structure IsPlain (fs : List OpenFunction) : Prop where
  innermost : ∃ f outer, fs = f :: outer ∧ f.strict = false ∧ f.line = 1 ∧ f.isGenerator = false ∧
    f.isAsync = false

/-- Whether a kind is an operator or bracket. -/
def isMark (p : String) : TokenKind → Bool
  | .punct q => q == p
  | _ => false

/-- Whether a kind is a keyword. -/
def isWord (w : String) : TokenKind → Bool
  | .word v escaped => v == w && !escaped
  | _ => false

/-- A kind that is no slash. -/
def NoSlash (k : TokenKind) : Prop := isMark "/" k = false ∧ isMark "/=" k = false

/-- From a place on, there are tokens of given kinds up to the end of the text. -/
structure Ahead (s : Array CodePoint) (i : Nat) (ks : List TokenKind) : Prop where
  streams : ∃ j, Streams s i ks j ∧ Stands s j []
  noSlash : ∀ k ∈ ks, NoSlash k

/-- The first kind, where an empty list shows as the end of the text. -/
def headKind (ks : List TokenKind) : TokenKind := ks.headD .eof

/-- A token is at hand, with others ahead of a place. -/
structure AtHand (s : Array CodePoint) (t : Token) (c : Cursor) (ks : List TokenKind) : Prop where
  kind : t.kind = headKind ks
  line : t.line = 1
  afterNewline : t.afterNewline = false
  cursor : c.line = 1
  ahead : Ahead s c.position ks.tail

/-- The state of a reader with tokens of given kinds ahead. -/
structure Holds (s : Array CodePoint) (fs : List OpenFunction) (r : Reading) (ks : List TokenKind) :
    Prop extends AtHand s r.token r.cursor ks where
  source : r.source = s
  functions : r.functions = fs
  lastLine : r.lastLine = 1

/-- A reader takes tokens and gives a result. -/
def Reads {α : Type} (s : Array CodePoint) (fs : List OpenFunction) (p : Read α)
    (ks : List TokenKind) (a : α) (ls : List TokenKind) : Prop :=
  ∀ r, Holds s fs r ks → ∃ r', p r = .ok a r' ∧ Holds s fs r' ls

variable {α β : Type} {s : Array CodePoint} {fs : List OpenFunction} {i : Nat}
  {ks ls ms : List TokenKind} {k : TokenKind} {a : α} {b : β} {t : Token} {c : Cursor}

/-! ## Scanning ahead -/

theorem scan_ahead (h : Ahead s i ks) :
    ∃ t c, scan s false ⟨i, 1⟩ = .ok (t, c) ∧ AtHand s t c ks := by
  obtain ⟨⟨j, hstreams, hend⟩, hslash⟩ := h
  cases hstreams with
  | nil =>
      obtain ⟨start, hscan⟩ := scans_end hend
      exact ⟨_, _, hscan, rfl, rfl, rfl, rfl, ⟨i, .nil, hend⟩, hslash⟩
  | cons hscans hlt hmore =>
      obtain ⟨start, hscan⟩ := hscans
      exact ⟨_, _, hscan, rfl, rfl, rfl, rfl, ⟨j, hmore, hend⟩,
        fun k hk => hslash k (List.mem_cons_of_mem _ hk)⟩

theorem scan_cursor (h : AtHand s t c (k :: ks)) :
    ∃ t' c', scan s false c = .ok (t', c') ∧ AtHand s t' c' ks := by
  obtain ⟨position, line⟩ := c
  obtain rfl : line = 1 := h.cursor
  exact scan_ahead h.ahead

/-- There are no more tokens than characters. -/
theorem Holds.length_le {r : Reading} (h : Holds s fs r ks) : ks.length ≤ s.size + 1 := by
  obtain ⟨j, hstreams, hend⟩ := h.ahead.streams
  have hlength := hstreams.length_le
  have hsize := hend.size
  simp only [List.length_tail, List.length_nil] at hlength hsize
  omega

/-! ## Composition -/

theorem run_bind {p : Read α} {f : α → Read β} {r r' : Reading} (h : p r = .ok a r') :
    (p >>= f) r = f a r' := by
  change EStateM.bind p f r = _
  unfold EStateM.bind
  rw [h]

theorem get_run (r : Reading) : (get : Read Reading) r = .ok r r := rfl

namespace Reads

theorem pure : Reads s fs (pure a) ks a ks := fun r hr => ⟨r, rfl, hr⟩

theorem bind {p : Read α} {f : α → Read β} (hp : Reads s fs p ks a ls)
    (hf : Reads s fs (f a) ls b ms) : Reads s fs (p >>= f) ks b ms := by
  intro r hr
  obtain ⟨r', hrun, hr'⟩ := hp r hr
  obtain ⟨r'', hmore, hr''⟩ := hf r' hr'
  exact ⟨r'', (run_bind hrun).trans hmore, hr''⟩

/-- What the state itself gives. -/
theorem get_bind {f : Reading → Read β}
    (h : ∀ r, Holds s fs r ks → Reads s fs (f r) ks b ls) : Reads s fs (get >>= f) ks b ls :=
  fun r hr => h r hr r hr

theorem token_bind {f : Token → Read β}
    (h : ∀ t, t.kind = headKind ks → t.line = 1 → t.afterNewline = false →
      Reads s fs (f t) ks b ls) : Reads s fs (token >>= f) ks b ls :=
  fun r hr => h r.token hr.kind hr.line hr.afterNewline r hr

end Reads

/-! ## Single tokens -/

theorem isPunct_eq {p : String} (h : t.kind = k) : isPunct t p = isMark p k := by
  subst h
  unfold isPunct isMark
  cases t.kind <;> rfl

theorem isKeyword_eq {w : String} (h : t.kind = k) : isKeyword t w = isWord w k := by
  subst h
  unfold isKeyword isWord
  cases t.kind <;> rfl

theorem isStrict_run (hfs : IsPlain fs) {r : Reading} (hr : Holds s fs r ks) :
    isStrict r = .ok false r := by
  obtain ⟨f, outer, hf, hstrict, -⟩ := hfs
  change EStateM.Result.ok ((r.functions.head?).any (·.strict)) r = _
  rw [hr.functions, hf]
  simp [hstrict]

theorem noteLine_plain (hfs : IsPlain fs) : noteLine 1 fs = fs := by
  obtain ⟨f, outer, rfl, -, hline, -⟩ := hfs
  simp [noteLine, hline]

theorem lift_run {x : Except SyntaxFault α} (h : x = .ok a) (r : Reading) :
    lift x r = .ok a r := by
  subst h
  rfl

/-- The next token comes to hand. -/
theorem reads_next (hfs : IsPlain fs) : Reads s fs next (k :: ks) () ks := by
  intro r hr
  obtain ⟨t, c, hscan, hat⟩ := scan_cursor hr.toAtHand
  rw [← hr.source] at hscan
  refine ⟨{ r with
    token := t, cursor := c, lastLine := r.token.line, lastStop := r.token.stop,
    functions := noteLine r.token.line r.functions }, ?_, hat, hr.source, ?_, hr.line⟩
  · unfold next
    rw [run_bind (get_run r), run_bind (isStrict_run hfs hr), run_bind (lift_run hscan r)]
    rfl
  · change noteLine r.token.line r.functions = fs
    rw [hr.line, hr.functions, noteLine_plain hfs]

/-- The token after the one at hand is looked at. -/
theorem peek_bind (hfs : IsPlain fs) {f : Token → Read β}
    (h : ∀ t, t.kind = headKind ks → t.line = 1 → t.afterNewline = false →
      Reads s fs (f t) (k :: ks) b ls) : Reads s fs (peek >>= f) (k :: ks) b ls := by
  intro r hr
  obtain ⟨t, c, hscan, hat⟩ := scan_cursor hr.toAtHand
  rw [← hr.source] at hscan
  have hpeek : peek r = .ok t r := by
    unfold peek
    rw [run_bind (get_run r), run_bind (isStrict_run hfs hr), run_bind (lift_run hscan r)]
    rfl
  obtain ⟨r', hrun, hr'⟩ := h t hat.kind hat.line hat.afterNewline r hr
  exact ⟨r', (run_bind hpeek).trans hrun, hr'⟩

theorem reads_at (p : String) : Reads s fs (at_ p) ks (isMark p (headKind ks)) ks :=
  Reads.token_bind fun t hkind _ _ => by
    rw [isPunct_eq hkind]
    exact .pure

theorem reads_atKeyword (w : String) : Reads s fs (atKeyword w) ks (isWord w (headKind ks)) ks :=
  Reads.token_bind fun t hkind _ _ => by
    rw [isKeyword_eq hkind]
    exact .pure

theorem reads_accept (hfs : IsPlain fs) (p : String) :
    Reads s fs (accept p) (.punct p :: ks) true ks := by
  have hat : isMark p (headKind (.punct p :: ks)) = true := beq_self_eq_true p
  refine (hat ▸ reads_at p).bind ?_
  exact (reads_next hfs).bind .pure

theorem reads_accept_not {p : String} (h : isMark p (headKind ks) = false) :
    Reads s fs (accept p) ks false ks := by
  refine (h ▸ reads_at p).bind ?_
  exact .pure

theorem reads_expect (hfs : IsPlain fs) (p : String) :
    Reads s fs (expect p) (.punct p :: ks) () ks := by
  exact (reads_accept hfs p).bind .pure

theorem reads_current : Reads s fs current ks fs.head? ks := by
  intro r hr
  refine ⟨r, ?_, hr⟩
  change EStateM.Result.ok r.functions.head? r = _
  rw [hr.functions]

/-- A word that is reserved in every code. -/
theorem reads_isReserved {w : String} (h : reservedWords.contains w = true) :
    Reads s fs (isReserved w) ks true ks := by
  unfold isReserved
  rw [if_pos h]
  exact .pure

/-- A word that is a name in a plain script. -/
theorem reads_isReserved_not (hfs : IsPlain fs) {w : String} (h : reservedWords.contains w = false) :
    Reads s fs (isReserved w) ks false ks := by
  obtain ⟨f, outer, rfl, hstrict, -, hgenerator, hasync⟩ := hfs
  unfold isReserved
  rw [if_neg (Bool.eq_false_iff.mp h)]
  refine reads_current.bind ?_
  simp only [List.head?_cons, hstrict, hgenerator, hasync, Bool.false_and, Bool.or_self]
  exact .pure

/-! ## Bracketed parts -/

/-- The brackets, each with the one that closes it. -/
def brackets : List (String × String) := [("(", ")"), ("[", "]"), ("\x7b", "\x7d")]

/-- A kind of token that opens and closes nothing. -/
def IsFlat : TokenKind → Prop
  | .word _ _ | .number _ | .string _ => True
  | .punct p => p ∈ [",", ":", "-"]
  | _ => False

/-- Tokens in which each bracket is closed. -/
inductive Balanced : List TokenKind → Prop
  | nil : Balanced []
  | flat {k : TokenKind} {ks : List TokenKind} (h : IsFlat k) (more : Balanced ks) :
    Balanced (k :: ks)
  | nested {p q : String} {inner ks : List TokenKind} (h : (p, q) ∈ brackets)
    (inside : Balanced inner) (more : Balanced ks) :
    Balanced (.punct p :: (inner ++ .punct q :: ks))

theorem Balanced.append (hks : Balanced ks) (hls : Balanced ls) : Balanced (ks ++ ls) := by
  induction hks with
  | nil => exact hls
  | flat hk _ ih => exact .flat hk ih
  | nested hb inside _ _ ih =>
      rw [List.cons_append, List.append_assoc]
      exact .nested hb inside ih

theorem noSlash_balanced (h : Balanced ks) : ∀ k ∈ ks, NoSlash k := by
  induction h with
  | nil =>
      intro k hk
      cases hk
  | @flat k ks hflat _ ih =>
      intro l hl
      rcases List.mem_cons.mp hl with rfl | hl
      · cases l with
        | punct p =>
            simp only [IsFlat, List.mem_cons, List.not_mem_nil, or_false] at hflat
            rcases hflat with rfl | rfl | rfl
            all_goals exact ⟨by decide, by decide⟩
        | _ => exact ⟨rfl, rfl⟩
      · exact ih l hl
  | nested hb _ _ ihInside ihMore =>
      have hmarks : ∀ x ∈ brackets, NoSlash (.punct x.1) ∧ NoSlash (.punct x.2) := by
        unfold NoSlash
        decide
      intro l hl
      rcases List.mem_cons.mp hl with rfl | hl
      · exact (hmarks _ hb).1
      · rcases List.mem_append.mp hl with hl | hl
        · exact ihInside l hl
        · rcases List.mem_cons.mp hl with rfl | hl
          · exact (hmarks _ hb).2
          · exact ihMore l hl

variable {open_ : List String}

/-- Goes on to the next token, with brackets open. -/
theorem advance (h : AtHand s t c (k :: ks)) : ∃ t' c', AtHand s t' c' ks ∧
    scan s false c = .ok (t', c') ∧ (isPunct t' "/" || isPunct t' "/=") = false := by
  obtain ⟨t', c', hscan, hat⟩ := scan_cursor h
  refine ⟨t', c', hat, hscan, ?_⟩
  rw [isPunct_eq hat.kind, isPunct_eq hat.kind]
  cases ks with
  | nil => rfl
  | cons k' ks =>
      obtain ⟨hslash, hequal⟩ := h.ahead.noSlash k' List.mem_cons_self
      change (isMark "/" k' || isMark "/=" k') = false
      rw [hslash, hequal]
      rfl

theorem skip_flat (hk : IsFlat k) (hopen : open_ ≠ []) (h : AtHand s t c (k :: ks)) :
    ∃ t' c', AtHand s t' c' ks ∧ ∀ fuel semicolon,
      skipBrackets s false (fuel + 1) open_ t c semicolon =
        skipBrackets s false fuel open_ t' c' semicolon := by
  obtain ⟨t', c', hat, hscan, hslash⟩ := advance h
  refine ⟨t', c', hat, fun fuel semicolon => ?_⟩
  have hkind : t.kind = k := h.kind
  rw [skipBrackets]
  cases k with
  | word w e => simp [hkind, hscan, hslash, hopen, bind, Except.bind]
  | number v => simp [hkind, hscan, hslash, hopen, bind, Except.bind]
  | string v => simp [hkind, hscan, hslash, hopen, bind, Except.bind]
  | punct p =>
      simp only [IsFlat, List.mem_cons, List.not_mem_nil, or_false] at hk
      rcases hk with rfl | rfl | rfl
      all_goals
        simp [hkind, hscan, hslash, hopen, bind, Except.bind]
  | _ => cases hk

theorem skip_open {p q : String} (hb : (p, q) ∈ brackets) (h : AtHand s t c (.punct p :: ks)) :
    ∃ t' c', AtHand s t' c' ks ∧ ∀ fuel open_ semicolon,
      skipBrackets s false (fuel + 1) open_ t c semicolon =
        skipBrackets s false fuel (q :: open_) t' c' semicolon := by
  obtain ⟨t', c', hat, hscan, hslash⟩ := advance h
  refine ⟨t', c', hat, fun fuel open_ semicolon => ?_⟩
  have hkind : t.kind = .punct p := h.kind
  rw [skipBrackets]
  simp only [brackets, List.mem_cons, List.not_mem_nil, or_false, Prod.mk.injEq] at hb
  rcases hb with ⟨rfl, rfl⟩ | ⟨rfl, rfl⟩ | ⟨rfl, rfl⟩
  all_goals
    simp [hkind, hscan, hslash, bind, Except.bind]

theorem skip_close {p q : String} (hb : (p, q) ∈ brackets) (hopen : open_ ≠ [])
    (h : AtHand s t c (.punct q :: ks)) :
    ∃ t' c', AtHand s t' c' ks ∧ ∀ fuel semicolon,
      skipBrackets s false (fuel + 1) (q :: open_) t c semicolon =
        skipBrackets s false fuel open_ t' c' semicolon := by
  obtain ⟨t', c', hat, hscan, hslash⟩ := advance h
  refine ⟨t', c', hat, fun fuel semicolon => ?_⟩
  have hkind : t.kind = .punct q := h.kind
  rw [skipBrackets]
  simp only [brackets, List.mem_cons, List.not_mem_nil, or_false, Prod.mk.injEq] at hb
  rcases hb with ⟨rfl, rfl⟩ | ⟨rfl, rfl⟩ | ⟨rfl, rfl⟩
  all_goals
    simp [hkind, hscan, hslash, hopen, bind, Except.bind]

theorem skip_last {p q : String} (hb : (p, q) ∈ brackets) (h : AtHand s t c (.punct q :: ks)) :
    ∃ t' c', AtHand s t' c' ks ∧ ∀ fuel semicolon,
      skipBrackets s false (fuel + 1) [q] t c semicolon = .ok ⟨t', semicolon⟩ := by
  obtain ⟨t', c', hat, hscan, hslash⟩ := advance h
  refine ⟨t', c', hat, fun fuel semicolon => ?_⟩
  have hkind : t.kind = .punct q := h.kind
  rw [skipBrackets]
  simp only [brackets, List.mem_cons, List.not_mem_nil, or_false, Prod.mk.injEq] at hb
  rcases hb with ⟨rfl, rfl⟩ | ⟨rfl, rfl⟩ | ⟨rfl, rfl⟩
  all_goals
    simp [hkind, hscan, bind, Except.bind]
    rfl

/-- Balanced tokens are skipped as a whole. -/
theorem skip_balanced (hks : Balanced ks) (hopen : open_ ≠ []) (h : AtHand s t c (ks ++ ls)) :
    ∃ t' c', AtHand s t' c' ls ∧ ∀ fuel semicolon,
      skipBrackets s false (fuel + ks.length) open_ t c semicolon =
        skipBrackets s false fuel open_ t' c' semicolon := by
  induction hks generalizing t c open_ ls with
  | nil => exact ⟨t, c, h, fun _ _ => rfl⟩
  | flat hk _ ih =>
      obtain ⟨t₁, c₁, hat₁, hskip₁⟩ := skip_flat hk hopen h
      obtain ⟨t₂, c₂, hat₂, hskip₂⟩ := ih hopen hat₁
      exact ⟨t₂, c₂, hat₂, fun fuel semicolon => (hskip₁ _ _).trans (hskip₂ _ _)⟩
  | @nested p q inner more hb _ _ ihInside ihMore =>
      have hat : AtHand s t c (.punct p :: (inner ++ .punct q :: (more ++ ls))) := by simpa using h
      obtain ⟨t₁, c₁, hat₁, hskip₁⟩ := skip_open hb hat
      obtain ⟨t₂, c₂, hat₂, hskip₂⟩ := ihInside (List.cons_ne_nil _ _) hat₁
      obtain ⟨t₃, c₃, hat₃, hskip₃⟩ := skip_close hb hopen hat₂
      obtain ⟨t₄, c₄, hat₄, hskip₄⟩ := ihMore hopen hat₃
      refine ⟨t₄, c₄, hat₄, fun fuel semicolon => ?_⟩
      have hlength : fuel + (TokenKind.punct p :: (inner ++ .punct q :: more)).length =
          fuel + more.length + 1 + inner.length + 1 := by
        simp
        omega
      rw [hlength, hskip₁, hskip₂, hskip₃, hskip₄]

/-- The token after a bracketed part. -/
theorem skipped_bind {p q : String} {inner : List TokenKind} {f : Skipped → Read β}
    (hfs : IsPlain fs) (hb : (p, q) ∈ brackets) (hinner : Balanced inner)
    (h : ∀ x : Skipped, x.after.kind = headKind ks →
      Reads s fs (f x) (.punct p :: (inner ++ .punct q :: ks)) b ls) :
    Reads s fs (skipped >>= f) (.punct p :: (inner ++ .punct q :: ks)) b ls := by
  intro r hr
  obtain ⟨x, hx, hrun⟩ : ∃ x : Skipped, x.after.kind = headKind ks ∧ skipped r = .ok x r := by
    obtain ⟨t₁, c₁, hat₁, hskip₁⟩ := skip_open hb hr.toAtHand
    obtain ⟨t₂, c₂, hat₂, hskip₂⟩ := skip_balanced hinner (List.cons_ne_nil _ _) hat₁
    obtain ⟨t₃, c₃, hat₃, hskip₃⟩ := skip_last hb hat₂
    obtain ⟨j, hstreams, hend⟩ := hr.ahead.streams
    have hlength := hstreams.length_le
    have hsize := hend.size
    simp only [List.tail_cons, List.length_append, List.length_cons, List.length_nil] at hlength hsize
    obtain ⟨fuel, hfuel⟩ : ∃ fuel, s.size + 2 = fuel + 1 + inner.length + 1 :=
      ⟨s.size - inner.length, by omega⟩
    refine ⟨⟨t₃, false⟩, hat₃.kind, ?_⟩
    have hall : skipBrackets r.source false (r.source.size + 2) [] r.token r.cursor false =
        .ok ⟨t₃, false⟩ := by
      rw [hr.source, hfuel, hskip₁, hskip₂, hskip₃]
    unfold skipped
    rw [run_bind (get_run r), run_bind (isStrict_run hfs hr), hall]
    rfl
  obtain ⟨r', hmore, hr'⟩ := h x hx r hr
  exact ⟨r', (run_bind hrun).trans hmore, hr'⟩

end ScriptHost.Proofs.Readers
