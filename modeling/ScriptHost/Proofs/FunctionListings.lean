import ScriptHost.Proofs.GlobalListings

/-!
# The functions of an instance

Which names are listed as the functions of a script: keys of the global object that hold functions, and
scanned names that are bound to functions.  Where nothing of the script has to run for it, the listing
runs through, and a name is listed exactly if it is of one of the two kinds.
-/

namespace ScriptHost.Proofs.FunctionListings

open Script Script.Eval ScriptEngine Interpreter
open ScriptHost.Proofs.Bindings
open ScriptHost.Proofs.DataTexts
open ScriptHost.Proofs.ErrorTexts
open ScriptHost.Proofs.Evaluation
open ScriptHost.Proofs.ExpressionScripts
open ScriptHost.Proofs.FilteredLists
open ScriptHost.Proofs.GlobalListings
open ScriptHost.Proofs.GlobalValues
open ScriptHost.Proofs.NameResolution
open ScriptHost.Proofs.NewObjects
open ScriptHost.Proofs.PropertyChains
open ScriptHost.Proofs.RenderedValues (grows_withObjects)
open ScriptHost.Proofs.Scanning (forall_of_all)
open ScriptHost.Proofs.ScannedNames
open ScriptHost.Proofs.ScriptRuns
open ScriptHost.Proofs.Transition (host_bind_ok orOnScriptFault_ok)

variable {s s' s₁ s₂ : Machine × Host} {m m' : Machine} {t : Text} {x : Option Value} {v : Value}
  {n : Name} {hidden names : List Text}

/-! ## Names that can be asked about -/

/-- What the look-up of a name finds, and without running code of the script: what the name is bound to,
or, where it is no identifier, what the global object has under it. -/
inductive IsPlain (m : Machine) (t : Text) (x : Option Value) : Prop
  | name (binds : Binds m (Utf16.ofText t) x) (reachable : IsReachable m t x)
    (here : IsHere m (x.getD .undefined))
  | key (other : isIdentifierText t = false) (global : NamesGlobal m)
    (finds : Finds m (.name (Utf16.ofText t)) globalRef x) (here : IsHere m (x.getD .undefined))

/-- The outermost scope is that of scripts: outside of all calls and other scopes. -/
structure IsOutermost (m : Machine) : Prop where
  scope : ∃ c, m.scopes[0]? = some c ∧ c.parent = none ∧ c.call = none
  global : globalRef.index < m.objects.size
  notCallable : (objectAt m globalRef).isCallable = false

/-- The type of a name can be asked for: of what is bound under it, or, for a word that is a value of its
own, of that. -/
inductive CanAsk (m : Machine) (t : Text) : Prop
  | bound {x : Option Value} (h : IsPlain m t x)
  | constant {w : String} (hw : w ∈ constantWords) (ht : t = Text.ofString w) (h : IsOutermost m)

section Later

variable (hm : HasObjects m m')
  (hscopes : ∀ (i : Nat) (c : Scope), m.scopes[i]? = some c → m'.scopes[i]? = some c)

include hm hscopes

theorem Binds.later (h : Binds m n x) : Binds m' n x := by
  cases h with
  | lexical hc hj hb hv => exact .lexical (hscopes 0 _ hc) hj hb hv
  | property hc hparent hn hx => exact .property (hscopes 0 _ hc) hparent hn (hx.of_objects hm)

theorem IsOutermost.later (h : IsOutermost m) : IsOutermost m' := by
  obtain ⟨c, hc, houtermost⟩ := h.scope
  obtain ⟨hglobal, hsame⟩ := hm globalRef h.global
  exact ⟨⟨c, hscopes 0 c hc, houtermost⟩, hglobal, by rw [hsame]; exact h.notCallable⟩

end Later

theorem HasOwnErrors.grows (hgrows : Grows s.1.objects.size s s') (h : HasOwnErrors s.1) :
    HasOwnErrors s'.1 := by
  have hm := Grows.objects hgrows
  obtain ⟨f, hf, hmethod, hkind⟩ := h.method
  obtain ⟨l, hname⟩ := h.name
  obtain ⟨hf', hsame⟩ := hm f hf
  exact ⟨by rw [hgrows.depth]; exact h.depth, h.primitive.of_objects hm,
    ⟨f, hf', hmethod.of_objects hm, by rw [hsame, hkind]⟩, ⟨l, hname.of_objects hm⟩⟩

theorem IsNotLexical.later (h : Binds m n x) (hn : IsNotLexical m n)
    (hscopes : ∀ (i : Nat) (c : Scope), m.scopes[i]? = some c → m'.scopes[i]? = some c) :
    IsNotLexical m' n := by
  obtain ⟨c, hc⟩ : ∃ c, m.scopes[0]? = some c := by
    cases h with
    | lexical hc _ _ _ => exact ⟨_, hc⟩
    | property hc _ _ _ => exact ⟨_, hc⟩
  intro d hd
  rw [hscopes 0 c hc] at hd
  cases hd
  exact hn c hc

theorem IsPlain.here (h : IsPlain m t x) : IsHere m (x.getD .undefined) := by
  cases h with
  | name _ _ hhere => exact hhere
  | key _ _ _ hhere => exact hhere

theorem IsPlain.grows (hgrows : Grows s.1.objects.size s s') (h : IsPlain s.1 t x) :
    IsPlain s'.1 t x := by
  have hm := Grows.objects hgrows
  have hkind := kindOf_of_objects hm h.here
  cases h with
  | name hbinds hreachable hhere =>
      refine .name (Binds.later hm hgrows.scopes hbinds)
        ⟨hreachable.noFeed, hreachable.noConstant, ?_, ?_, ?_⟩ (hhere.of_objects hm)
      · rw [hkind]
        exact hreachable.noDebugger
      · intro hfree
        obtain ⟨hlexical, hglobal⟩ := hreachable.keyed hfree
        exact ⟨IsNotLexical.later hbinds hlexical hgrows.scopes, Binds.later hm hgrows.scopes hglobal⟩
      · exact fun hreserved => HasOwnErrors.grows hgrows (hreachable.errors hreserved)
  | key hother hglobal hfinds hhere =>
      exact .key hother (Binds.later hm hgrows.scopes hglobal) (hfinds.of_objects hm)
        (hhere.of_objects hm)

/-- The type that is found for a name is that of what its look-up finds. -/
theorem IsPlain.kind_run (h : IsPlain s.1 t x) : ∃ s', AddsErrors s s' ∧
    interpreter.kind (.str t) s = .ok (.plain (.str (typeText s.1 (x.getD .undefined)))) s' := by
  cases h with
  | name hbinds hreachable _ => exact NameResolution.kind_run hbinds hreachable
  | key hother hglobal hfinds _ =>
      exact ⟨s, .refl s, (kind_key hother).trans (run_typeofReference hglobal hfinds)⟩

/-- A function that the look-up of a name finds is what it gives. -/
theorem IsPlain.binding_run {r : Ref} (h : IsPlain s.1 t (some (.object r)))
    (hkind : kindOf s.1 (.object r) = "function") : ∃ s', AddsErrors s s' ∧
      interpreter.binding (.str t) s = .ok (.handle (.object r)) s' := by
  cases h with
  | name hbinds hreachable _ => exact NameResolution.binding_run hbinds hreachable hkind
  | key hother hglobal hfinds _ =>
      refine ⟨s, .refl s, ?_⟩
      rw [binding_key hother]
      exact orOnScriptFault_ok (run_reference hglobal hfinds rfl)

theorem CanAsk.grows (hgrows : Grows s.1.objects.size s s') (h : CanAsk s.1 t) : CanAsk s'.1 t := by
  cases h with
  | bound h => exact .bound (h.grows hgrows)
  | constant hw ht h => exact .constant hw ht (h.later (Grows.objects hgrows) hgrows.scopes)

/-! ## Words that are values -/

/-- Whether a script asks for the type of a value that is no function. -/
def isConstantScript : Except SyntaxFault Program → Bool
  | .ok ⟨[], [.expression (.typeOf .this)], false, false⟩ => true
  | .ok ⟨[], [.expression (.typeOf (.literal v))], false, false⟩ =>
    match v with
    | .null | .bool _ => true
    | _ => false
  | _ => false

theorem constant_script : ∀ w ∈ constantWords,
    isConstantScript (parseProgram ("typeof " ++ Text.ofString w) false) = true := by decide +kernel

theorem constant_word : ∀ w ∈ constantWords, isIdentifierText (Text.ofString w) = true ∧
    IsClean ("typeof " ++ Text.ofString w) := by
  intro w hw
  have hidentifier : ∀ w ∈ constantWords, isIdentifierText (Text.ofString w) = true := by decide
  have hclean : ∀ w ∈ constantWords, ∀ c ∈ "typeof " ++ Text.ofString w, 0 < c.val ∧ c.val < 128 := by
    decide
  exact ⟨hidentifier w hw, hclean w hw⟩

theorem receiver_run (h : IsOutermost s.1) :
    Variable.receiver 0 s = .ok (.object globalRef) s := by
  obtain ⟨c, hc, hparent, hcall⟩ := h.scope
  have hnone : Variable.callAt 0 s = .ok none s := by
    change Variable.callFrom (s.1.scopes.size + 1) 0 s = _
    unfold Variable.callFrom
    rw [bind_ok (scope_run hc), hcall, hparent]
    rfl
  unfold Variable.receiver
  rw [bind_ok hnone]
  rfl

/-- A word that is a value by itself is no function. -/
theorem kind_constant {w : String} (hw : w ∈ constantWords) (h : IsOutermost s.1) :
    ∃ k, interpreter.kind (.str (Text.ofString w)) s = .ok (.plain (.str k)) s ∧
      k ≠ Text.ofString "function" := by
  obtain ⟨hidentifier, hclean⟩ := constant_word w hw
  obtain ⟨d, hd⟩ := below_eq
  have hscript := constant_script w hw
  have hasked : ∃ e v, parseProgram ("typeof " ++ Text.ofString w) false =
        .ok (expressionProgram (.typeOf e)) ∧ kindOf s.1 v ≠ "function" ∧
      (Engine.interp hostCall (d + 3)).evaluate scriptSite (.typeOf e) (inScript s) =
        .ok (.ofString (kindOf s.1 v)) (inScript s) := by
    unfold isConstantScript at hscript
    split at hscript
    · rename_i hparse
      have hthis : (Engine.interp hostCall (d + 2)).evaluate scriptSite .this (inScript s) =
          .ok (.object globalRef) (inScript s) := by
        obtain ⟨c, hc⟩ := h.scope
        exact receiver_run ⟨⟨c, hc⟩, h.global, h.notCallable⟩
      refine ⟨.this, .object globalRef, hparse, ?_, (bind_ok hthis).trans (bind_ok (typeName_run _ _))⟩
      simp [kindOf, h.notCallable]
    · rename_i v hparse
      have hvalue : (Engine.interp hostCall (d + 2)).evaluate scriptSite (.literal v) (inScript s) =
          .ok v (inScript s) := rfl
      refine ⟨.literal v, v, hparse, ?_, (bind_ok hvalue).trans (bind_ok (typeName_run _ _))⟩
      split at hscript
      · simp [kindOf, Value.primitiveTypeName]
      · simp [kindOf, Value.primitiveTypeName]
      · cases hscript
    · cases hscript
  obtain ⟨e, v, hparse, hkind, hevaluate⟩ := hasked
  refine ⟨typeText s.1 v, ?_, fun heq => hkind ((typeText_eq _ _ (by decide)).mp heq)⟩
  rw [kind_identifier hidentifier]
  refine orOnScriptFault_ok (run_quiet hclean hparse ?_ (passed_kind s.1 v))
  rw [hd]
  exact hevaluate

/-! ## Names that are scanned -/

theorem Binds.unique {y : Option Value} (h : Binds m n x) (h' : Binds m n y) : x = y := by
  cases h with
  | lexical hc hj hb hv =>
      cases h' with
      | lexical hc' hj' hb' hv' =>
          cases hc.symm.trans hc'
          cases hj.symm.trans hj'
          cases hb.symm.trans hb'
          exact congrArg some (Option.some.inj (hv.symm.trans hv'))
      | property hc' _ hn _ =>
          cases hc.symm.trans hc'
          cases hj.symm.trans hn
  | property hc _ hn hx =>
      cases h' with
      | lexical hc' hj' _ _ =>
          cases hc.symm.trans hc'
          cases hj'.symm.trans hn
      | property _ _ _ hx' => exact hx.unique hx'

/-- One thing is found under a name at most. -/
theorem IsPlain.unique {y : Option Value} (h : IsPlain m t x) (h' : IsPlain m t y) : x = y := by
  have hkey {z : Option Value} (hother : isIdentifierText t = false) (h : IsPlain m t z) :
      Finds m (.name (Utf16.ofText t)) globalRef z := by
    cases h with
    | name hbinds hreachable _ =>
        exact hbinds.finds (hreachable.keyed (not_isFree_of_other hother)).notLexical
    | key _ _ hfinds _ => exact hfinds
  cases h with
  | name hbinds hreachable hhere =>
      cases h' with
      | name hbinds' _ _ => exact Binds.unique hbinds hbinds'
      | key hother _ hfinds _ => exact (hkey hother (.name hbinds hreachable hhere)).unique hfinds
  | key hother _ hfinds _ => exact hfinds.unique (hkey hother h')

theorem IsPlain.noConstant (h : IsPlain m t x) : ∀ w ∈ constantWords, t ≠ Text.ofString w := by
  cases h with
  | name _ hreachable _ => exact hreachable.noConstant
  | key hother _ _ _ =>
      rintro w hw rfl
      rw [(constant_word w hw).1] at hother
      cases hother

/-- A name is bound to a function. -/
def NamesFunction (m : Machine) (t : Text) : Prop :=
  ∃ x, IsPlain m t x ∧ kindOf m (x.getD .undefined) = "function"

/-- What is asked of a name tells whether it is bound to a function. -/
theorem kind_asked (hgrows : Grows s.1.objects.size s s₁) (h : CanAsk s.1 t) :
    ∃ k s₂, interpreter.kind (.str t) s₁ = .ok (.plain (.str k)) s₂ ∧ Grows s.1.objects.size s s₂ ∧
      (k = Text.ofString "function" ↔ NamesFunction s.1 t) := by
  cases h with
  | @bound x h =>
      have hlater := h.grows hgrows
      obtain ⟨s₂, ⟨os, hos, rfl⟩, hkind⟩ := hlater.kind_run
      refine ⟨_, _, hkind, hgrows.trans ((grows_withObjects os s₁).mono hgrows.size), ?_⟩
      rw [typeText_eq _ _ (by decide), kindOf_of_objects (Grows.objects hgrows) h.here]
      refine ⟨fun hfunction => ⟨x, h, hfunction⟩, ?_⟩
      rintro ⟨y, hy, hfunction⟩
      rw [h.unique hy]
      exact hfunction
  | constant hw ht h =>
      subst ht
      obtain ⟨k, hkind, hne⟩ :=
        kind_constant (s := s₁) hw (h.later (Grows.objects hgrows) hgrows.scopes)
      refine ⟨k, s₁, hkind, hgrows, fun heq => absurd heq hne, ?_⟩
      rintro ⟨y, hy, -⟩
      exact absurd rfl (hy.noConstant _ hw)

/-- Going through scanned names adds those that are bound to functions and are not hidden. -/
theorem addLexical_run {scanned : List Text} (hask : ∀ t ∈ scanned, t ∉ hidden → CanAsk s.1 t) :
    ∀ (names : List Text) (s₁ : Machine × Host), Grows s.1.objects.size s s₁ → ∃ names' s₂,
      interpreter.addLexical hidden names scanned s₁ = .ok names' s₂ ∧ Grows s.1.objects.size s s₂ ∧
        ∀ t, t ∈ names' ↔ t ∈ names ∨ (t ∈ scanned ∧ t ∉ hidden ∧ NamesFunction s.1 t) := by
  induction scanned with
  | nil => exact fun names s₁ hgrows => ⟨names, s₁, rfl, hgrows, by simp⟩
  | cons u rest ih =>
      intro names s₁ hgrows
      have hrest := ih fun t ht => hask t (List.mem_cons_of_mem u ht)
      unfold Interpreter.addLexical
      by_cases hskip : u ∈ hidden ∨ u ∈ names
      · obtain ⟨names', s₂, hrun, hgrows₂, hmem⟩ := hrest names s₁ hgrows
        refine ⟨names', s₂, ?_, hgrows₂, fun t => ?_⟩
        · rw [if_pos (by simpa using hskip)]
          exact hrun
        · rw [hmem t, List.mem_cons]
          refine or_congr_right' fun hnot => and_congr_left fun ⟨hvisible, _⟩ => ⟨.inr, ?_⟩
          rintro (rfl | ht)
          · exact absurd hskip (not_or.mpr ⟨hvisible, hnot⟩)
          · exact ht
      · obtain ⟨hvisible, hnew⟩ := not_or.mp hskip
        obtain ⟨k, s₂, hkind, hgrows₂, hfunction⟩ :=
          kind_asked hgrows (hask u List.mem_cons_self hvisible)
        obtain ⟨names', s₃, hrun, hgrows₃, hmem⟩ :=
          hrest (if k == Text.ofString "function" then names ++ [u] else names) s₂ hgrows₂
        refine ⟨names', s₃, ?_, hgrows₃, fun t => ?_⟩
        · rw [if_neg (by simpa using hskip)]
          exact (host_bind_ok hkind).trans hrun
        · rw [hmem t, List.mem_cons]
          by_cases hk : k = Text.ofString "function"
          · have hbound := hfunction.mp hk
            rw [if_pos (beq_iff_eq.mpr hk), List.mem_append, List.mem_singleton, or_assoc]
            refine or_congr_right ⟨?_, ?_⟩
            · rintro (rfl | ⟨ht, hrest⟩)
              · exact ⟨.inl rfl, hvisible, hbound⟩
              · exact ⟨.inr ht, hrest⟩
            · rintro ⟨rfl | ht, hrest⟩
              · exact .inl rfl
              · exact .inr ⟨ht, hrest⟩
          · rw [if_neg (by simpa using hk)]
            refine or_congr_right (and_congr_left fun ⟨_, hbound⟩ => ⟨.inr, ?_⟩)
            rintro (rfl | ht)
            · exact absurd (hfunction.mpr hbound) hk
            · exact ht

/-! ## All functions -/

/-- The names that are not listed, whatever is bound under them. -/
def hiddenNames (i : Instance Value) : List Text := i.registry.modules.map (·.1) ++ i.baseline

/-- The functions of an instance can be listed without running code of the script. -/
structure IsListable (s : Machine × Host) : Prop where
  list : CanList s.1
  values : HoldsValues s.1
  room : s.1.depth + 2 ≤ Engine.callLimit
  ask : ∀ t ∈ LexicalScan.names (s.2.script.text?.getD []), t ∉ hiddenNames s.2 → CanAsk s.1 t

/-- The names that are listed as functions of an instance: keys of the global object, and scanned
names. -/
inductive IsListed (s : Machine × Host) : Text → Prop
  | held {n : Name} (h : n ∈ functionsHeld s.1) (hvisible : n.toText ∉ hiddenNames s.2)
    (hown : Text.startsWith n.toText Registry.hiddenPrefix = false) : IsListed s n.toText
  | scanned {t : Text} (h : t ∈ LexicalScan.names (s.2.script.text?.getD []))
    (hvisible : t ∉ hiddenNames s.2) (hfunction : NamesFunction s.1 t) : IsListed s t

/-- The names among some keys that are listed. -/
def visibleNames (hidden : List Text) (ns : List Name) : List Text :=
  (ns.map Utf16.toText).filter fun t =>
    !(hidden.contains t || Text.startsWith t Registry.hiddenPrefix)

theorem ownFunctions_eq (hidden : List Text) (ns : List Name) :
    ownFunctions hidden (ns.map fun n => .str n.toText) = .ok (visibleNames hidden ns) := by
  unfold visibleNames
  induction ns with
  | nil => rfl
  | cons n ns ih =>
      rw [List.map_cons, ownFunctions, ih, List.map_cons, List.filter_cons]
      change Except.ok _ = _
      cases hidden.contains n.toText || Text.startsWith n.toText Registry.hiddenPrefix with
      | false => rfl
      | true => rfl

/-- The functions of an instance are listed, and what was there stays as it was. -/
theorem functionNames_run (h : IsListable s) :
    ∃ names s', interpreter.functionNames s = .ok names s' ∧ Grows s.1.objects.size s s' ∧
      ∀ t, t ∈ names ↔ IsListed s t := by
  obtain ⟨s₁, hlisted, hgrows⟩ := globalFunctions_run h.list h.values h.room
  obtain ⟨names, s₂, hlexical, hgrows₂, hmem⟩ := addLexical_run h.ask
    (visibleNames (hiddenNames s.2) (functionsHeld s.1)) s₁ hgrows
  refine ⟨names, s₂, ?_, hgrows₂, fun t => ?_⟩
  · have hinstance : HostM.instance_ s = .ok s.2 s := rfl
    have hfiltered : (HostM.ofExcept (ownFunctions (hiddenNames s.2) (listedNames s.1)) :
        EngineM (List Text)) s₁ = .ok (visibleNames (hiddenNames s.2) (functionsHeld s.1)) s₁ := by
      unfold listedNames
      rw [ownFunctions_eq]
      rfl
    unfold Interpreter.functionNames
    refine (host_bind_ok hinstance).trans ?_
    refine (host_bind_ok hlisted).trans ?_
    exact (host_bind_ok hfiltered).trans hlexical
  · rw [hmem t, visibleNames, List.mem_filter, List.mem_map]
    constructor
    · rintro (⟨⟨n, hn, rfl⟩, hvisible⟩ | ⟨hscanned, hvisible, hfunction⟩)
      · simp only [Bool.not_eq_true', Bool.or_eq_false_iff, List.contains_eq_mem,
          decide_eq_false_iff_not] at hvisible
        exact .held hn hvisible.1 hvisible.2
      · exact .scanned hscanned hvisible hfunction
    · intro hlisted
      cases hlisted with
      | @held n hn hvisible hown => exact .inl ⟨⟨n, hn, rfl⟩, by simp [hvisible, hown]⟩
      | scanned hscanned hvisible hfunction => exact .inr ⟨hscanned, hvisible, hfunction⟩

end ScriptHost.Proofs.FunctionListings
