import ScriptHost.Proofs.Encodings
import ScriptHost.Proofs.SparingRegistrations

/-!
# Modules that do not disturb each other

A module has been registered, and then others are, under other names, as often as one likes.  However
their registrations end, script code still reads the first one under its name, what it had captured
still answers, and what can be represented can still be registered: as long as the names are not those
that the registry itself relies on.  The name of the bridge is such a name; a module that takes it is
registered all the same, and no function can be registered after it.
-/

namespace ScriptHost.Proofs.Coexistence

open Interpreter Registry ScriptEngine
open Script
open ScriptHost.Proofs.AssignedKeys (keyName)
open ScriptHost.Proofs.Bindings
open ScriptHost.Proofs.BoundModules
open ScriptHost.Proofs.Bridge
open ScriptHost.Proofs.BridgedCalls (HasJson asks)
open ScriptHost.Proofs.CapabilityPhrases
open ScriptHost.Proofs.DataTexts
open ScriptHost.Proofs.DataValues
open ScriptHost.Proofs.Encodings (toText_ofText)
open ScriptHost.Proofs.Evaluation
open ScriptHost.Proofs.GlobalWrites
open ScriptHost.Proofs.KeptReferences hiding Run Holds
open ScriptHost.Proofs.ReferenceTrees (globalName)
open ScriptHost.Proofs.PlainCall
open ScriptHost.Proofs.PropertyChains
open ScriptHost.Proofs.RegistrationRuns (oneFunction halfShown)
open ScriptHost.Proofs.Registration hiding Issues
open ScriptHost.Proofs.RenderedTrees
open ScriptHost.Proofs.ScriptRuns (below)
open ScriptHost.Proofs.ServedGlobals
open ScriptHost.Proofs.SparingRegistrations

variable {s s' s₀ s₁ s₂ : Machine × Host} {names : List Text} {name capability : HostValue} {key : Text}

/-! ## Sequences of registrations -/

/-- In between registrations, nothing that is there is written: objects and scopes may be added. -/
structure IsQuiet (s s' : Machine × Host) : Prop where
  spares : Spares (fun _ => False) s.1 s'.1
  registry : s'.2.registry = s.2.registry

/-- Modules are registered one after the other, and how each registration ends makes no difference; the
keys of their names are listed.  Rendering them runs no script and registers nothing further. -/
inductive Run (s₀ : Machine × Host) : List Text → Machine × Host → Prop
  | start : Run s₀ [] s₀
  | register {names : List Text} {s : Machine × Host} {name capability : HostValue}
    (before : Run s₀ names s) (renders : RendersIn (fun _ => True) capability)
    (keyed : IsKeyed capability) (short : IsShort s name capability) :
    Run s₀ (keyOf name :: names) (endOf (interpreter.register name capability s))
  | goOn {names : List Text} {s s' : Machine × Host} (before : Run s₀ names s) (quiet : IsQuiet s s') :
    Run s₀ names s'

theorem IsQuiet.leaves (h : IsQuiet s s') : Leaves names s s' :=
  ⟨h.spares.mono fun _ hk => hk.elim, by unfold KeptStates.Issues; rw [h.registry],
    fun key _ => by rw [h.registry]⟩

/-- However a registration under a free name ends, it leaves all but that name as it was. -/
theorem endOf_register_leaves (hs : IsServed s) (hfree : IsFree (keyOf name))
    (hr : RendersIn (fun _ => True) capability) (hkeyed : IsKeyed capability)
    (hshort : IsShort s name capability) :
    Leaves [keyOf name] s (endOf (interpreter.register name capability s)) := by
  obtain ⟨s', hleaves, ⟨hrun, -⟩ | ⟨f, hrun, -⟩⟩ := register_leaves hs hfree hr hkeyed hshort
  · rw [hrun]
    exact hleaves
  · rw [hrun]
    exact hleaves

/-- By induction on the sequence: registrations under free names leave all but these names as it was,
and the engine goes on serving. -/
theorem run_leaves (h : Run s₀ names s) (hs : IsServed s₀) (hnames : ∀ key ∈ names, IsFree key) :
    Leaves names s₀ s := by
  induction h with
  | start => exact .refl _ _
  | @register names s name capability _ hr hkeyed hshort ih =>
      have hbefore := ih fun key hkey => hnames key (List.mem_cons_of_mem _ hkey)
      have hserved := hbefore.served (fun key hkey => hnames key (List.mem_cons_of_mem _ hkey)) hs
      have hafter := endOf_register_leaves hserved (hnames _ List.mem_cons_self) hr hkeyed hshort
      exact (hbefore.mono (List.subset_cons_self _ _)).trans (hafter.mono (by simp))
  | goOn _ hquiet ih => exact (ih hnames).trans hquiet.leaves

/-! ## A module among others -/

/-- What a function object had captured answers as it did before, as long as the reader of data is the
engine's own. -/
def StillAnswers (names : List Text) (s s' : Machine × Host) : Prop :=
  ∀ r id c t raw f j p, Captures s.1 r id c t raw → s.2.registry.function? id = some f →
    HasJson s.1 j p → j ≠ globalRef → Text.ofString "JSON" ∉ names → HasJson s'.1 j p ∧
    ∀ n receiver args,
      (∀ w s'', written hostCall n r c t receiver args s' = .ok w s'' →
        KeptReferences.Holds raw s' s'') →
      (Engine.interp hostCall (n + 6)).call (.object r) receiver args s' =
        asks hostCall n r c t j p (answers n raw f) receiver args s'

/-- A capability that can be rendered, and whose value can leave the engine, is registered under any free
name that is not empty. -/
def StillRegisters (s : Machine × Host) : Prop :=
  ∀ name capability, keyOf name ≠ [] → IsFree (keyOf name) → RendersIn (fun _ => False) capability →
    IsKeyed capability → IsShort s name capability → (∀ f, ¬IsBrokenText s name capability f) →
    ∃ s', interpreter.register name capability s = .ok () s'

/-- A key that no later module has, and that no hidden global has. -/
theorem not_touched (hfree : IsFree key) (hkeys : ∀ k ∈ names, keyName key ≠ keyName k) :
    ¬Touches names (keyName key) := by
  rintro (⟨k, hk, heq⟩ | ⟨id, heq⟩)
  · exact hkeys k hk heq
  · exact keyName_ne_hidden (hfree.notHidden id) heq

theorem holds_of_finds {w : Value} (hs : IsServed s) (h : Finds s.1 (keyName key) globalRef (some w)) :
    BoundModules.Holds s.1 globalRef key w :=
  ⟨hs.global, hs.tabular, h⟩

theorem Leaves.stillAnswers (h : Leaves names s s') : StillAnswers names s s' := by
  intro r id c t raw f j p hcaptures hf hjson hj hnames
  have htouched : ¬Touches names (.name jsonName) := by
    rintro (⟨k, hk, heq⟩ | ⟨i, heq⟩)
    · have hsame : k = "JSON" := eq_of_ofText (by decide) (PropertyKey.name.inj heq).symm
      exact hnames (hsame ▸ hk)
    · exact keyName_ne_hidden (fun heq' => by
        have hfirst := congrArg (·[0]?) heq'
        have hlead : (hiddenName i)[0]? = some (CodePoint.ofChar '_') := rfl
        rw [hlead] at hfirst
        exact absurd hfirst (by decide)) heq
  have hafter := h.spares.hasJson htouched hj hjson
  exact ⟨hafter, fun n receiver args hwritten =>
    call_answered (h.spares.captures hcaptures) (h.issued.function? hf) hafter hwritten⟩

theorem stillRegisters (hs : IsServed s) : StillRegisters s := by
  intro name capability hkey hfree hr hkeyed hshort hwhole
  obtain ⟨s', -, ⟨hrun, -⟩ | ⟨f, -, hempty | ⟨f', hf' | hbroken⟩⟩⟩ :=
    register_leaves hs hfree hr hkeyed hshort
  · exact ⟨s', hrun⟩
  · exact absurd hempty hkey
  · exact hf'.elim
  · exact absurd hbroken (hwhole f')

/-- A module is registered under a free name, in an engine that serves.  Then other modules are, under
other free names, however each registration ends, and nothing is written in between.  After that, script
code still reads the value of the first capability under its name; the module is still that capability;
no object has changed but the global one; what functions had captured still answers; and what can be
represented is still registered. -/
theorem modules_coexist (hs : IsServed s₀) (hfree : IsFree (keyOf name))
    (hr : RendersIn (fun _ => True) capability) (hkeyed : IsKeyed capability)
    (hshort : IsShort s₀ name capability) (hopen : IsOpenTo s₀.1 (keyOf name))
    (hregister : interpreter.register name capability s₀ = .ok () s₁) (hrun : Run s₁ names s₂)
    (hnames : ∀ key ∈ names, IsFree key ∧ keyName (keyOf name) ≠ keyName key) :
    (∃ w, IsValueOf s₀ name capability w ∧ Reads s₁ (keyOf name) w ∧ Reads s₂ (keyOf name) w) ∧
      (s₂.2.registry.module? (keyOf name)).map (·.capability) = some capability ∧
      (∀ r : Ref, r.index < s₁.1.objects.size → r ≠ globalRef → objectAt s₂.1 r = objectAt s₁.1 r) ∧
      StillAnswers names s₁ s₂ ∧ StillRegisters s₂ := by
  obtain ⟨s', hfirst, ⟨hrun₁, hwrites⟩ | ⟨f, hrun₁, -⟩⟩ := register_leaves hs hfree hr hkeyed hshort
  swap
  · rw [hregister] at hrun₁
    cases hrun₁
  rw [hregister] at hrun₁
  cases hrun₁
  have hkey : keyOf name ≠ [] := fun hempty => by
    rw [register_refused capability s₀ hempty] at hregister
    cases hregister
  have hs₁ := hfirst.served (by simpa using hfree) hs
  have hlater := run_leaves hrun hs₁ fun key hkey => (hnames key hkey).1
  have hs₂ := hlater.served (fun key hkey => (hnames key hkey).1) hs₁
  obtain ⟨w, hvalue, hfinds⟩ := hwrites hopen
  have hfinds₂ := hlater.spares.finds (not_touched hfree fun k hk => (hnames k hk).2) hfinds
  obtain ⟨t, ids, s₃, v, s₄, -, -, hinstall⟩ := steps_of_register hkey hregister
  refine ⟨⟨w, hvalue, (holds_of_finds hs₁ hfinds).reads,
    (holds_of_finds hs₂ hfinds₂).reads⟩, ?_,
    hlater.spares.others, Leaves.stillAnswers hlater, stillRegisters hs₂⟩
  rw [hlater.modules _ fun hin => (hnames _ hin).2 rfl]
  exact module_installed hinstall

/-! ## Modules in the realm of the bridge -/

/-- Whether the key is a name that the registry gives to hidden globals. -/
def isHiddenKey : PropertyKey → Bool
  | .name n => Text.startsWith n.toText hiddenPrefix
  | .symbol _ => false

theorem startsWith_append (t u : Text) : Text.startsWith (t ++ u) t = true := by
  induction t with
  | nil => simp [Text.startsWith]
  | cons c t ih => simp [Text.startsWith, ih]

theorem isHiddenKey_hidden (id : Nat) : isHiddenKey (keyName (hiddenName id)) = true := by
  change Text.startsWith (Utf16.ofText (hiddenName id)).toText hiddenPrefix = true
  rw [toText_ofText (isClean_internal (isInternal_hidden id))]
  exact startsWith_append hiddenPrefix _

/-- Whether a property of the global object or of its prototypes allows an engine to serve: it is a
value, which may be written if the registry may come to do so. -/
def isServing (k : PropertyKey) (p : Property) : Bool :=
  match p.slot with
  | .data _ w => w || !isHiddenKey k
  | _ => k == .name prototypeName

/-- Whether all properties of an object and its prototypes pass a test, if these are not too many. -/
def allPass (test : PropertyKey → Property → Bool) (m : Machine) : Nat → Ref → Bool
  | 0, _ => false
  | fuel + 1, r =>
    isOrdinary m r && isTabular (objectAt m r) &&
      (objectAt m r).properties.entries.toList.all (fun e => test e.1 e.2) &&
      match (objectAt m r).prototype with
      | some p => allPass test m fuel p
      | none => true

theorem mem_of_get {table : PropertyTable} {k : PropertyKey} {p : Property} (h : table.get? k = some p) :
    (k, p) ∈ table.entries.toList := by
  obtain ⟨i, hplace, hentry⟩ := Option.bind_eq_some_iff.mp h
  obtain ⟨hi, hkey, -⟩ := Array.findIdx?_eq_some_iff_getElem.mp hplace
  rw [Array.getElem?_eq_getElem hi] at hentry
  obtain rfl : table.entries[i].2 = p := Option.some.inj hentry
  have hpair : table.entries[i] = (k, table.entries[i].2) := Prod.ext (beq_iff_eq.mp hkey) rfl
  rw [← hpair]
  exact Array.mem_toList_iff.mpr (Array.getElem_mem hi)

theorem holdsUp_of {m : Machine} {test : PropertyKey → Property → Bool} {k : PropertyKey}
    {P : Property → Prop} {fuel : Nat} {r : Ref} (h : allPass test m fuel r = true)
    (hP : ∀ p, test k p = true → P p) : ∃ n, HoldsUp P m k n r := by
  induction fuel generalizing r with
  | zero => cases h
  | succ fuel ih =>
      simp only [allPass, Bool.and_eq_true, List.all_eq_true] at h
      obtain ⟨⟨⟨hordinary, htabular⟩, hentries⟩, hmore⟩ := h
      have hown : ∀ p, (objectAt m r).own? k = some p → P p := by
        intro p hp
        rw [(isTabular_of htabular).own] at hp
        exact hP p (hentries (k, p) (mem_of_get hp))
      cases hprototype : (objectAt m r).prototype with
      | none => exact ⟨0, .last (isOrdinary_of hordinary) hown hprototype⟩
      | some q =>
          rw [hprototype] at hmore
          obtain ⟨n, hn⟩ := ih hmore
          exact ⟨n + 1, .inherited (isOrdinary_of hordinary) hown hprototype hn⟩

theorem isStored_of {n : Name} {p : Property} (hn : n ≠ prototypeName)
    (h : isServing (.name n) p = true) : IsStored p := by
  unfold isServing at h
  split at h
  · rename_i v w hslot
    exact ⟨v, w, hslot⟩
  · exact absurd (PropertyKey.name.inj (beq_iff_eq.mp h)) hn

theorem isWritable_of {id : Nat} {p : Property} (h : isServing (keyName (hiddenName id)) p = true) :
    IsWritable p := by
  unfold isServing at h
  rw [isHiddenKey_hidden] at h
  split at h
  · rename_i v w hslot
    obtain rfl : w = true := by simpa using h
    exact ⟨v, hslot⟩
  · have hsame := beq_iff_eq.mp h
    exact absurd hsame.symm (keyName_ne_hidden fun heq => by
      have hthird := congrArg (·[2]?) heq
      have hlead : (hiddenName id)[2]? = some (CodePoint.ofChar 'j') := rfl
      rw [hlead] at hthird
      exact absurd hthird (by decide))

/-- Whether a property is a value for good. -/
def isFixed (m : Machine) (n : Name) : Bool :=
  match (objectAt m globalRef).own? (.name n) with
  | some ⟨.data _ false, _, false⟩ => true
  | _ => false

/-- The special numbers that their names mean. -/
def numbers? (m : Machine) : Option Specials :=
  match constant? m (nameOf "NaN"), constant? m (nameOf "Infinity") with
  | some (.float x), some (.float y) => some ⟨x, y⟩
  | _, _ => none

/-- Whether the name of the bridge means a function that is its own. -/
def isBridged (m : Machine) : Bool :=
  match constant? m (Utf16.ofText bridgeName) with
  | some (.object b) =>
    match (objectAt m b).kind with
    | .closure c => c.scope == 0 && (bridge? c.code).isSome
    | _ => false
  | _ => false

/-- Whether an engine serves registrations as soon as the bridge is there. -/
def allows (m : Machine) : Bool :=
  (match bound? m globalName with
    | some (some (.object q)) => q == globalRef
    | _ => false) &&
  (objectAt m globalRef).extensible && allPass isServing m m.objects.size globalRef &&
  (numbers? m).isSome && numberNames.all (isFixed m) &&
  (match m.scopes[0]? with
    | some c => c.bindings.all fun b => !isHiddenKey (.name b.name)
    | none => true) &&
  decide (m.depth < Engine.callLimit)

/-- Whether an engine serves registrations. -/
def serves (m : Machine) : Bool := allows m && isBridged m

theorem hasNumbers_of {m : Machine} {x : Specials} (h : numbers? m = some x) : HasNumbers m x := by
  unfold numbers? at h
  split at h
  · rename_i hnan hinfinity
    cases h
    exact ⟨hasConstant_of hnan, hasConstant_of hinfinity⟩
  · cases h

theorem isBridge_of {m : Machine} (h : isBridged m = true) :
    ∃ b c t, HasConstant m (Utf16.ofText bridgeName) (.object b) ∧ IsBridge m b c t := by
  unfold isBridged at h
  split at h
  · rename_i b hb
    split at h
    · rename_i c hc
      obtain ⟨hscope, hcode⟩ := (Bool.and_eq_true _ _).mp h
      obtain ⟨t, ht⟩ := Option.isSome_iff_exists.mp hcode
      exact ⟨b, c, t, hasConstant_of hb, hc, bridges_of ht, beq_iff_eq.mp hscope⟩
    · cases h
  · cases h

theorem isNotLexical_of {m : Machine} (id : Nat) (h : (match m.scopes[0]? with
    | some c => c.bindings.all fun b => !isHiddenKey (.name b.name)
    | none => true) = true) : IsNotLexical m (Utf16.ofText (hiddenName id)) := by
  intro c hc
  rw [hc] at h
  refine Array.findIdx?_eq_none_iff.mpr fun b hb => ?_
  have hfree := Array.all_eq_true_iff_forall_mem.mp h b hb
  refine beq_eq_false_iff_ne.mpr fun heq => ?_
  rw [heq, isHiddenKey_hidden] at hfree
  cases hfree

theorem allows_of {m : Machine} (h : allows m = true) (next : Nat) : Allows m next := by
  simp only [allows, Bool.and_eq_true, List.all_eq_true, decide_eq_true_eq] at h
  obtain ⟨⟨⟨⟨⟨⟨hglobal, hextensible⟩, hserving⟩, hnumbers⟩, hfixed⟩, hlexical⟩, hroom⟩ := h
  obtain ⟨x, hx⟩ := Option.isSome_iff_exists.mp hnumbers
  have hsize : 0 < m.objects.size := Nat.pos_of_ne_zero fun hzero => by
    rw [hzero] at hserving
    cases hserving
  refine ⟨?_, ?_, hextensible, fun name hname => holdsUp_of hserving fun p => isStored_of hname,
    ⟨x, hasNumbers_of hx⟩, fun name hname => ?_, fun id _ =>
      ⟨isNotLexical_of id hlexical, holdsUp_of hserving fun p => isWritable_of⟩, hroom⟩
  · split at hglobal
    · rename_i q hbound
      obtain rfl := beq_iff_eq.mp hglobal
      exact binds_of_bound hbound
    · cases hglobal
  · obtain ⟨n, hn⟩ : ∃ n, m.objects.size = n + 1 := ⟨m.objects.size - 1, by omega⟩
    rw [hn] at hserving
    simp only [allPass, Bool.and_eq_true] at hserving
    exact isTabular_of hserving.1.1.2
  · have hvalue := hfixed name hname
    unfold isFixed at hvalue
    split at hvalue
    · rename_i v e hown
      exact ⟨v, e, hown⟩
    · cases hvalue

theorem serves_of {m : Machine} (h : serves m = true) (next : Nat) : Serves m next := by
  obtain ⟨hallows, hbridged⟩ := (Bool.and_eq_true _ _).mp h
  exact (allows_of hallows next).serves (isBridge_of hbridged)

/-- The state of an instance in a realm of few objects, once the bridge is there. -/
def servedState : Machine × Host := endOf (interpreter.run bridgeSource numberState)

/-- A module with a function that returns a number. -/
def functionModule (i : Int) : HostValue := .ofFields [("f", returning 0 i)]

/-- Whether the expression that a capability is rendered as is short enough, if it is rendered. -/
def isShort (s : Machine × Host) (name capability : HostValue) : Bool :=
  match interpreter.build name capability ([], s) with
  | .ok t _ => decide (t.length + 8 ≤ below)
  | .error _ _ => true

theorem isShort_of (h : isShort s name capability = true) : IsShort s name capability := by
  intro t reached hbuild
  unfold isShort at h
  rw [hbuild] at h
  exact of_decide_eq_true h

/-- Whether a module can be registered in an engine that serves, and then another one, and a third one
fails. -/
def coexist (s : Machine × Host) : Bool :=
  serves s.1 && isShort s (.ofString "a") (functionModule 7) &&
    allPass (fun k _ => k != keyName "a") s.1 s.1.objects.size globalRef &&
    registers (.ofString "a") (functionModule 7) s &&
    let s₁ := endOf (interpreter.register (.ofString "a") (functionModule 7) s)
    isShort s₁ (.ofString "b") (functionModule 8) &&
    let s₂ := endOf (interpreter.register (.ofString "b") (functionModule 8) s₁)
    isShort s₂ (.ofString "c") halfShown && !registers (.ofString "c") halfShown s₂

/-- Whether a module of functions can be registered, but not any more after the name of the bridge has
been registered too. -/
def losesBridge (s : Machine × Host) : Bool :=
  match interpreter.register (.ofString "a") (functionModule 7) s with
  | .ok _ s₁ =>
    match interpreter.register (.str bridgeName) (.int 1) s₁ with
    | .ok _ s₂ => !registers (.ofString "b") (functionModule 8) s₂
    | .error _ _ => false
  | .error _ _ => false

theorem seen_in_servedState : (coexist servedState && losesBridge servedState) = true := by
  rw [servedState, run_bridgeTree]
  decide +kernel

theorem isKeyed_functionModule (i : Int) : IsKeyed (functionModule i) :=
  ⟨List.nodup_singleton _, trivial, trivial⟩

theorem isKeyed_halfShown : IsKeyed halfShown := by
  refine ⟨?_, trivial, trivial, trivial⟩
  unfold HostImages.DistinctKeys
  decide

/-- The one-letter names of modules are free. -/
theorem isFree_letter {c : CodePoint} : IsFree [c] where
  notGlobal h := nomatch Nat.succ.inj (congrArg List.length h)
  notPrototype h := nomatch Nat.succ.inj (congrArg List.length h)
  notBridge h := nomatch Nat.succ.inj (congrArg List.length h)
  notHidden id h := by
    have hlong := congrArg (·[1]?) h
    have hlead : (hiddenName id)[1]? = some (CodePoint.ofChar '_') := rfl
    rw [hlead] at hlong
    cases hlong

/-- A module with a function is registered, and then another one; a third registration fails.  Script
code reads the first under its name as before. -/
theorem module_stands_among_others : ∃ s₀ s₁ s₂ w,
    interpreter.register (.ofString "a") (functionModule 7) s₀ = .ok () s₁ ∧
      Run s₁ ["c", "b"] s₂ ∧
      Reads s₁ "a" w ∧ Reads s₂ "a" w ∧
      (s₂.2.registry.module? "a").map (·.capability) = some (functionModule 7) ∧
      StillAnswers ["c", "b"] s₁ s₂ ∧ StillRegisters s₂ := by
  obtain ⟨hcoexist, -⟩ := (Bool.and_eq_true _ _).mp seen_in_servedState
  generalize servedState = s₀ at hcoexist
  simp only [coexist, Bool.and_eq_true] at hcoexist
  obtain ⟨⟨⟨⟨hserves, hshort⟩, hunused⟩, hregisters⟩, ⟨hshort₁, hshort₂, -⟩⟩ := hcoexist
  obtain ⟨s₁, hrun⟩ := register_of hregisters
  rw [hrun] at hshort₁ hshort₂
  have hlater : Run s₁ ["c", "b"] _ :=
    (Run.start.register
      (show RendersIn (fun _ => True) (functionModule 8) from ⟨fun _ => trivial, trivial, trivial⟩)
      (isKeyed_functionModule 8) (isShort_of hshort₁)).register
      (show RendersIn (fun _ => True) halfShown from
        ⟨fun _ => trivial, trivial, fun _ => trivial, fun _ _ => trivial, trivial⟩) isKeyed_halfShown
      (isShort_of hshort₂)
  have hopen : IsOpenTo s₀.1 "a" := holdsUp_of hunused fun p hp => by simp at hp
  have hnames : ∀ key ∈ [Text.ofString "c", Text.ofString "b"], IsFree key ∧ keyName "a" ≠ keyName key := by
    intro key hkey
    simp only [List.mem_cons, List.not_mem_nil, or_false] at hkey
    obtain rfl | rfl := hkey
    · exact ⟨isFree_letter, by decide⟩
    · exact ⟨isFree_letter, by decide⟩
  obtain ⟨⟨w, -, hbefore, hafter⟩, hmodule, -, hanswers, hregisters⟩ :=
    modules_coexist (serves_of hserves _) (show IsFree (keyOf (.ofString "a")) from isFree_letter)
      (show RendersIn (fun _ => True) (functionModule 7) from ⟨fun _ => trivial, trivial, trivial⟩)
      (isKeyed_functionModule 7) (isShort_of hshort)
      hopen hrun hlater hnames
  exact ⟨s₀, s₁, _, w, hrun, hlater, hbefore, hafter, hmodule, hanswers, hregisters⟩

/-- A module of functions is registered, then the name of the bridge, and then another module of
functions cannot be. -/
theorem bridge_name_is_lost : ∃ s₀ s₁ s₂,
    interpreter.register (.ofString "a") (functionModule 7) s₀ = .ok () s₁ ∧
      interpreter.register (.str bridgeName) (.int 1) s₁ = .ok () s₂ ∧
      ¬∃ s₃, interpreter.register (.ofString "b") (functionModule 8) s₂ = .ok () s₃ := by
  obtain ⟨-, hloses⟩ := (Bool.and_eq_true _ _).mp seen_in_servedState
  obtain ⟨s₀, hloses⟩ : ∃ s, losesBridge s = true := ⟨_, hloses⟩
  unfold losesBridge at hloses
  split at hloses
  · rename_i s₁ hfirst
    split at hloses
    · rename_i s₂ hsecond
      refine ⟨s₀, s₁, s₂, hfirst, hsecond, fun ⟨s₃, hthird⟩ => ?_⟩
      unfold registers at hloses
      rw [hthird] at hloses
      cases hloses
    · cases hloses
  · cases hloses

end ScriptHost.Proofs.Coexistence
