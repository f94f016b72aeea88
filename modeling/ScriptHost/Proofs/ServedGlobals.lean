import ScriptHost.Proofs.GlobalValues

/-!
# Engines that serve registrations

In an engine that serves registrations the names that the registry relies on have their own meaning,
and nothing in the global object runs code when it is written.  Each thing that a registration does to
such an engine runs through, and the engine goes on serving.
-/

namespace ScriptHost.Proofs.ServedGlobals

open Interpreter Registry ScriptEngine
open Script Script.Eval
open ScriptHost.Proofs.AssignedKeys
open ScriptHost.Proofs.Bindings
open ScriptHost.Proofs.BoundModules
open ScriptHost.Proofs.Bridge
open ScriptHost.Proofs.BuiltData (get_put_self)
open ScriptHost.Proofs.CapabilityPhrases
open ScriptHost.Proofs.DataTexts
open ScriptHost.Proofs.DataTrees
open ScriptHost.Proofs.DataValues
open ScriptHost.Proofs.Evaluation
open ScriptHost.Proofs.ExpressionScripts
open ScriptHost.Proofs.GlobalValues
open ScriptHost.Proofs.GlobalWrites
open ScriptHost.Proofs.HiddenGlobals (assignment)
open ScriptHost.Proofs.LookupTexts
open ScriptHost.Proofs.NewObjects
open ScriptHost.Proofs.PropertyChains
open ScriptHost.Proofs.ReferenceTrees
open ScriptHost.Proofs.RegistryGrowth
open ScriptHost.Proofs.RenderedTrees
open ScriptHost.Proofs.RenderedValues
open ScriptHost.Proofs.ScriptRuns

/-! ## Served engines -/

/-- The key that sets the prototype of an object. -/
def prototypeName : Name := Utf16.ofString "__proto__"

/-- The names of special numbers. -/
def numberNames : List Name := [nameOf "NaN", nameOf "Infinity"]

/-- An engine that serves registrations, the next of whose functions has a given number: the names that
rendered capabilities use have their own meaning, those of numbers for good; no code runs when the
global object is written, except for its prototype; and the names of further hidden globals are free. -/
structure Serves (m : Machine) (next : Nat) : Prop where
  global : NamesGlobal m
  tabular : IsTabular (objectAt m globalRef)
  extensible : (objectAt m globalRef).extensible = true
  stored : ∀ name : Name, name ≠ prototypeName → ∃ n, HoldsUp IsStored m (.name name) n globalRef
  numbers : ∃ x, HasNumbers m x
  fixed : ∀ name ∈ numberNames, ∃ v e,
    (objectAt m globalRef).own? (.name name) = some ⟨.data v false, e, false⟩
  bridge : ∃ b c t, HasConstant m (Utf16.ofText bridgeName) (.object b) ∧ IsBridge m b c t
  free : ∀ id, next ≤ id → IsNotLexical m (Utf16.ofText (hiddenName id)) ∧
    ∃ n, HoldsUp IsWritable m (keyName (hiddenName id)) n globalRef
  room : m.depth < Engine.callLimit

variable {s s' : Machine × Host} {m m' : Machine} {W : PropertyKey → Prop} {next id : Nat}
  {ids : List Nat} {key : Text} {p : Phrase}

namespace Serves

theorem inRange (h : Serves m next) : globalRef.index < m.objects.size := by
  obtain ⟨b, c, t, hb, -⟩ := h.bridge
  obtain ⟨w, e, d, hown⟩ := hb.property
  exact index_lt (ne_default_of_own hown)

theorem mono (h : Serves m next) (hid : next ≤ id) : Serves m id :=
  { h with free := fun i hi => h.free i (Nat.le_trans hid hi) }

end Serves

/-- An engine that serves registrations as soon as the bridge is there. -/
structure Allows (m : Machine) (next : Nat) : Prop where
  global : NamesGlobal m
  tabular : IsTabular (objectAt m globalRef)
  extensible : (objectAt m globalRef).extensible = true
  stored : ∀ name : Name, name ≠ prototypeName → ∃ n, HoldsUp IsStored m (.name name) n globalRef
  numbers : ∃ x, HasNumbers m x
  fixed : ∀ name ∈ numberNames, ∃ v e,
    (objectAt m globalRef).own? (.name name) = some ⟨.data v false, e, false⟩
  free : ∀ id, next ≤ id → IsNotLexical m (Utf16.ofText (hiddenName id)) ∧
    ∃ n, HoldsUp IsWritable m (keyName (hiddenName id)) n globalRef
  room : m.depth < Engine.callLimit

theorem Serves.allows (h : Serves m next) : Allows m next :=
  ⟨h.global, h.tabular, h.extensible, h.stored, h.numbers, h.fixed, h.free, h.room⟩

namespace Allows

theorem serves (h : Allows m next)
    (hb : ∃ b c t, HasConstant m (Utf16.ofText bridgeName) (.object b) ∧ IsBridge m b c t) :
    Serves m next :=
  ⟨h.global, h.tabular, h.extensible, h.stored, h.numbers, h.fixed, hb, h.free, h.room⟩

/-- An engine goes on to allow registrations as long as the name of the global object is spared. -/
theorem spares (h : Allows m next) (hm : Spares W m m') (hglobal : ¬W (.name globalName)) :
    Allows m' next where
  global := hm.binds hglobal h.global
  tabular := h.tabular.of_kind hm.kind
  extensible := hm.extensible.trans h.extensible
  stored name hname := by
    obtain ⟨n, hn⟩ := h.stored name hname
    exact ⟨n, hm.holdsUp (fun _ hp => hp.isStored) hn⟩
  numbers := by
    obtain ⟨x, hx⟩ := h.numbers
    exact ⟨x, hm.hasFixed hx.nan (h.fixed _ (by simp [numberNames])),
      hm.hasFixed hx.infinity (h.fixed _ (by simp [numberNames]))⟩
  fixed name hname := by
    obtain ⟨v, e, hown⟩ := h.fixed name hname
    exact ⟨v, e, hm.fixed _ _ _ hown⟩
  free i hi := by
    obtain ⟨hlexical, n, hn⟩ := h.free i hi
    obtain ⟨x, hx⟩ := h.numbers
    obtain ⟨sc, hsc, -, -⟩ := hx.nan.outermost
    refine ⟨fun sc' hsc' => ?_, n, hm.holdsUp (fun _ hp => hp) hn⟩
    rw [hm.scopes 0 sc hsc] at hsc'
    cases hsc'
    exact hlexical sc hsc
  room := by
    rw [hm.depth]
    exact h.room

end Allows

namespace Serves

/-- An engine goes on serving as long as the name of the bridge and that of the global object are
spared. -/
theorem spares (h : Serves m next) (hm : Spares W m m') (hglobal : ¬W (.name globalName))
    (hbridge : ¬W (keyName bridgeName)) : Serves m' next := by
  obtain ⟨b, c, t, hb, hbridges⟩ := h.bridge
  exact (h.allows.spares hm hglobal).serves
    ⟨b, c, t, hm.hasConstant hbridge hb, hm.isBridge hbridges⟩

end Serves

theorem canBridge_spares {t : Telling} {raw : Ref} (h : CanBridge m id t raw) (hm : Spares W m m')
    (hbridge : ¬W (keyName bridgeName)) (hhidden : ¬W (keyName (hiddenName id))) :
    CanBridge m' id t raw := by
  obtain ⟨b, c, hname, hb⟩ := h.bridge
  exact ⟨⟨b, c, hm.hasConstant hbridge hname, hm.isBridge hb⟩, hm.hasConstant hhidden h.hidden,
    (hm.kinds (index_lt_of_native h.native)).trans h.native⟩

/-! ## Names of the registry -/

theorem bridgeKey_ne_hidden (id : Nat) : keyName bridgeName ≠ keyName (hiddenName id) :=
  keyName_ne_hidden fun h => by
    have hsame := congrArg (·[7]?) h
    have hlead : (hiddenName id)[7]? = some (CodePoint.ofChar 'h') := rfl
    rw [hlead] at hsame
    exact absurd hsame (by decide)

theorem keyName_hidden_ne {i : Nat} (h : i ≠ id) :
    keyName (hiddenName i) ≠ keyName (hiddenName id) :=
  keyName_ne_hidden fun heq => h (hiddenName_injective heq)

/-! ## Functions of the host -/

section Natives

variable {σ : Type} {s : Machine × σ}

theorem newNative_run (f : Native) (name : Utf16) (length : Nat) (s : Machine × σ) : ∃ s',
    newNative f name length s = .ok ⟨s.1.objects.size⟩ s' ∧ Newer s.1.objects.size s s' ∧
      (objectAt s'.1 ⟨s.1.objects.size⟩).kind = .native f := by
  let start := withObjects [.bare (.native f) (some Intrinsic.functionPrototype.ref)] s
  have hputs : Adds (σ := σ) s.1.objects.size (do
      putProperty ⟨s.1.objects.size⟩ "length" (.readOnly (Value.ofNat length))
      putProperty ⟨s.1.objects.size⟩ "name" (.readOnly (.string name))
      return (⟨s.1.objects.size⟩ : Ref)) fun r => r = ⟨s.1.objects.size⟩ :=
    (adds_put (Nat.le_refl _) _ _).bind fun _ _ => (adds_put (Nat.le_refl _) _ _).bind fun _ _ =>
      .pure rfl
  have hstart : Newer s.1.objects.size s start := by
    have hpush := newer_push (s := s) (.bare (.native f) (some Intrinsic.functionPrototype.ref))
      (Nat.le_refl s.1.objects.size)
    simpa [start, withObjects] using hpush
  obtain ⟨r, s', hrun, hnewer, rfl⟩ := hputs start hstart.size
  refine ⟨s', ?_, hstart.trans hnewer, ?_⟩
  · unfold newNative
    rw [bind_ok (allocate_run _ s)]
    exact hrun
  · rw [hnewer.kinds _ (by simp [start]), objectAt_new]
    rfl

end Natives

/-- The engine takes the next function of the host, and the bridge can make a function object of it. -/
theorem addFunction_serves (h : Serves s.1 id) : ∃ s', interpreter.addFunction id s = .ok () s' ∧
    s'.2 = s.2 ∧ Spares (· = keyName (hiddenName id)) s.1 s'.1 ∧ Tallies 1 s.1 s'.1 ∧
    ∃ t raw, CanBridge s'.1 id t raw := by
  obtain ⟨s₁, hnew, hnewer, hkind⟩ :=
    newNative_run (.host id) (Utf16.ofText (hiddenName id)) 0 s
  have hadded : Spares (· = keyName (hiddenName id)) s.1 s₁.1 := .of_grows hnewer.grows h.inRange
  have hserves := h.spares hadded (global_ne_hidden id) (bridgeKey_ne_hidden id)
  obtain ⟨hlexical, n, hfree⟩ := hserves.free id (Nat.le_refl id)
  have htakes : Takes s₁.1 (keyName (hiddenName id)) globalRef :=
    ⟨hserves.inRange, hserves.tabular, hfree.passes, fun _ => hserves.extensible⟩
  obtain ⟨e, d, hset⟩ := trySet_takes (I := evaluator) (v := .object ⟨s.1.objects.size⟩) htakes
  let s₂ := updated globalRef
    (·.place (keyName (hiddenName id)) (holding (.object ⟨s.1.objects.size⟩) e d)) s₁
  have hplaced : Spares (· = keyName (hiddenName id)) s₁.1 s₂.1 :=
    spares_placed hserves.tabular hserves.inRange _ _ _ hfree.own
  have hserves₂ := hserves.spares hplaced (global_ne_hidden id) (bridgeKey_ne_hidden id)
  have hcounted : Tallies 1 s.1 s₂.1 := by
    have hhere : IsHere s₁.1 (.object ⟨s.1.objects.size⟩) := index_lt_of_native hkind
    simpa using (Tallies.of_grows (n := 0) hnewer.grows h.inRange).trans
      (.of_placed hserves.tabular hserves.inRange hhere _ e d)
  refine ⟨s₂, ?_, hnewer.host, hadded.trans hplaced, hcounted, ?_⟩
  · have hbody : (do
        let f ← newNative (.host id) (Utf16.ofText (hiddenName id)) 0
        setProperty evaluator globalRef (keyName (hiddenName id)) (.object f) : Eval Host Unit) s =
          .ok () s₂ := by
      rw [bind_ok hnew]
      unfold setProperty
      exact bind_ok hset
    change ScriptEngine.addFunction evaluator id s = _
    unfold ScriptEngine.addFunction
    simp only [hbody]
  · obtain ⟨b, c, t, hb, hbridge⟩ := hserves₂.bridge
    obtain ⟨sc, hsc, hparent, -⟩ := hb.outermost
    refine ⟨t, ⟨s.1.objects.size⟩, ⟨b, c, hb, hbridge⟩, ⟨⟨sc, hsc, hparent, ?_⟩, hserves₂.tabular.direct,
      true, e, d, ?_⟩, ?_⟩
    · exact (hserves₂.free id (Nat.le_refl id)).1 sc hsc
    · rw [hserves₂.tabular.own, objectAt_updated hserves.inRange, hserves.tabular.place]
      exact get_put_self _ _ _
    · exact (hplaced.kinds (index_lt_of_native hkind)).trans hkind

/-! ## Assignments -/

/-- In an engine that serves, expressions of capabilities can be evaluated whose functions are there. -/
theorem Serves.isReadyFor (h : Serves s.1 next) (hids : ∀ id ∈ ids, ∃ t raw, CanBridge s.1 id t raw) :
    IsReadyFor ids (inScript s) where
  names := HasOwnNames.inScript ⟨h.numbers, hids⟩
  lines := hasNoLines_inScript s
  room := h.room

theorem isClean_assignment (hclean : IsClean p.text) : IsClean (assignment key p.text) :=
  ((((isClean_word "globalThis[" (Scanning.forall_of_all (by decide))).append (isClean_string key)).append
    (isClean_word "] = " (Scanning.forall_of_all (by decide)))).append hclean).append
      (isClean_word ";" (Scanning.forall_of_all (by decide)))

/-- Nothing stands in the way of writing the global object under a key. -/
def IsOpenTo (m : Machine) (key : Text) : Prop :=
  ∃ n, HoldsUp IsWritable m (keyName key) n globalRef

/-- A capability that is rendered is assigned to the key of its name: its expression has a value, and
of what was there before nothing changes but the key. -/
theorem run_assignment (h : Serves s.1 next) (hids : ∀ id ∈ ids, ∃ t raw, CanBridge s.1 id t raw)
    (hp : IsRenderedPhrase ids p) (hshort : p.text.length + 8 ≤ below)
    (hkey : Utf16.ofText key ≠ prototypeName) : ∃ w s₁ s',
    (Engine.interp hostCall (below - 1)).evaluate scriptSite p.tree (inScript s) = .ok w s₁ ∧
      interpreter.run (assignment key p.text) s = HostM.ofExcept (passed w) s' ∧ s'.2 = s.2 ∧
      Spares (· = keyName key) s.1 s'.1 ∧
      (IsOpenTo s.1 key → Finds s'.1 (keyName key) globalRef (some w) ∧
        (IsHere s₁.1 w → Tallies 1 s.1 s'.1)) := by
  obtain ⟨d, hd⟩ := below_levels 2 (by decide)
  have htokens := length_tokens_le p
  have hrendered := hp.rendered.mono (List.Subset.refl ids) (l := d + 1) (by omega)
  obtain ⟨w, s₁, hvalue, hgrows⟩ := hasValue_of_rendered hrendered (inScript s) (h.isReadyFor hids)
  obtain ⟨u, s₂, hline, hnewer, -⟩ := adds_reachLine 1 s₁ (Nat.le_refl s₁.1.objects.size)
  have hadded : Spares (· = keyName key) (inScript s).1 s₂.1 :=
    .of_grows (hgrows.trans (hnewer.grows.mono hgrows.size)) h.inRange
  obtain ⟨n, hstored⟩ := h.stored _ hkey
  have hstored₂ := hadded.holdsUp (fun _ hp => hp.isStored) (hstored.of_same (m := s.1) rfl)
  have htabular₂ : IsTabular (objectAt s₂.1 globalRef) := h.tabular.of_kind hadded.kind
  obtain ⟨s₃, hset, hhost, hwritten⟩ :=
    setMember_spares (I := Engine.interp hostCall (d + 1)) htabular₂ hstored₂ w
  have hassign : (Engine.interp hostCall below).evaluate scriptSite (assignmentTree key p.tree)
      (inScript s) = .ok w s₃ := by
    rw [hd, evaluate_assignment (hasNoLines_inScript s) (h.global.extends (extends_inScript s)),
      bind_ok hvalue, bind_ok hline, bind_ok hset]
    rfl
  refine ⟨w, s₁, leftScript s s₃, ?_, run_expression (isClean_assignment hp.clean)
    (p.parse_assignment key) hassign, ?_, (hadded.trans hwritten).of_script, ?_⟩
  · rw [show below - 1 = d + 1 by omega]
    exact hvalue
  · exact hhost.trans (hnewer.host.trans hgrows.host)
  · rintro ⟨l, hopen⟩
    have hopen₂ := hadded.holdsUp (fun _ hp => hp) (hopen.of_same (m := s.1) rfl)
    have htakes : Takes s₂.1 (keyName key) globalRef :=
      ⟨hopen₂.ordinary.inRange, htabular₂, hopen₂.passes, fun _ => hadded.extensible.trans h.extensible⟩
    obtain ⟨e, c, htry⟩ := trySet_takes (I := Engine.interp hostCall (d + 1)) (v := w) htakes
    let placed := updated globalRef (·.place (keyName key) (holding w e c)) s₂
    obtain rfl : s₃ = placed := by
      have hset' : setMember (Engine.interp hostCall (d + 1)) (.object globalRef) (keyName key) w false
          s₂ = .ok () placed := by
        unfold setMember
        exact (bind_ok htry).trans rfl
      exact (EStateM.Result.ok.inj (hset.symm.trans hset')).2
    refine ⟨Finds.of_objects (m := placed.1) (fun r hr => ⟨hr, rfl⟩) (finds_placed htakes w e c),
      fun hw => ?_⟩
    have hgrowing := hgrows.trans (hnewer.grows.mono hgrows.size)
    have hcounted := (Tallies.of_grows (n := 0) hgrowing h.inRange).trans
      (.of_placed htabular₂ hopen₂.ordinary.inRange (hw.mono hnewer.grows.size) (keyName key) e c)
    exact hcounted.of_script

/-! ## Deletions -/

/-- A hidden global is deleted, and of what was there before nothing else changes. -/
theorem run_deletion (h : Serves s.1 next) (id : Nat) : ∃ w s',
    interpreter.run (Registration.deletion id) s = .ok w s' ∧ s'.2 = s.2 ∧
      Spares (· = keyName (hiddenName id)) s.1 s'.1 := by
  obtain ⟨d, hd⟩ := below_levels 2 (by decide)
  have htabular : IsTabular (objectAt (inScript s).1 globalRef) := h.tabular
  obtain ⟨refusal, s₁, hdelete, hcases⟩ :=
    deleteOwn_run (Engine.interp hostCall (d + 1)) htabular (keyName (hiddenName id))
  have hspares : s₁.2 = s.2 ∧ Spares (· = keyName (hiddenName id)) (inScript s).1 s₁.1 := by
    obtain rfl | ⟨rfl, p, hown, hp⟩ := hcases
    · exact ⟨rfl, .refl _ _⟩
    · exact ⟨rfl, spares_removed htabular h.inRange hown hp⟩
  obtain ⟨b, hdelete⟩ := evaluate_deletion (hasNoLines_inScript s)
    (h.global.extends (extends_inScript s)) hdelete
  refine ⟨.plain (.bool b), leftScript s s₁, ?_, hspares.1, hspares.2.of_script⟩
  rw [deletion_eq]
  exact run_evaluated (isClean_deletion id) (parse_deletion _) (by rw [hd]; exact hdelete) rfl

end ScriptHost.Proofs.ServedGlobals
