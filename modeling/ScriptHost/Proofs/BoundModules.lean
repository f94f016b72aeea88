import ScriptHost.Proofs.AssignedKeys
import ScriptHost.Proofs.CapabilityPhrases
import ScriptHost.Proofs.KeptReferences

/-!
# What a registered name is bound to

A registration that succeeds has rendered its capability as a phrase, and has evaluated the phrase
before anything was written.  Where the object that is meant by the name of the global object takes
the value, script code reads it under the name afterwards, whatever globals of the module that was
there before are deleted.

Script code may have made a global that is not writable, and the engine makes some.  The assignment
is one of sloppy code, which goes on then: the registration succeeds, and the name is bound to what
it was bound to before.
-/

namespace ScriptHost.Proofs.BoundModules

open Script Script.Eval ScriptEngine Registry
open ScriptHost.Proofs.AssignedKeys
open ScriptHost.Proofs.Bindings
open ScriptHost.Proofs.Bridge
open ScriptHost.Proofs.CapabilityPhrases
open ScriptHost.Proofs.DataScripts
open ScriptHost.Proofs.DataTexts
open ScriptHost.Proofs.DataTokens hiding ok_of_bind
open ScriptHost.Proofs.DataTrees
open ScriptHost.Proofs.DataValues
open ScriptHost.Proofs.Dispatch
open ScriptHost.Proofs.Evaluation
open ScriptHost.Proofs.ExpressionScripts
open ScriptHost.Proofs.HiddenGlobals
open ScriptHost.Proofs.KeptReferences (bridgedRealm endOf)
open ScriptHost.Proofs.LookupTexts
open ScriptHost.Proofs.NewObjects
open ScriptHost.Proofs.PropertyChains
open ScriptHost.Proofs.ReferenceTrees
open ScriptHost.Proofs.Registration
open ScriptHost.Proofs.RegistryBalance
open ScriptHost.Proofs.RenderedTrees
open ScriptHost.Proofs.ScannedNames
open ScriptHost.Proofs.ScannedStrings
open ScriptHost.Proofs.ScriptRuns
open ScriptHost.Proofs.Transition

variable {s s' : Machine × Host} {key t u : Text} {r : Ref} {v w : Value} {x : Option Value}
  {p : Phrase} {ids : List Nat} {id : Nat}

/-! ## Keys that differ -/

/-- A text of plain characters is the only one with its units. -/
theorem eq_of_ofText (hplain : ∀ c ∈ u, c.val < 128) (h : Utf16.ofText t = Utf16.ofText u) : t = u := by
  have hencode : Utf16.encode t = Utf16.encode u := by
    have hunits := congrArg Utf16.units h
    rw [ofText_units, ofText_units] at hunits
    exact congrArg Array.toList hunits
  have hsmall : ∀ n ∈ Utf16.encode u, n.toNat < 128 := by
    intro n hn
    obtain ⟨c, hc, hn⟩ := List.mem_flatMap.mp hn
    have hlt := hplain c hc
    unfold Utf16.encodePoint at hn
    rw [if_pos (by omega)] at hn
    obtain rfl := List.mem_singleton.mp hn
    rw [Nat.toUInt16_eq, UInt16.toNat_ofNat']
    omega
  exact (encode_plain hsmall t hencode).trans (encode_plain hsmall u rfl).symm

theorem keyName_ne (hplain : ∀ c ∈ u, c.val < 128) (h : t ≠ u) : keyName t ≠ keyName u := fun heq =>
  h (eq_of_ofText hplain (PropertyKey.name.inj heq))

theorem isPlain_hidden (id : Nat) : ∀ c ∈ hiddenName id, c.val < 128 := fun c hc =>
  (isClean_internal (isInternal_hidden id) c hc).2

theorem keyName_ne_hidden (h : key ≠ hiddenName id) : keyName key ≠ keyName (hiddenName id) :=
  keyName_ne (isPlain_hidden id) h

theorem global_ne_hidden (id : Nat) : PropertyKey.name globalName ≠ keyName (hiddenName id) :=
  keyName_ne_hidden fun h => by
    have hstarts : (hiddenName id).head? = some (CodePoint.ofChar '_') := (isInternal_hidden id).starts
    rw [← h] at hstarts
    exact absurd hstarts (by decide)

/-! ## Values of phrases -/

/-- The names that rendered capabilities use have their own meaning: those of special numbers, that of
the bridge, and those of host functions. -/
structure HasOwnNames (m : Machine) (ids : List Nat) : Prop where
  numbers : ∃ y, HasNumbers m y
  functions : ∀ id ∈ ids, ∃ t raw, CanBridge m id t raw

theorem HasOwnNames.inScript (h : HasOwnNames s.1 ids) : HasOwnNames (inScript s).1 ids := by
  have hconstant {k : Name} {v : Value} (h : HasConstant s.1 k v) :
      HasConstant (ScriptRuns.inScript s).1 k v := ⟨h.outermost, h.direct, h.property⟩
  obtain ⟨y, hy⟩ := h.numbers
  refine ⟨⟨y, hconstant hy.nan, hconstant hy.infinity⟩, fun id hid => ?_⟩
  obtain ⟨t, raw, hcan⟩ := h.functions id hid
  obtain ⟨b, c, hb, hbridge⟩ := hcan.bridge
  exact ⟨t, raw, ⟨b, c, hconstant hb, hbridge.closure, hbridge.code, hbridge.scope⟩,
    hconstant hcan.hidden, hcan.native⟩

section Values

variable {σ : Type} {s s' : Machine × σ} {host : Engine.HostCall σ} {n : Nat} {e : Expr} {v : Value}

theorem object_of_array {items : List Element}
    (h : (Engine.interp host (n + 1)).evaluate scriptSite (.array items) s = .ok v s') :
    ∃ r, v = .object r := by
  change Expression.array (Engine.interp host n) scriptSite items s = _ at h
  unfold Expression.array at h
  split at h
  · obtain ⟨r, s₁, -, h⟩ := ok_of_bind h
    obtain ⟨l, s₂, -, h⟩ := ok_of_bind h
    obtain ⟨u, s₃, -, h⟩ := ok_of_bind h
    cases h
    exact ⟨r, rfl⟩
  · obtain ⟨vs, s₁, -, h⟩ := ok_of_bind h
    obtain ⟨r, s₂, -, h⟩ := ok_of_bind h
    cases h
    exact ⟨r, rfl⟩

theorem object_of_members {ms : List Member}
    (h : (Engine.interp host (n + 1)).evaluate scriptSite (.object ms) s = .ok v s') :
    ∃ r, v = .object r := by
  change Expression.objectValue (Engine.interp host n) scriptSite ms s = _ at h
  obtain ⟨r, s₁, -, h⟩ := ok_of_bind h
  obtain ⟨u, s₂, -, h⟩ := ok_of_bind h
  cases h
  exact ⟨r, rfl⟩

theorem isNumber_signed (negative : Bool) (hv : IsNumber v) : IsNumber (signedValue negative v) := by
  cases negative with
  | false => exact hv
  | true =>
      cases v with
      | int i =>
          change IsNumber (if i = 0 then Number.negativeZero else Value.ofInt (-i.toInt))
          split
          · trivial
          · exact isNumber_ofInt _
      | float x => trivial
      | _ => cases hv

theorem isNumber_floatValue (y : Specials) (z : Float) :
    IsNumber (floatValue y (Binary.Parts.ofFloat z)) := by
  cases Binary.Parts.ofFloat z with
  | nan => trivial
  | infinite negative => exact isNumber_signed negative (v := .float y.infinity) trivial
  | finite negative significand exponent => exact isNumber_signed negative (isNumber_value _)

/-- The value of a rendered capability is an object, unless the capability is plain data of another
kind; where it is a text, the expression is that text. -/
theorem value_of_rendered (hnames : HasOwnNames s.1 ids) (hlines : HasNoLines s)
    {l : Nat} (he : IsRendered ids l e)
    (h : (Engine.interp host (n + 6)).evaluate scriptSite e s = .ok v s') :
    (∃ r, v = .object r) ∨ v = .null ∨ (∃ b, v = .bool b) ∨ IsNumber v ∨
      ∃ u, v = .string u ∧ e = .literal (.string u) := by
  cases he with
  | bridging hid _ =>
      obtain ⟨t, raw, hcan⟩ := hnames.functions _ hid
      obtain ⟨r, c, rfl, -⟩ := captures_of_bridging hcan rfl h
      exact .inl ⟨r, rfl⟩
  | list _ => exact .inl (object_of_array h)
  | mapping _ => exact .inl (object_of_members h)
  | @datum _ d hd _ =>
      obtain ⟨y, hy⟩ := hnames.numbers
      have hplaced (hlevels : levels d = 2) : v = (placed y s.1.objects.size d).1 := by
        have hrun := @evaluate_tree _ host scriptSite y rfl d (n + 6) _
          (by omega) ⟨hlines, .inr hy⟩
        rw [hrun] at h
        cases h
        rfl
      cases hd with
      | list _ => exact .inl (object_of_array h)
      | dict _ _ _ => exact .inl (object_of_members h)
      | none => exact .inr (.inl (hplaced rfl))
      | bool b => exact .inr (.inr (.inl ⟨b, hplaced rfl⟩))
      | int i | intMember i =>
          rw [hplaced rfl]
          exact .inr (.inr (.inr (.inl (isNumber_signed _ (isNumber_ofInt _)))))
      | float z =>
          rw [hplaced rfl]
          exact .inr (.inr (.inr (.inl (isNumber_floatValue y z))))
      | str u | strMember u => exact .inr (.inr (.inr (.inr ⟨_, hplaced rfl, rfl⟩)))

/-- The value of a rendered capability is something: the bridge makes functions. -/
theorem rendered_ne_undefined (hnames : HasOwnNames s.1 ids) (hlines : HasNoLines s)
    {l : Nat} (he : IsRendered ids l e)
    (h : (Engine.interp host (n + 6)).evaluate scriptSite e s = .ok v s') : v ≠ .undefined := by
  rintro rfl
  obtain ⟨r, hr⟩ | hnull | ⟨b, hb⟩ | hnumber | ⟨u, hu, -⟩ := value_of_rendered hnames hlines he h
  · cases hr
  · cases hnull
  · cases hb
  · cases hnumber
  · cases hu

end Values

/-! ## What is read under a name -/

/-- What script code reads under a key of what the name of the global object means. -/
def Reads (s : Machine × Host) (key : Text) (v : Value) : Prop :=
  Statement.runScript evaluator (reference key) s = .ok v s

theorem below_levels (k : Nat) (hk : k ≤ 2 ^ 40 - 1) : ∃ d, below = d + k :=
  ⟨below - k, (Nat.sub_add_cancel hk).symm⟩

/-- An object holds a value under a key, and is what the name of the global object means. -/
structure Holds (m : Machine) (r : Ref) (key : Text) (v : Value) : Prop where
  global : NamesObject m r
  tabular : IsTabular (objectAt m r)
  finds : Finds m (keyName key) r (some v)

namespace Holds

theorem reads (h : Holds s.1 r key v) : Reads s key v := runScript_reference h.global h.finds

theorem of_same {m m' : Machine} (h : Holds m r key v) (hobjects : m'.objects = m.objects)
    (hscopes : m'.scopes = m.scopes) : Holds m' r key v := by
  have hextends : Extends m m' := ⟨fun q hq => by
    unfold objectAt
    rw [hobjects]
    exact ⟨hq, rfl⟩, hscopes⟩
  refine ⟨h.global.extends hextends, ?_, hextends.finds h.finds⟩
  unfold objectAt
  rw [hobjects]
  exact h.tabular

theorem of_differs {m m' : Machine} {k : PropertyKey} (h : Holds m r key v) (hm : Differs k m m')
    (hglobal : .name globalName ≠ k) (hkey : keyName key ≠ k) : Holds m' r key v :=
  ⟨hm.binds hglobal h.global, h.tabular.of_kind (hm.kind r), hm.finds hkey h.finds⟩

end Holds

theorem deletion_eq (id : Nat) : Registration.deletion id = deletionText (hiddenName id) := by
  have hwords : Text.ofString "delete globalThis[" =
      Text.ofString "delete " ++ Text.ofString "globalThis[" := by decide
  have hend : Text.ofString "];" = Text.ofString "]" ++ Text.ofString ";" := by decide
  unfold Registration.deletion deletionText reference
  rw [hwords, hend]
  simp only [List.append_assoc]

theorem isClean_deletion (id : Nat) : IsClean (deletionText (hiddenName id)) :=
  ((isClean_word "delete " (Scanning.forall_of_all (by decide))).append (isClean_reference _)).append
    (isClean_word ";" (Scanning.forall_of_all (by decide)))

/-- A hidden global is deleted, and what is held under other keys stays. -/
theorem deletion_holds (h : Holds s.1 r key v) (hkey : key ≠ hiddenName id) :
    ∃ w s', interpreter.run (Registration.deletion id) s = .ok w s' ∧ s'.2 = s.2 ∧
      Holds s'.1 r key v := by
  obtain ⟨d, hd⟩ := below_levels 2 (by decide)
  have htabular : IsTabular (objectAt (inScript s).1 r) := h.tabular
  obtain ⟨refusal, s₁, hdelete, hcases⟩ :=
    deleteOwn_run (Engine.interp hostCall (d + 1)) htabular (keyName (hiddenName id))
  have hdiffers : s₁.2 = s.2 ∧ Differs (keyName (hiddenName id)) (inScript s).1 s₁.1 := by
    obtain rfl | ⟨rfl, -⟩ := hcases
    · exact ⟨rfl, .refl _ _⟩
    · exact ⟨rfl, differs_removed htabular _⟩
  obtain ⟨hhost, hdiffers⟩ := hdiffers
  obtain ⟨b, hdelete⟩ := evaluate_deletion (hasNoLines_inScript s)
    (h.global.extends (extends_inScript s)) hdelete
  refine ⟨.plain (.bool b), leftScript s s₁, ?_, hhost, ?_⟩
  · rw [deletion_eq]
    exact run_evaluated (isClean_deletion id) (parse_deletion _) (by rw [hd]; exact hdelete) rfl
  · have hafter : Holds s₁.1 r key v :=
      (show Holds (inScript s).1 r key v from h.of_same rfl rfl).of_differs hdiffers (global_ne_hidden id)
        (keyName_ne_hidden hkey)
    exact hafter.of_same rfl rfl

/-- Hidden globals are released, and what is held under other keys stays. -/
theorem release_holds (h : Holds s.1 r key v) (hids : ∀ id ∈ ids, key ≠ hiddenName id)
    {u : Unit} (hrun : interpreter.release ids s = .ok u s') : Holds s'.1 r key v := by
  induction ids generalizing s with
  | nil =>
      cases hrun
      exact h
  | cons id rest ih =>
      obtain ⟨hid, hrest⟩ := List.forall_mem_cons.mp hids
      rw [release_cons] at hrun
      obtain ⟨w, s₁, hdelete, hrun⟩ := Transition.ok_of_bind hrun
      obtain ⟨w', s₂, hdelete', hhost, hafter⟩ := deletion_holds h hid
      rw [hdelete] at hdelete'
      cases hdelete'
      obtain ⟨u, s₃, hretire, hrun⟩ := Transition.ok_of_bind hrun
      cases hretire
      exact ih (s := (s₁.1, { s₁.2 with registry := s₁.2.registry.retire id })) hafter hrest hrun

/-! ## Registrations that succeed -/

section Steps

variable {E V : Type} {X : Interpreter E V} {name capability : HostValue} {s s' : E × Instance V}

/-- A registration that succeeds has rendered its capability, assigned it, and been put in place. -/
theorem steps_of_register (hkey : keyOf name ≠ [])
    (h : X.register name capability s = .ok () s') :
    ∃ t ids s₁ v s₂, X.build name capability ([], s) = .ok t (ids, s₁) ∧
      X.run (assignment (keyOf name) t) s₁ = .ok v s₂ ∧
      install X name capability ids s₂ = .ok () s' := by
  cases hrun : attempt X name capability s with
  | error f reached =>
      obtain ⟨ids, s₁⟩ := reached
      rw [register_failed hkey hrun] at h
      split at h
      · obtain ⟨u, s₂, -, h⟩ := Transition.ok_of_bind h
        obtain ⟨t, s₃, -, h⟩ := Transition.ok_of_bind h
        cases h
      · cases h
  | ok u reached =>
      obtain ⟨ids, s₂⟩ := reached
      rw [register_assigned hkey hrun] at h
      obtain ⟨t, ⟨ids₁, s₁⟩, hbuild, hrun⟩ := Transition.ok_of_bind hrun
      obtain ⟨v, ⟨ids₂, s₃⟩, hassign, hrun⟩ := Transition.ok_of_bind hrun
      obtain ⟨hassign, hids⟩ := ok_of_lift hassign
      cases hrun
      obtain rfl : ids = ids₁ := hids
      exact ⟨t, ids, s₁, v, s₂, hbuild, hassign, h⟩

/-- A module that is put in place is the one under its name. -/
theorem module_installed (h : install X name capability ids s = .ok () s') :
    (s'.2.registry.module? (keyOf name)).map (·.capability) = some capability := by
  rw [install_run] at h
  obtain ⟨u, s₁, -, h⟩ := Transition.ok_of_bind h
  cases h
  unfold Registry.module? Registry.bind
  rw [find_putModule, if_pos rfl]
  rfl

end Steps

theorem passesAt_of_same {m m' : Machine} {k : PropertyKey} {n : Nat}
    (hobjects : m'.objects = m.objects) (h : PassesAt m k n r) : PassesAt m' k n r := by
  have hat (q : Ref) : objectAt m' q = objectAt m q := by
    unfold objectAt
    rw [hobjects]
  have hordinary {q : Ref} (h : IsOrdinary m q) : IsOrdinary m' q :=
    ⟨by rw [hobjects]; exact h.inRange, by rw [hat]; exact h.direct⟩
  induction h with
  | stored h hown => exact .stored (hordinary h) (by rw [hat]; exact hown)
  | nowhere h hnone hlast =>
      exact .nowhere (hordinary h) (by rw [hat]; exact hnone) (by rw [hat]; exact hlast)
  | inherited h hnone hprototype _ ih =>
      exact .inherited (hordinary h) (by rw [hat]; exact hnone) (by rw [hat]; exact hprototype) ih

theorem takes_of_same {m m' : Machine} {k : PropertyKey} (hobjects : m'.objects = m.objects)
    (h : Takes m k r) : Takes m' k r := by
  have hat : objectAt m' r = objectAt m r := by
    unfold objectAt
    rw [hobjects]
  obtain ⟨n, hpasses⟩ := h.passes
  exact ⟨by rw [hobjects]; exact h.inRange, by rw [hat]; exact h.tabular,
    ⟨n, passesAt_of_same hobjects hpasses⟩, by rw [hat]; exact h.room⟩

/-- The state in which a value is about to be written under a key: the object that it is written to is
what the name of the global object means, and stays that, and no hidden global of the module that was
there before has the key. -/
structure Writes (s : Machine × Host) (r : Ref) (key : Text) : Prop where
  global : NamesObject s.1 r
  tabular : IsTabular (objectAt s.1 r)
  notGlobal : key ≠ Text.ofString "globalThis"
  unreleased : ∀ id ∈ s.2.registry.boundTo key, key ≠ hiddenName id

variable {name capability : HostValue} {e : Expr}

/-- What an object holds where the module is put in place is read afterwards. -/
theorem install_reads (h : Holds s.1 r (keyOf name) v)
    (hids : ∀ id ∈ s.2.registry.boundTo (keyOf name), keyOf name ≠ hiddenName id)
    (hrun : install interpreter name capability ids s = .ok () s') : Reads s' (keyOf name) v := by
  rw [install_run] at hrun
  obtain ⟨u, s₁, hrelease, hrun⟩ := Transition.ok_of_bind hrun
  have hheld : Holds s₁.1 r (keyOf name) v := release_holds (s := vacated name s) h hids hrelease
  cases hrun
  exact Holds.reads (s := (s₁.1, _)) hheld

/-- An assignment that runs through evaluates the expression, and writes the value to what the name
of the global object meant: if that holds a value under the key then, the value is read where the
module has been put in place. -/
theorem assignment_reads (hparse : parseProgram (assignment (keyOf name) t) false =
      .ok (expressionProgram (assignmentTree (keyOf name) e)))
    {a : Passed Value} {s₁ : Machine × Host}
    (hrun : interpreter.run (assignment (keyOf name) t) s = .ok a s₁)
    (hinstall : install interpreter name capability ids s₁ = .ok () s') (hr : NamesObject s.1 r) :
    ∃ w s₂, (Engine.interp hostCall (below - 1)).evaluate scriptSite e (inScript s) = .ok w s₂ ∧
      (Writes s₂ r (keyOf name) →
        (Takes s₂.1 (keyName (keyOf name)) r → Reads s' (keyOf name) w) ∧
        ∀ u, IsReadOnly s₂.1 (keyName (keyOf name)) r u → Reads s' (keyOf name) u) := by
  obtain ⟨d, hd⟩ := below_levels 2 (by decide)
  have hlast : below - 1 = d + 1 := by omega
  obtain ⟨w, s₃, hvalue, rfl⟩ := evaluated_of_run hparse hrun
  rw [hd] at hvalue
  obtain ⟨s₂, s₄, he, hline, hset⟩ :=
    assignment_ran (hasNoLines_inScript s) (hr.extends (extends_inScript s)) hvalue
  refine ⟨w, s₂, by rw [hlast]; exact he, fun hwrites => ?_⟩
  obtain ⟨s₅, hline', hobjects, hscopes, hhost⟩ := reachLine_same 1 s₂
  rw [hline] at hline'
  cases hline'
  have hat (q : Ref) : objectAt s₄.1 q = objectAt s₂.1 q := by
    unfold objectAt
    rw [hobjects]
  have hsame : Extends s₂.1 s₄.1 := ⟨fun q hq => ⟨by rw [hobjects]; exact hq, hat q⟩, hscopes⟩
  have hglobal : PropertyKey.name globalName ≠ keyName (keyOf name) := fun heq =>
    hwrites.notGlobal (eq_of_ofText (by decide) (PropertyKey.name.inj heq).symm)
  have hread {u : Value} {s₆ : Machine × Host} (hhost' : s₆.2 = s₄.2)
      (hdiffers : Differs (keyName (keyOf name)) s₄.1 s₆.1)
      (hfinds : Finds s₆.1 (keyName (keyOf name)) r (some u))
      (hinstall : install interpreter name capability ids (leftScript s s₆) = .ok () s') :
      Reads s' (keyOf name) u := by
    have htabular : IsTabular (objectAt s₄.1 r) := by
      rw [hat]
      exact hwrites.tabular
    have hholds : Holds s₆.1 r (keyOf name) u :=
      ⟨hdiffers.binds hglobal (hwrites.global.extends hsame), htabular.of_kind (hdiffers.kind r), hfinds⟩
    refine install_reads (s := leftScript s s₆) (hholds.of_same rfl rfl) ?_ hinstall
    rw [show (leftScript s s₆).2 = s₂.2 from hhost'.trans hhost]
    exact hwrites.unreleased
  constructor
  · intro htakes
    have htakes' : Takes s₄.1 (keyName (keyOf name)) r := takes_of_same hobjects htakes
    obtain ⟨s₆, hrun, hhost', hdiffers, hfinds⟩ := setMember_takes (v := w)
      (I := Engine.interp hostCall (d + 1)) htakes'
    rw [hset] at hrun
    cases hrun
    exact hread hhost' hdiffers hfinds hinstall
  · intro u hu
    have hu' : IsReadOnly s₄.1 (keyName (keyOf name)) r u :=
      ⟨⟨by rw [hobjects]; exact hu.ordinary.inRange, by rw [hat]; exact hu.ordinary.direct⟩, by
        rw [hat]
        exact hu.own⟩
    have hrun := setMember_readOnly (v := w) (I := Engine.interp hostCall (d + 1)) hu'
    rw [hset] at hrun
    cases hrun
    exact hread rfl (.refl _ _) hu'.finds hinstall

/-- A registration that succeeds puts the capability under its name, and has rendered it as a script
of one expression.  The value of the expression is something, as long as the names of the bridge and
of numbers have their own meaning; and it is what script code reads under the name afterwards, if the
object that the name of the global object means takes it.  Where that object holds a value that may
not be written, script code still reads this. -/
theorem registered_name_is_bound (hkey : keyOf name ≠ []) (hkeyed : IsKeyed capability)
    (hrun : interpreter.register name capability s = .ok () s') :
    (s'.2.registry.module? (keyOf name)).map (·.capability) = some capability ∧
    ∃ t e ids s₁, interpreter.build name capability ([], s) = .ok t (ids, s₁) ∧
      parseProgram (parenthesized t) false = .ok (expressionProgram e) ∧
      ∀ r, NamesObject s₁.1 r → ∃ w s₂,
        (Engine.interp hostCall (below - 1)).evaluate scriptSite e (inScript s₁) = .ok w s₂ ∧
        (HasOwnNames s₁.1 ids → w ≠ .undefined) ∧
        (Writes s₂ r (keyOf name) →
          (Takes s₂.1 (keyName (keyOf name)) r → Reads s' (keyOf name) w) ∧
          ∀ u, IsReadOnly s₂.1 (keyName (keyOf name)) r u → Reads s' (keyOf name) u) := by
  obtain ⟨t, ids, s₁, a, s₂, hbuild, hassign, hinstall⟩ := steps_of_register hkey hrun
  obtain ⟨-, p, rfl, hp⟩ :=
    build_isPhrase (invokesKeyed_interpreterOver evaluator) name capability hkeyed hbuild
  refine ⟨module_installed hinstall, p.text, p.tree, ids, s₁, hbuild, p.parse, fun r hr => ?_⟩
  obtain ⟨w, s₃, hvalue, hreads⟩ :=
    assignment_reads (p.parse_assignment (keyOf name)) hassign hinstall hr
  refine ⟨w, s₃, hvalue, fun hnames => ?_, hreads⟩
  obtain ⟨d, hd⟩ := below_levels 7 (by decide)
  rw [show below - 1 = d + 6 by omega] at hvalue
  exact rendered_ne_undefined hnames.inScript (hasNoLines_inScript s₁) hp.rendered hvalue

/-! ## A module that is bound -/

/-- Whether an object keeps all its properties in its table. -/
def isTabular (o : Object) : Bool :=
  match o.kind with
  | .proxy _ _ _ | .array _ _ _ | .wrapper (.string _) => false
  | _ => true

theorem isTabular_of {o : Object} (h : isTabular o = true) : IsTabular o := by
  unfold isTabular at h
  refine ⟨fun _ _ _ hkind => ?_, fun _ _ _ hkind => ?_, fun _ hkind => ?_⟩
  all_goals
    rw [hkind] at h
    cases h

/-- Whether a write under a key passes, if the object is not too many prototypes down. -/
def passes (m : Machine) (k : PropertyKey) : Nat → Ref → Bool
  | 0, _ => false
  | fuel + 1, r =>
    isOrdinary m r &&
      match (objectAt m r).own? k, (objectAt m r).prototype with
      | some ⟨.data _ true, _, _⟩, _ => true
      | some _, _ => false
      | none, some p => passes m k fuel p
      | none, none => true

theorem passesAt_of {m : Machine} {k : PropertyKey} {fuel : Nat} (h : passes m k fuel r = true) :
    ∃ n, PassesAt m k n r := by
  induction fuel generalizing r with
  | zero => cases h
  | succ fuel ih =>
      obtain ⟨hordinary, h⟩ := (Bool.and_eq_true _ _).mp h
      have hordinary := isOrdinary_of hordinary
      split at h
      · rename_i hown
        exact ⟨0, .stored hordinary hown⟩
      · cases h
      · rename_i hnone hprototype
        obtain ⟨n, hn⟩ := ih h
        exact ⟨n + 1, .inherited hordinary hnone hprototype hn⟩
      · rename_i hnone hlast
        exact ⟨0, .nowhere hordinary hnone hlast⟩

/-- Whether an object takes a value under a key. -/
def takes (m : Machine) (k : PropertyKey) (r : Ref) : Bool :=
  decide (r.index < m.objects.size) && isTabular (objectAt m r) && passes m k m.objects.size r &&
    (((objectAt m r).own? k).isSome || (objectAt m r).extensible)

theorem takes_of {m : Machine} {k : PropertyKey} (h : takes m k r = true) : Takes m k r := by
  simp only [takes, Bool.and_eq_true, Bool.or_eq_true, decide_eq_true_eq] at h
  obtain ⟨⟨⟨hrange, htabular⟩, hpasses⟩, hroom⟩ := h
  refine ⟨hrange, isTabular_of htabular, passesAt_of hpasses, fun hnone => ?_⟩
  rw [hnone] at hroom
  exact hroom.resolve_left nofun

/-- Whether a value can be written under a key to an object, as `Writes` has it. -/
def writes (s : Machine × Host) (r : Ref) (key : Text) : Bool :=
  (match bound? s.1 globalName with
    | some (some (.object q)) => q == r
    | _ => false) &&
  isTabular (objectAt s.1 r) && key != Text.ofString "globalThis" &&
    (s.2.registry.boundTo key).all fun id => key != hiddenName id

theorem writes_of (h : writes s r key = true) : Writes s r key := by
  simp only [writes, Bool.and_eq_true, bne_iff_ne, List.all_eq_true] at h
  obtain ⟨⟨⟨hglobal, htabular⟩, hname⟩, hids⟩ := h
  refine ⟨?_, isTabular_of htabular, hname, hids⟩
  split at hglobal
  · rename_i q hbound
    obtain rfl := beq_iff_eq.mp hglobal
    exact binds_of_bound hbound
  · cases hglobal

/-- The realm of the bridge, with the names of special numbers, which may not be written. -/
def numberRealm : Machine :=
  let build : Realm.Build Unit := do
    putProperty globalRef "NaN" (.fixed (.float Binary.nan))
    putProperty globalRef "Infinity" (.fixed (.float (Binary.infinity false)))
  (endOf (build (bridgedRealm, ()))).1

/-- The state of an instance in that realm. -/
def numberState : Machine × Host := (numberRealm, Instance.blank Value)

/-- A module with data in a list, and with a number below zero. -/
def listedModule : HostValue := .ofFields [("data", .list [.str "a", .none]), ("least", .int (-1))]

/-- Whether the value of a module that is rendered is an object, and can be written. -/
def writesObject (s : Machine × Host) : Bool :=
  match interpreter.build (.ofString "m") listedModule ([], s) with
  | .ok t (_, s₁) =>
    match parseProgram (parenthesized t) false, bound? s₁.1 globalName with
    | .ok ⟨[], [.expression e], false, false⟩, some (some (.object r)) =>
      match (Engine.interp hostCall (below - 1)).evaluate scriptSite e (inScript s₁) with
      | .ok (.object _) s₂ => writes s₂ r "m" && takes s₂.1 (keyName "m") r
      | _ => false
    | _, _ => false
  | .error _ _ => false

/-- Whether a registration succeeds. -/
def registers (name capability : HostValue) (s : Machine × Host) : Bool :=
  match interpreter.register name capability s with
  | .ok _ _ => true
  | .error _ _ => false

theorem register_of {s : Machine × Host} (h : registers name capability s = true) :
    ∃ s', interpreter.register name capability s = .ok () s' := by
  unfold registers at h
  split at h
  · rename_i s' hrun
    exact ⟨s', hrun⟩
  · cases h

/-- Whether a number is registered under a name, and script code then reads another value. -/
def losesNumber (name : HostValue) (i : Int) (s : Machine × Host) : Bool :=
  match interpreter.register name (.int i) s with
  | .ok _ s' =>
    match Statement.runScript evaluator (reference (keyOf name)) s' with
    | .ok (.float _) _ => true
    | _ => false
  | .error _ _ => false

theorem seen_in_numberState :
    (registers (.ofString "m") listedModule numberState && writesObject numberState &&
      losesNumber (.ofString "NaN") 1 numberState) = true := by decide +kernel

theorem isKeyed_listedModule : IsKeyed listedModule := by
  refine ⟨?_, ⟨trivial, trivial, trivial⟩, trivial, trivial⟩
  unfold HostImages.DistinctKeys
  decide

/-- A module is registered, and script code reads under its name the object that it is rendered as. -/
theorem listed_module_is_bound : ∃ s s' q,
    interpreter.register (.ofString "m") listedModule s = .ok () s' ∧ Reads s' "m" (.object q) ∧
      (s'.2.registry.module? "m").map (·.capability) = some listedModule := by
  obtain ⟨hchecks, -⟩ := (Bool.and_eq_true _ _).mp seen_in_numberState
  generalize numberState = s at hchecks
  obtain ⟨hregisters, hwrites⟩ := (Bool.and_eq_true _ _).mp hchecks
  obtain ⟨s', hrun⟩ := register_of hregisters
  obtain ⟨hmodule, t, e, ids, s₁, hbuild, hparse, hvalue⟩ :=
    registered_name_is_bound (by decide) isKeyed_listedModule hrun
  unfold writesObject at hwrites
  rw [hbuild] at hwrites
  dsimp only at hwrites
  rw [hparse] at hwrites
  unfold expressionProgram at hwrites
  split at hwrites
  · rename_i e' r hprogram hbound
    cases hprogram
    obtain ⟨w, s₂, he, -, hreads⟩ := hvalue r (binds_of_bound hbound)
    rw [he] at hwrites
    cases w with
    | object q =>
        obtain ⟨hcan, htakes⟩ := (Bool.and_eq_true _ _).mp hwrites
        exact ⟨s, s', q, hrun, (hreads (writes_of hcan)).1 (takes_of htakes), hmodule⟩
    | _ => cases hwrites
  · cases hwrites

/-- The number 1 is registered under the name of what is no number, which may not be written: the
registration succeeds, and script code does not read the number. -/
theorem unwritable_name_is_not_bound : ∃ s s',
    interpreter.register (.ofString "NaN") (.int 1) s = .ok () s' ∧
      ¬Reads s' "NaN" (.int 1) := by
  obtain ⟨-, hloses⟩ := (Bool.and_eq_true _ _).mp seen_in_numberState
  generalize numberState = s at hloses
  unfold losesNumber at hloses
  split at hloses
  · rename_i s' hrun
    refine ⟨s, s', hrun, fun hreads => ?_⟩
    split at hloses
    · rename_i x s₁ hread
      have hsame := hread.symm.trans hreads
      cases hsame
    · cases hloses
  · cases hloses

end ScriptHost.Proofs.BoundModules
