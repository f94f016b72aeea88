import ScriptHost.Proofs.RenderedValues

/-!
# What is written to the global object

Registrations add objects to the engine, and write and delete keys of the global object.  All else
stays as it was, and where the global object holds nothing but values, such a write always runs
through.
-/

namespace ScriptHost.Proofs.GlobalWrites

open Script Script.Eval
open ScriptHost.Proofs.AssignedKeys
open ScriptHost.Proofs.Bindings
open ScriptHost.Proofs.Bridge
open ScriptHost.Proofs.BridgedCalls (HasJson)
open ScriptHost.Proofs.BuiltData (get_put_self get_put_ne)
open ScriptHost.Proofs.DataValues
open ScriptHost.Proofs.Evaluation
open ScriptHost.Proofs.NewObjects
open ScriptHost.Proofs.PropertyChains
open ScriptHost.Proofs.RenderedTrees
open ScriptHost.Proofs.ReferenceTrees
open ScriptHost.Proofs.ScriptRuns

variable {σ : Type} {s s' : Machine × σ} {I : Interp σ} {host : Engine.HostCall σ}
  {m m' m'' : Machine} {k l : PropertyKey} {name : Name} {r q b raw j : Ref} {c : Closure}
  {t : Telling} {v w : Value} {x : Option Value} {n d id : Nat} {P : Property → Prop}
  {W W' : PropertyKey → Prop}

/-! ## Values along a chain of prototypes -/

/-- The property is a value, and no code. -/
def IsStored (p : Property) : Prop := ∃ v w, p.slot = .data v w

/-- The property is a value that may be written. -/
def IsWritable (p : Property) : Prop := ∃ v, p.slot = .data v true

theorem IsWritable.isStored {p : Property} (h : IsWritable p) : IsStored p := by
  obtain ⟨v, hv⟩ := h
  exact ⟨v, true, hv⟩

/-- What an object and its prototypes have under a key meets a condition; the last prototype is a
given number of objects up. -/
inductive HoldsUp (P : Property → Prop) (m : Machine) (k : PropertyKey) : Nat → Ref → Prop
  | last {r : Ref} (h : IsOrdinary m r) (hown : ∀ p, (objectAt m r).own? k = some p → P p)
    (hlast : (objectAt m r).prototype = none) : HoldsUp P m k 0 r
  | inherited {n : Nat} {r q : Ref} (h : IsOrdinary m r)
    (hown : ∀ p, (objectAt m r).own? k = some p → P p)
    (hprototype : (objectAt m r).prototype = some q) (more : HoldsUp P m k n q) :
    HoldsUp P m k (n + 1) r

namespace HoldsUp

theorem ordinary (h : HoldsUp P m k n r) : IsOrdinary m r := by
  cases h with
  | last h _ _ => exact h
  | inherited h _ _ _ => exact h

theorem own (h : HoldsUp P m k n r) : ∀ p, (objectAt m r).own? k = some p → P p := by
  cases h with
  | last _ hown _ => exact hown
  | inherited _ hown _ _ => exact hown

theorem of_same (hobjects : m'.objects = m.objects) (h : HoldsUp P m k n r) : HoldsUp P m' k n r := by
  have hat (r : Ref) : objectAt m' r = objectAt m r := by
    unfold objectAt
    rw [hobjects]
  have hordinary {r : Ref} (hr : IsOrdinary m r) : IsOrdinary m' r :=
    ⟨by rw [hobjects]; exact hr.inRange, by rw [hat]; exact hr.direct⟩
  induction h with
  | last hr hown hlast =>
      exact .last (hordinary hr) (by rw [hat]; exact hown) (by rw [hat]; exact hlast)
  | inherited hr hown hprototype _ ih =>
      exact .inherited (hordinary hr) (by rw [hat]; exact hown) (by rw [hat]; exact hprototype) ih

/-- Under a key that holds values alone, a value is found or nothing. -/
theorem finds (h : HoldsUp IsStored m k n r) : ∃ x, Finds m k r x := by
  have hfound {r : Ref} {p : Property} (hr : IsOrdinary m r) (hown : (objectAt m r).own? k = some p)
      (hp : IsStored p) : ∃ x, Finds m k r x := by
    obtain ⟨slot, e, d⟩ := p
    obtain ⟨v, w, rfl⟩ := hp
    exact ⟨some v, 0, .own hr hown⟩
  induction h with
  | @last r hr hown hlast =>
      cases hk : (objectAt m r).own? k with
      | none => exact ⟨none, 0, .nowhere hr hk hlast⟩
      | some p => exact hfound hr hk (hown p hk)
  | @inherited n r q hr hown hprototype _ ih =>
      cases hk : (objectAt m r).own? k with
      | none =>
          obtain ⟨x, hx⟩ := ih
          exact ⟨x, hx.inherited hr hk hprototype⟩
      | some p => exact hfound hr hk (hown p hk)

/-- A write under a key that holds writable values alone passes. -/
theorem passes (h : HoldsUp IsWritable m k n r) : ∃ n, PassesAt m k n r := by
  have hstored {r : Ref} {p : Property} (hr : IsOrdinary m r) (hown : (objectAt m r).own? k = some p)
      (hp : IsWritable p) : ∃ n, PassesAt m k n r := by
    obtain ⟨slot, e, d⟩ := p
    obtain ⟨v, rfl⟩ := hp
    exact ⟨0, .stored hr hown⟩
  induction h with
  | @last r hr hown hlast =>
      cases hk : (objectAt m r).own? k with
      | none => exact ⟨0, .nowhere hr hk hlast⟩
      | some p => exact hstored hr hk (hown p hk)
  | @inherited n r q hr hown hprototype _ ih =>
      cases hk : (objectAt m r).own? k with
      | none =>
          obtain ⟨n, hn⟩ := ih
          exact ⟨n + 1, .inherited hr hk hprototype hn⟩
      | some p => exact hstored hr hk (hown p hk)

end HoldsUp

/-! ## Machines that differ in the global object -/

/-- Objects and scopes have been added, and of the others only the global object has changed: under
given keys it holds other values that may be written, or none, unless the value was fixed. -/
structure Spares (W : PropertyKey → Prop) (m m' : Machine) : Prop where
  size : m.objects.size ≤ m'.objects.size
  depth : m'.depth = m.depth
  scopes : ∀ (i : Nat) (c : Scope), m.scopes[i]? = some c → m'.scopes[i]? = some c
  others : ∀ r : Ref, r.index < m.objects.size → r ≠ globalRef → objectAt m' r = objectAt m r
  kind : (objectAt m' globalRef).kind = (objectAt m globalRef).kind
  prototype : (objectAt m' globalRef).prototype = (objectAt m globalRef).prototype
  extensible : (objectAt m' globalRef).extensible = (objectAt m globalRef).extensible
  own : ∀ k, ¬W k → (objectAt m' globalRef).own? k = (objectAt m globalRef).own? k
  fixed : ∀ k v e, (objectAt m globalRef).own? k = some ⟨.data v false, e, false⟩ →
    (objectAt m' globalRef).own? k = some ⟨.data v false, e, false⟩
  written : ∀ k p, (objectAt m' globalRef).own? k = some p →
    (objectAt m globalRef).own? k = some p ∨ IsWritable p

namespace Spares

theorem refl (W : PropertyKey → Prop) (m : Machine) : Spares W m m :=
  ⟨Nat.le_refl _, rfl, fun _ _ h => h, fun _ _ _ => rfl, rfl, rfl, rfl, fun _ _ => rfl,
    fun _ _ _ h => h, fun _ _ h => .inl h⟩

theorem trans (h : Spares W m m') (h' : Spares W m' m'') : Spares W m m'' where
  size := Nat.le_trans h.size h'.size
  depth := h'.depth.trans h.depth
  scopes i c hc := h'.scopes i c (h.scopes i c hc)
  others r hr hne := (h'.others r (Nat.lt_of_lt_of_le hr h.size) hne).trans (h.others r hr hne)
  kind := h'.kind.trans h.kind
  prototype := h'.prototype.trans h.prototype
  extensible := h'.extensible.trans h.extensible
  own k hk := (h'.own k hk).trans (h.own k hk)
  fixed k v e hown := h'.fixed k v e (h.fixed k v e hown)
  written k p hown := by
    rcases h'.written k p hown with hown | hp
    · exact h.written k p hown
    · exact .inr hp

theorem mono (h : Spares W m m') (hW : ∀ k, W k → W' k) : Spares W' m m' where
  size := h.size
  depth := h.depth
  scopes := h.scopes
  others := h.others
  kind := h.kind
  prototype := h.prototype
  extensible := h.extensible
  own k hk := h.own k fun hw => hk (hW k hw)
  fixed := h.fixed
  written := h.written

/-- Where nothing but the frames and the results of scripts differ, nothing is written. -/
theorem of_same (hobjects : m'.objects = m.objects) (hscopes : m'.scopes = m.scopes)
    (hdepth : m'.depth = m.depth) : Spares W m m' := by
  have hat (r : Ref) : objectAt m' r = objectAt m r := by
    unfold objectAt
    rw [hobjects]
  refine ⟨by rw [hobjects], hdepth, fun i c hc => by rw [hscopes]; exact hc, fun r _ _ => hat r, ?_,
    ?_, ?_, fun k _ => ?_, fun k v e => ?_, fun k p => ?_⟩
  all_goals rw [hat]
  · exact id
  · exact .inl

/-- What is so of the statements of a script is so of the script. -/
theorem of_script {s s' : Machine × σ} (h : Spares W (inScript s).1 s'.1) :
    Spares W s.1 (leftScript s s').1 where
  size := h.size
  depth := by
    have hdepth : s'.1.depth = s.1.depth + 1 := h.depth
    change s'.1.depth - 1 = s.1.depth
    omega
  scopes := h.scopes
  others := h.others
  kind := h.kind
  prototype := h.prototype
  extensible := h.extensible
  own := h.own
  fixed := h.fixed
  written := h.written

theorem of_grows (h : Grows s.1.objects.size s s') (hglobal : globalRef.index < s.1.objects.size) :
    Spares W s.1 s'.1 := by
  have hsame := h.old globalRef hglobal
  refine ⟨h.size, h.depth, h.scopes, fun r hr _ => h.old r hr, ?_, ?_, ?_, fun k _ => ?_,
    fun k v e => ?_, fun k p => ?_⟩
  all_goals rw [hsame]
  · exact id
  · exact .inl

/-- The table of the global object has changed under one key, where it had no fixed value. -/
theorem of_table {table : PropertyTable} {f : Object → Object}
    (hr : IsTabular (objectAt s.1 globalRef)) (hrange : globalRef.index < s.1.objects.size)
    (hf : f (objectAt s.1 globalRef) = { objectAt s.1 globalRef with properties := table })
    (hother : ∀ l, l ≠ k → table.get? l = (objectAt s.1 globalRef).properties.get? l)
    (hopen : ∀ v e, (objectAt s.1 globalRef).own? k ≠ some ⟨.data v false, e, false⟩)
    (hnew : ∀ p, table.get? k = some p → IsWritable p) :
    Spares (· = k) s.1 (updated globalRef f s).1 := by
  have hglobal := (objectAt_updated hrange f).trans hf
  have htabular : IsTabular { objectAt s.1 globalRef with properties := table } := hr.of_kind rfl
  have hown (l : PropertyKey) (hl : l ≠ k) :
      (objectAt (updated globalRef f s).1 globalRef).own? l = (objectAt s.1 globalRef).own? l := by
    rw [hglobal, htabular.own, hr.own]
    exact hother l hl
  refine ⟨by simp [updated], rfl, fun _ _ h => h, fun r _ hne => ?_, by rw [hglobal], by rw [hglobal],
    by rw [hglobal], hown, fun l v e h => ?_, fun l p h => ?_⟩
  · refine (objectAt_modify f globalRef r).trans (if_neg fun h => hne ?_)
    cases r
    exact congrArg Ref.mk h.1.symm
  · by_cases hl : l = k
    · exact absurd (hl ▸ h) (hopen v e)
    · rw [hown l hl]
      exact h
  · by_cases hl : l = k
    · subst hl
      rw [hglobal, htabular.own] at h
      exact .inr (hnew p h)
    · rw [hown l hl] at h
      exact .inl h

/-! ### What stays -/

theorem ordinary (h : Spares W m m') (hr : IsOrdinary m r) : IsOrdinary m' r := by
  refine ⟨Nat.lt_of_lt_of_le hr.inRange h.size, ?_⟩
  by_cases hglobal : r = globalRef
  · subst hglobal
    unfold IsDirect
    rw [h.kind]
    exact hr.direct
  · rw [h.others r hr.inRange hglobal]
    exact hr.direct

theorem prototypes (h : Spares W m m') (hr : r.index < m.objects.size) :
    (objectAt m' r).prototype = (objectAt m r).prototype := by
  by_cases hglobal : r = globalRef
  · rw [hglobal]
    exact h.prototype
  · rw [h.others r hr hglobal]

/-- What objects have under a key that is not written. -/
theorem owns (h : Spares W m m') (hk : ¬W k) (hr : r.index < m.objects.size) :
    (objectAt m' r).own? k = (objectAt m r).own? k := by
  by_cases hglobal : r = globalRef
  · rw [hglobal]
    exact h.own k hk
  · rw [h.others r hr hglobal]

theorem finds (h : Spares W m m') (hk : ¬W k) (hx : Finds m k r x) : Finds m' k r x := by
  obtain ⟨n, hx⟩ := hx
  refine ⟨n, ?_⟩
  induction hx with
  | own hr hown => exact .own (h.ordinary hr) ((h.owns hk hr.inRange).trans hown)
  | nowhere hr hnone hlast =>
      exact .nowhere (h.ordinary hr) ((h.owns hk hr.inRange).trans hnone)
        ((h.prototypes hr.inRange).trans hlast)
  | inherited hr hnone hprototype _ ih =>
      exact .inherited (h.ordinary hr) ((h.owns hk hr.inRange).trans hnone)
        ((h.prototypes hr.inRange).trans hprototype) ih

theorem binds (h : Spares W m m') (hname : ¬W (.name name)) (hx : Binds m name x) :
    Binds m' name x := by
  cases hx with
  | lexical hc hj hb hv => exact .lexical (h.scopes 0 _ hc) hj hb hv
  | property hc hparent hn hx =>
      exact .property (h.scopes 0 _ hc) hparent hn (h.finds hname hx)

/-- Whatever is written: values that may be written stay such, and what is a value stays one. -/
theorem holdsUp (h : Spares W m m') (hP : ∀ p, IsWritable p → P p) (hx : HoldsUp P m k n r) :
    HoldsUp P m' k n r := by
  have hown {r : Ref} (hr : IsOrdinary m r) (hown : ∀ p, (objectAt m r).own? k = some p → P p) :
      ∀ p, (objectAt m' r).own? k = some p → P p := by
    intro p hp
    by_cases hglobal : r = globalRef
    · subst hglobal
      exact (h.written k p hp).elim (hown p) (hP p)
    · rw [h.others r hr.inRange hglobal] at hp
      exact hown p hp
  induction hx with
  | last hr hall hlast => exact .last (h.ordinary hr) (hown hr hall) ((h.prototypes hr.inRange).trans hlast)
  | inherited hr hall hprototype _ ih =>
      exact .inherited (h.ordinary hr) (hown hr hall) ((h.prototypes hr.inRange).trans hprototype) ih

theorem hasConstant (h : Spares W m m') (hname : ¬W (.name name)) (hv : HasConstant m name v) :
    HasConstant m' name v := by
  obtain ⟨w, e, d, hown⟩ := hv.property
  obtain ⟨c, hc, hparent, hunbound⟩ := hv.outermost
  refine ⟨⟨c, h.scopes 0 c hc, hparent, hunbound⟩, ?_, w, e, d, (h.own _ hname).trans hown⟩
  unfold IsDirect
  rw [h.kind]
  exact hv.direct

theorem kinds (h : Spares W m m') (hr : r.index < m.objects.size) :
    (objectAt m' r).kind = (objectAt m r).kind := by
  by_cases hglobal : r = globalRef
  · rw [hglobal]
    exact h.kind
  · rw [h.others r hr hglobal]

/-- The value of a fixed property stays, whatever is written. -/
theorem hasFixed (h : Spares W m m') (hv : HasConstant m name v)
    (hfixed : ∃ u e, (objectAt m globalRef).own? (.name name) = some ⟨.data u false, e, false⟩) :
    HasConstant m' name v := by
  obtain ⟨u, e, hown⟩ := hfixed
  obtain ⟨w, e', d, hvalue⟩ := hv.property
  obtain ⟨c, hc, hparent, hunbound⟩ := hv.outermost
  have hsame := hown.symm.trans hvalue
  cases hsame
  refine ⟨⟨c, h.scopes 0 c hc, hparent, hunbound⟩, ?_, false, e, false, h.fixed _ _ _ hown⟩
  unfold IsDirect
  rw [h.kind]
  exact hv.direct

theorem hasJson {p : Value} (h : Spares W m m') (hname : ¬W (.name jsonName)) (hj : j ≠ globalRef)
    (hjson : HasJson m j p) : HasJson m' j p := by
  obtain ⟨w, e, d, hown⟩ := hjson.parse
  have hsame := h.others j (index_lt (ne_default_of_own hown)) hj
  exact ⟨h.hasConstant hname hjson.json, by rw [hsame]; exact hjson.direct,
    w, e, d, by rw [hsame]; exact hown⟩

theorem isBridge (h : Spares W m m') (hb : IsBridge m b c t) : IsBridge m' b c t :=
  ⟨(h.kinds (index_lt_of_closure hb.closure)).trans hb.closure, hb.code, hb.scope⟩

theorem captures (h : Spares W m m') (hr : Captures m r id c t raw) : Captures m' r id c t raw := by
  obtain ⟨sc, hsc, hbindings, hparent⟩ := hr.scope
  exact ⟨(h.kinds (index_lt_of_closure hr.closure)).trans hr.closure, hr.code,
    ⟨sc, h.scopes _ sc hsc, hbindings, hparent⟩,
    (h.kinds (index_lt_of_native hr.native)).trans hr.native⟩

end Spares

/-! ## Writing and deleting -/

theorem setAlong_findsAt (h : FindsAt s.1 k n r x) {fuel : Nat} (hfuel : n < fuel) (v receiver : Value) :
    setAlong I k v receiver fuel r s = writeAt I k v receiver s ∨
      setAlong I k v receiver fuel r s = .ok (some .readOnly) s := by
  induction h generalizing fuel with
  | @own r u w e d hr hown =>
      obtain ⟨fuel, rfl⟩ : ∃ f, fuel = f + 1 := ⟨fuel - 1, by omega⟩
      have hdirect := hr.direct
      unfold IsDirect at hdirect
      rw [setAlong, bind_ok (object_run _ s)]
      cases w with
      | true => exact .inl (by simp only [hown])
      | false => exact .inr (by simp only [hown]; rfl)
  | nowhere hr hnone hlast =>
      exact .inl (setAlong_passes (.nowhere hr hnone hlast) hfuel)
  | inherited hr hnone hprototype _ ih =>
      obtain ⟨fuel, rfl⟩ : ∃ f, fuel = f + 1 := ⟨fuel - 1, by omega⟩
      have hdirect := hr.direct
      unfold IsDirect at hdirect
      rw [setAlong, bind_ok (object_run _ s)]
      simp only [hnone, hprototype]
      exact ih (by omega)

theorem spares_placed (hr : IsTabular (objectAt s.1 globalRef))
    (hrange : globalRef.index < s.1.objects.size) (v : Value) (e d : Bool)
    (hopen : ∀ p, (objectAt s.1 globalRef).own? k = some p → IsWritable p) :
    Spares (· = k) s.1 (updated globalRef (·.place k (holding v e d)) s).1 := by
  refine Spares.of_table hr hrange (hr.place k _) (fun _ hl => get_put_ne _ _ hl) (fun u e h => ?_)
    fun p hp => ?_
  · obtain ⟨w, hw⟩ := hopen _ h
    cases hw
  · rw [get_put_self] at hp
    cases hp
    exact ⟨v, rfl⟩

theorem spares_removed (hr : IsTabular (objectAt s.1 globalRef))
    (hrange : globalRef.index < s.1.objects.size) {p : Property}
    (hown : (objectAt s.1 globalRef).own? k = some p) (hp : p.configurable = true) :
    Spares (· = k) s.1 (updated globalRef (·.remove k) s).1 := by
  refine Spares.of_table hr hrange (hr.remove k) (fun _ hl => get_erase_ne _ hl) (fun u e h => ?_)
    fun q hq => ?_
  · rw [hown] at h
    cases h
    cases hp
  · rw [get_erase_self] at hq
    cases hq

/-- A value is written to the global object, or refused if it may not be. -/
theorem writeAt_spares (hr : IsTabular (objectAt s.1 globalRef))
    (hrange : globalRef.index < s.1.objects.size) (v : Value)
    (hstored : ∀ p, (objectAt s.1 globalRef).own? k = some p → IsStored p) : ∃ refusal s',
    writeAt I k v (.object globalRef) s = .ok refusal s' ∧ s'.2 = s.2 ∧ Spares (· = k) s.1 s'.1 := by
  have hdirect := hr.direct
  unfold IsDirect at hdirect
  unfold writeAt
  simp only []
  rw [bind_ok (object_run _ s)]
  cases hown : (objectAt s.1 globalRef).own? k with
  | none =>
      cases hroom : (objectAt s.1 globalRef).extensible with
      | false =>
          simp only []
          exact ⟨_, s, rfl, rfl, .refl _ _⟩
      | true =>
          simp only []
          refine ⟨none, _, defineOwn_fresh hr hown hroom, rfl, spares_placed hr hrange v _ _ ?_⟩
          rw [hown]
          exact nofun
  | some p =>
      obtain ⟨slot, e, d⟩ := p
      obtain ⟨u, w, rfl⟩ := hstored _ hown
      cases w with
      | false =>
          simp only []
          exact ⟨some .readOnly, s, rfl, rfl, .refl _ _⟩
      | true =>
          simp only [hr.isArrayObject]
          refine ⟨none, _, rfl, rfl, spares_placed hr hrange v e d fun p hp => ?_⟩
          cases hown.symm.trans hp
          exact ⟨u, rfl⟩

/-- Sloppy code writes to the global object, and goes on if that is refused. -/
theorem setMember_spares (hr : IsTabular (objectAt s.1 globalRef))
    (h : HoldsUp IsStored s.1 k n globalRef) (v : Value) : ∃ s',
    setMember I (.object globalRef) k v false s = .ok () s' ∧ s'.2 = s.2 ∧
      Spares (· = k) s.1 s'.1 := by
  obtain ⟨x, l, hx⟩ := h.finds
  have htry : ∃ refusal s', trySet I globalRef k v s = .ok refusal s' ∧ s'.2 = s.2 ∧
      Spares (· = k) s.1 s'.1 := by
    rcases setAlong_findsAt (I := I) hx (Nat.lt_succ_of_lt hx.lt_size) v (.object globalRef) with
      hrun | hrun
    · obtain ⟨refusal, s', hwrite, hhost, hspares⟩ :=
        writeAt_spares (I := I) hr h.ordinary.inRange v h.own
      exact ⟨refusal, s', hrun.trans hwrite, hhost, hspares⟩
    · exact ⟨some .readOnly, s, hrun, rfl, .refl _ _⟩
  obtain ⟨refusal, s', hrun, hhost, hspares⟩ := htry
  refine ⟨s', ?_, hhost, hspares⟩
  unfold setMember
  refine (bind_ok hrun).trans ?_
  cases refusal with
  | none => rfl
  | some refusal => rfl

end ScriptHost.Proofs.GlobalWrites
