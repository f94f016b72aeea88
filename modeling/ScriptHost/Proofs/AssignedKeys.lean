import ScriptHost.Proofs.Bindings
import ScriptHost.Proofs.BuiltData
import ScriptHost.Proofs.RenderedTrees

/-!
# Keys that are assigned to and deleted

An object takes a value under a key if no object on its chain of prototypes stands in the way: then
the value is what is found under the key afterwards.  Where the object holds a value that may not be
written, sloppy code goes on, and the value is kept.  What is found under all other keys stays, and
so it does when a key is deleted.
-/

namespace ScriptHost.Proofs.AssignedKeys

open Script Script.Eval ScriptEngine
open ScriptHost.Proofs.Bindings
open ScriptHost.Proofs.BuiltData
open ScriptHost.Proofs.Evaluation
open ScriptHost.Proofs.NewObjects
open ScriptHost.Proofs.PropertyChains
open ScriptHost.Proofs.ReferenceTrees
open ScriptHost.Proofs.RenderedTrees
open ScriptHost.Proofs.ScriptRuns

variable {σ : Type} {s s' : Machine × σ} {I : Interp σ} {host : Engine.HostCall σ}
  {m m' m'' : Machine} {k l : PropertyKey} {r q : Ref} {o : Object} {p : Property} {n d fuel : Nat}
  {v w : Value} {x : Option Value} {t : PropertyTable}

/-! ## Tables -/

theorem get_eq_find (t : PropertyTable) (k : PropertyKey) :
    t.get? k = (t.entries.find? (·.1 == k)).map (·.2) := by
  unfold PropertyTable.get?
  cases hplace : t.place? k with
  | none =>
      have hnone : t.entries.find? (·.1 == k) = none :=
        Array.find?_eq_none.mpr fun e he => by simpa using place_none.mp hplace e he
      rw [hnone]
      rfl
  | some i =>
      obtain ⟨hi, hk, hfirst⟩ := place_some hplace
      have hfound : t.entries.find? (·.1 == k) = some t.entries[i] :=
        Array.find?_eq_some_iff_getElem.mpr ⟨by simpa using hk, i, hi, rfl, fun j hj => by
          simpa using hfirst j hj⟩
      rw [hfound]
      simp [hi]

theorem get_erase_ne (t : PropertyTable) (h : l ≠ k) : (t.erase k).get? l = t.get? l := by
  rw [get_eq_find, get_eq_find]
  unfold PropertyTable.erase
  rw [Array.find?_filter]
  congr 2
  funext e
  by_cases he : e.1 = l
  · simp [he, h]
  · simp [he]

theorem get_erase_self (t : PropertyTable) (k : PropertyKey) : (t.erase k).get? k = none := by
  rw [get_eq_find]
  unfold PropertyTable.erase
  rw [Array.find?_filter]
  simp

/-! ## Objects that keep their properties in a table -/

/-- An object that keeps all its properties in its table. -/
structure IsTabular (o : Object) : Prop where
  direct : IsDirect o
  noArray : ∀ items length growing, o.kind ≠ .array items length growing
  noText : ∀ u, o.kind ≠ .wrapper (.string u)

namespace IsTabular

theorem of_kind {o' : Object} (h : IsTabular o) (hkind : o'.kind = o.kind) : IsTabular o' :=
  ⟨by unfold IsDirect; rw [hkind]; exact h.direct, by rw [hkind]; exact h.noArray,
    by rw [hkind]; exact h.noText⟩

theorem own (h : IsTabular o) (k : PropertyKey) : o.own? k = o.properties.get? k := by
  unfold Object.own?
  split
  · rename_i hkind
    exact absurd hkind (h.noArray _ _ _)
  · rename_i hkind
    exact absurd hkind (h.noText _)
  · rfl

/-- A table has what is put into it. -/
theorem own_put (h : IsTabular o) (k l : PropertyKey) (p : Property) :
    ({ o with properties := o.properties.put k p } : Object).own? l = (o.properties.put k p).get? l := by
  have hput : IsTabular { o with properties := o.properties.put k p } := h.of_kind rfl
  exact hput.own l

theorem place (h : IsTabular o) (k : PropertyKey) (p : Property) :
    o.place k p = { o with properties := o.properties.put k p } := by
  unfold Object.place
  split
  · rename_i hkind _
    exact absurd hkind (h.noArray _ _ _)
  · rfl

theorem remove (h : IsTabular o) (k : PropertyKey) :
    o.remove k = { o with properties := o.properties.erase k } := by
  unfold Object.remove
  split
  · rename_i hkind _
    exact absurd hkind (h.noArray _ _ _)
  · rfl

theorem isArrayObject (h : IsTabular o) : isArrayObject o = false := by
  unfold Eval.isArrayObject
  split
  · rename_i hkind
    exact absurd hkind (h.noArray _ _ _)
  · rfl

theorem isPastEnd (h : IsTabular o) (k : PropertyKey) : isPastEnd o k = false := by
  unfold Eval.isPastEnd
  split
  · rename_i hkind
    exact absurd hkind (h.noArray _ _ _)
  · rfl

end IsTabular

/-! ## Changes of one key -/

/-- Two machines differ at most in what their objects hold under a key. -/
structure Differs (k : PropertyKey) (m m' : Machine) : Prop where
  size : m'.objects.size = m.objects.size
  scopes : m'.scopes = m.scopes
  kind : ∀ q, (objectAt m' q).kind = (objectAt m q).kind
  prototype : ∀ q, (objectAt m' q).prototype = (objectAt m q).prototype
  own : ∀ q l, l ≠ k → (objectAt m' q).own? l = (objectAt m q).own? l

namespace Differs

theorem refl (k : PropertyKey) (m : Machine) : Differs k m m :=
  ⟨rfl, rfl, fun _ => rfl, fun _ => rfl, fun _ _ _ => rfl⟩

theorem of_same (k : PropertyKey) (hobjects : m'.objects = m.objects) (hscopes : m'.scopes = m.scopes) :
    Differs k m m' := by
  have hat (q : Ref) : objectAt m' q = objectAt m q := by
    unfold objectAt
    rw [hobjects]
  exact ⟨by rw [hobjects], hscopes, fun q => by rw [hat], fun q => by rw [hat], fun q _ _ => by rw [hat]⟩

theorem trans (h : Differs k m m') (h' : Differs k m' m'') : Differs k m m'' where
  size := h'.size.trans h.size
  scopes := h'.scopes.trans h.scopes
  kind q := (h'.kind q).trans (h.kind q)
  prototype q := (h'.prototype q).trans (h.prototype q)
  own q l hl := (h'.own q l hl).trans (h.own q l hl)

theorem isDirect (h : Differs k m m') (hq : IsDirect (objectAt m q)) : IsDirect (objectAt m' q) := by
  unfold IsDirect
  rw [h.kind]
  exact hq

theorem isOrdinary (h : Differs k m m') (hq : IsOrdinary m q) : IsOrdinary m' q :=
  ⟨by rw [h.size]; exact hq.inRange, h.isDirect hq.direct⟩

/-- What is found under another key is found still. -/
theorem finds (h : Differs k m m') (hl : l ≠ k) (hx : Finds m l q x) : Finds m' l q x := by
  obtain ⟨n, hx⟩ := hx
  refine ⟨n, ?_⟩
  induction hx with
  | own hr hown => exact .own (h.isOrdinary hr) ((h.own _ _ hl).trans hown)
  | nowhere hr hnone hlast =>
      exact .nowhere (h.isOrdinary hr) ((h.own _ _ hl).trans hnone) ((h.prototype _).trans hlast)
  | inherited hr hnone hprototype _ ih =>
      exact .inherited (h.isOrdinary hr) ((h.own _ _ hl).trans hnone)
        ((h.prototype _).trans hprototype) ih

theorem binds {x : Option Value} {name : Name} (h : Differs k m m') (hl : .name name ≠ k)
    (hx : Binds m name x) : Binds m' name x := by
  cases hx with
  | lexical hc hj hb hv => exact .lexical (by rw [h.scopes]; exact hc) hj hb hv
  | property hc hparent hn hx =>
      exact .property (by rw [h.scopes]; exact hc) hparent hn (h.finds hl hx)

end Differs

/-- The state in which an object is another one. -/
def updated (r : Ref) (f : Object → Object) (s : Machine × σ) : Machine × σ :=
  ({ s.1 with objects := s.1.objects.modify r.index f }, s.2)

theorem updateObject_run (r : Ref) (f : Object → Object) (s : Machine × σ) :
    updateObject r f s = .ok () (updated r f s) := rfl

/-- An object whose table changes under one key. -/
theorem differs_updated (hr : IsTabular (objectAt s.1 r)) {f : Object → Object}
    (hf : f (objectAt s.1 r) = { objectAt s.1 r with properties := t })
    (ht : ∀ l, l ≠ k → t.get? l = (objectAt s.1 r).properties.get? l) :
    Differs k s.1 (updated r f s).1 := by
  have hat (q : Ref) : objectAt (updated r f s).1 q = objectAt s.1 q ∨
      q = r ∧ objectAt (updated r f s).1 q = { objectAt s.1 r with properties := t } := by
    have hmodify := objectAt_modify (m := s.1) f r q
    by_cases hq : r.index = q.index ∧ q.index < s.1.objects.size
    · rw [if_pos hq] at hmodify
      obtain rfl : q = r := by
        cases q
        cases r
        exact congrArg Ref.mk hq.1.symm
      exact .inr ⟨rfl, hmodify.trans hf⟩
    · rw [if_neg hq] at hmodify
      exact .inl hmodify
  refine ⟨by simp [updated], rfl, fun q => ?_, fun q => ?_, fun q l hl => ?_⟩
  · rcases hat q with hsame | ⟨rfl, hnew⟩
    · rw [hsame]
    · rw [hnew]
  · rcases hat q with hsame | ⟨rfl, hnew⟩
    · rw [hsame]
    · rw [hnew]
  · rcases hat q with hsame | ⟨rfl, hnew⟩
    · rw [hsame]
    · have htabular : IsTabular { objectAt s.1 q with properties := t } := hr.of_kind rfl
      rw [hnew, htabular.own, hr.own]
      exact ht l hl

theorem objectAt_updated (hr : r.index < s.1.objects.size) (f : Object → Object) :
    objectAt (updated r f s).1 r = f (objectAt s.1 r) :=
  (objectAt_modify f r r).trans (if_pos ⟨rfl, hr⟩)

/-! ## Writing -/

/-- A number of prototypes up from an object, a write under a key meets a stored value that may be
written, or the end of the prototypes. -/
inductive PassesAt (m : Machine) (k : PropertyKey) : Nat → Ref → Prop
  | stored {r : Ref} {v : Value} {e c : Bool} (h : IsOrdinary m r)
    (hown : (objectAt m r).own? k = some ⟨.data v true, e, c⟩) : PassesAt m k 0 r
  | nowhere {r : Ref} (h : IsOrdinary m r) (hnone : (objectAt m r).own? k = none)
    (hlast : (objectAt m r).prototype = none) : PassesAt m k 0 r
  | inherited {n : Nat} {r p : Ref} (h : IsOrdinary m r) (hnone : (objectAt m r).own? k = none)
    (hprototype : (objectAt m r).prototype = some p) (more : PassesAt m k n p) :
    PassesAt m k (n + 1) r

theorem PassesAt.findsAt (h : PassesAt m k n r) : ∃ x, FindsAt m k n r x := by
  induction h with
  | stored h hown => exact ⟨_, .own h hown⟩
  | nowhere h hnone hlast => exact ⟨_, .nowhere h hnone hlast⟩
  | inherited h hnone hprototype _ ih =>
      obtain ⟨x, hx⟩ := ih
      exact ⟨x, .inherited h hnone hprototype hx⟩

/-- An object takes a value under a key: nothing on its chain of prototypes refuses the write or
runs code, and there is room for the key. -/
structure Takes (m : Machine) (k : PropertyKey) (r : Ref) : Prop where
  inRange : r.index < m.objects.size
  tabular : IsTabular (objectAt m r)
  passes : ∃ n, PassesAt m k n r
  room : (objectAt m r).own? k = none → (objectAt m r).extensible = true

theorem setAlong_passes {receiver : Value} (h : PassesAt s.1 k n r) (hfuel : n < fuel) :
    setAlong I k v receiver fuel r s = writeAt I k v receiver s := by
  induction h generalizing fuel with
  | stored h hown =>
      obtain ⟨fuel, rfl⟩ : ∃ f, fuel = f + 1 := ⟨fuel - 1, by omega⟩
      have hdirect := h.direct
      unfold IsDirect at hdirect
      rw [setAlong, bind_ok (object_run _ s)]
      simp only [hown]
  | nowhere h hnone hlast =>
      obtain ⟨fuel, rfl⟩ : ∃ f, fuel = f + 1 := ⟨fuel - 1, by omega⟩
      have hdirect := h.direct
      unfold IsDirect at hdirect
      rw [setAlong, bind_ok (object_run _ s)]
      simp only [hnone, hlast]
  | inherited h hnone hprototype _ ih =>
      obtain ⟨fuel, rfl⟩ : ∃ f, fuel = f + 1 := ⟨fuel - 1, by omega⟩
      have hdirect := h.direct
      unfold IsDirect at hdirect
      rw [setAlong, bind_ok (object_run _ s)]
      simp only [hnone, hprototype]
      exact ih (by omega)

/-- A property that holds a value. -/
def holding (v : Value) (e c : Bool) : Property := ⟨.data v true, e, c⟩

theorem defineOwn_fresh (h : IsTabular (objectAt s.1 r)) (hnone : (objectAt s.1 r).own? k = none)
    (hroom : (objectAt s.1 r).extensible = true) :
    defineOwn I r k (.ofProperty (.plain v)) s =
      .ok none (updated r (·.place k (holding v true true)) s) := by
  have hdirect := h.direct
  unfold IsDirect at hdirect
  unfold defineOwn
  rw [bind_ok (object_run _ s)]
  simp only [h.isArrayObject, h.isPastEnd, hnone, hroom]
  rfl

theorem writeAt_takes (h : Takes s.1 k r) : ∃ e c,
    writeAt I k v (.object r) s = .ok none (updated r (·.place k (holding v e c)) s) := by
  have hdirect := h.tabular.direct
  unfold IsDirect at hdirect
  obtain ⟨n, hpasses⟩ := h.passes
  unfold writeAt
  simp only []
  rw [bind_ok (object_run _ s)]
  cases hpasses with
  | stored _ hown =>
      simp only [hown, h.tabular.isArrayObject]
      exact ⟨_, _, rfl⟩
  | nowhere _ hnone _ =>
      simp only [hnone, h.room hnone]
      exact ⟨_, _, defineOwn_fresh h.tabular hnone (h.room hnone)⟩
  | inherited _ hnone _ _ =>
      simp only [hnone, h.room hnone]
      exact ⟨_, _, defineOwn_fresh h.tabular hnone (h.room hnone)⟩

theorem trySet_takes (h : Takes s.1 k r) : ∃ e c,
    trySet I r k v s = .ok none (updated r (·.place k (holding v e c)) s) := by
  obtain ⟨n, hpasses⟩ := h.passes
  obtain ⟨x, hx⟩ := hpasses.findsAt
  have hwrite : trySet I r k v s = writeAt I k v (.object r) s :=
    setAlong_passes hpasses (Nat.lt_succ_of_lt hx.lt_size)
  rw [hwrite]
  exact writeAt_takes h

theorem differs_placed (hr : IsTabular (objectAt s.1 r)) (k : PropertyKey) (p : Property) :
    Differs k s.1 (updated r (·.place k p) s).1 :=
  differs_updated hr (hr.place k p) fun _ hl => get_put_ne _ _ hl

/-- What has been written is found. -/
theorem finds_placed (h : Takes s.1 k r) (v : Value) (e c : Bool) :
    Finds (updated r (·.place k (holding v e c)) s).1 k r (some v) := by
  have hdiffers := differs_placed h.tabular k (holding v e c)
  have htabular := h.tabular.of_kind (hdiffers.kind r)
  have hown : (objectAt (updated r (·.place k (holding v e c)) s).1 r).own? k =
      some (holding v e c) := by
    rw [htabular.own, objectAt_updated h.inRange, h.tabular.place]
    exact get_put_self _ _ _
  exact .own ⟨by rw [hdiffers.size]; exact h.inRange, htabular.direct⟩ hown

/-- Sloppy code writes a value that an object takes. -/
theorem setMember_takes (h : Takes s.1 k r) : ∃ s',
    setMember I (.object r) k v false s = .ok () s' ∧ s'.2 = s.2 ∧ Differs k s.1 s'.1 ∧
      Finds s'.1 k r (some v) := by
  obtain ⟨e, c, hrun⟩ := trySet_takes (I := I) (v := v) h
  refine ⟨updated r (·.place k (holding v e c)) s, ?_, rfl, differs_placed h.tabular k _,
    finds_placed h v e c⟩
  unfold setMember
  exact (bind_ok hrun).trans rfl

/-- An object holds a value under a key that may not be written. -/
structure IsReadOnly (m : Machine) (k : PropertyKey) (r : Ref) (w : Value) : Prop where
  ordinary : IsOrdinary m r
  own : ∃ e c, (objectAt m r).own? k = some ⟨.data w false, e, c⟩

theorem IsReadOnly.finds (h : IsReadOnly m k r w) : Finds m k r (some w) := by
  obtain ⟨e, c, hown⟩ := h.own
  exact .own h.ordinary hown

/-- Sloppy code goes on where a value may not be written, and nothing happens. -/
theorem setMember_readOnly (h : IsReadOnly s.1 k r w) :
    setMember I (.object r) k v false s = .ok () s := by
  obtain ⟨hordinary, e, c, hown⟩ := h
  have hdirect := hordinary.direct
  unfold IsDirect at hdirect
  have hrefused : trySet I r k v s = .ok (some .readOnly) s := by
    change setAlong I k v (.object r) (s.1.objects.size + 1) r s = _
    rw [setAlong, bind_ok (object_run _ s)]
    simp only [hown]
    rfl
  unfold setMember
  exact (bind_ok hrefused).trans rfl

/-! ## Deleting -/

/-- An object has no key that is deleted, or keeps it if it has to. -/
theorem deleteOwn_run (I : Interp σ) (hr : IsTabular (objectAt s.1 r)) (k : PropertyKey) :
    ∃ refusal s', deleteOwn I r k s = .ok refusal s' ∧
      (s' = s ∨ s' = updated r (·.remove k) s ∧
        ∃ p, (objectAt s.1 r).own? k = some p ∧ p.configurable = true) := by
  have hdirect := hr.direct
  unfold IsDirect at hdirect
  unfold deleteOwn
  rw [bind_ok (object_run _ s)]
  simp only []
  cases hown : (objectAt s.1 r).own? k with
  | none => exact ⟨none, s, rfl, .inl rfl⟩
  | some p =>
      cases hconfigurable : p.configurable with
      | false =>
          simp only [hconfigurable]
          exact ⟨some .notDeletable, s, rfl, .inl rfl⟩
      | true =>
          simp only [hconfigurable]
          exact ⟨none, updated r (·.remove k) s, rfl, .inr ⟨rfl, p, rfl, hconfigurable⟩⟩

theorem differs_removed (hr : IsTabular (objectAt s.1 r)) (k : PropertyKey) :
    Differs k s.1 (updated r (·.remove k) s).1 :=
  differs_updated hr (hr.remove k) fun _ hl => get_erase_ne _ hl

/-! ## Scripts that assign and delete -/

theorem reachLine_same (line : Nat) (s : Machine × σ) : ∃ s', reachLine line s = .ok () s' ∧
    s'.1.objects = s.1.objects ∧ s'.1.scopes = s.1.scopes ∧ s'.2 = s.2 := by
  obtain ⟨m, h⟩ := s
  refine ⟨_, rfl, ?_⟩
  dsimp only
  split
  · exact ⟨rfl, rfl, rfl⟩
  · split
    · exact ⟨rfl, rfl, rfl⟩
    · exact ⟨rfl, rfl, rfl⟩

/-- The key of a text. -/
abbrev keyName (key : Text) : PropertyKey := .name (Utf16.ofText key)

/-- An assignment evaluates its expression, and then writes. -/
theorem evaluate_assignment {key : Text} {e : Expr} (hlines : HasNoLines s)
    (hglobal : NamesObject s.1 r) :
    (Engine.interp host (d + 2)).evaluate scriptSite (assignmentTree key e) s = (do
      let w ← (Engine.interp host (d + 1)).evaluate scriptSite e
      reachLine 1
      setMember (Engine.interp host (d + 1)) (.object r) (keyName key) w false
      return w) s := by
  have hbase := @evaluate_variable _ _ host _ _ d hlines hglobal
  have hkey : (Engine.interp host (d + 1)).evaluate scriptSite
      (.literal (.string (Utf16.ofText key))) s = .ok (.string (Utf16.ofText key)) s := rfl
  change Expression.assign (Engine.interp host (d + 1)) scriptSite (referenceTree key) e s = _
  unfold referenceTree Expression.assign
  dsimp only
  rw [bind_ok hbase, bind_ok hkey]
  rfl

/-- An assignment that runs through has evaluated its expression, and then written. -/
theorem assignment_ran {key : Text} {e : Expr} (hlines : HasNoLines s) (hglobal : NamesObject s.1 r)
    (h : (Engine.interp host (d + 2)).evaluate scriptSite (assignmentTree key e) s = .ok w s') :
    ∃ s₁ s₂, (Engine.interp host (d + 1)).evaluate scriptSite e s = .ok w s₁ ∧
      reachLine 1 s₁ = .ok () s₂ ∧
      setMember (Engine.interp host (d + 1)) (.object r) (keyName key) w false s₂ = .ok () s' := by
  rw [evaluate_assignment hlines hglobal] at h
  obtain ⟨v, s₁, hvalue, h⟩ := Transition.ok_of_bind h
  obtain ⟨u, s₂, hline, h⟩ := Transition.ok_of_bind h
  obtain ⟨u, s₃, hset, h⟩ := Transition.ok_of_bind h
  cases h
  exact ⟨s₁, s₂, hvalue, hline, hset⟩

/-- A deletion runs through, and does not tell why a key is kept. -/
theorem evaluate_deletion {key : Text} {refusal : Option Refusal} (hlines : HasNoLines s)
    (hglobal : NamesObject s.1 r)
    (hdelete : deleteOwn (Engine.interp host (d + 1)) r (keyName key) s = .ok refusal s') :
    ∃ b, (Engine.interp host (d + 2)).evaluate scriptSite (.deletion (referenceTree key)) s =
      .ok (.bool b) s' := by
  have hbase := @evaluate_variable _ _ host _ _ d hlines hglobal
  have hkey : (Engine.interp host (d + 1)).evaluate scriptSite
      (.literal (.string (Utf16.ofText key))) s = .ok (.string (Utf16.ofText key)) s := rfl
  have hthrough : Expression.throughOptional false (.object r) s = .ok () s := rfl
  have hto : toKey (Engine.interp host (d + 1)) (.string (Utf16.ofText key)) s =
      .ok (keyName key) s := rfl
  have hobject : toObject (.object r) s = .ok r s := rfl
  have hplace : Expression.deletePlace (Engine.interp host (d + 1)) scriptSite (referenceTree key) s =
      Expression.deletePlace.remove (Engine.interp host (d + 1)) scriptSite (.object r) (keyName key)
        s := by
    unfold referenceTree Expression.deletePlace
    rw [bind_ok hbase, bind_ok hthrough, bind_ok hkey, bind_ok (reachLine_run hlines 1), bind_ok hto]
  have hremove : ∃ b, Expression.deletePlace.remove (Engine.interp host (d + 1)) scriptSite (.object r)
      (keyName key) s = .ok (.bool b) s' := by
    unfold Expression.deletePlace.remove
    rw [bind_ok hobject, bind_ok hdelete]
    cases refusal with
    | none => exact ⟨true, rfl⟩
    | some refusal => exact ⟨false, rfl⟩
  obtain ⟨b, hremove⟩ := hremove
  exact ⟨b, hplace.trans hremove⟩

end ScriptHost.Proofs.AssignedKeys
