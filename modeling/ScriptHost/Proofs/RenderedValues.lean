import ScriptHost.Proofs.BoundModules

/-!
# The values of capabilities

Where the names that rendered capabilities use have their own meaning, the expression of a capability
has a value.  Evaluating it makes new objects and new scopes, and nothing that was there changes.
-/

namespace ScriptHost.Proofs.RenderedValues

open Script Script.Eval
open ScriptHost.Proofs.AssignedKeys
open ScriptHost.Proofs.Bindings
open ScriptHost.Proofs.BoundModules
open ScriptHost.Proofs.Bridge
open ScriptHost.Proofs.CapabilityPhrases
open ScriptHost.Proofs.DataTrees
open ScriptHost.Proofs.DataValues
open ScriptHost.Proofs.Evaluation
open ScriptHost.Proofs.NewObjects
open ScriptHost.Proofs.PropertyChains
open ScriptHost.Proofs.ScriptRuns

variable {σ : Type} {s s' s₀ s₁ : Machine × σ} {I : Interp σ} {host : Engine.HostCall σ} {n l id : Nat}
  {ids : List Nat} {k : Name} {r raw b : Ref} {c : Closure} {t : Telling} {v : Value} {e : Expr}

/-! ## What stays where objects are added -/

theorem grows_withObjects (os : List Object) (s : Machine × σ) :
    Grows s.1.objects.size s (withObjects os s) :=
  ⟨rfl, rfl, by simp, fun _ hr => objectAt_withObjects hr, fun _ _ h => h, .refl _⟩

theorem grows_updated {f : Object → Object} (hr : n ≤ r.index) : Grows n s (updated r f s) where
  host := rfl
  depth := rfl
  size := by simp [updated]
  old q hq := (objectAt_modify f r q).trans (if_neg fun h => by omega)
  scopes _ _ h := h
  calls := .refl _

theorem HasConstant.grows (h : HasConstant s.1 k v) (hgrows : Grows s.1.objects.size s s') :
    HasConstant s'.1 k v := by
  obtain ⟨w, e, d, hown⟩ := h.property
  obtain ⟨c, hc, hparent, hunbound⟩ := h.outermost
  have hglobal : objectAt s'.1 globalRef = objectAt s.1 globalRef :=
    hgrows.old _ (index_lt (ne_default_of_own hown))
  exact ⟨⟨c, hgrows.scopes 0 c hc, hparent, hunbound⟩, by rw [hglobal]; exact h.direct,
    ⟨w, e, d, by rw [hglobal]; exact hown⟩⟩

theorem IsBridge.grows (h : IsBridge s.1 b c t) (hgrows : Grows s.1.objects.size s s') :
    IsBridge s'.1 b c t :=
  ⟨by rw [hgrows.old b (index_lt_of_closure h.closure)]; exact h.closure, h.code, h.scope⟩

theorem CanBridge.grows (h : CanBridge s.1 id t raw) (hgrows : Grows s.1.objects.size s s') :
    CanBridge s'.1 id t raw := by
  obtain ⟨b, c, hname, hb⟩ := h.bridge
  exact ⟨⟨b, c, HasConstant.grows hname hgrows, IsBridge.grows hb hgrows⟩,
    HasConstant.grows h.hidden hgrows,
    by rw [hgrows.old raw (index_lt_of_native h.native)]; exact h.native⟩

theorem HasNumbers.grows {x : Specials} (h : HasNumbers s.1 x)
    (hgrows : Grows s.1.objects.size s s') : HasNumbers s'.1 x :=
  ⟨HasConstant.grows h.nan hgrows, HasConstant.grows h.infinity hgrows⟩

/-- A state in which the expressions of capabilities can be evaluated: the names that they use have
their own meaning, and there is room for a call. -/
structure IsReadyFor (ids : List Nat) (s : Machine × σ) : Prop where
  names : HasOwnNames s.1 ids
  lines : HasNoLines s
  room : s.1.depth ≤ Engine.callLimit

theorem IsReadyFor.grows (h : IsReadyFor ids s) (hgrows : Grows s.1.objects.size s s') :
    IsReadyFor ids s' := by
  obtain ⟨x, hx⟩ := h.names.numbers
  refine ⟨⟨⟨x, HasNumbers.grows hx hgrows⟩, fun id hid => ?_⟩, ?_, ?_⟩
  · obtain ⟨t, raw, hcan⟩ := h.names.functions id hid
    exact ⟨t, raw, CanBridge.grows hcan hgrows⟩
  · unfold HasNoLines
    rw [hgrows.calls.lineless h.lines]
    exact h.lines
  · rw [hgrows.depth]
    exact h.room

/-! ## Members -/

theorem givePrototype_run (hopen : IsOpen (objectAt s.1 r)) (hr : r.index < s.1.objects.size)
    (hn : n ≤ r.index) (v : Value) : ∃ s',
    givePrototype r v s = .ok () s' ∧ Grows n s s' ∧ IsOpen (objectAt s'.1 r) := by
  have hupdated (f : Object → Object) (hf : IsOpen (f (objectAt s.1 r))) :
      Grows n s (updated r f s) ∧ IsOpen (objectAt (updated r f s).1 r) :=
    ⟨grows_updated hn, by rw [objectAt_updated hr]; exact hf⟩
  cases v with
  | object p => exact ⟨_, rfl, hupdated _ (isOpen_withPrototype hopen (.object p))⟩
  | null => exact ⟨_, rfl, hupdated _ (isOpen_withPrototype hopen .null)⟩
  | _ => exact ⟨s, rfl, .refl n s, hopen⟩

theorem createProperty_run (hopen : IsOpen (objectAt s.1 r)) (hr : r.index < s.1.objects.size)
    (hn : n ≤ r.index) (k : Name) (v : Value) : ∃ s',
    createProperty I r (.name k) v s = .ok () s' ∧ Grows n s s' ∧ IsOpen (objectAt s'.1 r) := by
  refine ⟨_, (createProperty_open hopen k v).trans (updateObject_run _ _ _), grows_updated hn, ?_⟩
  rw [objectAt_updated hr, place_of_isOpen hopen]
  exact isOpen_withProperty hopen k v

/-- A member is put on a new object, once its value is there. -/
theorem members_put {site : Site} {ms : List Member} (he : I.evaluate site e s = .ok v s₁)
    (hopen : IsOpen (objectAt s₁.1 r)) (hr : r.index < s₁.1.objects.size) (hn : n ≤ r.index) : ∃ s',
    Expression.members I site r (entryTree k e :: ms) s = Expression.members I site r ms s' ∧
      Grows n s₁ s' ∧ IsOpen (objectAt s'.1 r) := by
  unfold entryTree
  split
  · obtain ⟨s', hrun, hgrows, hopen'⟩ := givePrototype_run hopen hr hn v
    exact ⟨s', (members_prototype he).trans (bind_ok hrun), hgrows, hopen'⟩
  · obtain ⟨s', hrun, hgrows, hopen'⟩ := createProperty_run (I := I) hopen hr hn k v
    refine ⟨s', ?_, hgrows, hopen'⟩
    rw [members_value, bind_ok he, bind_ok hrun]

/-! ## Evaluation -/

/-- In all states that are ready, an expression has a value, and evaluating it only adds to what is
there. -/
def HasValue (host : Engine.HostCall σ) (ids : List Nat) (n : Nat) (e : Expr) : Prop :=
  ∀ s : Machine × σ, IsReadyFor ids s → ∃ v s',
    (Engine.interp host n).evaluate scriptSite e s = .ok v s' ∧ Grows s.1.objects.size s s'

theorem elements_values {es : List Expr} (h : ∀ e ∈ es, HasValue host ids n e) :
    ∀ (acc : Array Value) (s : Machine × σ), IsReadyFor ids s → ∃ values s',
      Expression.elements (Engine.interp host n) scriptSite (es.map .item) acc s = .ok values s' ∧
        Grows s.1.objects.size s s' := by
  induction es with
  | nil => exact fun acc s _ => ⟨acc, s, rfl, .refl _ s⟩
  | cons e rest ih =>
      intro acc s hs
      obtain ⟨v, s₁, hrun, hgrows⟩ := h e List.mem_cons_self s hs
      obtain ⟨values, s₂, hrest, hmore⟩ :=
        ih (fun f hf => h f (List.mem_cons_of_mem _ hf)) (acc.push v) s₁ (hs.grows hgrows)
      refine ⟨values, s₂, ?_, hgrows.trans (hmore.mono hgrows.size)⟩
      rw [List.map_cons, Expression.elements, bind_ok hrun]
      exact hrest

/-- The members of an object that is newer than all that was there at first. -/
theorem members_values {ms : List (Name × Expr)} (h : ∀ m ∈ ms, HasValue host ids n m.2)
    (hready : IsReadyFor ids s₀) (hr : s₀.1.objects.size ≤ r.index) :
    ∀ s : Machine × σ, Grows s₀.1.objects.size s₀ s → r.index < s.1.objects.size →
      IsOpen (objectAt s.1 r) → ∃ s',
        Expression.members (Engine.interp host n) scriptSite r
            (ms.map fun m => entryTree m.1 m.2) s = .ok () s' ∧
          Grows s₀.1.objects.size s₀ s' ∧ r.index < s'.1.objects.size := by
  induction ms with
  | nil => exact fun s hgrows hrange _ => ⟨s, rfl, hgrows, hrange⟩
  | cons m rest ih =>
      intro s hgrows hrange hopen
      obtain ⟨v, s₁, hrun, hmore⟩ := h m List.mem_cons_self s (hready.grows hgrows)
      have hsame := hmore.old r hrange
      obtain ⟨s₂, hmember, hput, hopen₂⟩ := members_put (k := m.1)
        hrun (by rw [hsame]; exact hopen)
        (Nat.lt_of_lt_of_le hrange hmore.size) hr
      obtain ⟨s', hrest, hall⟩ := ih (fun m' hm' => h m' (List.mem_cons_of_mem _ hm')) s₂
        ((hgrows.trans (hmore.mono hgrows.size)).trans hput)
        (Nat.lt_of_lt_of_le hrange (Nat.le_trans hmore.size hput.size)) hopen₂
      exact ⟨s', hmember.trans hrest, hall⟩

/-- The value of a mapping is a new object. -/
theorem mapping_value {ms : List (Name × Expr)} (h : ∀ m ∈ ms, HasValue host ids n m.2)
    (s : Machine × σ) (hs : IsReadyFor ids s) : ∃ s',
    (Engine.interp host (n + 1)).evaluate scriptSite (.object (ms.map fun m => entryTree m.1 m.2)) s =
        .ok (.object ⟨s.1.objects.size⟩) s' ∧
      Grows s.1.objects.size s s' ∧ s.1.objects.size < s'.1.objects.size := by
  have hnew := grows_withObjects [emptyObject] s
  have hopen : IsOpen (objectAt (withObjects [emptyObject] s).1 ⟨s.1.objects.size⟩) := by
    rw [objectAt_new]
    exact isOpen_emptyObject
  obtain ⟨s', hrun, hgrows, hsize⟩ := members_values h hs (r := ⟨s.1.objects.size⟩) (Nat.le_refl _)
    (withObjects [emptyObject] s) hnew (by simp) hopen
  refine ⟨s', ?_, hgrows, hsize⟩
  change Expression.objectValue (Engine.interp host n) scriptSite _ s = _
  unfold Expression.objectValue newObject
  rw [← emptyObject, bind_ok (allocate_run _ s), bind_ok hrun]
  rfl

/-- The expression of a capability has a value. -/
theorem hasValue_of_rendered (h : IsRendered ids n e) : HasValue host ids n e := by
  induction h with
  | @datum n v hv hn =>
      intro s hs
      obtain ⟨x, hx⟩ := hs.names.numbers
      exact ⟨_, _, evaluate_tree rfl v hn ⟨hs.lines, .inr hx⟩, grows_withObjects _ s⟩
  | @bridging n id hid hn =>
      intro s hs
      obtain ⟨t, raw, hcan⟩ := hs.names.functions id hid
      obtain ⟨d, rfl⟩ : ∃ d, n = d + 6 := ⟨n - 6, by omega⟩
      obtain ⟨r, c, s', hrun, hgrows, -⟩ :=
        evaluate_bridging (n := d) 1 hcan (show scriptSite.scope = 0 from rfl) hs.room
      exact ⟨.object r, s', hrun, hgrows⟩
  | @list n es _ ih =>
      intro s hs
      obtain ⟨values, s₁, hrun, hgrows⟩ := elements_values ih #[] s hs
      have hnohole : (es.map Element.item).any Expression.isHole = false := by
        simp [Expression.isHole]
      have hnew := grows_withObjects [listObject values] s₁
      refine ⟨.object ⟨s₁.1.objects.size⟩, _, ?_, hgrows.trans (hnew.mono hgrows.size)⟩
      change Expression.array (Engine.interp host n) scriptSite (es.map .item) s = _
      unfold Expression.array
      rw [hnohole, if_neg (by simp), bind_ok hrun]
      exact bind_ok (allocate_run _ s₁)
  | @mapping n ms _ ih =>
      intro s hs
      obtain ⟨s', hrun, hgrows, -⟩ := mapping_value ih s hs
      exact ⟨.object ⟨s.1.objects.size⟩, s', hrun, hgrows⟩

end ScriptHost.Proofs.RenderedValues
