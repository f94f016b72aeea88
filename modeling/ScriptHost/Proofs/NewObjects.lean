import ScriptHost.Proofs.Evaluation

/-!
# Computations that only add objects

Much of what the engine does on the way to a result is to put new objects on the heap and to give
them properties.  Such a computation runs through, and what was there before stays as it was.
-/

namespace ScriptHost.Proofs.NewObjects

open Script Script.Eval
open ScriptHost.Proofs.Evaluation

variable {σ α β : Type} {s s' s'' : Machine × σ} {n : Nat} {r : Ref} {o : Object}

/-- The same calls are under way, and where no lines are known of the innermost, nothing at all has
changed about them. -/
structure SameCalls (fs fs' : List Frame) : Prop where
  outer : fs'.drop 1 = fs.drop 1
  lineless : (∀ f ∈ fs.head?, f.line = none) → fs' = fs

namespace SameCalls

theorem refl (fs : List Frame) : SameCalls fs fs := ⟨rfl, fun _ => rfl⟩

theorem trans {fs fs' fs'' : List Frame} (h : SameCalls fs fs') (h' : SameCalls fs' fs'') :
    SameCalls fs fs'' := by
  refine ⟨h'.outer.trans h.outer, fun hlines => ?_⟩
  have hsame := h.lineless hlines
  rw [← hsame] at hlines
  exact (h'.lineless hlines).trans hsame

theorem after {f : Frame} (h : SameCalls (within f s).1.frames s'.1.frames) :
    SameCalls s.1.frames (Evaluation.after s').1.frames := by
  have hframes : s'.1.frames.drop 1 = s.1.frames := h.outer
  change SameCalls s.1.frames (s'.1.frames.drop 1)
  rw [hframes]
  exact .refl _

end SameCalls

/-- Of the objects below a place none has changed, those beyond it are of the kind that they were,
and scopes, host and calls under way are as they were. -/
structure Newer (n : Nat) (s s' : Machine × σ) : Prop where
  host : s'.2 = s.2
  scopes : s'.1.scopes = s.1.scopes
  depth : s'.1.depth = s.1.depth
  size : s.1.objects.size ≤ s'.1.objects.size
  old : ∀ r : Ref, r.index < n → objectAt s'.1 r = objectAt s.1 r
  kinds : ∀ r : Ref, r.index < s.1.objects.size → (objectAt s'.1 r).kind = (objectAt s.1 r).kind
  calls : SameCalls s.1.frames s'.1.frames

theorem Newer.refl (n : Nat) (s : Machine × σ) : Newer n s s :=
  ⟨rfl, rfl, rfl, Nat.le_refl _, fun _ _ => rfl, fun _ _ => rfl, .refl _⟩

theorem Newer.trans (h : Newer n s s') (h' : Newer n s' s'') : Newer n s s'' where
  host := h'.host.trans h.host
  scopes := h'.scopes.trans h.scopes
  depth := h'.depth.trans h.depth
  size := Nat.le_trans h.size h'.size
  old r hr := (h'.old r hr).trans (h.old r hr)
  kinds r hr := (h'.kinds r (Nat.lt_of_lt_of_le hr h.size)).trans (h.kinds r hr)
  calls := h.calls.trans h'.calls

theorem Newer.mono {m : Nat} (h : Newer n s s') (hm : m ≤ n) : Newer m s s' :=
  ⟨h.host, h.scopes, h.depth, h.size, fun r hr => h.old r (Nat.lt_of_lt_of_le hr hm), h.kinds, h.calls⟩

/-- Objects and scopes have been added: of the objects those below a place are as they were, and so
are all scopes, the host and the calls under way. -/
structure Grows (n : Nat) (s s' : Machine × σ) : Prop where
  host : s'.2 = s.2
  depth : s'.1.depth = s.1.depth
  size : s.1.objects.size ≤ s'.1.objects.size
  old : ∀ r : Ref, r.index < n → objectAt s'.1 r = objectAt s.1 r
  scopes : ∀ (i : Nat) (c : Scope), s.1.scopes[i]? = some c → s'.1.scopes[i]? = some c
  calls : SameCalls s.1.frames s'.1.frames

theorem Grows.refl (n : Nat) (s : Machine × σ) : Grows n s s :=
  ⟨rfl, rfl, Nat.le_refl _, fun _ _ => rfl, fun _ _ h => h, .refl _⟩

theorem Grows.trans (h : Grows n s s') (h' : Grows n s' s'') : Grows n s s'' where
  host := h'.host.trans h.host
  depth := h'.depth.trans h.depth
  size := Nat.le_trans h.size h'.size
  old r hr := (h'.old r hr).trans (h.old r hr)
  scopes i c hc := h'.scopes i c (h.scopes i c hc)
  calls := h.calls.trans h'.calls

theorem Grows.mono {l : Nat} (h : Grows n s s') (hl : l ≤ n) : Grows l s s' :=
  ⟨h.host, h.depth, h.size, fun r hr => h.old r (Nat.lt_of_lt_of_le hr hl), h.scopes, h.calls⟩

theorem Newer.grows (h : Newer n s s') : Grows n s s' where
  host := h.host
  depth := h.depth
  size := h.size
  old := h.old
  scopes i c hc := by rw [h.scopes]; exact hc
  calls := h.calls

/-- A computation that runs through, adds objects from a place on, and changes none below it. -/
def Adds (n : Nat) (x : Eval σ α) (Q : α → Prop) : Prop :=
  ∀ s, n ≤ s.1.objects.size → ∃ a s', x s = .ok a s' ∧ Newer n s s' ∧ Q a

variable {x : Eval σ α} {Q : α → Prop} {Q' : β → Prop}

theorem Adds.pure {a : α} (h : Q a) : Adds n (Pure.pure a : Eval σ α) Q :=
  fun s _ => ⟨a, s, rfl, .refl n s, h⟩

theorem Adds.bind {k : α → Eval σ β} (hx : Adds n x Q) (hk : ∀ a, Q a → Adds n (k a) Q') :
    Adds n (x >>= k) Q' := by
  intro s hs
  obtain ⟨a, s₁, hrun, hnewer, ha⟩ := hx s hs
  obtain ⟨b, s₂, hrun₂, hnewer₂, hb⟩ := hk a ha s₁ (Nat.le_trans hs hnewer.size)
  exact ⟨b, s₂, (bind_ok hrun).trans hrun₂, hnewer.trans hnewer₂, hb⟩

theorem adds_forIn {γ : Type} {f : γ → β → Eval σ (ForInStep β)}
    (h : ∀ c b, Adds n (f c b) fun _ => True) (cs : List γ) (b : β) :
    Adds n (forIn cs b f) fun _ => True := by
  induction cs generalizing b with
  | nil => exact .pure trivial
  | cons c cs ih =>
      rw [List.forIn_cons]
      refine (h c b).bind fun step _ => ?_
      cases step with
      | done b => exact .pure trivial
      | yield b => exact ih b

theorem objectAt_push (hr : r.index < s.1.objects.size) :
    objectAt { s.1 with objects := s.1.objects.push o } r = objectAt s.1 r := by
  unfold objectAt
  dsimp only
  rw [Array.getElem?_push, if_neg (Nat.ne_of_lt hr)]

theorem newer_push (o : Object) (h : n ≤ s.1.objects.size) :
    Newer n s ({ s.1 with objects := s.1.objects.push o }, s.2) where
  host := rfl
  scopes := rfl
  depth := rfl
  size := by simp
  old r hr := objectAt_push (Nat.lt_of_lt_of_le hr h)
  kinds r hr := congrArg Object.kind (objectAt_push hr)
  calls := .refl _

/-- A new object stands beyond all that were there. -/
theorem adds_allocate (o : Object) : Adds (σ := σ) n (allocate o) fun r => n ≤ r.index :=
  fun _ hs => ⟨_, _, rfl, newer_push o hs, hs⟩

theorem objectAt_modify {m : Machine} (f : Object → Object) (r p : Ref) :
    objectAt { m with objects := m.objects.modify r.index f } p =
      if r.index = p.index ∧ p.index < m.objects.size then f (objectAt m p) else objectAt m p := by
  unfold objectAt
  dsimp only
  by_cases hp : p.index < m.objects.size
  · rw [Array.getElem?_eq_getElem (by simpa using hp), Array.getElem?_eq_getElem hp,
      Array.getElem_modify]
    simp only [hp, and_true, Option.getD_some]
  · rw [Array.getElem?_eq_none (by simpa using hp), Array.getElem?_eq_none (by omega), if_neg (by omega)]

/-- A property is put on an object that is newer. -/
theorem adds_put (hr : n ≤ r.index) (k : PropertyKey) (p : Property) :
    Adds (σ := σ) n (putProperty r k p) fun _ => True := by
  intro s hs
  refine ⟨(), _, rfl, ⟨rfl, rfl, rfl, by simp, fun q hq => ?_, fun q hq => ?_, .refl _⟩, trivial⟩
  · refine (objectAt_modify _ r q).trans (if_neg fun h => ?_)
    omega
  · refine (congrArg Object.kind (objectAt_modify _ r q)).trans ?_
    split
    · rfl
    · rfl

theorem adds_reachLine (line : Nat) : Adds (σ := σ) n (reachLine line) fun _ => True := by
  intro s hs
  refine ⟨(), _, rfl, ?_, trivial⟩
  obtain ⟨m, h⟩ := s
  dsimp only
  split
  · exact .refl _ _
  · rename_i f rest hframes
    split
    · rename_i hline
      refine ⟨rfl, rfl, rfl, Nat.le_refl _, fun _ _ => rfl, fun _ _ => rfl, ?_⟩
      refine ⟨by rw [hframes]; rfl, fun hlines => ?_⟩
      rw [hlines f (by rw [hframes]; rfl)] at hline
      cases hline
    · exact .refl _ _

/-- The receiver that a function of sloppy code sees may be a new object. -/
theorem adds_receiverFor (v : Value) :
    Adds (σ := σ) n (Callable.receiverFor false v) fun _ => True := by
  unfold Callable.receiverFor
  rw [if_neg (by simp)]
  split
  · exact .pure trivial
  · exact .pure trivial
  · exact .pure trivial
  · rename_i hundefined hnull hobject
    refine Adds.bind (Q := fun _ => True) ?_ fun _ _ => .pure trivial
    unfold toObject
    split
    · rename_i p
      exact absurd rfl (hobject p)
    · exact absurd rfl hundefined
    · exact absurd rfl hnull
    · exact fun s hs => ⟨_, _, rfl, newer_push _ hs, trivial⟩

/-- The object that holds the arguments of a call is new. -/
theorem adds_makeArguments (callee : Ref) (strict : Bool) (args : Array Value) :
    Adds (σ := σ) n (Callable.makeArguments callee strict args) fun _ => True := by
  unfold Callable.makeArguments
  refine (adds_allocate _).bind fun r hr => ?_
  dsimp only
  refine Adds.bind (Q := fun _ => True) ?_ fun _ _ => ?_
  · rw [← Array.forIn_toList]
    exact adds_forIn (fun _ _ => (adds_put hr _ _).bind fun _ _ => .pure trivial) _ _
  · refine (adds_put hr _ _).bind fun _ _ => (adds_put hr _ _).bind fun _ _ => ?_
    split
    · exact (adds_put hr _ _).bind fun _ _ => .pure trivial
    · exact (adds_put hr _ _).bind fun _ _ => .pure trivial

end ScriptHost.Proofs.NewObjects
