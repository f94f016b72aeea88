import Mathlib.Data.Fintype.Card
import ScriptHost.Proofs.Evaluation

/-!
# Properties along prototypes

What is found under a key of an object: the value that the object stores, or else what its prototype
has.  No handler stands in for an object on the way and no accessor is met, so that the look-up runs
nothing of the script and leaves the state as it is.
-/

namespace ScriptHost.Proofs.PropertyChains

open Script Script.Eval
open ScriptHost.Proofs.Evaluation

variable {σ : Type} {s : Machine × σ} {I : Interp σ} {m m' : Machine} {k : PropertyKey} {r p : Ref}
  {x y : Option Value} {v : Value} {n l fuel : Nat}

/-- An object of the machine that no handler stands in for. -/
structure IsOrdinary (m : Machine) (r : Ref) : Prop where
  inRange : r.index < m.objects.size
  direct : IsDirect (objectAt m r)

/-- What is found under a key a number of prototypes up from an object: a stored value, or nothing
where the prototypes end. -/
inductive FindsAt (m : Machine) (k : PropertyKey) : Nat → Ref → Option Value → Prop
  | own {r : Ref} {v : Value} {w e c : Bool} (h : IsOrdinary m r)
    (hown : (objectAt m r).own? k = some ⟨.data v w, e, c⟩) : FindsAt m k 0 r (some v)
  | nowhere {r : Ref} (h : IsOrdinary m r) (hnone : (objectAt m r).own? k = none)
    (hlast : (objectAt m r).prototype = none) : FindsAt m k 0 r none
  | inherited {n : Nat} {r p : Ref} {x : Option Value} (h : IsOrdinary m r)
    (hnone : (objectAt m r).own? k = none) (hprototype : (objectAt m r).prototype = some p)
    (more : FindsAt m k n p x) : FindsAt m k (n + 1) r x

/-- What is found under a key of an object. -/
def Finds (m : Machine) (k : PropertyKey) (r : Ref) (x : Option Value) : Prop :=
  ∃ n, FindsAt m k n r x

/-! ## Chains are finite -/

theorem FindsAt.unique (h : FindsAt m k n r x) (h' : FindsAt m k l r y) : n = l ∧ x = y := by
  induction h generalizing l y with
  | own _ hown =>
      cases h' with
      | own _ hown' =>
          rw [hown] at hown'
          cases hown'
          exact ⟨rfl, rfl⟩
      | nowhere _ hnone _ => rw [hown] at hnone; cases hnone
      | inherited _ hnone _ _ => rw [hown] at hnone; cases hnone
  | nowhere _ hnone hlast =>
      cases h' with
      | own _ hown => rw [hown] at hnone; cases hnone
      | nowhere _ _ _ => exact ⟨rfl, rfl⟩
      | inherited _ _ hprototype _ => rw [hlast] at hprototype; cases hprototype
  | inherited _ hnone hprototype _ ih =>
      cases h' with
      | own _ hown => rw [hown] at hnone; cases hnone
      | nowhere _ _ hlast => rw [hlast] at hprototype; cases hprototype
      | inherited _ _ hprototype' more =>
          rw [hprototype] at hprototype'
          cases hprototype'
          obtain ⟨rfl, rfl⟩ := ih more
          exact ⟨rfl, rfl⟩

theorem Finds.unique (h : Finds m k r x) (h' : Finds m k r y) : x = y := by
  obtain ⟨n, h⟩ := h
  obtain ⟨l, h'⟩ := h'
  exact (h.unique h').2

/-- At each height below the one where something is found stands an object of the machine. -/
theorem FindsAt.exists_below (h : FindsAt m k n r x) (hl : l ≤ n) :
    ∃ p : Fin m.objects.size, FindsAt m k l ⟨p.val⟩ x := by
  induction h with
  | own h hown =>
      obtain rfl : l = 0 := Nat.le_zero.mp hl
      exact ⟨⟨_, h.inRange⟩, .own h hown⟩
  | nowhere h hnone hlast =>
      obtain rfl : l = 0 := Nat.le_zero.mp hl
      exact ⟨⟨_, h.inRange⟩, .nowhere h hnone hlast⟩
  | @inherited n _ _ _ h hnone hprototype more ih =>
      rcases Nat.lt_or_eq_of_le hl with hlt | rfl
      · exact ih (Nat.le_of_lt_succ hlt)
      · exact ⟨⟨_, h.inRange⟩, .inherited h hnone hprototype more⟩

/-- A chain is no longer than the number of objects: at each height stands another one. -/
theorem FindsAt.lt_size (h : FindsAt m k n r x) : n < m.objects.size := by
  have hbelow : ∀ i : Fin (n + 1), ∃ p : Fin m.objects.size, FindsAt m k i.val ⟨p.val⟩ x :=
    fun i => h.exists_below (Nat.le_of_lt_succ i.isLt)
  choose place hplace using hbelow
  have hinjective : Function.Injective place := by
    intro i j hij
    have hi := hplace i
    rw [hij] at hi
    exact Fin.ext (hi.unique (hplace j)).1
  have hcard := Fintype.card_le_of_injective place hinjective
  rw [Fintype.card_fin, Fintype.card_fin] at hcard
  omega

/-! ## Look-ups -/

theorem getAlong_findsAt (h : FindsAt s.1 k n r x) (hfuel : n < fuel) :
    getAlong I k v fuel r s = .ok (x.getD .undefined) s := by
  induction h generalizing fuel with
  | own h hown =>
      obtain ⟨fuel, rfl⟩ : ∃ f, fuel = f + 1 := ⟨fuel - 1, by omega⟩
      have hdirect := h.direct
      unfold IsDirect at hdirect
      rw [getAlong, bind_ok (object_run _ s)]
      simp only [hown]
      rfl
  | nowhere h hnone hlast =>
      obtain ⟨fuel, rfl⟩ : ∃ f, fuel = f + 1 := ⟨fuel - 1, by omega⟩
      have hdirect := h.direct
      unfold IsDirect at hdirect
      rw [getAlong, bind_ok (object_run _ s)]
      simp only [hnone, hlast]
      rfl
  | inherited h hnone hprototype _ ih =>
      obtain ⟨fuel, rfl⟩ : ∃ f, fuel = f + 1 := ⟨fuel - 1, by omega⟩
      have hdirect := h.direct
      unfold IsDirect at hdirect
      rw [getAlong, bind_ok (object_run _ s)]
      simp only [hnone, hprototype]
      exact ih (by omega)

theorem hasAlong_findsAt (h : FindsAt s.1 k n r x) (hfuel : n < fuel) :
    hasAlong I k fuel r s = .ok x.isSome s := by
  induction h generalizing fuel with
  | own h hown =>
      obtain ⟨fuel, rfl⟩ : ∃ f, fuel = f + 1 := ⟨fuel - 1, by omega⟩
      have hdirect := h.direct
      unfold IsDirect at hdirect
      rw [hasAlong, bind_ok (object_run _ s)]
      simp only [hown]
      rfl
  | nowhere h hnone hlast =>
      obtain ⟨fuel, rfl⟩ : ∃ f, fuel = f + 1 := ⟨fuel - 1, by omega⟩
      have hdirect := h.direct
      unfold IsDirect at hdirect
      rw [hasAlong, bind_ok (object_run _ s)]
      simp only [hnone, hlast]
      rfl
  | inherited h hnone hprototype _ ih =>
      obtain ⟨fuel, rfl⟩ : ∃ f, fuel = f + 1 := ⟨fuel - 1, by omega⟩
      have hdirect := h.direct
      unfold IsDirect at hdirect
      rw [hasAlong, bind_ok (object_run _ s)]
      simp only [hnone, hprototype]
      exact ih (by omega)

namespace Finds

/-- Reading what is found, for any receiver. -/
theorem getOf (h : Finds s.1 k r x) (v : Value) :
    getOf I r k v s = .ok (x.getD .undefined) s := by
  obtain ⟨n, h⟩ := h
  exact getAlong_findsAt h (Nat.lt_succ_of_lt h.lt_size)

theorem getProperty (h : Finds s.1 k r x) : getProperty I r k s = .ok (x.getD .undefined) s :=
  h.getOf (.object r)

theorem getProperty_some (h : Finds s.1 k r (some v)) : Eval.getProperty I r k s = .ok v s :=
  h.getProperty

theorem hasProperty (h : Finds s.1 k r x) : hasProperty I r k s = .ok x.isSome s := by
  obtain ⟨n, h⟩ := h
  exact hasAlong_findsAt h (Nat.lt_succ_of_lt h.lt_size)

theorem own {w e c : Bool} (h : IsOrdinary m r)
    (hown : (objectAt m r).own? k = some ⟨.data v w, e, c⟩) : Finds m k r (some v) :=
  ⟨0, .own h hown⟩

theorem inherited (h : IsOrdinary m r) (hnone : (objectAt m r).own? k = none)
    (hprototype : (objectAt m r).prototype = some p) (more : Finds m k p x) : Finds m k r x := by
  obtain ⟨n, more⟩ := more
  exact ⟨n + 1, .inherited h hnone hprototype more⟩

end Finds

/-! ## Computing what is found -/

/-- Whether an object is one of the machine that no handler stands in for. -/
def isOrdinary (m : Machine) (r : Ref) : Bool :=
  decide (r.index < m.objects.size) && (match (objectAt m r).kind with
    | .proxy _ _ _ => false
    | _ => true)

theorem isOrdinary_of (h : isOrdinary m r = true) : IsOrdinary m r := by
  obtain ⟨hrange, hdirect⟩ := (Bool.and_eq_true _ _).mp h
  refine ⟨of_decide_eq_true hrange, fun target handler callable hkind => ?_⟩
  rw [hkind] at hdirect
  cases hdirect

/-- What is found under a key of an object, if it is not too many prototypes up. -/
def found? (m : Machine) (k : PropertyKey) : Nat → Ref → Option (Option Value)
  | 0, _ => none
  | fuel + 1, r =>
    if isOrdinary m r then
      match (objectAt m r).own? k, (objectAt m r).prototype with
      | some ⟨.data v _, _, _⟩, _ => some (some v)
      | some ⟨.accessor _ _, _, _⟩, _ => none
      | none, some p => found? m k fuel p
      | none, none => some none
    else none

theorem finds_of_found (h : found? m k fuel r = some x) : Finds m k r x := by
  induction fuel generalizing r with
  | zero => cases h
  | succ fuel ih =>
      unfold found? at h
      split at h
      · rename_i hcheck
        have hordinary := isOrdinary_of hcheck
        split at h
        · rename_i hown
          cases h
          exact .own hordinary hown
        · cases h
        · rename_i hnone hprototype
          exact .inherited hordinary hnone hprototype (ih h)
        · rename_i hnone hlast
          cases h
          exact ⟨0, .nowhere hordinary hnone hlast⟩
      · cases h

/-! ## Further objects -/

/-- A machine has the objects of another one, and perhaps more. -/
def HasObjects (m m' : Machine) : Prop :=
  ∀ r : Ref, r.index < m.objects.size → r.index < m'.objects.size ∧ objectAt m' r = objectAt m r

theorem HasObjects.trans {m'' : Machine} (h : HasObjects m m') (h' : HasObjects m' m'') :
    HasObjects m m'' := fun r hr =>
  ⟨(h' r (h r hr).1).1, (h' r (h r hr).1).2.trans (h r hr).2⟩

theorem IsOrdinary.of_objects (h : HasObjects m m') (hr : IsOrdinary m r) : IsOrdinary m' r := by
  obtain ⟨hrange, hsame⟩ := h r hr.inRange
  refine ⟨hrange, ?_⟩
  rw [hsame]
  exact hr.direct

theorem Finds.of_objects (h : HasObjects m m') (hx : Finds m k r x) : Finds m' k r x := by
  obtain ⟨n, hx⟩ := hx
  refine ⟨n, ?_⟩
  induction hx with
  | own hr hown => exact .own (hr.of_objects h) (by rw [(h _ hr.inRange).2]; exact hown)
  | nowhere hr hnone hlast =>
      have hsame := (h _ hr.inRange).2
      exact .nowhere (hr.of_objects h) (by rw [hsame]; exact hnone) (by rw [hsame]; exact hlast)
  | inherited hr hnone hprototype _ ih =>
      have hsame := (h _ hr.inRange).2
      exact .inherited (hr.of_objects h) (by rw [hsame]; exact hnone)
        (by rw [hsame]; exact hprototype) ih

/-- A machine has the objects of another one, and perhaps more, and its scopes. -/
structure Extends (m m' : Machine) : Prop where
  objects : HasObjects m m'
  scopes : m'.scopes = m.scopes

namespace Extends

theorem refl (m : Machine) : Extends m m := ⟨fun _ h => ⟨h, rfl⟩, rfl⟩

theorem finds (h : Extends m m') (hx : Finds m k r x) : Finds m' k r x := hx.of_objects h.objects

end Extends

end ScriptHost.Proofs.PropertyChains
