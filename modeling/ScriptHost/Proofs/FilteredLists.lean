import ScriptHost.Proofs.Applier
import ScriptHost.Proofs.HeldData
import ScriptHost.Proofs.RenderedValues

/-!
# Filtering a list

What the engine's method for it makes of a list and a function: a new list with the items that the
function answers for.  The engine looks up which kind of list to make, and finds its own.
-/

namespace ScriptHost.Proofs.FilteredLists

open Script Script.Eval Library
open ScriptHost.Proofs.Applier
open ScriptHost.Proofs.DataValues
open ScriptHost.Proofs.Evaluation
open ScriptHost.Proofs.HeldData
open ScriptHost.Proofs.NewObjects
open ScriptHost.Proofs.PropertyChains
open ScriptHost.Proofs.RenderedValues (grows_withObjects grows_updated)

variable {σ : Type} {s s' s₁ : Machine × σ} {I : Interp σ} {H : Engine.HostCall σ} {m m' : Machine}
  {r out : Ref} {v f : Value} {p : Value → Bool} {values : Array Value} {n i : Nat}

/-! ## Growing states -/

theorem Grows.objects (h : Grows s.1.objects.size s s') : HasObjects s.1 s'.1 :=
  fun r hr => ⟨Nat.lt_of_lt_of_le hr h.size, h.old r hr⟩

/-! ## The kind of list to make -/

/-- The keys that the engine looks under for the kind of list to make. -/
def constructorKey : PropertyKey := "constructor"

/-- Lists are made by the engine's own constructor of lists. -/
structure MakesLists (m : Machine) : Prop where
  made : ∃ a g u e c, Finds m constructorKey Intrinsic.arrayPrototype.ref (some (.object a)) ∧
    IsOrdinary m a ∧
    (objectAt m a).own? KnownSymbol.species.key = some ⟨.accessor (some g) u, e, c⟩ ∧
    (objectAt m g).kind = .native .species ∧ (objectAt m a).kind = .native (.constructor .array)

theorem MakesLists.of_objects (hm : HasObjects m m') (h : MakesLists m) : MakesLists m' := by
  obtain ⟨a, g, u, e, c, hfinds, hordinary, hspecies, hg, ha⟩ := h.made
  have hold {q : Ref} (hq : (objectAt m q).kind ≠ (default : Object).kind) :
      objectAt m' q = objectAt m q :=
    (hm q (index_lt fun hdefault => hq (by rw [hdefault]))).2
  have hsame := (hm a hordinary.inRange).2
  refine ⟨a, g, u, e, c, hfinds.of_objects hm, hordinary.of_objects hm, by rw [hsame, hspecies], ?_,
    by rw [hsame, ha]⟩
  rw [hold (by rw [hg]; exact fun h => nomatch h), hg]

/-- A list is a list. -/
theorem isArray_run (hr : objectAt s.1 r = listObject values) :
    isArray (s.1.objects.size + 1) (.object r) s = .ok true s := by
  unfold isArray
  dsimp only
  rw [bind_ok (object_run r s), hr]
  rfl

/-- A list like another one is a new list. -/
theorem arrayLike_run (hr : objectAt s.1 r = listObject values) (hmakes : MakesLists s.1)
    (hroom : s.1.depth ≤ Engine.callLimit) :
    arrayLike (Engine.interp H (n + 1)) r 0 s =
      .ok ⟨s.1.objects.size⟩ (withObjects [listObject #[]] s) := by
  obtain ⟨a, g, u, e, c, hfinds, hordinary, hspecies, hg, ha⟩ := hmakes.made
  have hconstructor : getProperty (Engine.interp H (n + 1)) r constructorKey s = .ok (.object a) s := by
    refine (Finds.inherited (isOrdinary_of_list hr) ?_ ?_ hfinds).getProperty_some
    · rw [hr]
      exact own_listObject _ (by decide) (by decide)
    · rw [hr]
      rfl
  have hgetter : getProperty (Engine.interp H (n + 1)) a KnownSymbol.species.key s = .ok (.object a) s := by
    change getAlong _ _ (.object a) (s.1.objects.size + 1) a s = _
    rw [getAlong, bind_ok (object_run a s)]
    simp only [ha, hspecies]
    change (Engine.interp H (n + 1)).call (.object g) (.object a) #[] s = _
    rw [call_native hg hroom, withFrame_run]
    rfl
  unfold arrayLike
  dsimp only
  rw [bind_ok (chainBound_run s), bind_ok (isArray_run hr), if_neg (by simp)]
  refine (bind_ok hconstructor).trans ?_
  refine (bind_ok hgetter).trans ?_
  dsimp only
  rw [pure_bind]
  dsimp only
  rw [bind_ok (object_run a s)]
  simp only [ha]
  exact allocate_run (listObject #[]) s

/-! ## The items that are kept -/

theorem ofIndex_ne_length (hn : n < 2 ^ 32 - 1) : (PropertyKey.ofIndex n).isNamed "length" = false := by
  refine Bool.eq_false_iff.mpr fun hnamed => ?_
  have hnone : (PropertyKey.name (Utf16.ofString "length")).arrayIndex? = none := by
    decide +kernel
  rw [← beq_iff_eq.mp hnamed, arrayIndex_ofIndex hn] at hnone
  cases hnone

theorem own_pastItems (hsize : values.size < 2 ^ 32 - 1) :
    (listObject values).own? (.ofIndex values.size) = none := by
  unfold listObject Object.bare Object.own?
  dsimp only
  rw [arrayIndex_ofIndex hsize, ofIndex_ne_length hsize]
  simp [PropertyTable.get?, PropertyTable.place?, PropertyTable.empty]

theorem admits_list (hsize : values.size < 2 ^ 32 - 1) :
    Admits (listObject values) (.ofIndex values.size) where
  direct _ _ _ hkind := by cases hkind
  noLength := by rw [ofIndex_ne_length hsize, Bool.and_false]
  own := own_pastItems hsize
  inside := rfl
  extensible := rfl

theorem place_list (hsize : values.size < 2 ^ 32 - 1) (v : Value) :
    (listObject values).place (.ofIndex values.size) (.plain v) = listObject (values.push v) := by
  unfold listObject Object.bare Object.place Property.plain
  dsimp only
  rw [arrayIndex_ofIndex hsize]
  simp [PropertyTable.get?, PropertyTable.place?, PropertyTable.empty]

/-- An item is added at the end of a list. -/
theorem createProperty_push (hr : objectAt s.1 r = listObject values) (hsize : values.size < 2 ^ 32 - 1)
    (v : Value) :
    ∃ s', createProperty I r (.ofIndex values.size) v s = .ok () s' ∧ Grows r.index s s' ∧
      objectAt s'.1 r = listObject (values.push v) := by
  have hadmits : Admits (objectAt s.1 r) (.ofIndex values.size) := by
    rw [hr]
    exact admits_list hsize
  refine ⟨_, createProperty_run hadmits v, grows_updated (Nat.le_refl _), ?_⟩
  refine (objectAt_modify _ r r).trans ?_
  rw [if_pos ⟨rfl, inRange_of_list hr⟩, hr]
  exact place_list hsize v

/-- A function answers for a value whether it is kept, and changes nothing that there is. -/
def Answers (I : Interp σ) (f : Value) (s : Machine × σ) (v : Value) (kept : Bool) : Prop :=
  ∀ (s₁ : Machine × σ) (i : Nat) (list : Value), Grows s.1.objects.size s s₁ → ∃ w s₂,
    I.call f .undefined #[v, Value.ofNat i, list] s₁ = .ok w s₂ ∧ w.isTruthy = kept ∧
      Grows s₁.1.objects.size s₁ s₂

/-- What is done with each item of a list that is filtered. -/
def filterStep (I : Interp σ) (f : Value) (r out : Ref) (k i : Nat) (v : Value) :
    Eval σ (Except Value Nat) := do
  if (← I.call f .undefined #[v, Value.ofNat i, .object r]).isTruthy then
    createProperty I out (indexKey k) v
    return .ok (k + 1)
  else return .ok k

theorem itemAt_run (hr : objectAt s.1 r = listObject values) (hi : i < values.size)
    (hsize : values.size < 2 ^ 32 - 1) : itemAt? I r i s = .ok (some values[i]) s := by
  have hfinds := Finds.own (isOrdinary_of_list hr) (by rw [hr, own_item hi hsize]; rfl)
  unfold itemAt? itemAt indexKey
  rw [bind_ok hfinds.hasProperty, Option.isSome_some, if_pos rfl, bind_ok hfinds.getProperty_some]
  rfl

/-- Going through the places of a list that are left keeps the items that the function answers for. -/
theorem forItems_run (hr : r.index < n) (hout : n ≤ out.index) (hsize : values.size < 2 ^ 32 - 1)
    (hanswers : ∀ v ∈ values, Answers I f s v (p v)) (hn : n = s.1.objects.size) :
    ∀ (left : Nat) (kept : Array Value) (s₁ : Machine × σ), left ≤ values.size →
      kept.size + left ≤ values.size → Grows n s s₁ → objectAt s₁.1 r = listObject values →
      objectAt s₁.1 out = listObject kept →
      ∃ k s₂, forItems I r values.size (filterStep I f r out) left kept.size s₁ = .ok (.ok k) s₂ ∧
        Grows n s s₂ ∧
        objectAt s₂.1 out =
          listObject (kept ++ ((values.toList.drop (values.size - left)).filter p).toArray) := by
  intro left
  induction left with
  | zero =>
      intro kept s₁ _ _ hgrows _ hkept
      refine ⟨kept.size, s₁, rfl, hgrows, hkept.trans ?_⟩
      rw [Nat.sub_zero, List.drop_of_length_le (by simp)]
      simp
  | succ left ih =>
      intro kept s₁ hleft hroom hgrows hlist hkept
      have hi : values.size - (left + 1) < values.size := by omega
      obtain ⟨w, s₂, hcall, hw, hmore⟩ := hanswers _ (Array.getElem_mem hi) s₁
        (values.size - (left + 1)) (.object r) (hn ▸ hgrows)
      have hdrop : values.toList.drop (values.size - (left + 1)) =
          values[values.size - (left + 1)] :: values.toList.drop (values.size - left) := by
        have hcons := List.drop_eq_getElem_cons (l := values.toList) (i := values.size - (left + 1)) hi
        rw [show values.size - (left + 1) + 1 = values.size - left by omega] at hcons
        simpa using hcons
      have hlist₂ : objectAt s₂.1 r = listObject values :=
        (hmore.old r (inRange_of_list hlist)).trans hlist
      have hkept₂ : objectAt s₂.1 out = listObject kept :=
        (hmore.old out (inRange_of_list hkept)).trans hkept
      have hgrows₂ : Grows n s s₂ := hgrows.trans (hmore.mono (hn ▸ hgrows.size))
      rw [hdrop]
      unfold forItems
      rw [bind_ok (itemAt_run hlist hi hsize)]
      dsimp only
      cases hp : p values[values.size - (left + 1)] with
      | false =>
          have hstep : filterStep I f r out kept.size (values.size - (left + 1))
              values[values.size - (left + 1)] s₁ = .ok (.ok kept.size) s₂ := by
            unfold filterStep
            rw [bind_ok hcall, hw, hp]
            rfl
          rw [bind_ok hstep, List.filter_cons_of_neg (by simp [hp])]
          exact ih kept s₂ (by omega) (by omega) hgrows₂ hlist₂ hkept₂
      | true =>
          obtain ⟨s₃, hcreate, hlater, hkept₃⟩ := createProperty_push (I := I) hkept₂ (by omega)
            values[values.size - (left + 1)]
          have hlist₃ : objectAt s₃.1 r = listObject values :=
            (hlater.old r (Nat.lt_of_lt_of_le hr hout)).trans hlist₂
          have hstep : filterStep I f r out kept.size (values.size - (left + 1))
              values[values.size - (left + 1)] s₁ = .ok (.ok (kept.size + 1)) s₃ := by
            unfold filterStep
            rw [bind_ok hcall, hw, hp]
            exact (bind_ok hcreate).trans rfl
          obtain ⟨k, s₄, hrun, hgrows₄, hkept₄⟩ := ih (kept.push values[values.size - (left + 1)]) s₃
            (by omega) (by rw [Array.size_push]; omega) (hgrows₂.trans (hlater.mono hout)) hlist₃ hkept₃
          rw [bind_ok hstep, List.filter_cons_of_pos hp]
          rw [Array.size_push] at hrun
          refine ⟨k, s₄, hrun, hgrows₄, hkept₄.trans (congrArg listObject ?_)⟩
          simp

/-- A list is filtered by a function. -/
theorem filter_run {g : Ref} (hr : objectAt s.1 r = listObject values) (hmakes : MakesLists s.1)
    (hroom : s.1.depth ≤ Engine.callLimit) (hg : (objectAt s.1 g).isCallable = true)
    (hsize : values.size < 2 ^ 32 - 1)
    (hanswers : ∀ v ∈ values, Answers (Engine.interp H (n + 1)) (.object g) s v (p v)) :
    ∃ s', arrayMethod (Engine.interp H (n + 1)) .filter (.object r) #[.object g] s =
        .ok (.object ⟨s.1.objects.size⟩) s' ∧ Grows s.1.objects.size s s' ∧
      objectAt s'.1 ⟨s.1.objects.size⟩ = listObject (values.filter p) := by
  have hlength : lengthOf (Engine.interp H (n + 1)) r s = .ok values.size s := by
    unfold lengthOf
    rw [bind_ok (object_run r s), hr]
    rfl
  obtain ⟨k, s₂, hitems, hgrows, hout⟩ := forItems_run (inRange_of_list hr)
    (show s.1.objects.size ≤ (Ref.mk s.1.objects.size).index from Nat.le_refl _) hsize hanswers rfl values.size #[] (withObjects [listObject #[]] s) (Nat.le_refl _)
    (by simp) (grows_withObjects _ s)
    (((grows_withObjects [listObject #[]] s).old r (inRange_of_list hr)).trans hr)
    (objectAt_new _ _ _)
  refine ⟨s₂, ?_, hgrows, hout.trans (congrArg listObject ?_)⟩
  · unfold arrayMethod
    refine (bind_ok (show toObject (.object r) s = .ok r s from rfl)).trans ?_
    dsimp only
    refine (bind_ok hlength).trans ?_
    refine (bind_ok (needCallable_run hg)).trans ?_
    refine (bind_ok (arrayLike_run hr hmakes hroom)).trans ?_
    exact bind_ok hitems
  · rw [Nat.sub_self, List.drop_zero, Array.empty_append, ← Array.toList_filter]

end ScriptHost.Proofs.FilteredLists
