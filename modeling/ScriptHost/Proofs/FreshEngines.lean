import ScriptHost.Proofs.Coexistence
import ScriptHost.Proofs.FirstHeap
import ScriptHost.Proofs.FunctionListings

/-!
# Engines in which nothing has been changed

What the preparation of an instance relies on in an engine: the keys that the listing of functions reads
have their own meaning, and the global object holds nothing but values.  All of that stays as long as
these keys are spared; and it is so in the engine that every instance starts from.
-/

namespace ScriptHost.Proofs.FreshEngines

open Interpreter Registry ScriptEngine
open Script
open ScriptHost.Proofs.AssignedKeys
open ScriptHost.Proofs.Bindings
open ScriptHost.Proofs.BoundModules
open ScriptHost.Proofs.Bridge
open ScriptHost.Proofs.Coexistence
open ScriptHost.Proofs.DataValues
open ScriptHost.Proofs.ErrorTexts
open ScriptHost.Proofs.Evaluation
open ScriptHost.Proofs.FilteredLists
open ScriptHost.Proofs.GlobalListings
open ScriptHost.Proofs.GlobalValues
open ScriptHost.Proofs.GlobalWrites
open ScriptHost.Proofs.HeldData
open ScriptHost.Proofs.PlainCall
open ScriptHost.Proofs.PropertyChains
open ScriptHost.Proofs.ReferenceTrees (globalName)
open ScriptHost.Proofs.ServedGlobals
open ScriptHost.Proofs.SparingRegistrations

variable {m m' : Machine} {W : PropertyKey → Prop} {n l next : Nat} {key : Text}

/-! ## What is relied on -/

/-- The keys that the listing of functions and the texts of errors rely on. -/
def reliedKeys : List PropertyKey :=
  [.name globalName, .name jsonName, .name stringifyName, .name objectName, .name ownNamesName,
    .name filterName, constructorKey, KnownSymbol.species.key, writerKey,
    KnownSymbol.toPrimitive.key, "toString", "name"]

/-- Nothing has been changed that is relied on, and there is room for a number of further globals. -/
structure IsIntact (n : Nat) (m : Machine) : Prop where
  lists : CanList m
  errors : HasOwnErrors m
  here : HoldsHere m
  prototype : ∀ p, (objectAt m globalRef).own? (.name prototypeName) = some p → IsStored p
  few : entryCount m + n < 2 ^ 32 - 1

/-- Scripts have declared nothing. -/
def IsBare (m : Machine) : Prop :=
  ∃ c, m.scopes[0]? = some c ∧ c.bindings = #[] ∧ c.parent = none ∧ c.call = none

theorem IsBare.spares (hm : Spares W m m') (h : IsBare m) : IsBare m' := by
  obtain ⟨c, hc, hrest⟩ := h
  exact ⟨c, hm.scopes 0 c hc, hrest⟩

section Spared

variable (hm : Spares W m m') (hW : ∀ k ∈ reliedKeys, ¬W k)

include hm hW

theorem HasMethod.spares {base method : Name} {f : Native} (hbase : PropertyKey.name base ∈ reliedKeys)
    (hmethod : PropertyKey.name method ∈ reliedKeys) (h : HasMethod m base method f) :
    HasMethod m' base method f := by
  obtain ⟨r, q, hconstant, hfinds, hkind⟩ := h
  exact ⟨r, q, hm.hasConstant (hW _ hbase) hconstant, hm.finds (hW _ hmethod) hfinds,
    (hm.kinds (index_lt_of_native hkind)).trans hkind⟩

theorem MakesLists.spares (h : MakesLists m) : MakesLists m' := by
  obtain ⟨a, g, u, e, c, hfinds, hordinary, hspecies, hg, ha⟩ := h.made
  have hown := hm.owns (hW KnownSymbol.species.key (by simp [reliedKeys])) hordinary.inRange
  exact ⟨a, g, u, e, c, hm.finds (hW _ (by simp [reliedKeys])) hfinds, hm.ordinary hordinary,
    hown.trans hspecies, (hm.kinds (index_lt_of_native hg)).trans hg,
    (hm.kinds hordinary.inRange).trans ha⟩

theorem CanList.spares (h : CanList m) : CanList m' := by
  obtain ⟨q, hfilter, hkind⟩ := h.filter
  refine ⟨HasMethod.spares hm hW (by simp [reliedKeys]) (by simp [reliedKeys]) h.json,
    HasMethod.spares hm hW (by simp [reliedKeys]) (by simp [reliedKeys]) h.object,
    hm.hasConstant (hW _ (by simp [reliedKeys])) h.global,
    ⟨q, hm.finds (hW _ (by simp [reliedKeys])) hfilter,
      (hm.kinds (index_lt_of_native hkind)).trans hkind⟩, MakesLists.spares hm hW h.makes, ?_⟩
  exact ⟨hm.finds (hW _ (by simp [reliedKeys])) h.writes.arrays,
    hm.finds (hW _ (by simp [reliedKeys])) h.writes.objects⟩

theorem HasOwnErrors.spares (h : HasOwnErrors m) : HasOwnErrors m' := by
  obtain ⟨f, hf, hmethod, hkind⟩ := h.method
  obtain ⟨u, hname⟩ := h.name
  exact ⟨by rw [hm.depth]; exact h.depth, hm.finds (hW _ (by simp [reliedKeys])) h.primitive,
    ⟨f, Nat.lt_of_lt_of_le hf hm.size, hm.finds (hW _ (by simp [reliedKeys])) hmethod,
      (hm.kinds hf).trans hkind⟩, ⟨u, hm.finds (hW _ (by simp [reliedKeys])) hname⟩⟩

/-- As long as the keys are spared, all stays that is relied on. -/
theorem IsIntact.spares (h : IsIntact (n + l) m) (ht : Tallies n m m') : IsIntact l m' where
  lists := CanList.spares hm hW h.lists
  errors := HasOwnErrors.spares hm hW h.errors
  here := ht.here h.here
  prototype p hown := (hm.written _ p hown).elim (h.prototype p) IsWritable.isStored
  few := by
    have := ht.entries
    have := h.few
    omega

end Spared

/-- The global object holds nothing but values that are there. -/
theorem IsIntact.holdsValues (h : IsIntact n m) (ha : Allows m next) : HoldsValues m := by
  refine ⟨fun k hk => ?_, Nat.lt_of_le_of_lt (length_ownNames ha.tabular) (by have := h.few; omega)⟩
  obtain ⟨⟨slot, e, c⟩, hown⟩ := own_of_mem ha.tabular hk
  have hstored : IsStored ⟨slot, e, c⟩ := by
    by_cases hname : k = prototypeName
    · subst hname
      exact h.prototype _ hown
    · obtain ⟨i, hi⟩ := ha.stored k hname
      exact hi.own _ hown
  obtain ⟨v, w, rfl⟩ := hstored
  exact ⟨v, w, e, c, hown, h.here _ _ _ _ _ hown⟩

/-- Modules under other names, and hidden globals, spare the keys that are relied on. -/
theorem not_touches_relied {names : List Text} (h : ∀ key ∈ names, keyName key ∉ reliedKeys) :
    ∀ k ∈ reliedKeys, ¬Touches names k := by
  intro k hk
  rintro (⟨key, hkey, rfl⟩ | ⟨id, rfl⟩)
  · exact h key hkey hk
  · have hplain : reliedKeys.all (fun k => !isHiddenKey k) = true := by decide
    have hnot := List.all_eq_true.mp hplain _ hk
    rw [isHiddenKey_hidden] at hnot
    cases hnot

/-! ## The engine that instances start from -/

/-- The names that the preparation of an instance writes. -/
def preparedNames : List Text := [bridgeName, "console", "regex"]

/-- Whether an object is a given function of the engine. -/
def isNative (m : Machine) (r : Ref) (f : Native) : Bool :=
  match (objectAt m r).kind with
  | .native g => g == f
  | _ => false

/-- Whether an object has a given method of the engine under a key. -/
def findsNative (m : Machine) (k : PropertyKey) (r : Ref) (f : Native) : Bool :=
  match found? m k m.objects.size r with
  | some (some (.object q)) => isNative m q f
  | _ => false

/-- Whether a constant has a given method of the engine. -/
def isMethod (m : Machine) (base method : Name) (f : Native) : Bool :=
  match constant? m base with
  | some (.object r) => findsNative m (.name method) r f
  | _ => false

/-- Whether nothing is found under a key. -/
def findsNothing (m : Machine) (k : PropertyKey) (r : Ref) : Bool :=
  match found? m k m.objects.size r with
  | some none => true
  | _ => false

/-- Whether lists are made by the engine's own constructor of lists. -/
def makesLists (m : Machine) : Bool :=
  match found? m constructorKey m.objects.size Intrinsic.arrayPrototype.ref with
  | some (some (.object a)) =>
    match (objectAt m a).own? KnownSymbol.species.key with
    | some ⟨.accessor (some g) _, _, _⟩ =>
      isOrdinary m a && isNative m g .species && isNative m a (.constructor .array)
    | _ => false
  | _ => false

/-- Whether what the listing uses has its own meaning. -/
def canList (m : Machine) : Bool :=
  isMethod m jsonName stringifyName (.jsonFunction .stringify) &&
  isMethod m objectName ownNamesName (.objectFunction .getOwnPropertyNames) &&
  (match constant? m globalName with
    | some (.object r) => r == globalRef
    | _ => false) &&
  findsNative m (.name filterName) Intrinsic.arrayPrototype.ref (.arrayMethod .filter) &&
  makesLists m && findsNothing m writerKey Intrinsic.arrayPrototype.ref &&
  findsNothing m writerKey Intrinsic.objectPrototype.ref

/-- Whether the values of the global object are there, and it has no prototype of its own making. -/
def holdsHere (m : Machine) : Bool :=
  isTabular (objectAt m globalRef) &&
  (objectAt m globalRef).properties.entries.toList.all fun e =>
    e.1 != .name prototypeName &&
      match e.2.slot with
      | .data (.object r) _ => decide (r.index < m.objects.size)
      | _ => true

/-- Whether nothing has been changed in an engine that is relied on, and there are not many globals. -/
def isIntact (m : Machine) : Bool :=
  canList m && hasOwnErrors m && holdsHere m && decide (entryCount m ≤ 1000)

theorem kind_of_native {r : Ref} {f : Native} (h : isNative m r f = true) :
    (objectAt m r).kind = .native f := by
  unfold isNative at h
  split at h
  · rename_i g hg
    rw [hg, beq_iff_eq.mp h]
  · cases h

theorem finds_of_native {k : PropertyKey} {r : Ref} {f : Native} (h : findsNative m k r f = true) :
    ∃ q, Finds m k r (some (.object q)) ∧ (objectAt m q).kind = .native f := by
  unfold findsNative at h
  split at h
  · rename_i q hq
    exact ⟨q, finds_of_found hq, kind_of_native h⟩
  · cases h

theorem finds_of_nothing {k : PropertyKey} {r : Ref} (h : findsNothing m k r = true) :
    Finds m k r none := by
  unfold findsNothing at h
  split at h
  · rename_i hfound
    exact finds_of_found hfound
  · cases h

theorem hasMethod_of {base method : Name} {f : Native} (h : isMethod m base method f = true) :
    HasMethod m base method f := by
  unfold isMethod at h
  split at h
  · rename_i r hr
    obtain ⟨q, hq, hkind⟩ := finds_of_native h
    exact ⟨r, q, hasConstant_of hr, hq, hkind⟩
  · cases h

theorem makesLists_of (h : makesLists m = true) : MakesLists m := by
  unfold makesLists at h
  split at h
  · rename_i a ha
    split at h
    · rename_i g u e c hspecies
      simp only [Bool.and_eq_true] at h
      obtain ⟨⟨hordinary, hg⟩, hkind⟩ := h
      exact ⟨a, g, u, e, c, finds_of_found ha, isOrdinary_of hordinary, hspecies, kind_of_native hg,
        kind_of_native hkind⟩
    · cases h
  · cases h

theorem canList_of (h : canList m = true) : CanList m := by
  simp only [canList, Bool.and_eq_true] at h
  obtain ⟨⟨⟨⟨⟨⟨hjson, hobject⟩, hglobal⟩, hfilter⟩, hmakes⟩, harrays⟩, hobjects⟩ := h
  refine ⟨hasMethod_of hjson, hasMethod_of hobject, ?_, finds_of_native hfilter, makesLists_of hmakes,
    finds_of_nothing harrays, finds_of_nothing hobjects⟩
  split at hglobal
  · rename_i r hr
    obtain rfl := beq_iff_eq.mp hglobal
    exact hasConstant_of hr
  · cases hglobal

theorem isIntact_of (h : isIntact m = true) (hn : n ≤ 1000) : IsIntact n m := by
  simp only [isIntact, Bool.and_eq_true, decide_eq_true_eq, holdsHere, List.all_eq_true] at h
  obtain ⟨⟨⟨hlists, herrors⟩, ⟨htabular, hentries⟩⟩, hfew⟩ := h
  have htable := isTabular_of htabular
  have hentry : ∀ k p, (objectAt m globalRef).own? k = some p →
      k ≠ .name prototypeName ∧ (match p.slot with
        | .data (.object r) _ => decide (r.index < m.objects.size)
        | _ => true) = true := by
    intro k p hown
    rw [htable.own] at hown
    obtain ⟨hname, hhere⟩ := hentries (k, p) (mem_of_get hown)
    exact ⟨bne_iff_ne.mp hname, hhere⟩
  refine ⟨canList_of hlists, hasOwnErrors_of herrors, fun k v w e c hown => ?_,
    fun p hown => absurd rfl (hentry _ p hown).1, by omega⟩
  have hhere := (hentry _ _ hown).2
  cases v with
  | object r => exact (of_decide_eq_true hhere : r.index < m.objects.size)
  | _ => trivial

/-- Whether scripts have declared nothing. -/
def isBare (m : Machine) : Bool :=
  match m.scopes[0]? with
  | some c => c.bindings.isEmpty && c.parent.isNone && c.call.isNone
  | none => false

/-- Whether an engine is one that instances can be prepared in. -/
def isPreparable (m : Machine) : Bool :=
  isIntact m && allows m && isBare m && decide (m.depth = 0) &&
    allPass (fun k _ => !preparedNames.any fun key => keyName key == k) m m.objects.size globalRef

theorem seen_in_fresh : isPreparable Realm.machine = true := by
  -- made object by object, the first heap takes too long to be looked at
  rw [FirstHeap.machine_eq]
  decide +kernel

theorem isBare_of (h : isBare m = true) : IsBare m := by
  unfold isBare at h
  split at h
  · rename_i c hc
    simp only [Bool.and_eq_true, Array.isEmpty_iff, Option.isNone_iff_eq_none] at h
    exact ⟨c, hc, h.1.1, h.1.2, h.2⟩
  · cases h

/-- An engine in which an instance can be prepared: nothing has been changed or declared, and the names
that the preparation writes are open. -/
structure IsPreparable (m : Machine) : Prop where
  intact : IsIntact 1000 m
  allows : Allows m 0
  bare : IsBare m
  idle : m.depth = 0
  opened : ∀ key ∈ preparedNames, IsOpenTo m key

theorem isPreparable_of (h : isPreparable m = true) : IsPreparable m := by
  simp only [isPreparable, Bool.and_eq_true, decide_eq_true_eq] at h
  obtain ⟨⟨⟨⟨hintact, hallows⟩, hbare⟩, hidle⟩, hopen⟩ := h
  refine ⟨isIntact_of hintact (Nat.le_refl _), allows_of hallows 0, isBare_of hbare, hidle,
    fun key hkey => holdsUp_of hopen fun p hp => ?_⟩
  have hwritten : (preparedNames.any fun other => keyName other == keyName key) = true :=
    List.any_eq_true.mpr ⟨key, hkey, beq_self_eq_true _⟩
  rw [hwritten] at hp
  cases hp

/-- Instances can be prepared in the engine that they start from. -/
theorem isPreparable_fresh : IsPreparable Realm.machine := isPreparable_of seen_in_fresh

end ScriptHost.Proofs.FreshEngines
