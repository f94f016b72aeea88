import ScriptHost.Proofs.FilteredLists
import ScriptHost.Proofs.GlobalValues
import ScriptHost.Proofs.NameResolution
import ScriptHost.Proofs.ParameterCalls
import ScriptHost.Proofs.TextTrees

/-!
# Listing the functions of the global object

The script that lists the functions among the properties of the global object.  Where the names that it
uses have their own meaning, and the global object holds nothing but values, it gives the keys of the
functions in the engine's order, and nothing that was there changes.
-/

namespace ScriptHost.Proofs.GlobalListings

open Script Script.Eval Library ScriptEngine Interpreter
open ScriptHost.Proofs.Applier
open ScriptHost.Proofs.Bindings
open ScriptHost.Proofs.Bridge
open ScriptHost.Proofs.DataTexts
open ScriptHost.Proofs.DataValues
open ScriptHost.Proofs.Evaluation
open ScriptHost.Proofs.ExpressionScripts
open ScriptHost.Proofs.FilteredLists
open ScriptHost.Proofs.GlobalValues
open ScriptHost.Proofs.HeldData
open ScriptHost.Proofs.IntactTexts
open ScriptHost.Proofs.NewObjects
open ScriptHost.Proofs.ParameterCalls
open ScriptHost.Proofs.PropertyChains
open ScriptHost.Proofs.QuotedTexts (isApart_toText)
open ScriptHost.Proofs.ReferenceTrees
open ScriptHost.Proofs.RenderedValues (grows_withObjects)
open ScriptHost.Proofs.RoundTrip
open ScriptHost.Proofs.Scanning (forall_of_all)
open ScriptHost.Proofs.ScriptRuns
open ScriptHost.Proofs.StringifiedData
open ScriptHost.Proofs.TextTrees (itemLevels_le)
open ScriptHost.Proofs.Transition (host_bind_ok)

variable {σ : Type} {s s' s₁ s₂ : Machine × σ} {I : Interp σ} {H : Engine.HostCall σ}
  {m m' : Machine} {site : Site} {r q g : Ref} {c : Closure} {f : Function} {k : Name} {e e' : Expr}
  {v w : Value} {n d : Nat}

/-! ## The text of the listing -/

/-- The name of the function that writes data. -/
def stringifyName : Name := Utf16.ofString "stringify"

/-- The name of the constructor of objects. -/
def objectName : Name := Utf16.ofString "Object"

/-- The name of the function that lists the names of properties. -/
def ownNamesName : Name := Utf16.ofString "getOwnPropertyNames"

/-- The name of the method that filters a list. -/
def filterName : Name := Utf16.ofString "filter"

/-- The parameter of the function that the names are filtered by. -/
def parameterName : Name := Utf16.ofString "k"

/-- What `typeof` says of functions, in the engine. -/
def functionWord : Utf16 := Utf16.ofString "function"

/-- The expression that tells whether the global object holds a function under the parameter. -/
def typeTest : Expr :=
  .binary .strictEq
    (.typeOf (.index (.name globalName 1) (.name parameterName 1) false 1))
    (.literal (.string functionWord))

/-- The expression that lists the names of the properties of the global object. -/
def namesTree : Expr :=
  .call (.member (.name objectName 1) ownNamesName false 1) [.item (.name globalName 1)] false 1

/-- The expression of the listing, with the function that the names are filtered by. -/
def listingTree (f : Function) : Expr :=
  .call (.member (.name jsonName 1) stringifyName false 1)
    [.item (.call (.member namesTree filterName false 1) [.item (.function f)] false 1)] false 1

/-- Whether an expression tells if the global object holds a function under the parameter. -/
def isTypeTest : Expr → Bool
  | .binary .strictEq (.typeOf (.index (.name a 1) (.name b 1) false 1)) (.literal (.string u)) =>
    a == globalName && b == parameterName && u == functionWord
  | _ => false

theorem eq_of_isTypeTest (h : isTypeTest e = true) : e = typeTest := by
  unfold isTypeTest at h
  split at h
  · simp only [Bool.and_eq_true, beq_iff_eq] at h
    obtain ⟨⟨rfl, rfl⟩, rfl⟩ := h
    rfl
  · cases h

/-- Whether a script lists the functions of the global object. -/
def isListing : Except SyntaxFault Program → Bool
  | .ok ⟨[], [.expression (.call (.member (.name j 1) t false 1)
      [.item (.call (.member (.call (.member (.name o 1) p false 1) [.item (.name a 1)] false 1)
        x false 1) [.item (.function f)] false 1)] false 1)], false, false⟩ =>
    j == jsonName && t == stringifyName && o == objectName && p == ownNamesName && a == globalName &&
      x == filterName && (match computation? f with
        | some (b, e) => b == parameterName && isTypeTest e
        | none => false)
  | _ => false

theorem listing_of_isListing {r : Except SyntaxFault Program} (h : isListing r = true) :
    ∃ f, r = .ok (expressionProgram (listingTree f)) ∧ Computes f parameterName typeTest := by
  unfold isListing at h
  split at h
  · rename_i f
    simp only [Bool.and_eq_true, beq_iff_eq] at h
    obtain ⟨⟨⟨⟨⟨⟨rfl, rfl⟩, rfl⟩, rfl⟩, rfl⟩, rfl⟩, hcode⟩ := h
    split at hcode
    · rename_i b e hcomputes
      obtain ⟨hb, he⟩ := (Bool.and_eq_true _ _).mp hcode
      obtain rfl : b = parameterName := beq_iff_eq.mp hb
      obtain rfl := eq_of_isTypeTest he
      exact ⟨f, rfl, computes_of hcomputes⟩
    · cases hcode
  · cases h

/-- The text of the listing is that of the expression. -/
theorem parse_globalFunctionsSource :
    ∃ f, parseProgram globalFunctionsSource false = .ok (expressionProgram (listingTree f)) ∧
      Computes f parameterName typeTest := by
  have hread : isListing (parseProgram globalFunctionsSource false) = true := by decide +kernel
  exact listing_of_isListing hread

/-! ## What the global object holds -/

/-- Whether the global object holds a function under a name. -/
def holdsFunction (m : Machine) (n : Name) : Bool :=
  match (objectAt m globalRef).own? (.name n) with
  | some ⟨.data v _, _, _⟩ => kindOf m v == "function"
  | _ => false

/-- The names under which the global object holds functions. -/
def functionsHeld (m : Machine) : List Name := (ownNames m).filter (holdsFunction m)

/-- The function of the engine that is found under a name of an object that itself is a constant. -/
def HasMethod (m : Machine) (base method : Name) (f : Native) : Prop :=
  ∃ r q, HasConstant m base (.object r) ∧ Finds m (.name method) r (some (.object q)) ∧
    (objectAt m q).kind = .native f

/-- The global object holds nothing but values, and not too many. -/
structure HoldsValues (m : Machine) : Prop where
  stored : ∀ n ∈ ownNames m, ∃ v w e c,
    (objectAt m globalRef).own? (.name n) = some ⟨.data v w, e, c⟩ ∧ IsHere m v
  few : (ownNames m).length < 2 ^ 32 - 1

/-- What the listing uses has its own meaning. -/
structure CanList (m : Machine) : Prop where
  json : HasMethod m jsonName stringifyName (.jsonFunction .stringify)
  object : HasMethod m objectName ownNamesName (.objectFunction .getOwnPropertyNames)
  global : HasConstant m globalName (.object globalRef)
  filter : ∃ q, Finds m (.name filterName) Intrinsic.arrayPrototype.ref (some (.object q)) ∧
    (objectAt m q).kind = .native (.arrayMethod .filter)
  makes : MakesLists m
  writes : WritesPlainly m

/-! ## States that grow -/

theorem Grows.after {fr : Frame} (h : Grows n (within fr s) s') : Grows n s (Evaluation.after s') where
  host := h.host
  depth := by
    have hdepth : s'.1.depth = s.1.depth + 1 := h.depth
    change s'.1.depth - 1 = s.1.depth
    omega
  size := h.size
  old := h.old
  scopes := h.scopes
  calls := h.calls.after

theorem Grows.leftScript (h : Grows n (inScript s) s') : Grows n s (leftScript s s') := by
  have hafter : Grows n (within scriptFrame s) ({ s'.1 with completion := s.1.completion }, s'.2) :=
    ⟨h.host, h.depth, h.size, h.old, h.scopes, h.calls⟩
  exact Grows.after hafter

theorem Grows.hasNoLines (h : Grows n s s') (hlines : HasNoLines s) : HasNoLines s' := by
  unfold HasNoLines
  rw [h.calls.lineless hlines]
  exact hlines

theorem hasObjects_within (fr : Frame) (s : Machine × σ) : HasObjects s.1 (within fr s).1 :=
  fun _ h => ⟨h, rfl⟩

theorem grows_opened (sc : Scope) (s : Machine × σ) : Grows n s (opened sc s) where
  host := rfl
  depth := rfl
  size := Nat.le_refl _
  old _ _ := rfl
  scopes i _ hi := by
    have hsize := (Array.getElem?_eq_some_iff.mp hi).1
    exact (Array.getElem?_push_lt hsize).trans ((Array.getElem?_eq_getElem hsize).symm.trans hi)
  calls := .refl _

/-! ## The test of a name -/

theorem function_word : ∀ k ∈ kindNames,
    Value.strictEquals (.ofString k) (.string functionWord) = (k == "function") := by decide

/-- The test of a name tells whether the global object holds a function under it. -/
theorem evaluate_typeTest {n : Name} {writable enumerable configurable : Bool}
    (hcode : Computes c.code parameterName typeTest) (hscope : c.scope = 0)
    (hglobal : HasConstant s.1 globalName (.object globalRef))
    (hstored : (objectAt s.1 globalRef).own? (.name n) =
      some ⟨.data v writable, enumerable, configurable⟩) :
    (Engine.interp H (d + 4)).evaluate (callSite s) typeTest
        (inCall r c parameterName (.string n) s) =
      .ok (.bool (kindOf s.1 v == "function")) (inCall r c parameterName (.string n) s) := by
  have hbase : (Engine.interp H (d + 1)).evaluate (callSite s) (.name globalName 1)
      (inCall r c parameterName (.string n) s) =
        .ok (.object globalRef) (inCall r c parameterName (.string n) s) :=
    evaluate_constant hcode hscope (by decide) hglobal r
  have hkey : (Engine.interp H (d + 1)).evaluate (callSite s) (.name parameterName 1)
      (inCall r c parameterName (.string n) s) =
        .ok (.string n) (inCall r c parameterName (.string n) s) :=
    evaluate_parameter hcode r (.string n) s
  have hmember : getProperty (Engine.interp H (d + 1)) globalRef (.name n)
      (inCall r c parameterName (.string n) s) =
        .ok v (inCall r c parameterName (.string n) s) :=
    getProperty_own hglobal.direct hstored
  have hreference : Expression.reference (Engine.interp H (d + 1)) (callSite s)
      (.index (.name globalName 1) (.name parameterName 1) false 1)
      (inCall r c parameterName (.string n) s) =
        .ok (.object globalRef, v) (inCall r c parameterName (.string n) s) := by
    unfold Expression.reference
    rw [bind_ok hbase, bind_ok (throughOptional_run _ _), bind_ok hkey,
      bind_ok (reachLine_run (hasNoLines_inCall hcode r (.string n) s) 1)]
    exact (bind_ok hmember).trans rfl
  have htype : (Engine.interp H (d + 3)).evaluate (callSite s)
      (.typeOf (.index (.name globalName 1) (.name parameterName 1) false 1))
      (inCall r c parameterName (.string n) s) =
        .ok (.ofString (kindOf s.1 v)) (inCall r c parameterName (.string n) s) := by
    have hvalue : (Engine.interp H (d + 2)).evaluate (callSite s)
        (.index (.name globalName 1) (.name parameterName 1) false 1)
        (inCall r c parameterName (.string n) s) =
          .ok v (inCall r c parameterName (.string n) s) := bind_ok hreference
    exact (bind_ok hvalue).trans (bind_ok (typeName_run v _))
  rw [← function_word _ (kindOf_mem s.1 v)]
  exact (bind_ok htype).trans rfl

/-- The function that the names are filtered by answers whether the global object holds a function. -/
theorem answers_name {n : Name} {writable enumerable configurable : Bool}
    (hg : (objectAt s.1 g).kind = .closure c) (hcode : Computes c.code parameterName typeTest)
    (hscope : c.scope = 0) (hglobal : HasConstant s.1 globalName (.object globalRef))
    (hroom : s.1.depth ≤ Engine.callLimit)
    (hstored : (objectAt s.1 globalRef).own? (.name n) =
      some ⟨.data v writable, enumerable, configurable⟩) (hhere : IsHere s.1 v) :
    Answers (Engine.interp H (d + 6)) (.object g) s (.string n) (kindOf s.1 v == "function") := by
  intro s₁ i list hgrows
  have hobjects := Grows.objects hgrows
  have hg₁ : (objectAt s₁.1 g).kind = .closure c := by
    rw [hgrows.old g (index_lt_of_closure hg), hg]
  have hstored₁ : (objectAt s₁.1 globalRef).own? (.name n) =
      some ⟨.data v writable, enumerable, configurable⟩ := by
    rw [hgrows.old globalRef (index_lt (ne_default_of_own hstored)), hstored]
  have hbody := evaluate_typeTest (H := H) (d := d) (r := g) hcode hscope
    (RenderedValues.HasConstant.grows hglobal hgrows) hstored₁
  rw [kindOf_of_objects hobjects hhere] at hbody
  refine ⟨_, _, call_run hg₁ hcode (by rw [hgrows.depth]; exact hroom) hbody, rfl, ?_⟩
  exact Grows.after (grows_opened _ _)

/-! ## The names -/

/-- A call of a method with one argument, where there are no lines to tell apart. -/
theorem call_member {i j : Nat} (hbase : I.evaluate site e s = .ok (.object r) s₁)
    (hmethod : getProperty I r (.name k) s₁ = .ok v s₁) (harg : I.evaluate site e' s₁ = .ok w s₂)
    (hlines : HasNoLines s₁) (hlines' : HasNoLines s₂) :
    Expression.call I site (.member e k false i) [.item e'] false j s =
      I.call v (.object r) #[w] s₂ := by
  have hreference : Expression.reference I site (.member e k false i) s = .ok (.object r, v) s₁ := by
    unfold Expression.reference
    rw [bind_ok hbase, bind_ok (throughOptional_run _ _), bind_ok (reachLine_run hlines i)]
    exact (bind_ok hmethod).trans rfl
  unfold Expression.call
  rw [bind_ok hreference]
  dsimp only
  rw [bind_ok (throughOptional_run _ _), bind_ok (elements_one harg),
    bind_ok (reachLine_run hlines' j)]
  rfl

theorem evaluate_outermost (hlines : HasNoLines s) (h : HasConstant s.1 k v) :
    (Engine.interp H (d + 1)).evaluate scriptSite (.name k 1) s = .ok v s := by
  change (reachLine 1 >>= fun _ => Variable.read (Engine.interp H d) 0 k) s = _
  rw [bind_ok (reachLine_run hlines 1)]
  exact h.read_outermost

theorem keysOf_run (hdirect : IsDirect (objectAt s.1 r)) :
    keysOf I r s = .ok (objectAt s.1 r).ownKeys s := by
  unfold keysOf
  rw [bind_ok (object_run r s)]
  cases hkind : (objectAt s.1 r).kind with
  | proxy target handler callable => exact absurd hkind (hdirect target handler callable)
  | _ => rfl

theorem names_of_keys (ks : List PropertyKey) :
    (ks.filter fun k => match k with
      | .name _ => true
      | .symbol _ => false).map keyAsValue =
    (ks.filterMap fun k => match k with
      | .name n => some n
      | .symbol _ => none).map .string := by
  induction ks with
  | nil => rfl
  | cons k ks ih =>
      cases k with
      | name n =>
          rw [List.filter_cons_of_pos rfl, List.map_cons, ih]
          rfl
      | symbol i =>
          rw [List.filter_cons_of_neg (by simp), ih]
          rfl

/-- The list of the names of the properties of the global object. -/
def namesList (m : Machine) : Array Value := ((ownNames m).map .string).toArray

/-- The names are listed in a new list. -/
theorem evaluate_names (hcan : CanList s.1) (hlines : HasNoLines s)
    (hroom : s.1.depth ≤ Engine.callLimit) :
    (Engine.interp H (d + 3)).evaluate scriptSite namesTree s =
      .ok (.object ⟨s.1.objects.size⟩) (withObjects [listObject (namesList s.1)] s) := by
  obtain ⟨r, q, hobject, hfinds, hkind⟩ := hcan.object
  have hlisted (s₁ : Machine × σ) (hsame : s₁.1.objects = s.1.objects) :
      objectFunction (Engine.interp H (d + 1)) .getOwnPropertyNames #[.object globalRef] s₁ =
        .ok (.object ⟨s₁.1.objects.size⟩) (withObjects [listObject (namesList s.1)] s₁) := by
    have hglobal : objectAt s₁.1 globalRef = objectAt s.1 globalRef := by
      unfold objectAt
      rw [hsame]
    have hkeys : keysOf (Engine.interp H (d + 1)) globalRef s₁ =
        .ok (objectAt s.1 globalRef).ownKeys s₁ := by
      rw [← hglobal]
      exact keysOf_run (by rw [hglobal]; exact hcan.global.direct)
    unfold objectFunction
    refine (bind_ok (show toObject (.object globalRef) s₁ = .ok globalRef s₁ from rfl)).trans ?_
    refine (bind_ok hkeys).trans ?_
    exact (bind_ok ((congrArg (fun vs : List Value => newArray vs.toArray s₁)
      (names_of_keys (objectAt s.1 globalRef).ownKeys)).trans
        (allocate_run (listObject (namesList s.1)) s₁))).trans rfl
  refine (call_member (evaluate_outermost hlines hobject) hfinds.getProperty_some
    (evaluate_outermost hlines hcan.global) hlines hlines).trans ?_
  have hnative : Engine.runNative (Engine.interp H (d + 1))
      (.objectFunction .getOwnPropertyNames) q (.object r) #[.object globalRef]
      (within (Engine.nativeFrame q) s) = .ok (.object ⟨s.1.objects.size⟩)
        (withObjects [listObject (namesList s.1)] (within (Engine.nativeFrame q) s)) :=
    hlisted (within (Engine.nativeFrame q) s) rfl
  rw [call_native hkind hroom, withFrame_run, hnative]
  rfl

/-! ## The functions -/

/-- The names of functions, as values. -/
def functionsList (m : Machine) : Array Value := ((functionsHeld m).map .string).toArray

/-- Whether a value is a name under which the global object holds a function. -/
def isFunctionName (m : Machine) : Value → Bool
  | .string n => holdsFunction m n
  | _ => false

theorem filter_names (m : Machine) : (namesList m).filter (isFunctionName m) = functionsList m := by
  unfold namesList functionsList functionsHeld
  rw [List.filter_toArray, List.filter_map]
  rfl

theorem size_namesList (m : Machine) : (namesList m).size = (ownNames m).length := by simp [namesList]

theorem answers_names (hvalues : HoldsValues s.1) (hobjects : HasObjects s.1 s₁.1)
    (hg : (objectAt s₁.1 g).kind = .closure c) (hcode : Computes c.code parameterName typeTest)
    (hscope : c.scope = 0) (hglobal : HasConstant s₁.1 globalName (.object globalRef))
    (hroom : s₁.1.depth ≤ Engine.callLimit) :
    ∀ v ∈ namesList s.1,
      Answers (Engine.interp H (d + 6)) (.object g) s₁ v (isFunctionName s.1 v) := by
  intro v hv
  obtain ⟨n, hn, rfl⟩ := List.mem_map.mp (List.mem_toArray.mp hv)
  obtain ⟨v, w, e, b, hown, hhere⟩ := hvalues.stored n hn
  have hstored : (objectAt s₁.1 globalRef).own? (.name n) = some ⟨.data v w, e, b⟩ := by
    rw [(hobjects globalRef (index_lt (ne_default_of_own hown))).2, hown]
  have hlater : IsHere s₁.1 v := hhere.of_objects hobjects
  have hanswer := answers_name (H := H) (d := d) hg hcode hscope hglobal hroom hstored hlater
  rw [kindOf_of_objects hobjects hhere] at hanswer
  have hheld : isFunctionName s.1 (.string n) = (kindOf s.1 v == "function") := by
    change holdsFunction s.1 n = _
    unfold holdsFunction
    rw [hown]
  rw [hheld]
  exact hanswer

/-- The names of functions are listed in a new list. -/
theorem evaluate_functions (hf : Computes f parameterName typeTest) (hcan : CanList s.1)
    (hvalues : HoldsValues s.1) (hlines : HasNoLines s) (hroom : s.1.depth + 1 ≤ Engine.callLimit) :
    ∃ out s', (Engine.interp H (d + 9)).evaluate scriptSite
        (.call (.member namesTree filterName false 1) [.item (.function f)] false 1) s =
          .ok (.object out) s' ∧
      Grows s.1.objects.size s s' ∧ objectAt s'.1 out = listObject (functionsList s.1) := by
  obtain ⟨q, hfinds, hkind⟩ := hcan.filter
  let s₁ := withObjects [listObject (namesList s.1)] s
  have hgrows₁ : Grows s.1.objects.size s s₁ := grows_withObjects _ s
  have hlist : objectAt s₁.1 ⟨s.1.objects.size⟩ = listObject (namesList s.1) := objectAt_new _ _ _
  obtain ⟨s₂, hmake, hnewer, hclosure⟩ := make_run scriptSite hf.bindsName hf.isGenerator s₁
  have hgrows₂ : Grows s.1.objects.size s s₂ := hgrows₁.trans (hnewer.grows.mono hgrows₁.size)
  have hfilter : Finds s₁.1 (.name filterName) ⟨s.1.objects.size⟩ (some (.object q)) := by
    refine .inherited (isOrdinary_of_list hlist) ?_ (by rw [hlist]; rfl)
      (hfinds.of_objects (Grows.objects hgrows₁))
    rw [hlist]
    exact own_listObject _ (by decide +kernel) (by decide)
  have hcall := call_member (I := Engine.interp H (d + 8)) (i := 1) (j := 1)
    (evaluate_names (H := H) (d := d + 5) hcan hlines (Nat.le_of_succ_le hroom))
    hfilter.getProperty_some
    (show (Engine.interp H (d + 8)).evaluate scriptSite (.function f) s₁ =
      .ok (.object ⟨s₁.1.objects.size⟩) s₂ from (bind_ok hmake).trans rfl)
    (Grows.hasNoLines hgrows₁ hlines) (Grows.hasNoLines hgrows₂ hlines)
  -- The method runs with one more call under way.
  let inside := within (Engine.nativeFrame q) s₂
  have hinside : HasObjects s.1 inside.1 := (Grows.objects hgrows₂).trans (hasObjects_within _ s₂)
  have hkind₂ : (objectAt s₂.1 q).kind = .native (.arrayMethod .filter) := by
    rw [hgrows₂.old q (index_lt_of_native hkind), hkind]
  have hlist₂ : objectAt inside.1 ⟨s.1.objects.size⟩ = listObject (namesList s.1) :=
    (hnewer.old ⟨s.1.objects.size⟩ (inRange_of_list hlist)).trans hlist
  have hdepth : inside.1.depth ≤ Engine.callLimit := by
    change s₂.1.depth + 1 ≤ _
    rw [hgrows₂.depth]
    exact hroom
  have hglobal : HasConstant inside.1 globalName (.object globalRef) := by
    obtain ⟨hscopes, hdirect, hproperty⟩ := RenderedValues.HasConstant.grows hcan.global hgrows₂
    exact ⟨hscopes, hdirect, hproperty⟩
  have hcallable : (objectAt inside.1 ⟨s₁.1.objects.size⟩).isCallable = true := by
    unfold Object.isCallable
    rw [show (objectAt inside.1 ⟨s₁.1.objects.size⟩).kind = .closure ⟨f, 0, none, []⟩ from hclosure]
  obtain ⟨s₃, hrun, hgrows₃, hout⟩ := filter_run (H := H) (n := d + 6)
    (p := isFunctionName s.1) hlist₂ (hcan.makes.of_objects hinside) hdepth hcallable
    (by rw [size_namesList]; exact hvalues.few)
    (answers_names (H := H) (d := d + 1) hvalues hinside hclosure hf rfl hglobal hdepth)
  have hnative : Engine.runNative (Engine.interp H (d + 7)) (.arrayMethod .filter) q
      (.object ⟨s.1.objects.size⟩) #[.object ⟨s₁.1.objects.size⟩] inside =
        .ok (.object ⟨inside.1.objects.size⟩) s₃ := hrun
  refine ⟨⟨inside.1.objects.size⟩, Evaluation.after s₃, ?_, ?_, hout.trans ?_⟩
  · refine hcall.trans ?_
    rw [call_native hkind₂ (Nat.le_of_succ_le hdepth), withFrame_run, hnative]
  · exact hgrows₂.trans ((Grows.after hgrows₃).mono hgrows₂.size)
  · rw [filter_names]

/-! ## The listing -/

/-- The names of the functions, as the host reads them. -/
def listedNames (m : Machine) : List HostValue := (functionsHeld m).map fun n => .str n.toText

/-- The list of the functions, as data of the engine. -/
theorem holds_functionsList {out : Ref} (hout : objectAt m out = listObject (functionsList m'))
    (hfew : (functionsHeld m').length < 2 ^ 32 - 1) :
    Holds m (.object out) (.list (listedNames m')) := by
  have hitems : Holds m (.object out) (.list (((functionsHeld m').map fun n =>
      ((.string n : Value), HostValue.str n.toText)).map (·.2))) := by
    refine .list ?_ (by simpa using hfew) fun e he => ?_
    · rw [hout, List.map_map]
      rfl
    · obtain ⟨n, -, rfl⟩ := List.mem_map.mp he
      exact .string n
  rw [List.map_map] at hitems
  exact hitems

theorem length_functionsHeld (hvalues : HoldsValues m) : (functionsHeld m).length < 2 ^ 32 - 1 :=
  Nat.lt_of_le_of_lt (List.length_filter_le _ _) hvalues.few

/-- The listing writes the names of the functions. -/
theorem evaluate_listing (hf : Computes f parameterName typeTest) (hcan : CanList s.1)
    (hvalues : HoldsValues s.1) (hlines : HasNoLines s) (hroom : s.1.depth + 1 ≤ Engine.callLimit) :
    ∃ s', (Engine.interp H (d + 10)).evaluate scriptSite (listingTree f) s =
        .ok (.string (Utf16.ofText (stringified (.list (listedNames s.1))))) s' ∧
      Grows s.1.objects.size s s' := by
  obtain ⟨r, q, hjson, hfinds, hkind⟩ := hcan.json
  obtain ⟨out, s₁, hfunctions, hgrows, hout⟩ :=
    evaluate_functions (H := H) (d := d) hf hcan hvalues hlines hroom
  have hcall := call_member (I := Engine.interp H (d + 9)) (i := 1) (j := 1)
    (evaluate_outermost (H := H) (d := d + 8) hlines hjson) hfinds.getProperty_some hfunctions
    hlines (Grows.hasNoLines hgrows hlines)
  have hholds := holds_functionsList hout (length_functionsHeld hvalues)
  have hlevels : levels (.list (listedNames s.1)) ≤ 100000 := by
    refine Nat.le_trans (Nat.succ_le_succ (itemLevels_le (n := 2) fun v hv => ?_)) (by decide)
    obtain ⟨n, -, rfl⟩ := List.mem_map.mp hv
    exact Nat.le_refl _
  let inside := within (Engine.nativeFrame q) s₁
  have hkind₁ : (objectAt s₁.1 q).kind = .native (.jsonFunction .stringify) := by
    rw [hgrows.old q (index_lt_of_native hkind), hkind]
  have hinside : HasObjects s₁.1 inside.1 := hasObjects_within _ s₁
  have hrun := stringify_run (I := Engine.interp H (d + 8))
    (hcan.writes.of_objects ((Grows.objects hgrows).trans hinside)) (hholds.of_objects hinside) hlevels
  have hnative : Engine.runNative (Engine.interp H (d + 8)) (.jsonFunction .stringify) q (.object r)
      #[.object out] inside = .ok (.string (Utf16.ofText (stringified (.list (listedNames s.1)))))
        (withObjects [holder (.object out)] inside) := hrun
  refine ⟨Evaluation.after (withObjects [holder (.object out)] inside), hcall.trans ?_,
    hgrows.trans ((Grows.after (grows_withObjects _ inside)).mono hgrows.size)⟩
  rw [call_native hkind₁ (by rw [hgrows.depth]; exact Nat.le_of_succ_le hroom), withFrame_run, hnative]

/-! ## What stays where objects and scopes are added -/

section Later

variable (hm : HasObjects m m')
  (hscopes : ∀ (i : Nat) (c : Scope), m.scopes[i]? = some c → m'.scopes[i]? = some c)

include hm hscopes

theorem HasConstant.later (h : HasConstant m k v) : HasConstant m' k v := by
  obtain ⟨w, e, d, hown⟩ := h.property
  obtain ⟨c, hc, houtermost⟩ := h.outermost
  have hglobal := (hm globalRef (index_lt (ne_default_of_own hown))).2
  exact ⟨⟨c, hscopes 0 c hc, houtermost⟩, by rw [hglobal]; exact h.direct,
    ⟨w, e, d, by rw [hglobal]; exact hown⟩⟩

theorem HasMethod.later {base method : Name} {f : Native} (h : HasMethod m base method f) :
    HasMethod m' base method f := by
  obtain ⟨r, q, hbase, hfinds, hkind⟩ := h
  exact ⟨r, q, HasConstant.later hm hscopes hbase, hfinds.of_objects hm,
    by rw [(hm q (index_lt_of_native hkind)).2, hkind]⟩

theorem CanList.later (h : CanList m) : CanList m' := by
  obtain ⟨q, hfinds, hkind⟩ := h.filter
  exact ⟨h.json.later hm hscopes, h.object.later hm hscopes, HasConstant.later hm hscopes h.global,
    ⟨q, hfinds.of_objects hm, by rw [(hm q (index_lt_of_native hkind)).2, hkind]⟩,
    h.makes.of_objects hm, h.writes.of_objects hm⟩

end Later

theorem CanList.global_here (h : CanList m) : globalRef.index < m.objects.size := by
  obtain ⟨w, e, d, hown⟩ := h.global.property
  exact index_lt (ne_default_of_own hown)

theorem HoldsValues.of_objects (hm : HasObjects m m') (hglobal : globalRef.index < m.objects.size)
    (h : HoldsValues m) : HoldsValues m' := by
  have hsame := (hm globalRef hglobal).2
  have hnames : ownNames m' = ownNames m := by
    unfold ownNames
    rw [hsame]
  refine ⟨fun n hn => ?_, by rw [hnames]; exact h.few⟩
  rw [hnames] at hn
  obtain ⟨v, w, e, c, hown, hhere⟩ := h.stored n hn
  exact ⟨v, w, e, c, by rw [hsame, hown], hhere.of_objects hm⟩

/-! ## The listing as a script -/

section Instance

variable {s : Machine × Host}

theorem isTextual_listedNames (m : Machine) : IsTextual (.list (listedNames m)) := by
  refine .list fun v hv => ?_
  obtain ⟨n, -, rfl⟩ := List.mem_map.mp hv
  exact .str (isApart_toText n)

theorem received_listedNames (m : Machine) : received (.list (listedNames m)) = .list (listedNames m) := by
  have hitems : ∀ ns : List Name, receivedItems (ns.map fun n => HostValue.str n.toText) =
      ns.map fun n => .str n.toText := by
    intro ns
    induction ns with
    | nil => rfl
    | cons n ns ih =>
        rw [List.map_cons, receivedItems, ih, received, paired_of_isApart (isApart_toText n)]
  exact congrArg HostValue.list (hitems _)

/-- Where the listing means what it should and the global object holds nothing but values, the names of
its functions come out, and what was there stays as it was. -/
theorem globalFunctions_run (hcan : CanList s.1) (hvalues : HoldsValues s.1)
    (hroom : s.1.depth + 2 ≤ Engine.callLimit) :
    ∃ s', interpreter.globalFunctions s = .ok (listedNames s.1) s' ∧ Grows s.1.objects.size s s' := by
  obtain ⟨f, hparse, hf⟩ := parse_globalFunctionsSource
  obtain ⟨d, hd⟩ : ∃ d, below = d + 10 := ⟨below - 10, by decide⟩
  have hobjects := (extends_inScript s).objects
  obtain ⟨s₁, hevaluate, hgrows⟩ := evaluate_listing (H := hostCall) (d := d) hf
    (hcan.later hobjects fun _ _ h => h) (hvalues.of_objects hobjects hcan.global_here)
    (hasNoLines_inScript s) hroom
  have htextual := isTextual_listedNames s.1
  have hpassed : passed (.string (Utf16.ofText (stringified (.list (listedNames s.1))))) =
      .ok (.plain (.str (stringified (.list (listedNames s.1))))) := by
    change (hostText _ >>= fun t => Except.ok (Passed.plain (.str t))) = _
    rw [hostText_of_intact (isIntact_stringified htextual)]
    rfl
  have hrun : interpreter.run globalFunctionsSource s =
      .ok (.plain (.str (stringified (.list (listedNames s.1))))) (ScriptRuns.leftScript s s₁) :=
    run_evaluated (forall_of_all (by decide)) hparse (by rw [hd]; exact hevaluate) hpassed
  refine ⟨ScriptRuns.leftScript s s₁, (host_bind_ok hrun).trans ?_, Grows.leftScript hgrows⟩
  dsimp only [HostValue.text?]
  rw [read_stringified htextual, received_listedNames]
  rfl

end Instance

end ScriptHost.Proofs.GlobalListings
