import ScriptHost.Proofs.DeclaredNames
import ScriptHost.Proofs.FreshEngines
import ScriptHost.Proofs.QuotedTexts

/-!
# Functions that are listed and located

A name is listed for a function that the global object holds under it, or for one that is found under a
scanned name.  Locating a name goes by what is found under it, so a scanned name is always located on the
function that it is listed for, and a key of the global object unless something masks it, such as a lexical
variable.
-/

namespace ScriptHost.Proofs.LocatedFunctions

open Script Script.Eval Script.Read ScriptEngine Interpreter
open LexicalScan
open ScriptHost.Proofs.Bindings
open ScriptHost.Proofs.DataValues (index_lt ne_default_of_own)
open ScriptHost.Proofs.DeclaredNames
open ScriptHost.Proofs.ErrorTexts
open ScriptHost.Proofs.Evaluation
open ScriptHost.Proofs.ExpressionScripts
open ScriptHost.Proofs.FilteredLists
open ScriptHost.Proofs.FunctionListings
open ScriptHost.Proofs.FreshEngines (canList canList_of)
open ScriptHost.Proofs.GlobalListings
open ScriptHost.Proofs.GlobalValues
open ScriptHost.Proofs.IntactTexts
open ScriptHost.Proofs.NameResolution
open ScriptHost.Proofs.NewObjects
open ScriptHost.Proofs.PropertyChains
open ScriptHost.Proofs.RenderedValues (grows_withObjects)
open ScriptHost.Proofs.ScannedStrings (ofText_units)
open ScriptHost.Proofs.Transition (host_bind_ok)

variable {s s' : Machine × Host} {m : Machine} {t : Text} {n : Name} {r : Ref} {x : Option Value}

/-! ## Names of the engine -/

theorem encode_joinPair {u v : UInt16} (hu : Utf16.isHigh u = true) (hv : Utf16.isLow v = true) :
    Utf16.encodePoint (Utf16.joinPair u v) = [u, v] := by
  simp only [Utf16.isHigh, Utf16.isLow, Bool.and_eq_true, decide_eq_true_eq] at hu hv
  have hval : (Utf16.joinPair u v).val =
      0x10000 + (u.toNat - 0xD800) * 0x400 + (v.toNat - 0xDC00) :=
    CodePoint.val_ofNat (by omega)
  unfold Utf16.encodePoint
  rw [hval, if_neg (by omega)]
  dsimp only
  have hhigh : 0xD800 + (0x10000 + (u.toNat - 0xD800) * 0x400 + (v.toNat - 0xDC00) - 0x10000) / 0x400 =
      u.toNat := by omega
  have hlow : 0xDC00 + (0x10000 + (u.toNat - 0xD800) * 0x400 + (v.toNat - 0xDC00) - 0x10000) % 0x400 =
      v.toNat := by omega
  rw [hhigh, hlow]
  simp [Nat.toUInt16]

theorem encode_unit (u : UInt16) : Utf16.encodePoint (CodePoint.ofNat u.toNat) = [u] := by
  have hlt := u.toNat_lt
  unfold Utf16.encodePoint
  rw [QuotedTexts.val_unit, if_pos (by omega)]
  simp [Nat.toUInt16]

theorem encode_decode (us : List UInt16) : Utf16.encode (Utf16.decode us) = us := by
  induction us using Utf16.decode.induct with
  | case1 => rfl
  | case2 u => simp [Utf16.decode, Utf16.encode, encode_unit]
  | case3 u v rest hpair ih =>
      obtain ⟨hu, hv⟩ := (Bool.and_eq_true _ _).mp hpair
      rw [Utf16.decode, if_pos hpair, Utf16.encode, List.flatMap_cons, encode_joinPair hu hv]
      exact congrArg ([u, v] ++ ·) ih
  | case4 u v rest hpair ih =>
      rw [Utf16.decode, if_neg hpair, Utf16.encode, List.flatMap_cons, encode_unit]
      exact congrArg ([u] ++ ·) ih

/-- A name of the engine is the one of its text. -/
theorem ofText_toText (n : Name) : Utf16.ofText n.toText = n := by
  have hunits : (Utf16.ofText n.toText).units = n.units := by
    rw [ofText_units, Utf16.toText, encode_decode]
  exact Utf16.mk.injEq _ _ ▸ hunits

/-! ## What is listed -/

/-- A key of the global object is listed for the function that the global object holds under it. -/
structure IsHeldFor (s : Machine × Host) (n : Name) (r : Ref) : Prop where
  own : n ∈ ownNames s.1
  holds : ∃ w e c, (objectAt s.1 globalRef).own? (.name n) = some ⟨.data (.object r) w, e, c⟩
  function : kindOf s.1 (.object r) = "function"
  visible : n.toText ∉ hiddenNames s.2
  unprefixed : Text.startsWith n.toText Registry.hiddenPrefix = false

/-- A function is found under a name that is not that of a module or of anything that was there before. -/
structure IsFunction (s : Machine × Host) (t : Text) (r : Ref) : Prop where
  plain : IsPlain s.1 t (some (.object r))
  function : kindOf s.1 (.object r) = "function"
  visible : t ∉ hiddenNames s.2

/-- A scanned name is listed for the function that is found under it. -/
structure IsBoundFor (s : Machine × Host) (t : Text) (r : Ref) : Prop extends IsFunction s t r where
  scanned : t ∈ LexicalScan.names (s.2.script.text?.getD [])

/-- A name is listed for a function. -/
inductive ListedFor (s : Machine × Host) : Text → Ref → Prop
  | held {n : Name} {r : Ref} (h : IsHeldFor s n r) : ListedFor s n.toText r
  | bound {t : Text} {r : Ref} (h : IsBoundFor s t r) : ListedFor s t r

theorem ListedFor.function (h : ListedFor s t r) : kindOf s.1 (.object r) = "function" := by
  cases h with
  | held h => exact h.function
  | bound h => exact h.function

theorem some_object_of_function (h : kindOf m (x.getD .undefined) = "function") :
    ∃ r, x = some (.object r) := by
  obtain ⟨r, hr⟩ := object_of_function h
  cases x with
  | none => cases hr
  | some v => exact ⟨r, congrArg some hr⟩

/-- What is listed is listed for a function. -/
theorem isListed_iff : IsListed s t ↔ ∃ r, ListedFor s t r := by
  constructor
  · intro h
    cases h with
    | @held n hheld hvisible hprefix =>
        obtain ⟨hn, hholds⟩ := List.mem_filter.mp hheld
        unfold holdsFunction at hholds
        split at hholds
        · rename_i v w e c hown
          obtain ⟨r, rfl⟩ := object_of_function (beq_iff_eq.mp hholds)
          exact ⟨r, .held ⟨hn, ⟨w, e, c, hown⟩, beq_iff_eq.mp hholds, hvisible, hprefix⟩⟩
        · cases hholds
    | scanned hscanned hvisible hnames =>
        obtain ⟨x, hplain, hfunction⟩ := hnames
        obtain ⟨r, rfl⟩ := some_object_of_function hfunction
        exact ⟨r, .bound ⟨⟨hplain, hfunction, hvisible⟩, hscanned⟩⟩
  · rintro ⟨r, h⟩
    cases h with
    | held h =>
        obtain ⟨w, e, c, hown⟩ := h.holds
        refine .held (List.mem_filter.mpr ⟨h.own, ?_⟩) h.visible h.unprefixed
        unfold holdsFunction
        rw [hown]
        exact beq_iff_eq.mpr h.function
    | bound h => exact .scanned h.scanned h.visible ⟨_, h.plain, h.function⟩

/-! ## What is located -/

/-- A name is located on a function. -/
def IsLocated (s : Machine × Host) (t : Text) (r : Ref) : Prop :=
  ∃ s', interpreter.locate (.str t) s = .ok ⟨.str t, .object r⟩ s'

/-- A name that a function is found under is located on that function. -/
theorem isLocated_of_plain (hne : t ≠ []) (h : IsPlain s.1 t (some (.object r)))
    (hfunction : kindOf s.1 (.object r) = "function") : IsLocated s t r := by
  obtain ⟨s₁, hadds, hkind⟩ := h.kind_run
  have hkept : kindOf s₁.1 (.object r) = "function" := (hadds.kindOf _).trans hfunction
  have hlater : IsPlain s₁.1 t (some (.object r)) := by
    obtain ⟨os, -, rfl⟩ := hadds
    exact h.grows (grows_withObjects os s)
  obtain ⟨s₂, -, hbinding⟩ := hlater.binding_run hkept
  have htext : typeText s.1 (.object r) = Text.ofString "function" :=
    (typeText_eq _ _ (by decide)).mpr hfunction
  refine ⟨s₂, ?_⟩
  rw [locate_kind hne hkind, Option.getD_some, htext, if_neg (by decide), if_pos rfl]
  exact host_bind_ok hbinding

/-- What a name is located under is a function. -/
theorem function_of_isLocated (hne : t ≠ []) (h : IsPlain s.1 t x) (hlocated : IsLocated s t r) :
    kindOf s.1 (x.getD .undefined) = "function" := by
  obtain ⟨s₁, -, hkind⟩ := h.kind_run
  obtain ⟨s', hlocate⟩ := hlocated
  rw [locate_kind hne hkind] at hlocate
  by_contra hother
  rw [if_neg (mt (typeText_eq _ _ (by decide)).mp hother)] at hlocate
  split at hlocate
  · cases hlocate
  · cases hlocate

/-- Where a name can be asked about, it is located on a function exactly if that is found under it. -/
theorem isLocated_iff (hne : t ≠ []) (h : IsPlain s.1 t x)
    (hfunction : x = some (.object r) → kindOf s.1 (.object r) = "function") :
    IsLocated s t r ↔ x = some (.object r) := by
  constructor
  · intro hlocated
    have hbound := function_of_isLocated hne h hlocated
    obtain ⟨q, rfl⟩ := some_object_of_function hbound
    obtain ⟨s₁, hfirst⟩ := hlocated
    obtain ⟨s₂, hsecond⟩ := isLocated_of_plain hne h hbound
    cases hfirst.symm.trans hsecond
    rfl
  · rintro rfl
    exact isLocated_of_plain hne h (hfunction rfl)

/-! ## Keys of the global object -/

/-- What keeps a key of the global object from being located on what the global object holds. -/
inductive IsMasked (m : Machine) : Text → Prop
  /-- Nothing is located under the empty name. -/
  | empty : IsMasked m []
  /-- An identifier with a line feed after it is looked up without it. -/
  | fed {w : Text} (h : ScannedNames.IsName w) : IsMasked m (w ++ [CodePoint.ofChar '\n'])
  /-- A word that is a value of its own means that. -/
  | constant {w : String} (h : w ∈ constantWords) : IsMasked m (Text.ofString w)
  /-- The statement that does nothing is run in place of a look-up. -/
  | statement : IsMasked m "debugger"
  /-- A lexical variable of the name stands before the global object. -/
  | shadowed {t : Text} (hname : isIdentifierText t = true) (h : ¬IsNotLexical m (Utf16.ofText t)) :
    IsMasked m t
  /-- A reserved word is told from a name by an error, and errors have been changed. -/
  | reserved {t : Text} (h : IsReserved t) (herrors : ¬HasOwnErrors m) : IsMasked m t

theorem HasConstant.binds {v : Value} (h : HasConstant m n v) : Binds m n (some v) := by
  obtain ⟨c, hc, hparent, hn⟩ := h.outermost
  obtain ⟨w, e, d, hown⟩ := h.property
  exact .property hc hparent hn (.own ⟨index_lt (ne_default_of_own hown), h.direct⟩ hown)

/-- Under a key that nothing masks is found what the global object holds under it. -/
theorem IsHeldFor.plain (hlist : IsListable s) (h : IsHeldFor s n r)
    (hopen : ¬IsMasked s.1 n.toText) : IsPlain s.1 n.toText (some (.object r)) := by
  obtain ⟨w, e, c, hown⟩ := h.holds
  have hglobal : NamesGlobal s.1 := HasConstant.binds hlist.list.global
  have hfinds : Finds s.1 (.name (Utf16.ofText n.toText)) globalRef (some (.object r)) := by
    rw [ofText_toText]
    exact .own ⟨index_lt (ne_default_of_own hown), hlist.list.global.direct⟩ hown
  have hhere : IsHere s.1 (.object r) := by
    obtain ⟨v, w', e', c', hstored, hhere⟩ := hlist.values.stored n h.own
    cases hown.symm.trans hstored
    exact hhere
  cases hidentifier : isIdentifierText n.toText with
  | false => exact .key hidentifier hglobal hfinds hhere
  | true =>
      have hlexical : IsNotLexical s.1 (Utf16.ofText n.toText) :=
        not_not.mp fun hnot => hopen (.shadowed hidentifier hnot)
      obtain ⟨sc, hsc, hparent, -⟩ := hlist.list.global.outermost
      refine .name (.property hsc hparent (hlexical sc hsc) hfinds)
        ⟨fun u hu heq => hopen (heq ▸ .fed hu), fun u hu heq => hopen (heq ▸ .constant hu),
          fun heq => absurd (heq ▸ .statement) hopen, fun _ => ⟨hlexical, hglobal⟩, fun hreserved => ?_⟩
        hhere
      exact not_not.mp fun herrors => hopen (.reserved hreserved herrors)

/-! ## Listing, then locating -/

/-- Listing runs through where nothing of the script has to run for it, and a name is listed exactly if
there is a function that it is listed for.  A scanned name is then located on that function.  So is a key
of the global object that nothing masks; and a name that can be asked about is located on the function
that it is listed for exactly if that is what is found under it. -/
theorem listed_functions_are_located (h : IsListable s) :
    ∃ names s', interpreter.functionNames s = .ok names s' ∧
      (∀ t, t ∈ names ↔ ∃ r, ListedFor s t r) ∧
      (∀ t r, IsBoundFor s t r → IsLocated s' t r) ∧
      (∀ n r, IsHeldFor s n r → ¬IsMasked s.1 n.toText → IsLocated s' n.toText r) ∧
      ∀ t r x, ListedFor s t r → t ≠ [] → IsPlain s.1 t x →
        (IsLocated s' t r ↔ x = some (.object r)) := by
  obtain ⟨names, s', hrun, hgrows, hmem⟩ := functionNames_run h
  have hlater {t : Text} {r : Ref} {x : Option Value} (hplain : IsPlain s.1 t x)
      (hfunction : kindOf s.1 (.object r) = "function") (hne : t ≠ []) :
      IsLocated s' t r ↔ x = some (.object r) := by
    refine isLocated_iff hne (hplain.grows hgrows) ?_
    rintro rfl
    exact (kindOf_of_objects (Grows.objects hgrows) hplain.here).trans hfunction
  refine ⟨names, s', hrun, fun t => (hmem t).trans isListed_iff, fun t r hbound => ?_,
    fun n r hheld hopen => ?_, fun t r x hlisted hne hplain => hlater hplain hlisted.function hne⟩
  · obtain ⟨_, u, _, -, hu, -⟩ := of_mem_names hbound.scanned
    exact (hlater hbound.plain hbound.function hu.scanned.nonempty).mpr rfl
  · have hne : n.toText ≠ [] := fun heq => hopen (heq ▸ .empty)
    exact (hlater (hheld.plain h hopen) hheld.function hne).mpr rfl

/-! ## Listing in a small realm -/

/-- A realm with arrays, and with what the listing uses. -/
def listingRealm : Machine :=
  let build : Realm.Build Unit := do
    Realm.makeArrays
    putProperty globalRef "globalThis" (.hidden (.object globalRef))
    let objects ← newObject
    Realm.install objects [("getOwnPropertyNames", 1, .objectFunction .getOwnPropertyNames)]
    putProperty globalRef "Object" (.hidden (.object objects))
    let json ← newObject
    Realm.install json [("stringify", 3, .jsonFunction .stringify)]
    putProperty globalRef "JSON" (.hidden (.object json))
  match build (Realm.bareMachine, ()) with
  | .ok _ (m, _) => m
  | .error _ (m, _) => m

/-- The state of an instance in the small realm, once it has run its script. -/
def listedAfter (script : Text) : Machine × Host :=
  let before := { Instance.blank Value with script := .str script, baseline := ["Array"] }
  match interpreter.run script (listingRealm, before) with
  | .ok _ s => s
  | .error _ s => s

/-- Whether a value refers to nothing but what there is. -/
def isHere (m : Machine) : Value → Bool
  | .object r => decide (r.index < m.objects.size)
  | _ => true

/-- Whether the global object holds nothing but values, and not too many. -/
def holdsValues (m : Machine) : Bool :=
  (ownNames m).all (fun n =>
    match (objectAt m globalRef).own? (.name n) with
    | some ⟨.data v _, _, _⟩ => isHere m v
    | _ => false) &&
  decide ((ownNames m).length < 2 ^ 32 - 1)

/-- Whether a name is read as a variable. -/
def isFree (t : Text) : Bool :=
  t.all isPlainPart && t.head?.any isPlainStart && !reservedWords.contains (ScannedNames.spelling t)

/-- What a variable is bound to, if that is there. -/
def asked? (m : Machine) (t : Text) : Option (Option Value) :=
  match bound? m (Utf16.ofText t) with
  | some x => if isFree t && isHere m (x.getD .undefined) then some x else none
  | none => none

/-- Whether the functions of an instance can be listed without running code of the script, where no other
names than given ones are scanned. -/
def isListable (s : Machine × Host) (names : List Text) : Bool :=
  canList s.1 && holdsValues s.1 && decide (s.1.depth + 2 ≤ Engine.callLimit) &&
    names.all fun t => (hiddenNames s.2).contains t || (asked? s.1 t).isSome

theorem isHere_of {v : Value} (h : isHere m v = true) : IsHere m v := by
  cases v with
  | object r => exact (of_decide_eq_true h : r.index < m.objects.size)
  | _ => trivial

theorem holdsValues_of (h : holdsValues m = true) : HoldsValues m := by
  obtain ⟨hall, hfew⟩ := (Bool.and_eq_true _ _).mp h
  refine ⟨fun n hn => ?_, of_decide_eq_true hfew⟩
  have hvalue := List.all_eq_true.mp hall n hn
  split at hvalue
  · rename_i v w e c hown
    exact ⟨v, w, e, c, hown, isHere_of hvalue⟩
  · cases hvalue

theorem isFree_of (h : isFree t = true) : IsFree t := by
  simp only [isFree, Bool.and_eq_true, List.all_eq_true, Option.any_eq_true, Bool.not_eq_true'] at h
  obtain ⟨⟨hparts, c, hc, hstart⟩, hreserved⟩ := h
  refine ⟨⟨fun d hd => ?_, hparts, fun hempty => ?_⟩, hreserved⟩
  · cases hc.symm.trans hd
    exact hstart
  · rw [hempty] at hc
    cases hc

/-- A variable is looked up as such, whatever is bound to it. -/
theorem isReachable_of_free (h : IsFree t) : IsReachable m t x where
  noFeed w _ heq := by
    have hfeed := h.isName.parts (CodePoint.ofChar '\n') (by rw [heq]; simp)
    cases hfeed
  noConstant := by
    have hreserved : ∀ w ∈ constantWords,
        reservedWords.contains (ScannedNames.spelling (Text.ofString w)) = true := by decide
    rintro w hw rfl
    cases (hreserved w hw).symm.trans h.unreserved
  noDebugger heq := by
    have hreserved := h.unreserved
    rw [heq] at hreserved
    cases hreserved
  keyed hnot := absurd h hnot
  errors hreserved := absurd h (not_isFree_of_isReserved hreserved)

theorem isPlain_of (h : asked? m t = some x) : IsPlain m t x := by
  unfold asked? at h
  split at h
  · rename_i y hbound
    split at h
    · rename_i hboth
      cases h
      obtain ⟨hfree, hhere⟩ := (Bool.and_eq_true _ _).mp hboth
      exact .name (binds_of_bound hbound) (isReachable_of_free (isFree_of hfree)) (isHere_of hhere)
    · cases h
  · cases h

theorem isListable_of {names : List Text} (h : isListable s names = true)
    (hnames : ∀ t ∈ LexicalScan.names (s.2.script.text?.getD []), t ∈ names) : IsListable s := by
  simp only [isListable, Bool.and_eq_true, decide_eq_true_eq, List.all_eq_true, Bool.or_eq_true,
    List.contains_iff_mem] at h
  obtain ⟨⟨⟨hlist, hvalues⟩, hroom⟩, hask⟩ := h
  refine ⟨canList_of hlist, holdsValues_of hvalues, hroom, fun t ht hvisible => ?_⟩
  obtain ⟨x, hx⟩ := Option.isSome_iff_exists.mp ((hask t (hnames t ht)).resolve_left hvisible)
  exact .bound (isPlain_of hx)

/-- The function that a key of the global object is listed for. -/
def heldFor? (s : Machine × Host) (n : Name) : Option Ref :=
  match (objectAt s.1 globalRef).own? (.name n) with
  | some ⟨.data (.object r) _, _, _⟩ =>
    if (ownNames s.1).contains n && kindOf s.1 (.object r) == "function" &&
        !(hiddenNames s.2).contains n.toText && !Text.startsWith n.toText Registry.hiddenPrefix then
      some r
    else none
  | _ => none

/-- The function that is found under a name, if the name is not that of anything else. -/
def function? (s : Machine × Host) (t : Text) : Option Ref :=
  match asked? s.1 t with
  | some (some (.object r)) =>
    if !(hiddenNames s.2).contains t && kindOf s.1 (.object r) == "function" then some r else none
  | _ => none

theorem isHeldFor_of (h : heldFor? s n = some r) : IsHeldFor s n r := by
  unfold heldFor? at h
  split at h
  · rename_i q w e c hown
    split at h
    · rename_i hall
      cases h
      simp only [Bool.and_eq_true, beq_iff_eq, Bool.not_eq_true',
        List.contains_eq_mem, decide_eq_false_iff_not, decide_eq_true_eq] at hall
      obtain ⟨⟨⟨hn, hfunction⟩, hvisible⟩, hprefix⟩ := hall
      exact ⟨hn, ⟨w, e, c, hown⟩, hfunction, hvisible, hprefix⟩
    · cases h
  · cases h

theorem isFunction_of (h : function? s t = some r) : IsFunction s t r := by
  unfold function? at h
  split at h
  · rename_i q hasked
    split at h
    · rename_i hall
      cases h
      simp only [Bool.and_eq_true, beq_iff_eq, Bool.not_eq_true', List.contains_eq_mem,
        decide_eq_false_iff_not] at hall
      exact ⟨isPlain_of hasked, hall.2, hall.1⟩
    · cases h
  · cases h

/-- A script in which a lexical variable masks a function, and in which another one holds a function under
a name of host functions. -/
def maskingScript : Text :=
  Text.ofString "let x = 1; globalThis.x = function () \x7b\x7d" ++ Text.ofString "; " ++
    Text.ofString "const __jsvm_host_a = function () \x7b\x7d"

/-- Whether the masked function and the other one are there after the script. -/
def showsMasked (s : Machine × Host) : Bool :=
  isListable s ["x", "__jsvm_host_a"] && s.2.script.text? == some maskingScript &&
    (heldFor? s (Utf16.ofText "x")).isSome && (function? s "__jsvm_host_a").isSome &&
    match asked? s.1 "x" with
    | some (some (.int _)) => true
    | _ => false

/-- A key that a lexical variable masks is listed and not located on its function; and a scanned name is
listed with the prefix that no listed key has. -/
theorem masked_key_is_listed : ∃ s names s' r q, IsListable s ∧
    interpreter.functionNames s = .ok names s' ∧
    Text.ofString "x" ∈ names ∧ IsHeldFor s (Utf16.ofText "x") r ∧ ¬IsLocated s' "x" r ∧
    Text.ofString "__jsvm_host_a" ∈ names ∧ IsLocated s' "__jsvm_host_a" q := by
  have hshows : showsMasked (listedAfter maskingScript) = true := by decide +kernel
  generalize listedAfter maskingScript = s at hshows
  simp only [showsMasked, Bool.and_eq_true, beq_iff_eq] at hshows
  obtain ⟨⟨⟨⟨hcan, hscript⟩, hheld⟩, hbound⟩, hother⟩ := hshows
  have hdeclared : declaredNames maskingScript =
      [Text.ofString "x", Text.ofString "__jsvm_host_a"] := by
    simp only [declaredNames, declared?, nameAfterWord?, isNamePart_eq]
    decide +kernel
  have hdeclares : Declares (Text.ofString "const __jsvm_host_a = function () \x7b\x7d") "__jsvm_host_a"
      " = function () \x7b\x7d" := by
    refine declared?_iff.mp ?_
    simp only [declared?, nameAfterWord?, isNamePart_eq]
    decide +kernel
  have hlistable : IsListable s := isListable_of hcan fun t ht => by
    rw [hscript] at ht
    rw [← hdeclared]
    exact mem_declaredNames (of_mem_names ht)
  obtain ⟨r, hr⟩ := Option.isSome_iff_exists.mp hheld
  obtain ⟨q, hq⟩ := Option.isSome_iff_exists.mp hbound
  have hkey : IsHeldFor s (Utf16.ofText "x") r := isHeldFor_of hr
  have hscanned : IsBoundFor s "__jsvm_host_a" q := ⟨isFunction_of hq, by
    rw [hscript]
    exact mem_names (isClearlyDeclaredIn_after_statement hdeclares)⟩
  have hback : (Utf16.ofText "x").toText = Text.ofString "x" := by decide
  obtain ⟨names, s', hrun, hlisted, hlocated, -, hexact⟩ := listed_functions_are_located hlistable
  have hheldFor : ListedFor s "x" r := hback ▸ .held hkey
  refine ⟨s, names, s', r, q, hlistable, hrun, (hlisted _).mpr ⟨r, hheldFor⟩, hkey, ?_,
    (hlisted _).mpr ⟨q, .bound hscanned⟩, hlocated _ _ hscanned⟩
  split at hother
  · rename_i i hasked
    rw [hexact _ _ _ hheldFor (by decide) (isPlain_of hasked)]
    exact fun heq => nomatch heq
  · cases hother

end ScriptHost.Proofs.LocatedFunctions
