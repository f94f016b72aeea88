import ScriptHost.Proofs.StringifiedData

/-!
# Data on the heap, as text

What it takes for a value of the engine to be data, and what the engine's writer gives for it.  The
writer looks for a member that would write the value in its own way; where the engine has none, data is
written as it stands, and nothing changes but for one new object.
-/

namespace ScriptHost.Proofs.HeldData

open Script Script.Eval
open Script.Library.JsonText (Writing quoted replaced enclosed)
open ScriptHost.Proofs.DataTokens (joinWith_cons)
open ScriptHost.Proofs.DataValues
open ScriptHost.Proofs.Evaluation
open ScriptHost.Proofs.IntactTexts
open ScriptHost.Proofs.Numerals
open ScriptHost.Proofs.PropertyChains
open ScriptHost.Proofs.QuotedTexts
open ScriptHost.Proofs.ScannedNumbers
open ScriptHost.Proofs.ScannedStrings
open ScriptHost.Proofs.Scanning
open ScriptHost.Proofs.StringifiedData

variable {σ α β : Type} {s s' : Machine × σ} {I : Interp σ} {m m' : Machine} {r : Ref} {v : Value}
  {d d' : HostValue}

/-! ## Values that are data -/

/-- An object with given members, in the order in which the engine lists them. -/
structure IsRecord (m : Machine) (r : Ref) (members : List (Name × Value)) : Prop where
  inRange : r.index < m.objects.size
  kind : (objectAt m r).kind = .ordinary
  prototype : (objectAt m r).prototype = some Intrinsic.objectPrototype.ref
  keys : (objectAt m r).ownKeys = members.map fun e => .name e.1
  own : ∀ e ∈ members, (objectAt m r).own? (.name e.1) = some (.plain e.2)
  others : ∀ n ∉ members.map (·.1), (objectAt m r).own? (.name n) = none

/-- A value is data on the heap: a constant, a string, a list, or a record. -/
inductive Holds (m : Machine) : Value → HostValue → Prop
  | null : Holds m .null .none
  | bool (b : Bool) : Holds m (.bool b) (.bool b)
  | string (s : Utf16) : Holds m (.string s) (.str s.toText)
  | list {r : Ref} {items : List (Value × HostValue)}
    (hr : objectAt m r = listObject (items.map (·.1)).toArray) (hlength : items.length < 2 ^ 32 - 1)
    (h : ∀ e ∈ items, Holds m e.1 e.2) : Holds m (.object r) (.list (items.map (·.2)))
  | record {r : Ref} {members : List (Name × Value × HostValue)}
    (hr : IsRecord m r (members.map fun e => (e.1, e.2.1))) (h : ∀ e ∈ members, Holds m e.2.1 e.2.2) :
    Holds m (.object r) (.dict (members.map fun e => (.str e.1.toText, e.2.2)))

theorem Holds.isTextual (h : Holds m v d) : IsTextual d := by
  induction h with
  | null => exact .none
  | bool b => exact .bool b
  | string s => exact .str (isApart_toText s)
  | list _ _ _ ih =>
      refine .list fun w hw => ?_
      obtain ⟨e, he, rfl⟩ := List.mem_map.mp hw
      exact ih e he
  | record _ _ ih =>
      refine .dict (fun e he => ?_) fun e he => ?_
      · obtain ⟨x, hx, rfl⟩ := List.mem_map.mp he
        exact ⟨_, rfl, isApart_toText _⟩
      · obtain ⟨x, hx, rfl⟩ := List.mem_map.mp he
        exact ih x hx

theorem IsRecord.of_objects {members : List (Name × Value)} (hm : HasObjects m m')
    (h : IsRecord m r members) : IsRecord m' r members := by
  obtain ⟨hrange, hsame⟩ := hm r h.inRange
  exact ⟨hrange, by rw [hsame, h.kind], by rw [hsame, h.prototype], by rw [hsame, h.keys],
    fun e he => by rw [hsame, h.own e he], fun n hn => by rw [hsame, h.others n hn]⟩

theorem inRange_of_list {items : Array Value} (h : objectAt m r = listObject items) :
    r.index < m.objects.size := by
  refine index_lt fun hdefault => ?_
  have hkind : (default : Object).kind = (listObject items).kind := by rw [← h, hdefault]
  cases hkind

theorem Holds.of_objects (hm : HasObjects m m') (h : Holds m v d) : Holds m' v d := by
  induction h with
  | null => exact .null
  | bool b => exact .bool b
  | string s => exact .string s
  | list hr hlength _ ih => exact .list ((hm _ (inRange_of_list hr)).2.trans hr) hlength ih
  | record hr _ ih => exact .record (hr.of_objects hm) ih

/-- Pairs whose first parts are the same are the same if the first part tells the second. -/
theorem eq_of_map_fst {xs ys : List (α × β)} (h : xs.map (·.1) = ys.map (·.1))
    (hsecond : ∀ e ∈ xs, ∀ f ∈ ys, e.1 = f.1 → e.2 = f.2) : xs = ys := by
  induction xs generalizing ys with
  | nil => exact (List.map_eq_nil_iff.mp h.symm).symm
  | cons e xs ih =>
      obtain ⟨f, ys, rfl⟩ : ∃ f zs, ys = f :: zs := List.exists_cons_of_ne_nil (by rintro rfl; cases h)
      obtain ⟨hfirst, hrest⟩ := List.cons.inj h
      have hpair : e = f := Prod.ext hfirst (hsecond e List.mem_cons_self f List.mem_cons_self hfirst)
      rw [hpair, ih hrest fun e he f hf => hsecond e (List.mem_cons_of_mem _ he) f (List.mem_cons_of_mem _ hf)]

theorem kind_ne_ordinary {items : Array Value} (h : objectAt m r = listObject items) :
    (objectAt m r).kind ≠ .ordinary := by
  rw [h]
  exact fun hkind => by cases hkind

/-- A value is one datum at most. -/
theorem Holds.unique (h : Holds m v d) (h' : Holds m v d') : d = d' := by
  induction h generalizing d' with
  | null => cases h'; rfl
  | bool b => cases h'; rfl
  | string s => cases h'; rfl
  | @list r items hr _ _ ih =>
      cases h' with
      | @list _ items' hr' _ h' =>
          have hvalues : items.map (·.1) = items'.map (·.1) := by
            have hkinds := congrArg Object.kind (hr.symm.trans hr')
            simpa using (ObjectKind.array.inj hkinds).1
          rw [eq_of_map_fst hvalues fun e he f hf heq => ih e he (heq ▸ h' f hf)]
      | record hr' => exact absurd hr'.kind (kind_ne_ordinary hr)
  | @record r members hr _ ih =>
      cases h' with
      | list hr' => exact absurd hr.kind (kind_ne_ordinary hr')
      | @record _ members' hr' h' =>
          have hnames : members.map (·.1) = members'.map (·.1) := by
            have hkeys := hr.keys.symm.trans hr'.keys
            rw [List.map_map, List.map_map] at hkeys
            exact List.map_injective_iff.mpr (fun _ _ h => PropertyKey.name.inj h)
              (by simpa [Function.comp_def] using hkeys)
          have hsame : members = members' := eq_of_map_fst hnames fun e he f hf heq => by
            have hown := hr.own _ (List.mem_map_of_mem he)
            have hown' := hr'.own _ (List.mem_map_of_mem hf)
            dsimp only at hown hown'
            rw [heq, hown'] at hown
            have hvalue : e.2.1 = f.2.1 := (Slot.data.inj (Property.mk.inj (Option.some.inj hown)).1).1.symm
            exact Prod.ext hvalue (ih e he (hvalue ▸ h' f hf))
          rw [hsame]

/-! ## Places in a list -/

theorem units_digits {ds : List Char} (h : AllDigits ds) :
    (Utf16.ofString (String.ofList ds)).units = (ds.map fun d => d.toNat.toUInt16).toArray := by
  have hunit : ∀ d ∈ ds, Utf16.encodePoint (CodePoint.ofChar d) = [d.toNat.toUInt16] := by
    intro d hd
    have hbound := toNat_digit (h d hd)
    unfold Utf16.encodePoint
    rw [if_pos (by rw [val_ofChar]; omega)]
    rfl
  unfold Utf16.ofString Text.ofString
  rw [ofText_units, String.toList_ofList]
  unfold Utf16.encode
  rw [List.flatMap_map]
  clear h
  induction ds with
  | nil => rfl
  | cons d ds ih =>
      have hrest := ih fun e he => hunit e (List.mem_cons_of_mem d he)
      rw [List.flatMap_cons, hunit d List.mem_cons_self]
      simpa using hrest

theorem toNat_unit {d : Char} (h : d.isDigit = true) : d.toNat.toUInt16.toNat = d.toNat := by
  have hbound := toNat_digit h
  simp
  omega

theorem foldl_units {ds : List Char} (h : AllDigits ds) (n : Nat) :
    (ds.map fun d => d.toNat.toUInt16).foldl (fun n u => 10 * n + (u.toNat - 0x30)) n =
      Nat.ofDigitChars 10 ds n := by
  induction ds generalizing n with
  | nil => rfl
  | cons d ds ih =>
      have hrest := ih fun e he => h e (List.mem_cons_of_mem d he)
      rw [List.map_cons, List.foldl_cons, hrest, toNat_unit (h d List.mem_cons_self)]
      rfl

theorem decimalValue_digits {ds : List Char} (h : AllDigits ds) (hne : ds ≠ [])
    (hzero : ∀ es, ds = '0' :: es → es = []) (hlength : ds.length ≤ 10) :
    PropertyKey.decimalValue? (ds.map fun d => d.toNat.toUInt16).toArray =
      some (Nat.ofDigitChars 10 ds 0) := by
  have hall : ((ds.map fun d => d.toNat.toUInt16).toArray.all
      fun u => 0x30 ≤ u.toNat && u.toNat ≤ 0x39) = true := by
    rw [Array.all_eq_true']
    intro u hu
    obtain ⟨d, hd, rfl⟩ := List.mem_map.mp (List.mem_toArray.mp hu)
    have hbound := toNat_digit (h d hd)
    rw [toNat_unit (h d hd)]
    simpa using hbound
  have hlead : (1 < (ds.map fun d => d.toNat.toUInt16).toArray.size &&
      (ds.map fun d => d.toNat.toUInt16).toArray[0]? == some 0x30) = false := by
    obtain ⟨d, es, rfl⟩ := List.exists_cons_of_ne_nil hne
    rw [Bool.and_eq_false_iff]
    by_cases hd : d = '0'
    · subst hd
      obtain rfl := hzero es rfl
      exact .inl rfl
    · refine .inr ?_
      have hunit : d.toNat.toUInt16 ≠ 0x30 := fun heq =>
        hd (Char.toNat_inj.mp ((toNat_unit (h d List.mem_cons_self)).symm.trans (congrArg UInt16.toNat heq)))
      simpa using hunit
  have hfew : ((ds.map fun d => d.toNat.toUInt16).toArray.isEmpty ||
      10 < (ds.map fun d => d.toNat.toUInt16).toArray.size) = false := by
    simp [hne, hlength]
  unfold PropertyKey.decimalValue?
  rw [hfew, hall, hlead, List.foldl_toArray, foldl_units h]
  rfl

/-- The key of a place in an array denotes the place. -/
theorem arrayIndex_ofIndex {i : Nat} (h : i < 2 ^ 32 - 1) : (PropertyKey.ofIndex i).arrayIndex? = some i := by
  have hwritten := natural_isWritten i
  have hlength : (Nat.toDigits 10 i).length ≤ 10 :=
    (Nat.length_toDigits_le_iff (by omega) (by omega)).mpr (by omega)
  have hdigits : AllDigits (Nat.toDigits 10 i) := hwritten.whole
  have hvalue := decimalValue_digits hdigits hwritten.nonempty hwritten.zero hlength
  rw [Nat.ofDigitChars_ten_toDigits] at hvalue
  change (PropertyKey.decimalValue? (Utf16.ofString (Nat.repr i)).units).filter (· < 2 ^ 32 - 1) = some i
  rw [Nat.repr_eq_ofList_toDigits, units_digits hdigits, hvalue]
  exact if_pos (decide_eq_true h)

/-! ## Steps of the writer -/

/-- The writer as it is called without a replacer, a list of members, or an indent. -/
def plainly : Writing := ⟨none, none, ∅⟩

/-- A function is looked for under this name before a value is written. -/
def writerKey : PropertyKey := "toJSON"

/-- Neither lists nor records have a way of their own to be written. -/
structure WritesPlainly (m : Machine) : Prop where
  arrays : Finds m writerKey Intrinsic.arrayPrototype.ref none
  objects : Finds m writerKey Intrinsic.objectPrototype.ref none

theorem WritesPlainly.of_objects (hm : HasObjects m m') (h : WritesPlainly m) : WritesPlainly m' :=
  ⟨h.arrays.of_objects hm, h.objects.of_objects hm⟩

theorem own_item {items : Array Value} {i : Nat} (h : i < items.size) (hsize : items.size < 2 ^ 32 - 1) :
    (listObject items).own? (.ofIndex i) = some (.plain items[i]) := by
  unfold listObject Object.bare Object.own?
  dsimp only
  rw [arrayIndex_ofIndex (by omega)]
  simp [h]

theorem own_listObject {k : PropertyKey} (items : Array Value) (hindex : k.arrayIndex? = none)
    (hlength : k.isNamed "length" = false) : (listObject items).own? k = none := by
  unfold listObject Object.bare Object.own?
  dsimp only
  rw [hindex, hlength]
  simp [PropertyTable.get?, PropertyTable.place?, PropertyTable.empty]

theorem isOrdinary_of_list {items : Array Value} (h : objectAt m r = listObject items) : IsOrdinary m r := by
  refine ⟨inRange_of_list h, fun target handler callable hkind => ?_⟩
  rw [h] at hkind
  cases hkind

theorem IsRecord.isOrdinary {members : List (Name × Value)} (h : IsRecord m r members) : IsOrdinary m r := by
  refine ⟨h.inRange, fun target handler callable hkind => ?_⟩
  rw [h.kind] at hkind
  cases hkind

theorem getProperty_item {items : Array Value} {i : Nat} (h : objectAt s.1 r = listObject items)
    (hi : i < items.size) (hsize : items.size < 2 ^ 32 - 1) :
    getProperty I r (.ofIndex i) s = .ok items[i] s :=
  (Finds.own (isOrdinary_of_list h) (by rw [h, own_item hi hsize]; rfl)).getProperty_some

theorem IsRecord.getProperty {members : List (Name × Value)} (h : IsRecord s.1 r members)
    {e : Name × Value} (he : e ∈ members) : getProperty I r (.name e.1) s = .ok e.2 s :=
  (Finds.own h.isOrdinary (h.own e he)).getProperty_some

/-- Data is no function. -/
theorem Holds.isCallable (h : Holds s.1 v d) : Eval.isCallable v s = .ok false s := by
  cases h with
  | list hr =>
      change EStateM.Result.ok (objectAt s.1 _).isCallable s = _
      rw [hr]
      rfl
  | record hr =>
      change EStateM.Result.ok (objectAt s.1 _).isCallable s = _
      unfold Object.isCallable
      rw [hr.kind]
  | _ => rfl

theorem holds_of_object (h : Holds m (.object r) d) : IsOrdinary m r := by
  cases h with
  | list hr => exact isOrdinary_of_list hr
  | record hr => exact hr.isOrdinary

/-- What data has under the name of a writer of its own is no function. -/
theorem getMember_writerKey (hplain : WritesPlainly s.1) (h : Holds s.1 (.object r) d) :
    ∃ f, getMember I (.object r) writerKey s = .ok f s ∧ Eval.isCallable f s = .ok false s := by
  cases h with
  | list hr =>
      have hnone : (objectAt s.1 r).own? writerKey = none := by
        rw [hr]
        exact own_listObject _ (by decide +kernel) (by decide)
      have hfinds := Finds.inherited (isOrdinary_of_list hr) hnone (by rw [hr]; rfl) hplain.arrays
      exact ⟨_, hfinds.getProperty, rfl⟩
  | @record _ members hr h =>
      by_cases hmem : Utf16.ofString "toJSON" ∈ (members.map fun e => (e.1, e.2.1)).map (·.1)
      · obtain ⟨e, he, hname⟩ := List.mem_map.mp hmem
        obtain ⟨x, hx, rfl⟩ := List.mem_map.mp he
        have hread := hr.getProperty (I := I) he
        dsimp only at hname hread
        rw [hname] at hread
        exact ⟨_, hread, (h x hx).isCallable⟩
      · have hfinds := Finds.inherited hr.isOrdinary (hr.others _ hmem) hr.prototype hplain.objects
        exact ⟨_, hfinds.getProperty, rfl⟩

/-- Data is written as it stands. -/
theorem replaced_run (hplain : WritesPlainly s.1) (h : Holds s.1 v d) (holder : Ref) (k : PropertyKey) :
    replaced I plainly holder k v s = .ok v s := by
  have hend : (Eval.isCallable v >>= fun b => if b = true then pure .undefined else pure v :
      Eval σ Value) s = .ok v s := by
    rw [bind_ok h.isCallable]
    rfl
  cases v with
  | object r =>
      obtain ⟨f, hmember, hcallable⟩ := getMember_writerKey (I := I) hplain h
      unfold replaced plainly
      dsimp only
      rw [if_pos rfl]
      refine (bind_ok hmember).trans ((bind_ok hcallable).trans ?_)
      rw [if_neg Bool.false_ne_true]
      exact hend
  | _ => cases h <;> rfl

/-! ## Runs of the writer -/

theorem mapM_run {f : α → Eval σ β} {g : α → β} {xs : List α} (h : ∀ x ∈ xs, f x s = .ok (g x) s) :
    xs.mapM f s = .ok (xs.map g) s := by
  induction xs with
  | nil => rfl
  | cons x xs ih =>
      rw [List.mapM_cons, bind_ok (h x List.mem_cons_self),
        bind_ok (ih fun y hy => h y (List.mem_cons_of_mem x hy))]
      rfl

theorem filterMapM_run {γ : Type} {f : α → Eval σ (Option β)} {k : γ → α} {g : γ → β} {xs : List γ}
    (h : ∀ x ∈ xs, f (k x) s = .ok (some (g x)) s) : (xs.map k).filterMapM f s = .ok (xs.map g) s := by
  have hloop : ∀ (ys : List γ) (acc : List β), (∀ x ∈ ys, f (k x) s = .ok (some (g x)) s) →
      List.filterMapM.loop f (ys.map k) acc s = .ok (acc.reverse ++ ys.map g) s := by
    intro ys
    induction ys with
    | nil =>
        intro acc _
        rw [List.map_nil, List.filterMapM.loop, List.map_nil, List.append_nil]
        rfl
    | cons y ys ih =>
        intro acc hys
        rw [List.map_cons, List.filterMapM.loop, bind_ok (hys y List.mem_cons_self)]
        refine (ih _ fun x hx => hys x (List.mem_cons_of_mem y hx)).trans ?_
        simp
  exact hloop xs [] h

theorem joinWith_ofText (ts : List Text) :
    Utf16.joinWith "," (ts.map Utf16.ofText) = Utf16.ofText (Text.joinWith "," ts) := by
  have hfold : ∀ (us : List Text) (t : Text),
      (us.map Utf16.ofText).foldl (fun acc u => acc ++ Utf16.ofString "," ++ u) (Utf16.ofText t) =
        Utf16.ofText (t ++ us.flatMap fun u => Text.ofString "," ++ u) := by
    intro us
    induction us with
    | nil => simp
    | cons u us ih =>
        intro t
        have hhead : Utf16.ofText t ++ Utf16.ofString "," ++ Utf16.ofText u =
            Utf16.ofText (t ++ (Text.ofString "," ++ u)) := by
          rw [Utf16.ofString, ← ofText_append, ← ofText_append, List.append_assoc]
        rw [List.map_cons, List.foldl_cons, hhead, ih]
        simp
  cases ts with
  | nil => rfl
  | cons t ts =>
      have hjoin : Text.joinWith "," (t :: ts) = t ++ ts.flatMap fun u => Text.ofString "," ++ u := by
        induction ts generalizing t with
        | nil => simp [Text.joinWith]
        | cons u ts ih => simp [Text.joinWith, ih]
      rw [hjoin]
      exact hfold ts t

theorem enclosed_eq (opening closing : Char) (indent : Utf16) (ts : List Text) :
    enclosed (String.ofList [opening]) (String.ofList [closing]) ∅ indent (ts.map Utf16.ofText) =
      Utf16.ofText (enclosing opening closing ts) := by
  have hmark : ∀ cs : List Char, Utf16.ofString (String.ofList cs) = Utf16.ofText (cs.map CodePoint.ofChar) := by
    intro cs
    unfold Utf16.ofString Text.ofString
    rw [String.toList_ofList]
  unfold enclosed enclosing
  cases ts with
  | nil =>
      rw [if_pos (by rfl), ← String.ofList_append, hmark]
      rfl
  | cons t ts =>
      rw [if_neg (by simp), if_pos (by rfl), joinWith_ofText, hmark, hmark, ← ofText_append,
        ← ofText_append]
      simp

theorem levels_item {xs : List HostValue} (h : d ∈ xs) : levels d < levels (.list xs) := by
  refine Nat.lt_succ_of_le ?_
  induction xs with
  | nil => cases h
  | cons v xs ih =>
      rcases List.mem_cons.mp h with rfl | h
      · exact Nat.le_max_left _ _
      · exact Nat.le_trans (ih h) (Nat.le_max_right _ _)

theorem levels_entry {es : List (HostValue × HostValue)} {e : HostValue × HostValue} (h : e ∈ es) :
    levels e.2 < levels (.dict es) := by
  refine Nat.lt_succ_of_le ?_
  induction es with
  | nil => cases h
  | cons f es ih =>
      rcases List.mem_cons.mp h with rfl | h
      · exact Nat.le_max_left _ _
      · exact Nat.le_trans (ih h) (Nat.le_max_right _ _)

theorem levels_pos (d : HostValue) : 0 < levels d := by
  cases d <;> simp [levels]

/-- Objects that a value is written inside of: each is data of which the value is a part. -/
def AreAround (m : Machine) (open_ : List Ref) (d : HostValue) : Prop :=
  ∀ q ∈ open_, ∃ d', Holds m (.object q) d' ∧ levels d < levels d'

theorem AreAround.not_contains {open_ : List Ref} (h : AreAround m open_ d) (hr : Holds m (.object r) d) :
    open_.contains r = false := by
  rw [← Bool.not_eq_true, List.contains_iff_mem]
  intro hmem
  obtain ⟨d', hd', hlt⟩ := h r hmem
  rw [hr.unique hd'] at hlt
  exact Nat.lt_irrefl _ hlt

theorem AreAround.inside {open_ : List Ref} (h : AreAround m open_ d) (hr : Holds m (.object r) d)
    (hlt : levels d' < levels d) : AreAround m (r :: open_) d' := by
  intro q hq
  rcases List.mem_cons.mp hq with rfl | hq
  · exact ⟨d, hr, hlt⟩
  · obtain ⟨e, he, hlt'⟩ := h q hq
    exact ⟨e, he, Nat.lt_trans hlt hlt'⟩

/-- The text of an item of a list. -/
def writtenItem (I : Interp σ) (fuel : Nat) (open_ : List Ref) (indent : Utf16) (r : Ref) (i : Nat) :
    Eval σ Utf16 := do
  let x ← replaced I plainly r (.ofIndex i) (← getProperty I r (.ofIndex i))
  return (← Library.JsonText.write I plainly fuel open_ indent x).getD "null"

/-- The text of a member of an object, if its value has one. -/
def writtenMember (I : Interp σ) (fuel : Nat) (open_ : List Ref) (indent : Utf16) (r : Ref) (n : Name) :
    Eval σ (Option Utf16) := do
  let x ← replaced I plainly r (.name n) (← getProperty I r (.name n))
  match ← Library.JsonText.write I plainly fuel open_ indent x with
  | none => return none
  | some t => return some (quoted n ++ ":" ++ t)

theorem chainBound_run (s : Machine × σ) : chainBound s = .ok (s.1.objects.size + 1) s := rfl

theorem write_list {values : Array Value} {open_ : List Ref} (hr : objectAt s.1 r = listObject values)
    (hopen : open_.contains r = false) (fuel : Nat) (indent : Utf16) :
    Library.JsonText.write I plainly (fuel + 1) open_ indent (.object r) s =
      ((List.range values.size).mapM (writtenItem I fuel (r :: open_) (indent ++ ∅) r) >>= fun parts =>
        pure (some (enclosed "[" "]" ∅ indent parts))) s := by
  have harray : isArray (s.1.objects.size + 1) (.object r) s = .ok true s := by
    unfold isArray
    dsimp only
    rw [bind_ok (object_run r s), hr]
    rfl
  have hsize : lengthOf I r s = .ok values.size s := by
    unfold lengthOf
    rw [bind_ok (object_run r s), hr]
    rfl
  unfold Library.JsonText.write
  dsimp only
  rw [bind_ok (object_run r s), hr]
  unfold listObject Object.bare
  dsimp only
  rw [hopen, if_neg Bool.false_ne_true]
  rw [bind_ok (chainBound_run s), bind_ok harray, if_pos rfl]
  exact bind_ok hsize

theorem listedKeys_run {members : List (Name × Value)} (hr : IsRecord s.1 r members) :
    listedKeys I r s = .ok (members.map (·.1)) s := by
  have hkeys : keysOf I r s = .ok (members.map fun e => .name e.1) s := by
    unfold keysOf
    rw [bind_ok (object_run r s), hr.kind]
    exact congrArg (EStateM.Result.ok · s) hr.keys
  have hown : ∀ e ∈ members, ownProperty I r (.name e.1) s = .ok (some (.plain e.2)) s := by
    intro e he
    unfold ownProperty
    rw [bind_ok (object_run r s), hr.kind]
    exact congrArg (EStateM.Result.ok · s) (hr.own e he)
  unfold listedKeys
  rw [bind_ok hkeys]
  exact filterMapM_run fun e he => (bind_ok (hown e he)).trans rfl

theorem write_record {members : List (Name × Value)} {open_ : List Ref} (hr : IsRecord s.1 r members)
    (hopen : open_.contains r = false) (fuel : Nat) (indent : Utf16) :
    Library.JsonText.write I plainly (fuel + 1) open_ indent (.object r) s =
      ((members.map (·.1)).filterMapM (writtenMember I fuel (r :: open_) (indent ++ ∅) r) >>= fun parts =>
        pure (some (enclosed "\x7b" "\x7d" ∅ indent parts))) s := by
  have harray : isArray (s.1.objects.size + 1) (.object r) s = .ok false s := by
    unfold isArray
    dsimp only
    rw [bind_ok (object_run r s), hr.kind]
    rfl
  unfold Library.JsonText.write
  dsimp only
  rw [bind_ok (object_run r s), hr.kind]
  dsimp only
  rw [hopen, if_neg Bool.false_ne_true]
  rw [bind_ok (chainBound_run s), bind_ok harray, if_neg Bool.false_ne_true]
  exact bind_ok (listedKeys_run hr)

/-- Data is written as its text, and nothing changes. -/
theorem write_run (hplain : WritesPlainly s.1) (h : Holds s.1 v d) : ∀ fuel open_ indent,
    levels d ≤ fuel → AreAround s.1 open_ d →
      Library.JsonText.write I plainly fuel open_ indent v s = .ok (some (Utf16.ofText (stringified d))) s := by
  have hfueled : ∀ {fuel : Nat} {d : HostValue}, levels d ≤ fuel → ∃ n, fuel = n + 1 := fun {fuel d} h =>
    ⟨fuel - 1, by have := levels_pos d; omega⟩
  induction h with
  | null =>
      intro fuel open_ indent hfuel _
      obtain ⟨fuel, rfl⟩ := hfueled hfuel
      rfl
  | bool b =>
      intro fuel open_ indent hfuel _
      obtain ⟨fuel, rfl⟩ := hfueled hfuel
      cases b <;> rfl
  | string t =>
      intro fuel open_ indent hfuel _
      obtain ⟨fuel, rfl⟩ := hfueled hfuel
      change EStateM.Result.ok (some (quoted t)) s = _
      rw [quoted_eq]
      rfl
  | @list r items hr hlength hitems ih =>
      intro fuel open_ indent hfuel haround
      obtain ⟨fuel, rfl⟩ := hfueled hfuel
      have hholds : Holds s.1 (.object r) (.list (items.map (·.2))) := .list hr hlength hitems
      have hitem : ∀ i ∈ List.range items.length, writtenItem I fuel (r :: open_) (indent ++ ∅) r i s =
          .ok ((items.map fun e => Utf16.ofText (stringified e.2))[i]?.getD ∅) s := by
        intro i hi
        have hlt := List.mem_range.mp hi
        have hmem : items[i] ∈ items := List.getElem_mem hlt
        have hlevels := levels_item (List.mem_map_of_mem (f := (·.2)) hmem)
        have hread := getProperty_item (I := I) (i := i) hr (by simpa using hlt) (by simpa using hlength)
        have hwritten := ih _ hmem fuel (r :: open_) (indent ++ ∅) (by omega)
          (haround.inside hholds hlevels)
        simp only [List.getElem_toArray, List.getElem_map] at hread
        unfold writtenItem
        rw [bind_ok hread, bind_ok (replaced_run hplain (hitems _ hmem) _ _), bind_ok hwritten]
        simp only [List.getElem?_map, List.getElem?_eq_getElem hlt]
        rfl
      rw [write_list hr (haround.not_contains hholds)]
      simp only [List.size_toArray, List.length_map]
      rw [bind_ok (mapM_run hitem)]
      have hparts : (List.range items.length).map
          (fun i => (items.map fun e => Utf16.ofText (stringified e.2))[i]?.getD ∅) =
            (stringifiedItems (items.map (·.2))).map Utf16.ofText := by
        rw [stringifiedItems_eq]
        refine List.ext_getElem (by simp) fun i hi _ => ?_
        have hlt : i < items.length := by simpa using hi
        simp [hlt]
      rw [hparts]
      exact congrArg (fun t => EStateM.Result.ok (some t) s) (enclosed_eq '[' ']' indent _)
  | @record r members hr hmembers ih =>
      intro fuel open_ indent hfuel haround
      obtain ⟨fuel, rfl⟩ := hfueled hfuel
      have hholds : Holds s.1 (.object r) (.dict (members.map fun e => (.str e.1.toText, e.2.2))) :=
        .record hr hmembers
      have hmember : ∀ e ∈ members, writtenMember I fuel (r :: open_) (indent ++ ∅) r e.1 s =
          .ok (some (Utf16.ofText
            (quotedText e.1.toText ++ CodePoint.ofChar ':' :: stringified e.2.2))) s := by
        intro e he
        have hlevels := levels_entry (List.mem_map_of_mem
          (f := fun e : Name × Value × HostValue => (HostValue.str e.1.toText, e.2.2)) he)
        dsimp only at hlevels
        have hread := hr.getProperty (I := I)
          (List.mem_map_of_mem (f := fun e : Name × Value × HostValue => (e.1, e.2.1)) he)
        have hwritten := ih e he fuel (r :: open_) (indent ++ ∅) (by omega)
          (haround.inside hholds hlevels)
        unfold writtenMember
        rw [bind_ok hread, bind_ok (replaced_run hplain (hmembers e he) _ _), bind_ok hwritten]
        have hcolon : quoted e.1 ++ Utf16.ofString ":" ++ Utf16.ofText (stringified e.2.2) =
            Utf16.ofText (quotedText e.1.toText ++ CodePoint.ofChar ':' :: stringified e.2.2) := by
          rw [quoted_eq, Utf16.ofString, ← ofText_append, ← ofText_append, List.append_assoc]
          rfl
        exact congrArg (fun t => EStateM.Result.ok (some t) s) hcolon
      have hparts : members.map (fun e => Utf16.ofText
          (quotedText e.1.toText ++ CodePoint.ofChar ':' :: stringified e.2.2)) =
            (stringifiedEntries (members.map fun e => (.str e.1.toText, e.2.2))).map Utf16.ofText := by
        rw [stringifiedEntries_eq, List.map_map, List.map_map]
        rfl
      rw [write_record hr (haround.not_contains hholds), List.map_map]
      refine (bind_ok (filterMapM_run hmember)).trans ?_
      rw [hparts]
      exact congrArg (fun t => EStateM.Result.ok (some t) s) (enclosed_eq '\x7b' '\x7d' indent _)

/-! ## Runs of the function for it -/

theorem hasObjects_withObjects (os : List Object) (s : Machine × σ) : HasObjects s.1 (withObjects os s).1 :=
  fun _ hr => ⟨by rw [size_withObjects]; omega, objectAt_withObjects hr⟩

/-- The object that holds a value while it is written. -/
def holder (v : Value) : Object := withProperty emptyObject ∅ v

/-- What lets a property be made of an object that has none under its key. -/
structure Admits (o : Object) (k : PropertyKey) : Prop where
  direct : IsDirect o
  noLength : (isArrayObject o && k.isNamed "length") = false
  own : o.own? k = none
  inside : isPastEnd o k = false
  extensible : o.extensible = true

theorem createProperty_run {k : PropertyKey} (h : Admits (objectAt s.1 r) k) (v : Value) :
    createProperty I r k v s = updateObject r (fun o => o.place k (.plain v)) s := by
  have hdefine : defineOwn I r k (.ofProperty (.plain v)) s =
      (updateObject r (fun o => o.place k (.plain v)) >>= fun _ => pure none : Eval σ _) s := by
    have hdirect := h.direct
    unfold IsDirect at hdirect
    unfold defineOwn
    rw [bind_ok (object_run r s)]
    simp only [h.noLength, h.own, h.inside, h.extensible]
    rfl
  unfold createProperty
  exact (bind_ok (hdefine.trans rfl)).trans rfl

theorem admits_emptyObject (k : PropertyKey) : Admits emptyObject k where
  direct _ _ _ hkind := by cases hkind
  noLength := rfl
  own := by simp [emptyObject, Object.bare, Object.own?, PropertyTable.get?, PropertyTable.place?,
    PropertyTable.empty]
  inside := rfl
  extensible := rfl

theorem createProperty_holder (v : Value) (s : Machine × σ) :
    createProperty I ⟨s.1.objects.size⟩ (.name ∅) v (withObjects [emptyObject] s) =
      .ok () (withObjects [holder v] s) := by
  have hadmits : Admits (objectAt (withObjects [emptyObject] s).1 ⟨s.1.objects.size⟩) (.name ∅) := by
    rw [objectAt_new]
    exact admits_emptyObject _
  rw [createProperty_run hadmits]
  exact updateObject_new _

/-- The text of data, by the function that scripts and the host have for it. -/
theorem stringify_run (hplain : WritesPlainly s.1) (h : Holds s.1 v d) (hlevels : levels d ≤ 100000) :
    Library.JsonText.stringify I v .undefined .undefined s =
      .ok (.string (Utf16.ofText (stringified d))) (withObjects [holder v] s) := by
  have hobjects := hasObjects_withObjects [holder v] s
  have hgap : Library.JsonText.gapOf I .undefined s = .ok ∅ s := rfl
  have hcallable : Eval.isCallable .undefined s = .ok false s := rfl
  have harray : isArray (s.1.objects.size + 1) .undefined s = .ok false s := rfl
  have hwritten := write_run (I := I) (hplain.of_objects hobjects) (h.of_objects hobjects) 100000 [] ∅
    hlevels (by simp [AreAround])
  unfold Library.JsonText.stringify
  rw [bind_ok hgap, bind_ok hcallable, if_neg Bool.false_ne_true, bind_ok (chainBound_run s),
    bind_ok harray, if_neg Bool.false_ne_true, pure_bind]
  refine (bind_ok (allocate_run emptyObject s)).trans ?_
  refine (bind_ok (createProperty_holder v s)).trans ?_
  refine (bind_ok (replaced_run (hplain.of_objects hobjects) (h.of_objects hobjects) _ _)).trans ?_
  exact (bind_ok hwritten).trans rfl

end ScriptHost.Proofs.HeldData
