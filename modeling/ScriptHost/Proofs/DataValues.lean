import ScriptHost.Proofs.DataTrees
import ScriptHost.Proofs.Evaluation

/-!
# The values of data

What the engine makes of an expression that is plain data: the value of the data.  New objects are
put on the heap for its lists and dictionaries, and nothing else of the engine changes.
-/

namespace ScriptHost.Proofs.DataValues

open Script Script.Eval
open ScriptHost.Proofs.DataTrees
open ScriptHost.Proofs.Evaluation
open ScriptHost.Proofs.Numerals
open ScriptHost.Proofs.ScannedNumbers

variable {σ : Type} {s : Machine × σ} {I : Interp σ} {host : Engine.HostCall σ} {site : Site}
  {n : Nat} {o : Object} {os : List Object} {v : Value} {k : Name}

/-! ## Values and the objects they need -/

/-- A number after a sign. -/
def signedValue (negative : Bool) (v : Value) : Value := if negative then Number.neg v else v

/-- The numbers that scripts have names for. -/
structure Specials where
  nan : Float
  infinity : Float

variable {x : Specials}

/-- The value of a float. -/
def floatValue (x : Specials) : Binary.Parts → Value
  | .nan => .float x.nan
  | .infinite negative => signedValue negative (.float x.infinity)
  | .finite negative significand exponent =>
    signedValue negative (magnitude significand exponent).value

/-- An object before it has members. -/
def emptyObject : Object := .bare .ordinary (some Intrinsic.objectPrototype.ref)

/-- A list with given items. -/
def listObject (values : Array Value) : Object :=
  .bare (.array values values.size true) (some Intrinsic.arrayPrototype.ref)

/-- An object with one more property. -/
def withProperty (o : Object) (k : Name) (v : Value) : Object :=
  { o with properties := o.properties.put (.name k) (.plain v) }

/-- An object with the prototype that a value is, if it is one. -/
def withPrototype (o : Object) : Value → Object
  | .object p => { o with prototype := some p }
  | .null => { o with prototype := none }
  | _ => o

/-- An object with one more member. -/
def withMember (o : Object) (k : Name) (v : Value) : Object :=
  if (PropertyKey.name k).isNamed "__proto__" then withPrototype o v else withProperty o k v

mutual

/-- The value of plain data, and the objects that it needs on the heap from a place on. -/
def placed (x : Specials) (i : Nat) : HostValue → Value × List Object
  | .none => (.null, [])
  | .bool b => (.bool b, [])
  | .int n | .intMember n => (signedValue (n < 0) (.ofInt n.natAbs), [])
  | .float y => (floatValue x (Binary.Parts.ofFloat y), [])
  | .str t | .strMember t => (.string (Utf16.ofText t), [])
  | .list xs =>
    let (values, os) := placedItems x i xs
    (.object ⟨i + os.length⟩, os ++ [listObject values.toArray])
  | .dict es =>
    let (o, os) := placedEntries x (i + 1) emptyObject es
    (.object ⟨i⟩, o :: os)
  | _ => (.undefined, [])

/-- The values of the items of a list, and the objects that they need. -/
def placedItems (x : Specials) (i : Nat) : List HostValue → List Value × List Object
  | [] => ([], [])
  | v :: rest =>
    let (value, os) := placed x i v
    let (values, more) := placedItems x (i + os.length) rest
    (value :: values, os ++ more)

/-- An object with the entries of a dictionary, and the objects that their values need. -/
def placedEntries (x : Specials) (i : Nat) (o : Object) :
    List (HostValue × HostValue) → Object × List Object
  | [] => (o, [])
  | (k, v) :: rest =>
    let (value, os) := placed x i v
    let (o, more) := placedEntries x (i + os.length) (withMember o (DataTokens.keyString k) value) rest
    (o, os ++ more)

end

mutual

/-- How many levels deep the evaluation of plain data nests. -/
def levels : HostValue → Nat
  | .list xs => itemLevels xs + 1
  | .dict es => entryLevels es + 1
  | _ => 2

/-- How many levels deep the evaluation of the items of a list nests. -/
def itemLevels : List HostValue → Nat
  | [] => 0
  | v :: rest => max (levels v) (itemLevels rest)

/-- How many levels deep the evaluation of the entries of a dictionary nests. -/
def entryLevels : List (HostValue × HostValue) → Nat
  | [] => 0
  | (_, v) :: rest => max (levels v) (entryLevels rest)

end

/-! ## New objects -/

/-- The state with more objects on the heap. -/
def withObjects (os : List Object) (s : Machine × σ) : Machine × σ :=
  ({ s.1 with objects := s.1.objects ++ os.toArray }, s.2)

@[simp]
theorem withObjects_nil (s : Machine × σ) : withObjects [] s = s := by
  unfold withObjects
  simp

@[simp]
theorem size_withObjects (os : List Object) (s : Machine × σ) :
    (withObjects os s).1.objects.size = s.1.objects.size + os.length := by
  simp [withObjects]

@[simp]
theorem withObjects_withObjects (os more : List Object) (s : Machine × σ) :
    withObjects more (withObjects os s) = withObjects (os ++ more) s := by
  unfold withObjects
  simp [Array.append_assoc]

theorem allocate_run (o : Object) (s : Machine × σ) :
    allocate o s = .ok ⟨s.1.objects.size⟩ (withObjects [o] s) := by
  have hpush : withObjects [o] s = ({ s.1 with objects := s.1.objects.push o }, s.2) := by
    unfold withObjects
    simp
  rw [hpush]
  rfl

/-- The objects that were there stay as they are. -/
theorem objectAt_withObjects {r : Ref} (h : r.index < s.1.objects.size) :
    objectAt (withObjects os s).1 r = objectAt s.1 r := by
  unfold objectAt withObjects
  rw [Array.getElem?_append_left h]

theorem objectAt_new (o : Object) (os : List Object) (s : Machine × σ) :
    objectAt (withObjects (o :: os) s).1 ⟨s.1.objects.size⟩ = o := by
  unfold objectAt withObjects
  rw [Array.getElem?_append_right (Nat.le_refl _)]
  simp

theorem updateObject_new (f : Object → Object) :
    updateObject ⟨s.1.objects.size⟩ f (withObjects (o :: os) s) =
      .ok () (withObjects (f o :: os) s) := by
  have hmodify : (s.1.objects ++ (o :: os).toArray).modify s.1.objects.size f =
      s.1.objects ++ (f o :: os).toArray := by
    apply Array.ext
    · simp
    · intro i _ _
      simp only [Array.getElem_modify, Array.getElem_append]
      grind
  change EStateM.Result.ok () (({ s.1 with objects := _ }, s.2) : Machine × σ) = _
  rw [hmodify]
  rfl

/-- Beyond the heap there are only objects that nothing is known of. -/
theorem index_lt {m : Machine} {r : Ref} (h : objectAt m r ≠ default) :
    r.index < m.objects.size := by
  by_cases hlt : r.index < m.objects.size
  · exact hlt
  · unfold objectAt at h
    rw [Array.getElem?_eq_none (by omega)] at h
    exact absurd rfl h

theorem ne_default_of_own {k : PropertyKey} {p : Property} (h : o.own? k = some p) :
    o ≠ default := by
  rintro rfl
  have hnone : (default : Object).own? k = none := by
    change PropertyTable.empty.get? k = none
    simp [PropertyTable.get?, PropertyTable.place?, PropertyTable.empty]
  rw [hnone] at h
  cases h

theorem HasConstant.withObjects (h : HasConstant s.1 k v) (os : List Object) :
    HasConstant (withObjects os s).1 k v := by
  obtain ⟨w, e, c, hown⟩ := h.property
  have hglobal : objectAt (DataValues.withObjects os s).1 Intrinsic.globalObject.ref =
      objectAt s.1 Intrinsic.globalObject.ref := objectAt_withObjects (index_lt (ne_default_of_own hown))
  exact ⟨h.outermost, by rw [hglobal]; exact h.direct, ⟨w, e, c, by rw [hglobal]; exact hown⟩⟩

/-! ## Members -/

/-- An object of the script's own with plain properties alone. -/
structure IsOpen (o : Object) : Prop where
  kind : o.kind = .ordinary
  extensible : o.extensible = true
  properties : ∀ e ∈ o.properties.entries, ∃ v, e.2 = .plain v

theorem isOpen_emptyObject : IsOpen emptyObject := ⟨rfl, rfl, by simp [emptyObject, Object.bare, PropertyTable.empty]⟩

theorem isOpen_withProperty (h : IsOpen o) (k : Name) (v : Value) : IsOpen (withProperty o k v) := by
  refine ⟨h.kind, h.extensible, fun e he => ?_⟩
  unfold withProperty PropertyTable.put at he
  dsimp only at he
  split at he
  · rename_i i _
    obtain ⟨j, hj, rfl⟩ := Array.mem_iff_getElem.mp he
    rw [Array.getElem_modify]
    split
    · exact ⟨v, rfl⟩
    · exact h.properties _ (Array.getElem_mem _)
  · rcases Array.mem_push.mp he with he | rfl
    · exact h.properties e he
    · exact ⟨v, rfl⟩

theorem isOpen_withPrototype (h : IsOpen o) (v : Value) : IsOpen (withPrototype o v) := by
  unfold withPrototype
  split
  · exact ⟨h.kind, h.extensible, h.properties⟩
  · exact ⟨h.kind, h.extensible, h.properties⟩
  · exact h

theorem isOpen_withMember (h : IsOpen o) (k : Name) (v : Value) : IsOpen (withMember o k v) := by
  unfold withMember
  split
  · exact isOpen_withPrototype h v
  · exact isOpen_withProperty h k v

theorem own_of_isOpen (h : IsOpen o) {p : Property} (hown : o.own? (.name k) = some p) :
    ∃ v, p = .plain v := by
  unfold Object.own? at hown
  simp only [h.kind] at hown
  unfold PropertyTable.get? at hown
  obtain ⟨i, _, hi⟩ := Option.bind_eq_some_iff.mp hown
  obtain ⟨e, he, rfl⟩ := Option.map_eq_some_iff.mp hi
  exact h.properties e (Array.mem_of_getElem? he)

theorem place_of_isOpen (h : IsOpen o) (k : PropertyKey) (p : Property) :
    o.place k p = { o with properties := o.properties.put k p } := by
  unfold Object.place
  simp only [h.kind]

/-- A property of such an object is made as it is. -/
theorem createProperty_open {r : Ref} (h : IsOpen (objectAt s.1 r)) (k : Name) (v : Value) :
    createProperty I r (.name k) v s = updateObject r (·.place (.name k) (.plain v)) s := by
  have hdefine : defineOwn I r (.name k) (.ofProperty (.plain v)) s =
      (updateObject r (·.place (.name k) (.plain v)) >>= fun _ => pure none) s := by
    unfold defineOwn
    rw [bind_ok (object_run _ _)]
    simp only [h.kind]
    rw [if_neg (by simp [isArrayObject, h.kind])]
    cases hown : (objectAt s.1 r).own? (.name k) with
    | some p =>
        obtain ⟨w, rfl⟩ := own_of_isOpen h hown
        rfl
    | none =>
        dsimp only
        rw [if_neg (by simp [isPastEnd, h.kind]), if_neg (by simp [h.extensible])]
        rfl
  exact bind_ok hdefine

/-- A property of a new object is made as it is. -/
theorem createProperty_new (h : IsOpen o) (k : Name) (v : Value) :
    createProperty I ⟨s.1.objects.size⟩ (.name k) v (withObjects (o :: os) s) =
      .ok () (withObjects (withProperty o k v :: os) s) := by
  rw [createProperty_open (by rw [objectAt_new]; exact h), updateObject_new, place_of_isOpen h]
  rfl

/-! ## Evaluation -/

/-- What the names of numbers mean. -/
structure HasNumbers (m : Machine) (x : Specials) : Prop where
  nan : HasConstant m (nameOf "NaN") (.float x.nan)
  infinity : HasConstant m (nameOf "Infinity") (.float x.infinity)

/-- A state in which data can be evaluated: no line is kept, and the names of numbers mean what they
should, unless the data is finite and has no use for them. -/
structure IsReady (s : Machine × σ) (x : Specials) (finite : Prop) : Prop where
  line : ∀ f ∈ s.1.frames.head?, f.line = none
  numbers : finite ∨ HasNumbers s.1 x

theorem IsReady.withObjects {p : Prop} (h : IsReady s x p) (os : List Object) :
    IsReady (DataValues.withObjects os s) x p :=
  ⟨h.line, h.numbers.imp_right fun hnumbers =>
    ⟨HasConstant.withObjects hnumbers.nan os, HasConstant.withObjects hnumbers.infinity os⟩⟩

/-- What is ready for data is ready for a part of it. -/
theorem IsReady.part {p q : Prop} (h : IsReady s x p) (hpart : p → q) : IsReady s x q :=
  ⟨h.line, h.numbers.imp_left hpart⟩

/-- A value that is a number. -/
def IsNumber : Value → Prop
  | .int _ | .float _ => True
  | _ => False

theorem isNumber_ofInt (i : Int) : IsNumber (.ofInt i) := by
  unfold Value.ofInt
  split
  · trivial
  · trivial

theorem isNumber_value (y : Numeral) : IsNumber y.value := by
  have hofFloat (y : Float) : IsNumber (.ofFloat y) := by
    unfold Value.ofFloat
    dsimp only
    split
    · trivial
    · trivial
  unfold Numeral.value
  split
  · exact isNumber_ofInt _
  · exact hofFloat _

theorem evaluate_literal (v : Value) :
    (Engine.interp host (n + 1)).evaluate site (.literal v) s = .ok v s := rfl

theorem evaluate_constant {p : Prop} (h : IsReady s x p) (hc : HasConstant s.1 k v)
    (hsite : site.scope = 0) {line : Nat} : (Engine.interp host (n + 1)).evaluate site (.name k line) s = .ok v s := by
  change (reachLine line >>= fun _ => Variable.read (Engine.interp host n) site.scope k) s = _
  rw [bind_ok (reachLine_run h.line line), hsite]
  exact hc.read_outermost

theorem evaluate_signed {e : Expr} {negative : Bool} (hv : IsNumber v)
    (he : ∀ n, (Engine.interp host (n + 1)).evaluate site e s = .ok v s) :
    (Engine.interp host (n + 2)).evaluate site (signed negative e) s =
      .ok (signedValue negative v) s := by
  cases negative with
  | false => exact he (n + 1)
  | true =>
      change ((Engine.interp host (n + 1)).evaluate site e >>= fun w =>
        Operator.unary (Engine.interp host (n + 1)) .negate w) s = _
      rw [bind_ok (he n)]
      cases v with
      | int i => rfl
      | float x => rfl
      | _ => exact absurd hv id

theorem evaluate_float {y : Float} (h : IsReady s x (IsFinite (.float y))) (hsite : site.scope = 0) :
    (Engine.interp host (n + 2)).evaluate site (floatTree (Binary.Parts.ofFloat y)) s =
      .ok (floatValue x (Binary.Parts.ofFloat y)) s := by
  have hnumbers : (∃ negative significand exponent,
      Binary.Parts.ofFloat y = .finite negative significand exponent) ∨ HasNumbers s.1 x := by
    simpa [IsFinite] using h.numbers
  cases hparts : Binary.Parts.ofFloat y with
  | nan =>
      have hnan := (hnumbers.resolve_left (by simp [hparts])).nan
      exact evaluate_constant h hnan hsite
  | infinite negative =>
      have hinfinity := (hnumbers.resolve_left (by simp [hparts])).infinity
      exact evaluate_signed trivial fun n => evaluate_constant h hinfinity hsite
  | finite negative significand exponent =>
      exact evaluate_signed (isNumber_value _) fun n => evaluate_literal _

theorem isHole_itemTrees (xs : List HostValue) :
    (itemTrees xs).any Expression.isHole = false := by
  rw [itemTrees_eq]
  simp [Expression.isHole]

theorem members_value (r : Ref) (e : Expr) (ms : List Member) :
    Expression.members I site r (.value (.fixed (.name k)) e :: ms) = (do
      let v ← I.evaluate site e
      createProperty I r (.name k) v
      Expression.members I site r ms) := rfl

/-- What a member that is a prototype does with its value. -/
def givePrototype (r : Ref) : Value → Eval σ Unit
  | .object p => updateObject r fun o => { o with prototype := some p }
  | .null => updateObject r fun o => { o with prototype := none }
  | _ => pure ()

theorem members_prototype {r : Ref} {e : Expr} {ms : List Member} {s' : Machine × σ}
    (he : I.evaluate site e s = .ok v s') :
    Expression.members I site r (.prototype e :: ms) s =
      (givePrototype r v >>= fun _ => Expression.members I site r ms) s' := by
  rw [Expression.members]
  dsimp only
  rw [bind_ok he]
  cases v with
  | object p => rfl
  | null => rfl
  | _ => rfl

theorem givePrototype_new (v : Value) :
    givePrototype ⟨s.1.objects.size⟩ v (withObjects (o :: os) s) =
      .ok () (withObjects (withPrototype o v :: os) s) := by
  cases v with
  | object p => exact updateObject_new _
  | null => exact updateObject_new _
  | _ => rfl

theorem members_entry {e : Expr} {ms : List Member} {more : List Object} (ho : IsOpen o)
    (he : I.evaluate site e (withObjects (o :: os) s) =
      .ok v (withObjects (o :: (os ++ more)) s)) :
    Expression.members I site ⟨s.1.objects.size⟩ (entryTree k e :: ms) (withObjects (o :: os) s) =
      Expression.members I site ⟨s.1.objects.size⟩ ms
        (withObjects (withMember o k v :: (os ++ more)) s) := by
  unfold entryTree withMember
  split
  · rw [members_prototype he, bind_ok (givePrototype_new v)]
  · rw [members_value, bind_ok he, bind_ok (createProperty_new ho k v)]

variable {xs : List HostValue} {es : List (HostValue × HostValue)}

/-- Data that is neither a list nor a dictionary needs no objects. -/
theorem evaluate_scalar {v : HostValue} (hlist : ∀ xs, v ≠ .list xs) (hdict : ∀ es, v ≠ .dict es)
    (hsite : site.scope = 0) (hn : levels v ≤ n) (h : IsReady s x (IsFinite v)) (i : Nat) :
    (Engine.interp host n).evaluate site (tree v) s =
      .ok (placed x i v).1 (withObjects (placed x i v).2 s) := by
  have hlevels : 2 ≤ n := by
    unfold levels at hn
    split at hn
    · exact absurd rfl (hlist _)
    · exact absurd rfl (hdict _)
    · exact hn
  obtain ⟨m, rfl⟩ : ∃ m, n = m + 2 := ⟨n - 2, by omega⟩
  have hnone : (placed x i v).2 = [] := by
    unfold placed
    split
    case h_8 => exact absurd rfl (hlist _)
    case h_9 => exact absurd rfl (hdict _)
    all_goals rfl
  rw [hnone, withObjects_nil]
  unfold tree placed
  cases v with
  | list xs => exact absurd rfl (hlist xs)
  | dict es => exact absurd rfl (hdict es)
  | int i => exact evaluate_signed (isNumber_ofInt _) fun n => evaluate_literal _
  | intMember i => exact evaluate_signed (isNumber_ofInt _) fun n => evaluate_literal _
  | float y => exact evaluate_float h hsite
  | _ => exact evaluate_literal _

mutual

/-- The expression of plain data has the value of the data. -/
theorem evaluate_tree (hsite : site.scope = 0) : ∀ (v : HostValue) {n : Nat} {s : Machine × σ},
    levels v ≤ n → IsReady s x (IsFinite v) →
      (Engine.interp host n).evaluate site (tree v) s =
        .ok (placed x s.1.objects.size v).1 (withObjects (placed x s.1.objects.size v).2 s)
  | .list xs, n, s, hn, h => by
      unfold levels at hn
      obtain ⟨m, rfl⟩ : ∃ m, n = m + 1 := ⟨n - 1, by omega⟩
      have hitems := elements_trees hsite xs #[] (n := m) (by omega)
        (h.part (by simp [IsFinite]))
      change Expression.array (Engine.interp host m) site (itemTrees xs) s = _
      unfold Expression.array
      rw [isHole_itemTrees, if_neg (by simp), bind_ok hitems]
      unfold newArray
      rw [bind_ok (allocate_run _ _), withObjects_withObjects, size_withObjects]
      simp only [Array.empty_append]
      unfold placed
      rfl
  | .dict es, n, s, hn, h => by
      unfold levels at hn
      obtain ⟨m, rfl⟩ : ∃ m, n = m + 1 := ⟨n - 1, by omega⟩
      have hentries : Expression.members (Engine.interp host m) site ⟨s.1.objects.size⟩
          (entryTrees es) (withObjects [emptyObject] s) =
          .ok () (withObjects ((placedEntries x (s.1.objects.size + 1) emptyObject es).1 ::
            (placedEntries x (s.1.objects.size + 1) emptyObject es).2) s) :=
        members_trees hsite es (by omega) (h.part (by simp [IsFinite])) isOpen_emptyObject
      change Expression.objectValue (Engine.interp host m) site (entryTrees es) s = _
      unfold Expression.objectValue newObject
      rw [← emptyObject, bind_ok (allocate_run _ _), bind_ok hentries]
      unfold placed
      rfl
  | .none, _, _, hn, h => evaluate_scalar (by simp) (by simp) hsite hn h _
  | .bool _, _, _, hn, h => evaluate_scalar (by simp) (by simp) hsite hn h _
  | .int _, _, _, hn, h => evaluate_scalar (by simp) (by simp) hsite hn h _
  | .intMember _, _, _, hn, h => evaluate_scalar (by simp) (by simp) hsite hn h _
  | .float _, _, _, hn, h => evaluate_scalar (by simp) (by simp) hsite hn h _
  | .str _, _, _, hn, h => evaluate_scalar (by simp) (by simp) hsite hn h _
  | .strMember _, _, _, hn, h => evaluate_scalar (by simp) (by simp) hsite hn h _
  | .tuple _, _, _, hn, h | .member _, _, _, hn, h | .enumeration _, _, _, hn, h
  | .mappingView _, _, _, hn, h | .set _, _, _, hn, h | .bytes _, _, _, hn, h
  | .complex _ _, _, _, hn, h | .record _, _, _, hn, h | .recordType _, _, _, hn, h
  | .object _ _ _ _, _, _, hn, h | .classObject _ _ _ _, _, _, hn, h
  | .function _ _, _, _, hn, h => evaluate_scalar (by simp) (by simp) hsite hn h _

theorem elements_trees (hsite : site.scope = 0) : ∀ (xs : List HostValue) (acc : Array Value)
    {n : Nat} {s : Machine × σ}, itemLevels xs ≤ n →
      IsReady s x (ItemsFinite xs) →
      Expression.elements (Engine.interp host n) site (itemTrees xs) acc s =
        .ok (acc ++ (placedItems x s.1.objects.size xs).1.toArray)
          (withObjects (placedItems x s.1.objects.size xs).2 s)
  | [], acc, n, s, _, _ => by
      unfold placedItems
      rw [withObjects_nil]
      simp [Expression.elements, itemTrees]
      rfl
  | v :: rest, acc, n, s, hn, h => by
      unfold itemLevels at hn
      have hfirst := evaluate_tree hsite v (n := n) (by omega) (h.part fun hfinite => hfinite.1)
      have hrest := elements_trees hsite rest (acc.push (placed x s.1.objects.size v).1) (n := n)
        (by omega) ((h.part fun hfinite => hfinite.2).withObjects (placed x s.1.objects.size v).2)
      unfold itemTrees placedItems Expression.elements
      rw [bind_ok hfirst, hrest, size_withObjects, withObjects_withObjects]
      simp

theorem members_trees (hsite : site.scope = 0) : ∀ (es : List (HostValue × HostValue))
    {n : Nat} {s : Machine × σ} {o : Object} {os : List Object}, entryLevels es ≤ n →
      IsReady s x (EntriesFinite es) → IsOpen o →
      Expression.members (Engine.interp host n) site ⟨s.1.objects.size⟩ (entryTrees es)
          (withObjects (o :: os) s) =
        .ok () (withObjects ((placedEntries x (s.1.objects.size + 1 + os.length) o es).1 ::
          (os ++ (placedEntries x (s.1.objects.size + 1 + os.length) o es).2)) s)
  | [], n, s, o, os, _, _, _ => by
      unfold placedEntries
      rw [List.append_nil]
      rfl
  | (k, v) :: rest, n, s, o, os, hn, h, ho => by
      unfold entryLevels at hn
      have hfirst := evaluate_tree hsite v (n := n) (by omega)
        ((h.part fun hfinite => hfinite.1).withObjects (o :: os))
      rw [size_withObjects, withObjects_withObjects, List.length_cons,
        Nat.add_comm os.length 1, ← Nat.add_assoc] at hfirst
      unfold entryTrees placedEntries
      rw [members_entry ho hfirst, members_trees hsite rest (by omega)
        (h.part fun hfinite => hfinite.2) (isOpen_withMember ho _ _)]
      simp [Nat.add_assoc]

end

end ScriptHost.Proofs.DataValues
