import ScriptHost.Proofs.BuiltData
import ScriptHost.Proofs.CallArguments
import ScriptHost.Proofs.HostImages
import ScriptHost.Proofs.ParsedData
import ScriptHost.Proofs.SignedNumbers
import ScriptHost.Script.Library.JsonText

/-!
# Two ways into the engine

Data goes into the engine as an expression of a script, or as a text that the script reads.  The
values are alike, unless a dictionary has the key that an expression takes as a prototype.
-/

namespace ScriptHost.Proofs.Encodings

open Script Script.Eval
open ScriptHost.Proofs.BuiltData
open ScriptHost.Proofs.CallArguments
open ScriptHost.Proofs.DataScripts
open ScriptHost.Proofs.DataTexts
open ScriptHost.Proofs.DataTokens
open ScriptHost.Proofs.DataTrees
open ScriptHost.Proofs.DataValues
open ScriptHost.Proofs.Evaluation
open ScriptHost.Proofs.HostImages
open ScriptHost.Proofs.Numerals
open ScriptHost.Proofs.ParsedData
open ScriptHost.Proofs.ParsedScalars
open ScriptHost.Proofs.ScannedNumbers
open ScriptHost.Proofs.ScannedStrings
open ScriptHost.Proofs.SignedNumbers

variable {σ τ : Type} {m m' : Machine} {x : Specials} {i j : Nat} {os more : List Object}

/-! ## Values that are alike -/

/-- A value in one engine and a value in another. -/
abbrev Twin := Value × Value

/-- An object with given members and nothing else. -/
def recordObject (members : Array (Name × Value)) : Object :=
  { emptyObject with properties := ⟨members.map fun e => (.name e.1, .plain e.2)⟩ }

/-- Values of two engines with the same structure: the same scalars, lists of the same length, and
objects whose own members have the same names in the same order. -/
inductive Alike (m m' : Machine) : Value → Value → Prop
  | null : Alike m m' .null .null
  | bool (b : Bool) : Alike m m' (.bool b) (.bool b)
  | string (s : Utf16) : Alike m m' (.string s) (.string s)
  | number {v w : Value} {y : Float} (hv : v.toFloat? = some y) (hw : w.toFloat? = some y) :
    Alike m m' v w
  | list {r r' : Ref} {items : Array Twin}
    (hr : objectAt m r = listObject (items.map (·.1)))
    (hr' : objectAt m' r' = listObject (items.map (·.2)))
    (h : ∀ e ∈ items, Alike m m' e.1 e.2) : Alike m m' (.object r) (.object r')
  | record {r r' : Ref} {members : Array (Name × Twin)}
    (hr : objectAt m r = recordObject (members.map fun e => (e.1, e.2.1)))
    (hr' : objectAt m' r' = recordObject (members.map fun e => (e.1, e.2.2)))
    (h : ∀ e ∈ members, Alike m m' e.2.1 e.2.2) : Alike m m' (.object r) (.object r')

/-! ## Numbers -/

theorem toFloat_value (y : Numeral) : y.value.toFloat? =
    some (Decimal.toFloat false (Nat.ofDigitChars 10 (y.whole ++ y.fraction.getD []) 0)
      (Numeral.power y.exponent - (y.fraction.getD []).length)) := by
  obtain ⟨whole, fraction, exponent⟩ := y
  unfold Numeral.value
  split
  · rename_i hfraction hexponent
    dsimp only at hfraction hexponent
    subst hfraction hexponent
    have hsign : decide ((Nat.ofDigitChars 10 whole 0 : Int) < 0) = false :=
      decide_eq_false (Int.not_lt.mpr (Int.natCast_nonneg _))
    simp [Numeral.power, toFloat_natural, Binary.ofInt, hsign]
  · exact toFloat_ofFloat _

/-- A numeral after a sign is one number, whether the sign is a part of it or not. -/
theorem alike_number (negative : Bool) (y : Numeral) :
    Alike m m' (signedValue negative y.value) (numeralValue negative y) := by
  have hvalue := toFloat_value y
  have hparsed : (numeralValue negative y).toFloat? = _ := toFloat_ofFloat _
  cases negative with
  | false => exact .number hvalue hparsed
  | true => exact .number ((toFloat_neg hvalue).trans (congrArg some (negate_toFloat _ _))) hparsed

theorem alike_int (n : Int) : Alike m m' (signedValue (n < 0) (.ofInt n.natAbs))
    (numeralValue (n < 0) (natural n.natAbs)) := by
  rw [← natural_value]
  exact alike_number _ _

/-! ## Members -/

/-- The members with one more, or with another value for one that is there. -/
def putMember {α : Type} (members : Array (Name × α)) (k : Name) (a : α) : Array (Name × α) :=
  match members.findIdx? (·.1 == k) with
  | some i => members.modify i fun _ => (k, a)
  | none => members.push (k, a)

theorem findIdx_map {α β : Type} (f : α → β) (members : Array (Name × α)) (k : Name) :
    (members.map fun e => (e.1, f e.2)).findIdx? (·.1 == k) = members.findIdx? (·.1 == k) := by
  rw [Array.findIdx?_map]
  rfl

theorem map_replaced {α β : Type} (g : α → β) (items : Array α) (n : Nat) (a : α) :
    (items.modify n fun _ => a).map g = (items.map g).modify n fun _ => g a := by
  apply Array.ext
  · simp
  · intro l _ _
    simp only [Array.getElem_map, Array.getElem_modify]
    split
    · rfl
    · rfl

theorem map_putMember {α β : Type} (f : α → β) (members : Array (Name × α)) (k : Name) (a : α) :
    (putMember members k a).map (fun e => (e.1, f e.2)) =
      putMember (members.map fun e => (e.1, f e.2)) k (f a) := by
  unfold putMember
  rw [findIdx_map]
  split
  · exact map_replaced _ _ _ _
  · exact Array.map_push

theorem mem_putMember {α : Type} {members : Array (Name × α)} {k : Name} {a : α} {e : Name × α}
    (h : e ∈ putMember members k a) : e.2 = a ∨ e ∈ members := by
  unfold putMember at h
  split at h
  · obtain ⟨n, hn, rfl⟩ := Array.mem_iff_getElem.mp h
    rw [Array.getElem_modify]
    split
    · exact .inl rfl
    · exact .inr (Array.getElem_mem _)
  · rcases Array.mem_push.mp h with h | rfl
    · exact .inr h
    · exact .inl rfl

theorem recordObject_empty (f : Name × Twin → Name × Value) :
    recordObject ((#[] : Array (Name × Twin)).map f) = emptyObject := by
  unfold recordObject
  rw [Array.map_empty, Array.map_empty]
  rfl

theorem place_members {α : Type} (f : α → Value) (members : Array (Name × α)) (k : Name) :
    (PropertyTable.mk (members.map fun e => (.name e.1, .plain (f e.2)))).place? (.name k) =
      members.findIdx? (·.1 == k) := by
  unfold PropertyTable.place?
  rw [Array.findIdx?_map]
  exact congrArg (members.findIdx? ·) (funext fun e => by simp [PropertyKey.name.injEq])

theorem withProperty_recordObject (members : Array (Name × Value)) (k : Name) (v : Value) :
    withProperty (recordObject members) k v = recordObject (putMember members k v) := by
  have hplace : (PropertyTable.mk (members.map fun e => (.name e.1, .plain e.2))).place? (.name k) =
      members.findIdx? (·.1 == k) := place_members (fun w => w) members k
  unfold withProperty recordObject PropertyTable.put putMember
  dsimp only
  rw [hplace]
  cases members.findIdx? (·.1 == k) with
  | some n =>
      dsimp only
      rw [map_replaced]
  | none =>
      dsimp only
      rw [Array.map_push]

/-- The own properties of a record are its members. -/
theorem own_recordObject {α : Type} (f : α → Value) (members : Array (Name × α)) (k : Name) :
    (recordObject (members.map fun e => (e.1, f e.2))).own? (.name k) =
      (members.find? (·.1 == k)).map fun e => .plain (f e.2) := by
  have hproperties : (recordObject (members.map fun e => (e.1, f e.2))).properties =
      ⟨members.map fun e => (.name e.1, .plain (f e.2))⟩ := by
    unfold recordObject
    rw [Array.map_map]
    rfl
  have hown : (recordObject (members.map fun e => (e.1, f e.2))).own? (.name k) =
      (recordObject (members.map fun e => (e.1, f e.2))).properties.get? (.name k) := rfl
  rw [hown, hproperties, Array.find?_eq_bind_findIdx?_getElem?]
  unfold PropertyTable.get?
  rw [place_members]
  cases members.findIdx? (·.1 == k) with
  | none => rfl
  | some n => simp [Function.comp_def]

/-! ## Objects on the heap -/

/-- Objects stand on the heap one after the other, from a place on. -/
def Standing (m : Machine) (i : Nat) (os : List Object) : Prop :=
  ∀ n (h : n < os.length), objectAt m ⟨i + n⟩ = os[n]

theorem standing_append : Standing m i (os ++ more) ↔
    Standing m i os ∧ Standing m (i + os.length) more := by
  constructor
  · intro h
    refine ⟨fun n hn => ?_, fun n hn => ?_⟩
    · rw [h n (by simp; omega), List.getElem_append_left hn]
    · rw [Nat.add_assoc, h (os.length + n) (by simp; omega), List.getElem_append_right (by omega)]
      simp
  · rintro ⟨hleft, hright⟩ n hn
    rw [List.getElem_append]
    split
    · exact hleft n _
    · rename_i hlen
      have hlater := hright (n - os.length) (by simp at hn; omega)
      rwa [Nat.add_assoc, Nat.add_sub_cancel' (by omega)] at hlater

theorem standing_cons {o : Object} : Standing m i (o :: os) ↔
    objectAt m ⟨i⟩ = o ∧ Standing m (i + 1) os := by
  have hone : Standing m i [o] ↔ objectAt m ⟨i⟩ = o := by
    refine ⟨fun h => h 0 (by simp), fun h n hn => ?_⟩
    obtain rfl : n = 0 := by simpa using hn
    simpa using h
  have happend : Standing m i ([o] ++ os) ↔ Standing m i [o] ∧ Standing m (i + 1) os := standing_append
  rw [hone] at happend
  exact happend

theorem standing_withObjects (os : List Object) (s : Machine × σ) :
    Standing (withObjects os s).1 s.1.objects.size os := by
  intro n hn
  unfold objectAt withObjects
  rw [Array.getElem?_append_right (by simp)]
  simp [hn]

/-! ## Data that is alike -/

mutual

/-- No dictionary of the data has the key that an expression takes as a prototype. -/
def HasOwnKeys : HostValue → Prop
  | .list xs => ItemsHaveOwnKeys xs
  | .dict es => EntriesHaveOwnKeys es
  | _ => True

/-- No dictionary of the items has the key that an expression takes as a prototype. -/
def ItemsHaveOwnKeys : List HostValue → Prop
  | [] => True
  | v :: rest => HasOwnKeys v ∧ ItemsHaveOwnKeys rest

/-- Neither the entries nor a dictionary of their values have the key that an expression takes as a
prototype. -/
def EntriesHaveOwnKeys : List (HostValue × HostValue) → Prop
  | [] => True
  | (k, v) :: rest => (PropertyKey.name (keyString k)).isNamed "__proto__" = false ∧ HasOwnKeys v ∧
    EntriesHaveOwnKeys rest

end

/-- Wherever data is placed in one engine and built in another, the values are alike. -/
def AlikeAnywhere (x : Specials) (m m' : Machine) (v : HostValue) : Prop :=
  ∀ i j, Standing m i (placed x i v).2 → Standing m' j (built j (datum v)).2 →
    Alike m m' (placed x i v).1 (built j (datum v)).1

theorem alike_items {xs : List HostValue} (h : ∀ v ∈ xs, AlikeAnywhere x m m' v) :
    ∀ i j, Standing m i (placedItems x i xs).2 → Standing m' j (builtItems j (itemData xs)).2 →
      ∃ items : List Twin, (placedItems x i xs).1 = items.map (·.1) ∧
        (builtItems j (itemData xs)).1 = items.map (·.2) ∧ ∀ e ∈ items, Alike m m' e.1 e.2 := by
  induction xs with
  | nil => exact fun i j _ _ => ⟨[], rfl, rfl, by simp⟩
  | cons v xs ih =>
      intro i j hplaced hbuilt
      obtain ⟨hfirst, hrest⟩ := standing_append.mp hplaced
      obtain ⟨hfirst', hrest'⟩ := standing_append.mp hbuilt
      obtain ⟨items, hitems, hitems', halike⟩ :=
        ih (fun w hw => h w (List.mem_cons_of_mem v hw)) _ _ hrest hrest'
      refine ⟨((placed x i v).1, (built j (datum v)).1) :: items, ?_, ?_,
        List.forall_mem_cons.mpr ⟨h v List.mem_cons_self i j hfirst hfirst', halike⟩⟩
      · simp [placedItems, hitems]
      · simp [itemData, builtItems, hitems']

theorem alike_entries {es : List (HostValue × HostValue)} (hkeys : EntriesHaveOwnKeys es)
    (h : ∀ e ∈ es, AlikeAnywhere x m m' e.2) : ∀ (members : Array (Name × Twin)) i j,
      (∀ e ∈ members, Alike m m' e.2.1 e.2.2) →
      Standing m i (placedEntries x i (recordObject (members.map fun e => (e.1, e.2.1))) es).2 →
      Standing m' j
        (builtMembers j (recordObject (members.map fun e => (e.1, e.2.2))) (memberData es)).2 →
      ∃ members' : Array (Name × Twin),
        (placedEntries x i (recordObject (members.map fun e => (e.1, e.2.1))) es).1 =
          recordObject (members'.map fun e => (e.1, e.2.1)) ∧
        (builtMembers j (recordObject (members.map fun e => (e.1, e.2.2))) (memberData es)).1 =
          recordObject (members'.map fun e => (e.1, e.2.2)) ∧
        ∀ e ∈ members', Alike m m' e.2.1 e.2.2 := by
  induction es with
  | nil => exact fun members i j hmembers _ _ => ⟨members, rfl, rfl, hmembers⟩
  | cons e es ih =>
      obtain ⟨k, v⟩ := e
      obtain ⟨hkey, -, hkeys⟩ := hkeys
      intro members i j hmembers hplaced hbuilt
      have hmember (o : Object) (w : Value) :
          withMember o (keyString k) w = withProperty o (keyString k) w := by
        unfold withMember
        rw [hkey]
        rfl
      unfold placedEntries at hplaced ⊢
      unfold memberData builtMembers at hbuilt ⊢
      dsimp only at hplaced hbuilt ⊢
      rw [hmember, withProperty_recordObject] at hplaced ⊢
      rw [withProperty_recordObject] at hbuilt ⊢
      obtain ⟨hfirst, hrest⟩ := standing_append.mp hplaced
      obtain ⟨hfirst', hrest'⟩ := standing_append.mp hbuilt
      have halike := h (k, v) List.mem_cons_self i j hfirst hfirst'
      let twin : Twin := ((placed x i v).1, (built j (datum v)).1)
      let more := putMember members (keyString k) twin
      have hone : putMember (members.map fun e => (e.1, e.2.1)) (keyString k) (placed x i v).1 =
          more.map fun e => (e.1, e.2.1) := (map_putMember Prod.fst members _ twin).symm
      have htwo : putMember (members.map fun e => (e.1, e.2.2)) (keyString k) (built j (datum v)).1 =
          more.map fun e => (e.1, e.2.2) := (map_putMember Prod.snd members _ twin).symm
      rw [hone] at hrest ⊢
      rw [htwo] at hrest' ⊢
      refine ih hkeys (fun e he => h e (List.mem_cons_of_mem _ he)) more _ _ (fun e he => ?_) hrest hrest'
      rcases mem_putMember he with heq | hold
      · rw [heq]
        exact halike
      · exact hmembers e hold

theorem forall_itemsFinite {xs : List HostValue} (h : ItemsFinite xs) : ∀ v ∈ xs, IsFinite v := by
  induction xs with
  | nil => simp
  | cons v xs ih => exact List.forall_mem_cons.mpr ⟨h.1, ih h.2⟩

theorem forall_entriesFinite {es : List (HostValue × HostValue)} (h : EntriesFinite es) :
    ∀ e ∈ es, IsFinite e.2 := by
  induction es with
  | nil => simp
  | cons e es ih => exact List.forall_mem_cons.mpr ⟨h.1, ih h.2⟩

theorem forall_itemsHaveOwnKeys {xs : List HostValue} (h : ItemsHaveOwnKeys xs) :
    ∀ v ∈ xs, HasOwnKeys v := by
  induction xs with
  | nil => simp
  | cons v xs ih => exact List.forall_mem_cons.mpr ⟨h.1, ih h.2⟩

theorem forall_entriesHaveOwnKeys {es : List (HostValue × HostValue)} (h : EntriesHaveOwnKeys es) :
    ∀ e ∈ es, HasOwnKeys e.2 := by
  induction es with
  | nil => simp
  | cons e es ih => exact List.forall_mem_cons.mpr ⟨h.2.1, ih h.2.2⟩

/-- Data is alike in two engines, whether it is placed there as an expression or built of a text. -/
theorem alike_anywhere {v : HostValue} (hv : IsDatum v) (hfinite : IsFinite v) (hkeys : HasOwnKeys v) :
    AlikeAnywhere x m m' v := by
  induction hv with
  | none => exact fun _ _ _ _ => .null
  | bool b => exact fun _ _ _ _ => .bool b
  | int n => exact fun _ _ _ _ => alike_int n
  | intMember n => exact fun _ _ _ _ => alike_int n
  | float y =>
      intro _ _ _ _
      obtain ⟨negative, significand, exponent, hparts⟩ := hfinite
      unfold placed datum
      rw [hparts]
      exact alike_number negative _
  | str t => exact fun _ _ _ _ => .string _
  | strMember t => exact fun _ _ _ _ => .string _
  | @list xs h ih =>
      intro i j hplaced hbuilt
      have hitems := forall_itemsFinite hfinite
      have howns := forall_itemsHaveOwnKeys hkeys
      obtain ⟨hfirst, hlist⟩ := standing_append.mp hplaced
      obtain ⟨hfirst', hlist'⟩ := standing_append.mp hbuilt
      obtain ⟨items, hleft, hright, halike⟩ :=
        alike_items (fun v hv => ih v hv (hitems v hv) (howns v hv)) i j hfirst hfirst'
      have hobject := (standing_cons.mp hlist).1
      have hobject' := (standing_cons.mp hlist').1
      rw [hleft, ← List.map_toArray] at hobject
      rw [hright, ← List.map_toArray] at hobject'
      exact .list hobject hobject' (by simpa using halike)
  | @dict es _ _ h ih =>
      intro i j hplaced hbuilt
      have hentries := forall_entriesFinite hfinite
      have howns := forall_entriesHaveOwnKeys hkeys
      obtain ⟨hobject, hrest⟩ := standing_cons.mp hplaced
      obtain ⟨hobject', hrest'⟩ := standing_cons.mp hbuilt
      have hall := alike_entries hkeys (fun e he => ih e he (hentries e he) (howns e he)) #[]
        (i + 1) (j + 1) (by simp)
      rw [recordObject_empty, recordObject_empty] at hall
      obtain ⟨members, hleft, hright, halike⟩ := hall hrest hrest'
      exact .record (hobject.trans hleft) (hobject'.trans hright) halike

/-! ## Own members -/

/-- Alike objects of the script's own have own members of the same names, and the values of those
are alike. -/
theorem Alike.own {r r' : Ref} (h : Alike m m' (.object r) (.object r'))
    (hr : (objectAt m r).kind = .ordinary) (k : Name) :
    ((objectAt m r).own? (.name k) = none ∧ (objectAt m' r').own? (.name k) = none) ∨
      ∃ v w, (objectAt m r).own? (.name k) = some (.plain v) ∧
        (objectAt m' r').own? (.name k) = some (.plain w) ∧ Alike m m' v w := by
  cases h with
  | number hv _ => cases hv
  | list hlist _ _ =>
      rw [hlist] at hr
      cases hr
  | @record _ _ members hrecord hrecord' hmembers =>
      rw [hrecord, hrecord', own_recordObject Prod.fst, own_recordObject Prod.snd]
      cases hfind : members.find? (·.1 == k) with
      | none => exact .inl ⟨rfl, rfl⟩
      | some e => exact .inr ⟨_, _, rfl, rfl, hmembers e (Array.mem_of_find?_eq_some hfind)⟩

theorem not_alike_of_own {r r' : Ref} {k : Name} {p : Property}
    (hr : (objectAt m r).kind = .ordinary) (hnone : (objectAt m r).own? (.name k) = none)
    (hsome : (objectAt m' r').own? (.name k) = some p) :
    ¬Alike m m' (.object r) (.object r') := by
  intro h
  rcases h.own hr k with ⟨-, hnone'⟩ | ⟨v, w, hv, -, -⟩
  · rw [hnone'] at hsome
    cases hsome
  · rw [hnone] at hv
    cases hv

/-- The key that an expression takes as a prototype. -/
def prototypeName : Name := Utf16.ofString "__proto__"

theorem isNamed_prototype {k : Name} :
    (PropertyKey.name k).isNamed "__proto__" = true ↔ k = prototypeName := by
  simp [PropertyKey.isNamed, prototypeName]

/-- No entry of an expression is a member of the name of the prototype. -/
theorem own_placedEntries (es : List (HostValue × HostValue)) : ∀ (i : Nat) {o : Object}, IsOpen o →
    o.own? (.name prototypeName) = none → IsOpen (placedEntries x i o es).1 ∧
      (placedEntries x i o es).1.own? (.name prototypeName) = none := by
  induction es with
  | nil => exact fun _ _ ho hnone => ⟨ho, hnone⟩
  | cons e es ih =>
      obtain ⟨k, v⟩ := e
      intro i o ho hnone
      refine ih _ (isOpen_withMember ho _ _) ?_
      unfold withMember
      split
      · unfold withPrototype
        split
        · exact hnone
        · exact hnone
        · exact hnone
      · rename_i hk
        rw [own_withProperty ho.kind, if_neg fun heq => hk (isNamed_prototype.mpr heq.symm)]
        exact hnone

theorem names_memberData (es : List (HostValue × HostValue)) :
    (memberData es).map (·.1) = es.map fun e => keyString e.1 := by
  induction es with
  | nil => rfl
  | cons e es ih => simp [memberData, ih]

/-- Every member that is read is an own member. -/
theorem own_builtMembers (ms : List (Name × Library.JsonText.Data)) (k : Name) :
    ∀ (j : Nat) {o : Object}, IsOpen o →
      ((∃ p, o.own? (.name k) = some p) ∨ k ∈ ms.map (·.1)) →
      ∃ p, (builtMembers j o ms).1.own? (.name k) = some p := by
  induction ms with
  | nil => exact fun _ _ _ h => h.resolve_right (by simp)
  | cons e ms ih =>
      obtain ⟨l, d⟩ := e
      intro j o ho h
      refine ih _ (isOpen_withProperty ho _ _) ?_
      rw [own_withProperty ho.kind]
      by_cases hkl : k = l
      · exact .inl ⟨_, if_pos hkl⟩
      · rw [if_neg hkl]
        exact h.imp_right fun hmem => (List.mem_cons.mp hmem).resolve_left hkl

/-! ## The two ways -/

/-- A text of plain characters comes back from the engine as it was. -/
theorem toText_ofText {t : Text} (h : IsClean t) : (Utf16.ofText t).toText = t := by
  unfold Utf16.toText
  rw [ofText_units, List.toList_toArray]
  induction t with
  | nil => rfl
  | cons c t ih =>
      have hc := h c List.mem_cons_self
      have hunit : c.val.toUInt16.toNat = c.val := by
        rw [Nat.toUInt16_eq, UInt16.toNat_ofNat']
        omega
      have hencode : Utf16.encode (c :: t) = c.val.toUInt16 :: Utf16.encode t := by
        unfold Utf16.encode
        rw [List.flatMap_cons, Utf16.encodePoint, if_pos (by omega)]
        rfl
      have hlow : Utf16.isHigh c.val.toUInt16 = false := by
        unfold Utf16.isHigh
        rw [hunit]
        simp
        omega
      have hrest := ih fun d hd => h d (List.mem_cons_of_mem c hd)
      rw [hencode]
      cases hunits : Utf16.encode t with
      | nil =>
          rw [hunits] at hrest
          rw [← hrest]
          change [CodePoint.ofNat c.val.toUInt16.toNat] = [c]
          rw [hunit, CodePoint.ofNat_val]
      | cons u units =>
          rw [hunits] at hrest
          rw [Utf16.decode, hlow, hunit, CodePoint.ofNat_val, hrest]
          rfl

variable {n : Nat} {host : Engine.HostCall σ} {I : Interp τ} {v d : HostValue} {t : Text}
  {es : List (HostValue × HostValue)} {s : Machine × σ} {s' : Machine × τ}

/-- A script that reads the text of data makes the objects of what it denotes. -/
theorem parse_written (hfinite : IsFinite d) (ht : Json.write Json.wire d = .ok t) :
    Library.jsonFunction I .parse #[.string (Utf16.ofText t)] s' =
      .ok (built s'.1.objects.size (datum d)).1
        (withObjects (built s'.1.objects.size (datum d)).2 s') := by
  have hvalue : Library.JsonText.readValue I t s' =
      .ok (built s'.1.objects.size (datum d)).1
        (withObjects (built s'.1.objects.size (datum d)).2 s') := by
    unfold Library.JsonText.readValue
    rw [read_written hfinite ht]
    exact build_run _ _
  have htext : toText I (Library.arg #[.string (Utf16.ofText t)] 0) s' = .ok (Utf16.ofText t) s' := rfl
  unfold Library.jsonFunction
  dsimp only
  rw [bind_ok htext, toText_ofText (isClean_write d ht), bind_ok hvalue]
  rfl

/-- A script that is the text of data places the data. -/
theorem run_written (hd : IsDatum d) (hfinite : IsFinite d) (ht : Json.write Json.wire d = .ok t)
    (hlevels : levels d < n) (x : Specials) :
    Statement.runScript (Engine.interp host n) (parenthesized t) s =
      .ok (placed x s.1.objects.size d).1 (withObjects (placed x s.1.objects.size d).2 s) := by
  obtain ⟨k, rfl⟩ : ∃ k, n = k + 1 := ⟨n - 1, by omega⟩
  exact runScript_datum hd ht (by omega) (.inl hfinite)

/-- The two ways into the engine agree: a script that is the text of the image of a host value, and
the text as a script reads it, give values with the same structure, if no float of the image is
infinite or no number and no key of it is taken as a prototype. -/
theorem encodings_agree (hkeyed : WellKeyed v) (himage : v.image = .ok d)
    (ht : Json.write Json.wire d = .ok t) (hfinite : IsFinite d) (howns : HasOwnKeys d)
    (hlevels : levels d < n) (host : Engine.HostCall σ) (s : Machine × σ) (I : Interp τ)
    (s' : Machine × τ) :
    ∃ w w' s₁ s₁',
      Statement.runScript (Engine.interp host n) (parenthesized t) s = .ok w s₁ ∧
      Library.jsonFunction I .parse #[.string (Utf16.ofText t)] s' = .ok w' s₁' ∧
      Alike s₁.1 s₁'.1 w w' := by
  have hd := isDatum_image v hkeyed himage
  let x : Specials := ⟨Binary.nan, Binary.infinity false⟩
  refine ⟨_, _, _, _, run_written hd hfinite ht hlevels x, parse_written hfinite ht, ?_⟩
  exact alike_anywhere hd hfinite howns _ _ (standing_withObjects _ _) (standing_withObjects _ _)

/-- A dictionary in a dictionary is alike in the engine of an instance, on both ways. -/
theorem nested_dictionary_is_alike :
    let v : HostValue := .dict [(.str "a", .tuple [.int (-1), .str "é"]), (.str "", .dict [])]
    ∃ d t w w' s₁ s₁', v.image = .ok d ∧ Json.write Json.wire d = .ok t ∧
      Statement.runScript ScriptEngine.evaluator (parenthesized t) ScriptEngine.fresh = .ok w s₁ ∧
      Library.jsonFunction ScriptEngine.evaluator .parse #[.string (Utf16.ofText t)]
        ScriptEngine.fresh = .ok w' s₁' ∧ Alike s₁.1 s₁'.1 w w' := by
  intro v
  obtain ⟨w, w', s₁, s₁', hscript, hparse, halike⟩ := encodings_agree (v := v) (n := Engine.nesting)
    ⟨by unfold DistinctKeys; decide, ⟨trivial, trivial, trivial⟩,
      ⟨by unfold DistinctKeys; decide, trivial⟩, trivial⟩ rfl rfl
    ⟨⟨trivial, trivial, trivial⟩, trivial, trivial⟩
    ⟨by decide, ⟨trivial, trivial, trivial⟩, by decide, trivial, trivial⟩ (by decide)
    ScriptEngine.hostCall ScriptEngine.fresh ScriptEngine.evaluator ScriptEngine.fresh
  exact ⟨_, _, w, w', s₁, s₁', rfl, rfl, hscript, hparse, halike⟩

/-- An object with a member of the name of the prototype is not alike, on whichever way it comes. -/
theorem prototype_key_is_lost (hkey : ∃ e ∈ es, keyString e.1 = prototypeName) :
    ¬Alike (withObjects (placed x s.1.objects.size (.dict es)).2 s).1
      (withObjects (built s'.1.objects.size (datum (.dict es))).2 s').1
      (placed x s.1.objects.size (.dict es)).1 (built s'.1.objects.size (datum (.dict es))).1 := by
  have hopen : emptyObject.own? (.name prototypeName) = none := by
    simp [Object.own?, emptyObject, Object.bare, PropertyTable.get?, PropertyTable.place?,
      PropertyTable.empty]
  obtain ⟨hordinary, hnone⟩ :=
    own_placedEntries (x := x) es (s.1.objects.size + 1) isOpen_emptyObject hopen
  obtain ⟨e, he, hname⟩ := hkey
  have hmem : prototypeName ∈ (memberData es).map (·.1) := by
    rw [names_memberData]
    exact List.mem_map.mpr ⟨e, he, hname⟩
  obtain ⟨p, hsome⟩ := own_builtMembers (memberData es) prototypeName (s'.1.objects.size + 1)
    isOpen_emptyObject (.inr hmem)
  have hplaced : objectAt (withObjects (placed x s.1.objects.size (.dict es)).2 s).1
      ⟨s.1.objects.size⟩ = (placedEntries x (s.1.objects.size + 1) emptyObject es).1 :=
    (standing_cons.mp (standing_withObjects _ s)).1
  have hbuilt : objectAt (withObjects (built s'.1.objects.size (datum (.dict es))).2 s').1
      ⟨s'.1.objects.size⟩ =
        (builtMembers (s'.1.objects.size + 1) emptyObject (memberData es)).1 :=
    (standing_cons.mp (standing_withObjects _ s')).1
  refine not_alike_of_own (k := prototypeName) (p := p) ?_ ?_ ?_
  · rw [hplaced]
    exact hordinary.kind
  · rw [hplaced]
    exact hnone
  · rw [hbuilt]
    exact hsome

/-- A dictionary with such a key comes as two values that are not alike: the expression has a
prototype in the place of a member, and here neither. -/
theorem prototype_key_is_not_alike :
    ∃ t w w' s₁ s₁', HostValue.literal (.dict [(.str "__proto__", .int 1)]) = .ok t ∧
      Statement.runScript ScriptEngine.evaluator (parenthesized t) ScriptEngine.fresh = .ok w s₁ ∧
      Library.jsonFunction ScriptEngine.evaluator .parse #[.string (Utf16.ofText t)]
        ScriptEngine.fresh = .ok w' s₁' ∧ ¬Alike s₁.1 s₁'.1 w w' := by
  have hd : IsDatum (.dict [(.str "__proto__", .int 1)]) :=
    isDatum_dict (by unfold DistinctKeys; decide) (by decide) fun e he => by
      obtain rfl := List.mem_singleton.mp he
      exact .int 1
  have hfinite : IsFinite (.dict [(.str "__proto__", .int 1)]) := ⟨trivial, trivial⟩
  obtain ⟨t, ht⟩ : ∃ t, Json.write Json.wire (.dict [(.str "__proto__", .int 1)]) = .ok t := ⟨_, rfl⟩
  let x : Specials := ⟨Binary.nan, Binary.infinity false⟩
  refine ⟨t, _, _, _, _, ht, run_written hd hfinite ht (by decide) x, parse_written hfinite ht, ?_⟩
  exact prototype_key_is_lost ⟨_, List.mem_singleton_self _, rfl⟩

end ScriptHost.Proofs.Encodings
