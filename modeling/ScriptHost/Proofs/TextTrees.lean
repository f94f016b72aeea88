import ScriptHost.Proofs.CapabilityPhrases
import ScriptHost.Proofs.Encodings
import ScriptHost.Proofs.HeldData

/-!
# Trees of texts in the engine

Lists and dictionaries with texts at their leaves.  The expression that is written for such a tree
puts on the heap what the engine's writer gives the tree back for, with the members of each record in
the engine's order.
-/

namespace ScriptHost.Proofs.TextTrees

open Json Script Script.Eval
open ScriptHost.Proofs.CapabilityPhrases (isClosed_wellKeyed)
open ScriptHost.Proofs.DataTokens
open ScriptHost.Proofs.DataTrees
open ScriptHost.Proofs.DataValues
open ScriptHost.Proofs.Encodings
open ScriptHost.Proofs.Evaluation
open ScriptHost.Proofs.HeldData
open ScriptHost.Proofs.HostImages
open ScriptHost.Proofs.IntactTexts
open ScriptHost.Proofs.RoundTrip
open ScriptHost.Proofs.Scanning (forall_of_all)

variable {σ α : Type} {m : Machine} {x : Specials} {v d : HostValue} {t u : Text} {i : Nat}
  {xs : List HostValue} {fields : List (Text × HostValue)}

/-! ## Trees -/

/-- The entries of a dictionary with texts for keys. -/
abbrev textEntries (fields : List (Text × HostValue)) : List (HostValue × HostValue) :=
  fields.map fun e => (.str e.1, e.2)

/-- A tree with texts, truth values and nothing at its leaves: lists that an engine can hold, and
dictionaries with texts for keys, none of them twice and none the name of the prototype. -/
inductive IsTextTree : HostValue → Prop
  | none : IsTextTree .none
  | bool (b : Bool) : IsTextTree (.bool b)
  | str {t : Text} (h : t.IsScalar) : IsTextTree (.str t)
  | list {xs : List HostValue} (hlength : xs.length < 2 ^ 32 - 1) (h : ∀ v ∈ xs, IsTextTree v) :
    IsTextTree (.list xs)
  | dict {fields : List (Text × HostValue)} (hkeys : (fields.map (·.1)).Nodup)
    (hscalar : ∀ e ∈ fields, e.1.IsScalar) (hproto : ∀ e ∈ fields, e.1 ≠ prototypeKey)
    (h : ∀ e ∈ fields, IsTextTree e.2) : IsTextTree (.dict (textEntries fields))

/-- The same data, but for the order of the entries of dictionaries. -/
inductive SameData : HostValue → HostValue → Prop
  | none : SameData .none .none
  | bool (b : Bool) : SameData (.bool b) (.bool b)
  | str (t : Text) : SameData (.str t) (.str t)
  | list {items : List (HostValue × HostValue)} (h : ∀ e ∈ items, SameData e.1 e.2) :
    SameData (.list (items.map (·.1))) (.list (items.map (·.2)))
  | dict {members : List (Text × HostValue × HostValue)} {fields : List (Text × HostValue)}
    (h : ∀ e ∈ members, SameData e.2.1 e.2.2) (horder : fields.Perm (members.map fun e => (e.1, e.2.2))) :
    SameData (.dict (textEntries (members.map fun e => (e.1, e.2.1)))) (.dict (textEntries fields))

theorem SameData.of_str (h : SameData (.str t) d) : d = .str t := by
  cases h
  rfl

theorem itemLevels_le {xs : List HostValue} {n : Nat} (h : ∀ v ∈ xs, levels v ≤ n) : itemLevels xs ≤ n := by
  induction xs with
  | nil => exact Nat.zero_le n
  | cons v xs ih =>
      obtain ⟨hv, hxs⟩ := List.forall_mem_cons.mp h
      exact Nat.max_le.mpr ⟨hv, ih hxs⟩

theorem entryLevels_le {es : List (HostValue × HostValue)} {n : Nat} (h : ∀ e ∈ es, levels e.2 ≤ n) :
    entryLevels es ≤ n := by
  induction es with
  | nil => exact Nat.zero_le n
  | cons e es ih =>
      obtain ⟨he, hes⟩ := List.forall_mem_cons.mp h
      exact Nat.max_le.mpr ⟨he, ih hes⟩

/-- The same data nests no deeper. -/
theorem SameData.levels_le (h : SameData v d) : levels d ≤ levels v := by
  induction h with
  | none | bool | str => exact Nat.le_refl _
  | @list items _ ih =>
      refine Nat.succ_le_succ (itemLevels_le fun y hy => ?_)
      obtain ⟨e, he, rfl⟩ := List.mem_map.mp hy
      have hitem := levels_item (List.mem_map_of_mem (f := (·.1)) he)
      exact Nat.le_trans (ih e he) (Nat.le_of_lt_succ hitem)
  | @dict members fields _ horder ih =>
      refine Nat.succ_le_succ (entryLevels_le fun y hy => ?_)
      obtain ⟨f, hf, rfl⟩ := List.mem_map.mp hy
      obtain ⟨e, he, rfl⟩ := List.mem_map.mp (horder.mem_iff.mp hf)
      have hmember : ((.str e.1, e.2.1) : HostValue × HostValue) ∈
          textEntries (members.map fun e => (e.1, e.2.1)) :=
        List.mem_map.mpr ⟨(e.1, e.2.1), List.mem_map.mpr ⟨e, he, rfl⟩, rfl⟩
      exact Nat.le_trans (ih e he) (Nat.le_of_lt_succ (levels_entry hmember))

/-! ## The image of a tree -/

theorem imageItems_self (h : ∀ v ∈ xs, v.image = .ok v) : HostValue.imageItems xs = .ok xs := by
  induction xs with
  | nil => rfl
  | cons v xs ih =>
      obtain ⟨hv, hrest⟩ := List.forall_mem_cons.mp h
      unfold HostValue.imageItems
      rw [hv, ih hrest]
      rfl

theorem imageEntries_self (h : ∀ e ∈ fields, e.2.image = .ok e.2) :
    HostValue.imageEntries (textEntries fields) = .ok (textEntries fields) := by
  induction fields with
  | nil => rfl
  | cons e fields ih =>
      obtain ⟨hv, hrest⟩ := List.forall_mem_cons.mp h
      have hmore := ih hrest
      unfold textEntries at hmore ⊢
      rw [List.map_cons, HostValue.imageEntries, hv, hmore]
      rfl

/-- A tree is its own image. -/
theorem IsTextTree.image (h : IsTextTree v) : v.image = .ok v := by
  induction h with
  | none | bool | str => rfl
  | list _ _ ih =>
      unfold HostValue.image
      rw [imageItems_self ih]
      rfl
  | dict _ _ _ _ ih =>
      unfold HostValue.image
      rw [imageEntries_self ih]
      rfl

theorem keys_textEntries (fields : List (Text × HostValue)) :
    (textEntries fields).map (fun e => e.1.text?) = (fields.map (·.1)).map some := by
  simp [HostValue.text?]

theorem nodup_textEntries (h : (fields.map (·.1)).Nodup) :
    ((textEntries fields).map fun e => e.1.text?).Nodup := by
  rw [keys_textEntries]
  exact List.Nodup.map (Option.some_injective _) h

theorem IsTextTree.isDatum (h : IsTextTree v) : IsDatum v := by
  induction h with
  | none => exact .none
  | bool b => exact .bool b
  | str _ => exact .str _
  | list _ _ ih => exact .list ih
  | dict hkeys _ _ _ ih =>
      refine .dict (nodup_textEntries hkeys) (fun e he => ?_) fun e he => ?_
      · obtain ⟨f, -, rfl⟩ := List.mem_map.mp he
        rfl
      · obtain ⟨f, hf, rfl⟩ := List.mem_map.mp he
        exact ih f hf

theorem IsTextTree.wellKeyed (h : IsTextTree v) : WellKeyed v := by
  induction h with
  | none | bool | str => trivial
  | list _ _ ih => exact isClosed_wellKeyed.list ih
  | dict hkeys _ _ _ ih => exact isClosed_wellKeyed.dict ⟨hkeys, ih⟩

theorem writeItems_ok (h : ∀ v ∈ xs, ∃ t, write wire v = .ok t) : ∃ ts, writeItems wire xs = .ok ts := by
  induction xs with
  | nil => exact ⟨[], rfl⟩
  | cons v xs ih =>
      obtain ⟨⟨t, ht⟩, hrest⟩ := List.forall_mem_cons.mp h
      obtain ⟨ts, hts⟩ := ih hrest
      refine ⟨t :: ts, ?_⟩
      unfold writeItems
      rw [ht, hts]
      rfl

theorem entryTexts_ok (h : ∀ e ∈ fields, ∃ t, write wire e.2 = .ok t) :
    ∃ ts, entryTexts (textEntries fields) = .ok ts := by
  induction fields with
  | nil => exact ⟨[], rfl⟩
  | cons e fields ih =>
      obtain ⟨⟨t, ht⟩, hrest⟩ := List.forall_mem_cons.mp h
      obtain ⟨ts, hts⟩ := ih hrest
      refine ⟨(writeString true e.1 ++ ": " ++ t) :: ts, ?_⟩
      unfold entryTexts textEntries at hts ⊢
      rw [List.map_cons, writeEntries, List.mapM_cons, hts, ht]
      rfl

/-- A tree has a JSON text. -/
theorem IsTextTree.written (h : IsTextTree v) : ∃ t, write wire v = .ok t := by
  induction h with
  | none | bool | str => exact ⟨_, rfl⟩
  | list _ _ ih =>
      obtain ⟨ts, hts⟩ := writeItems_ok ih
      refine ⟨bracketed "[" "]" ts, ?_⟩
      unfold write
      rw [hts]
      rfl
  | dict _ _ _ _ ih =>
      obtain ⟨ts, hts⟩ := entryTexts_ok ih
      refine ⟨bracketed "\x7b" "\x7d" ts, ?_⟩
      unfold write
      change (entryTexts _ >>= fun ts => Except.ok (bracketed "\x7b" "\x7d" ts)) = _
      rw [hts]
      rfl

/-! ## What is received of a tree -/

theorem IsTextTree.isExact (h : IsTextTree v) : IsExact v := by
  induction h with
  | none => exact .none
  | bool b => exact .bool b
  | str h => exact .str h
  | list _ _ ih => exact .list ih
  | dict hkeys hscalar _ _ ih =>
      refine .dict (nodup_textEntries hkeys) (fun e he => ?_) fun e he => ?_
      · obtain ⟨f, hf, rfl⟩ := List.mem_map.mp he
        exact ⟨f.1, rfl, hscalar f hf⟩
      · obtain ⟨f, hf, rfl⟩ := List.mem_map.mp he
        exact ih f hf

theorem plainItems_self (h : ∀ v ∈ xs, plainOf v = v) : plainItems xs = xs := by
  induction xs with
  | nil => rfl
  | cons v xs ih =>
      obtain ⟨hv, hrest⟩ := List.forall_mem_cons.mp h
      unfold plainItems
      rw [hv, ih hrest]

theorem plainEntries_self (h : ∀ e ∈ fields, plainOf e.2 = e.2) :
    plainEntries (textEntries fields) = textEntries fields := by
  induction fields with
  | nil => rfl
  | cons e fields ih =>
      obtain ⟨hv, hrest⟩ := List.forall_mem_cons.mp h
      have hmore := ih hrest
      unfold textEntries at hmore ⊢
      rw [List.map_cons, plainEntries, hv, hmore]
      rfl

theorem IsTextTree.plain (h : IsTextTree v) : plainOf v = v := by
  induction h with
  | none | bool | str => rfl
  | list _ _ ih =>
      unfold plainOf
      rw [plainItems_self ih]
  | dict _ _ _ _ ih =>
      unfold plainOf
      rw [plainEntries_self ih]

/-- What is received of a tree is the tree. -/
theorem IsTextTree.received (h : IsTextTree v) : RoundTrip.received v = v :=
  (received_exact h.isExact).trans h.plain

/-! ## Records on the heap -/

theorem ofText_injective (ht : t.IsScalar) (hu : u.IsScalar) (h : Utf16.ofText t = Utf16.ofText u) :
    t = u := by
  rw [← toText_of_scalar ht, ← toText_of_scalar hu, h]

/-- The keys of a table, if all are names, are those that it was made with in another order. -/
theorem keys_perm {table : PropertyTable} (h : ∀ k ∈ table.entries.toList.map (·.1), ∃ n, k = .name n) :
    table.keys.Perm (table.entries.toList.map (·.1)) := by
  unfold PropertyTable.keys
  generalize table.entries.toList.map (·.1) = all at h ⊢
  dsimp only
  have hindices : ((all.filterMap fun k => k.arrayIndex?.map fun i => (i, k)).map (·.2)) =
      all.filter fun k => k.arrayIndex?.isSome := by
    rw [List.map_filterMap, ← List.filterMap_eq_filter]
    refine List.filterMap_congr fun k _ => ?_
    cases hk : k.arrayIndex? with
    | none => simp [Option.guard, hk]
    | some i => simp [Option.guard, hk]
  have hnone : (all.filter fun _ => false) = [] := List.filter_eq_nil_iff.mpr (by simp)
  have hwhole := List.filter_append_perm (fun k : PropertyKey => k.arrayIndex?.isSome) all
  rw [← hindices, ← List.append_nil (_ ++ _), ← hnone] at hwhole
  refine List.Perm.trans (.append (.append ((List.mergeSort_perm _ _).map _)
    (.of_eq (List.filter_congr fun k hk => ?_))) (.of_eq (List.filter_congr fun k hk => ?_))) hwhole
  · obtain ⟨n, rfl⟩ := h k hk
    simp
  · obtain ⟨n, rfl⟩ := h k hk
    rfl

/-- Of members with names of their own, each is the one of its name. -/
theorem find_name {members : List (Name × α)} {e : Name × α} (hnames : (members.map (·.1)).Nodup)
    (he : e ∈ members) : members.find? (·.1 == e.1) = some e := by
  induction members with
  | nil => cases he
  | cons d members ih =>
      obtain ⟨hnew, hnames⟩ := List.nodup_cons.mp hnames
      rcases List.mem_cons.mp he with rfl | he
      · exact List.find?_cons_of_pos (beq_self_eq_true _)
      · rw [List.find?_cons_of_neg fun heq => hnew ?_, ih hnames he]
        exact List.mem_map.mpr ⟨e, he, (beq_iff_eq.mp heq).symm⟩

/-- Members with names of their own are a record, in the order in which the engine lists them. -/
theorem isRecord_of {r : Ref} {members : List (Name × Value)} (hnames : (members.map (·.1)).Nodup)
    (hr : objectAt m r = recordObject members.toArray) {ordered : List (Name × Value)}
    (horder : ordered.Perm members)
    (hkeys : (recordObject members.toArray).ownKeys = ordered.map fun e => .name e.1) :
    IsRecord m r ordered := by
  have hown (k : Name) : (objectAt m r).own? (.name k) =
      (members.find? (·.1 == k)).map fun e => .plain e.2 := by
    have hrecord := own_recordObject id members.toArray k
    rw [hr]
    simpa using hrecord
  refine ⟨index_lt fun hdefault => ?_, by rw [hr]; rfl, by rw [hr]; rfl, by rw [hr]; exact hkeys,
    fun e he => ?_, fun k hk => ?_⟩
  · have hprototype := congrArg Object.prototype (hr.symm.trans hdefault)
    cases hprototype
  · rw [hown, find_name hnames (horder.mem_iff.mp he)]
    rfl
  · rw [hown, List.find?_eq_none.mpr fun e he heq => hk ?_]
    · rfl
    · exact List.mem_map.mpr ⟨e, horder.mem_iff.mpr he, beq_iff_eq.mp heq⟩

/-- The engine lists the members of a record in some order. -/
theorem ownKeys_recordObject (items : List α) (f : α → Name × Value) :
    ∃ ordered : List α, ordered.Perm items ∧
      (recordObject (items.map f).toArray).ownKeys = (ordered.map f).map fun e => .name e.1 := by
  let table : PropertyTable := ⟨(items.map f).toArray.map fun e => (.name e.1, .plain e.2)⟩
  have hentries : table.entries.toList.map (·.1) = items.map fun e => PropertyKey.name (f e).1 := by
    simp [table]
  have hperm : table.keys.Perm (table.entries.toList.map (·.1)) := keys_perm fun k hk => by
    rw [hentries] at hk
    obtain ⟨e, -, rfl⟩ := List.mem_map.mp hk
    exact ⟨(f e).1, rfl⟩
  rw [hentries] at hperm
  obtain ⟨ordered, hordered, hsame⟩ :=
    (congrFun₂ (List.eq_map_comp_perm fun e => PropertyKey.name (f e).1) _ _).mpr hperm
  exact ⟨ordered, hsame, hordered.trans (by simp [Function.comp_def])⟩

/-! ## Trees on the heap -/

/-- A value of the engine is a tree, but for the order of the members of records. -/
structure IsHeld (m : Machine) (v : HostValue) (w : Value) (d : HostValue) : Prop where
  holds : Holds m w d
  same : SameData v d
  tree : IsTextTree d

/-- Wherever a tree is placed, it is on the heap. -/
def HeldAnywhere (x : Specials) (m : Machine) (v : HostValue) : Prop :=
  ∀ i, Standing m i (placed x i v).2 → ∃ d, IsHeld m v (placed x i v).1 d

/-- A value, its value in the engine, and the data that this is. -/
abbrev Kept := HostValue × Value × HostValue

theorem held_items (h : ∀ v ∈ xs, HeldAnywhere x m v) : ∀ i, Standing m i (placedItems x i xs).2 →
    ∃ kept : List Kept, kept.map (·.1) = xs ∧ (placedItems x i xs).1 = kept.map (·.2.1) ∧
      ∀ e ∈ kept, IsHeld m e.1 e.2.1 e.2.2 := by
  induction xs with
  | nil => exact fun _ _ => ⟨[], rfl, rfl, by simp⟩
  | cons v xs ih =>
      intro i hplaced
      obtain ⟨hfirst, hrest⟩ := standing_append.mp hplaced
      obtain ⟨hv, hxs⟩ := List.forall_mem_cons.mp h
      obtain ⟨d, hd⟩ := hv i hfirst
      obtain ⟨kept, hkept, hvalues, hheld⟩ := ih hxs _ hrest
      refine ⟨(v, (placed x i v).1, d) :: kept, ?_, ?_, List.forall_mem_cons.mpr ⟨hd, hheld⟩⟩
      · simp [hkept]
      · simp [placedItems, hvalues]

/-- The members of a record for the entries of a dictionary. -/
def membersOf (kept : List (Text × Kept)) : List (Name × Value) :=
  kept.map fun e => (Utf16.ofText e.1, e.2.2.1)

/-- The entries of a dictionary for which there are members of a record. -/
def entriesOf (kept : List (Text × Kept)) : List (Text × HostValue) :=
  kept.map fun e => (e.1, e.2.1)

theorem putMember_new {members : List (Name × Value)} {k : Name} (h : k ∉ members.map (·.1)) (w : Value) :
    putMember members.toArray k w = (members ++ [(k, w)]).toArray := by
  have hnone : members.toArray.findIdx? (·.1 == k) = none := by
    refine Array.findIdx?_eq_none_iff.mpr fun e he => beq_eq_false_iff_ne.mpr fun heq => h ?_
    exact List.mem_map.mpr ⟨e, by simpa using he, heq⟩
  unfold putMember
  rw [hnone]
  simp

theorem withMember_key {o : Object} {w : Value} (ht : t.IsScalar) (hproto : t ≠ prototypeKey) :
    withMember o (keyString (.str t)) w = withProperty o (Utf16.ofText t) w := by
  have hnamed : ¬(PropertyKey.name (Utf16.ofText t)).isNamed "__proto__" = true := fun hnamed =>
    hproto (ofText_injective ht (forall_of_all (by decide)) (PropertyKey.name.inj (beq_iff_eq.mp hnamed)))
  exact if_neg hnamed

theorem held_entries (hkeys : (fields.map (·.1)).Nodup) (hscalar : ∀ e ∈ fields, e.1.IsScalar)
    (hproto : ∀ e ∈ fields, e.1 ≠ prototypeKey) (h : ∀ e ∈ fields, HeldAnywhere x m e.2) :
    ∀ (members : List (Name × Value)) i, (∀ e ∈ fields, Utf16.ofText e.1 ∉ members.map (·.1)) →
      Standing m i (placedEntries x i (recordObject members.toArray) (textEntries fields)).2 →
      ∃ kept, entriesOf kept = fields ∧
        (placedEntries x i (recordObject members.toArray) (textEntries fields)).1 =
          recordObject (members ++ membersOf kept).toArray ∧
        ∀ e ∈ kept, IsHeld m e.2.1 e.2.2.1 e.2.2.2 := by
  induction fields with
  | nil => exact fun members _ _ _ => ⟨[], rfl, by simp [membersOf, placedEntries], by simp⟩
  | cons e fields ih =>
      obtain ⟨k, v⟩ := e
      obtain ⟨hnew, hkeys⟩ := List.nodup_cons.mp hkeys
      obtain ⟨hk, hscalar⟩ := List.forall_mem_cons.mp hscalar
      obtain ⟨hkproto, hproto⟩ := List.forall_mem_cons.mp hproto
      obtain ⟨hv, h⟩ := List.forall_mem_cons.mp h
      intro members i hmembers hplaced
      obtain ⟨hkmembers, hmembers⟩ := List.forall_mem_cons.mp hmembers
      unfold textEntries at hplaced ⊢
      rw [List.map_cons, placedEntries] at hplaced ⊢
      dsimp only at hplaced ⊢
      rw [withMember_key hk hkproto, withProperty_recordObject, putMember_new hkmembers] at hplaced ⊢
      obtain ⟨hfirst, hrest⟩ := standing_append.mp hplaced
      obtain ⟨d, hd⟩ := hv i hfirst
      have hlater : ∀ e ∈ fields,
          Utf16.ofText e.1 ∉ (members ++ [(Utf16.ofText k, (placed x i v).1)]).map (·.1) := by
        intro e he hmem
        rw [List.map_append, List.mem_append] at hmem
        rcases hmem with hmem | hmem
        · exact hmembers e he hmem
        · have hsame := ofText_injective (hscalar e he) hk (List.mem_singleton.mp hmem)
          exact hnew (List.mem_map.mpr ⟨e, he, hsame⟩)
      obtain ⟨kept, hkept, hrecord, hheld⟩ := ih hkeys hscalar hproto h _ _ hlater hrest
      refine ⟨(k, v, (placed x i v).1, d) :: kept, ?_, ?_, List.forall_mem_cons.mpr ⟨hd, hheld⟩⟩
      · simp only [entriesOf, List.map_cons] at hkept ⊢
        rw [hkept]
      · refine hrecord.trans ?_
        simp [membersOf]

/-- A tree that is placed is on the heap. -/
theorem IsTextTree.held (h : IsTextTree v) : HeldAnywhere x m v := by
  induction h with
  | none => exact fun _ _ => ⟨.none, .null, .none, .none⟩
  | bool b => exact fun _ _ => ⟨.bool b, .bool b, .bool b, .bool b⟩
  | @str t ht =>
      have hheld : Holds m (.string (Utf16.ofText t)) (.str t) := by
        have hstring := Holds.string (m := m) (Utf16.ofText t)
        rwa [toText_of_scalar ht] at hstring
      exact fun _ _ => ⟨.str t, hheld, .str t, .str ht⟩
  | @list xs hlength _ ih =>
      intro i hplaced
      obtain ⟨hitems, hlast⟩ := standing_append.mp hplaced
      obtain ⟨kept, hkept, hvalues, hheld⟩ := held_items ih i hitems
      have hobject : objectAt m ⟨i + (placedItems x i xs).2.length⟩ =
          listObject (kept.map (·.2.1)).toArray := by
        rw [← hvalues]
        exact (standing_cons.mp hlast).1
      have hsize : kept.length = xs.length := by rw [← hkept, List.length_map]
      refine ⟨.list (kept.map (·.2.2)), ?_, ?_, ?_⟩
      · have hlist : Holds m (.object ⟨i + (placedItems x i xs).2.length⟩)
            (.list ((kept.map (·.2)).map (·.2))) := by
          refine .list (by simpa [Function.comp_def] using hobject) (by simpa [hsize] using hlength)
            fun e he => ?_
          obtain ⟨k, hk, rfl⟩ := List.mem_map.mp he
          exact (hheld k hk).holds
        rw [List.map_map] at hlist
        exact hlist
      · have hsame : SameData (.list ((kept.map fun e => (e.1, e.2.2)).map (·.1)))
            (.list ((kept.map fun e => (e.1, e.2.2)).map (·.2))) := by
          refine .list fun e he => ?_
          obtain ⟨k, hk, rfl⟩ := List.mem_map.mp he
          exact (hheld k hk).same
        simpa [Function.comp_def, hkept] using hsame
      · refine .list (by simpa [hsize] using hlength) fun d hd => ?_
        obtain ⟨k, hk, rfl⟩ := List.mem_map.mp hd
        exact (hheld k hk).tree
  | @dict fields hkeys hscalar hproto _ ih =>
      intro i hplaced
      obtain ⟨hobject, hmore⟩ := standing_cons.mp hplaced
      have hempty : emptyObject = recordObject ([] : List (Name × Value)).toArray := by
        simp [recordObject, emptyObject, Object.bare, PropertyTable.empty]
      rw [hempty] at hobject hmore
      obtain ⟨kept, hkept, hrecord, hheld⟩ :=
        held_entries hkeys hscalar hproto ih [] (i + 1) (fun _ _ => List.not_mem_nil) hmore
      rw [hrecord, List.nil_append] at hobject
      obtain ⟨ordered, horder, hown⟩ :=
        ownKeys_recordObject kept fun e : Text × Kept => (Utf16.ofText e.1, e.2.2.1)
      have hmem {e : Text × Kept} (he : e ∈ ordered) : e ∈ kept := horder.mem_iff.mp he
      have hscalar' : ∀ e ∈ kept, e.1.IsScalar := fun e he =>
        hscalar (e.1, e.2.1) (hkept ▸ List.mem_map_of_mem he)
      have hkeys' : (kept.map (·.1)).Nodup := by
        rw [← hkept] at hkeys
        simpa [entriesOf, Function.comp_def] using hkeys
      have hnames : ((membersOf kept).map (·.1)).Nodup := by
        have htexts := hkeys'.map_on (f := Utf16.ofText) fun t ht u hu heq => by
          obtain ⟨e, he, rfl⟩ := List.mem_map.mp ht
          obtain ⟨f, hf, rfl⟩ := List.mem_map.mp hu
          exact ofText_injective (hscalar' e he) (hscalar' f hf) heq
        simpa [membersOf, Function.comp_def] using htexts
      have hisRecord := isRecord_of hnames hobject (horder.map _) hown
      refine ⟨.dict (textEntries (ordered.map fun e => (e.1, e.2.2.2))), ?_, ?_, ?_⟩
      · have hdict : Holds m (.object ⟨i⟩) (.dict ((ordered.map fun e => (Utf16.ofText e.1, e.2.2)).map
            fun e => (.str e.1.toText, e.2.2))) := by
          refine .record (by simpa [Function.comp_def] using hisRecord) fun e he => ?_
          obtain ⟨k, hk, rfl⟩ := List.mem_map.mp he
          exact (hheld k (hmem hk)).holds
        have htexts : (ordered.map fun e => (HostValue.str (Utf16.ofText e.1).toText, e.2.2.2)) =
            textEntries (ordered.map fun e => (e.1, e.2.2.2)) := by
          unfold textEntries
          rw [List.map_map]
          exact List.map_congr_left fun e he => by
            rw [toText_of_scalar (hscalar' e (hmem he))]
            rfl
        rw [List.map_map] at hdict
        rw [← htexts]
        exact hdict
      · have hsame : SameData
            (.dict (textEntries ((kept.map fun e => (e.1, e.2.1, e.2.2.2)).map fun e => (e.1, e.2.1))))
            (.dict (textEntries (ordered.map fun e => (e.1, e.2.2.2)))) := by
          refine .dict (fun e he => ?_) ?_
          · obtain ⟨k, hk, rfl⟩ := List.mem_map.mp he
            exact (hheld k hk).same
          · rw [List.map_map]
            exact horder.map _
        rw [← hkept]
        simpa [entriesOf, Function.comp_def] using hsame
      · refine .dict ?_ (fun e he => ?_) (fun e he => ?_) fun e he => ?_
        · rw [List.map_map]
          exact (horder.map _).nodup_iff.mpr hkeys'
        · obtain ⟨k, hk, rfl⟩ := List.mem_map.mp he
          exact hscalar' k (hmem hk)
        · obtain ⟨k, hk, rfl⟩ := List.mem_map.mp he
          exact hproto (k.1, k.2.1) (hkept ▸ List.mem_map_of_mem (hmem hk))
        · obtain ⟨k, hk, rfl⟩ := List.mem_map.mp he
          exact (hheld k (hmem hk)).tree

end ScriptHost.Proofs.TextTrees
