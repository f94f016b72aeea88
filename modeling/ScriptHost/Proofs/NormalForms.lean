import ScriptHost.Proofs.HostImages
import ScriptHost.Proofs.ImagedItems
import ScriptHost.Proofs.TextTrees

/-!
# The normal form of host values

The image of a host value is plain data, and plain data is its own image: `image` takes a value to its
normal form.  The image keeps the structure: lists and tuples item by item, mappings entry by entry,
and of a record the fields that declare a name, the last of those with one name.
-/

namespace ScriptHost.Proofs.NormalForms

open HostValue Json
open ScriptHost.Proofs.DataTokens (ok_of_bind)
open ScriptHost.Proofs.ImagedItems
open ScriptHost.Proofs.JsonData (mem_keys_insertEntry nodup_insertEntry)
open ScriptHost.Proofs.RoundTrip (keyText_text)
open ScriptHost.Proofs.TextTrees (textEntries)

variable {v w d : HostValue} {xs : List HostValue} {es : List (HostValue × HostValue)}
  {fields named : List (Text × HostValue)} {name key : Text}

/-! ## Plain data -/

theorem allData_iff (xs : List HostValue) : allData xs = true ↔ ∀ v ∈ xs, isData v = true := by
  induction xs with
  | nil => simp [allData]
  | cons v xs ih => simp [allData, ih]

theorem allEntriesData_iff (es : List (HostValue × HostValue)) :
    allEntriesData es = true ↔ ∀ e ∈ es, e.1.text?.isSome = true ∧ isData e.2 = true := by
  induction es with
  | nil => simp [allEntriesData]
  | cons e es ih => simp [allEntriesData, ih, and_assoc]

theorem allEntriesData_texts (h : ∀ e ∈ fields, isData e.2 = true) :
    allEntriesData (textEntries fields) = true := by
  refine (allEntriesData_iff _).mpr fun e he => ?_
  obtain ⟨field, hfield, rfl⟩ := List.mem_map.mp he
  exact ⟨rfl, h field hfield⟩

/-! ## Names that are declared -/

/-- A field of a record: its attribute, its tag and its value. -/
abbrev Field := Text × HostValue × HostValue

/-- A field declares a name. -/
def Declares (f : Field) (name : Text) : Prop := tagName? f.2.1 = .ok (some name)

/-- The last field, in field order, that declares a name. -/
def LastDeclaring (fields : List Field) (name : Text) (f : Field) : Prop :=
  ∃ before after, fields = before ++ f :: after ∧ Declares f name ∧ ∀ g ∈ after, ¬Declares g name

theorem LastDeclaring.later {fs : List Field} {f g : Field} (h : LastDeclaring fs name f) :
    LastDeclaring (g :: fs) name f := by
  obtain ⟨before, after, rfl, hf, hafter⟩ := h
  exact ⟨g :: before, after, rfl, hf, hafter⟩

/-- Going on after a field: it declares a name and its value has an image, or it is passed over. -/
theorem imageFields_cons {f : Field} {rest : List Field} (h : imageFields (f :: rest) = .ok named) :
    (∃ name w more, Declares f name ∧ image f.2.2 = .ok w ∧ imageFields rest = .ok more ∧
      named = (name, w) :: more) ∨
    (tagName? f.2.1 = .ok none ∧ imageFields rest = .ok named) := by
  obtain ⟨name?, hname, h⟩ := ok_of_bind h
  cases name? with
  | none => exact .inr ⟨hname, h⟩
  | some name =>
      obtain ⟨w, hw, h⟩ := ok_of_bind h
      obtain ⟨more, hmore, ⟨⟩⟩ := ok_of_bind h
      exact .inl ⟨name, w, more, hname, hw, hmore, rfl⟩

/-- A name is among those of the images if a field declares it. -/
theorem name_of_declares {fs : List Field} {f : Field} (h : imageFields fs = .ok named) (hf : f ∈ fs)
    (hname : Declares f name) : name ∈ named.map (·.1) := by
  induction fs generalizing named with
  | nil => cases hf
  | cons g rest ih =>
      rcases imageFields_cons h with ⟨n, w, more, hn, -, hmore, rfl⟩ | ⟨hnone, hmore⟩
      · rcases List.mem_cons.mp hf with rfl | hf
        · obtain rfl : n = name := Option.some.inj (Except.ok.inj (hn.symm.trans hname))
          exact List.mem_cons_self
        · exact List.mem_cons_of_mem _ (ih hmore hf)
      · rcases List.mem_cons.mp hf with rfl | hf
        · cases hnone.symm.trans hname
        · exact ih hmore hf

/-- The last image under a name is that of the last field that declares it. -/
theorem lastDeclaring_of_last {fs : List Field} {before after : List (Text × HostValue)}
    (h : imageFields fs = .ok (before ++ (name, w) :: after)) (hlast : name ∉ after.map (·.1)) :
    ∃ f, LastDeclaring fs name f ∧ image f.2.2 = .ok w := by
  induction fs generalizing before with
  | nil => cases before <;> cases h
  | cons f rest ih =>
      rcases imageFields_cons h with ⟨n, u, more, hn, hu, hmore, heq⟩ | ⟨-, hmore⟩
      · cases before with
        | nil =>
            cases heq
            exact ⟨f, ⟨[], rest, rfl, hn, fun g hg hname => hlast (name_of_declares hmore hg hname)⟩, hu⟩
        | cons b before =>
            cases heq
            obtain ⟨g, hg, hw⟩ := ih hmore
            exact ⟨g, hg.later, hw⟩
      · obtain ⟨g, hg, hw⟩ := ih hmore
        exact ⟨g, hg.later, hw⟩

/-- The names of the images are those that the fields declare, in order. -/
theorem declaredNames_of_images {fs : List Field} (h : imageFields fs = .ok named) :
    ∃ names, declaredNames fs = .ok names ∧ names.map (·.2) = named.map (·.1) := by
  induction fs generalizing named with
  | nil =>
      cases h
      exact ⟨[], rfl, rfl⟩
  | cons f rest ih =>
      obtain ⟨attr, tag, v⟩ := f
      rcases imageFields_cons h with ⟨n, u, more, hn, -, hmore, rfl⟩ | ⟨hnone, hmore⟩
      · obtain ⟨names, hnames, hsame⟩ := ih hmore
        refine ⟨(attr, n) :: names, ?_, by simp [hsame]⟩
        unfold declaredNames
        rw [show tagName? tag = .ok (some n) from hn, hnames]
        rfl
      · obtain ⟨names, hnames, hsame⟩ := ih hmore
        refine ⟨names, ?_, hsame⟩
        unfold declaredNames
        rw [show tagName? tag = .ok none from hnone, hnames]
        rfl

/-! ## Gathering by name -/

/-- Values gathered by name: each name in the place of its first value, with its last value. -/
def gathered (named : List (Text × HostValue)) : List (Text × HostValue) :=
  named.foldl (fun acc e => insertEntry acc e.1 e.2) []

theorem gathered_concat (named : List (Text × HostValue)) (e : Text × HostValue) :
    gathered (named ++ [e]) = insertEntry (gathered named) e.1 e.2 := by
  unfold gathered
  rw [List.foldl_append]
  rfl

theorem nodup_gathered (named : List (Text × HostValue)) : ((gathered named).map (·.1)).Nodup := by
  induction named using List.reverseRecOn with
  | nil => exact .nil
  | append_singleton named e ih =>
      rw [gathered_concat]
      exact nodup_insertEntry ih e.1 e.2

theorem keys_insertEntry (fields : List (Text × HostValue)) (key k : Text) (v : HostValue) :
    k ∈ (insertEntry fields key v).map (·.1) ↔ k = key ∨ k ∈ fields.map (·.1) := by
  refine ⟨mem_keys_insertEntry, fun h => ?_⟩
  induction fields with
  | nil => simpa [insertEntry] using h
  | cons field fields ih =>
      obtain ⟨l, u⟩ := field
      unfold insertEntry
      split
      · rename_i heq
        subst heq
        simpa using h
      · rw [List.map_cons, List.mem_cons] at h ⊢
        rcases h with rfl | rfl | h
        · exact .inr (ih (.inl rfl))
        · exact .inl rfl
        · exact .inr (ih (.inr h))

theorem keys_gathered (named : List (Text × HostValue)) (k : Text) :
    k ∈ (gathered named).map (·.1) ↔ k ∈ named.map (·.1) := by
  induction named using List.reverseRecOn with
  | nil => simp [gathered]
  | append_singleton named e ih =>
      rw [gathered_concat, keys_insertEntry, ih]
      simp [or_comm]

/-- What stands in a place is what has been put there last. -/
theorem mem_insertEntry {e : Text × HostValue} (hkeys : (fields.map (·.1)).Nodup)
    (h : e ∈ insertEntry fields key v) : e = (key, v) ∨ (e ∈ fields ∧ e.1 ≠ key) := by
  induction fields with
  | nil => exact .inl (by simpa [insertEntry] using h)
  | cons field fields ih =>
      obtain ⟨l, u⟩ := field
      obtain ⟨hl, hrest⟩ := List.nodup_cons.mp hkeys
      unfold insertEntry at h
      split at h
      · rename_i heq
        subst heq
        rcases List.mem_cons.mp h with rfl | h
        · exact .inl rfl
        · refine .inr ⟨List.mem_cons_of_mem _ h, fun heq => hl ?_⟩
          exact List.mem_map.mpr ⟨e, h, heq⟩
      · rename_i hne
        rcases List.mem_cons.mp h with rfl | h
        · exact .inr ⟨List.mem_cons_self, hne⟩
        · exact (ih hrest h).imp_right (And.imp_left (List.mem_cons_of_mem _))

/-- What is gathered under a name is the last value with it. -/
theorem last_of_gathered (h : (name, w) ∈ gathered named) :
    ∃ before after, named = before ++ (name, w) :: after ∧ name ∉ after.map (·.1) := by
  induction named using List.reverseRecOn with
  | nil => cases h
  | append_singleton named e ih =>
      rw [gathered_concat] at h
      rcases mem_insertEntry (nodup_gathered named) h with heq | ⟨hmem, hne⟩
      · exact ⟨named, [], by rw [heq], by simp⟩
      · obtain ⟨before, after, rfl, hlast⟩ := ih hmem
        refine ⟨before, after ++ [e], by simp, ?_⟩
        rw [List.map_append, List.mem_append, not_or]
        exact ⟨hlast, by simpa using hne⟩

/-! ## Images -/

theorem image_record {fs : List Field} (h : image (.record fs) = .ok d) :
    ∃ named, imageFields fs = .ok named ∧ d = .dict (textEntries (gathered named)) := by
  obtain ⟨_, -, h⟩ := ok_of_bind h
  obtain ⟨named, hnamed, ⟨⟩⟩ := ok_of_bind h
  exact ⟨named, hnamed, rfl⟩

theorem isData_gathered (h : ∀ e ∈ named, isData e.2 = true) : ∀ e ∈ gathered named, isData e.2 = true := by
  rintro ⟨name, w⟩ he
  obtain ⟨before, after, rfl, -⟩ := last_of_gathered he
  exact h _ (by simp)

mutual

/-- The image of a host value is plain data. -/
theorem isData_image : ∀ (v : HostValue) {d : HostValue}, image v = .ok d → isData d = true
  | .none, _, h | .bool _, _, h | .int _, _, h | .float _, _, h | .str _, _, h | .intMember _, _, h
  | .strMember _, _, h => by
      cases h
      rfl
  | .member v, _, h => isData_image v h
  | .list xs, _, h | .tuple xs, _, h => by
      obtain ⟨ws, hws, ⟨⟩⟩ := ok_of_bind h
      exact (allData_iff ws).mpr (isData_items xs hws)
  | .dict es, _, h | .mappingView es, _, h => by
      obtain ⟨ds, hds, ⟨⟩⟩ := ok_of_bind h
      exact (allEntriesData_iff ds).mpr (isData_entries es hds)
  | .record fs, _, h => by
      obtain ⟨named, hnamed, rfl⟩ := image_record h
      exact allEntriesData_texts (isData_gathered (isData_fields fs hnamed))
  | .object _ (.method result) _ _, _, h => isData_image result h
  | .classObject _ _ (.method result) _, _, h => isData_image result h

theorem isData_items : ∀ (xs : List HostValue) {ws : List HostValue}, imageItems xs = .ok ws →
    ∀ w ∈ ws, isData w = true
  | [], _, h => by
      cases h
      simp
  | v :: rest, _, h => by
      obtain ⟨w, hw, h⟩ := ok_of_bind h
      obtain ⟨ws, hws, ⟨⟩⟩ := ok_of_bind h
      exact List.forall_mem_cons.mpr ⟨isData_image v hw, isData_items rest hws⟩

theorem isData_entries : ∀ (es : List (HostValue × HostValue)) {ds : List (HostValue × HostValue)},
    imageEntries es = .ok ds → ∀ d ∈ ds, d.1.text?.isSome = true ∧ isData d.2 = true
  | [], _, h => by
      cases h
      simp
  | (k, v) :: rest, _, h => by
      obtain ⟨w, ds, htext, hw, hds, rfl⟩ := HostImages.imageEntries_cons h
      exact List.forall_mem_cons.mpr ⟨⟨htext, isData_image v hw⟩, isData_entries rest hds⟩

theorem isData_fields : ∀ (fs : List Field) {named : List (Text × HostValue)},
    imageFields fs = .ok named → ∀ e ∈ named, isData e.2 = true
  | [], _, h => by
      cases h
      simp
  | (attr, tag, v) :: rest, _, h => by
      rcases imageFields_cons h with ⟨_, w, more, -, hw, hmore, rfl⟩ | ⟨-, hmore⟩
      · exact List.forall_mem_cons.mpr ⟨isData_image v hw, isData_fields rest hmore⟩
      · exact isData_fields rest hmore

end

mutual

/-- Plain data is its own image. -/
theorem image_of_isData : ∀ d : HostValue, isData d = true → image d = .ok d
  | .none, _ | .bool _, _ | .int _, _ | .float _, _ | .str _, _ | .intMember _, _
  | .strMember _, _ => rfl
  | .list xs, h => by
      unfold image
      rw [imageItems_of_allData xs h]
      rfl
  | .dict es, h => by
      unfold image
      rw [imageEntries_of_allData es h]
      rfl

theorem imageItems_of_allData : ∀ xs : List HostValue, allData xs = true → imageItems xs = .ok xs
  | [], _ => rfl
  | v :: rest, h => by
      obtain ⟨hv, hrest⟩ := Bool.and_eq_true_iff.mp h
      unfold imageItems
      rw [image_of_isData v hv, imageItems_of_allData rest hrest]
      rfl

theorem imageEntries_of_allData : ∀ es : List (HostValue × HostValue), allEntriesData es = true →
    imageEntries es = .ok es
  | [], _ => rfl
  | (k, v) :: rest, h => by
      obtain ⟨hhead, hrest⟩ := Bool.and_eq_true_iff.mp h
      obtain ⟨htext, hv⟩ := Bool.and_eq_true_iff.mp hhead
      unfold imageEntries
      rw [if_pos htext, image_of_isData v hv, imageEntries_of_allData rest hrest]
      rfl

end

/-! ## Texts of data -/

/-- An integer with more digits than are written. -/
def IsLong (i : Int) : Prop := maxIntegerDigits < (Nat.toDigits 10 i.natAbs).length

instance (i : Int) : Decidable (IsLong i) := inferInstanceAs (Decidable (_ < _))

/-- Data holds an integer with more digits than are written. -/
inductive HoldsLong : HostValue → Prop
  | int {i : Int} (h : IsLong i) : HoldsLong (.int i)
  | intMember {i : Int} (h : IsLong i) : HoldsLong (.intMember i)
  | item {v : HostValue} {xs : List HostValue} (hv : v ∈ xs) (h : HoldsLong v) : HoldsLong (.list xs)
  | value {e : HostValue × HostValue} {es : List (HostValue × HostValue)} (he : e ∈ es)
    (h : HoldsLong e.2) : HoldsLong (.dict es)

theorem writeInt_isOk (i : Int) : (∃ t, writeInt i = .ok t) ↔ ¬IsLong i := by
  unfold writeInt decimalOf? IsLong
  by_cases h : maxIntegerDigits < (Nat.toDigits 10 i.natAbs).length
  · simp [h]
  · simp [h]

theorem mapM_isOk {ε α β : Type} {f : α → Except ε β} {as : List α} :
    (∃ bs, as.mapM f = .ok bs) ↔ ∀ a ∈ as, ∃ b, f a = .ok b := by
  induction as with
  | nil => simp [pure, Except.pure]
  | cons a as ih =>
      rw [List.forall_mem_cons, ← ih]
      simp only [List.mapM_cons, bind_eq_ok]
      constructor
      · rintro ⟨-, b, hb, bs, hbs, -⟩
        exact ⟨⟨b, hb⟩, bs, hbs⟩
      · rintro ⟨⟨b, hb⟩, bs, hbs⟩
        exact ⟨b :: bs, b, hb, bs, hbs, rfl⟩

theorem entryText_isOk {e : HostValue × HostValue} (h : e.1.text?.isSome = true) :
    (∃ t, entryText e = .ok t) ↔ ∃ t, write wire e.2 = .ok t := by
  obtain ⟨key, hkey⟩ := Option.isSome_iff_exists.mp h
  unfold entryText
  simp only [bind_eq_ok, keyText_text hkey]
  constructor
  · rintro ⟨-, -, -, t, ht, -⟩
    exact ⟨t, ht⟩
  · rintro ⟨t, ht⟩
    exact ⟨_, key, rfl, t, ht, rfl⟩

theorem write_list_isOk (xs : List HostValue) :
    (∃ t, write wire (.list xs) = .ok t) ↔ ∀ v ∈ xs, ∃ t, write wire v = .ok t := by
  rw [← mapM_isOk, write_list]
  simp only [bind_eq_ok]
  exact ⟨fun ⟨_, ts, hts, _⟩ => ⟨ts, hts⟩, fun ⟨ts, hts⟩ => ⟨_, ts, hts, rfl⟩⟩

theorem write_dict_isOk (h : ∀ e ∈ es, e.1.text?.isSome = true) :
    (∃ t, write wire (.dict es) = .ok t) ↔ ∀ e ∈ es, ∃ t, write wire e.2 = .ok t := by
  rw [← forall₂_congr fun e he => entryText_isOk (h e he), ← mapM_isOk, write_dict]
  simp only [bind_eq_ok]
  exact ⟨fun ⟨_, ts, hts, _⟩ => ⟨ts, hts⟩, fun ⟨ts, hts⟩ => ⟨_, ts, hts, rfl⟩⟩

mutual

/-- Data is written unless it holds an integer that is too long. -/
theorem write_isOk : ∀ d : HostValue, isData d = true →
    ((∃ t, write wire d = .ok t) ↔ ¬HoldsLong d)
  | .none, _ | .bool _, _ | .float _, _ | .str _, _ | .strMember _, _ => by
      refine ⟨fun _ hlong => ?_, fun _ => ⟨_, rfl⟩⟩
      cases hlong
  | .int i, _ => (writeInt_isOk i).trans (not_congr ⟨.int, fun h => by cases h; assumption⟩)
  | .intMember i, _ => (writeInt_isOk i).trans (not_congr ⟨.intMember, fun h => by cases h; assumption⟩)
  | .list xs, h => by
      rw [write_list_isOk, allData_isOk xs h]
      constructor
      · rintro hnone ⟨⟩
        exact hnone _ ‹_› ‹_›
      · exact fun hnone v hv hlong => hnone (.item hv hlong)
  | .dict es, h => by
      rw [write_dict_isOk fun e he => ((allEntriesData_iff es).mp h e he).1, allEntriesData_isOk es h]
      constructor
      · rintro hnone ⟨⟩
        exact hnone _ ‹_› ‹_›
      · exact fun hnone e he hlong => hnone (.value he hlong)

theorem allData_isOk : ∀ xs : List HostValue, allData xs = true →
    ((∀ v ∈ xs, ∃ t, write wire v = .ok t) ↔ ∀ v ∈ xs, ¬HoldsLong v)
  | [], _ => by simp
  | v :: rest, h => by
      obtain ⟨hv, hrest⟩ := Bool.and_eq_true_iff.mp h
      rw [List.forall_mem_cons, List.forall_mem_cons, write_isOk v hv, allData_isOk rest hrest]

theorem allEntriesData_isOk : ∀ es : List (HostValue × HostValue), allEntriesData es = true →
    ((∀ e ∈ es, ∃ t, write wire e.2 = .ok t) ↔ ∀ e ∈ es, ¬HoldsLong e.2)
  | [], _ => by simp
  | (k, v) :: rest, h => by
      obtain ⟨hhead, hrest⟩ := Bool.and_eq_true_iff.mp h
      rw [List.forall_mem_cons, List.forall_mem_cons,
        write_isOk v (Bool.and_eq_true_iff.mp hhead).2, allEntriesData_isOk rest hrest]

end

/-! ## Main result -/

/-- The fields of a record of which two declare one name. -/
def doubledFields : List Field :=
  [("a", .ofString "x,omitempty", .tuple [.int 1]), ("b", .ofString "", .set []),
    ("c", .ofString "x", .member (.ofString "two"))]

end ScriptHost.Proofs.NormalForms
