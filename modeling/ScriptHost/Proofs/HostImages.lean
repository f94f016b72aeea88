import ScriptHost.Host.Image
import ScriptHost.Proofs.DataTrees
import ScriptHost.Proofs.JsonData

/-!
# Images of host values

The image of a host value is plain data.  The host promises that no dictionary has a key twice, and
so no object of the image has.
-/

namespace ScriptHost.Proofs.HostImages

open HostValue
open ScriptHost.Proofs.DataTokens
open ScriptHost.Proofs.DataTrees
open ScriptHost.Proofs.JsonData (nodup_insertEntry)

variable {es : List (HostValue × HostValue)} {fields : List (Text × HostValue)} {t : Text}

/-! ## Keys -/

/-- No text is the key of two entries. -/
def DistinctKeys (es : List (HostValue × HostValue)) : Prop := (es.filterMap (·.1.text?)).Nodup

mutual

/-- In all that the image of a value is made of, no dictionary has a key twice. -/
def WellKeyed : HostValue → Prop
  | .member v => WellKeyed v
  | .list xs | .tuple xs => AllWellKeyed xs
  | .dict es | .mappingView es => DistinctKeys es ∧ EntriesWellKeyed es
  | .record fields => FieldsWellKeyed fields
  | .object _ (.method result) _ _ => WellKeyed result
  | .classObject _ _ (.method result) _ => WellKeyed result
  | _ => True

/-- All items are well keyed. -/
def AllWellKeyed : List HostValue → Prop
  | [] => True
  | v :: rest => WellKeyed v ∧ AllWellKeyed rest

/-- All values of entries are well keyed. -/
def EntriesWellKeyed : List (HostValue × HostValue) → Prop
  | [] => True
  | (_, v) :: rest => WellKeyed v ∧ EntriesWellKeyed rest

/-- All values of fields are well keyed. -/
def FieldsWellKeyed : List (Text × HostValue × HostValue) → Prop
  | [] => True
  | (_, _, v) :: rest => WellKeyed v ∧ FieldsWellKeyed rest

end

theorem map_texts (h : ∀ e ∈ es, e.1.text?.isSome = true) :
    es.map (fun e => e.1.text?) = (es.filterMap (·.1.text?)).map some := by
  induction es with
  | nil => rfl
  | cons e es ih =>
      obtain ⟨t, ht⟩ := Option.isSome_iff_exists.mp (h e List.mem_cons_self)
      simp [ht, ih fun d hd => h d (List.mem_cons_of_mem e hd)]

theorem isDatum_dict (hkeys : DistinctKeys es) (htexts : ∀ e ∈ es, e.1.text?.isSome = true)
    (h : ∀ e ∈ es, IsDatum e.2) : IsDatum (.dict es) := by
  refine .dict ?_ htexts h
  rw [map_texts htexts]
  exact List.pairwise_map.mpr (hkeys.imp fun hne heq => hne (Option.some.inj heq))

/-! ## Records -/

theorem isDatum_insertEntry (h : ∀ e ∈ fields, IsDatum e.2) (key : Text) {v : HostValue}
    (hv : IsDatum v) : ∀ e ∈ insertEntry fields key v, IsDatum e.2 := by
  induction fields with
  | nil => simpa [insertEntry] using hv
  | cons field fields ih =>
      obtain ⟨k, w⟩ := field
      obtain ⟨hhead, hrest⟩ := List.forall_mem_cons.mp h
      unfold insertEntry
      split
      · exact List.forall_mem_cons.mpr ⟨hv, hrest⟩
      · exact List.forall_mem_cons.mpr ⟨hhead, ih hrest⟩

/-- The fields of a record, gathered by name, are the entries of a dictionary. -/
theorem isDatum_gathered {named : List (Text × HostValue)} (hnamed : ∀ e ∈ named, IsDatum e.2)
    (hkeys : (fields.map (·.1)).Nodup) (h : ∀ e ∈ fields, IsDatum e.2) :
    IsDatum (.dict ((named.foldl (fun acc e => insertEntry acc e.1 e.2) fields).map fun e =>
      (.str e.1, e.2))) := by
  induction named generalizing fields with
  | nil =>
      refine isDatum_dict ?_ ?_ ?_
      · unfold DistinctKeys
        rw [List.foldl_nil, List.filterMap_map]
        have hnames : (fun e : HostValue × HostValue => e.1.text?) ∘
            (fun e : Text × HostValue => (.str e.1, e.2)) = fun e => some e.1 := rfl
        rw [hnames, List.filterMap_eq_map']
        exact hkeys
      · intro e he
        obtain ⟨field, _, rfl⟩ := List.mem_map.mp he
        rfl
      · intro e he
        obtain ⟨field, hfield, rfl⟩ := List.mem_map.mp he
        exact h field hfield
  | cons e named ih =>
      obtain ⟨hhead, hrest⟩ := List.forall_mem_cons.mp hnamed
      exact ih hrest (nodup_insertEntry hkeys e.1 e.2) (isDatum_insertEntry h e.1 hhead)

/-! ## Images -/

theorem imageEntries_cons {k v : HostValue} {images : List (HostValue × HostValue)}
    (h : imageEntries ((k, v) :: es) = .ok images) :
    ∃ w rest, k.text?.isSome = true ∧ image v = .ok w ∧ imageEntries es = .ok rest ∧
      images = (k, w) :: rest := by
  unfold imageEntries at h
  split at h
  · rename_i htext
    obtain ⟨w, hw, h⟩ := ok_of_bind h
    obtain ⟨rest, hrest, h⟩ := ok_of_bind h
    cases h
    exact ⟨w, rest, htext, hw, hrest, rfl⟩
  · cases h

/-- The image of a mapping has its keys. -/
theorem keys_imageEntries {images : List (HostValue × HostValue)}
    (h : imageEntries es = .ok images) : images.map (·.1) = es.map (·.1) := by
  induction es generalizing images with
  | nil =>
      cases h
      rfl
  | cons e es ih =>
      obtain ⟨w, rest, -, -, hrest, rfl⟩ := imageEntries_cons h
      rw [List.map_cons, List.map_cons, ih hrest]

theorem distinctKeys_imageEntries {images : List (HostValue × HostValue)} (hkeys : DistinctKeys es)
    (h : imageEntries es = .ok images) : DistinctKeys images := by
  have htexts (es : List (HostValue × HostValue)) :
      es.filterMap (·.1.text?) = (es.map (·.1)).filterMap HostValue.text? := by
    rw [List.filterMap_map]
    rfl
  unfold DistinctKeys at hkeys ⊢
  rw [htexts, keys_imageEntries h, ← htexts]
  exact hkeys

mutual

/-- The image of a host value is plain data. -/
theorem isDatum_image : ∀ (v : HostValue) {w : HostValue}, WellKeyed v → image v = .ok w → IsDatum w
  | .none, _, _, h => by cases h; exact .none
  | .bool b, _, _, h => by cases h; exact .bool b
  | .int i, _, _, h => by cases h; exact .int i
  | .float x, _, _, h => by cases h; exact .float x
  | .str t, _, _, h => by cases h; exact .str t
  | .intMember i, _, _, h => by cases h; exact .intMember i
  | .strMember t, _, _, h => by cases h; exact .strMember t
  | .member v, _, hv, h => isDatum_image v hv h
  | .list xs, _, hv, h => by
      obtain ⟨images, himages, h⟩ := ok_of_bind h
      cases h
      exact .list (isDatum_imageItems xs hv himages)
  | .tuple xs, _, hv, h => by
      obtain ⟨images, himages, h⟩ := ok_of_bind h
      cases h
      exact .list (isDatum_imageItems xs hv himages)
  | .dict es, _, hv, h => by
      obtain ⟨images, himages, h⟩ := ok_of_bind h
      cases h
      have hentries := isDatum_imageEntries es hv.2 himages
      exact isDatum_dict (distinctKeys_imageEntries hv.1 himages) (fun e he => (hentries e he).1)
        fun e he => (hentries e he).2
  | .mappingView es, _, hv, h => by
      obtain ⟨images, himages, h⟩ := ok_of_bind h
      cases h
      have hentries := isDatum_imageEntries es hv.2 himages
      exact isDatum_dict (distinctKeys_imageEntries hv.1 himages) (fun e he => (hentries e he).1)
        fun e he => (hentries e he).2
  | .record fields, _, hv, h => by
      obtain ⟨_, _, h⟩ := ok_of_bind h
      obtain ⟨named, hnamed, h⟩ := ok_of_bind h
      cases h
      exact isDatum_gathered (isDatum_imageFields fields hv hnamed) .nil (by simp)
  | .object _ (.method result) _ _, _, hv, h => isDatum_image result hv h
  | .classObject _ _ (.method result) _, _, hv, h => isDatum_image result hv h

theorem isDatum_imageItems : ∀ (xs : List HostValue) {images : List HostValue}, AllWellKeyed xs →
    imageItems xs = .ok images → ∀ v ∈ images, IsDatum v
  | [], _, _, h => by
      cases h
      simp
  | v :: rest, _, hv, h => by
      obtain ⟨w, hw, h⟩ := ok_of_bind h
      obtain ⟨images, himages, h⟩ := ok_of_bind h
      cases h
      exact List.forall_mem_cons.mpr
        ⟨isDatum_image v hv.1 hw, isDatum_imageItems rest hv.2 himages⟩

theorem isDatum_imageEntries : ∀ (es : List (HostValue × HostValue))
    {images : List (HostValue × HostValue)}, EntriesWellKeyed es → imageEntries es = .ok images →
    ∀ e ∈ images, e.1.text?.isSome = true ∧ IsDatum e.2
  | [], _, _, h => by
      cases h
      simp
  | (k, v) :: rest, _, hv, h => by
      obtain ⟨w, images, htext, hw, himages, rfl⟩ := imageEntries_cons h
      exact List.forall_mem_cons.mpr
        ⟨⟨htext, isDatum_image v hv.1 hw⟩, isDatum_imageEntries rest hv.2 himages⟩

theorem isDatum_imageFields : ∀ (fields : List (Text × HostValue × HostValue))
    {named : List (Text × HostValue)}, FieldsWellKeyed fields → imageFields fields = .ok named →
    ∀ e ∈ named, IsDatum e.2
  | [], _, _, h => by
      cases h
      simp
  | (_, tag, v) :: rest, _, hv, h => by
      obtain ⟨name?, _, h⟩ := ok_of_bind h
      cases name? with
      | none => exact isDatum_imageFields rest hv.2 h
      | some name =>
          obtain ⟨w, hw, h⟩ := ok_of_bind h
          obtain ⟨named, hnamed, h⟩ := ok_of_bind h
          cases h
          exact List.forall_mem_cons.mpr
            ⟨isDatum_image v hv.1 hw, isDatum_imageFields rest hv.2 hnamed⟩

end

end ScriptHost.Proofs.HostImages
