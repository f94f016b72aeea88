import Mathlib.Data.List.Forall2
import ScriptHost.Proofs.RoundTrip

/-!
# Images and texts item by item

The image of a list, a tuple or a mapping is made item by item, and so is the text of its image.  What
is first imaged as a whole and then written as a whole has therefore been imaged and written item by
item.
-/

namespace ScriptHost.Proofs.ImagedItems

open HostValue Json
open ScriptHost.Proofs.DataTokens (entryTexts)
open ScriptHost.Proofs.RoundTrip (keyText_text)

variable {ε α β γ : Type} {f : α → Except ε β} {g : β → Except ε γ} {xs : List HostValue}
  {es : List (HostValue × HostValue)} {v w : HostValue} {t : Text}

/-! ## Computations that may fail -/

theorem bind_eq_ok {r : Except ε α} {k : α → Except ε β} {b : β} :
    (r >>= k) = .ok b ↔ ∃ a, r = .ok a ∧ k a = .ok b := by
  cases r with
  | ok a =>
      refine ⟨fun h => ⟨a, rfl, h⟩, ?_⟩
      rintro ⟨_, ⟨⟩, h⟩
      exact h
  | error e =>
      refine ⟨fun h => ?_, ?_⟩
      · cases h
      · rintro ⟨_, ⟨⟩, _⟩

/-- A list goes through if each item does. -/
theorem mapM_eq_ok {as : List α} {bs : List β} :
    as.mapM f = .ok bs ↔ List.Forall₂ (fun a b => f a = .ok b) as bs := by
  induction as generalizing bs with
  | nil =>
      rw [List.mapM_nil, List.forall₂_nil_left_iff]
      exact ⟨fun h => by cases h; rfl, fun h => by rw [h]; rfl⟩
  | cons a as ih =>
      rw [List.mapM_cons, List.forall₂_cons_left_iff, bind_eq_ok]
      refine exists_congr fun b => ?_
      rw [bind_eq_ok]
      constructor
      · rintro ⟨ha, rest, hrest, ⟨⟩⟩
        exact ⟨rest, ha, ih.mp hrest, rfl⟩
      · rintro ⟨rest, ha, hrest, rfl⟩
        exact ⟨ha, rest, ih.mpr hrest, rfl⟩

/-- Going through as a whole twice is going through twice item by item. -/
theorem mapM_twice {as : List α} {cs : List γ} :
    (∃ bs, as.mapM f = .ok bs ∧ bs.mapM g = .ok cs) ↔ as.mapM (fun a => f a >>= g) = .ok cs := by
  simp only [mapM_eq_ok, bind_eq_ok]
  constructor
  · rintro ⟨bs, hf, hg⟩
    induction hf generalizing cs with
    | nil =>
        cases hg
        exact .nil
    | cons ha _ ih =>
        obtain ⟨c, rest, hc, hrest, rfl⟩ := List.forall₂_cons_left_iff.mp hg
        exact .cons ⟨_, ha, hc⟩ (ih hrest)
  · intro h
    induction h with
    | nil => exact ⟨[], .nil, .nil⟩
    | cons ha _ ih =>
        obtain ⟨b, hb, hc⟩ := ha
        obtain ⟨bs, hbs, hcs⟩ := ih
        exact ⟨b :: bs, .cons hb hbs, .cons hc hcs⟩

/-! ## Images -/

theorem imageItems_eq (xs : List HostValue) : imageItems xs = xs.mapM image := by
  induction xs with
  | nil => rfl
  | cons v xs ih => rw [imageItems, ih, List.mapM_cons]

/-- The image of an entry of a mapping; its key is a text. -/
def imageEntry (e : HostValue × HostValue) : Except Fault (HostValue × HostValue) :=
  if e.1.text?.isSome then do return (e.1, ← image e.2) else .error (.keyNotText e.1.typeName)

theorem imageEntries_eq (es : List (HostValue × HostValue)) :
    imageEntries es = es.mapM imageEntry := by
  induction es with
  | nil => rfl
  | cons e es ih =>
      obtain ⟨k, v⟩ := e
      rw [imageEntries, ih, List.mapM_cons, imageEntry]
      cases k.text?.isSome with
      | true => cases image v <;> rfl
      | false => rfl

theorem imageEntry_eq_ok {e d : HostValue × HostValue} :
    imageEntry e = .ok d ↔ e.1.text?.isSome = true ∧ d.1 = e.1 ∧ image e.2 = .ok d.2 := by
  obtain ⟨l, w⟩ := d
  unfold imageEntry
  cases htext : e.1.text?.isSome with
  | false => simp
  | true =>
      rw [if_pos rfl, bind_eq_ok]
      constructor
      · rintro ⟨u, hu, ⟨⟩⟩
        exact ⟨rfl, rfl, hu⟩
      · rintro ⟨-, rfl, hw⟩
        exact ⟨w, hw, rfl⟩

theorem image_list (xs : List HostValue) :
    (HostValue.list xs).image = (do return .list (← xs.mapM image)) := by
  rw [image, imageItems_eq]

theorem image_tuple (xs : List HostValue) : (HostValue.tuple xs).image = (HostValue.list xs).image := by
  rw [image, image]

theorem image_dict (es : List (HostValue × HostValue)) :
    (HostValue.dict es).image = (do return .dict (← es.mapM imageEntry)) := by
  rw [image, imageEntries_eq]

theorem image_mappingView (es : List (HostValue × HostValue)) :
    (HostValue.mappingView es).image = (HostValue.dict es).image := by
  rw [image, image]

/-! ## Texts -/

theorem writeItems_eq (style : Style) (xs : List HostValue) :
    writeItems style xs = xs.mapM (write style) := by
  induction xs with
  | nil => rfl
  | cons v xs ih => rw [writeItems, ih, List.mapM_cons]

/-- The text of an entry of a dictionary. -/
def entryText (e : HostValue × HostValue) : Except Fault Text := do
  return writeString true (← keyText e.1) ++ ": " ++ (← write wire e.2)

theorem entryTexts_eq (es : List (HostValue × HostValue)) : entryTexts es = es.mapM entryText := by
  induction es with
  | nil => rfl
  | cons e es ih =>
      unfold entryTexts at ih ⊢
      rw [writeEntries, List.mapM_cons, ih, List.mapM_cons]
      rfl

theorem write_list (xs : List HostValue) :
    write wire (.list xs) = (do return bracketed "[" "]" (← xs.mapM (write wire))) := by
  rw [write, writeItems_eq]

theorem write_dict (es : List (HostValue × HostValue)) :
    write wire (.dict es) = (do return bracketed "\x7b" "\x7d" (← es.mapM entryText)) := by
  rw [← entryTexts_eq, write]
  rfl

/-! ## Literals -/

/-- The literal of an entry, after its key. -/
def entryLiteral (e : HostValue × HostValue) : Except Fault Text := imageEntry e >>= entryText

theorem literal_list : (HostValue.list xs).literal = .ok t ↔
    ∃ ts, xs.mapM literal = .ok ts ∧ t = bracketed "[" "]" ts := by
  have hpasses (ts : List Text) : xs.mapM literal = .ok ts ↔
      ∃ ws, xs.mapM image = .ok ws ∧ ws.mapM (write wire) = .ok ts := mapM_twice.symm
  change (HostValue.list xs).image >>= write wire = _ ↔ _
  rw [image_list]
  constructor
  · intro h
    obtain ⟨w, hw, ht⟩ := bind_eq_ok.mp h
    obtain ⟨ws, hws, ⟨⟩⟩ := bind_eq_ok.mp hw
    rw [write_list] at ht
    obtain ⟨ts, hts, ⟨⟩⟩ := bind_eq_ok.mp ht
    exact ⟨ts, (hpasses ts).mpr ⟨ws, hws, hts⟩, rfl⟩
  · rintro ⟨ts, hts, rfl⟩
    obtain ⟨ws, hws, htexts⟩ := (hpasses ts).mp hts
    refine bind_eq_ok.mpr ⟨.list ws, bind_eq_ok.mpr ⟨ws, hws, rfl⟩, ?_⟩
    rw [write_list]
    exact bind_eq_ok.mpr ⟨ts, htexts, rfl⟩

theorem literal_dict : (HostValue.dict es).literal = .ok t ↔
    ∃ ts, es.mapM entryLiteral = .ok ts ∧ t = bracketed "\x7b" "\x7d" ts := by
  have hpasses (ts : List Text) : es.mapM entryLiteral = .ok ts ↔
      ∃ ds, es.mapM imageEntry = .ok ds ∧ ds.mapM entryText = .ok ts := mapM_twice.symm
  change (HostValue.dict es).image >>= write wire = _ ↔ _
  rw [image_dict]
  constructor
  · intro h
    obtain ⟨w, hw, ht⟩ := bind_eq_ok.mp h
    obtain ⟨ds, hds, ⟨⟩⟩ := bind_eq_ok.mp hw
    rw [write_dict] at ht
    obtain ⟨ts, hts, ⟨⟩⟩ := bind_eq_ok.mp ht
    exact ⟨ts, (hpasses ts).mpr ⟨ds, hds, hts⟩, rfl⟩
  · rintro ⟨ts, hts, rfl⟩
    obtain ⟨ds, hds, htexts⟩ := (hpasses ts).mp hts
    refine bind_eq_ok.mpr ⟨.dict ds, bind_eq_ok.mpr ⟨ds, hds, rfl⟩, ?_⟩
    rw [write_dict]
    exact bind_eq_ok.mpr ⟨ts, htexts, rfl⟩

/-- The literal of an entry is that of its value, after its key. -/
theorem entryLiteral_eq_ok {k : HostValue} : entryLiteral (k, v) = .ok t ↔
    ∃ key u, k.text? = some key ∧ v.literal = .ok u ∧ t = writeString true key ++ ": " ++ u := by
  unfold entryLiteral
  rw [bind_eq_ok]
  constructor
  · rintro ⟨⟨l, w⟩, hd, ht⟩
    obtain ⟨htext, rfl, hw⟩ := imageEntry_eq_ok.mp hd
    obtain ⟨key, hkey⟩ := Option.isSome_iff_exists.mp htext
    obtain ⟨s, hs, h⟩ := bind_eq_ok.mp ht
    obtain ⟨u, hu, ⟨⟩⟩ := bind_eq_ok.mp h
    obtain rfl : key = s := Except.ok.inj ((keyText_text hkey).symm.trans hs)
    exact ⟨key, u, hkey, bind_eq_ok.mpr ⟨w, hw, hu⟩, rfl⟩
  · rintro ⟨key, u, hkey, hu, rfl⟩
    obtain ⟨w, hw, hu⟩ := bind_eq_ok.mp hu
    refine ⟨(k, w), imageEntry_eq_ok.mpr ⟨Option.isSome_of_eq_some hkey, rfl, hw⟩, ?_⟩
    exact bind_eq_ok.mpr ⟨key, keyText_text hkey, bind_eq_ok.mpr ⟨u, hu, rfl⟩⟩

end ScriptHost.Proofs.ImagedItems
