import ScriptHost.Builtin.Console
import ScriptHost.Proofs.ReadTexts
import ScriptHost.Proofs.SortedEntries

/-!
# Logged texts are canonical

Trees of data that differ in the order of their entries only are logged alike.  The text of a tree can be read
where it stands among others, so that trees that are logged alike differ in nothing else.
-/

namespace ScriptHost.Proofs.ConsoleTexts

open Json
open ScriptHost.Proofs.DataTexts
open ScriptHost.Proofs.DataTokens (joinWith_cons writeInt_eq)
open ScriptHost.Proofs.JsonMeanings
open ScriptHost.Proofs.NormalForms
open ScriptHost.Proofs.Numerals
open ScriptHost.Proofs.ReadScalars
open ScriptHost.Proofs.ReadTexts
open ScriptHost.Proofs.ReadTokens
open ScriptHost.Proofs.RoundTrip (insertEntry_new)
open ScriptHost.Proofs.ScannedNumbers
open ScriptHost.Proofs.ScannedStrings (eq_of_ascii)
open ScriptHost.Proofs.SortedEntries
open ScriptHost.Proofs.StrictJson
open ScriptHost.Proofs.TextTrees (textEntries)

variable {v w d : HostValue} {t u : Text} {c : CodePoint} {vs ws : List HostValue}

/-! ## Trees -/

/-- Trees of data without floats.  Integers are not too long, and keys are texts that stand once. -/
inductive IsPlainTree : HostValue → Prop
  | none : IsPlainTree .none
  | bool (b : Bool) : IsPlainTree (.bool b)
  | int {i : Int} (h : ¬IsLong i) : IsPlainTree (.int i)
  | str (t : Text) : IsPlainTree (.str t)
  | list {xs : List HostValue} (h : ∀ v ∈ xs, IsPlainTree v) : IsPlainTree (.list xs)
  | dict {fields : List (Text × HostValue)} (hkeys : (fields.map (·.1)).Nodup)
    (h : ∀ e ∈ fields, IsPlainTree e.2) : IsPlainTree (.dict (textEntries fields))

/-- The same tree, but for the order of the entries of dictionaries at any depth. -/
inductive SameTree : HostValue → HostValue → Prop
  | none : SameTree .none .none
  | bool (b : Bool) : SameTree (.bool b) (.bool b)
  | int (i : Int) : SameTree (.int i) (.int i)
  | str (t : Text) : SameTree (.str t) (.str t)
  | list {items : List (HostValue × HostValue)} (h : ∀ e ∈ items, SameTree e.1 e.2) :
    SameTree (.list (items.map (·.1))) (.list (items.map (·.2)))
  | dict {members : List (Text × HostValue × HostValue)} {fields : List (Text × HostValue)}
    (h : ∀ e ∈ members, SameTree e.2.1 e.2.2) (horder : fields.Perm (members.map fun e => (e.1, e.2.2))) :
    SameTree (.dict (textEntries (members.map fun e => (e.1, e.2.1)))) (.dict (textEntries fields))

theorem textEntries_inj {es fs : List (Text × HostValue)} (h : textEntries es = textEntries fs) : es = fs := by
  have hinj : Function.Injective fun e : Text × HostValue => (HostValue.str e.1, e.2) := by
    rintro ⟨s, a⟩ ⟨t, b⟩ hst
    cases hst
    rfl
  exact List.map_injective_iff.mpr hinj h

section Lists

variable {α β γ : Type} {f : α → γ} {g : β → γ}

/-- Lists with the same image stand side by side. -/
theorem exists_pairs {xs : List α} {ys : List β} (h : xs.map f = ys.map g) :
    ∃ ps : List (α × β), ps.map (·.1) = xs ∧ ps.map (·.2) = ys ∧ ∀ p ∈ ps, f p.1 = g p.2 := by
  induction xs generalizing ys with
  | nil =>
      obtain rfl := List.map_eq_nil_iff.mp h.symm
      exact ⟨[], rfl, rfl, by simp⟩
  | cons x xs ih =>
      obtain ⟨y, ys, rfl, hy, hys⟩ := List.map_eq_cons_iff.mp h.symm
      obtain ⟨ps, rfl, rfl, hps⟩ := ih hys.symm
      exact ⟨(x, y) :: ps, rfl, rfl, List.forall_mem_cons.mpr ⟨hy.symm, hps⟩⟩

/-- What maps to a rearrangement is rearranged itself. -/
theorem exists_perm_of_map {xs : List α} {zs : List γ} (h : zs.Perm (xs.map f)) :
    ∃ xs' : List α, xs'.Perm xs ∧ zs = xs'.map f := by
  have hmap : List.Forall₂ (fun z x => z = f x) (xs.map f) xs := by
    rw [List.forall₂_map_left_iff]
    exact List.forall₂_same.mpr fun _ _ => rfl
  obtain ⟨xs', hzs, hperm⟩ := List.perm_comp_forall₂ h hmap
  refine ⟨xs', hperm, ?_⟩
  rw [← List.forall₂_eq_eq_eq, List.forall₂_map_right_iff]
  exact hzs

end Lists

/-- Trees that are the same as one tree are the same. -/
theorem SameTree.of_common (h : SameTree v d) (h' : SameTree w d) : SameTree v w := by
  induction h generalizing w with
  | none =>
      cases h'
      exact .none
  | bool b =>
      cases h'
      exact .bool b
  | int i =>
      cases h'
      exact .int i
  | str t =>
      cases h'
      exact .str t
  | @list items h ih =>
      generalize hd : HostValue.list (items.map (·.2)) = d at h'
      cases h' with
      | @list items' h' =>
          obtain ⟨ps, rfl, rfl, hps⟩ := exists_pairs (HostValue.list.inj hd)
          have hsame := @SameTree.list (ps.map fun p => (p.1.1, p.2.1)) fun e he => by
            obtain ⟨p, hp, rfl⟩ := List.mem_map.mp he
            refine ih p.1 (List.mem_map_of_mem hp) ?_
            rw [hps p hp]
            exact h' p.2 (List.mem_map_of_mem hp)
          simpa only [List.map_map, Function.comp_def] using hsame
      | _ => cases hd
  | @dict members fields h horder ih =>
      generalize hd : HostValue.dict (textEntries fields) = d at h'
      cases h' with
      | @dict members' fields' h' horder' =>
          obtain rfl := textEntries_inj (HostValue.dict.inj hd)
          obtain ⟨ordered, hordered, hmap⟩ := exists_perm_of_map (horder.symm.trans horder')
          obtain ⟨ps, rfl, rfl, hps⟩ := exists_pairs hmap
          have hkey : ∀ p ∈ ps, p.1.1 = p.2.1 ∧ p.1.2.2 = p.2.2.2 := fun p hp => Prod.mk.inj (hps p hp)
          have hsame := @SameTree.dict (ps.map fun p => (p.1.1, p.1.2.1, p.2.2.1))
            (members'.map fun e => (e.1, e.2.1)) ?_ ?_
          · simpa only [List.map_map, Function.comp_def] using hsame
          · intro e he
            obtain ⟨p, hp, rfl⟩ := List.mem_map.mp he
            refine ih p.1 (List.mem_map_of_mem hp) ?_
            rw [(hkey p hp).2]
            exact h' p.2 (hordered.mem_iff.mp (List.mem_map_of_mem hp))
          · refine (hordered.map _).symm.trans (.of_eq ?_)
            rw [List.map_map, List.map_map]
            exact List.map_congr_left fun p hp => by simp [(hkey p hp).1]
      | _ => cases hd

/-! ## What canonical texts mean -/

/-- A code point is written as a unit that stands for it, by number only if it is a control. -/
theorem unit_writePoint (c : CodePoint) :
    ∃ x, UnitMeans (writePoint false c) x ∧ x.point = c ∧ (x.numbered = true → c.val < 0x20) := by
  unfold writePoint
  split
  case h_8 hquote hescape _ _ _ _ _ =>
      split
      · rename_i hcontrol
        obtain ⟨h₁, h₂, h₃, h₄, hescape, hdigits⟩ := unitEscape_digits (show c.val < 0x10000 by omega)
        unfold pointEscape
        rw [if_pos (by omega), hescape]
        exact ⟨_, .numbered hdigits, CodePoint.ofNat_val c, fun _ => hcontrol⟩
      · rename_i hcontrol
        refine ⟨_, .plain (by omega) ?_ ?_, rfl, by simp⟩
        · rintro rfl
          exact hquote rfl
        · rintro rfl
          exact hescape rfl
  all_goals
    rename_i hc
    rw [eq_of_ascii hc (by decide)]
    exact ⟨_, .short (e := (_, _)) (by decide), rfl, by simp⟩

theorem spelled_points {xs : List StringUnit} (h : ∀ x ∈ xs, x.numbered = true → x.point.val < 0x20) :
    spelled xs = xs.map (·.point) := by
  induction xs with
  | nil => rfl
  | cons x xs ih =>
      obtain ⟨hx, hxs⟩ := List.forall_mem_cons.mp h
      rw [List.map_cons, ← ih hxs]
      refine spelled_apart fun hopens => ?_
      obtain ⟨hnumbered, hhigh⟩ := hopens
      have hlow := hx hnumbered
      simp only [CodePoint.isHighSurrogate, Bool.and_eq_true, decide_eq_true_eq] at hhigh
      omega

/-- A text in quotes is written as units that stand for it. -/
theorem string_written (t : Text) : ∃ u xs,
    writeString false t = CodePoint.ofChar '"' :: u ++ [CodePoint.ofChar '"'] ∧ UnitsMean u xs ∧ spelled xs = t := by
  have hunits : ∃ xs, UnitsMean (t.flatMap (writePoint false)) xs ∧ xs.map (·.point) = t ∧
      ∀ x ∈ xs, x.numbered = true → x.point.val < 0x20 := by
    induction t with
    | nil => exact ⟨[], .none, rfl, by simp⟩
    | cons c t ih =>
        obtain ⟨x, hx, hpoint, hlow⟩ := unit_writePoint c
        obtain ⟨xs, hxs, hpoints, hlows⟩ := ih
        refine ⟨x :: xs, .more hx hxs, by rw [List.map_cons, hpoint, hpoints], ?_⟩
        exact List.forall_mem_cons.mpr ⟨hpoint ▸ hlow, hlows⟩
  obtain ⟨xs, hxs, hpoints, hlows⟩ := hunits
  exact ⟨_, xs, rfl, hxs, by rw [spelled_points hlows, hpoints]⟩

theorem isWhole_toDigits (n : Nat) : IsWhole (Nat.toDigits 10 n) := by
  rcases Nat.eq_zero_or_pos n with rfl | hpos
  · exact .zero
  · refine .digits (allDigits_toDigits n) Nat.toDigits_ne_nil fun hzero => ?_
    obtain ⟨ds, hds⟩ := List.head?_eq_some_iff.mp hzero
    exact toDigits_ne_zero hpos ds hds

theorem int_written {i : Int} (h : ¬IsLong i) : ∃ t, writeInt i = .ok t ∧ ValueMeans .loose t (.int i) := by
  obtain ⟨t, ht⟩ := (writeInt_isOk i).mpr h
  refine ⟨t, ht, ?_⟩
  have hadmits : Dialect.loose.Admits (Nat.toDigits 10 i.natAbs).length := by
    rintro n ⟨⟩
    exact Nat.le_of_not_lt h
  have hnumber := NumberMeans.integer (d := .loose) (decide (i < 0)) (isWhole_toDigits i.natAbs) hadmits
  have hvalue : (if decide (i < 0) = true then -(i.natAbs : Int) else i.natAbs) = i := by
    simp only [decide_eq_true_eq]
    split
    · omega
    · omega
  rw [Nat.ofDigitChars_ten_toDigits, hvalue] at hnumber
  rw [writeInt_eq ht, natural_chars]
  exact .number hnumber

/-- A tree with its text and what the text means. -/
structure IsPrinted (v : HostValue) (t : Text) (d : HostValue) : Prop where
  text : write canonical v = .ok t
  means : ValueMeans .loose t d
  same : SameTree v d

theorem itemsMean_joined {items : List (Text × HostValue)} (hne : items ≠ [])
    (h : ∀ i ∈ items, ValueMeans .loose i.1 i.2) :
    ItemsMean .loose (Text.joinWith ", " (items.map (·.1))) (items.map (·.2)) := by
  induction items with
  | nil => exact absurd rfl hne
  | cons i items ih =>
      obtain ⟨hi, hitems⟩ := List.forall_mem_cons.mp h
      have hitem := ItemMeans.spaced isBlank_nil hi isBlank_nil
      rw [List.nil_append, List.append_nil] at hitem
      by_cases hnone : items = []
      · subst hnone
        exact .one hitem
      · have hmore := blank_itemsMean isBlank_space (ih hnone hitems)
        have hjoined := joined_cons [CodePoint.ofChar ' '] i.1
          (show items.map (·.1) ≠ [] by simpa using hnone)
        exact hjoined ▸ .more hitem hmore

theorem membersMean_joined {members : List (Text × Text × HostValue)} (hne : members ≠ [])
    (h : ∀ m ∈ members, ValueMeans .loose m.2.1 m.2.2) :
    MembersMean .loose (Text.joinWith ", " (members.map fun m => writeString false m.1 ++ ": " ++ m.2.1))
      (members.map fun m => (m.1, m.2.2)) := by
  induction members with
  | nil => exact absurd rfl hne
  | cons m members ih =>
      obtain ⟨hm, hmembers⟩ := List.forall_mem_cons.mp h
      obtain ⟨key, xs, hwritten, hkey, hspelled⟩ := string_written m.1
      have hitem := ItemMeans.spaced isBlank_space hm isBlank_nil
      rw [List.append_nil] at hitem
      rw [List.map_cons, List.map_cons, hwritten, ← hspelled]
      by_cases hnone : members = []
      · subst hnone
        have hone := MembersMean.one isBlank_nil hkey isBlank_nil hitem
        simpa [Text.joinWith, Text.ofString] using hone
      · have hmore := blank_membersMean isBlank_space (ih hnone hmembers)
        have hall := MembersMean.more isBlank_nil hkey isBlank_nil hitem hmore
        rw [show Text.ofString ", " = CodePoint.ofChar ',' :: [CodePoint.ofChar ' '] from rfl,
          joined_cons _ _ (by simpa using hnone)]
        simpa [Text.ofString] using hall

theorem means_bracketed {items : List (Text × HostValue)} (h : ∀ i ∈ items, ValueMeans .loose i.1 i.2) :
    ValueMeans .loose (bracketed "[" "]" (items.map (·.1))) (.list (items.map (·.2))) := by
  by_cases hne : items = []
  · subst hne
    exact .emptyList isBlank_nil
  · have hlist := ValueMeans.list (itemsMean_joined hne h)
    simpa [bracketed, Text.ofString] using hlist

theorem gathered_nodup {es : List (Text × HostValue)} (h : (es.map (·.1)).Nodup) : gathered es = es := by
  induction es using List.reverseRecOn with
  | nil => rfl
  | append_singleton es e ih =>
      rw [List.map_append, List.nodup_append] at h
      obtain ⟨hes, -, hnew⟩ := h
      have hkey : e.1 ∉ es.map (·.1) := fun hmem => hnew _ hmem _ (by simp) rfl
      rw [gathered_concat, ih hes, insertEntry_new hkey]

theorem means_braced {members : List (Text × Text × HostValue)} (hkeys : (members.map (·.1)).Nodup)
    (h : ∀ m ∈ members, ValueMeans .loose m.2.1 m.2.2) :
    ValueMeans .loose
      (bracketed "\x7b" "\x7d" (members.map fun m => writeString false m.1 ++ ": " ++ m.2.1))
      (.dict (textEntries (members.map fun m => (m.1, m.2.2)))) := by
  by_cases hne : members = []
  · subst hne
    exact .emptyRecord isBlank_nil
  · have hrecord := ValueMeans.record (membersMean_joined hne h)
    rw [gathered_nodup (by simpa [Function.comp_def] using hkeys)] at hrecord
    simpa [bracketed, Text.ofString] using hrecord

/-- Values that are printed, with their texts and meanings. -/
theorem items_printed {xs : List HostValue} (h : ∀ v ∈ xs, ∃ t d, IsPrinted v t d) :
    ∃ ps : List (HostValue × Text × HostValue), ps.map (·.1) = xs ∧
      writeItems canonical xs = .ok (ps.map (·.2.1)) ∧ ∀ p ∈ ps, IsPrinted p.1 p.2.1 p.2.2 := by
  induction xs with
  | nil => exact ⟨[], rfl, rfl, by simp⟩
  | cons v xs ih =>
      obtain ⟨hv, hxs⟩ := List.forall_mem_cons.mp h
      obtain ⟨t, d, hprinted⟩ := hv
      obtain ⟨ps, rfl, hwrite, hps⟩ := ih hxs
      refine ⟨(v, t, d) :: ps, rfl, ?_, List.forall_mem_cons.mpr ⟨hprinted, hps⟩⟩
      rw [List.map_cons, writeItems, hprinted.text, hwrite]
      rfl

theorem entries_printed {es : List (Text × HostValue)} (h : ∀ e ∈ es, ∃ t d, IsPrinted e.2 t d) :
    ∃ ps : List (Text × HostValue × Text × HostValue), ps.map (fun p => (p.1, p.2.1)) = es ∧
      es.mapM canonicalEntry = .ok (ps.map fun p => writeString false p.1 ++ ": " ++ p.2.2.1) ∧
      ∀ p ∈ ps, IsPrinted p.2.1 p.2.2.1 p.2.2.2 := by
  induction es with
  | nil => exact ⟨[], rfl, rfl, by simp⟩
  | cons e es ih =>
      obtain ⟨he, hes⟩ := List.forall_mem_cons.mp h
      obtain ⟨t, d, hprinted⟩ := he
      obtain ⟨ps, rfl, hwrite, hps⟩ := ih hes
      refine ⟨(e.1, e.2, t, d) :: ps, rfl, ?_, List.forall_mem_cons.mpr ⟨hprinted, hps⟩⟩
      rw [List.mapM_cons, hwrite, canonicalEntry, hprinted.text]
      rfl

theorem list_printed {xs : List HostValue} (h : ∀ v ∈ xs, ∃ t d, IsPrinted v t d) :
    ∃ t d, IsPrinted (.list xs) t d := by
  obtain ⟨ps, rfl, hwrite, hps⟩ := items_printed h
  have hmeans := @means_bracketed (ps.map (·.2)) fun i hi => by
    obtain ⟨p, hp, rfl⟩ := List.mem_map.mp hi
    exact (hps p hp).means
  have hsame := @SameTree.list (ps.map fun p => (p.1, p.2.2)) fun e he => by
    obtain ⟨p, hp, rfl⟩ := List.mem_map.mp he
    exact (hps p hp).same
  rw [List.map_map, List.map_map] at hmeans hsame
  refine ⟨_, _, ?_, hmeans, hsame⟩
  rw [write, hwrite]
  rfl

theorem dict_printed {fields : List (Text × HostValue)} (hkeys : (fields.map (·.1)).Nodup)
    (h : ∀ e ∈ fields, ∃ t d, IsPrinted e.2 t d) : ∃ t d, IsPrinted (.dict (textEntries fields)) t d := by
  have hsorted := sortedByKey_perm fields
  obtain ⟨ps, hps, hwrite, hprinted⟩ := entries_printed fun e he => h e (hsorted.mem_iff.mp he)
  have hnodup : ((ps.map fun p => (p.1, p.2.2)).map (·.1)).Nodup := by
    have hsame : (ps.map fun p => (p.1, p.2.2)).map (·.1) = (sortedByKey fields).map (·.1) := by
      rw [← hps, List.map_map, List.map_map]
      rfl
    rw [hsame]
    exact (hsorted.map _).nodup_iff.mpr hkeys
  have hmeans := means_braced hnodup fun m hm => by
    obtain ⟨p, hp, rfl⟩ := List.mem_map.mp hm
    exact (hprinted p hp).means
  rw [List.map_map, List.map_map] at hmeans
  -- The entries as they stand, next to those in the order of their keys.
  obtain ⟨ps', horder, rfl⟩ := exists_perm_of_map (hps ▸ hsorted.symm)
  have hsame := @SameTree.dict (ps'.map fun p => (p.1, p.2.1, p.2.2.2)) (ps.map fun p => (p.1, p.2.2.2))
    (fun e he => by
      obtain ⟨p, hp, rfl⟩ := List.mem_map.mp he
      exact (hprinted p (horder.mem_iff.mp hp)).same)
    (by
      rw [List.map_map]
      exact horder.symm.map _)
  rw [List.map_map] at hsame
  refine ⟨_, _, ?_, hmeans, hsame⟩
  rw [write_dict, hwrite]
  rfl

/-- A tree has a text, which means the same tree. -/
theorem isPrinted (h : IsPlainTree v) : ∃ t d, IsPrinted v t d := by
  induction h with
  | none => exact ⟨_, _, rfl, .word (w := ("null", .none)) (by simp [Dialect.loose, words]), .none⟩
  | bool b =>
      cases b with
      | false => exact ⟨_, _, rfl, .word (w := ("false", .bool false)) (by simp [Dialect.loose, words]), .bool _⟩
      | true => exact ⟨_, _, rfl, .word (w := ("true", .bool true)) (by simp [Dialect.loose, words]), .bool _⟩
  | @int i h =>
      obtain ⟨t, ht, hmeans⟩ := int_written h
      exact ⟨t, _, ht, hmeans, .int i⟩
  | str s =>
      obtain ⟨u, xs, hwritten, hxs, rfl⟩ := string_written s
      exact ⟨_, _, rfl, hwritten ▸ .string hxs, .str _⟩
  | list _ ih => exact list_printed ih
  | dict hkeys _ ih => exact dict_printed hkeys ih

/-! ## The same tree has the same text -/

theorem write_list (xs : List HostValue) : write canonical (.list xs) = (do
    return bracketed "[" "]" (← writeItems canonical xs)) := by
  rw [write]

theorem writeItems_congr {items : List (HostValue × HostValue)}
    (h : ∀ e ∈ items, write canonical e.1 = write canonical e.2) :
    writeItems canonical (items.map (·.1)) = writeItems canonical (items.map (·.2)) := by
  induction items with
  | nil => rfl
  | cons e items ih =>
      obtain ⟨he, hitems⟩ := List.forall_mem_cons.mp h
      rw [List.map_cons, List.map_cons, writeItems, writeItems, he, ih hitems]

theorem writeMembers_congr {members : List (Text × HostValue × HostValue)}
    (h : ∀ e ∈ members, write canonical e.2.1 = write canonical e.2.2) :
    (members.map fun e => (e.1, e.2.1)).mapM canonicalEntry =
      (members.map fun e => (e.1, e.2.2)).mapM canonicalEntry := by
  induction members with
  | nil => rfl
  | cons e members ih =>
      obtain ⟨he, hmembers⟩ := List.forall_mem_cons.mp h
      rw [List.map_cons, List.map_cons, List.mapM_cons, List.mapM_cons, canonicalEntry, canonicalEntry, he,
        ih hmembers]

/-- The order of entries does not show in the text of a tree. -/
theorem write_same (h : SameTree v w) (htree : IsPlainTree v) : write canonical v = write canonical w := by
  induction h with
  | none | bool | int | str => rfl
  | @list items _ ih =>
      generalize hv : HostValue.list (items.map (·.1)) = v at htree
      cases htree with
      | list htrees =>
          obtain rfl := HostValue.list.inj hv
          rw [write_list, write_list, writeItems_congr fun e he => ih e he (htrees _ (List.mem_map_of_mem he))]
      | _ => cases hv
  | @dict members fields _ horder ih =>
      generalize hv : HostValue.dict (textEntries (members.map fun e => (e.1, e.2.1))) = v at htree
      cases htree with
      | @dict fields' hkeys htrees =>
          obtain rfl := textEntries_inj (HostValue.dict.inj hv)
          have hkeys' : ((members.map fun e => (e.1, e.2.2)).map (·.1)).Nodup := by
            simpa [Function.comp_def] using hkeys
          have hmembers := sortedByKey_perm members
          rw [write_dict, write_dict, ← sortedByKey_eq horder.symm hkeys',
            sortedByKey_map fun e : Text × HostValue × HostValue => e.2.1,
            sortedByKey_map fun e : Text × HostValue × HostValue => e.2.2, writeMembers_congr]
          intro e he
          have he := hmembers.mem_iff.mp he
          exact ih e he (htrees _ (List.mem_map_of_mem he))
      | _ => cases hv

/-! ## Texts among others -/

theorem part_same (h : SameTree v w) (htree : IsPlainTree v) : Console.part v = Console.part w := by
  cases h with
  | str => rfl
  | none | bool | int | list | dict =>
      exact write_same (by constructor <;> assumption) htree

theorem part_ok (h : IsPlainTree v) : ∃ t, Console.part v = .ok t := by
  obtain ⟨t, d, hprinted⟩ := isPrinted h
  cases h with
  | str s => exact ⟨s, rfl⟩
  | none | bool | int | list | dict => exact ⟨t, hprinted.text⟩

theorem parts_ok (h : ∀ v ∈ vs, IsPlainTree v) : ∃ ts, Console.parts vs = .ok ts := by
  induction vs with
  | nil => exact ⟨[], rfl⟩
  | cons v vs ih =>
      obtain ⟨hv, hvs⟩ := List.forall_mem_cons.mp h
      obtain ⟨t, ht⟩ := part_ok hv
      obtain ⟨ts, hts⟩ := ih hvs
      refine ⟨t :: ts, ?_⟩
      rw [Console.parts, ht, hts]
      rfl

theorem parts_same (h : List.Forall₂ SameTree vs ws) (htrees : ∀ v ∈ vs, IsPlainTree v) :
    Console.parts vs = Console.parts ws := by
  induction h with
  | nil => rfl
  | cons hvw _ ih =>
      obtain ⟨hv, hvs⟩ := List.forall_mem_cons.mp htrees
      rw [Console.parts, Console.parts, part_same hvw hv, ih hvs]

/-- Trees that are no texts are logged as they are written. -/
theorem parts_eq_writeItems (htrees : ∀ v ∈ vs, IsPlainTree v) (htexts : ∀ v ∈ vs, ∀ t, v ≠ .str t) :
    Console.parts vs = writeItems canonical vs := by
  induction vs with
  | nil => rfl
  | cons v vs ih =>
      obtain ⟨hv, hvs⟩ := List.forall_mem_cons.mp htrees
      obtain ⟨htext, htexts⟩ := List.forall_mem_cons.mp htexts
      have hpart : Console.part v = write canonical v := by
        cases hv with
        | str t => exact absurd rfl (htext t)
        | none | bool | int | list | dict => rfl
      rw [Console.parts, writeItems, hpart, ih hvs htexts]

/-- A text is read up to the blank after it. -/
theorem readValue_blank (fuel : Nat) {rest : Text} (h : ValueMeans .loose t v) (hfuel : t.length ≤ fuel)
    (hrest : Follows rest) : ∃ next, readValue fuel ⟨0, t ++ rest⟩ = .ok (v, ⟨next, rest⟩) := by
  rcases readsValue (fun _ hw => hw) h fuel 0 rest hfuel hrest with hread | ⟨n, hlong, hadmits, -⟩
  · exact hread
  · exact absurd (hadmits maxIntegerDigits rfl) (Nat.not_le_of_lt hlong)

/-- Texts of values, each after a blank. -/
def spaced (ps : List (Text × HostValue)) : Text := ps.flatMap fun p => CodePoint.ofChar ' ' :: p.1

theorem follows_spaced (ps : List (Text × HostValue)) : Follows (spaced ps) := by
  cases ps with
  | nil => exact follows_nil
  | cons p ps => exact follows_cons (by decide)

/-- Texts of values can be taken apart again. -/
theorem spaced_apart {ps qs : List (Text × HostValue)} (hps : ∀ p ∈ ps, ValueMeans .loose p.1 p.2)
    (hqs : ∀ q ∈ qs, ValueMeans .loose q.1 q.2) (h : spaced ps = spaced qs) : ps.map (·.2) = qs.map (·.2) := by
  induction ps generalizing qs with
  | nil =>
      cases qs with
      | nil => rfl
      | cons q qs => cases h
  | cons p ps ih =>
      cases qs with
      | nil => cases h
      | cons q qs =>
          obtain ⟨hp, hps⟩ := List.forall_mem_cons.mp hps
          obtain ⟨hq, hqs⟩ := List.forall_mem_cons.mp hqs
          have htext : p.1 ++ spaced ps = q.1 ++ spaced qs := by simpa [spaced] using h
          obtain ⟨n, hread⟩ := readValue_blank (p.1.length + q.1.length) hp (by omega) (follows_spaced ps)
          obtain ⟨m, hread'⟩ := readValue_blank (p.1.length + q.1.length) hq (by omega) (follows_spaced qs)
          rw [htext, hread'] at hread
          obtain ⟨hvalue, hrest⟩ := Prod.mk.inj (Except.ok.inj hread)
          rw [List.map_cons, List.map_cons, ← hvalue, ih hps hqs (congrArg Cursor.rest hrest).symm]

theorem joinWith_spaced (p : Text × HostValue) (ps : List (Text × HostValue)) :
    CodePoint.ofChar ' ' :: Text.joinWith " " ((p :: ps).map (·.1)) = spaced (p :: ps) := by
  induction ps generalizing p with
  | nil => simp [spaced, Text.joinWith]
  | cons q ps ih =>
      change CodePoint.ofChar ' ' :: (p.1 ++ Text.ofString " " ++ Text.joinWith " " ((q :: ps).map (·.1))) =
        CodePoint.ofChar ' ' :: p.1 ++ spaced (q :: ps)
      rw [← ih q]
      simp [Text.ofString]

/-- Texts of values between blanks can be taken apart again. -/
theorem joined_apart {ps qs : List (Text × HostValue)} (hps : ∀ p ∈ ps, ValueMeans .loose p.1 p.2)
    (hqs : ∀ q ∈ qs, ValueMeans .loose q.1 q.2)
    (h : Text.joinWith " " (ps.map (·.1)) = Text.joinWith " " (qs.map (·.1))) : ps.map (·.2) = qs.map (·.2) := by
  have hempty {p : Text × HostValue} {ps : List (Text × HostValue)} (hp : ValueMeans .loose p.1 p.2) :
      Text.joinWith " " ((p :: ps).map (·.1)) ≠ [] := by
    obtain ⟨c, u, hu, -⟩ := value_starts (fun _ hw => hw) hp
    rw [List.map_cons, joinWith_cons, hu]
    exact List.cons_ne_nil _ _
  cases ps with
  | nil =>
      cases qs with
      | nil => rfl
      | cons q qs => exact absurd h.symm (hempty (hqs q List.mem_cons_self))
  | cons p ps =>
      cases qs with
      | nil => exact absurd h (hempty (hps p List.mem_cons_self))
      | cons q qs =>
          refine spaced_apart hps hqs ?_
          rw [← joinWith_spaced, ← joinWith_spaced, h]

theorem format_eq {ts : List Text} (h : Console.parts vs = .ok ts) :
    Console.format vs = .ok (Text.joinWith " " ts) := by
  unfold Console.format
  rw [h]
  rfl

/-- Trees that are logged alike are the same. -/
theorem same_of_format (hvs : ∀ v ∈ vs, IsPlainTree v) (hws : ∀ w ∈ ws, IsPlainTree w)
    (hvtexts : ∀ v ∈ vs, ∀ t, v ≠ .str t) (hwtexts : ∀ w ∈ ws, ∀ t, w ≠ .str t)
    (h : Console.format vs = Console.format ws) : List.Forall₂ SameTree vs ws := by
  have hv := parts_eq_writeItems hvs hvtexts
  have hw := parts_eq_writeItems hws hwtexts
  obtain ⟨ps, rfl, hpswritten, hps⟩ := items_printed fun v hv => isPrinted (hvs v hv)
  obtain ⟨qs, rfl, hqswritten, hqs⟩ := items_printed fun w hw => isPrinted (hws w hw)
  rw [format_eq (hv.trans hpswritten), format_eq (hw.trans hqswritten), Except.ok.injEq] at h
  have hmeanings := @joined_apart (ps.map (·.2)) (qs.map (·.2))
    (fun p hp => by
      obtain ⟨i, hi, rfl⟩ := List.mem_map.mp hp
      exact (hps i hi).means)
    (fun q hq => by
      obtain ⟨i, hi, rfl⟩ := List.mem_map.mp hq
      exact (hqs i hi).means)
    (by simpa [List.map_map, Function.comp_def] using h)
  rw [List.map_map, List.map_map] at hmeanings
  obtain ⟨rs, rfl, rfl, hrs⟩ := exists_pairs hmeanings
  rw [List.map_map, List.map_map, List.forall₂_map_left_iff, List.forall₂_map_right_iff, List.forall₂_same]
  intro r hr
  have hfirst := (hps r.1 (List.mem_map_of_mem hr)).same
  have hsecond := (hqs r.2 (List.mem_map_of_mem hr)).same
  have hsame : r.1.2.2 = r.2.2.2 := hrs r hr
  exact hfirst.of_common (hsame ▸ hsecond)

/-- Trees of data are logged as one text, in which the order of entries does not show.  Of trees other than
texts it shows everything else. -/
theorem console_text_is_canonical (hvs : ∀ v ∈ vs, IsPlainTree v) (hws : ∀ w ∈ ws, IsPlainTree w) :
    (∃ t, Console.format vs = .ok t) ∧
      (List.Forall₂ SameTree vs ws → Console.format vs = Console.format ws) ∧
      ((∀ v ∈ vs, ∀ t, v ≠ .str t) → (∀ w ∈ ws, ∀ t, w ≠ .str t) →
        Console.format vs = Console.format ws → List.Forall₂ SameTree vs ws) := by
  obtain ⟨ts, hts⟩ := parts_ok hvs
  refine ⟨⟨_, format_eq hts⟩, fun h => ?_, same_of_format hvs hws⟩
  unfold Console.format
  rw [parts_same h hvs]

/-- A list that both dictionaries below hold. -/
def flags : HostValue := .list [.bool true, .none]

/-- Two dictionaries with the same entries in different orders. -/
def inOrder : HostValue := .dict (textEntries [("a", flags), ("b", .int 1)])

def outOfOrder : HostValue := .dict (textEntries [("b", .int 1), ("a", flags)])

theorem reordered_dictionary_is_logged_alike :
    (∀ v ∈ [inOrder, .int 1], IsPlainTree v) ∧ (∀ w ∈ [outOfOrder, .int 1], IsPlainTree w) ∧
      List.Forall₂ SameTree [inOrder, .int 1] [outOfOrder, .int 1] ∧
      Console.format [inOrder, .int 1] = Console.format [outOfOrder, .int 1] := by
  have hone : IsPlainTree (.int 1) := .int (by decide)
  have hflags : IsPlainTree flags := by
    refine .list fun v hv => ?_
    rcases List.mem_cons.mp hv with rfl | hv
    · exact .bool true
    · rcases List.mem_singleton.mp hv with rfl
      exact .none
  have hvs : ∀ v ∈ [inOrder, .int 1], IsPlainTree v := by
    have hdict : IsPlainTree inOrder := .dict (by decide) (by simpa using ⟨hflags, hone⟩)
    simpa using ⟨hdict, hone⟩
  have hws : ∀ w ∈ [outOfOrder, .int 1], IsPlainTree w := by
    have hdict : IsPlainTree outOfOrder := .dict (by decide) (by simpa using ⟨hone, hflags⟩)
    simpa using ⟨hdict, hone⟩
  have hsame : List.Forall₂ SameTree [inOrder, .int 1] [outOfOrder, .int 1] := by
    have hitems : SameTree flags flags :=
      @SameTree.list [(.bool true, .bool true), (.none, .none)] (by simpa using ⟨.bool true, .none⟩)
    have hdict : SameTree inOrder outOfOrder :=
      @SameTree.dict [("a", flags, flags), ("b", .int 1, .int 1)] _ (by simpa using ⟨hitems, .int 1⟩) (.swap _ _ _)
    exact .cons hdict (.cons (.int 1) .nil)
  exact ⟨hvs, hws, hsame, (console_text_is_canonical hvs hws).2.1 hsame⟩

end ScriptHost.Proofs.ConsoleTexts
