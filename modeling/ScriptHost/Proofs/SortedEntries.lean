import Mathlib.Data.List.Perm.Basic
import ScriptHost.Proofs.TextTrees

/-!
# Entries in the order of their keys

Texts are ordered by their code points.  Entries with keys that stand once have one order only, and this is the
order in which the canonical style writes a dictionary.
-/

namespace ScriptHost.Proofs.SortedEntries

open Json
open ScriptHost.Proofs.TextTrees (textEntries)

variable {α β : Type} {s t u : Text} {xs ys : List (Text × α)}

/-! ## The order of texts -/

theorem lt_iff : Text.lt s t = true ↔ s.map (·.val) < t.map (·.val) := by
  induction s generalizing t with
  | nil =>
      cases t with
      | nil => simp [Text.lt]
      | cons b t => simp [Text.lt]
  | cons a s ih =>
      cases t with
      | nil => simp [Text.lt]
      | cons b t => simp [Text.lt, List.cons_lt_cons_iff, ih]

theorem not_lt_iff : Text.lt s t = false ↔ t.map (·.val) ≤ s.map (·.val) := by
  rw [← Bool.not_eq_true, lt_iff, not_lt]

theorem not_lt_trans (hst : Text.lt t s = false) (htu : Text.lt u t = false) : Text.lt u s = false := by
  rw [not_lt_iff] at *
  exact le_trans hst htu

theorem not_lt_total (s t : Text) : Text.lt t s = false ∨ Text.lt s t = false := by
  rw [not_lt_iff, not_lt_iff]
  exact le_total _ _

theorem eq_of_not_lt (hst : Text.lt t s = false) (hts : Text.lt s t = false) : s = t := by
  rw [not_lt_iff] at *
  have hval := le_antisymm hst hts
  refine List.map_injective_iff.mpr ?_ hval
  rintro ⟨a, ha⟩ ⟨b, hb⟩ hab
  cases hab
  rfl

/-! ## Sorting -/

/-- Entries in the order of their keys. -/
def sortedByKey (xs : List (Text × α)) : List (Text × α) := xs.mergeSort fun a b => !Text.lt b.1 a.1

theorem sortedByKey_perm (xs : List (Text × α)) : (sortedByKey xs).Perm xs := List.mergeSort_perm _ _

theorem sortedByKey_pairwise (xs : List (Text × α)) :
    (sortedByKey xs).Pairwise fun a b => (!Text.lt b.1 a.1) = true := by
  apply List.pairwise_mergeSort
  · intro a b c hab hbc
    rw [Bool.not_eq_true'] at *
    exact not_lt_trans hab hbc
  · intro a b
    simpa using not_lt_total a.1 b.1

/-- Sorting goes by the keys alone. -/
theorem sortedByKey_map (f : Text × α → β) (xs : List (Text × α)) :
    sortedByKey (xs.map fun e => (e.1, f e)) = (sortedByKey xs).map fun e => (e.1, f e) := by
  unfold sortedByKey
  rw [List.map_mergeSort]
  intro a _ b _
  rfl

/-- The order in which entries stand does not matter if no two of them have one key. -/
theorem sortedByKey_eq (hperm : xs.Perm ys) (hkeys : (xs.map (·.1)).Nodup) : sortedByKey xs = sortedByKey ys := by
  have hsame : (sortedByKey xs).Perm (sortedByKey ys) :=
    (sortedByKey_perm xs).trans (hperm.trans (sortedByKey_perm ys).symm)
  refine hsame.eq_of_pairwise ?_ (sortedByKey_pairwise xs) (sortedByKey_pairwise ys)
  intro a b ha hb hab hba
  rw [Bool.not_eq_true'] at hab hba
  have hkey : a.1 = b.1 := eq_of_not_lt hab hba
  have ha := (sortedByKey_perm xs).mem_iff.mp ha
  have hb := hperm.mem_iff.mpr ((sortedByKey_perm ys).mem_iff.mp hb)
  exact List.inj_on_of_nodup_map hkeys ha hb hkey

/-! ## Dictionaries in the canonical style -/

theorem checkOrder_texts (keys : List Text) : checkOrder (keys.map HostValue.str) = .ok () := by
  induction keys with
  | nil => rfl
  | cons s keys ih =>
      cases keys with
      | nil => rfl
      | cons t keys => exact ih

theorem sortEntries_texts (xs : List (Text × α)) :
    sortEntries (xs.map fun e => (HostValue.str e.1, e.2)) = (sortedByKey xs).map fun e => (.str e.1, e.2) := by
  unfold sortEntries sortedByKey
  rw [List.map_mergeSort]
  intro a _ b _
  rfl

/-- The text of an entry. -/
def canonicalEntry (e : Text × HostValue) : Except Fault Text := do
  return writeString false e.1 ++ ": " ++ (← write canonical e.2)

theorem writeEntries_texts (fields : List (Text × HostValue)) :
    writeEntries canonical (textEntries fields) =
      (fields.map fun e => (e.1, canonicalEntry e)).map fun e => (.str e.1, e.2) := by
  induction fields with
  | nil => rfl
  | cons e fields ih =>
      have hentry : (do return writeString canonical.ascii (← keyText (.str e.1)) ++ ": " ++
          (← write canonical e.2)) = canonicalEntry e := rfl
      rw [textEntries, List.map_cons, writeEntries, hentry, ← textEntries, ih]
      rfl

/-- A dictionary is written with its entries in the order of their keys. -/
theorem write_dict (fields : List (Text × HostValue)) :
    write canonical (.dict (textEntries fields)) = (do
      return bracketed "\x7b" "\x7d" (← (sortedByKey fields).mapM canonicalEntry)) := by
  have hkeys : (textEntries fields).map (·.1) = (fields.map (·.1)).map HostValue.str := by simp
  have hwrite : write canonical (.dict (textEntries fields)) = (do
      checkOrder ((textEntries fields).map (·.1))
      return bracketed "\x7b" "\x7d" (← (sortEntries (writeEntries canonical (textEntries fields))).mapM (·.2))) := by
    rw [write]
    rfl
  rw [hwrite, hkeys, checkOrder_texts, writeEntries_texts, sortEntries_texts, sortedByKey_map,
    List.map_map, List.mapM_map]
  rfl

end ScriptHost.Proofs.SortedEntries
