import ScriptHost.Proofs.GlobalWrites

/-!
# The values of the global object

Which names the global object has, and whether its values refer to nothing but what there is.  Each
write adds one name at most.
-/

namespace ScriptHost.Proofs.GlobalValues

open Script Script.Eval
open ScriptHost.Proofs.AssignedKeys
open ScriptHost.Proofs.Bindings
open ScriptHost.Proofs.BuiltData (get_put_self get_put_ne)
open ScriptHost.Proofs.Evaluation
open ScriptHost.Proofs.GlobalWrites
open ScriptHost.Proofs.NewObjects
open ScriptHost.Proofs.PropertyChains
open ScriptHost.Proofs.ScriptRuns

variable {σ : Type} {s s' : Machine × σ} {m m' m'' : Machine} {k : PropertyKey} {v : Value} {n l : Nat}
  {W : PropertyKey → Prop}

/-- A value refers to nothing but what there is. -/
def IsHere (m : Machine) : Value → Prop
  | .object r => r.index < m.objects.size
  | _ => True

theorem IsHere.mono (hsize : m.objects.size ≤ m'.objects.size) (h : IsHere m v) : IsHere m' v := by
  cases v with
  | object r => exact Nat.lt_of_lt_of_le h hsize
  | _ => trivial

theorem IsHere.of_objects (hm : HasObjects m m') (h : IsHere m v) : IsHere m' v := by
  cases v with
  | object r => exact (hm r h).1
  | _ => trivial

theorem kindOf_of_objects (hm : HasObjects m m') (hv : IsHere m v) : kindOf m' v = kindOf m v := by
  cases v with
  | object r => simp only [kindOf, (hm r hv).2]
  | _ => rfl

/-- The values of the global object refer to nothing but what there is. -/
def HoldsHere (m : Machine) : Prop :=
  ∀ k v w e c, (objectAt m globalRef).own? k = some ⟨.data v w, e, c⟩ → IsHere m v

/-- The names of the properties of the global object. -/
def ownNames (m : Machine) : List Name :=
  (objectAt m globalRef).ownKeys.filterMap fun k =>
    match k with
    | .name n => some n
    | .symbol _ => none

/-- The number of properties that the global object keeps. -/
def entryCount (m : Machine) : Nat := (objectAt m globalRef).properties.entries.size

/-! ## Keys of tables -/

theorem arrayIndex_symbol (i : Nat) : (PropertyKey.symbol i).arrayIndex? = none := rfl

theorem length_keys (t : PropertyTable) : t.keys.length ≤ t.entries.size := by
  have hsplit : ∀ ks : List PropertyKey,
      (ks.filterMap fun k => k.arrayIndex?.map fun i => (i, k)).length +
        ((ks.filter fun k => k.arrayIndex?.isNone && (match k with
          | .name _ => true
          | .symbol _ => false)).length +
        (ks.filter fun k => match k with
          | .name _ => false
          | .symbol _ => true).length) = ks.length := by
    intro ks
    induction ks with
    | nil => rfl
    | cons k ks ih =>
        rw [List.filterMap_cons, List.filter_cons, List.filter_cons, List.length_cons, ← ih]
        cases k with
        | name n =>
            cases hindex : (PropertyKey.name n).arrayIndex? with
            | none => simp; omega
            | some i => simp; omega
        | symbol i =>
            rw [arrayIndex_symbol]
            simp
            omega
  unfold PropertyTable.keys
  dsimp only
  rw [List.length_append, List.length_append, List.length_map, List.length_mergeSort, Nat.add_assoc]
  refine Nat.le_of_eq ((hsplit (t.entries.toList.map (·.1))).trans ?_)
  rw [List.length_map, Array.length_toList]

theorem get_of_mem_keys {t : PropertyTable} (h : k ∈ t.keys) : ∃ p, t.get? k = some p := by
  have hentry : k ∈ t.entries.toList.map (·.1) := by
    unfold PropertyTable.keys at h
    dsimp only at h
    rcases List.mem_append.mp h with h | h
    · rcases List.mem_append.mp h with h | h
      · obtain ⟨⟨i, l⟩, hl, rfl⟩ := List.mem_map.mp h
        obtain ⟨j, hj, hmap⟩ := List.mem_filterMap.mp ((List.mergeSort_perm _ _).mem_iff.mp hl)
        obtain ⟨i', -, heq⟩ := Option.map_eq_some_iff.mp hmap
        cases heq
        exact hj
      · exact (List.mem_filter.mp h).1
    · exact (List.mem_filter.mp h).1
  obtain ⟨e, he, rfl⟩ := List.mem_map.mp hentry
  cases hplace : t.place? e.1 with
  | none =>
      have hnone := Array.findIdx?_eq_none_iff.mp hplace e (Array.mem_toList_iff.mp he)
      exact absurd hnone (by simp)
  | some i =>
      obtain ⟨hi, -⟩ := Array.findIdx?_eq_some_iff_getElem.mp hplace
      refine ⟨t.entries[i].2, ?_⟩
      unfold PropertyTable.get?
      rw [hplace]
      exact (congrArg (Option.map (·.2)) (Array.getElem?_eq_getElem hi))

theorem size_put (t : PropertyTable) (k : PropertyKey) (p : Property) :
    (t.put k p).entries.size ≤ t.entries.size + 1 := by
  unfold PropertyTable.put
  split
  · simp
  · simp

theorem ownKeys_eq {o : Object} (h : IsTabular o) : o.ownKeys = o.properties.keys := by
  unfold Object.ownKeys
  split
  · rename_i hkind
    exact absurd hkind (h.noArray _ _ _)
  · rename_i hkind
    exact absurd hkind (h.noText _)
  · rfl

theorem length_ownNames (h : IsTabular (objectAt m globalRef)) : (ownNames m).length ≤ entryCount m := by
  unfold ownNames entryCount
  rw [ownKeys_eq h]
  exact Nat.le_trans (List.length_filterMap_le _ _) (length_keys _)

theorem own_of_mem {n : Name} (h : IsTabular (objectAt m globalRef)) (hn : n ∈ ownNames m) :
    ∃ p, (objectAt m globalRef).own? (.name n) = some p := by
  obtain ⟨k, hk, hname⟩ := List.mem_filterMap.mp hn
  obtain rfl : k = .name n := by
    cases k with
    | name l => exact congrArg PropertyKey.name (Option.some.inj hname)
    | symbol i => cases hname
  rw [ownKeys_eq h] at hk
  rw [h.own]
  exact get_of_mem_keys hk

/-! ## Writes -/

/-- At most so many properties have been added to the global object, and its values still refer to
nothing but what there is. -/
structure Tallies (n : Nat) (m m' : Machine) : Prop where
  here : HoldsHere m → HoldsHere m'
  entries : entryCount m' ≤ entryCount m + n

namespace Tallies

theorem trans (h : Tallies n m m') (h' : Tallies l m' m'') : Tallies (n + l) m m'' :=
  ⟨fun hm => h'.here (h.here hm), by have := h.entries; have := h'.entries; omega⟩

theorem of_same (hglobal : objectAt m' globalRef = objectAt m globalRef)
    (hsize : m.objects.size ≤ m'.objects.size) : Tallies n m m' := by
  refine ⟨fun hm k v w e c hown => ?_, by unfold entryCount; rw [hglobal]; omega⟩
  rw [hglobal] at hown
  exact (hm k v w e c hown).mono hsize

theorem of_grows (hgrows : Grows s.1.objects.size s s') (hglobal : globalRef.index < s.1.objects.size) :
    Tallies n s.1 s'.1 := of_same (hgrows.old globalRef hglobal) hgrows.size

/-- What is so of the statements of a script is so of the script. -/
theorem of_script {s s' : Machine × σ} (h : Tallies n (inScript s).1 s'.1) :
    Tallies n s.1 (leftScript s s').1 :=
  ⟨h.here, h.entries⟩

/-- A value that is there is written under one key. -/
theorem of_placed (htabular : IsTabular (objectAt s.1 globalRef))
    (hglobal : globalRef.index < s.1.objects.size) (hv : IsHere s.1 v) (k : PropertyKey) (e c : Bool) :
    Tallies 1 s.1 (updated globalRef (·.place k (holding v e c)) s).1 := by
  have hplaced := (objectAt_updated (s := s) hglobal (·.place k (holding v e c))).trans
    (htabular.place k (holding v e c))
  have hsize : s.1.objects.size = (updated globalRef (·.place k (holding v e c)) s).1.objects.size := by
    simp [updated]
  constructor
  · intro hm l u w e' c' hown
    rw [hplaced, htabular.own_put] at hown
    by_cases hl : l = k
    · rw [hl, get_put_self] at hown
      cases hown
      exact hv.mono (Nat.le_of_eq hsize)
    · rw [get_put_ne _ _ hl] at hown
      exact (hm l u w e' c' ((htabular.own l).trans hown)).mono (Nat.le_of_eq hsize)
  · unfold entryCount
    rw [hplaced]
    exact size_put _ _ _

end Tallies

end ScriptHost.Proofs.GlobalValues
