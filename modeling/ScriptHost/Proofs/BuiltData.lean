import ScriptHost.Proofs.DataValues
import ScriptHost.Script.Library.JsonText

/-!
# Building data

What has been read from a text of data is built as new objects on the heap, and nothing else of the
engine changes.
-/

namespace ScriptHost.Proofs.BuiltData

open Script Script.Eval
open Script.Library.JsonText (Data build buildItems buildMembers)
open ScriptHost.Proofs.DataValues
open ScriptHost.Proofs.Evaluation

variable {σ : Type} {s : Machine × σ} {t : PropertyTable} {k l : PropertyKey} {p : Property}
  {o : Object} {os : List Object}

/-! ## Tables of properties -/

theorem place_some {i : Nat} (h : t.place? k = some i) :
    ∃ hi : i < t.entries.size, t.entries[i].1 = k ∧ ∀ j (hj : j < i), t.entries[j].1 ≠ k := by
  obtain ⟨hi, hk, hfirst⟩ := Array.findIdx?_eq_some_iff_getElem.mp h
  refine ⟨hi, by simpa using hk, fun j hj => ?_⟩
  simpa using hfirst j hj

theorem place_none : t.place? k = none ↔ ∀ e ∈ t.entries, e.1 ≠ k := by
  unfold PropertyTable.place?
  rw [Array.findIdx?_eq_none_iff]
  simp

theorem get_put_self (t : PropertyTable) (k : PropertyKey) (p : Property) : (t.put k p).get? k = some p := by
  unfold PropertyTable.put
  split
  · rename_i i hi
    obtain ⟨hlt, hk, hfirst⟩ := place_some hi
    have hplace : (PropertyTable.mk (t.entries.modify i fun _ => (k, p))).place? k = some i := by
      refine Array.findIdx?_eq_some_iff_getElem.mpr ⟨by simpa using hlt, by simp [Array.getElem_modify], fun j hj => ?_⟩
      have := hfirst j hj
      simp [Array.getElem_modify, Nat.ne_of_gt hj, this]
    unfold PropertyTable.get?
    rw [hplace]
    simp [hlt, Array.getElem_modify]
  · rename_i hnone
    have hplace : (PropertyTable.mk (t.entries.push (k, p))).place? k = some t.entries.size := by
      have hall := place_none.mp hnone
      unfold PropertyTable.place? at hnone ⊢
      rw [Array.findIdx?_push, hnone]
      simp
    unfold PropertyTable.get?
    rw [hplace]
    simp

theorem get_put_ne (t : PropertyTable) (p : Property) (h : l ≠ k) :
    (t.put k p).get? l = t.get? l := by
  unfold PropertyTable.put
  split
  · rename_i i hi
    obtain ⟨hlt, hk, -⟩ := place_some hi
    have hkeys : ∀ j (hj : j < t.entries.size) (_ : j < (t.entries.modify i fun _ => (k, p)).size),
        (t.entries.modify i fun _ => (k, p))[j].1 = t.entries[j].1 := by
      intro j hj _
      rw [Array.getElem_modify]
      split
      · rename_i heq
        subst heq
        exact hk.symm
      · rfl
    cases hl : t.place? l with
    | none =>
        have hplace : (PropertyTable.mk (t.entries.modify i fun _ => (k, p))).place? l = none := by
          refine place_none.mpr fun e he => ?_
          obtain ⟨j, hj, rfl⟩ := Array.mem_iff_getElem.mp he
          rw [hkeys j (by simpa using hj) hj]
          exact place_none.mp hl _ (Array.getElem_mem _)
        unfold PropertyTable.get?
        rw [hplace, hl]
        rfl
    | some j =>
        obtain ⟨hjlt, hj, hfirst⟩ := place_some hl
        have hne : i ≠ j := by
          rintro rfl
          exact h (hj.symm.trans hk)
        have hplace : (PropertyTable.mk (t.entries.modify i fun _ => (k, p))).place? l = some j := by
          refine Array.findIdx?_eq_some_iff_getElem.mpr ⟨by simpa using hjlt, ?_, fun m hm => ?_⟩
          · rw [hkeys j hjlt (by simpa using hjlt)]
            simpa using hj
          · rw [hkeys m (by omega) (by simp; omega)]
            simpa using hfirst m hm
        unfold PropertyTable.get?
        rw [hplace, hl]
        simp [hjlt, Array.getElem_modify, hne]
  · unfold PropertyTable.get? PropertyTable.place?
    rw [Array.findIdx?_push]
    cases hl : t.entries.findIdx? (·.1 == l) with
    | none => simp [Ne.symm h]
    | some j =>
        have hlt := (Array.findIdx?_eq_some_iff_getElem.mp hl).1
        simp [Array.getElem?_push, Nat.ne_of_lt hlt]
/-! ## Objects of data -/

theorem own_withProperty (ho : o.kind = .ordinary) (n m : Name) (v : Value) :
    (withProperty o n v).own? (.name m) = if m = n then some (.plain v) else o.own? (.name m) := by
  unfold withProperty Object.own?
  simp only [ho]
  split
  · rename_i heq
    rw [heq, get_put_self]
  · rename_i hne
    exact get_put_ne _ _ fun heq => hne (PropertyKey.name.inj heq)

mutual

/-- The value of data that has been read, and the objects that it needs on the heap from a place
on. -/
def built (i : Nat) : Data → Value × List Object
  | .null => (.null, [])
  | .bool b => (.bool b, [])
  | .number v => (v, [])
  | .text s => (.string s, [])
  | .list ds =>
    let (values, os) := builtItems i ds
    (.object ⟨i + os.length⟩, os ++ [listObject values.toArray])
  | .record ms =>
    let (o, os) := builtMembers (i + 1) emptyObject ms
    (.object ⟨i⟩, o :: os)

/-- The values of items, and the objects that they need. -/
def builtItems (i : Nat) : List Data → List Value × List Object
  | [] => ([], [])
  | d :: rest =>
    let (value, os) := built i d
    let (values, more) := builtItems (i + os.length) rest
    (value :: values, os ++ more)

/-- An object with members, and the objects that their values need. -/
def builtMembers (i : Nat) (o : Object) : List (Name × Data) → Object × List Object
  | [] => (o, [])
  | (n, d) :: rest =>
    let (value, os) := built i d
    let (o, more) := builtMembers (i + os.length) (withProperty o n value) rest
    (o, os ++ more)

end

variable {I : Interp σ}

mutual

/-- Data that has been read is built at the end of the heap. -/
theorem build_run : ∀ (d : Data) (s : Machine × σ),
    build I d s = .ok (built s.1.objects.size d).1 (withObjects (built s.1.objects.size d).2 s)
  | .null, s => by rw [built, withObjects_nil]; rfl
  | .bool b, s => by rw [built, withObjects_nil]; rfl
  | .number v, s => by rw [built, withObjects_nil]; rfl
  | .text t, s => by rw [built, withObjects_nil]; rfl
  | .list ds, s => by
      unfold build newArray built
      rw [bind_ok (buildItems_run ds s), bind_ok (allocate_run _ _), withObjects_withObjects,
        size_withObjects]
      rfl
  | .record ms, s => by
      have hmembers : buildMembers I ⟨s.1.objects.size⟩ ms (withObjects [emptyObject] s) =
          .ok () (withObjects ((builtMembers (s.1.objects.size + 1) emptyObject ms).1 ::
            (builtMembers (s.1.objects.size + 1) emptyObject ms).2) s) :=
        buildMembers_run ms isOpen_emptyObject
      unfold build newObject built
      rw [← emptyObject, bind_ok (allocate_run _ _), bind_ok hmembers]
      rfl

theorem buildItems_run : ∀ (ds : List Data) (s : Machine × σ),
    buildItems I ds s = .ok (builtItems s.1.objects.size ds).1
      (withObjects (builtItems s.1.objects.size ds).2 s)
  | [], s => by
      unfold builtItems
      rw [withObjects_nil]
      rfl
  | d :: rest, s => by
      unfold buildItems builtItems
      rw [bind_ok (build_run d s), bind_ok (buildItems_run rest _), size_withObjects,
        withObjects_withObjects]
      rfl

theorem buildMembers_run : ∀ (ms : List (Name × Data)) {s : Machine × σ} {o : Object}
    {os : List Object}, IsOpen o →
    buildMembers I ⟨s.1.objects.size⟩ ms (withObjects (o :: os) s) =
      .ok () (withObjects ((builtMembers (s.1.objects.size + 1 + os.length) o ms).1 ::
        (os ++ (builtMembers (s.1.objects.size + 1 + os.length) o ms).2)) s)
  | [], s, o, os, _ => by
      unfold builtMembers
      rw [List.append_nil]
      rfl
  | (n, d) :: rest, s, o, os, ho => by
      have hfirst := build_run d (withObjects (o :: os) s)
      rw [size_withObjects, withObjects_withObjects, List.length_cons,
        Nat.add_comm os.length 1, ← Nat.add_assoc, List.cons_append] at hfirst
      unfold buildMembers builtMembers
      rw [bind_ok hfirst, bind_ok (createProperty_new ho n _),
        buildMembers_run rest (isOpen_withProperty ho _ _)]
      simp [Nat.add_assoc]

end

end ScriptHost.Proofs.BuiltData
