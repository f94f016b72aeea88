import Mathlib.Data.List.Flatten
import Mathlib.Data.List.Nodup
import Mathlib.Data.List.Pairwise
import ScriptHost.Proofs.RegistryGrowth

/-!
# The balance of a registry

Each module holds functions of its own, and what is live is what some module holds.  The balance
holds of the empty registry, survives functions that come and go again, and survives that a module
is put in the place of another one.
-/

namespace ScriptHost.Proofs.RegistryBalance

open Registry
open ScriptHost.Proofs.RegistryGrowth

/-! ## Modules by name -/

theorem names_putModule (modules : List (Text × Module)) (key : Text)
    (name capability : HostValue) :
    (putModule modules key name capability).map (fun e => (e.1, e.2.name)) =
      if key ∈ modules.map (·.1) then modules.map fun e => (e.1, e.2.name)
      else (modules.map fun e => (e.1, e.2.name)) ++ [(key, name)] := by
  induction modules with
  | nil => rfl
  | cons entry rest ih =>
      obtain ⟨k, m⟩ := entry
      unfold putModule
      by_cases hk : k = key
      · simp [hk]
      · rw [if_neg hk, List.map_cons, ih]
        have hne : key ≠ k := fun h => hk h.symm
        by_cases hmem : key ∈ rest.map (·.1)
        · simp [hmem]
        · simp [hmem, hne]

theorem keys_putModule (modules : List (Text × Module)) (key : Text)
    (name capability : HostValue) :
    (putModule modules key name capability).map (·.1) =
      if key ∈ modules.map (·.1) then modules.map (·.1) else modules.map (·.1) ++ [key] := by
  have hkeys := congrArg (List.map Prod.fst) (names_putModule modules key name capability)
  rw [apply_ite (List.map Prod.fst), List.map_append] at hkeys
  simpa only [List.map_map, Function.comp_def, List.map_singleton] using hkeys

theorem mem_keys_putModule {modules : List (Text × Module)} {key k : Text}
    {name capability : HostValue} :
    k ∈ (putModule modules key name capability).map (·.1) ↔ k = key ∨ k ∈ modules.map (·.1) := by
  rw [keys_putModule]
  by_cases hmem : key ∈ modules.map (·.1)
  · rw [if_pos hmem]
    constructor
    · exact Or.inr
    · rintro (rfl | h)
      · exact hmem
      · exact h
  · rw [if_neg hmem, List.mem_append, List.mem_singleton]
    exact or_comm

theorem find_putModule (modules : List (Text × Module)) (key k : Text)
    (name capability : HostValue) :
    ((putModule modules key name capability).find? (·.1 == k)).map (·.2) =
      if k = key then
        some { name := ((modules.find? (·.1 == k)).map (·.2.name)).getD name, capability }
      else (modules.find? (·.1 == k)).map (·.2) := by
  induction modules with
  | nil =>
      by_cases hk : k = key
      · simp [putModule, hk]
      · simp [putModule, hk, Ne.symm hk]
  | cons entry rest ih =>
      obtain ⟨j, m⟩ := entry
      unfold putModule
      by_cases hj : j = key
      · subst hj
        by_cases hk : k = j
        · simp [hk]
        · simp [hk, Ne.symm hk]
      · rw [if_neg hj]
        by_cases hk : j = k
        · subst hk
          simp [hj]
        · simp only [List.find?_cons, beq_eq_false_iff_ne.mpr hk]
          exact ih

/-! ## Functions by module -/

/-- All functions that modules hold. -/
def held (r : Registry) : List Nat := r.bound.flatMap (·.2)

theorem boundTo_eq {r : Registry} (hkeys : (r.bound.map (·.1)).Nodup) {key : Text}
    {ids : List Nat} (hmem : (key, ids) ∈ r.bound) : r.boundTo key = ids := by
  have hfound : (r.bound.find? (·.1 == key)).isSome :=
    List.find?_isSome.mpr ⟨_, hmem, by simp⟩
  obtain ⟨entry, hentry⟩ := Option.isSome_iff_exists.mp hfound
  have hkey : entry.1 = key := by simpa using List.find?_some hentry
  have hsame : entry = (key, ids) :=
    List.inj_on_of_nodup_map hkeys (List.mem_of_find?_eq_some hentry) hmem hkey
  simp [boundTo, hentry, hsame]

theorem mem_boundTo {r : Registry} {key : Text} {id : Nat} (hid : id ∈ r.boundTo key) :
    ∃ ids, (key, ids) ∈ r.bound ∧ id ∈ ids := by
  unfold boundTo at hid
  cases hentry : r.bound.find? (·.1 == key) with
  | none => simp [hentry] at hid
  | some entry =>
      have hkey : entry.1 = key := by simpa using List.find?_some hentry
      refine ⟨entry.2, ?_, by simpa [hentry] using hid⟩
      rw [← hkey]
      exact List.mem_of_find?_eq_some hentry

/-- The balance between modules, the functions they hold, and the functions that are live. -/
structure Owned (r : Registry) : Prop where
  moduleKeys : (r.modules.map (·.1)).Nodup
  boundKeys : (r.bound.map (·.1)).Nodup
  keys : ∀ key, key ∈ r.bound.map (·.1) ↔ key ∈ r.modules.map (·.1)
  distinct : (held r).Nodup
  live : ∀ id, id ∈ r.live ↔ id ∈ held r
  liveNodup : r.live.Nodup
  issued : ∀ id ∈ r.live, id < r.nextId

theorem owned_empty : Owned Registry.empty where
  moduleKeys := .nil
  boundKeys := .nil
  keys := fun _ => Iff.rfl
  distinct := .nil
  live := fun _ => Iff.rfl
  liveNodup := .nil
  issued := by simp [Registry.empty]

/-- The balance survives functions that have come and gone. -/
theorem Owned.grown {r r' : Registry} (h : Owned r) (hgrown : Grown r r' []) : Owned r' := by
  have hheld : held r' = held r := by rw [held, held, hgrown.bound]
  have hlive : r'.live = r.live := by rw [hgrown.live, List.append_nil]
  constructor
  · rw [hgrown.modules]
    exact h.moduleKeys
  · rw [hgrown.bound]
    exact h.boundKeys
  · rw [hgrown.bound, hgrown.modules]
    exact h.keys
  · rw [hheld]
    exact h.distinct
  · rw [hheld, hlive]
    exact h.live
  · rw [hlive]
    exact h.liveNodup
  · rw [hlive]
    intro id hid
    exact Nat.lt_of_lt_of_le (h.issued id hid) hgrown.nextId_le

/-- A registry after a module has been put under a name with newly issued functions, in the place
of what the name held before. -/
structure Installed (r r' : Registry) (key : Text) (name capability : HostValue)
    (ids : List Nat) : Prop where
  modules : r'.modules = putModule r.modules key name capability
  bound : r'.bound = (r.bound.filter fun e => e.1 != key) ++ [(key, ids)]
  live : r'.live = (r.live ++ ids).filter fun id => id ∉ r.boundTo key
  issued : r.issued.toList <+: r'.issued.toList
  increasing : ids.Pairwise (· < ·)
  fresh : ∀ id ∈ ids, r.nextId ≤ id ∧ id < r'.nextId

theorem installed_bind {r r₁ : Registry} {ids : List Nat} (h : Grown r r₁ ids) (key : Text)
    (name capability : HostValue) :
    Installed r ((retired (r₁.unbind key) (r₁.boundTo key)).bind key name capability ids) key name
      capability ids where
  modules := by
    change putModule (retired _ _).modules _ _ _ = _
    rw [retired_modules, unbind, h.modules]
  bound := by
    change ((retired _ _).bound.filter _) ++ _ = _
    rw [retired_bound, unbind, h.bound, List.filter_filter]
    simp
  live := by
    have hbound : r₁.boundTo key = r.boundTo key := by simp only [boundTo, h.bound]
    change (retired _ _).live = _
    rw [retired_live, hbound]
    change r₁.live.filter _ = _
    rw [h.live]
  issued := by
    change _ <+: (retired _ _).issued.toList
    rw [retired_issued]
    exact h.issued
  increasing := h.increasing
  fresh := by
    change ∀ id ∈ ids, r.nextId ≤ id ∧ id < (retired _ _).issued.size
    rw [retired_issued]
    exact h.fresh

namespace Installed

variable {r r' : Registry} {key : Text} {name capability : HostValue} {ids : List Nat}

theorem nextId_le (h : Installed r r' key name capability ids) : r.nextId ≤ r'.nextId := by
  simpa [nextId] using h.issued.length_le

theorem held_eq (h : Installed r r' key name capability ids) :
    held r' = (r.bound.filter fun e => e.1 != key).flatMap (·.2) ++ ids := by
  rw [held, h.bound, List.flatMap_append]
  simp

/-- What other modules hold is what was held and is not of the module replaced. -/
theorem mem_others (hr : Owned r) {id : Nat} :
    id ∈ (r.bound.filter fun e => e.1 != key).flatMap (·.2) ↔
      id ∈ held r ∧ id ∉ r.boundTo key := by
  constructor
  · intro hid
    obtain ⟨entry, hentry, hid⟩ := List.mem_flatMap.mp hid
    obtain ⟨hmem, hkey⟩ := List.mem_filter.mp hentry
    refine ⟨List.mem_flatMap.mpr ⟨entry, hmem, hid⟩, fun hbound => ?_⟩
    obtain ⟨others, hothers, hid'⟩ := mem_boundTo hbound
    have hdisjoint := (List.nodup_flatMap.mp hr.distinct).2
    have : Std.Symm (Function.onFun List.Disjoint fun e : Text × List Nat => e.2) :=
      ⟨fun _ _ h _ hb ha => h ha hb⟩
    have hne : entry ≠ (key, others) := by
      rintro rfl
      simp at hkey
    exact hdisjoint.forall hmem hothers hne hid hid'
  · rintro ⟨hid, hnot⟩
    obtain ⟨entry, hentry, hid⟩ := List.mem_flatMap.mp hid
    refine List.mem_flatMap.mpr ⟨entry, List.mem_filter.mpr ⟨hentry, ?_⟩, hid⟩
    have hne : entry.1 ≠ key := by
      rintro rfl
      exact hnot (by rw [boundTo_eq hr.boundKeys hentry]; exact hid)
    simpa using hne

/-- The balance survives a registration that succeeds. -/
theorem owned (h : Installed r r' key name capability ids) (hr : Owned r) : Owned r' := by
  have hfresh : ∀ id ∈ ids, id ∉ held r := by
    intro id hid hheld
    have hlow := hr.issued id ((hr.live id).mpr hheld)
    have hhigh := (h.fresh id hid).1
    omega
  have hfreshBound : ∀ id ∈ ids, id ∉ r.boundTo key := by
    intro id hid hbound
    obtain ⟨others, hothers, hid'⟩ := mem_boundTo hbound
    exact hfresh id hid (List.mem_flatMap.mpr ⟨_, hothers, hid'⟩)
  constructor
  · rw [h.modules, keys_putModule]
    split
    · exact hr.moduleKeys
    · rename_i hnew
      exact List.Nodup.append hr.moduleKeys (List.nodup_singleton key) (by simpa using hnew)
  · rw [h.bound, List.map_append]
    refine List.Nodup.append (hr.boundKeys.sublist ?_) (List.nodup_singleton key) ?_
    · exact List.Sublist.map _ List.filter_sublist
    · simp
  · intro k
    rw [h.bound, h.modules, mem_keys_putModule, ← hr.keys]
    by_cases hk : k = key
    · simp [hk]
    · simp [hk]
  · rw [h.held_eq]
    refine List.Nodup.append ?_ (h.increasing.imp fun hlt => Nat.ne_of_lt hlt) ?_
    · exact hr.distinct.sublist (List.filter_sublist.flatMap _)
    · intro id hothers hid
      exact hfresh id hid ((mem_others hr).mp hothers).1
  · intro id
    rw [h.live, h.held_eq, List.mem_append, mem_others hr, List.mem_filter, List.mem_append,
      hr.live id]
    constructor
    · rintro ⟨hheld | hid, hnot⟩
      · exact Or.inl ⟨hheld, by simpa using hnot⟩
      · exact Or.inr hid
    · rintro (⟨hheld, hnot⟩ | hid)
      · exact ⟨Or.inl hheld, by simpa using hnot⟩
      · exact ⟨Or.inr hid, by simpa using hfreshBound id hid⟩
  · rw [h.live]
    refine List.Nodup.filter _ (List.Nodup.append hr.liveNodup ?_ ?_)
    · exact h.increasing.imp fun hlt => Nat.ne_of_lt hlt
    · intro id hlive hid
      exact hfresh id hid ((hr.live id).mp hlive)
  · rw [h.live]
    intro id hid
    rcases List.mem_append.mp (List.mem_filter.mp hid).1 with hold | hnew
    · exact Nat.lt_of_lt_of_le (hr.issued id hold) h.nextId_le
    · exact (h.fresh id hnew).2

end Installed

end ScriptHost.Proofs.RegistryBalance
