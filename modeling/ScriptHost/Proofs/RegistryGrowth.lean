import Mathlib.Data.List.Nodup
import ScriptHost.Instance.Registry

/-!
# How a registry changes

A registration first issues functions, then either releases them again or puts them in the place of
what the module held before.  `Grown` is the first half, `Installed` the whole of a registration
that succeeds; `Owned` is the balance between modules, bound functions and live functions that both
of them keep.
-/

namespace ScriptHost.Proofs.RegistryGrowth

open Registry

/-! ## Names of hidden globals -/

theorem ofChar_injective : Function.Injective CodePoint.ofChar := by
  intro a b hab
  exact Char.toNat_inj.mp (congrArg CodePoint.val hab)

theorem ofNat_injective : Function.Injective Text.ofNat := by
  intro m n hmn
  have hchars : (Nat.repr m).toList = (Nat.repr n).toList :=
    List.map_injective_iff.mpr ofChar_injective hmn
  have hread := congrArg (Nat.ofDigitChars 10 · 0) hchars
  simpa [Nat.repr_eq_ofList_toDigits] using hread

/-- Two functions never share a hidden global. -/
theorem hiddenName_injective : Function.Injective hiddenName := by
  intro m n hmn
  exact ofNat_injective (List.append_cancel_left hmn)

/-! ## Issuing functions -/

/-- A registry after some functions have been issued, of which `ids` went live. -/
structure Grown (r r' : Registry) (ids : List Nat) : Prop where
  modules : r'.modules = r.modules
  bound : r'.bound = r.bound
  live : r'.live = r.live ++ ids
  issued : r.issued.toList <+: r'.issued.toList
  increasing : ids.Pairwise (· < ·)
  fresh : ∀ id ∈ ids, r.nextId ≤ id ∧ id < r'.nextId

namespace Grown

variable {r r' r'' : Registry} {ids more : List Nat}

theorem refl (r : Registry) : Grown r r [] :=
  ⟨rfl, rfl, (List.append_nil _).symm, List.prefix_rfl, .nil, by simp⟩

theorem nextId_le (h : Grown r r' ids) : r.nextId ≤ r'.nextId := by
  simpa [nextId] using h.issued.length_le

theorem trans (h : Grown r r' ids) (h' : Grown r' r'' more) : Grown r r'' (ids ++ more) where
  modules := h'.modules.trans h.modules
  bound := h'.bound.trans h.bound
  live := by rw [h'.live, h.live, List.append_assoc]
  issued := h.issued.trans h'.issued
  increasing := by
    refine List.pairwise_append.mpr ⟨h.increasing, h'.increasing, fun i hi j hj => ?_⟩
    have hlow := (h.fresh i hi).2
    have hhigh := (h'.fresh j hj).1
    omega
  fresh := by
    intro id hid
    have hfirst := h.nextId_le
    have hsecond := h'.nextId_le
    rcases List.mem_append.mp hid with hold | hnew
    · have hbounds := h.fresh id hold
      omega
    · have hbounds := h'.fresh id hnew
      omega

theorem nodup (h : Grown r r' ids) : ids.Nodup :=
  h.increasing.imp fun hlt => Nat.ne_of_lt hlt

end Grown

/-- A function that is issued and not yet live. -/
theorem grown_issue (r : Registry) (f : HostFunction) : Grown r (r.issue f) [] where
  modules := rfl
  bound := rfl
  live := (List.append_nil _).symm
  issued := by simp [issue]
  increasing := .nil
  fresh := by simp

/-- A function that has just been issued goes live. -/
theorem grown_enliven (r : Registry) (f : HostFunction) :
    Grown r ((r.issue f).enliven r.nextId) [r.nextId] where
  modules := rfl
  bound := rfl
  live := rfl
  issued := by simp [issue, enliven]
  increasing := List.pairwise_singleton _ _
  fresh := by
    intro id hid
    rw [List.mem_singleton.mp hid]
    simp [nextId, issue, enliven]

/-! ## Releasing functions -/

/-- The registry once some functions are live no more. -/
def retired (r : Registry) (ids : List Nat) : Registry := ids.foldl retire r

theorem retired_eq (r : Registry) (ids : List Nat) :
    retired r ids = { r with live := r.live.filter fun id => id ∉ ids } := by
  induction ids generalizing r with
  | nil => simp [retired]
  | cons id rest ih =>
      change retired (r.retire id) rest = _
      rw [ih]
      simp only [retire, List.filter_filter, List.mem_cons, not_or]
      congr 1
      refine List.filter_congr fun i _ => ?_
      rw [Bool.and_comm]
      simp [bne, Bool.beq_eq_decide_eq]

@[simp]
theorem retired_modules (r : Registry) (ids : List Nat) : (retired r ids).modules = r.modules := by
  rw [retired_eq]

@[simp]
theorem retired_bound (r : Registry) (ids : List Nat) : (retired r ids).bound = r.bound := by
  rw [retired_eq]

@[simp]
theorem retired_issued (r : Registry) (ids : List Nat) : (retired r ids).issued = r.issued := by
  rw [retired_eq]

@[simp]
theorem retired_live (r : Registry) (ids : List Nat) :
    (retired r ids).live = r.live.filter fun id => id ∉ ids := by
  rw [retired_eq]

/-- Functions that were not live before are gone without a trace once they are released. -/
theorem grown_retired {r r' : Registry} {ids : List Nat} (h : Grown r r' ids)
    (hlive : ∀ id ∈ r.live, id < r.nextId) : Grown r (retired r' ids) [] where
  modules := by rw [retired_modules, h.modules]
  bound := by rw [retired_bound, h.bound]
  live := by
    have hkept : ∀ id ∈ r.live, id ∉ ids := by
      intro id hid hmem
      have hlow := hlive id hid
      have hhigh := (h.fresh id hmem).1
      omega
    rw [retired_live, h.live, List.filter_append, List.append_nil,
      List.filter_eq_self.mpr (by simpa using hkept), List.filter_eq_nil_iff.mpr (by simp),
      List.append_nil]
  issued := by
    rw [retired_issued]
    exact h.issued
  increasing := .nil
  fresh := by simp

end ScriptHost.Proofs.RegistryGrowth
