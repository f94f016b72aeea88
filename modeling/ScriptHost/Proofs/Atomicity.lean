import ScriptHost.Proofs.RegistrationRuns

/-!
# Which registrations are atomic

A registration that fails is meant to raise one kind of failure and to leave no trace.  Whether it
does depends on what failed, and on whether what was issued can be taken back: the faults that a
registration answers for are those of types, of values and of the engine, and no others.
-/

namespace ScriptHost.Proofs.Atomicity

open Interpreter Registry
open ScriptHost.Proofs.Transition
open ScriptHost.Proofs.RenderedCapability
open ScriptHost.Proofs.RegistryGrowth
open ScriptHost.Proofs.Registration
open ScriptHost.Proofs.HiddenGlobals
open ScriptHost.Proofs.RegistrationRuns

variable {E V : Type} {X : Interpreter E V} {globals : E → Text → Prop} {intact : E → Prop}
  {name capability : HostValue} {s s₁ s₂ : E × Instance V} {f : Fault} {ids : List Nat}

/-! ## Atomic registrations -/

/-- Nothing of the modules, of their functions, of the live functions and of the hidden globals has
changed. -/
structure Untouched (globals : E → Text → Prop) (s s' : E × Instance V) : Prop where
  modules : s'.2.registry.modules = s.2.registry.modules
  bound : s'.2.registry.bound = s.2.registry.bound
  live : s'.2.registry.liveFunctions.map (·.1) = s.2.registry.liveFunctions.map (·.1)
  hidden : ∀ n, IsHidden n → (globals s'.1 n ↔ globals s.1 n)

/-- A registration returns, or it raises the failure of registrations and has changed nothing. -/
def IsAtomic (globals : E → Text → Prop) (s : E × Instance V) :
    EStateM.Result Fault (E × Instance V) Unit → Prop :=
  Ends (fun _ _ => True) fun f s' => IsRegistrationFailure f ∧ Untouched globals s s'

/-- A computation returns. -/
def Returns {α : Type} : EStateM.Result Fault (E × Instance V) α → Prop :=
  Ends (fun _ _ => True) fun _ _ => False

/-- What makes a registration atomic.  A name that is refused can be shown.  A fault of the attempt
is one that registrations answer for, it can be worded, the engine releases what was issued, and
none of that stood in the place of a global.  After an attempt that succeeds, the engine releases
what the module held before. -/
def CanBeUndone (X : Interpreter E V) (globals : E → Text → Prop) (name capability : HostValue)
    (s : E × Instance V) : Prop :=
  if keyOf name = [] then name.display.isSome = true
  else
    match attempt X name capability s with
    | .error f (ids, s₁) =>
      f.cls.isRegistrationFault = true ∧ f.message?.isSome ∧ Returns (X.release ids s₁) ∧
        ∀ id ∈ ids, ¬globals s.1 (hiddenName id)
    | .ok _ (_, s₁) =>
      Returns (X.release (s₁.2.registry.boundTo (keyOf name)) (vacated name s₁))

/-! ## The cases -/

theorem not_isAtomic (h : NoRegistration f) : ¬IsAtomic globals s (.error f s₁) := by
  rintro ⟨⟨g, hg, hkind⟩, -⟩
  exact h g hg hkind

theorem isAtomic_refusal :
    IsAtomic globals s (.error (refusal name) s) ↔ name.display.isSome := by
  unfold refusal
  cases hshown : name.display with
  | some t =>
      refine iff_of_true ⟨⟨_, rfl, rfl⟩, ?_⟩ rfl
      exact ⟨rfl, rfl, rfl, fun _ _ => Iff.rfl⟩
  | none => exact iff_of_false (not_isAtomic (by rintro g ⟨⟩)) (by simp)

/-- Once what was shown is hidden again, the traces left are globals that were there before. -/
theorem untouched_iff (hlive : ∀ id ∈ s.2.registry.live, id < s.2.registry.nextId)
    (hgrown : Grown s.2.registry s₁.2.registry ids)
    (hretired : s₂.2.registry = retired s₁.2.registry ids)
    (hshown : ∀ n, IsHidden n → (globals s₁.1 n ↔ globals s.1 n ∨ n ∈ ids.map hiddenName))
    (hhidden : ∀ n, IsHidden n → (globals s₂.1 n ↔ globals s₁.1 n ∧ n ∉ ids.map hiddenName)) :
    Untouched globals s s₂ ↔ ∀ id ∈ ids, ¬globals s.1 (hiddenName id) := by
  have hback : Grown s.2.registry s₂.2.registry [] := by
    rw [hretired]
    exact grown_retired hgrown hlive
  have hboth : ∀ n, IsHidden n →
      (globals s₂.1 n ↔ (globals s.1 n ∨ n ∈ ids.map hiddenName) ∧ n ∉ ids.map hiddenName) := by
    intro n hn
    rw [hhidden n hn, hshown n hn]
  constructor
  · intro huntouched id hid hthere
    have hafter := (huntouched.hidden _ (isHidden_hiddenName id)).mpr hthere
    exact ((hboth _ (isHidden_hiddenName id)).mp hafter).2 (mem_map_hiddenName.mpr hid)
  · intro hfresh
    refine ⟨hback.modules, hback.bound, ?_, fun n hn => ?_⟩
    · have hsame : s₂.2.registry.live = s.2.registry.live := by rw [hback.live, List.append_nil]
      rw [names_liveFunctions hlive, names_liveFunctions, hsame]
      exact (drifted_grown hback).live_lt hlive
    · rw [hboth n hn]
      refine shown_and_hidden fun hnew hold => ?_
      obtain ⟨id, hid, rfl⟩ := List.mem_map.mp hnew
      exact hfresh id hid hold

/-- Undoing a registration is atomic if its reason can be worded and what was issued can be
released without a trace. -/
theorem undo_isAtomic_iff (hX : RaisesEngineFaults X) (hkeeps : KeepsHidden X globals intact)
    (hintact : intact s₁.1) (hlive : ∀ id ∈ s.2.registry.live, id < s.2.registry.nextId)
    (hgrown : Grown s.2.registry s₁.2.registry ids)
    (hshown : ∀ n, IsHidden n → (globals s₁.1 n ↔ globals s.1 n ∨ n ∈ ids.map hiddenName)) :
    IsAtomic globals s (undo (isolated X) name f ids s₁) ↔
      f.message?.isSome ∧ Returns ((isolated X).release ids s₁) ∧
        ∀ id ∈ ids, ¬globals s.1 (hiddenName id) := by
  have hregistry := release_ends hX ids s₁
  have hglobals := release_hides hkeeps.isolated ids s₁
  change IsAtomic globals s (EStateM.bind ((isolated X).release ids) _ s₁) ↔ _
  unfold EStateM.bind
  revert hregistry hglobals
  cases (isolated X).release ids s₁ with
  | error g s₂ =>
      rintro ⟨hg, -⟩ -
      exact iff_of_false (not_isAtomic (noRegistration_of_engine hg)) fun h => h.2.1
  | ok u s₂ =>
      intro hretired hhides
      obtain ⟨-, hhidden⟩ := hhides hintact
      have huntouched := untouched_iff hlive hgrown hretired hshown hhidden
      change IsAtomic globals s (EStateM.bind (HostM.wording f) _ s₂) ↔ _
      unfold EStateM.bind HostM.wording
      cases f.message? with
      | none =>
          exact iff_of_false (not_isAtomic (by rintro g ⟨⟩)) fun h => absurd h.1 (by simp)
      | some t =>
          constructor
          · rintro ⟨-, h⟩
            exact ⟨rfl, trivial, huntouched.mp h⟩
          · rintro ⟨-, -, h⟩
            exact ⟨⟨_, rfl, rfl⟩, huntouched.mpr h⟩

theorem install_isAtomic_iff (hX : RaisesEngineFaults X) :
    IsAtomic globals s (install (isolated X) name capability ids s₁) ↔
      Returns ((isolated X).release (s₁.2.registry.boundTo (keyOf name)) (vacated name s₁)) := by
  have hrelease := release_ends hX (s₁.2.registry.boundTo (keyOf name)) (vacated name s₁)
  rw [install_run]
  unfold EStateM.bind
  revert hrelease
  cases (isolated X).release (s₁.2.registry.boundTo (keyOf name)) (vacated name s₁) with
  | ok u s₂ => exact fun _ => iff_of_true trivial trivial
  | error g s₂ =>
      rintro ⟨hg, -⟩
      exact iff_of_false (not_isAtomic (noRegistration_of_engine hg)) id

/-! ## All registrations -/

/-- A module with one function and an object whose exports raise a `KeyError`. -/
def failingExport : HostValue :=
  .ofFields [("a", .function 0 (.returns .none)),
    ("b", .object "Thing" .absent (.failing .key [.ofString "x"]) none)]

end ScriptHost.Proofs.Atomicity
