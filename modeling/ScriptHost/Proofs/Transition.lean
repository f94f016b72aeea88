import ScriptHost.Instance.Interpreter

/-!
# What a computation does to its state

`Meets R Q P body` says of a computation with state and faults, from whatever state it starts, that
the state it ends in stands in the relation `R` to the state it began in, that its result is in `Q`
and its fault in `P`.  A fault is no way out of `R`: the state counts on both ends.  The rules follow
the ways in which computations are put together.
-/

namespace ScriptHost.Proofs.Transition

variable {ε σ α β : Type} {R : σ → σ → Prop}

/-- A relation between states that may be followed step by step. -/
structure Chains (R : σ → σ → Prop) : Prop where
  refl : ∀ s, R s s
  trans : ∀ {a b c}, R a b → R b c → R a c

/-- Any two states are related. -/
theorem chains_true : Chains fun _ _ : σ => True :=
  ⟨fun _ => trivial, fun _ _ => trivial⟩

/-- Nothing that one looks at changes. -/
theorem chains_eq {γ : Type} (view : σ → γ) : Chains fun a b => view b = view a :=
  ⟨fun _ => rfl, fun hab hbc => hbc.trans hab⟩

/-- What holds at the end of a computation. -/
def Ends (Q : α → σ → Prop) (P : ε → σ → Prop) : EStateM.Result ε σ α → Prop
  | .ok a s => Q a s
  | .error f s => P f s

/-- From every state, a computation ends in a related state, with a result in `Q` or a fault
in `P`. -/
def Meets (R : σ → σ → Prop) (Q : α → Prop) (P : ε → Prop) (body : EStateM ε σ α) : Prop :=
  ∀ s, Ends (fun a s' => R s s' ∧ Q a) (fun f s' => R s s' ∧ P f) (body s)

namespace Meets

variable {Q : α → Prop} {Q' : β → Prop} {P P' : ε → Prop}

theorem ok {body : EStateM ε σ α} (h : Meets R Q P body) {s s' : σ} {a : α}
    (hrun : body s = .ok a s') : R s s' ∧ Q a := by
  have hs := h s
  rw [hrun] at hs
  exact hs

theorem error {body : EStateM ε σ α} (h : Meets R Q P body) {s s' : σ} {f : ε}
    (hrun : body s = .error f s') : R s s' ∧ P f := by
  have hs := h s
  rw [hrun] at hs
  exact hs

theorem of_runs {body : EStateM ε σ α}
    (hok : ∀ s a s', body s = .ok a s' → R s s' ∧ Q a)
    (herror : ∀ s f s', body s = .error f s' → R s s' ∧ P f) : Meets R Q P body := by
  intro s
  cases hrun : body s with
  | ok a s' => exact hok s a s' hrun
  | error f s' => exact herror s f s' hrun

theorem weaken {body : EStateM ε σ α} {R' : σ → σ → Prop} {Q₁ : α → Prop}
    (h : Meets R Q P body) (hR : ∀ {a b}, R a b → R' a b) (hQ : ∀ a, Q a → Q₁ a)
    (hP : ∀ f, P f → P' f) : Meets R' Q₁ P' body :=
  of_runs (fun _ _ _ hrun => ⟨hR (h.ok hrun).1, hQ _ (h.ok hrun).2⟩)
    (fun _ _ _ hrun => ⟨hR (h.error hrun).1, hP _ (h.error hrun).2⟩)

theorem pure (hR : Chains R) {a : α} (ha : Q a) :
    Meets R Q P (Pure.pure a : EStateM ε σ α) :=
  fun s => ⟨hR.refl s, ha⟩

theorem throw (hR : Chains R) {f : ε} (hf : P f) :
    Meets R Q P (MonadExcept.throw f : EStateM ε σ α) :=
  fun s => ⟨hR.refl s, hf⟩

theorem bind (hR : Chains R) {x : EStateM ε σ α} {k : α → EStateM ε σ β}
    (hx : Meets R Q P x) (hk : ∀ a, Q a → Meets R Q' P (k a)) :
    Meets R Q' P (x >>= k) := by
  intro s
  change Ends _ _ (EStateM.bind x k s)
  unfold EStateM.bind
  cases hrun : x s with
  | ok a s₁ =>
      obtain ⟨hstep, ha⟩ := hx.ok hrun
      change Ends _ _ (k a s₁)
      cases hnext : k a s₁ with
      | ok b s₂ =>
          obtain ⟨hrest, hb⟩ := (hk a ha).ok hnext
          exact ⟨hR.trans hstep hrest, hb⟩
      | error f s₂ =>
          obtain ⟨hrest, hf⟩ := (hk a ha).error hnext
          exact ⟨hR.trans hstep hrest, hf⟩
  | error f s₁ => exact hx.error hrun

theorem tryCatch (hR : Chains R) {x : EStateM ε σ α} {handler : ε → EStateM ε σ α}
    (hx : Meets R Q P' x) (hhandler : ∀ f, P' f → Meets R Q P (handler f)) :
    Meets R Q P (MonadExcept.tryCatch x handler) := by
  intro s
  change Ends _ _ (EStateM.tryCatch x handler s)
  unfold EStateM.tryCatch
  cases hrun : x s with
  | ok a s₁ => exact hx.ok hrun
  | error f s₁ =>
      obtain ⟨hstep, hf⟩ := hx.error hrun
      change Ends _ _ (handler f s₁)
      cases hnext : handler f s₁ with
      | ok a s₂ =>
          obtain ⟨hrest, ha⟩ := (hhandler f hf).ok hnext
          exact ⟨hR.trans hstep hrest, ha⟩
      | error f' s₂ =>
          obtain ⟨hrest, hf'⟩ := (hhandler f hf).error hnext
          exact ⟨hR.trans hstep hrest, hf'⟩

theorem change {f : σ → σ} (hf : ∀ s, R s (f s)) :
    Meets R (fun _ => True) P (modify f : EStateM ε σ PUnit) :=
  fun s => ⟨hf s, trivial⟩

theorem get (hR : Chains R) :
    Meets R (fun _ => True) P (MonadState.get : EStateM ε σ σ) :=
  fun s => ⟨hR.refl s, trivial⟩

end Meets

/-! ## Computations that run through -/

theorem ok_of_bind {x : EStateM ε σ α} {k : α → EStateM ε σ β} {b : β} {s s' : σ}
    (h : (x >>= k) s = .ok b s') : ∃ a s₁, x s = .ok a s₁ ∧ k a s₁ = .ok b s' := by
  change EStateM.bind x k s = _ at h
  unfold EStateM.bind at h
  cases hx : x s with
  | ok a s₁ =>
      rw [hx] at h
      exact ⟨a, s₁, rfl, h⟩
  | error f s₁ =>
      rw [hx] at h
      cases h

/-! ## Steps of the host -/

variable {E V : Type} {P : Fault → Prop} {R : E × Instance V → E × Instance V → Prop}
  {Q : α → Prop}

section Runs

variable {s s' : E × Instance V} {body : HostM E V α} {k : α → HostM E V β}
  {other : Fault → HostM E V α} {a : α} {f : Fault}

theorem host_bind_ok (h : body s = .ok a s') : (body >>= k) s = k a s' := by
  change EStateM.bind body k s = _
  unfold EStateM.bind
  rw [h]

theorem host_bind_error (h : body s = .error f s') : (body >>= k) s = .error f s' := by
  change EStateM.bind body k s = _
  unfold EStateM.bind
  rw [h]

theorem orOnScriptFault_ok (h : body s = .ok a s') :
    HostM.orOnScriptFault body other s = .ok a s' := by
  change EStateM.tryCatch body _ s = _
  unfold EStateM.tryCatch
  rw [h]

theorem orOnScriptFault_fault (h : body s = .error f s') (hf : f.cls.isScript = true) :
    HostM.orOnScriptFault body other s = other f s' := by
  change EStateM.tryCatch body _ s = _
  unfold EStateM.tryCatch
  rw [h]
  change (if f.cls.isScript then other f else throw f) s' = _
  rw [if_pos hf]

end Runs

theorem meets_ofExcept (hR : Chains R) {r : Except Fault α} (hok : ∀ a, r = .ok a → Q a)
    (herror : ∀ f, r = .error f → P f) : Meets R Q P (HostM.ofExcept r : HostM E V α) := by
  cases r with
  | ok a => exact Meets.pure hR (hok a rfl)
  | error f => exact Meets.throw hR (herror f rfl)

theorem meets_instance (hR : Chains R) :
    Meets R (fun _ => True) P (HostM.instance_ : HostM E V (Instance V)) :=
  (Meets.get hR).bind hR fun _ _ => Meets.pure hR trivial

theorem meets_registry (hR : Chains R) :
    Meets R (fun _ => True) P (HostM.registry : HostM E V Registry) :=
  (Meets.get hR).bind hR fun _ _ => Meets.pure hR trivial

theorem meets_modifyInstance {f : Instance V → Instance V}
    (hf : ∀ e i, R (e, i) (e, f i)) :
    Meets R (fun _ => True) P (HostM.modifyInstance f : HostM E V Unit) :=
  Meets.change fun (e, i) => hf e i

theorem meets_show (hR : Chains R) {v : HostValue} (hlong : v.display = none → P .integerTooLong) :
    Meets R (fun t => v.display = some t) P (HostM.show_ v : HostM E V Text) := by
  unfold HostM.show_
  cases hshown : v.display with
  | some t => exact Meets.pure hR rfl
  | none => exact Meets.throw hR (hlong hshown)

theorem meets_wording (hR : Chains R) {f : Fault} (hlong : f.message? = none → P .integerTooLong) :
    Meets R (fun t => f.message? = some t) P (HostM.wording f : HostM E V Text) := by
  unfold HostM.wording
  cases hworded : f.message? with
  | some t => exact Meets.pure hR rfl
  | none => exact Meets.throw hR (hlong hworded)

theorem meets_orOnScriptFault (hR : Chains R) {P' : Fault → Prop} {body : HostM E V α}
    {other : Fault → HostM E V α} (hbody : Meets R Q P' body)
    (hother : ∀ f, P' f → f.cls.isScript = true → Meets R Q P (other f))
    (hstays : ∀ f, P' f → f.cls.isScript = false → P f) :
    Meets R Q P (HostM.orOnScriptFault body other) := by
  refine hbody.tryCatch hR fun f hf => ?_
  cases hscript : f.cls.isScript with
  | true => exact hother f hf hscript
  | false => exact Meets.throw hR (hstays f hf hscript)

end ScriptHost.Proofs.Transition
