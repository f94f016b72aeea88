import ScriptHost.Proofs.SparingRegistrations

/-!
# Modules of functions

A module whose exports are host functions under given names.  Its text is known beforehand: each name
stands before the bridge of the function, and the functions are numbered in order.  In an engine that
serves, such a module is registered under a free name that can be written.
-/

namespace ScriptHost.Proofs.FunctionModules

open Interpreter Registry ScriptEngine
open Script
open ScriptHost.Proofs.BoundModules
open ScriptHost.Proofs.CapabilityPhrases
open ScriptHost.Proofs.GlobalValues
open ScriptHost.Proofs.GlobalWrites
open ScriptHost.Proofs.HiddenGlobals (assignment)
open ScriptHost.Proofs.Registration hiding Issues
open ScriptHost.Proofs.RenderedTrees
open ScriptHost.Proofs.RenderedValues
open ScriptHost.Proofs.ScriptRuns
open ScriptHost.Proofs.ServedGlobals
open ScriptHost.Proofs.SparingRegistrations

variable {fs : List (String × Behaviour)} {id n : Nat} {key : Text}

/-! ## The text of a module -/

/-- The exports of a module of functions. -/
def functionMembers (fs : List (String × Behaviour)) : List (HostValue × HostValue) :=
  fs.map fun e => (.str (Text.ofString e.1), .function 0 e.2)

theorem moduleOf_eq (typeName : String) (fs : List (String × Behaviour)) :
    moduleOf typeName fs =
      .object typeName .absent (.method (.dict (functionMembers fs))) none := by
  unfold moduleOf HostValue.ofFields functionMembers
  rw [List.map_map]
  rfl

/-- The members that the exports are rendered as, if the first function gets a given number. -/
def memberPhrases : Nat → List (String × Behaviour) → List (Text × Phrase)
  | _, [] => []
  | id, e :: rest => (Text.ofString e.1, .bridging id) :: memberPhrases (id + 1) rest

theorem keys_memberPhrases (id : Nat) (fs : List (String × Behaviour)) :
    (memberPhrases id fs).map (·.1) = fs.map fun e => Text.ofString e.1 := by
  induction fs generalizing id with
  | nil => rfl
  | cons e rest ih => rw [memberPhrases, List.map_cons, List.map_cons, ih]

/-- The functions of the members have the numbers from the given one on. -/
theorem phrase_of_mem {m : Text × Phrase} (hm : m ∈ memberPhrases id fs) :
    ∃ i, id ≤ i ∧ i < id + fs.length ∧ m.2 = .bridging i := by
  induction fs generalizing id with
  | nil => cases hm
  | cons e rest ih =>
      rw [memberPhrases] at hm
      rcases List.mem_cons.mp hm with rfl | hm
      · exact ⟨id, Nat.le_refl id, by simp, rfl⟩
      · obtain ⟨i, hle, hlt, heq⟩ := ih hm
        exact ⟨i, by omega, by simp only [List.length_cons]; omega, heq⟩

/-- The texts of the members. -/
def memberTexts (id : Nat) (fs : List (String × Behaviour)) : List Text :=
  (memberPhrases id fs).map fun m => renderedMember m.1 m.2.text

/-! ## Issuing functions -/

/-- Functions have been issued while a capability is rendered, so many of them, and nothing else has
been done. -/
structure Issuing (n : Nat) (s s' : List Nat × Machine × Host) : Prop where
  ready : Ready s'
  leaves : Leaves [] s.2 s'.2
  issued : ∀ id, s.2.2.registry.nextId ≤ id → id < s'.2.2.registry.nextId → id ∈ s'.1
  kept : s.1 ⊆ s'.1
  tallies : Tallies n s.2.1 s'.2.1
  next : s'.2.2.registry.nextId = s.2.2.registry.nextId + n
  bound : s'.2.2.registry.bound = s.2.2.registry.bound

namespace Issuing

variable {s s' s'' : List Nat × Machine × Host} {l : Nat}

theorem refl (hs : Ready s) : Issuing 0 s s :=
  ⟨hs, .refl _ _, fun _ hle hlt => absurd hlt (Nat.not_lt.mpr hle), List.Subset.refl _,
    .of_same rfl (Nat.le_refl _), rfl, rfl⟩

theorem trans (h : Issuing n s s') (h' : Issuing l s' s'') : Issuing (n + l) s s'' where
  ready := h'.ready
  leaves := h.leaves.trans h'.leaves
  issued id hle hlt := by
    by_cases hid : id < s'.2.2.registry.nextId
    · exact h'.kept (h.issued id hle hid)
    · exact h'.issued id (Nat.not_lt.mp hid) hlt
  kept := List.Subset.trans h.kept h'.kept
  tallies := h.tallies.trans h'.tallies
  next := by rw [h'.next, h.next, Nat.add_assoc]
  bound := h'.bound.trans h.bound

end Issuing

theorem bindFunction_issues (path target : HostValue) (s : List Nat × Machine × Host) (hs : Ready s) :
    ∃ s', interpreter.bindFunction path target s =
        .ok (Phrase.bridging s.2.2.registry.nextId).text s' ∧ Issuing 1 s s' := by
  obtain ⟨ids, e, i⟩ := s
  have hbuilds := bindFunction_builds (P := fun _ => False) path target (ids, e, i) hs
  obtain ⟨s', hadd, hhost, -, htallies, -⟩ := addFunction_serves
    (s := (e, { i with registry := i.registry.issue { path, target } })) hs.served
  rw [bindFunction_run, hadd] at hbuilds ⊢
  have hregistry : s'.2.registry = i.registry.issue { path, target } := by rw [hhost]
  have hnext : s'.2.registry.nextId = i.registry.nextId + 1 := by
    rw [hregistry]
    simp [nextId, issue]
  refine ⟨_, rfl, hbuilds.1.ready, hbuilds.1.leaves, fun id hle hlt => ?_,
    List.subset_append_left _ _, htallies, hnext, ?_⟩
  · have hlt' : id < s'.2.registry.nextId := hlt
    rw [hnext] at hlt'
    obtain rfl : id = i.registry.nextId := Nat.le_antisymm (Nat.le_of_lt_succ hlt') hle
    simp
  · change s'.2.registry.bound = i.registry.bound
    rw [hregistry]
    rfl

/-- By induction on the functions: they are issued in order. -/
theorem buildMembers_issues (path : HostValue) (fs : List (String × Behaviour)) :
    ∀ s : List Nat × Machine × Host, Ready s → ∃ s',
      interpreter.buildMembers path (functionMembers fs) s =
          .ok (memberTexts s.2.2.registry.nextId fs) s' ∧ Issuing fs.length s s' := by
  induction fs with
  | nil => exact fun s hs => ⟨s, rfl, .refl hs⟩
  | cons e rest ih =>
      intro s hs
      obtain ⟨s₁, hfirst, hissuing⟩ :=
        bindFunction_issues (memberPath path (.str (Text.ofString e.1))) (.function 0 e.2) s hs
      obtain ⟨s₂, hrest, hmore⟩ := ih s₁ hissuing.ready
      refine ⟨s₂, ?_, by
        rw [List.length_cons, Nat.add_comm]
        exact hissuing.trans hmore⟩
      change EStateM.bind (interpreter.bindFunction _ _) _ s = _
      unfold EStateM.bind
      rw [hfirst]
      change EStateM.bind (interpreter.buildMembers path (functionMembers rest)) _ s₁ = _
      unfold EStateM.bind
      rw [hrest, hissuing.next]
      rfl

/-! ## Registering a module -/

variable {s s' : Machine × Host}

/-- The names of the functions tell them apart, and the text is short enough for the engine. -/
structure IsConcise (id : Nat) (fs : List (String × Behaviour)) : Prop where
  keys : (fs.map fun e => Text.ofString e.1).Nodup
  short : (Json.bracketed "\x7b" "\x7d" (memberTexts id fs)).length + 8 ≤ below

/-- A module has been registered that nothing was known of before. -/
structure Registers (key : Text) (n : Nat) (s s' : Machine × Host) : Prop where
  leaves : Leaves [key] s s'
  tallies : Tallies (n + 1) s.1 s'.1
  next : s'.2.registry.nextId = s.2.registry.nextId + n
  bound : ∀ k ≠ key, s'.2.registry.boundTo k = s.2.registry.boundTo k

theorem build_issues (path : HostValue) (typeName : String) (fs : List (String × Behaviour))
    (hs : IsServed s) : ∃ ids s', interpreter.build path (moduleOf typeName fs) ([], s) =
        .ok (Json.bracketed "\x7b" "\x7d" (memberTexts s.2.registry.nextId fs)) (ids, s') ∧
      Issuing fs.length ([], s) (ids, s') := by
  obtain ⟨⟨ids, s'⟩, hmembers, hissuing⟩ :=
    buildMembers_issues path fs ([], s) ⟨hs, by simp, by simp⟩
  refine ⟨ids, s', ?_, hissuing⟩
  rw [moduleOf_eq]
  change EStateM.bind (interpreter.buildMembers path (functionMembers fs)) _ ([], s) = _
  unfold EStateM.bind
  rw [hmembers]
  rfl

/-- The rendered module is assigned, and its value is a new object. -/
theorem attempt_issues (typeName : String) (hs : IsServed s) (hfree : IsFree key) (hopen : IsOpenTo s.1 key)
    (hfs : IsConcise s.2.registry.nextId fs) : ∃ ids s',
    attempt interpreter (.str key) (moduleOf typeName fs) s = .ok () (ids, s') ∧
      Leaves [key] s s' ∧ Tallies (fs.length + 1) s.1 s'.1 ∧
      s'.2.registry.nextId = s.2.registry.nextId + fs.length ∧
      s'.2.registry.bound = s.2.registry.bound := by
  obtain ⟨ids, s₁, hbuild, hissuing⟩ := build_issues (.str key) typeName fs hs
  let id := s.2.registry.nextId
  have hkeys : ((memberPhrases id fs).map (·.1)).Nodup := by
    rw [keys_memberPhrases]
    exact hfs.keys
  have hids : ∀ i, id ≤ i → i < id + fs.length → i ∈ ids := fun i hle hlt =>
    hissuing.issued i hle (by rw [hissuing.next]; exact hlt)
  have hmember : ∀ m ∈ memberPhrases id fs, IsRenderedPhrase ids m.2 := by
    intro m hm
    obtain ⟨i, hle, hlt, heq⟩ := phrase_of_mem hm
    rw [heq]
    exact ⟨isClean_bridging i, .bridging (hids i hle hlt) (Nat.le_add_left 6 _)⟩
  obtain ⟨w, s₂, s₃, hvalue, hrun, hhost, hspares, hwrites⟩ := run_assignment hissuing.ready.served
    hissuing.ready.functions (isRenderedPhrase_mapping hkeys hmember) hfs.short
    (ofText_ne_prototype hfree.notPrototype)
  -- The value is evaluated again, now that it is known for a new object.
  obtain ⟨d, hd⟩ := below_levels 8 (by decide)
  have hready : IsReadyFor ids (inScript s₁) :=
    hissuing.ready.served.isReadyFor hissuing.ready.functions
  obtain ⟨s₂', hobject, -, hhere⟩ := @mapping_value _ hostCall (d + 6) ids
    ( (memberPhrases id fs).map fun m => (Utf16.ofText m.1, m.2.tree)) (fun m hm => by
      obtain ⟨p, hp, rfl⟩ := List.mem_map.mp hm
      obtain ⟨i, hle, hlt, heq⟩ := phrase_of_mem hp
      dsimp only
      rw [heq]
      exact hasValue_of_rendered (.bridging (hids i hle hlt) (Nat.le_add_left 6 d)))
    (inScript s₁) hready
  rw [List.map_map] at hobject
  rw [show below - 1 = d + 7 by omega] at hvalue
  cases hvalue.symm.trans hobject
  have hopen₁ : IsOpenTo s₁.1 key := by
    obtain ⟨l, hl⟩ := hopen
    exact ⟨l, hissuing.leaves.spares.holdsUp (fun _ hp => hp) hl⟩
  have hwritten : Leaves [key] s₁ s₃ :=
    ⟨hspares.mono fun k hk => .inl ⟨_, List.mem_singleton_self _, hk⟩,
      by unfold KeptStates.Issues; rw [hhost], fun k _ => by rw [hhost]⟩
  refine ⟨ids, s₃, ?_, (hissuing.leaves.mono (by simp)).trans hwritten,
    hissuing.tallies.trans ((hwrites hopen₁).2 hhere), ?_, ?_⟩
  · change EStateM.bind _ _ ([], s) = _
    unfold EStateM.bind
    rw [hbuild]
    change EStateM.bind (BuildM.lift (interpreter.run (assignment key
      (Phrase.mapping (memberPhrases id fs) hkeys).text))) _ (ids, s₁) = _
    unfold EStateM.bind BuildM.lift
    dsimp only
    rw [hrun]
    rfl
  · rw [hhost]
    exact hissuing.next
  · rw [hhost]
    exact hissuing.bound

theorem boundTo_bind {r : Registry} {k : Text} (hk : k ≠ key) (name capability : HostValue)
    (ids : List Nat) : ((r.unbind key).bind key name capability ids).boundTo k = r.boundTo k := by
  have hfind : ∀ es : List (Text × List Nat),
      (((es.filter fun e => e.1 != key).filter fun e => e.1 != key) ++ [(key, ids)]).find?
        (fun e => e.1 == k) = es.find? fun e => e.1 == k := by
    intro es
    rw [List.find?_append, List.find?_filter, List.find?_filter]
    have hlast : List.find? (fun e : Text × List Nat => e.1 == k) [(key, ids)] = none := by
      simp [Ne.symm hk]
    rw [hlast, Option.or_none]
    refine congrArg (List.find? · es) (funext fun e => ?_)
    by_cases he : e.1 = k
    · simp [he, hk]
    · simp [he]
  unfold boundTo
  exact congrArg (fun o : Option (Text × List Nat) => (o.map (·.2)).getD []) (hfind r.bound)

/-- A module of functions is registered under a free name that can be written and that holds no functions
so far. -/
theorem register_functions (typeName : String) (hs : IsServed s) (hfree : IsFree key) (hkey : key ≠ [])
    (hopen : IsOpenTo s.1 key) (hfs : IsConcise s.2.registry.nextId fs)
    (hunbound : s.2.registry.boundTo key = []) : ∃ s',
    interpreter.register (.str key) (moduleOf typeName fs) s = .ok () s' ∧
      Registers key fs.length s s' := by
  obtain ⟨ids, s₁, hattempt, hleaves, htallies, hnext, hbound⟩ :=
    attempt_issues typeName hs hfree hopen hfs
  have hunbound₁ : s₁.2.registry.boundTo key = [] := by
    unfold boundTo at hunbound ⊢
    rw [hbound]
    exact hunbound
  have hs₁ := hleaves.served (by simpa using hfree) hs
  let vacant := vacated (.str key) s₁
  let s' : Machine × Host := (vacant.1, { vacant.2 with
    registry := vacant.2.registry.bind key (.str key) (moduleOf typeName fs) ids })
  have hrun : install interpreter (.str key) (moduleOf typeName fs) ids s₁ = .ok () s' := by
    rw [install_run, show keyOf (.str key) = key from rfl, hunbound₁]
    rfl
  obtain ⟨s'', hinstall, hmore, -⟩ := install_leaves hs₁ (moduleOf typeName fs) ids
  cases hrun.symm.trans hinstall
  refine ⟨s', (register_assigned (show keyOf (.str key) ≠ [] from hkey) hattempt).trans hrun,
    hleaves.trans hmore, htallies, hnext, fun k hk => ?_⟩
  refine (boundTo_bind hk _ _ _).trans ?_
  unfold boundTo
  rw [hbound]

end ScriptHost.Proofs.FunctionModules
