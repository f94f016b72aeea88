import Mathlib.Tactic.IntervalCases
import ScriptHost.Proofs.Registration

/-!
# Hidden globals

The engine's side of a registration: which properties of the global object stand for host functions.
The engine is known by what it is asked for alone.  `KeepsHidden` says what adding a function,
deleting a hidden global, and evaluating the assignment of a rendered capability do to those
properties; everything else is derived from it.
-/

namespace ScriptHost.Proofs.HiddenGlobals

open Interpreter Registry
open ScriptHost.Proofs.Transition
open ScriptHost.Proofs.Invocation
open ScriptHost.Proofs.RenderedCapability
open ScriptHost.Proofs.RegistryGrowth
open ScriptHost.Proofs.RegistryBalance
open ScriptHost.Proofs.Registration

variable {E V : Type} {X : Interpreter E V} {globals : E → Text → Prop} {intact : E → Prop}

/-- A name for hidden globals. -/
def IsHidden (n : Text) : Prop := hiddenPrefix <+: n

theorem isHidden_hiddenName (id : Nat) : IsHidden (hiddenName id) :=
  List.prefix_append hiddenPrefix (Text.ofNat id)

/-- The names that modules must not have if hidden globals are to be left alone: those of the
runtime itself, and the global object's own. -/
def IsReserved (key : Text) : Prop := ("__jsvm_" : Text) <+: key ∨ key = "globalThis"

/-- The text that assigns a rendered capability. -/
def assignment (key value : Text) : Text :=
  "globalThis[" ++ Json.writeString true key ++ "] = " ++ value ++ ";"

theorem writePoint_digit {c : CodePoint} (h : c.isDigit = true) :
    Json.writePoint true c = [c] := by
  obtain ⟨n, hn⟩ := c
  obtain ⟨hlow, hhigh⟩ : 0x30 ≤ n ∧ n ≤ 0x39 := by simpa [CodePoint.isDigit] using h
  interval_cases n <;> rfl

theorem writeString_plain {t : Text} (h : ∀ c ∈ t, Json.writePoint true c = [c]) :
    Json.writeString true t = CodePoint.ofChar '"' :: t ++ [CodePoint.ofChar '"'] := by
  have hplain : t.flatMap (Json.writePoint true) = t := by
    induction t with
    | nil => rfl
    | cons c rest ih =>
        rw [List.flatMap_cons, h c List.mem_cons_self,
          ih fun d hd => h d (List.mem_cons_of_mem _ hd)]
        rfl
  rw [Json.writeString, hplain]

theorem isDigit_ofNat {n : Nat} : ∀ c ∈ Text.ofNat n, c.isDigit = true := by
  intro c hc
  obtain ⟨d, hd, rfl⟩ := List.mem_map.mp hc
  have hdigit : d.isDigit = true := by
    rw [Nat.repr_eq_ofList_toDigits, String.toList_ofList] at hd
    exact Nat.isDigit_of_mem_toDigits (by decide) (by decide) hd
  simp only [Char.isDigit, Bool.and_eq_true, decide_eq_true_eq, ge_iff_le] at hdigit
  simp only [CodePoint.isDigit, Bool.and_eq_true, decide_eq_true_eq]
  exact hdigit

theorem writeString_hiddenName (id : Nat) :
    Json.writeString true (hiddenName id) =
      CodePoint.ofChar '"' :: hiddenName id ++ [CodePoint.ofChar '"'] := by
  refine writeString_plain fun c hc => ?_
  have hplain : ∀ c ∈ hiddenPrefix, Json.writePoint true c = [c] := by decide
  rcases List.mem_append.mp hc with hlead | hnumber
  · exact hplain c hlead
  · exact writePoint_digit (isDigit_ofNat c hnumber)

/-- Two functions are never deleted by one text. -/
theorem deletion_injective : Function.Injective deletion := by
  intro m n hmn
  unfold deletion at hmn
  rw [writeString_hiddenName, writeString_hiddenName] at hmn
  have hquoted := List.append_cancel_left (List.append_cancel_right hmn)
  exact hiddenName_injective (List.append_cancel_right (List.cons.inj hquoted).2)

/-! ## What engines do to hidden globals -/

/-- In an engine that scripts have left intact, the hidden globals are other ones by `change`. -/
def Changes (globals : E → Text → Prop) (intact : E → Prop) (change : Text → Prop → Prop)
    (s s' : E × Instance V) : Prop :=
  intact s.1 → intact s'.1 ∧ ∀ n, IsHidden n → (globals s'.1 n ↔ change n (globals s.1 n))

/-- In an engine that scripts have left intact, the hidden globals stay what they are. -/
def SameHidden (globals : E → Text → Prop) (intact : E → Prop) (s s' : E × Instance V) : Prop :=
  Changes globals intact (fun _ there => there) s s'

/-- A computation that leaves the hidden globals what they are. -/
def Leaves {α : Type} (globals : E → Text → Prop) (intact : E → Prop) (body : HostM E V α) :
    Prop :=
  Meets (SameHidden globals intact) (fun _ => True) (fun _ => True) body

/-- What an engine does to hidden globals: `globals` are the own properties of its global object,
and `intact` holds of it as long as the script's code leaves the hidden ones alone. -/
structure KeepsHidden (X : Interpreter E V) (globals : E → Text → Prop) (intact : E → Prop) :
    Prop where
  addFunction : ∀ id s,
    Ends (fun _ s' => Changes globals intact (fun n there => there ∨ n = hiddenName id) s s')
      (fun _ s' => SameHidden globals intact s s') (X.addFunction id s)
  deletion : ∀ id s,
    Ends (fun _ s' => Changes globals intact (fun n there => there ∧ n ≠ hiddenName id) s s')
      (fun _ _ => True) (X.run (deletion id) s)
  assignment : ∀ key value s, Rendered value →
    Ends (fun _ s' => ¬IsReserved key → SameHidden globals intact s s')
      (fun _ s' => SameHidden globals intact s s') (X.run (assignment key value) s)
  lookup : ∀ name code, IsLookup name code → Leaves globals intact (X.run code)
  list : ∀ items, Leaves globals intact (X.listOfHost items)
  call : ∀ h args, Leaves globals intact (X.call h args)
  dataText : ∀ h, Leaves globals intact (X.dataText h)

theorem chains_sameHidden : Chains (SameHidden (V := V) globals intact) where
  refl _ := fun hintact => ⟨hintact, fun _ _ => Iff.rfl⟩
  trans hab hbc := fun hintact => by
    obtain ⟨hb, hfirst⟩ := hab hintact
    obtain ⟨hc, hsecond⟩ := hbc hb
    exact ⟨hc, fun n hn => (hsecond n hn).trans (hfirst n hn)⟩

/-- A script function that is called through the runtime leaves the hidden globals what they are. -/
theorem KeepsHidden.invoke (h : KeepsHidden X globals intact) (name args : HostValue) :
    Leaves globals intact (X.invoke name args) :=
  invoke_keeps chains_sameHidden (fun _ _ _ hintact => ⟨hintact, fun _ _ => Iff.rfl⟩)
    (h.lookup name) h.list h.call h.dataText

/-! ## Isolated engines -/

theorem keepingRegistry_ends {α : Type} {A : α → E × Instance V → Prop}
    {B : Fault → E × Instance V → Prop} {body : HostM E V α} {s : E × Instance V}
    (hA : ∀ a e i j, A a (e, i) → A a (e, j)) (hB : ∀ f e i j, B f (e, i) → B f (e, j))
    (h : Ends A B (body s)) : Ends A B (keepingRegistry body s) := by
  unfold keepingRegistry
  revert h
  cases body s with
  | ok a s' => exact hA a _ _ _
  | error f s' => exact hB f _ _ _

theorem isolated_run_eq (X : Interpreter E V) (code : Text) :
    (isolated X).run code = keepingRegistry (X.run code) := by
  funext s
  unfold Interpreter.run
  cases checkCode code with
  | ok u => rfl
  | error f => rfl

theorem isolated_listOfHost_eq (X : Interpreter E V) (items : List HostValue) :
    (isolated X).listOfHost items = keepingRegistry (X.listOfHost items) := by
  unfold Interpreter.listOfHost
  cases HostValue.literal (.list items) with
  | ok t => exact isolated_run_eq X _
  | error f => rfl

/-- An engine whose operations leave the registry alone does the same to hidden globals. -/
theorem KeepsHidden.isolated (h : KeepsHidden X globals intact) :
    KeepsHidden (isolated X) globals intact := by
  have hleaves : ∀ {α : Type} {body : HostM E V α}, Leaves globals intact body →
      Leaves globals intact (keepingRegistry body) := fun hbody s =>
    keepingRegistry_ends (fun _ _ _ _ h => h) (fun _ _ _ _ h => h) (hbody s)
  constructor
  · intro id s
    have hadd := h.addFunction id s
    exact keepingRegistry_ends (fun _ _ _ _ h => h) (fun _ _ _ _ h => h) hadd
  · intro id s
    have hdelete := h.deletion id s
    rw [isolated_run_eq]
    exact keepingRegistry_ends (fun _ _ _ _ h => h) (fun _ _ _ _ h => h) hdelete
  · intro key value s hvalue
    have hassign := h.assignment key value s hvalue
    rw [isolated_run_eq]
    exact keepingRegistry_ends (fun _ _ _ _ h => h) (fun _ _ _ _ h => h) hassign
  · intro name code hcode
    rw [isolated_run_eq]
    exact hleaves (h.lookup name code hcode)
  · intro items
    rw [isolated_listOfHost_eq]
    exact hleaves (h.list items)
  · exact fun r args => hleaves (h.call r args)
  · exact fun r => hleaves (h.dataText r)

/-- The functions that are noted as issued have become hidden globals. -/
def Shows (globals : E → Text → Prop) (intact : E → Prop)
    (s s' : List Nat × E × Instance V) : Prop :=
  ∃ ids, s'.1 = s.1 ++ ids ∧
    Changes globals intact (fun n there => there ∨ n ∈ ids.map hiddenName) s.2 s'.2

theorem shows_of_same {ids : List Nat} {s s' : E × Instance V}
    (h : SameHidden globals intact s s') : Shows globals intact (ids, s) (ids, s') := by
  refine ⟨[], (List.append_nil _).symm, fun hintact => ?_⟩
  obtain ⟨hafter, hsame⟩ := h hintact
  exact ⟨hafter, fun n hn => by simpa using hsame n hn⟩

theorem chains_shows : Chains (Shows (V := V) globals intact) where
  refl s := shows_of_same (chains_sameHidden.refl s.2)
  trans := by
    rintro a b c ⟨first, hb, hab⟩ ⟨second, hc, hbc⟩
    refine ⟨first ++ second, by rw [hc, hb, List.append_assoc], fun hintact => ?_⟩
    obtain ⟨hintactb, hfirst⟩ := hab hintact
    obtain ⟨hintactc, hsecond⟩ := hbc hintactb
    refine ⟨hintactc, fun n hn => ?_⟩
    rw [hsecond n hn, hfirst n hn, List.map_append]
    simp only [List.mem_append, or_assoc]

theorem bindFunction_shows (h : KeepsHidden X globals intact) (path target : HostValue) :
    Meets (Shows globals intact) Rendered (fun _ => True) (X.bindFunction path target) := by
  rintro ⟨ids, e, i⟩
  have hadd := h.addFunction i.registry.nextId
    (e, { i with registry := i.registry.issue { path, target } })
  rw [bindFunction_run]
  revert hadd
  cases X.addFunction i.registry.nextId
      (e, { i with registry := i.registry.issue { path, target } }) with
  | ok u s =>
      intro hchanges
      refine ⟨⟨[i.registry.nextId], rfl, fun hintact => ?_⟩, .function _⟩
      obtain ⟨hafter, hglobals⟩ := hchanges hintact
      exact ⟨hafter, fun n hn => by simpa using hglobals n hn⟩
  | error f s => exact fun hsame => ⟨shows_of_same fun hintact => hsame hintact, trivial⟩

/-- The walk over a capability shows as hidden globals the functions that it issues. -/
theorem walks_shows (h : KeepsHidden X globals intact) :
    Walks X (Shows globals intact) (fun _ => True) where
  chains := chains_shows
  bindFunction := bindFunction_shows h
  callPlain id b :=
    lift_meets (callPlain_meets chains_sameHidden (fun _ _ _ hintact => ⟨hintact, fun _ _ => Iff.rfl⟩)
      (fun _ _ _ hintact => ⟨hintact, fun _ _ => Iff.rfl⟩) h.invoke (fun _ _ => trivial) id b [])
      fun _ _ _ => shows_of_same
  foreign _ _ := trivial

/-- The attempt of a registration shows what it issued, whether it fails or not. -/
theorem attempt_shows (h : KeepsHidden X globals intact) (name : HostValue)
    {capability : HostValue} (hcapability : registersNothing capability = true)
    (s : E × Instance V) :
    Ends
      (fun _ reached => ¬IsReserved (keyOf name) → Changes globals intact
        (fun n there => there ∨ n ∈ reached.1.map hiddenName) s reached.2)
      (fun _ reached => Changes globals intact
        (fun n there => there ∨ n ∈ reached.1.map hiddenName) s reached.2)
      (attempt X name capability s) := by
  have hnoted : ∀ {reached}, Shows globals intact ([], s) reached → Changes globals intact
      (fun n there => there ∨ n ∈ reached.1.map hiddenName) s reached.2 := by
    rintro reached ⟨ids, hids, hchanges⟩
    rw [hids]
    exact hchanges
  have hbuild := (walks_shows h).build name capability hcapability ([], s)
  change Ends _ _ (EStateM.bind (X.build name capability) _ ([], s))
  unfold EStateM.bind
  revert hbuild
  cases X.build name capability ([], s) with
  | error f reached => exact fun hends => hnoted hends.1
  | ok value reached =>
      rintro ⟨hshows, hvalue⟩
      obtain ⟨ids, s₁⟩ := reached
      have hassign := h.assignment (keyOf name) value s₁ hvalue
      change Ends _ _ (EStateM.bind (BuildM.lift (X.run (assignment (keyOf name) value))) _
        (ids, s₁))
      unfold EStateM.bind
      cases hrun : X.run (assignment (keyOf name) value) s₁ with
      | ok v s₂ =>
          rw [hrun] at hassign
          rw [lift_ok ids hrun]
          exact fun hkey => hnoted (chains_shows.trans hshows (shows_of_same (hassign hkey)))
      | error f s₂ =>
          rw [hrun] at hassign
          rw [lift_error ids hrun]
          exact hnoted (chains_shows.trans hshows (shows_of_same hassign))

/-- Functions that are released are hidden globals no more. -/
theorem release_hides (h : KeepsHidden X globals intact) (ids : List Nat) (s : E × Instance V) :
    Ends
      (fun _ s' =>
        Changes globals intact (fun n there => there ∧ n ∉ ids.map hiddenName) s s')
      (fun _ _ => True) (X.release ids s) := by
  induction ids generalizing s with
  | nil => exact fun hintact => ⟨hintact, fun n _ => by simp⟩
  | cons id rest ih =>
      have hdelete := h.deletion id s
      rw [release_cons]
      change Ends _ _ (EStateM.bind (X.run (deletion id)) _ s)
      unfold EStateM.bind
      revert hdelete
      cases X.run (deletion id) s with
      | error f s₁ => exact fun _ => trivial
      | ok v s₁ =>
          intro hgone
          have hrest := ih (s₁.1, { s₁.2 with registry := s₁.2.registry.retire id })
          change Ends _ _ (X.release rest _)
          revert hrest
          change Ends _ _ (X.release rest _) → _
          cases X.release rest _ with
          | error f s₂ => exact fun _ => trivial
          | ok u s₂ =>
              intro hrest hintact
              obtain ⟨hintact₁, hfirst⟩ := hgone hintact
              obtain ⟨hintact₂, hsecond⟩ := hrest hintact₁
              refine ⟨hintact₂, fun n hn => ?_⟩
              rw [hsecond n hn]
              change globals s₁.1 n ∧ _ ↔ _
              rw [hfirst n hn, List.map_cons]
              simp only [List.mem_cons, not_or, and_assoc]

theorem install_hides (h : KeepsHidden X globals intact) (name capability : HostValue)
    (ids : List Nat) (s : E × Instance V) :
    Ends
      (fun _ s' => Changes globals intact
        (fun n there => there ∧ n ∉ (s.2.registry.boundTo (keyOf name)).map hiddenName) s s')
      (fun _ _ => True) (install X name capability ids s) := by
  have hrelease := release_hides h (s.2.registry.boundTo (keyOf name)) (vacated name s)
  rw [install_run]
  unfold EStateM.bind
  revert hrelease
  cases X.release (s.2.registry.boundTo (keyOf name)) (vacated name s) with
  | ok u s' => exact id
  | error f s' => exact id

/-- A registration that is undone to its end hides what it has shown. -/
theorem undo_hides (hX : RaisesEngineFaults X) (h : KeepsHidden X globals intact)
    (name : HostValue) (f : Fault) (ids : List Nat) (s : E × Instance V) :
    Ends (fun _ _ => False)
      (fun g s' => IsSettled g →
        Changes globals intact (fun n there => there ∧ n ∉ ids.map hiddenName) s s')
      (undo (isolated X) name f ids s) := by
  have hrelease := release_hides h.isolated ids s
  have hfaults := release_ends hX ids s
  change Ends _ _ (EStateM.bind ((isolated X).release ids) _ s)
  unfold EStateM.bind
  revert hrelease hfaults
  cases (isolated X).release ids s with
  | ok u s' =>
      intro hchanges _
      change Ends _ _ (EStateM.bind (HostM.wording f) _ s')
      unfold EStateM.bind HostM.wording
      cases f.message? with
      | some t => exact fun _ => hchanges
      | none => exact fun _ => hchanges
  | error g s' =>
      rintro - ⟨hg, -⟩ hsettled
      exact absurd hsettled (not_isSettled_of_engine hg)

/-! ## Hidden globals and live functions -/

/-- The hidden globals are those of the live functions. -/
def Mirrors (globals : E → Text → Prop) (s : E × Instance V) : Prop :=
  ∀ n, IsHidden n → (globals s.1 n ↔ n ∈ s.2.registry.live.map hiddenName)

theorem mem_map_hiddenName {id : Nat} {ids : List Nat} :
    hiddenName id ∈ ids.map hiddenName ↔ id ∈ ids :=
  List.mem_map_of_injective hiddenName_injective

/-- Hidden globals that were none before are gone without a trace once they are released. -/
theorem shown_and_hidden {there : Prop} {n : Text} {ids : List Nat}
    (hfresh : n ∈ ids.map hiddenName → ¬there) :
    (there ∨ n ∈ ids.map hiddenName) ∧ n ∉ ids.map hiddenName ↔ there := by
  constructor
  · rintro ⟨hthere | hnew, hnot⟩
    · exact hthere
    · exact absurd hnew hnot
  · intro hthere
    exact ⟨Or.inl hthere, fun hnew => hfresh hnew hthere⟩

/-- Names of some functions but not of others. -/
theorem mem_map_filter_hiddenName {n : Text} {ids others : List Nat} :
    n ∈ (ids.filter fun id => id ∉ others).map hiddenName ↔
      n ∈ ids.map hiddenName ∧ n ∉ others.map hiddenName := by
  constructor
  · intro hn
    obtain ⟨id, hid, rfl⟩ := List.mem_map.mp hn
    rw [List.mem_filter, decide_eq_true_eq] at hid
    rw [mem_map_hiddenName, mem_map_hiddenName]
    exact hid
  · rintro ⟨hn, hnot⟩
    obtain ⟨id, hid, rfl⟩ := List.mem_map.mp hn
    rw [mem_map_hiddenName] at hnot ⊢
    exact List.mem_filter.mpr ⟨hid, by simpa using hnot⟩

/-- A registration whose fault, if it has one, is settled keeps the hidden globals those of the live
functions. -/
theorem register_mirrors (hX : RaisesEngineFaults X)
    (h : KeepsHidden X globals intact) (name : HostValue) {capability : HostValue}
    (hcapability : registersNothing capability = true) (hkey : ¬IsReserved (keyOf name))
    {s : E × Instance V} (hlive : ∀ id ∈ s.2.registry.live, id < s.2.registry.nextId)
    (hintact : intact s.1) (hmirrors : Mirrors globals s) :
    Ends (fun _ s' => intact s'.1 ∧ Mirrors globals s')
      (fun f s' => IsSettled f → intact s'.1 ∧ Mirrors globals s')
      ((isolated X).register name capability s) := by
  by_cases hempty : keyOf name = []
  · rw [register_refused capability s hempty]
    exact fun _ => ⟨hintact, hmirrors⟩
  have hattempt := attempt_grows hX name hcapability s
  have hshown := attempt_shows h.isolated name hcapability s
  cases hrun : attempt (isolated X) name capability s with
  | ok u reached =>
      obtain ⟨ids, s₁⟩ := reached
      rw [hrun] at hattempt hshown
      obtain ⟨hintact₁, hglobals₁⟩ := hshown hkey hintact
      have hregistry := install_ends hX name capability ids s₁
      have hhides := install_hides h.isolated name capability ids s₁
      rw [register_assigned hempty hrun]
      revert hregistry hhides
      cases install (isolated X) name capability ids s₁ with
      | error f s' =>
          rintro ⟨hf, -⟩ - hsettled
          exact absurd hsettled (not_isSettled_of_engine hf)
      | ok u s' =>
          intro hregistry hhides
          obtain ⟨hintact', hglobals'⟩ := hhides hintact₁
          have hinstalled := installed_bind hattempt (keyOf name) name capability
          rw [← show s'.2.registry = _ from hregistry] at hinstalled
          have hbound : s₁.2.registry.boundTo (keyOf name) =
              s.2.registry.boundTo (keyOf name) := by
            simp only [boundTo, show s₁.2.registry.bound = _ from hattempt.bound]
          refine ⟨hintact', fun n hn => ?_⟩
          rw [hglobals' n hn, hglobals₁ n hn, hmirrors n hn, hbound, hinstalled.live,
            mem_map_filter_hiddenName, List.map_append, List.mem_append]
  | error f reached =>
      obtain ⟨ids, s₁⟩ := reached
      rw [hrun] at hattempt hshown
      obtain ⟨hgrown, hf⟩ := hattempt
      obtain ⟨hintact₁, hglobals₁⟩ := hshown hintact
      have hends := register_ends hX name hcapability hlive
      rw [register_failed hempty hrun] at hends ⊢
      cases hfault : f.cls.isRegistrationFault with
      | false => exact fun hsettled => absurd hsettled (not_isSettled hf (by simp [hfault]))
      | true =>
          have hundo := undo_hides hX h name f ids s₁
          rw [hfault, if_pos rfl] at hends
          rw [if_pos rfl]
          revert hends hundo
          cases undo (isolated X) name f ids s₁ with
          | ok u s' => exact fun _ => False.elim
          | error g s' =>
              rintro ⟨-, hback⟩ hundo hsettled
              obtain ⟨hintact', hglobals'⟩ := hundo hsettled hintact₁
              refine ⟨hintact', fun n hn => ?_⟩
              rw [hglobals' n hn, hglobals₁ n hn, hmirrors n hn, (hback hsettled).live,
                List.append_nil]
              refine shown_and_hidden fun hnew hold => ?_
              obtain ⟨id, hid, rfl⟩ := List.mem_map.mp hnew
              have hlow := hlive id (mem_map_hiddenName.mp hold)
              have hhigh := (hgrown.fresh id hid).1
              omega

/-! ## An engine of hidden globals alone -/

/-- The engine that knows nothing but hidden globals, by the numbers of their functions: it runs
the texts that delete them, and passes over every other text. -/
def bareEngine : Interpreter (List Nat) Unit where
  evaluate code := fun (ids, i) =>
    .ok (.plain .none) (ids.filter fun id => deletion id ≠ code, i)
  call _ _ := pure (.plain .none)
  dataText _ := pure none
  addFunction id := fun (ids, i) => .ok () (ids ++ [id], i)

/-- The own properties of its global object. -/
def bareGlobals (ids : List Nat) (n : Text) : Prop := n ∈ ids.map hiddenName

theorem raisesEngineFaults_bareEngine : RaisesEngineFaults bareEngine where
  evaluate _ := fun _ => ⟨trivial, trivial⟩
  call _ _ := fun _ => ⟨trivial, trivial⟩
  dataText _ := fun _ => ⟨trivial, trivial⟩
  addFunction _ := fun _ => ⟨trivial, trivial⟩

theorem deletion_not_identifier (id : Nat) : isIdentifierText (deletion id) = false := by
  unfold deletion
  rfl

/-- A text that deletes nothing leaves the bare engine what it is. -/
theorem bareEngine_passes {code : Text} (h : ∀ id, deletion id ≠ code) :
    Leaves bareGlobals (fun _ => True) (bareEngine.run code) := by
  refine run_meets chains_sameHidden (fun s => ⟨fun _ => ⟨trivial, fun n _ => ?_⟩, trivial⟩)
    fun _ _ => trivial
  rw [List.filter_eq_self.mpr fun id _ => by simpa using h id]

theorem keepsHidden_bareEngine : KeepsHidden bareEngine bareGlobals (fun _ => True) := by
  have hother : ∀ {code : Text} {c : CodePoint}, code.head? = some c → c ≠ CodePoint.ofChar 'd' →
      ∀ id, deletion id ≠ code := by
    intro code c hhead hne id heq
    have hfirst : (deletion id).head? = some (CodePoint.ofChar 'd') := by
      unfold deletion
      rfl
    rw [heq, hhead] at hfirst
    exact hne (Option.some.inj hfirst)
  have hglobal : ∀ {name : HostValue} {ref : Text}, globalReference name = .ok ref →
      ref.head? = some (CodePoint.ofChar 'g') := by
    intro name ref href
    unfold globalReference at href
    cases hwritten : Json.write Json.wire name with
    | ok t =>
        rw [hwritten] at href
        cases href
        rfl
    | error f =>
        rw [hwritten] at href
        cases href
  constructor
  · intro id s hintact
    exact ⟨trivial, fun n _ => by simp [bareGlobals]⟩
  · rintro id ⟨ids, i⟩
    unfold Interpreter.run
    cases checkCode (deletion id) with
    | error f => trivial
    | ok u =>
        refine fun _ => ⟨trivial, fun n _ => ?_⟩
        have hkept : (ids.filter fun j => deletion j ≠ deletion id) =
            ids.filter fun j => j ∉ [id] := by
          simp only [List.mem_singleton, deletion_injective.ne_iff, ne_eq]
        change n ∈ (ids.filter fun j => deletion j ≠ deletion id).map hiddenName ↔ _
        rw [hkept, mem_map_filter_hiddenName, List.map_singleton, List.mem_singleton]
        exact Iff.rfl
  · intro key value s _
    have hcode : (assignment key value).head? = some (CodePoint.ofChar 'g') := rfl
    have hleaves := bareEngine_passes (hother hcode (by decide)) s
    revert hleaves
    cases bareEngine.run (assignment key value) s with
    | ok v s' => exact fun h _ => h.1
    | error f s' => exact fun h => h.1
  · intro name code hcode
    cases hcode with
    | kind h =>
        have hhead : ("typeof " ++ Failure.shown name).head? = some (CodePoint.ofChar 't') := rfl
        exact bareEngine_passes (hother hhead (by decide))
    | @binding t h ht =>
        refine bareEngine_passes fun id heq => ?_
        rw [HostValue.isIdentifier, ht, ← heq] at h
        exact absurd h (by simp [deletion_not_identifier])
    | @globalKind ref h =>
        have hhead : ("typeof " ++ ref).head? = some (CodePoint.ofChar 't') := rfl
        exact bareEngine_passes (hother hhead (by decide))
    | global h => exact bareEngine_passes (hother (hglobal h) (by decide))
  · intro items
    refine (meets_ofExcept (Q := fun _ => True) chains_sameHidden (fun _ _ => trivial)
      fun _ _ => trivial).bind chains_sameHidden fun t _ => ?_
    have hhead : ("(" ++ t ++ ")").head? = some (CodePoint.ofChar '(') := rfl
    exact bareEngine_passes (hother hhead (by decide))
  · exact fun _ _ => Meets.pure chains_sameHidden trivial
  · exact fun _ => Meets.pure chains_sameHidden trivial

end ScriptHost.Proofs.HiddenGlobals
