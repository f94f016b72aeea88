import ScriptHost.Proofs.HiddenGlobals

/-!
# Registrations one after the other

A run starts from an empty registry and registers modules one by one; between two registrations
whatever leaves the registry alone may happen.  What the registry holds at the end of a run can be
read off the calls that were made.
-/

namespace ScriptHost.Proofs.RegistrationRuns

open Interpreter Registry
open ScriptHost.Proofs.Transition
open ScriptHost.Proofs.RenderedCapability
open ScriptHost.Proofs.RegistryGrowth
open ScriptHost.Proofs.RegistryBalance
open ScriptHost.Proofs.Registration
open ScriptHost.Proofs.HiddenGlobals

/-! ## Calls and runs -/

/-- One call of a registration, with the names of hidden globals it has handed out. -/
structure Call where
  name : HostValue
  capability : HostValue
  outcome : Except Fault Unit
  handedOut : List Text

namespace Call

/-- The key of the module that is registered. -/
def key (c : Call) : Text := keyOf c.name

/-- Whether the module has been put in place. -/
def succeeded (c : Call) : Bool :=
  match c.outcome with
  | .ok _ => true
  | .error _ => false

/-- If the call failed, nothing of it is left. -/
def Settled (c : Call) : Prop := ∀ f, c.outcome = .error f → IsSettled f

end Call

/-- The calls that have put a module in place. -/
def successes (calls : List Call) : List Call := calls.filter (·.succeeded)

/-- The first call for each key. -/
def firstOfEach : List Call → List Call
  | [] => []
  | c :: rest => c :: (firstOfEach rest).filter fun d => d.key ≠ c.key

/-- The last call for a key. -/
def lastFor (key : Text) (calls : List Call) : Option Call :=
  calls.reverse.find? fun c => c.key == key

/-- The names of the numbers that are issued from one registry to a later one. -/
def namesBetween (r r' : Registry) : List Text :=
  (List.range' r.nextId (r'.nextId - r.nextId)).map hiddenName

section Runs

variable {E V : Type}

/-- The registration runs by itself: no operation of the engine that it uses touches the registry,
as one would that called a script which registers a module in turn. -/
def RunsAlone (X : Interpreter E V) (name capability : HostValue) (s : E × Instance V) : Prop :=
  X.register name capability s = (isolated X).register name capability s

/-- The states that registrations lead to, made one after the other, and the calls made so far. -/
inductive Run (X : Interpreter E V) (between : E × Instance V → E × Instance V → Prop)
    (s₀ : E × Instance V) : List Call → E × Instance V → Prop
  | start : Run X between s₀ [] s₀
  | between {calls : List Call} {s s' : E × Instance V} (hrun : Run X between s₀ calls s)
    (hstep : between s s') : Run X between s₀ calls s'
  | returned {calls : List Call} {s s' : E × Instance V} {name capability : HostValue}
    (hrun : Run X between s₀ calls s) (hcapability : registersNothing capability = true)
    (halone : RunsAlone X name capability s)
    (hregister : X.register name capability s = .ok () s') :
    Run X between s₀ (calls ++ [{
      name, capability, outcome := .ok ()
      handedOut := namesBetween s.2.registry s'.2.registry }]) s'
  | raised {calls : List Call} {s s' : E × Instance V} {name capability : HostValue} {f : Fault}
    (hrun : Run X between s₀ calls s) (hcapability : registersNothing capability = true)
    (halone : RunsAlone X name capability s)
    (hregister : X.register name capability s = .error f s') :
    Run X between s₀ (calls ++ [{
      name, capability, outcome := .error f
      handedOut := namesBetween s.2.registry s'.2.registry }]) s'

end Runs

/-! ## First and last calls -/

theorem successes_returned (calls : List Call) {c : Call} (h : c.succeeded = true) :
    successes (calls ++ [c]) = successes calls ++ [c] := by
  simp [successes, List.filter_append, h]

theorem successes_raised (calls : List Call) {c : Call} (h : c.succeeded = false) :
    successes (calls ++ [c]) = successes calls := by
  simp [successes, List.filter_append, h]

theorem firstOfEach_cons (c : Call) (rest : List Call) :
    firstOfEach (c :: rest) = c :: (firstOfEach rest).filter fun d => d.key ≠ c.key :=
  rfl

theorem keys_firstOfEach {calls : List Call} {key : Text} :
    key ∈ (firstOfEach calls).map Call.key ↔ key ∈ calls.map Call.key := by
  induction calls with
  | nil => exact Iff.rfl
  | cons c rest ih =>
      rw [firstOfEach_cons, List.map_cons, List.map_cons, List.mem_cons, List.mem_cons, ← ih]
      by_cases hkey : key = c.key
      · simp [hkey]
      · rw [or_iff_right hkey, or_iff_right hkey]
        simp only [List.mem_map, List.mem_filter, decide_eq_true_eq]
        constructor
        · rintro ⟨d, ⟨hd, -⟩, rfl⟩
          exact ⟨d, hd, rfl⟩
        · rintro ⟨d, hd, rfl⟩
          exact ⟨d, ⟨hd, hkey⟩, rfl⟩

/-- A later call counts as a first one if its key is new. -/
theorem firstOfEach_concat (calls : List Call) (c : Call) :
    firstOfEach (calls ++ [c]) =
      if c.key ∈ calls.map Call.key then firstOfEach calls else firstOfEach calls ++ [c] := by
  induction calls with
  | nil => rfl
  | cons d rest ih =>
      rw [List.cons_append, firstOfEach_cons, firstOfEach_cons, ih, List.map_cons]
      by_cases hsame : c.key = d.key
      · rw [if_pos (List.mem_cons.mpr (Or.inl hsame))]
        split
        · rfl
        · simp [List.filter_append, hsame]
      · by_cases hknown : c.key ∈ rest.map Call.key
        · rw [if_pos hknown, if_pos (List.mem_cons.mpr (Or.inr hknown))]
        · have hnew : c.key ∉ d.key :: rest.map Call.key := by
            simp only [List.mem_cons, not_or]
            exact ⟨hsame, hknown⟩
          rw [if_neg hknown, if_neg hnew]
          simp [List.filter_append, hsame]

theorem lastFor_concat (key : Text) (calls : List Call) (c : Call) :
    lastFor key (calls ++ [c]) = if key = c.key then some c else lastFor key calls := by
  unfold lastFor
  rw [List.reverse_append, List.reverse_singleton, List.singleton_append]
  by_cases hkey : key = c.key
  · rw [if_pos hkey, List.find?_cons_of_pos (by simp [hkey])]
  · rw [if_neg hkey, List.find?_cons_of_neg (by simpa using Ne.symm hkey)]

theorem handedOut_concat {calls : List Call} {r r' : Registry} (hle : r.nextId ≤ r'.nextId)
    (h : calls.flatMap (·.handedOut) = (List.range r.nextId).map hiddenName) {c : Call}
    (hc : c.handedOut = namesBetween r r') :
    (calls ++ [c]).flatMap (·.handedOut) = (List.range r'.nextId).map hiddenName := by
  have hsplit : List.range r'.nextId =
      List.range r.nextId ++ List.range' r.nextId (r'.nextId - r.nextId) := by
    rw [List.range_eq_range', List.range_eq_range']
    conv_lhs => rw [← Nat.add_sub_cancel' hle, ← List.range'_append_1, Nat.zero_add]
  rw [List.flatMap_append, h, List.flatMap_singleton, hc, namesBetween, hsplit, List.map_append]

/-! ## Names and capabilities of modules -/

/-- The modules of a registry are those of the calls that succeeded. -/
structure Lists (calls : List Call) (r : Registry) : Prop where
  modules : (r.modules.map fun e => (e.1, e.2.name)) =
    (firstOfEach (successes calls)).map fun c => (c.key, c.name)
  capability : ∀ key, (r.module? key).map (·.capability) =
    (lastFor key (successes calls)).map (·.capability)

theorem Lists.keys {calls : List Call} {r : Registry} (h : Lists calls r) :
    r.modules.map (·.1) = (firstOfEach (successes calls)).map Call.key := by
  have hkeys := congrArg (List.map Prod.fst) h.modules
  simpa [List.map_map, Function.comp_def] using hkeys

theorem Lists.grown {calls : List Call} {r r' : Registry} (h : Lists calls r)
    (hgrown : Grown r r' []) : Lists calls r' where
  modules := by
    rw [hgrown.modules]
    exact h.modules
  capability := by
    intro key
    rw [module?, hgrown.modules]
    exact h.capability key

/-- A module that is put in place keeps its place and its name if it was there before, and has the
new capability. -/
theorem Lists.installed {calls : List Call} {r r' : Registry} (h : Lists calls r) {c : Call}
    {ids : List Nat} (hc : c.succeeded = true)
    (hinstalled : Installed r r' c.key c.name c.capability ids) : Lists (calls ++ [c]) r' where
  modules := by
    have hknown : c.key ∈ r.modules.map (·.1) ↔ c.key ∈ (successes calls).map Call.key := by
      rw [h.keys]
      exact keys_firstOfEach
    rw [hinstalled.modules, names_putModule, successes_returned calls hc, firstOfEach_concat,
      h.modules]
    by_cases hmem : c.key ∈ (successes calls).map Call.key
    · rw [if_pos (hknown.mpr hmem), if_pos hmem]
    · rw [if_neg (mt hknown.mp hmem), if_neg hmem, List.map_append, List.map_singleton]
  capability := by
    intro key
    have hbefore := h.capability key
    rw [module?, hinstalled.modules, find_putModule, successes_returned calls hc, lastFor_concat]
    by_cases hkey : key = c.key
    · rw [if_pos hkey, if_pos hkey]
      rfl
    · rw [if_neg hkey, if_neg hkey]
      exact hbefore

/-! ## What a run leads to -/

/-- What the registry holds, in the terms of the registry. -/
structure Balanced (calls : List Call) (r : Registry) : Prop where
  owned : Owned r
  lists : Lists calls r
  handedOut : calls.flatMap (·.handedOut) = (List.range r.nextId).map hiddenName

theorem balanced_empty : Balanced [] Registry.empty :=
  ⟨owned_empty, ⟨rfl, fun _ => rfl⟩, rfl⟩

/-- What the registry holds, as it shows: by the names of modules and of hidden globals. -/
structure Ledger (calls : List Call) (r : Registry) : Prop where
  /-- There is one list of functions for each module, and no other. -/
  keys : ∀ key, key ∈ r.bound.map (·.1) ↔ key ∈ r.modules.map (·.1)
  moduleKeys : (r.modules.map (·.1)).Nodup
  boundKeys : (r.bound.map (·.1)).Nodup
  /-- No function is listed twice, be it for one module or for two. -/
  distinct : (r.bound.flatMap fun e => e.2.map hiddenName).Nodup
  /-- The functions that are listed are the live ones. -/
  live : ∀ n, n ∈ r.bound.flatMap (fun e => e.2.map hiddenName) ↔
    n ∈ r.liveFunctions.map (·.1)
  issued : ∀ n ∈ r.liveFunctions.map (·.1), ∃ id < r.nextId, n = hiddenName id
  /-- All calls together have handed out each name up to the next one, and none twice. -/
  handedOut : calls.flatMap (·.handedOut) = (List.range r.nextId).map hiddenName
  handedOutOnce : (calls.flatMap (·.handedOut)).Nodup
  /-- Each module that was ever put in place is named once, in the order of the first times. -/
  names : r.names = (firstOfEach (successes calls)).map (·.name)
  /-- A module has the capability it was last put in place with. -/
  capability : ∀ key, (r.module? key).map (·.capability) =
    (lastFor key (successes calls)).map (·.capability)

theorem names_liveFunctions {r : Registry} (h : ∀ id ∈ r.live, id < r.nextId) :
    r.liveFunctions.map (·.1) = r.live.map hiddenName := by
  have hnamed : ∀ id ∈ r.live,
      ((r.function? id).map fun f => (hiddenName id, f)).map (·.1) = some (hiddenName id) := by
    intro id hid
    rw [function?, Array.getElem?_eq_getElem (h id hid)]
    rfl
  rw [liveFunctions, List.map_filterMap, List.filterMap_congr hnamed, List.filterMap_eq_map']

theorem Balanced.ledger {calls : List Call} {r : Registry} (h : Balanced calls r) :
    Ledger calls r := by
  have hlisted : r.bound.flatMap (fun e => e.2.map hiddenName) = (held r).map hiddenName := by
    rw [held, List.map_flatMap]
  have hnames := names_liveFunctions h.owned.issued
  constructor
  · exact h.owned.keys
  · exact h.owned.moduleKeys
  · exact h.owned.boundKeys
  · rw [hlisted]
    exact h.owned.distinct.map hiddenName_injective
  · intro n
    rw [hlisted, hnames, List.mem_map, List.mem_map]
    exact exists_congr fun id => and_congr_left fun _ => (h.owned.live id).symm
  · rw [hnames]
    intro n hn
    obtain ⟨id, hid, rfl⟩ := List.mem_map.mp hn
    exact ⟨id, h.owned.issued id hid, rfl⟩
  · exact h.handedOut
  · rw [h.handedOut]
    exact List.nodup_range.map hiddenName_injective
  · have hnames := congrArg (List.map Prod.snd) h.lists.modules
    simpa [Registry.names, List.map_map, Function.comp_def] using hnames
  · exact h.lists.capability

section Runs

variable {E V : Type} {X : Interpreter E V}
  {between : E × Instance V → E × Instance V → Prop} {s₀ s : E × Instance V} {calls : List Call}
  {globals : E → Text → Prop} {intact : E → Prop}

/-- Wherever a run leads, however its calls end: live functions have been issued. -/
theorem run_live_lt (hX : RaisesEngineFaults X)
    (hbetween : ∀ s s', between s s' → s'.2.registry = s.2.registry)
    (hstart : s₀.2.registry = Registry.empty) (hrun : Run X between s₀ calls s) :
    ∀ id ∈ s.2.registry.live, id < s.2.registry.nextId := by
  induction hrun with
  | start =>
      rw [hstart]
      exact owned_empty.issued
  | between _ hstep ih =>
      rw [hbetween _ _ hstep]
      exact ih
  | @returned calls s s' name capability _ hcapability halone hregister ih =>
      have hends := register_ends hX name hcapability ih
      rw [← show _ = _ from halone, hregister] at hends
      obtain ⟨ids, hinstalled⟩ := hends
      exact (drifted_installed hinstalled).live_lt ih
  | @raised calls s s' name capability f _ hcapability halone hregister ih =>
      have hends := register_ends hX name hcapability ih
      rw [← show _ = _ from halone, hregister] at hends
      exact hends.1.live_lt ih

theorem run_balanced (hX : RaisesEngineFaults X)
    (hbetween : ∀ s s', between s s' → s'.2.registry = s.2.registry)
    (hstart : s₀.2.registry = Registry.empty) (hrun : Run X between s₀ calls s)
    (hsettled : ∀ c ∈ calls, c.Settled) : Balanced calls s.2.registry := by
  induction hrun with
  | start =>
      rw [hstart]
      exact balanced_empty
  | between _ hstep ih =>
      rw [hbetween _ _ hstep]
      exact ih hsettled
  | @returned calls s s' name capability _ hcapability halone hregister ih =>
      have hbefore := ih fun c hc => hsettled c (List.mem_append_left _ hc)
      have hends := register_ends hX name hcapability hbefore.owned.issued
      rw [← show _ = _ from halone, hregister] at hends
      obtain ⟨ids, hinstalled⟩ := hends
      exact ⟨hinstalled.owned hbefore.owned, hbefore.lists.installed rfl hinstalled,
        handedOut_concat hinstalled.nextId_le hbefore.handedOut rfl⟩
  | @raised calls s s' name capability f _ hcapability halone hregister ih =>
      have hbefore := ih fun c hc => hsettled c (List.mem_append_left _ hc)
      have hends := register_ends hX name hcapability hbefore.owned.issued
      rw [← show _ = _ from halone, hregister] at hends
      have hgrown := hends.2 (hsettled _ (List.mem_append_right _ (List.mem_singleton_self _)) f rfl)
      refine ⟨hbefore.owned.grown hgrown, ⟨?_, ?_⟩,
        handedOut_concat hgrown.nextId_le hbefore.handedOut rfl⟩
      · rw [successes_raised calls rfl]
        exact (hbefore.lists.grown hgrown).modules
      · rw [successes_raised calls rfl]
        exact (hbefore.lists.grown hgrown).capability

/-- Along a run whose modules keep away from the names of the runtime, the hidden globals stay
those of the live functions. -/
theorem run_mirrors (hX : RaisesEngineFaults X) (hkeeps : KeepsHidden X globals intact)
    (hbetween : ∀ s s', between s s' → s'.2.registry = s.2.registry)
    (hleaves : ∀ s s', between s s' → SameHidden globals intact s s')
    (hstart : s₀.2.registry = Registry.empty) (hintact : intact s₀.1)
    (hclean : ∀ n, IsHidden n → ¬globals s₀.1 n) (hrun : Run X between s₀ calls s)
    (hsettled : ∀ c ∈ calls, c.Settled) (hkeys : ∀ c ∈ calls, ¬IsReserved c.key) :
    intact s.1 ∧ Mirrors globals s := by
  induction hrun with
  | start =>
      refine ⟨hintact, fun n hn => ?_⟩
      rw [hstart]
      exact iff_of_false (hclean n hn) List.not_mem_nil
  | between _ hstep ih =>
      obtain ⟨hbefore, hmirrors⟩ := ih hsettled hkeys
      obtain ⟨hafter, hsame⟩ := hleaves _ _ hstep hbefore
      refine ⟨hafter, fun n hn => ?_⟩
      rw [hsame n hn, hmirrors n hn, hbetween _ _ hstep]
  | @returned calls s s' name capability hrun hcapability halone hregister ih =>
      have hbefore : ∀ c ∈ calls, c.Settled := fun c hc => hsettled c (List.mem_append_left _ hc)
      obtain ⟨hintact', hmirrors⟩ := ih hbefore fun c hc => hkeys c (List.mem_append_left _ hc)
      have hlive := (run_balanced hX hbetween hstart hrun hbefore).owned.issued
      have hkey := hkeys _ (List.mem_append_right _ (List.mem_singleton_self _))
      have hends := register_mirrors hX hkeeps name hcapability hkey hlive hintact' hmirrors
      rw [← show _ = _ from halone, hregister] at hends
      exact hends
  | @raised calls s s' name capability f hrun hcapability halone hregister ih =>
      have hbefore : ∀ c ∈ calls, c.Settled := fun c hc => hsettled c (List.mem_append_left _ hc)
      obtain ⟨hintact', hmirrors⟩ := ih hbefore fun c hc => hkeys c (List.mem_append_left _ hc)
      have hlive := (run_balanced hX hbetween hstart hrun hbefore).owned.issued
      have hkey := hkeys _ (List.mem_append_right _ (List.mem_singleton_self _))
      have hends := register_mirrors hX hkeeps name hcapability hkey hlive hintact' hmirrors
      rw [← show _ = _ from halone, hregister] at hends
      exact hends (hsettled _ (List.mem_append_right _ (List.mem_singleton_self _)) f rfl)

end Runs

/-- The bare engine with an empty registry. -/
def bareStart : List Nat × Instance Unit := ([], .blank Unit)

/-- The state that registering a module on the bare engine leads to. -/
def bareAfter (capability : HostValue) (s : List Nat × Instance Unit) :
    List Nat × Instance Unit :=
  match bareEngine.register (.ofString "m") capability s with
  | .ok _ s' => s'
  | .error _ s' => s'

/-- A module with one function. -/
def oneFunction : HostValue := .ofFields [("a", .function 0 (.returns .none))]

/-- A module with one function and a member that scripts cannot be shown. -/
def halfShown : HostValue := .ofFields [("a", .function 0 (.returns .none)), ("b", .bytes [])]

end ScriptHost.Proofs.RegistrationRuns
