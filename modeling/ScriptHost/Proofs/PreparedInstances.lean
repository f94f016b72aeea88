import ScriptHost.Proofs.FreshEngines
import ScriptHost.Proofs.FunctionModules

/-!
# Preparing an instance

The bridge is assigned to its global, the applier is made, the functions that are there are listed, and
the built-in modules are registered.  In an engine in which nothing has been changed all of that runs
through, and nothing that the listing of functions or further registrations rely on is lost.
-/

namespace ScriptHost.Proofs.PreparedInstances

open Interpreter Registry ScriptEngine
open Script Script.Eval
open ScriptHost.Proofs.Applier
open ScriptHost.Proofs.AssignedKeys
open ScriptHost.Proofs.Bindings
open ScriptHost.Proofs.BoundModules
open ScriptHost.Proofs.Bridge
open ScriptHost.Proofs.BuiltData (get_put_self)
open ScriptHost.Proofs.DataTexts
open ScriptHost.Proofs.DataValues
open ScriptHost.Proofs.Evaluation
open ScriptHost.Proofs.FreshEngines
open ScriptHost.Proofs.FunctionModules
open ScriptHost.Proofs.GlobalListings
open ScriptHost.Proofs.GlobalValues
open ScriptHost.Proofs.GlobalWrites
open ScriptHost.Proofs.NewObjects
open ScriptHost.Proofs.PropertyChains
open ScriptHost.Proofs.ReferenceTrees (globalName)
open ScriptHost.Proofs.ScriptRuns
open ScriptHost.Proofs.ServedGlobals
open ScriptHost.Proofs.SparingRegistrations
open ScriptHost.Proofs.Transition (host_bind_ok)

/-! ## The bridge -/

/-- The key of the bridge. -/
def bridgeKey : Name := Utf16.ofText bridgeName

/-- The expression that gives a function to the global of the bridge. -/
def bridgeTree (f : Function) (line line' : Nat) : Expr :=
  .assign (.member (.name globalName line) bridgeKey false line') (.function f)

theorem isClean_bridgeSource : IsClean bridgeSource := by
  unfold bridgeSource
  simp only [ofString_append]
  iterate 9 rw [ofString_ofList]
  exact Scanning.forall_of_all (by decide +kernel)

variable {s s' : Machine × Host} {next n l : Nat} {key : Text}

/-- The bridge is made and written to its global. -/
theorem evaluate_bridgeTree {f : Function} {t : Telling} {line line' d : Nat} (hf : Bridges f t)
    (hbinds : f.info.bindsName = false) (hconstant : HasConstant s.1 globalName (.object globalRef))
    (htabular : IsTabular (objectAt s.1 globalRef))
    (hextensible : (objectAt s.1 globalRef).extensible = true) (hbare : IsBare s.1)
    (hopen : IsOpenTo s.1 bridgeName) : ∃ b s',
    (Engine.interp hostCall (d + 2)).evaluate scriptSite (bridgeTree f line line') s =
        .ok (.object b) s' ∧ s'.2 = s.2 ∧
      Spares (· = keyName bridgeName) s.1 s'.1 ∧ Tallies 1 s.1 s'.1 ∧
      ∃ c t, HasConstant s'.1 bridgeKey (.object b) ∧ IsBridge s'.1 b c t := by
  have hglobal : globalRef.index < s.1.objects.size := by
    obtain ⟨w, e, d, hown⟩ := hconstant.property
    exact index_lt (ne_default_of_own hown)
  obtain ⟨u, s₁, hline, hnewer₁, -⟩ := adds_reachLine line s (Nat.le_refl s.1.objects.size)
  have hbase : (Engine.interp hostCall (d + 1)).evaluate scriptSite (.name globalName line) s =
      .ok (.object globalRef) s₁ := by
    change (reachLine line >>= fun _ => Variable.read (Engine.interp hostCall d) 0 globalName) s = _
    rw [bind_ok hline]
    exact (RenderedValues.HasConstant.grows hconstant hnewer₁.grows).read_outermost
  obtain ⟨u', s₂, hline', hnewer₂, -⟩ := adds_reachLine line' s₁ hnewer₁.size
  obtain ⟨s₃, hmake, hnewer₃, hclosure⟩ := make_run scriptSite hbinds hf.isGenerator s₂
  let b : Ref := ⟨s₂.1.objects.size⟩
  have hsize : s.1.objects.size ≤ s₂.1.objects.size := Nat.le_trans hnewer₁.size hnewer₂.size
  have hgrows : Grows s.1.objects.size s s₃ :=
    (hnewer₁.grows.trans hnewer₂.grows).trans (hnewer₃.grows.mono hsize)
  have hadded : Spares (· = keyName bridgeName) s.1 s₃.1 := .of_grows hgrows hglobal
  have htabular₃ : IsTabular (objectAt s₃.1 globalRef) := htabular.of_kind hadded.kind
  obtain ⟨i, hi₀⟩ := hopen
  have hopen₃ := hadded.holdsUp (fun _ hp => hp) hi₀
  have htakes : Takes s₃.1 (keyName bridgeName) globalRef :=
    ⟨hopen₃.ordinary.inRange, htabular₃, hopen₃.passes, fun _ => hadded.extensible.trans hextensible⟩
  obtain ⟨e, c, hset⟩ := trySet_takes (I := Engine.interp hostCall (d + 1)) (v := .object b) htakes
  let s₄ := updated globalRef (·.place (keyName bridgeName) (holding (.object b) e c)) s₃
  have hplaced : Spares (· = keyName bridgeName) s₃.1 s₄.1 :=
    spares_placed htabular₃ hopen₃.ordinary.inRange _ _ _ hopen₃.own
  have hhere : IsHere s₃.1 (.object b) := index_lt_of_closure hclosure
  have hcounted : Tallies 1 s.1 s₄.1 := by
    simpa using (Tallies.of_grows (n := 0) hgrows hglobal).trans
      (.of_placed htabular₃ hopen₃.ordinary.inRange hhere (keyName bridgeName) e c)
  refine ⟨b, s₄, ?_, hgrows.host, hadded.trans hplaced, hcounted, ⟨f, 0, none, []⟩, t, ?_, ?_⟩
  · change Expression.assign (Engine.interp hostCall (d + 1)) scriptSite
      (.member (.name globalName line) bridgeKey false line') (.function f) s = _
    unfold Expression.assign Expression.target
    dsimp only
    have htarget : ((Engine.interp hostCall (d + 1)).evaluate scriptSite (.name globalName line) >>=
        fun base => reachLine line' >>= fun _ =>
          (pure (.property base (.name bridgeKey) base) : Eval Host Expression.Target)) s =
        .ok (.property (.object globalRef) (.name bridgeKey) (.object globalRef)) s₂ := by
      rw [bind_ok hbase, bind_ok hline']
      rfl
    have hvalue : (Engine.interp hostCall (d + 1)).evaluate scriptSite (.function f) s₂ =
        .ok (.object b) s₃ := (bind_ok hmake).trans rfl
    have hwrite : Expression.writeTarget (Engine.interp hostCall (d + 1)) scriptSite
        (.property (.object globalRef) (.name bridgeKey) (.object globalRef)) (.object b) s₃ =
          .ok () s₄ := by
      unfold Expression.writeTarget
      exact (bind_ok hset).trans rfl
    refine (bind_ok htarget).trans ((bind_ok hvalue).trans ((bind_ok hwrite).trans rfl))
  · obtain ⟨sc, hsc, hbindings, hparent, -⟩ := hbare.spares (hadded.trans hplaced)
    refine ⟨⟨sc, hsc, hparent, ?_⟩, (htabular₃.of_kind hplaced.kind).direct, true, e, c, ?_⟩
    · unfold Variable.indexIn
      rw [hbindings]
      simp
    · rw [objectAt_updated hopen₃.ordinary.inRange, htabular₃.place]
      exact (htabular₃.own_put _ _ _).trans (get_put_self _ _ _)
  · exact ⟨(hplaced.kinds (index_lt_of_closure hclosure)).trans hclosure, hf, rfl⟩

/-- The script of the bridge runs through, and then the bridge is there. -/
theorem run_bridgeSource (ha : Allows s.1 next) (hi : IsIntact n s.1) (hbare : IsBare s.1)
    (hopen : IsOpenTo s.1 bridgeName) : ∃ w s', interpreter.run bridgeSource s = .ok w s' ∧
      s'.2 = s.2 ∧ Spares (· = keyName bridgeName) s.1 s'.1 ∧ Tallies 1 s.1 s'.1 ∧
      ∃ b c t, HasConstant s'.1 bridgeKey (.object b) ∧ IsBridge s'.1 b c t := by
  obtain ⟨d, hd⟩ := below_levels 2 (by decide)
  have hconstant := hi.lists.global
  obtain ⟨i, hopen⟩ := hopen
  obtain ⟨b, s₁, hevaluate, hhost, hspares, htallies, c, t', hbridge, hbridges⟩ :=
    @evaluate_bridgeTree (inLines true s) bridgeFunction asking 2 2 d bridges_bridgeFunction rfl
      ⟨hconstant.outermost, hconstant.direct, hconstant.property⟩ ha.tabular ha.extensible hbare
      ⟨i, hopen.of_same (m := s.1) rfl⟩
  have hscript : Statement.runScript evaluator bridgeSource s = .ok (.object b) (leftScript s s₁) := by
    rw [evaluator_below, runScript_lines parse_bridgeSource, hd]
    unfold bridgeTree at hevaluate
    exact hevaluate ▸ rfl
  have hlines : Spares (· = keyName bridgeName) (inScript s).1 (inLines true s).1 :=
    .of_same rfl rfl rfl
  have hcounted : Tallies 0 (inScript s).1 (inLines true s).1 := .of_same rfl (Nat.le_refl _)
  refine ⟨.handle (.object b), leftScript s s₁, (run_script isClean_bridgeSource hscript).trans rfl,
    hhost, (hlines.trans hspares).of_script, ?_, b, c, t',
    ⟨hbridge.outermost, hbridge.direct, hbridge.property⟩, hbridges.closure, hbridges.code,
    hbridges.scope⟩
  have hall := (hcounted.trans htallies).of_script
  rwa [Nat.zero_add] at hall

/-! ## The applier -/

/-- The script of the applier gives a function, and adds to what is there. -/
theorem run_applierSource (s : Machine × Host) : ∃ a c s',
    interpreter.run applierSource s = .ok (.handle (.object a)) s' ∧ Grows s.1.objects.size s s' ∧
      IsApplier s'.1 a c := by
  obtain ⟨f, hparse, hf⟩ := parse_applierSource
  obtain ⟨d, hd⟩ := below_levels 1 (by decide)
  obtain ⟨s₁, hmake, hnewer, hclosure⟩ := make_run scriptSite hf.bindsName hf.isGenerator (inScript s)
  have hevaluate : (Engine.interp hostCall below).evaluate scriptSite (.function f) (inScript s) =
      .ok (.object ⟨s.1.objects.size⟩) s₁ := by
    rw [hd]
    exact (bind_ok hmake).trans rfl
  exact ⟨⟨s.1.objects.size⟩, ⟨f, 0, none, []⟩, leftScript s s₁,
    run_evaluated (Scanning.forall_of_all (by decide)) hparse hevaluate rfl,
    Grows.leftScript hnewer.grows, hclosure, hf, rfl⟩

/-! ## The built-in modules -/

/-- An instance that has its bridge: nothing has been changed that is relied on, and there is room for a
number of further globals. -/
structure IsPrepared (n : Nat) (s : Machine × Host) : Prop where
  intact : IsIntact n s.1
  served : IsServed s
  bare : IsBare s.1
  idle : s.1.depth = 0

/-- An instance is as well prepared as before, as long as the keys that are relied on are spared. -/
theorem IsPrepared.leaves (h : IsPrepared (n + l) s) (hleaves : Leaves [key] s s')
    (hfree : IsFree key) (hkey : keyName key ∉ reliedKeys) (ht : Tallies n s.1 s'.1) :
    IsPrepared l s' :=
  ⟨IsIntact.spares hleaves.spares (not_touches_relied (by simpa using hkey)) h.intact ht,
    hleaves.served (by simpa using hfree) h.served, h.bare.spares hleaves.spares,
    hleaves.spares.depth.trans h.idle⟩

/-- An instance is as well prepared as before where objects and scopes are added. -/
theorem IsPrepared.grows (h : IsPrepared n s) (hgrows : Grows s.1.objects.size s s') :
    IsPrepared n s' := by
  have hglobal := h.intact.lists.global_here
  have hspares : Spares (fun _ => False) s.1 s'.1 := .of_grows hgrows hglobal
  have hcounted : Tallies 0 s.1 s'.1 := .of_grows hgrows hglobal
  have hintact : IsIntact (0 + n) s.1 := by
    rw [Nat.zero_add]
    exact h.intact
  refine ⟨IsIntact.spares hspares (fun _ _ => id) hintact hcounted, ?_, h.bare.spares hspares,
    hspares.depth.trans h.idle⟩
  unfold IsServed
  rw [hgrows.host]
  exact Serves.spares h.served hspares id id

/-- Preparing an instance whose engine is as instances find it runs through. -/
theorem prepare_run (h : IsPreparable s.1) (hregistry : s.2.registry = .empty) : ∃ s',
    interpreter.prepare s = .ok () s' ∧ IsPrepared 999 s' ∧
      s'.2.registry = .empty ∧ s'.2.script = s.2.script ∧
      (∀ key ∈ preparedNames, key ≠ bridgeName → IsOpenTo s'.1 key) := by
  obtain ⟨w, s₁, hbridge, hhost₁, hspares₁, htallies₁, b, c, t, hconstant, hbridges⟩ :=
    run_bridgeSource h.allows h.intact h.bare (h.opened _ (by simp [preparedNames]))
  have hrelied : ∀ k ∈ reliedKeys, ¬k = keyName bridgeName := by decide
  have hallows₁ := h.allows.spares hspares₁ (hrelied _ (by simp [reliedKeys]))
  have hprepared₁ : IsPrepared 999 s₁ :=
    ⟨IsIntact.spares hspares₁ hrelied (n := 1) h.intact htallies₁, by
      unfold IsServed
      exact (hallows₁.serves ⟨b, c, t, hconstant, hbridges⟩).mono (Nat.zero_le _),
      h.bare.spares hspares₁, hspares₁.depth.trans h.idle⟩
  obtain ⟨a, d, s₂, happlier, hgrows₂, -⟩ := run_applierSource s₁
  have hprepared₂ := hprepared₁.grows hgrows₂
  let s₃ : Machine × Host := (s₂.1, { s₂.2 with applier := .handle (.object a) })
  obtain ⟨s₄, hlisted, hgrows₄⟩ := globalFunctions_run (s := s₃) hprepared₂.intact.lists
    (hprepared₂.intact.holdsValues hprepared₂.served.allows)
    (by rw [show s₃.1.depth = 0 from hprepared₂.idle]; decide)
  have hprepared₃ : IsPrepared 999 s₃ :=
    ⟨hprepared₂.intact, hprepared₂.served, hprepared₂.bare, hprepared₂.idle⟩
  have hprepared₄ := hprepared₃.grows hgrows₄
  let s' : Machine × Host :=
    (s₄.1, { s₄.2 with baseline := (listedNames s₃.1).filterMap (·.text?) })
  have hhost : s₄.2.registry = s.2.registry ∧ s₄.2.script = s.2.script := by
    rw [hgrows₄.host, ← hhost₁, ← hgrows₂.host]
    exact ⟨rfl, rfl⟩
  refine ⟨s', ?_, ⟨hprepared₄.intact, hprepared₄.served, hprepared₄.bare, hprepared₄.idle⟩,
    hhost.1.trans hregistry, hhost.2, fun key hkey _ => ?_⟩
  · unfold Interpreter.prepare
    refine (host_bind_ok hbridge).trans ((host_bind_ok happlier).trans ?_)
    have hassigned : (HostM.modifyInstance fun i => { i with applier := .handle (.object a) } :
        EngineM Unit) s₂ = .ok () s₃ := rfl
    refine (host_bind_ok hassigned).trans ((host_bind_ok hlisted).trans rfl)
  · obtain ⟨i, hi⟩ := h.opened key hkey
    have hi₁ := hspares₁.holdsUp (fun _ hp => hp) hi
    have hspares₂ : Spares (fun _ => False) s₁.1 s₂.1 :=
      .of_grows hgrows₂ hprepared₁.intact.lists.global_here
    have hspares₄ : Spares (fun _ => False) s₃.1 s₄.1 :=
      .of_grows hgrows₄ hprepared₃.intact.lists.global_here
    exact ⟨i, hspares₄.holdsUp (fun _ hp => hp) (hspares₂.holdsUp (fun _ hp => hp) hi₁)⟩

/-! ## Setting up -/

/-- The functions of the module `console`. -/
def consoleFunctions : List (String × Behaviour) :=
  ConsoleMethod.all.map fun m => (m.memberName, .console m)

/-- The functions of the module `regex`. -/
def regexFunctions : List (String × Behaviour) :=
  RegexMethod.all.map fun m => (m.memberName, .regex m)

theorem isConcise_console : IsConcise 0 consoleFunctions :=
  ⟨by decide, by decide +kernel⟩

theorem isConcise_regex : IsConcise consoleFunctions.length regexFunctions :=
  ⟨by decide, by decide +kernel⟩

/-- The names of the built-in modules. -/
def builtinNames : List Text := ["console", "regex"]

theorem isFree_builtin (hkey : key ∈ builtinNames) :
    IsFree key ∧ key ≠ [] ∧ keyName key ∉ reliedKeys := by
  have hrelied : ∀ key ∈ builtinNames, keyName key ∉ reliedKeys := by decide
  have hlead : key[0]? ≠ some (CodePoint.ofChar '_') ∧ key ≠ "globalThis" := by
    have hall : ∀ key ∈ builtinNames, key[0]? ≠ some (CodePoint.ofChar '_') ∧ key ≠ "globalThis" := by
      decide
    exact hall key hkey
  refine ⟨⟨hlead.2, fun heq => ?_, fun heq => ?_, fun id heq => ?_⟩, fun heq => ?_, hrelied key hkey⟩
  · exact hlead.1 (by rw [heq]; rfl)
  · exact hlead.1 (by rw [heq]; rfl)
  · exact hlead.1 (by rw [heq]; rfl)
  · subst heq
    exact absurd hkey (by decide)

/-- A module of functions is registered as built in. -/
theorem registerBuiltin_run (typeName : String) {fs : List (String × Behaviour)}
    (h : IsPrepared (fs.length + 1 + n) s) (hkey : key ∈ builtinNames) (hopen : IsOpenTo s.1 key)
    (hfs : IsConcise s.2.registry.nextId fs) (hunbound : s.2.registry.boundTo key = [])
    (rest : List (HostValue × HostValue)) : ∃ s',
    interpreter.registerBuiltins ((.str key, moduleOf typeName fs) :: rest) s =
        interpreter.registerBuiltins rest s' ∧
      IsPrepared n s' ∧ Registers key fs.length s s' := by
  obtain ⟨hfree, hne, hrelied⟩ := isFree_builtin hkey
  obtain ⟨s', hrun, hregisters⟩ :=
    register_functions typeName h.served hfree hne hopen hfs hunbound
  refine ⟨s', ?_, h.leaves hregisters.leaves hfree hrelied hregisters.tallies, hregisters⟩
  rw [Interpreter.registerBuiltins]
  refine host_bind_ok (a := ()) ?_
  change EStateM.tryCatch _ _ s = _
  unfold EStateM.tryCatch
  rw [hrun]

/-- The blueprint of an instance with a given entrypoint. -/
def blueprint (entrypoint : HostValue) : Blueprint :=
  { Blueprint.standard with config := { Config.standard with entrypoint } }

theorem builtins_standard : Blueprint.standard.builtins =
    [(.str "console", moduleOf "ConsoleModule" consoleFunctions),
      (.str "regex", moduleOf "RegexModule" regexFunctions)] := rfl

theorem boundTo_empty (key : Text) : Registry.empty.boundTo key = [] := rfl

/-- The built-in modules are registered. -/
theorem registerBuiltins_run (h : IsPrepared 999 s) (hregistry : s.2.registry = .empty)
    (hopen : ∀ key ∈ builtinNames, IsOpenTo s.1 key) : ∃ s',
    interpreter.registerBuiltins Blueprint.standard.builtins s = .ok () s' ∧ IsPrepared 986 s' := by
  have hnext : s.2.registry.nextId = 0 := by
    rw [hregistry]
    rfl
  have hroom : IsPrepared (consoleFunctions.length + 1 + 993) s := h
  obtain ⟨s₁, hconsole, hprepared₁, hregisters₁⟩ := registerBuiltin_run "ConsoleModule" hroom
    (show Text.ofString "console" ∈ builtinNames by decide) (hopen _ (by decide))
    (by rw [hnext]; exact isConcise_console) (by rw [hregistry]; exact boundTo_empty _)
    [(.str "regex", moduleOf "RegexModule" regexFunctions)]
  have hopen₁ : IsOpenTo s₁.1 "regex" := by
    obtain ⟨i, hi⟩ := hopen "regex" (by decide)
    exact ⟨i, hregisters₁.leaves.spares.holdsUp (fun _ hp => hp) hi⟩
  have hroom₁ : IsPrepared (regexFunctions.length + 1 + 986) s₁ := hprepared₁
  obtain ⟨s₂, hregex, hprepared₂, -⟩ := registerBuiltin_run "RegexModule" hroom₁
    (show Text.ofString "regex" ∈ builtinNames by decide) hopen₁
    (by rw [hregisters₁.next, hnext, Nat.zero_add]; exact isConcise_regex)
    (by rw [hregisters₁.bound _ (by decide), hregistry]; exact boundTo_empty _) []
  refine ⟨s₂, ?_, hprepared₂⟩
  rw [builtins_standard]
  exact hconsole.trans (hregex.trans rfl)

/-- An instance is set up for a script, with the engine and the registry that instances find. -/
theorem setUp_of_preparable (h : IsPreparable s.1) (hregistry : s.2.registry = .empty)
    (entrypoint : HostValue) (t : Text) : ∃ s',
    interpreter.setUp (blueprint entrypoint) (.str t) s = .ok t s' ∧ IsPrepared 986 s' := by
  let s₀ : Machine × Host := (s.1, { s.2 with script := .str t, logger := "jsvm", entrypoint })
  obtain ⟨s₁, hprepare, hprepared₁, hregistry₁, hscript, hopen⟩ := prepare_run (s := s₀) h hregistry
  obtain ⟨s₂, hbuiltins, hprepared₂⟩ := registerBuiltins_run hprepared₁ hregistry₁ fun key hkey =>
    hopen key (by revert key; decide) (by revert key; decide)
  refine ⟨s₂, ?_, hprepared₂⟩
  unfold Interpreter.setUp
  have hsource : (HostM.ofExcept (ScriptText.ofValue (.str t)) : EngineM HostValue) s =
      .ok (.str t) s := rfl
  have hlogger : (HostM.ofExcept (loggerNamed (blueprint entrypoint).config.loggerName) :
      EngineM Text) s = .ok "jsvm" s := rfl
  refine (host_bind_ok hsource).trans ((host_bind_ok hlogger).trans ?_)
  have hassigned : (HostM.modifyInstance fun i =>
      { i with script := .str t, logger := "jsvm", entrypoint := (blueprint entrypoint).config.entrypoint } :
        EngineM Unit) s = .ok () s₀ := rfl
  refine (host_bind_ok hassigned).trans ((host_bind_ok hprepare).trans ?_)
  exact (host_bind_ok hbuiltins).trans rfl

/-- An instance is set up for every script. -/
theorem setUp_run (entrypoint : HostValue) (t : Text) : ∃ s,
    interpreter.setUp (blueprint entrypoint) (.str t) fresh = .ok t s ∧ IsPrepared 986 s := by
  unfold fresh
  have hregistry : (Instance.blank Value).registry = .empty := rfl
  generalize Instance.blank Value = i at hregistry ⊢
  have hpreparable := isPreparable_fresh
  generalize Realm.machine = m at hpreparable ⊢
  exact setUp_of_preparable (s := (m, i)) hpreparable hregistry entrypoint t

end ScriptHost.Proofs.PreparedInstances
