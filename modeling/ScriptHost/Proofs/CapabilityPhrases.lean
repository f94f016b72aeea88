import ScriptHost.Proofs.CallBoundary
import ScriptHost.Proofs.Dispatch
import ScriptHost.Proofs.RenderedTrees

/-!
# The phrases of capabilities

Whatever a capability is, and whatever host code its exports run, the text that it is rendered as is
a phrase.  The host promises that no mapping of the capability has a key twice; a mapping that has
been read from a text has none, either.
-/

namespace ScriptHost.Proofs.CapabilityPhrases

open Interpreter
open Script
open ScriptHost.Proofs.CallBoundary
open ScriptHost.Proofs.DataTexts
open ScriptHost.Proofs.DataTokens hiding ok_of_bind
open ScriptHost.Proofs.DataTrees
open ScriptHost.Proofs.EngineBoundary
open ScriptHost.Proofs.HostImages
open ScriptHost.Proofs.Invocation
open ScriptHost.Proofs.JsonData
open ScriptHost.Proofs.LookupTexts
open ScriptHost.Proofs.RenderedTrees
open ScriptHost.Proofs.ScannedNames
open ScriptHost.Proofs.Transition

variable {E V : Type} {X : Interpreter E V} {s s' : List Nat × E × Instance V} {t : Text}
  {v : HostValue}

/-! ## Capabilities -/

mutual

/-- In all that rendering a capability goes through, no mapping has a key twice. -/
def IsKeyed : HostValue → Prop
  | .dict es | .mappingView es => DistinctKeys es ∧ MembersKeyed es
  | .list xs | .tuple xs => ItemsKeyed xs
  | .object typeName toScript exports call =>
    ExportsKeyed exports ∧ WellKeyed (.object typeName toScript exports call)
  | v => WellKeyed v

/-- No mapping that calling an attribute for its exports leads to has a key twice. -/
def ExportsKeyed : Attribute → Prop
  | .method result => IsKeyed result
  | .plain v => CallKeyed v
  | _ => True

/-- No mapping that calling a value leads to has a key twice. -/
def CallKeyed : HostValue → Prop
  | .object _ _ _ (some v) => IsKeyed v
  | .function _ b => BehaviourKeyed b
  | _ => True

/-- No mapping that a host function returns has a key twice. -/
def BehaviourKeyed : Behaviour → Prop
  | .returns v => IsKeyed v
  | _ => True

/-- No mapping among the values of a mapping has a key twice. -/
def MembersKeyed : List (HostValue × HostValue) → Prop
  | [] => True
  | (_, v) :: rest => IsKeyed v ∧ MembersKeyed rest

/-- No mapping among the items of a list has a key twice. -/
def ItemsKeyed : List HostValue → Prop
  | [] => True
  | v :: rest => IsKeyed v ∧ ItemsKeyed rest

end

/-! ## Results of host code -/

theorem allWellKeyed_of {items : List HostValue} (h : ∀ v ∈ items, WellKeyed v) :
    AllWellKeyed items := by
  induction items with
  | nil => trivial
  | cons v rest ih =>
      obtain ⟨hv, hrest⟩ := List.forall_mem_cons.mp h
      exact ⟨hv, ih hrest⟩

theorem entriesWellKeyed_of {es : List (HostValue × HostValue)} (h : ∀ e ∈ es, WellKeyed e.2) :
    EntriesWellKeyed es := by
  induction es with
  | nil => trivial
  | cons e rest ih =>
      obtain ⟨he, hrest⟩ := List.forall_mem_cons.mp h
      exact ⟨he, ih hrest⟩

/-- What has been read from a text is well keyed. -/
theorem isClosed_wellKeyed : IsClosed WellKeyed where
  none := trivial
  bool _ := trivial
  int _ _ := trivial
  float _ := trivial
  str _ := trivial
  list h := allWellKeyed_of h
  dict {entries} h := by
    refine ⟨?_, entriesWellKeyed_of fun e he => ?_⟩
    · unfold DistinctKeys
      rw [List.filterMap_map]
      change (entries.filterMap fun e => some e.1).Nodup
      rw [List.filterMap_eq_map']
      exact h.keys
    · obtain ⟨field, hfield, rfl⟩ := List.mem_map.mp he
      exact h.values field hfield

/-- What a host function gives that is called without arguments and returns nothing fixed. -/
theorem run_gives {b : Behaviour} (hb : ∀ v, b ≠ .returns v) (calls : Nat) :
    Gives WellKeyed (b.run calls []) := by
  intro w h
  cases b with
  | returns v => exact absurd rfl (hb v)
  | args | count | none | counter | runFunction | register | console =>
      cases h
      trivial
  | regex m =>
      cases m <;> cases h
  | raises cls values => cases h
  | _ => cases h

/-- Calls of script functions give well-keyed values. -/
def InvokesKeyed (X : Interpreter E V) : Prop :=
  ∀ name args, Meets (fun _ _ => True) WellKeyed (fun _ => True) (X.invoke name args)

theorem callPlain_meets (hX : InvokesKeyed X) (id : Nat) {b : Behaviour} (hb : ∀ v, b ≠ .returns v) :
    Meets (fun _ _ => True) WellKeyed (fun _ => True) (X.callPlain id b []) := by
  have hrun : Meets (fun _ _ => True) WellKeyed (fun _ => True) (do
      HostM.ofExcept (b.run ((← HostM.instance_).counts.get id) []) : HostM E V HostValue) :=
    (meets_any _).bind chains_true fun i _ =>
      meets_ofExcept chains_true (run_gives hb _) fun _ _ => trivial
  unfold Interpreter.callPlain
  refine (meets_any _).bind chains_true fun _ _ => (meets_any _).bind chains_true fun _ _ => ?_
  split
  · exact hX _ _
  · refine (meets_any _).bind chains_true fun _ _ => (meets_any _).bind chains_true fun _ _ => ?_
    exact (meets_any _).bind chains_true fun _ _ => Meets.pure chains_true trivial
  · exact hrun

/-- Whatever a script does, a call of it gives a value that is well keyed. -/
theorem invokesKeyed_interpreterOver (I : Script.Interp ScriptEngine.Host) :
    InvokesKeyed (ScriptEngine.interpreterOver I) := by
  intro name args
  have hcall : ∀ h list, Meets (fun _ _ => True) IsEngineValue (fun _ => True)
      ((ScriptEngine.interpreterOver I).call h list) := by
    intro h list
    refine (meets_any _).bind chains_true fun _ _ => (meets_any _).bind chains_true fun _ _ => ?_
    exact meets_ofExcept chains_true (fun w hw => isEngineValue_passed hw) fun _ _ => trivial
  exact (invoke_meets (L := fun _ => True) chains_true (fun _ _ _ => trivial) (meets_any _)
    fun applier function items _ =>
      protectedCall_meets isClosed_wellKeyed hcall applier function items).weaken id
        (fun _ h => h) fun _ _ => trivial

/-! ## Levels -/

mutual

/-- Plain data nests no deeper than it has tokens. -/
theorem levels_le : ∀ v : HostValue, DataValues.levels v ≤ (DataTokens.tokens v).length + 2
  | .list xs => by
      have hitems := itemLevels_le xs
      simp only [DataValues.levels, DataTokens.tokens, List.length_cons, List.length_append]
      omega
  | .dict es => by
      have hentries := entryLevels_le es
      simp only [DataValues.levels, DataTokens.tokens, List.length_cons, List.length_append]
      omega
  | .none | .bool _ | .int _ | .intMember _ | .float _ | .str _ | .strMember _ | .tuple _
  | .member _ | .enumeration _ | .mappingView _ | .set _ | .bytes _ | .complex _ _ | .record _
  | .recordType _ | .object _ _ _ _ | .classObject _ _ _ _ | .function _ _ => Nat.le_add_left 2 _

theorem itemLevels_le : ∀ xs : List HostValue,
    DataValues.itemLevels xs ≤ (DataTokens.itemTokens xs).length + 2
  | [] => by simp [DataValues.itemLevels]
  | v :: rest => by
      have hfirst := levels_le v
      have hrest := itemLevels_le rest
      simp only [DataValues.itemLevels, DataTokens.itemTokens, List.length_append]
      omega

theorem entryLevels_le : ∀ es : List (HostValue × HostValue),
    DataValues.entryLevels es ≤ (DataTokens.entryTokens es).length + 2
  | [] => by simp [DataValues.entryLevels]
  | (_, v) :: rest => by
      have hfirst := levels_le v
      have hrest := entryLevels_le rest
      simp only [DataValues.entryLevels, DataTokens.entryTokens, List.length_cons, List.length_append]
      omega

end

/-- A text has no fewer characters than tokens. -/
theorem length_tokens_le (p : Phrase) : p.tokens.length ≤ p.text.length := by
  have hstreams := p.scanned p.text.toArray 0 0 [] (.here ⟨Nat.zero_le _, by simp⟩)
    Scanning.closes_nil
  simpa using hstreams.length_le

/-! ## The walk -/

/-- The expressions that capabilities are rendered as, whose host functions are among given ones, and
which nest to a given depth at most: data, calls of the bridge, and lists and objects of such
expressions. -/
inductive IsRendered (ids : List Nat) : Nat → Expr → Prop
  | datum {n : Nat} {v : HostValue} (hv : IsDatum v) (hn : DataValues.levels v ≤ n) :
    IsRendered ids n (DataTrees.tree v)
  | bridging {n id : Nat} (h : id ∈ ids) (hn : 6 ≤ n) : IsRendered ids n (Bridge.bridging id 1)
  | list {n : Nat} {es : List Expr} (h : ∀ e ∈ es, IsRendered ids n e) :
    IsRendered ids (n + 1) (.array (es.map .item))
  | mapping {n : Nat} {ms : List (Name × Expr)} (h : ∀ m ∈ ms, IsRendered ids n m.2) :
    IsRendered ids (n + 1) (.object (ms.map fun m => entryTree m.1 m.2))

theorem IsRendered.mono {ids ids' : List Nat} (hids : ids ⊆ ids') {n : Nat} {e : Expr}
    (h : IsRendered ids n e) : ∀ {l : Nat}, n ≤ l → IsRendered ids' l e := by
  induction h with
  | datum hv hn => exact fun hl => .datum hv (Nat.le_trans hn hl)
  | bridging h hn => exact fun hl => .bridging (hids h) (Nat.le_trans hn hl)
  | list _ ih =>
      intro l hl
      obtain ⟨l, rfl⟩ : ∃ d, l = d + 1 := ⟨l - 1, by omega⟩
      exact .list fun e he => ih e he (by omega)
  | mapping _ ih =>
      intro l hl
      obtain ⟨l, rfl⟩ : ∃ d, l = d + 1 := ⟨l - 1, by omega⟩
      exact .mapping fun m hm => ih m hm (by omega)

/-- A phrase of plain characters in which the host functions are among given ones. -/
structure IsRenderedPhrase (ids : List Nat) (p : Phrase) : Prop where
  clean : IsClean p.text
  rendered : IsRendered ids (p.tokens.length + 6) p.tree

theorem IsRenderedPhrase.mono {ids ids' : List Nat} {p : Phrase} (hids : ids ⊆ ids')
    (h : IsRenderedPhrase ids p) : IsRenderedPhrase ids' p :=
  ⟨h.clean, h.rendered.mono hids (Nat.le_refl _)⟩

/-- A text that is read as one expression, in which the host functions are among given ones. -/
def IsPhrase (ids : List Nat) (t : Text) : Prop := ∃ p : Phrase, p.text = t ∧ IsRenderedPhrase ids p

/-- The texts are those of phrases. -/
def ArePhrases (ids : List Nat) (ts : List Text) : Prop :=
  ∃ ps : List Phrase, ts = ps.map Phrase.text ∧ ∀ p ∈ ps, IsRenderedPhrase ids p

/-- The texts are members with given keys, whose values are phrases. -/
def AreMembers (ids : List Nat) (keys ts : List Text) : Prop :=
  ∃ ms : List (Text × Phrase), ms.map (·.1) = keys ∧
    (ts = ms.map fun m => renderedMember m.1 m.2.text) ∧ ∀ m ∈ ms, IsRenderedPhrase ids m.2

theorem isPhrase_literal (hv : WellKeyed v)
    (h : (BuildM.ofExcept v.literal : BuildM E V Text) s = .ok t s') :
    s.1 ⊆ s'.1 ∧ IsPhrase s'.1 t := by
  obtain ⟨hliteral, rfl⟩ := Dispatch.ok_of_ofExcept h
  obtain ⟨image, himage, ht⟩ := DataTokens.ok_of_bind hliteral
  have hdatum := isDatum_image v hv himage
  refine ⟨List.Subset.refl _, .datum image t hdatum ht, rfl, isClean_write image ht, .datum hdatum ?_⟩
  exact Nat.le_trans (levels_le image) (Nat.add_le_add_left (by decide) _)

theorem isClean_internal {u : Text} (hu : IsInternal u) : IsClean u := fun c hc => by
  have hbounds := lt_of_isPlainPart (hu.name.parts c hc)
  omega

theorem isClean_bridging (id : Nat) : IsClean (Phrase.bridging id).text :=
  (((isClean_internal isInternal_bridge).append (isClean_word "(" (Scanning.forall_of_all (by decide)))).append
    (isClean_internal (isInternal_hidden id))).append (isClean_word ")" (Scanning.forall_of_all (by decide)))

theorem isPhrase_function {path target : HostValue}
    (h : X.bindFunction path target s = .ok t s') : s.1 ⊆ s'.1 ∧ IsPhrase s'.1 t := by
  obtain ⟨ids, e, i⟩ := s
  rw [Registration.bindFunction_run] at h
  split at h
  · cases h
    exact ⟨List.subset_append_left _ _, .bridging _, rfl, isClean_bridging _,
      .bridging (by simp) (Nat.le_add_left 6 _)⟩
  · cases h

theorem ArePhrases.isPhrase {ids : List Nat} {ts : List Text} (h : ArePhrases ids ts) :
    IsPhrase ids (Json.bracketed "[" "]" ts) := by
  obtain ⟨ps, rfl, hps⟩ := h
  refine ⟨.list ps, rfl, ?_⟩
  have htree : (Phrase.list ps).tree = .array ((ps.map Phrase.tree).map .item) := by
    rw [List.map_map]
    rfl
  refine ⟨isClean_bracketed (o := '[') (c := ']') (by decide) (by decide) fun u hu => ?_, ?_⟩
  · obtain ⟨p, hp, rfl⟩ := List.mem_map.mp hu
    exact (hps p hp).clean
  rw [htree]
  refine IsRendered.mono (List.Subset.refl _) (.list (n := (joined Phrase.tokens ps).length + 6)
    fun e he => ?_) (by simp [Phrase.list])
  obtain ⟨p, hp, rfl⟩ := List.mem_map.mp he
  have hlength := length_le_joined (g := Phrase.tokens) hp
  exact IsRendered.mono (List.Subset.refl _) (hps p hp).rendered (by omega)

theorem isRenderedPhrase_mapping {ids : List Nat} {ms : List (Text × Phrase)}
    (hkeys : (ms.map (·.1)).Nodup) (hms : ∀ m ∈ ms, IsRenderedPhrase ids m.2) :
    IsRenderedPhrase ids (.mapping ms hkeys) := by
  have htree : (Phrase.mapping ms hkeys).tree =
      .object ((ms.map fun m => (Utf16.ofText m.1, m.2.tree)).map fun m => entryTree m.1 m.2) := by
    rw [List.map_map]
    rfl
  let part (m : Text × Phrase) := memberPart (Utf16.ofText m.1) m.2.tokens
  refine ⟨isClean_bracketed (o := '\x7b') (c := '\x7d') (by decide) (by decide) fun u hu => ?_, ?_⟩
  · obtain ⟨m, hm, rfl⟩ := List.mem_map.mp hu
    exact ((isClean_string m.1).append (isClean_word ": " (Scanning.forall_of_all (by decide)))).append
      (hms m hm).clean
  rw [htree]
  refine IsRendered.mono (List.Subset.refl _) (.mapping (n := (joined part ms).length + 6)
    fun e he => ?_) (by simp [Phrase.mapping, part])
  obtain ⟨m, hm, rfl⟩ := List.mem_map.mp he
  have hlength := length_le_joined (g := part) hm
  have hpart : (part m).length = m.2.tokens.length + 2 := rfl
  exact IsRendered.mono (List.Subset.refl _) (hms m hm).rendered (by omega)

theorem AreMembers.isPhrase {ids : List Nat} {keys ts : List Text} (hkeys : keys.Nodup)
    (h : AreMembers ids keys ts) : IsPhrase ids (Json.bracketed "\x7b" "\x7d" ts) := by
  obtain ⟨ms, rfl, rfl, hms⟩ := h
  exact ⟨.mapping ms hkeys, rfl, isRenderedPhrase_mapping hkeys hms⟩

theorem ArePhrases.cons {ids ids' : List Nat} {u : Text} {us : List Text} (hu : IsPhrase ids u)
    (hids : ids ⊆ ids') (hus : ArePhrases ids' us) : ArePhrases ids' (u :: us) := by
  obtain ⟨p, rfl, hp⟩ := hu
  obtain ⟨ps, rfl, hps⟩ := hus
  exact ⟨p :: ps, rfl, List.forall_mem_cons.mpr ⟨hp.mono hids, hps⟩⟩

theorem AreMembers.cons {ids ids' : List Nat} {k u : Text} {keys us : List Text}
    (hu : IsPhrase ids u) (hids : ids ⊆ ids') (hus : AreMembers ids' keys us) :
    AreMembers ids' (k :: keys) (renderedMember k u :: us) := by
  obtain ⟨p, rfl, hp⟩ := hu
  obtain ⟨ms, rfl, rfl, hms⟩ := hus
  exact ⟨(k, p) :: ms, rfl, rfl, List.forall_mem_cons.mpr ⟨hp.mono hids, hms⟩⟩

mutual

/-- What a capability is rendered as is a phrase. -/
theorem build_isPhrase (hX : InvokesKeyed X) (path : HostValue) :
    ∀ (v : HostValue) {s s' : List Nat × E × Instance V} {t : Text}, IsKeyed v →
      X.build path v s = .ok t s' → s.1 ⊆ s'.1 ∧ IsPhrase s'.1 t
  | .dict es, s, s', t, hv, h | .mappingView es, s, s', t, hv, h => by
      obtain ⟨ts, s₁, hmembers, h⟩ := ok_of_bind h
      obtain ⟨hids, hts⟩ := buildMembers_areMembers hX path es hv.2 hmembers
      cases h
      exact ⟨hids, hts.isPhrase hv.1⟩
  | .list xs, s, s', t, hv, h | .tuple xs, s, s', t, hv, h => by
      obtain ⟨ts, s₁, hitems, h⟩ := ok_of_bind h
      obtain ⟨hids, hts⟩ := buildItems_arePhrases hX path 0 xs hv hitems
      cases h
      exact ⟨hids, hts.isPhrase⟩
  | .object typeName toScript exports call, s, s', t, hv, h => by
      unfold Interpreter.build at h
      split at h
      · exact buildExports_isPhrase hX path exports hv.1 h
      · split at h
        · exact isPhrase_function h
        · exact isPhrase_literal hv.2 h
  | .function id b, s, s', t, _, h => isPhrase_function h
  | .enumeration _, _, _, _, _, h | .recordType _, _, _, _, _, h
  | .classObject _ _ _ _, _, _, _, _, h => nomatch h
  | .none, _, _, _, hv, h | .bool _, _, _, _, hv, h | .int _, _, _, _, hv, h
  | .float _, _, _, _, hv, h | .str _, _, _, _, hv, h | .intMember _, _, _, _, hv, h
  | .strMember _, _, _, _, hv, h | .member _, _, _, _, hv, h | .set _, _, _, _, hv, h
  | .bytes _, _, _, _, hv, h | .complex _ _, _, _, _, hv, h
  | .record _, _, _, _, hv, h => isPhrase_literal hv h
termination_by structural v => v

/-- What calling an attribute for its exports is rendered as is a phrase. -/
theorem buildExports_isPhrase (hX : InvokesKeyed X) (path : HostValue) :
    ∀ (a : Attribute) {s s' : List Nat × E × Instance V} {t : Text}, ExportsKeyed a →
      X.buildExports path a s = .ok t s' → s.1 ⊆ s'.1 ∧ IsPhrase s'.1 t
  | .method result, _, _, _, ha, h => build_isPhrase hX path result ha h
  | .plain v, _, _, _, ha, h => buildCalled_isPhrase hX path v ha h
  | .failing _ _, _, _, _, _, h | .unbound _, _, _, _, _, h => nomatch h
  | .absent, _, _, _, _, h => isPhrase_literal (v := .none) trivial h
termination_by structural a => a

/-- What calling a value gives is rendered as a phrase. -/
theorem buildCalled_isPhrase (hX : InvokesKeyed X) (path : HostValue) :
    ∀ (v : HostValue) {s s' : List Nat × E × Instance V} {t : Text}, CallKeyed v →
      X.buildCalled path v s = .ok t s' → s.1 ⊆ s'.1 ∧ IsPhrase s'.1 t
  | .object _ _ _ (some v), _, _, _, hv, h => build_isPhrase hX path v hv h
  | .function id b, _, _, _, hv, h => buildReturned_isPhrase hX path id b hv h
  | .object _ _ _ none, _, _, _, _, h | .none, _, _, _, _, h | .bool _, _, _, _, _, h
  | .int _, _, _, _, _, h | .float _, _, _, _, _, h | .str _, _, _, _, _, h
  | .intMember _, _, _, _, _, h | .strMember _, _, _, _, _, h | .member _, _, _, _, _, h
  | .enumeration _, _, _, _, _, h | .list _, _, _, _, _, h | .tuple _, _, _, _, _, h
  | .dict _, _, _, _, _, h | .mappingView _, _, _, _, _, h | .set _, _, _, _, _, h
  | .bytes _, _, _, _, _, h | .complex _ _, _, _, _, _, h | .record _, _, _, _, _, h
  | .recordType _, _, _, _, _, h | .classObject _ _ _ _, _, _, _, _, h => nomatch h
termination_by structural v => v

/-- What a host function gives is rendered as a phrase. -/
theorem buildReturned_isPhrase (hX : InvokesKeyed X) (path : HostValue) (id : Nat) :
    ∀ (b : Behaviour) {s s' : List Nat × E × Instance V} {t : Text}, BehaviourKeyed b →
      X.buildReturned path id b s = .ok t s' → s.1 ⊆ s'.1 ∧ IsPhrase s'.1 t
  | .returns v, _, _, _, hv, h => build_isPhrase hX path v hv h
  | .register name v, _, _, _, _, h => by
      obtain ⟨_, s₁, hregister, h⟩ := ok_of_bind h
      obtain ⟨-, hids⟩ := Dispatch.ok_of_lift hregister
      rw [← hids]
      exact isPhrase_literal (v := .none) trivial h
  | .args, _, _, _, _, h | .count, _, _, _, _, h | .first, _, _, _, _, h | .add, _, _, _, _, h
  | .keys, _, _, _, _, h | .type, _, _, _, _, h | .default, _, _, _, _, h | .none, _, _, _, _, h
  | .counter, _, _, _, _, h | .failSecond, _, _, _, _, h | .raises _ _, _, _, _, _, h
  | .runFunction _, _, _, _, _, h | .console _, _, _, _, _, h | .regex _, _, _, _, _, h => by
      obtain ⟨w, s₁, hcall, h⟩ := ok_of_bind h
      obtain ⟨hcall, hids⟩ := Dispatch.ok_of_lift hcall
      rw [← hids]
      exact isPhrase_literal ((callPlain_meets hX id (by simp)).ok hcall).2 h
termination_by structural b => b

/-- The members of a mapping have its keys, and their values are phrases. -/
theorem buildMembers_areMembers (hX : InvokesKeyed X) (path : HostValue) :
    ∀ (es : List (HostValue × HostValue)) {s s' : List Nat × E × Instance V} {ts : List Text},
      MembersKeyed es → X.buildMembers path es s = .ok ts s' →
      s.1 ⊆ s'.1 ∧ AreMembers s'.1 (es.filterMap (·.1.text?)) ts
  | [], _, _, _, _, h => by
      cases h
      exact ⟨List.Subset.refl _, [], rfl, rfl, by simp⟩
  | (key, v) :: rest, _, _, _, hes, h => by
      unfold Interpreter.buildMembers at h
      cases hkey : key.text? with
      | none =>
          simp only [hkey] at h
          cases h
      | some k =>
          simp only [hkey] at h
          obtain ⟨u, s₁, hvalue, h⟩ := ok_of_bind h
          obtain ⟨us, s₂, hrest, h⟩ := ok_of_bind h
          obtain ⟨hids, hu⟩ := build_isPhrase hX _ v hes.1 hvalue
          obtain ⟨hmore, hus⟩ := buildMembers_areMembers hX path rest hes.2 hrest
          cases h
          refine ⟨List.Subset.trans hids hmore, ?_⟩
          rw [List.filterMap_cons_some (by exact hkey)]
          exact hus.cons hu hmore
termination_by structural es => es

/-- The items of a list are phrases. -/
theorem buildItems_arePhrases (hX : InvokesKeyed X) (path : HostValue) (i : Nat) :
    ∀ (xs : List HostValue) {s s' : List Nat × E × Instance V} {ts : List Text}, ItemsKeyed xs →
      X.buildItems path i xs s = .ok ts s' → s.1 ⊆ s'.1 ∧ ArePhrases s'.1 ts
  | [], _, _, _, _, h => by
      cases h
      exact ⟨List.Subset.refl _, [], rfl, by simp⟩
  | v :: rest, _, _, _, hxs, h => by
      obtain ⟨u, s₁, hvalue, h⟩ := ok_of_bind h
      obtain ⟨us, s₂, hrest, h⟩ := ok_of_bind h
      obtain ⟨hids, hu⟩ := build_isPhrase hX _ v hxs.1 hvalue
      obtain ⟨hmore, hus⟩ := buildItems_arePhrases hX path (i + 1) rest hxs.2 hrest
      cases h
      exact ⟨List.Subset.trans hids hmore, hus.cons hu hmore⟩
termination_by structural xs => xs

end

end ScriptHost.Proofs.CapabilityPhrases
