import ScriptHost.Proofs.CallBoundary
import ScriptHost.Proofs.DeclaredNames
import ScriptHost.Proofs.LookupTexts
import ScriptHost.Proofs.RoundTrip

/-!
# The order of the listed functions

The functions of a script are listed in two goes, one over the keys of the global object and one over the
names that the scan of its text finds.  The engine is asked about the names of the second, and may answer
anything; when it is asked about a name again it may answer something else.  Whatever it answers, no name
is listed twice, hidden names are not listed, and the places of the listed names are determined.
-/

namespace ScriptHost.Proofs.AskedNames

open Interpreter
open ScriptHost.Proofs.CallBoundary (run_checked checkCode_globalFunctionsSource)
open ScriptHost.Proofs.DataTexts (checkCode_ok)
open ScriptHost.Proofs.DeclaredNames
open ScriptHost.Proofs.Invocation (IsLookup globalReference_eq)
open ScriptHost.Proofs.LookupTexts
open ScriptHost.Proofs.RoundTrip (read_written)
open ScriptHost.Proofs.Transition (host_bind_ok orOnScriptFault_ok)

variable {E V : Type} {X : Interpreter E V} {s s' s₁ : E × Instance V} {t u text : Text}
  {hidden names listed scanned : List Text}

/-! ## Questions and answers -/

/-- The answers of an engine to questions about names, one after the other. -/
inductive Answers (X : Interpreter E V) :
    E × Instance V → List (Text × Passed V) → E × Instance V → Prop
  | none (s : E × Instance V) : Answers X s [] s
  | one {s s₁ s₂ : E × Instance V} {t : Text} {a : Passed V} {asked : List (Text × Passed V)}
    (h : X.kind (.str t) s = .ok a s₁) (rest : Answers X s₁ asked s₂) : Answers X s ((t, a) :: asked) s₂

/-- Whatever the engine has been asked before, it answers questions about some names. -/
def AnswersAll (X : Interpreter E V) (names : List Text) (s : E × Instance V) : Prop :=
  ∀ asked s₁, Answers X s asked s₁ → ∀ t ∈ names, ∃ a s₂, X.kind (.str t) s₁ = .ok a s₂

theorem AnswersAll.tail (h : AnswersAll X (t :: names) s) : AnswersAll X names s :=
  fun asked s₁ hanswers u hu => h asked s₁ hanswers u (List.mem_cons_of_mem t hu)

theorem AnswersAll.after {a : Passed V} (h : AnswersAll X names s)
    (hkind : X.kind (.str t) s = .ok a s₁) : AnswersAll X names s₁ :=
  fun _ _ hanswers => h _ _ (.one hkind hanswers)

/-- A name that the scan comes to, with the answer if the engine is asked about it. -/
structure Visit (V : Type) where
  name : Text
  answer : Option (Passed V)

/-- The answer that a name stands for a function. -/
def functionAnswer : Passed V := .plain (.str "function")

/-- Whether an answer is that the name stands for a function. -/
def saysFunction : Passed V → Bool
  | .plain (.str t) => t == ("function" : Text)
  | _ => false

theorem saysFunction_iff {a : Passed V} : saysFunction a = true ↔ a = functionAnswer := by
  unfold saysFunction functionAnswer
  split
  · rw [beq_iff_eq, Passed.plain.injEq, HostValue.str.injEq]
  · rename_i hother
    simpa using hother _

namespace Visit

/-- The question and the answer. -/
def asked? (v : Visit V) : Option (Text × Passed V) := v.answer.map fun a => (v.name, a)

/-- Whether the engine answers that the name stands for a function. -/
def isFunction (v : Visit V) : Bool := v.answer.any saysFunction

theorem isFunction_iff {v : Visit V} : v.isFunction = true ↔ v.answer = some functionAnswer := by
  obtain ⟨name, answer⟩ := v
  cases answer with
  | none => simp [isFunction]
  | some a => simp [isFunction, saysFunction_iff]

end Visit

variable {visits : List (Visit V)} {j k : Nat}

/-- At a place of the scan the engine answers that a name stands for a function. -/
def IsFunctionAt (visits : List (Visit V)) (k : Nat) (t : Text) : Prop :=
  visits[k]? = some ⟨t, some functionAnswer⟩

/-- It does so for the first time. -/
def IsFirstAt (visits : List (Visit V)) (k : Nat) (t : Text) : Prop :=
  IsFunctionAt visits k t ∧ ∀ j < k, ¬IsFunctionAt visits j t

/-- The engine is asked about a name unless it is hidden, or listed by then. -/
def IsSparing (hidden names : List Text) (visits : List (Visit V)) : Prop :=
  ∀ k v, visits[k]? = some v →
    (v.answer = none ↔ v.name ∈ hidden ∨ v.name ∈ names ∨ ∃ j < k, IsFunctionAt visits j v.name)

/-- The names that were answered to stand for functions, in the order of the scan. -/
def functionsOf (visits : List (Visit V)) : List Text :=
  (visits.filter Visit.isFunction).map Visit.name

/-! ## One go through the scanned names -/

theorem isFunctionAt_zero {v : Visit V} :
    IsFunctionAt (v :: visits) 0 t ↔ v.isFunction = true ∧ v.name = t := by
  obtain ⟨name, answer⟩ := v
  simp [IsFunctionAt, Visit.isFunction_iff, and_comm]

theorem isFunctionAt_succ {v : Visit V} :
    IsFunctionAt (v :: visits) (k + 1) t ↔ IsFunctionAt visits k t := Iff.rfl

theorem exists_isFunctionAt_cons {v : Visit V} :
    (∃ j < k + 1, IsFunctionAt (v :: visits) j t) ↔
      (v.isFunction = true ∧ v.name = t) ∨ ∃ j < k, IsFunctionAt visits j t := by
  rw [Nat.exists_lt_succ_left, isFunctionAt_zero]
  rfl

theorem isSparing_skipped (hskip : t ∈ hidden ∨ t ∈ names) (h : IsSparing hidden names visits) :
    IsSparing hidden names (⟨t, none⟩ :: visits) := by
  intro k v hv
  cases k with
  | zero =>
      obtain rfl := Option.some.inj hv
      simpa using hskip
  | succ k =>
      rw [h k v hv, exists_isFunctionAt_cons]
      simp [Visit.isFunction]

theorem isSparing_asked {a : Passed V} (hask : ¬(t ∈ hidden ∨ t ∈ names))
    (h : IsSparing hidden (if (Visit.mk t (some a)).isFunction then names ++ [t] else names) visits) :
    IsSparing hidden names (⟨t, some a⟩ :: visits) := by
  intro k v hv
  cases k with
  | zero =>
      obtain rfl := Option.some.inj hv
      simpa using hask
  | succ k =>
      rw [h k v hv, exists_isFunctionAt_cons]
      cases (Visit.mk t (some a)).isFunction with
      | true => simp [or_assoc, eq_comm]
      | false => simp

theorem append_functionsOf (names : List Text) (v : Visit V) (visits : List (Visit V)) :
    names ++ functionsOf (v :: visits) =
      (if v.isFunction then names ++ [v.name] else names) ++ functionsOf visits := by
  cases h : v.isFunction with
  | true => simp [functionsOf, h]
  | false => simp [functionsOf, h]

/-- Going through the scanned names, the engine is asked about those that are not hidden or listed by
then, and the names that it answers to stand for functions are put at the end. -/
theorem addLexical_visits (hidden names : List Text) (h : AnswersAll X scanned s) : ∃ visits s',
    X.addLexical hidden names scanned s = .ok (names ++ functionsOf visits) s' ∧
    visits.map Visit.name = scanned ∧ Answers X s (visits.filterMap Visit.asked?) s' ∧
    IsSparing hidden names visits := by
  induction scanned generalizing names s with
  | nil => exact ⟨[], s, by simp [functionsOf, addLexical]; rfl, rfl, .none s, by simp [IsSparing]⟩
  | cons t rest ih =>
      unfold Interpreter.addLexical
      by_cases hskip : t ∈ hidden ∨ t ∈ names
      · obtain ⟨visits, s', hrun, hscan, hanswers, hsparing⟩ := ih names h.tail
        refine ⟨⟨t, none⟩ :: visits, s', ?_, ?_, hanswers, isSparing_skipped hskip hsparing⟩
        · rw [if_pos (by simpa using hskip)]
          exact hrun
        · rw [List.map_cons, hscan]
      · obtain ⟨a, s₁, hkind⟩ := h [] s (.none s) t List.mem_cons_self
        obtain ⟨visits, s', hrun, hscan, hanswers, hsparing⟩ := ih _ (h.tail.after hkind)
        refine ⟨⟨t, some a⟩ :: visits, s', ?_, ?_, .one hkind hanswers, isSparing_asked hskip hsparing⟩
        · rw [if_neg (by simpa using hskip), append_functionsOf]
          exact (host_bind_ok hkind).trans hrun
        · rw [List.map_cons, hscan]

/-! ## The places of the listed names -/

theorem IsFunctionAt.unique (h : IsSparing hidden names visits) (hj : IsFunctionAt visits j t)
    (hk : IsFunctionAt visits k t) : j = k := by
  have hlater {i l : Nat} (hi : IsFunctionAt visits i t) (hl : IsFunctionAt visits l t) : ¬i < l :=
    fun hlt => nomatch (h l _ hl).mpr (.inr (.inr ⟨i, hlt, hi⟩))
  rcases Nat.lt_trichotomy j k with hlt | heq | hlt
  · exact absurd hlt (hlater hj hk)
  · exact heq
  · exact absurd hlt (hlater hk hj)

theorem mem_functionsOf : t ∈ functionsOf visits ↔ ∃ k, IsFunctionAt visits k t := by
  simp only [functionsOf, List.mem_map, List.mem_filter, Visit.isFunction_iff]
  constructor
  · rintro ⟨⟨name, answer⟩, ⟨hv, rfl⟩, rfl⟩
    exact List.mem_iff_getElem?.mp hv
  · rintro ⟨k, hk⟩
    exact ⟨_, ⟨List.mem_iff_getElem?.mpr ⟨k, hk⟩, rfl⟩, rfl⟩

/-- One name is found to stand for a function before another one is. -/
def IsBefore (visits : List (Visit V)) (t u : Text) : Prop :=
  ∃ j k, j < k ∧ IsFirstAt visits j t ∧ IsFirstAt visits k u

theorem functionsOf_pairwise (h : IsSparing hidden names visits) :
    (functionsOf visits).Pairwise (IsBefore visits) := by
  have hfirst {k : Nat} (hk : k < visits.length) (hfunction : visits[k].isFunction = true) :
      IsFirstAt visits k visits[k].name := by
    have hat : IsFunctionAt visits k visits[k].name := by
      rw [IsFunctionAt, List.getElem?_eq_getElem hk, ← Visit.isFunction_iff.mp hfunction]
    exact ⟨hat, fun j hj hother => Nat.ne_of_lt hj (hother.unique h hat)⟩
  rw [functionsOf, List.pairwise_map, List.pairwise_filter, List.pairwise_iff_getElem]
  exact fun j k hj hk hlt ht hu => ⟨j, k, hlt, hfirst hj ht, hfirst hk hu⟩

theorem IsBefore.ne (h : IsBefore visits t u) : t ≠ u := by
  obtain ⟨j, k, hlt, hj, hk⟩ := h
  rintro rfl
  exact hk.2 j hlt hj.1

/-! ## All names -/

/-- The names of the registered modules. -/
def registeredNames (i : Instance V) : List Text := i.registry.modules.map (·.1)

/-- A name is not hidden from the listing: it is no module, and was not there before the script. -/
structure IsVisible (i : Instance V) (t : Text) : Prop where
  notRegistered : t ∉ registeredNames i
  notBefore : t ∉ i.baseline

theorem isVisible_iff {i : Instance V} : IsVisible i t ↔ t ∉ registeredNames i ++ i.baseline := by
  rw [List.mem_append, not_or]
  exact ⟨fun h => ⟨h.notRegistered, h.notBefore⟩, fun h => ⟨h.1, h.2⟩⟩

instance (i : Instance V) (t : Text) : Decidable (IsVisible i t) :=
  decidable_of_iff _ isVisible_iff.symm

/-- The keys of the global object that are listed: all visible ones that stand for no host function. -/
def ownNames (i : Instance V) (listed : List Text) : List Text :=
  listed.filter fun t => IsVisible i t ∧ ¬Registry.hiddenPrefix <+: t

theorem ownFunctions_texts (i : Instance V) (listed : List Text) :
    ownFunctions (registeredNames i ++ i.baseline) (listed.map .str) = .ok (ownNames i listed) := by
  induction listed with
  | nil => rfl
  | cons t rest ih =>
      have hprefix : Text.startsWith t Registry.hiddenPrefix = true ↔ Registry.hiddenPrefix <+: t :=
        startsWith_iff.trans (exists_congr fun _ => eq_comm)
      have hleft : ((registeredNames i ++ i.baseline).contains t ||
          Text.startsWith t Registry.hiddenPrefix) = true ↔
          ¬(IsVisible i t ∧ ¬Registry.hiddenPrefix <+: t) := by
        rw [Bool.or_eq_true, List.contains_iff_mem, hprefix, isVisible_iff, not_and_or, not_not, not_not]
      rw [List.map_cons, ownFunctions, ih]
      change Except.ok (ite _ (ownNames i rest) (t :: ownNames i rest)) = _
      by_cases h : IsVisible i t ∧ ¬Registry.hiddenPrefix <+: t
      · rw [if_neg (mt hleft.mp (not_not_intro h)), ownNames, ownNames,
          List.filter_cons_of_pos (by simpa using h)]
      · rw [if_pos (hleft.mpr h), ownNames, ownNames, List.filter_cons_of_neg (by simpa using h)]

/-- The scan of a text, with the questions that the engine is asked on the way: one about each name that
is visible and not listed by then. -/
structure IsScan (X : Interpreter E V) (i : Instance V) (own : List Text) (text : Text)
    (s : E × Instance V) (visits : List (Visit V)) (s' : E × Instance V) : Prop where
  visited : visits.map Visit.name = LexicalScan.names text
  answered : Answers X s (visits.filterMap Visit.asked?) s'
  asks : ∀ k v, visits[k]? = some v → (v.answer = none ↔
    ¬IsVisible i v.name ∨ v.name ∈ own ∨ ∃ j < k, IsFunctionAt visits j v.name)

/-- A list of names that is in order: each name is visible and stands there once, and behind the keys of
the global object stand the other names that the scan finds to stand for functions, by the places where it
finds so first. -/
structure IsInOrder (i : Instance V) (own : List Text) (visits : List (Visit V)) (names : List Text) :
    Prop where
  distinct : names.Nodup
  visible : ∀ t ∈ names, IsVisible i t
  places : ∃ more, names = own ++ more ∧ more.Pairwise (IsBefore visits) ∧
    ∀ t, t ∈ more ↔ t ∉ own ∧ IsVisible i t ∧ ∃ k, IsFunctionAt visits k t

/-- The functions of a script are listed in order, whatever the engine answers. -/
theorem functions_are_listed_in_order (htext : s.2.script.text? = some text)
    (hlisted : X.globalFunctions s = .ok (listed.map .str) s₁) (hdistinct : listed.Nodup)
    (hanswers : AnswersAll X (LexicalScan.names text) s₁) :
    ∃ names visits s', X.functionNames s = .ok names s' ∧
      IsScan X s.2 (ownNames s.2 listed) text s₁ visits s' ∧
      IsInOrder s.2 (ownNames s.2 listed) visits names := by
  obtain ⟨visits, s', hrun, hscan, hasked, hsparing⟩ :=
    addLexical_visits (registeredNames s.2 ++ s.2.baseline) (ownNames s.2 listed) hanswers
  have hask (k : Nat) (v : Visit V) (hv : visits[k]? = some v) : v.answer = none ↔
      ¬IsVisible s.2 v.name ∨ v.name ∈ ownNames s.2 listed ∨ ∃ j < k, IsFunctionAt visits j v.name := by
    rw [hsparing k v hv, isVisible_iff, not_not]
  have hfunction {t : Text} (ht : t ∈ functionsOf visits) : t ∉ ownNames s.2 listed ∧ IsVisible s.2 t := by
    obtain ⟨k, hk⟩ := mem_functionsOf.mp ht
    have hasked := mt (hask k _ hk).mpr (fun h => nomatch h)
    simp only [not_or, not_not] at hasked
    exact ⟨hasked.2.1, hasked.1⟩
  have hpairwise := functionsOf_pairwise hsparing
  refine ⟨_, visits, s', ?_, ⟨hscan, hasked, hask⟩, ?_, ?_, _, rfl, hpairwise, fun t => ?_⟩
  · have hinstance : HostM.instance_ s = .ok s.2 s := rfl
    unfold Interpreter.functionNames
    refine (host_bind_ok hinstance).trans ((host_bind_ok hlisted).trans ?_)
    change (HostM.ofExcept (ownFunctions (registeredNames s.2 ++ s.2.baseline) _) >>= _) s₁ = _
    rw [ownFunctions_texts, htext]
    exact hrun
  · refine List.nodup_append.mpr ⟨hdistinct.filter _, hpairwise.imp IsBefore.ne, ?_⟩
    rintro t ht u hu rfl
    exact (hfunction hu).1 ht
  · intro t ht
    rcases List.mem_append.mp ht with hown | hmore
    · have hkept := (List.mem_filter.mp hown).2
      exact (of_decide_eq_true hkept).1
    · exact (hfunction hmore).2
  · rw [mem_functionsOf]
    refine ⟨fun hk => ?_, fun h => h.2.2⟩
    obtain ⟨hown, hvisible⟩ := hfunction (mem_functionsOf.mpr hk)
    exact ⟨hown, hvisible, hk⟩

/-- An engine that takes all that it is given answers all questions. -/
theorem answersAll_of_takes (h : ∀ code s, ∃ a s', X.evaluate code s = .ok a s') (names : List Text)
    (s : E × Instance V) : AnswersAll X names s := by
  intro asked s₁ _ t _
  have hrun {code : Text} (hlookup : IsLookup (.str t) code) : ∃ a s₂, X.run code s₁ = .ok a s₂ := by
    obtain ⟨a, s₂, hevaluate⟩ := h code s₁
    refine ⟨a, s₂, ?_⟩
    unfold Interpreter.run
    rw [checkCode_ok (isQuestion_lookup hlookup).clean]
    exact hevaluate
  unfold Interpreter.kind
  cases hname : (HostValue.str t).isIdentifier with
  | true =>
      obtain ⟨a, s₂, hkind⟩ := hrun (.kind hname)
      exact ⟨a, s₂, orOnScriptFault_ok hkind⟩
  | false =>
      have hkey := @globalReference_eq (.str t) t rfl
      obtain ⟨a, s₂, hkind⟩ := hrun (.globalKind hkey)
      refine ⟨a, s₂, ?_⟩
      rw [hkey]
      exact hkind

/-- The functions among the keys of a global object. -/
def keys : List Text := ["f", "log", "__jsvm_host_0"]

/-- The keys as they are written. -/
def writtenKeys : Text := "[\"f\", \"log\", \"__jsvm_host_0\"]"

theorem read_writtenKeys : Json.read writtenKeys = .ok (.list (keys.map .str)) := by
  have hwritten : Json.write Json.wire (.list (keys.map .str)) = .ok writtenKeys := by rfl
  rw [read_written hwritten]
  rfl

/-- An engine with these keys, that answers every second question by saying that the name stands for a
function. -/
def wavering : Interpreter Nat Unit where
  evaluate _ := fun (n, i) =>
    let answer := if n = 0 then writtenKeys else if n % 2 = 0 then "function" else "undefined"
    .ok (.plain (.str answer)) (n + 1, i)
  call _ _ := pure (.plain .none)
  dataText _ := pure none
  addFunction _ := pure ()

/-- A script that declares names twice. -/
def twice : Text := "let g; let g; let f; let log; const h = 1; const h = 2"

/-- An instance with the script and a module. -/
def declaringTwice : Nat × Instance Unit :=
  (0, { Instance.blank Unit with
    registry := { Registry.empty with modules := [("log", ⟨.str "log", .none⟩)] }
    script := .str twice, baseline := ["Array"] })

theorem wavering_keys :
    wavering.globalFunctions declaringTwice = .ok (keys.map .str) (1, declaringTwice.2) := by
  have hevaluate : wavering.evaluate globalFunctionsSource declaringTwice =
    .ok (.plain (.str writtenKeys)) (1, declaringTwice.2) := rfl
  unfold globalFunctions jsonItems
  rw [run_checked checkCode_globalFunctionsSource, host_bind_ok hevaluate]
  change HostM.ofExcept (Json.read writtenKeys >>= HostValue.iterate) _ = _
  rw [read_writtenKeys]
  rfl

theorem wavering_takes (code : Text) (s : Nat × Instance Unit) :
    ∃ a s', wavering.evaluate code s = .ok a s' := ⟨_, _, rfl⟩

theorem wavering_lists_in_order :
    declaringTwice.2.script.text? = some twice ∧
    wavering.globalFunctions declaringTwice = .ok (keys.map .str) (1, declaringTwice.2) ∧
    keys.Nodup ∧ AnswersAll wavering (LexicalScan.names twice) (1, declaringTwice.2) ∧
    ∃ names visits s', wavering.functionNames declaringTwice = .ok names s' ∧
      IsScan wavering declaringTwice.2 (ownNames declaringTwice.2 keys) twice (1, declaringTwice.2)
        visits s' ∧
      IsInOrder declaringTwice.2 (ownNames declaringTwice.2 keys) visits names := by
  have htext : declaringTwice.2.script.text? = some twice := rfl
  have hdistinct : keys.Nodup := by decide
  have hanswers := answersAll_of_takes wavering_takes (LexicalScan.names twice) (1, declaringTwice.2)
  exact ⟨htext, wavering_keys, hdistinct, hanswers,
    functions_are_listed_in_order htext wavering_keys hdistinct hanswers⟩

end ScriptHost.Proofs.AskedNames
