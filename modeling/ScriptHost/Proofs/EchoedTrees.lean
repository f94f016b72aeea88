import ScriptHost.Proofs.NameResolution
import ScriptHost.Proofs.ParameterCalls
import ScriptHost.Proofs.PlainCall
import ScriptHost.Proofs.TextTrees

/-!
# Texts that go to a script and come back

A function of the script that returns its argument is called by its name.  Texts inside of lists and
dictionaries come back as they went, whatever characters they are made of; a text that is the argument
itself comes back up to its first zero character.
-/

namespace ScriptHost.Proofs.EchoedTrees

open Script Script.Eval ScriptEngine Interpreter
open ScriptHost.Proofs.Applier
open ScriptHost.Proofs.CallArguments
open ScriptHost.Proofs.CallBoundary
open ScriptHost.Proofs.DataValues
open ScriptHost.Proofs.Encodings
open ScriptHost.Proofs.Evaluation
open ScriptHost.Proofs.HeldData
open ScriptHost.Proofs.HostImages (isDatum_imageItems)
open ScriptHost.Proofs.IntactTexts
open ScriptHost.Proofs.ParameterCalls
open ScriptHost.Proofs.PlainCall
open ScriptHost.Proofs.PropertyChains
open ScriptHost.Proofs.Scanning (forall_of_all)
open ScriptHost.Proofs.ScriptRuns
open ScriptHost.Proofs.StringifiedData
open ScriptHost.Proofs.TextTrees
open ScriptHost.Proofs.Transition (host_bind_ok)

variable {name v w d : HostValue} {found : Located Value} {s s₁ s₂ : Machine × Host}
  {a g r q l : Ref} {c k : Closure} {x : Specials} {p : Name} {line : Nat} {t : Text} {u : Value}
  {values : Array Value}

/-! ## Out of the engine -/

/-- A tree on the heap comes out of the engine as it is. -/
theorem toHost_run (hplain : WritesPlainly s.1) (h : Holds s.1 (.object r) d) (htree : IsTextTree d)
    (hlevels : levels d ≤ 100000) :
    interpreter.toHost (.handle (.object r)) s = .ok d (withObjects [holder (.object r)] s) := by
  have htext : interpreter.dataText (.object r) s =
      .ok (some (stringified d)) (withObjects [holder (.object r)] s) := by
    refine (host_bind_ok (perform_ok (stringify_run hplain h hlevels))).trans ?_
    have hcross := hostText_of_intact (isIntact_stringified h.isTextual)
    dsimp only
    rw [hcross]
    rfl
  refine (host_bind_ok htext).trans ?_
  dsimp only
  rw [read_stringified h.isTextual, htree.received]
  rfl

theorem isScalar_upToZero (ht : t.IsScalar) : (upToZero t).IsScalar := fun c hc =>
  ht c (List.takeWhile_prefix _ |>.subset hc)

/-- A text comes out of the engine up to its first zero character. -/
theorem hostText_run {y : Utf16} (hy : y.toText.IsScalar) : hostText y = .ok (upToZero y.toText) := by
  unfold hostText
  rw [decode_encodeAll (isScalar_upToZero hy)]

/-- What comes back of a tree. -/
def IsEcho (v w : HostValue) : Prop :=
  match v with
  | .str t => w = .str (upToZero t)
  | v => SameData v w

/-- Whether a text stands by itself and has a zero character. -/
def IsCut : HostValue → Prop
  | .str t => ∃ c ∈ t, c.val = 0
  | _ => False

theorem upToZero_eq (t : Text) : upToZero t = t ↔ ∀ c ∈ t, c.val ≠ 0 := by
  unfold upToZero
  rw [List.takeWhile_eq_self_iff]
  simp

/-- What comes back is the same data, unless it is a text that has been cut. -/
theorem sameData_iff (hv : IsTextTree v) (h : IsEcho v w) : SameData v w ↔ ¬IsCut v := by
  cases hv with
  | str _ =>
      rename_i t ht
      obtain rfl : w = .str (upToZero t) := h
      constructor
      · rintro hsame ⟨c, hc, hzero⟩
        exact (upToZero_eq t).mp (HostValue.str.inj hsame.of_str) c hc hzero
      · intro hcut
        have heq : upToZero t = t := (upToZero_eq t).mpr fun c hc hzero => hcut ⟨c, hc, hzero⟩
        rw [heq]
        exact .str t
  | none => exact iff_of_true h id
  | bool b => exact iff_of_true h id
  | list _ _ => exact iff_of_true h id
  | dict _ _ _ _ => exact iff_of_true h id

theorem isEcho_of_same (h : SameData v d) (hd : ∀ t, d ≠ .str t) : IsEcho v d := by
  cases h with
  | none => exact .none
  | bool b => exact .bool b
  | str t => exact absurd rfl (hd t)
  | list h => exact .list h
  | dict h horder => exact .dict h horder

/-- A tree that is held comes out of the engine. -/
theorem out_run (hv : IsTextTree v) (hheld : IsHeld s.1 v u d) (hplain : WritesPlainly s.1)
    (hlevels : levels v ≤ 100000) :
    ∃ y w s', passed u = .ok y ∧ interpreter.toHost y s = .ok w s' ∧ IsEcho v w := by
  have hfits : levels d ≤ 100000 := Nat.le_trans hheld.same.levels_le hlevels
  obtain ⟨hholds, hsame, htree⟩ := hheld
  cases hholds with
  | null =>
      cases hsame
      exact ⟨_, _, s, rfl, rfl, .none⟩
  | bool b =>
      cases hsame
      exact ⟨_, _, s, rfl, rfl, .bool b⟩
  | string y =>
      have hpassed : passed (.string y) = .ok (.plain (.str (upToZero y.toText))) := by
        cases htree with
        | str hy =>
            change (hostText y >>= fun t => Except.ok (Passed.plain (.str t))) = _
            rw [hostText_run hy]
            rfl
      cases hsame
      exact ⟨_, _, s, hpassed, rfl, rfl⟩
  | list hr hlength h =>
      exact ⟨_, _, _, rfl, toHost_run hplain (.list hr hlength h) htree hfits,
        isEcho_of_same hsame fun t => nofun⟩
  | record hr h =>
      exact ⟨_, _, _, rfl, toHost_run hplain (.record hr h) htree hfits,
        isEcho_of_same hsame fun t => nofun⟩

theorem reported_ok {body : Eval Host Value} {y : Passed Value} (hbody : body s = .ok u s₁)
    (hpassed : passed u = .ok y) (hout : interpreter.toHost y s₁ = .ok w s₂) :
    reported name body s = .ok w s₂ := by
  have hgiven : PlainCall.given body s = .ok y s₁ := by
    refine (host_bind_ok (perform_ok hbody)).trans ?_
    rw [hpassed]
    rfl
  have hboth : (PlainCall.given body >>= interpreter.toHost) s = .ok w s₂ :=
    (host_bind_ok hgiven).trans hout
  change EStateM.tryCatch _ _ s = _
  unfold EStateM.tryCatch
  rw [hboth]

/-! ## The call -/

/-- The state after the call of a function that gives its parameter: there are two more scopes. -/
def echoed (a : Ref) (c : Closure) (r l : Ref) (k : Closure) (p : Name) (u : Value)
    (s : Machine × Host) : Machine × Host :=
  opened (callScope r k p u) (opened (applierScope a c.home r l) s)

/-- A function that gives its parameter gives the first value that it is called with. -/
theorem plain_echo (hr : (objectAt s.1 r).kind = .closure k) (hk : Computes k.code p (.name p line))
    (hroom : s.1.depth + 2 ≤ Engine.callLimit) :
    plain a c g r l values s =
      .ok (ParameterCalls.given values) (echoed a c r l k p (ParameterCalls.given values) s) := by
  obtain ⟨n, hn⟩ : ∃ n, depth = n + 4 := ⟨depth - 4, by decide⟩
  let inside := within (Engine.nativeFrame g)
    (opened (applierScope a c.home r l) (within (Callable.frameOf a c.code.info) s))
  have hcall : innermost.call (.object r) .undefined values inside =
      .ok (ParameterCalls.given values)
        (after (inCall r k p (ParameterCalls.given values) inside)) := by
    unfold innermost
    rw [hn]
    exact call_run hr hk hroom (evaluate_parameter hk r _ inside)
  have hplain : calledPlainly innermost g r values
      (opened (applierScope a c.home r l) (within (Callable.frameOf a c.code.info) s)) =
        .ok (ParameterCalls.given values)
          (after (after (inCall r k p (ParameterCalls.given values) inside))) := by
    unfold calledPlainly
    rw [bind_ok (checkDepth_run (Nat.le_of_succ_le hroom)), withFrame_run, hcall]
  unfold plain
  rw [bind_ok (checkDepth_run (by omega)), withFrame_run, bind_ok (openScope_run _ _), hplain]
  rfl

theorem hasObjects_echoed (s : Machine × Host) : HasObjects s.1 (echoed a c r l k p u s).1 :=
  fun _ h => ⟨h, rfl⟩

/-- A function that gives its parameter, called by its name with a tree, gives the tree back: the same
data, unless it is a text with a zero character. -/
theorem trees_come_back (hv : IsTextTree v) (hlevels : levels v ≤ 100000)
    (hlocate : interpreter.locate name s = .ok found s₁) (hfound : found.function = .object r)
    (happlier : s.2.applier = .handle (.object a)) (hserved : IsServed s₁ a r c x)
    (happly : InheritsApply s₁.1 r q g) (hr : (objectAt s₁.1 r).kind = .closure k)
    (hk : Computes k.code p (.name p line)) (hplain : WritesPlainly s₁.1)
    (hroom : s₁.1.depth + 2 ≤ Engine.callLimit) :
    ∃ w s', interpreter.invoke name (.list [v]) s = .ok w s' ∧ IsEcho v w ∧
      (SameData v w ↔ ¬IsCut v) := by
  have hlist : IsTextTree (.list [v]) := .list (by simp) (by simpa using hv)
  obtain ⟨t, ht⟩ := hlist.written
  have himages : HostValue.imageItems [v] = .ok [v] := imageItems_self (by simpa using hv.image)
  have hnesting : levels (.list [v]) < Engine.nesting := by
    have hlarge : 100001 < Engine.nesting := by decide
    simp only [levels, itemLevels]
    omega
  let u := (placed x s₁.1.objects.size v).1
  let s₂ := withList x [v] s₁
  let l := listFor x s₁.1.objects.size [v]
  have hmade : interpreter.listOfHost [v] s₁ = .ok (.handle (.object l)) s₂ :=
    listOfHost_run himages (isDatum_imageItems [v] ⟨hv.wellKeyed, trivial⟩ himages) ht hnesting
      hserved.numbers
  have hcall : interpreter.invoke name (.list [v]) s =
      reported name (plain a c g r l (placedItems x s₁.1.objects.size [v]).1.toArray) s₂ := by
    rw [invoke_run (normalizeArguments_of (.items (List.cons_ne_nil v []))) hlocate hfound happlier hmade]
    refine reported_congr (applier_plain (hserved.withObjects _)
      (happly.withObjects _).inApplier.hasOwnApply (b := true) ?_)
    rw [objectAt_list]
    rfl
  -- the argument stands on the heap, and is what the function gives
  have hplaced : Standing s₂.1 s₁.1.objects.size (placed x s₁.1.objects.size v).2 :=
    (standing_append.mp (standing_append.mp (standing_withObjects _ s₁)).1).1
  obtain ⟨d, hheld⟩ := hv.held s₁.1.objects.size hplaced
  have hobjects : HasObjects s₁.1 s₂.1 := hasObjects_withObjects _ s₁
  have hr₂ : (objectAt s₂.1 r).kind = .closure k := by
    rw [(hobjects r (index_lt fun hdefault => by rw [hdefault] at hr; cases hr)).2, hr]
  have hbody : plain a c g r l (placedItems x s₁.1.objects.size [v]).1.toArray s₂ =
      .ok u (echoed a c r l k p u s₂) := plain_echo hr₂ hk hroom
  have hlast : HasObjects s₂.1 (echoed a c r l k p u s₂).1 := hasObjects_echoed s₂
  obtain ⟨y, w, s', hpassed, hout, hecho⟩ := out_run hv
    ⟨hheld.holds.of_objects hlast, hheld.same, hheld.tree⟩ (hplain.of_objects (hobjects.trans hlast)) hlevels
  exact ⟨w, s', hcall.trans (reported_ok hbody hpassed hout), hecho, sameData_iff hv hecho⟩

/-! ## Trees in a small realm -/

/-- Whether a function gives its parameter. -/
def givesParameter (f : Function) : Bool :=
  match computation? f with
  | some (p, .name q _) => p == q
  | _ => false

theorem computes_of_gives {f : Function} (h : givesParameter f = true) :
    ∃ p line, Computes f p (.name p line) := by
  unfold givesParameter at h
  split at h
  · rename_i p q line hf
    obtain rfl := beq_iff_eq.mp h
    exact ⟨p, line, computes_of hf⟩
  · cases h

/-- Whether neither lists nor records are found to have a way of their own to be written. -/
def writesPlainly (m : Machine) : Bool :=
  match found? m writerKey m.objects.size Intrinsic.arrayPrototype.ref,
    found? m writerKey m.objects.size Intrinsic.objectPrototype.ref with
  | some none, some none => true
  | _, _ => false

theorem writesPlainly_of {m : Machine} (h : writesPlainly m = true) : WritesPlainly m := by
  unfold writesPlainly at h
  split at h
  · rename_i harrays hobjects
    exact ⟨finds_of_found harrays, finds_of_found hobjects⟩
  · cases h

/-- Whether a name is found to mean a function that gives its parameter, in an engine that can call it
and write what it gives. -/
def echoes (name : HostValue) (s : Machine × Host) : Bool :=
  match interpreter.locate name s, s.2.applier with
  | .ok ⟨_, .object r⟩ s₁, .handle (.object a) =>
    canCall s₁ r && (match s₁.2.applier with
      | .handle (.object b) => a == b
      | _ => false) && (match (objectAt s₁.1 r).kind with
      | .closure k => givesParameter k.code
      | _ => false) && writesPlainly s₁.1 && decide (s₁.1.depth + 2 ≤ Engine.callLimit)
  | _, _ => false

/-- The script of a function that gives its parameter. -/
def echoScript : Text := "function f(x) \x7b return x \x7d"

theorem echoes_script : echoes (.ofString "f") (stateAfter echoScript) = true := by decide +kernel

/-- A zero character inside of a list comes back. -/
theorem zero_in_list_comes_back : ∃ w s',
    interpreter.invoke (.ofString "f") (.list [.list [.ofString "a\x00b"]]) (stateAfter echoScript) =
      .ok w s' ∧ SameData (.list [.ofString "a\x00b"]) w := by
  have hechoes := echoes_script
  generalize stateAfter echoScript = s at hechoes ⊢
  unfold echoes at hechoes
  split at hechoes
  · rename_i n r s₁ a hlocate happlier
    simp only [Bool.and_eq_true, decide_eq_true_eq] at hechoes
    obtain ⟨⟨⟨⟨hcan, hsame⟩, hgives⟩, hwrites⟩, hroom⟩ := hechoes
    obtain ⟨a', c, x, q, g, happlier', hserved, hinherits⟩ := isServed_of hcan
    rw [happlier'] at hsame
    obtain rfl : a = a' := beq_iff_eq.mp hsame
    split at hgives
    · rename_i k hclosure
      obtain ⟨p, line, hk⟩ := computes_of_gives hgives
      have hv : IsTextTree (.list [.ofString "a\x00b"]) :=
        .list (by decide) fun v hv => List.mem_singleton.mp hv ▸ .str (forall_of_all (by decide))
      obtain ⟨w, s', hrun, -, hsame⟩ := trees_come_back hv (by decide) hlocate rfl happlier hserved
        hinherits hclosure hk (writesPlainly_of hwrites) hroom
      exact ⟨w, s', hrun, hsame.mpr id⟩
    · cases hgives
  · cases hechoes

/-- Whether a call gives a text. -/
def givesText (t : Text) : EStateM.Result Fault (Machine × Host) HostValue → Bool
  | .ok (.str u) _ => u == t
  | _ => false

/-- A text that is the argument itself is cut at a zero character. -/
theorem zero_alone_is_cut : ∃ s',
    interpreter.invoke (.ofString "f") (.list [.ofString "a\x00b"]) (stateAfter echoScript) =
      .ok (.ofString "a") s' ∧ ¬SameData (.ofString "a\x00b") (.ofString "a") := by
  have hrun : givesText "a" (interpreter.invoke (.ofString "f") (.list [.ofString "a\x00b"])
      (stateAfter echoScript)) = true := by decide +kernel
  unfold givesText at hrun
  split at hrun
  · rename_i t s' hinvoke
    obtain rfl := beq_iff_eq.mp hrun
    refine ⟨s', hinvoke, fun hsame => ?_⟩
    exact absurd (HostValue.str.inj hsame.of_str) (by decide)
  · cases hrun

end ScriptHost.Proofs.EchoedTrees
