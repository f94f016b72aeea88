import ScriptHost.Proofs.Conclusions
import ScriptHost.Proofs.Encodings
import ScriptHost.Proofs.KeptReferences
import ScriptHost.Proofs.RefusedData
import ScriptHost.Proofs.Replies
import ScriptHost.Proofs.StrictJson

/-!
# Calls that host functions answer

The reply of a host function is a text that the bridge reads as data.  It is in the grammar of such
texts, and the bridge can read it, unless a float of what was returned is infinite or no number.  A
call of a function that the bridge has made then gives the image of what was returned, or throws an
error with the text of the fault.
-/

namespace ScriptHost.Proofs.AnsweredCalls

open Script Script.Eval ScriptEngine Interpreter
open ScriptHost.Proofs.Bridge
open ScriptHost.Proofs.BridgedCalls
open ScriptHost.Proofs.BuiltData
open ScriptHost.Proofs.Conclusions
open ScriptHost.Proofs.DataTokens hiding ok_of_bind
open ScriptHost.Proofs.DataTrees
open ScriptHost.Proofs.DataValues
open ScriptHost.Proofs.Encodings
open ScriptHost.Proofs.ErrorTexts
open ScriptHost.Proofs.Evaluation
open ScriptHost.Proofs.KeptReferences
open ScriptHost.Proofs.NewObjects
open ScriptHost.Proofs.ParsedData
open ScriptHost.Proofs.PropertyChains
open ScriptHost.Proofs.RefusedData
open ScriptHost.Proofs.Replies
open ScriptHost.Proofs.StrictJson
open ScriptHost.Proofs.Transition (ok_of_bind)

section Engine

variable {σ α β : Type} {s s' s₁ : Machine × σ} {m m' : Machine} {I : Interp σ} {host : Engine.HostCall σ}
  {site : Site} {n i : Nat} {r raw j p q : Ref} {c : Closure} {t : Telling} {tools : Tools}
  {d : HostValue} {key : String} {text : Text} {v w receiver : Value} {args : Array Value}

/-! ## Reading a reply -/

/-- A value is the image of data, with all objects of it. -/
def IsImage (m : Machine) (w : Value) (d : HostValue) : Prop :=
  ∃ i, w = (built i (datum d)).1 ∧ i + (built i (datum d)).2.length ≤ m.objects.size ∧
    Standing m i (built i (datum d)).2

theorem IsImage.of_objects (h : IsImage m w d) (hobjects : HasObjects m m') : IsImage m' w d := by
  obtain ⟨i, hw, hrange, hstanding⟩ := h
  have hlast (k : Nat) (hk : k < m.objects.size) := hobjects ⟨k⟩ hk
  refine ⟨i, hw, ?_, fun k hk => ?_⟩
  · rcases Nat.eq_zero_or_pos m.objects.size with hzero | hpos
    · omega
    · have := (hlast (m.objects.size - 1) (by omega)).1
      simp only at this
      omega
  · rw [(hlast (i + k) (by omega)).2]
    exact hstanding k hk

theorem isFinite_reply : IsFinite (.ofFields [(key, d)]) ↔ IsFinite d := by
  simp [HostValue.ofFields, IsFinite, EntriesFinite]

/-- A reply that can be read is an object with one member. -/
theorem reads_reply (hfinite : IsFinite d) (ht : HostFunction.replyText key d = .ok text)
    (s : Machine × σ) :
    ∃ q s', Library.jsonFunction I .parse #[.string (Utf16.ofText text)] s = .ok (.object q) s' ∧
      Newer s.1.objects.size s s' ∧ ∃ w, IsImage s'.1 w d ∧
      ∀ k, HasMember s'.1 q k (if k = Utf16.ofString key then some w else none) := by
  have hrun := @parse_written _ I _ _ s (isFinite_reply.mpr hfinite) ht
  let w := (built (s.1.objects.size + 1) (datum d)).1
  let os := (built (s.1.objects.size + 1) (datum d)).2
  let o := withProperty emptyObject (Utf16.ofString key) w
  have hbuilt : built s.1.objects.size (datum (.ofFields [(key, d)])) =
      (.object ⟨s.1.objects.size⟩, o :: os) := by
    change built s.1.objects.size (.record [(Utf16.ofString key, datum d)]) = _
    simp [built, builtMembers, o, os, w]
  rw [hbuilt] at hrun
  have hnew : objectAt (withObjects (o :: os) s).1 ⟨s.1.objects.size⟩ = o := objectAt_new o os s
  refine ⟨_, _, hrun, newer_withObjects _ s, w, ⟨s.1.objects.size + 1, rfl, ?_, ?_⟩, fun k => ⟨⟨?_, ?_⟩, ?_⟩⟩
  · rw [size_withObjects, List.length_cons]
    change s.1.objects.size + 1 + os.length ≤ _
    omega
  · exact (standing_cons.mp (standing_withObjects (o :: os) s)).2
  · rw [size_withObjects]
    simp
  · rw [hnew]
    intro _ _ _ h
    cases h
  · rw [hnew, own_withProperty rfl]
    split
    · rfl
    · simp [emptyObject, Object.bare, Object.own?, PropertyTable.get?, PropertyTable.place?,
        PropertyTable.empty]

/-- A reply that cannot be read ends in an error of the engine. -/
theorem refuses_reply (hnot : ¬IsFinite d) (ht : HostFunction.replyText key d = .ok text)
    (s : Machine × σ) :
    ∃ p message s', Library.jsonFunction I .parse #[.string (Utf16.ofText text)] s =
      .error (.thrown (.object p)) s' ∧ IsError s'.1 p syntaxPrototype message := by
  obtain ⟨e, hread⟩ := read_refused (fun h => hnot (isFinite_reply.mp h)) ht
  obtain ⟨stack, hfail⟩ := failSyntax_run (α := Value) e.message e.line s
  have htext : toText I (Library.arg #[.string (Utf16.ofText text)] 0) s =
      .ok (Utf16.ofText text) s := rfl
  have hvalue : Library.JsonText.readValue I text s = .error (.thrown (.object ⟨s.1.objects.size⟩))
      (withObjects [syntaxError e.message e.line stack] s) := by
    unfold Library.JsonText.readValue
    rw [hread]
    exact hfail
  refine ⟨⟨s.1.objects.size⟩, Utf16.ofText e.message,
    withObjects [syntaxError e.message e.line stack] s, ?_, ?_⟩
  · unfold Library.jsonFunction
    dsimp only
    rw [bind_ok htext, toText_ofText (DataTexts.isClean_write _ ht)]
    exact bind_error hvalue
  · have hnew := objectAt_new (syntaxError e.message e.line stack) [] s
    refine ⟨by simp, by rw [hnew]; rfl, by rw [hnew]; rfl, ?_⟩
    rw [hnew]
    exact get_syntaxError_message _ _ _

/-! ## Concluding -/

/-- The reader of data is called. -/
theorem call_parse (hp : (objectAt s.1 p).kind = .native (.jsonFunction .parse))
    (hdepth : s.1.depth ≤ Engine.callLimit) (v w : Value) :
    (Engine.interp host (n + 1)).call (.object p) v #[w] s =
      withFrame (Engine.nativeFrame p)
        (Library.jsonFunction (Engine.interp host n) .parse #[w]) s :=
  call_native hp hdepth v #[w]

theorem withFrame_error {f : Frame} {x : Eval σ α} {e : Signal} (h : x (within f s) = .error e s') :
    withFrame f x s = .error e (after s') := by
  rw [withFrame_run, h]

theorem kind_newer {f : Native} (hp : (objectAt s.1 p).kind = .native f)
    (hnewer : Newer s.1.objects.size s s') : (objectAt s'.1 p).kind = .native f :=
  (hnewer.kinds p (index_lt_of_native hp)).trans hp

/-- A reply that can be read is kept, and the rest of the body runs. -/
theorem concluded_reads (h : Concluding s site.scope raw tools .undefined)
    (hp : (objectAt s.1 p).kind = .native (.jsonFunction .parse)) (hfinite : IsFinite d)
    (ht : HostFunction.replyText key d = .ok text) :
    ∃ q s', Concluding s' site.scope raw tools (.object q) ∧ Preserves s s' ∧
      (∃ w, IsImage s'.1 w d ∧
        ∀ k, HasMember s'.1 q k (if k = Utf16.ofString key then some w else none)) ∧
      concluded host n t site j (.object p) (.string (Utf16.ofText text)) s =
        (Callable.executeAll (Engine.interp host (n + 5)) site t.rest >>= fun done =>
          pure (Callable.resultOf done)) s' := by
  obtain ⟨s₁, hline₁, hnewer₁⟩ := gives_reachLine t.line s
  have h₁ := h.newer hnewer₁
  obtain ⟨q, s₂, hread, hnewer₂, w, himage, hmembers⟩ := reads_reply
    (I := Engine.interp host (n + 2)) hfinite ht (within (Engine.nativeFrame p) s₁)
  have hcall := (call_parse (n := n + 2) (kind_newer hp hnewer₁) (Nat.le_of_lt h₁.room)
    (.object j) (.string (Utf16.ofText text))).trans (withFrame_ok hread)
  obtain ⟨s₃, hline₃, hnewer₃⟩ := gives_reachLine t.line (after s₂)
  have h₃ := (h₁.newer (newer_within _ hnewer₂)).newer hnewer₃
  obtain ⟨s₄, hwrite, h₄, hsame, hdepth⟩ := write_reply (I := Engine.interp host (n + 4)) h₃ (.object q)
    site.strict
  have hobjects : HasObjects s₂.1 s₄.1 := fun r hr => by
    obtain ⟨hr', hr''⟩ := hasObjects_of_newer hnewer₃ r hr
    obtain ⟨hrange, hkept⟩ := hasObjects_of_same hsame r hr'
    exact ⟨hrange, hkept.trans hr''⟩
  have hbefore : Preserves s s₃ := (Newer.preserves hnewer₁).trans
    ((Newer.preserves hnewer₂).after.trans (Newer.preserves hnewer₃))
  refine ⟨q, s₄, h₄, hbefore.trans ⟨hasObjects_of_same hsame, hdepth⟩,
    ⟨w, himage.of_objects hobjects, fun k => (hmembers k).of_objects hobjects⟩, ?_⟩
  unfold concluded
  rw [bind_ok hline₁, bind_ok hcall, bind_ok hline₃, bind_ok hwrite]

/-- A reply that cannot be read ends in an error of the engine. -/
theorem concluded_refuses (h : Concluding s site.scope raw tools .undefined)
    (hp : (objectAt s.1 p).kind = .native (.jsonFunction .parse)) (hnot : ¬IsFinite d)
    (ht : HostFunction.replyText key d = .ok text) :
    ∃ q message s', concluded host n t site j (.object p) (.string (Utf16.ofText text)) s =
      .error (.thrown (.object q)) s' ∧ IsError s'.1 q syntaxPrototype message := by
  obtain ⟨s₁, hline₁, hnewer₁⟩ := gives_reachLine t.line s
  have h₁ := h.newer hnewer₁
  obtain ⟨q, message, s₂, hread, herror⟩ := refuses_reply
    (I := Engine.interp host (n + 2)) hnot ht (within (Engine.nativeFrame p) s₁)
  have hcall := (call_parse (n := n + 2) (kind_newer hp hnewer₁) (Nat.le_of_lt h₁.room)
    (.object j) (.string (Utf16.ofText text))).trans (withFrame_error hread)
  refine ⟨q, message, after s₂, ?_, herror.of_objects (hasObjects_after s₂)⟩
  unfold concluded
  rw [bind_ok hline₁]
  exact bind_error hcall

variable (hrest : Concludes t) (hsite : site.records = false)

include hrest hsite in
/-- A reply with a value gives its image. -/
theorem concluded_value (h : Concluding s site.scope raw tools .undefined)
    (hp : (objectAt s.1 p).kind = .native (.jsonFunction .parse)) (hfinite : IsFinite d)
    (ht : HostFunction.replyText "value" d = .ok text) :
    ∃ w s', concluded host (n + 1) t site j (.object p) (.string (Utf16.ofText text)) s =
      .ok w s' ∧ IsImage s'.1 w d := by
  obtain ⟨l₁, l₂, l₃, hrest⟩ := hrest
  obtain ⟨q, s₁, h₁, -, ⟨w, himage, hmembers⟩, hrun⟩ := concluded_reads (n := n + 1)
    (t := t) (j := j) h hp hfinite ht
  have herror : HasMember s₁.1 q errorMember none := by
    have hne : errorMember ≠ Utf16.ofString "value" := by decide
    simpa [hne] using hmembers errorMember
  have hvalue : HasMember s₁.1 q valueMember (some w) := by
    simpa [valueMember] using hmembers valueMember
  obtain ⟨s₂, hresult, hnewer⟩ := concludes_value (n := n) h₁ herror hvalue hsite l₁ l₂ l₃
  refine ⟨w, s₂, ?_, himage.of_objects (hasObjects_of_newer hnewer)⟩
  rw [hrun, hrest]
  exact bind_ok hresult

include hrest hsite in
/-- A reply with the text of a fault ends in an error that has the text as its message. -/
theorem concluded_error {message : Text} (h : Concluding s site.scope raw tools .undefined)
    (hp : (objectAt s.1 p).kind = .native (.jsonFunction .parse))
    (ht : HostFunction.replyText "error" (.str message) = .ok text) :
    ∃ q s', concluded host (n + 1) t site j (.object p) (.string (Utf16.ofText text)) s =
      .error (.thrown (.object q)) s' ∧
      IsMade s'.1 q tools.errorPrototype (Utf16.ofText message) ∧ Preserves s s' := by
  obtain ⟨l₁, l₂, l₃, hrest⟩ := hrest
  obtain ⟨q, s₁, h₁, hpreserves, ⟨w, ⟨i, hw, -⟩, hmembers⟩, hrun⟩ := concluded_reads (n := n + 1)
    (t := t) (j := j) h hp (d := .str message) trivial ht
  have herror : HasMember s₁.1 q errorMember (some (.string (Utf16.ofText message))) := by
    obtain rfl : w = .string (Utf16.ofText message) := hw.trans (by simp [datum, built])
    simpa [errorMember] using hmembers errorMember
  obtain ⟨r, s₂, hresult, hmade, hmore⟩ :=
    concludes_error (n := n) h₁ herror hsite l₁ l₂ l₃
  refine ⟨r, s₂, ?_, hmade, hpreserves.trans hmore⟩
  rw [hrun, hrest]
  exact bind_error hresult

/-! ## Asking -/

/-- What a call gives in whose course something has been computed. -/
def leaving (x : EStateM.Result Signal (Machine × σ) α) : EStateM.Result Signal (Machine × σ) α :=
  match x with
  | .ok a s => .ok a (after s)
  | .error e s => .error e (after s)

/-- Where a call has written what it asks, it is answered, and goes on with the reply. -/
theorem asks_written {answer : Value → Eval σ Value} (hcode : telling? c.code = some t)
    (h : written host n r c t receiver args s = .ok v s₁) :
    asks host n r c t j (.object p) answer receiver args s =
      leaving ((answer v >>= concluded host n t ⟨s.1.scopes.size, false, false⟩ j (.object p)) s₁) := by
  unfold written at h
  obtain ⟨u, s₂, hdepth, hrun⟩ := ok_of_bind h
  obtain rfl := checkDepth_ok hdepth
  obtain ⟨this, s₃, hreceiver, hnewer, -⟩ := adds_receiverFor receiver s₂ (Nat.le_refl _)
  rw [bind_ok hreceiver] at hrun
  obtain ⟨a, s₄, henter, -⟩ := enter_telling (I := Engine.interp host (n + 5)) (tells_of hcode) r this
    args (within (Callable.frameOf r c.code.info) s₃)
  have hscopes : (within (Callable.frameOf r c.code.info) s₃).1.scopes.size = s₂.1.scopes.size :=
    congrArg Array.size hnewer.scopes
  rw [hscopes] at henter
  have hentered := (bind_ok henter).symm.trans hrun
  obtain ⟨u, s₅, hline, hevaluated⟩ := ok_of_bind hentered
  obtain ⟨w, s₆, hpayload, hasked⟩ := ok_of_bind hevaluated
  obtain ⟨u, s₇, hagain, hdone⟩ := ok_of_bind hasked
  cases hdone
  unfold asks
  rw [bind_ok hdepth, bind_ok hreceiver, withFrame_run]
  have hbody : (do
      let site ← Callable.enter (Engine.interp host (n + 5)) ⟨r, c, some this, .undefined⟩ args
      reachLine t.line
      concluded host n t site j (.object p) (← asked host n t site answer) : Eval σ Value)
        (within (Callable.frameOf r c.code.info) s₃) =
      (answer v >>= concluded host n t ⟨s₂.1.scopes.size, false, false⟩ j (.object p)) s₁ := by
    rw [bind_ok henter, bind_ok hline]
    unfold asked
    rw [bind_assoc, bind_ok hpayload, bind_assoc, bind_ok hagain]
  rw [hbody]
  rfl

/-- An error of the engine is thrown. -/
theorem failText_run (cls : String) (message : Utf16) (s : Machine × σ) :
    ∃ q s', (failText cls message : Eval σ α) s = .error (.thrown (.object q)) s' ∧
      IsError s'.1 q (errorPrototype (errorClass cls)) message := by
  let started := withObjects [withPut (.bare .error (some (errorPrototype (errorClass cls))))
    "message" (.hidden (.string message))] s
  obtain ⟨stack, hstack⟩ := trace_run 0 started
  refine ⟨⟨s.1.objects.size⟩, _, ?_, (isMade_new _ message stack s).isError⟩
  unfold failText newError
  rw [bind_assoc, bind_ok (allocate_run _ s), bind_assoc, bind_ok (putProperty_new _ _ _ _ s), bind_assoc]
  refine (bind_ok hstack).trans ?_
  rw [bind_assoc, bind_ok (putProperty_new _ _ _ _ s)]
  rfl

end Engine

/-! ## Calls from a script -/

/-- A call of a function that the bridge has made of a host function, and what the engine has for
it. -/
structure BridgedCall where
  callee : Ref
  raw : Ref
  id : Nat
  closure : Closure
  telling : Telling
  function : HostFunction
  json : Ref
  parse : Ref
  tools : Tools
  receiver : Value
  args : Array Value

namespace BridgedCall

variable {x : BridgedCall} {n : Nat} {s s₁ : Machine × Host} {q d : HostValue} {e : Fault} {m : Text}

/-- The call. -/
def run (x : BridgedCall) (n : Nat) : Eval Host Value :=
  (Engine.interp hostCall (n + 7)).call (.object x.callee) x.receiver x.args

/-- The engine as the host function has it. -/
def engine (n : Nat) : Interpreter Machine Value := interpreterOver (Engine.interp hostCall (n + 1))

/-- The state in which the host function is called, where the arguments have been written. -/
def start (x : BridgedCall) (s₁ : Machine × Host) : Machine × Host :=
  within (Engine.nativeFrame x.raw) s₁

/-- The data of what the host function returns, or the fault that it ends in. -/
def outcome (x : BridgedCall) (n : Nat) (s₁ : Machine × Host) (q : HostValue) : Except Fault HostValue :=
  returnedData (ending (engine n) x.function q (x.start s₁)).1

/-- The state in which the reply comes back to the bridge. -/
def replied (x : BridgedCall) (n : Nat) (s₁ : Machine × Host) (q : HostValue) : Machine × Host :=
  after (endOf ((engine n).replyTo x.function q (x.start s₁)))

/-- The bridge's function has captured the host function and asks it with its arguments; when the
reply comes back, the functions that the bridge uses are the engine's own. -/
structure Asks (x : BridgedCall) (n : Nat) (s s₁ : Machine × Host) (q : HostValue) : Prop where
  captures : Captures s.1 x.callee x.id x.closure x.telling x.raw
  concludes : Concludes x.telling
  function : s.2.registry.function? x.id = some x.function
  reader : HasJson s.1 x.json (.object x.parse)
  written : ∃ v, written hostCall (n + 1) x.callee x.closure x.telling x.receiver x.args s = .ok v s₁ ∧
    payload v = .ok q
  holds : Holds x.raw s s₁
  room : s₁.1.depth ≤ Engine.callLimit
  parse : (objectAt (x.replied n s₁ q).1 x.parse).kind = .native (.jsonFunction .parse)
  concluding : Concluding (x.replied n s₁ q) s.1.scopes.size x.raw x.tools .undefined

theorem run_asks (h : Asks x n s s₁ q) :
    x.run n s = leaving (((withFrame (Engine.nativeFrame x.raw) fun s =>
      delivered ((engine n).replyTo x.function q s)) >>=
        concluded hostCall (n + 1) x.telling ⟨s.1.scopes.size, false, false⟩ x.json
          (.object x.parse)) s₁) := by
  obtain ⟨v, hwritten, hpayload⟩ := h.written
  have hcall : x.run n s = _ := call_answered (n := n + 1) h.captures h.function h.reader
    (fun w s' hrun => by
      rw [hwritten] at hrun
      cases hrun
      exact h.holds)
  rw [hcall, asks_written h.captures.code hwritten]
  refine congrArg leaving (bind_congr ?_)
  unfold answers
  rw [bind_ok (checkDepth_run h.room)]
  refine withFrame_congr ?_
  unfold told
  rw [hpayload]
  rfl

theorem run_replied {text : Text} {s₂ : Machine × Host} (h : Asks x n s s₁ q)
    (hreply : (engine n).replyTo x.function q (x.start s₁) = .ok text s₂) :
    x.run n s = leaving (concluded hostCall (n + 1) x.telling ⟨s.1.scopes.size, false, false⟩ x.json
      (.object x.parse) (.string (Utf16.ofText text)) (x.replied n s₁ q)) := by
  rw [run_asks h]
  refine congrArg leaving (bind_ok ?_)
  unfold replied
  rw [hreply]
  refine withFrame_ok ?_
  change delivered ((engine n).replyTo x.function q (x.start s₁)) = _
  rw [hreply]
  rfl

/-- A host function that returns data without infinities is answered with the image of the data. -/
theorem run_value (h : Asks x n s s₁ q) (hd : x.outcome n s₁ q = .ok d) (hfinite : IsFinite d) :
    ∃ w s', x.run n s = .ok w s' ∧ IsImage s'.1 w d := by
  obtain ⟨text, hreply, ht⟩ := replyTo_returned hd
  obtain ⟨w, s₂, hrun, himage⟩ := concluded_value (n := n) (j := x.json)
    h.concludes rfl
    (show Concluding (x.replied n s₁ q) (Site.scope ⟨s.1.scopes.size, false, false⟩) x.raw x.tools
      .undefined from h.concluding) h.parse hfinite ht
  refine ⟨w, after s₂, ?_, himage.of_objects (hasObjects_after s₂)⟩
  rw [run_replied h hreply, hrun]
  rfl

/-- What a host function returns is not read, if a float of it is infinite or no number. -/
theorem run_refused (h : Asks x n s s₁ q) (hd : x.outcome n s₁ q = .ok d) (hnot : ¬IsFinite d) :
    ∃ p message s', x.run n s = .error (.thrown (.object p)) s' ∧
      IsError s'.1 p syntaxPrototype message := by
  obtain ⟨text, hreply, ht⟩ := replyTo_returned hd
  obtain ⟨p, message, s₂, hrun, herror⟩ := concluded_refuses (n := n + 1)
    (t := x.telling) (j := x.json)
    (show Concluding (x.replied n s₁ q) (Site.scope ⟨s.1.scopes.size, false, false⟩) x.raw x.tools
      .undefined from h.concluding) h.parse
    hnot ht
  refine ⟨p, message, after s₂, ?_, herror.of_objects (hasObjects_after s₂)⟩
  rw [run_replied h hreply, hrun]
  rfl

/-- A fault that can be worded is thrown as a new error with its text. -/
theorem run_throws (h : Asks x n s s₁ q) (he : x.outcome n s₁ q = .error e) (hm : e.message? = some m) :
    ∃ p s', x.run n s = .error (.thrown (.object p)) s' ∧
      IsMade s'.1 p x.tools.errorPrototype (Utf16.ofText (errorText e m)) ∧
      HasObjects (x.replied n s₁ q).1 s'.1 ∧ s'.1.depth ≤ Engine.callLimit := by
  obtain ⟨text, s₂, hreply, ht⟩ := replyTo_failed he hm
  obtain ⟨p, s₃, hrun, hmade, hpreserves⟩ := concluded_error (n := n) (j := x.json)
    h.concludes rfl
    (show Concluding (x.replied n s₁ q) (Site.scope ⟨s.1.scopes.size, false, false⟩) x.raw x.tools
      .undefined from h.concluding) h.parse ht
  refine ⟨p, after s₃, ?_, hmade.of_objects (hasObjects_after s₃),
    hpreserves.objects.trans (hasObjects_after s₃), ?_⟩
  · rw [run_replied h hreply, hrun]
    rfl
  · have hroom := h.concluding.room
    rw [← hpreserves.depth] at hroom
    exact Nat.le_trans (Nat.sub_le _ _) (Nat.le_of_lt hroom)

theorem run_fault (h : Asks x n s s₁ q) (he : x.outcome n s₁ q = .error e) (hm : e.message? = some m) :
    ∃ p s', x.run n s = .error (.thrown (.object p)) s' ∧
      IsError s'.1 p x.tools.errorPrototype (Utf16.ofText (errorText e m)) := by
  obtain ⟨p, s', hrun, hmade, -⟩ := run_throws h he hm
  exact ⟨p, s', hrun, hmade.isError⟩

/-- A fault that cannot be worded is thrown as an error of the engine. -/
theorem run_unworded (h : Asks x n s s₁ q) (he : x.outcome n s₁ q = .error e)
    (hm : e.message? = none) :
    ∃ p s', x.run n s = .error (.thrown (.object p)) s' ∧
      IsError s'.1 p (errorPrototype (errorClass "InternalError"))
        (Utf16.ofString "Python call failed.") := by
  have hreply := replyTo_unworded (X := engine n) he hm
  obtain ⟨p, s₂, hfail, herror⟩ := failText_run (α := Value) "InternalError"
    (Utf16.ofString "Python call failed.") (ending (engine n) x.function q (x.start s₁)).2
  have hframe : withFrame (Engine.nativeFrame x.raw)
      (fun s => delivered ((engine n).replyTo x.function q s)) s₁ =
        .error (.thrown (.object p)) (after s₂) := by
    refine withFrame_error ?_
    change delivered ((engine n).replyTo x.function q (x.start s₁)) = _
    rw [hreply]
    exact hfail
  refine ⟨p, after (after s₂), ?_,
    (herror.of_objects (hasObjects_after s₂)).of_objects (hasObjects_after (after s₂))⟩
  rw [run_asks h, bind_error hframe]
  rfl

end BridgedCall

/-! ## Replies that can be read -/

/-- All floats of what is returned are finite, if anything is returned that has data. -/
def IsReadable (outcome : Except Fault HostValue) : Prop :=
  ∀ d, returnedData outcome = .ok d → IsFinite d

section Replies

variable {E V : Type} {X : Interpreter E V} {f : HostFunction} {payload : HostValue}
  {s s' : E × Instance V} {t : Text}

/-- A reply is what is written for data, which is finite if and only if the outcome is readable. -/
theorem reply_written (h : X.replyTo f payload s = .ok t s') :
    ∃ v, Json.write Json.wire v = .ok t ∧ (IsFinite v ↔ IsReadable (ending X f payload s).1) := by
  unfold IsReadable
  cases hd : returnedData (ending X f payload s).1 with
  | ok d =>
      obtain ⟨t', hrun, ht⟩ := replyTo_returned hd
      rw [hrun] at h
      cases h
      exact ⟨_, ht, by simp [isFinite_reply]⟩
  | error e =>
      cases hm : e.message? with
      | some m =>
          obtain ⟨t', s₁, hrun, ht⟩ := replyTo_failed hd hm
          rw [hrun] at h
          cases h
          exact ⟨_, ht, by simp [isFinite_reply, IsFinite]⟩
      | none =>
          rw [replyTo_unworded hd hm] at h
          cases h

/-- A reply is in the strict grammar of data, and the script's own reader takes it, exactly if no
float of what the host function returns is infinite or no number.  A call from a script then gives
the image of what is returned; a fault is thrown as an error with its text, or where it has none as
an error of the engine.  Only what is returned with such a float ends in a syntax error. -/
theorem bridge_reads_finite_replies (x : BridgedCall) (n : Nat) (s s₁ : Machine × Host)
    (q : HostValue) :
    (∀ {E V : Type} (X : Interpreter E V) (f : HostFunction) (payload : HostValue)
      (s s' : E × Instance V) (t : Text), X.replyTo f payload s = .ok t s' →
      (IsJson t ↔ IsReadable (ending X f payload s).1) ∧
      ((∃ d, Library.JsonText.read t = .ok d) ↔ IsReadable (ending X f payload s).1)) ∧
    (x.Asks n s s₁ q →
      (∀ d, x.outcome n s₁ q = .ok d → IsFinite d →
        ∃ w s', x.run n s = .ok w s' ∧ IsImage s'.1 w d) ∧
      (∀ e m, x.outcome n s₁ q = .error e → e.message? = some m →
        ∃ p s', x.run n s = .error (.thrown (.object p)) s' ∧
          IsError s'.1 p x.tools.errorPrototype (Utf16.ofText (errorText e m))) ∧
      (∀ e, x.outcome n s₁ q = .error e → e.message? = none →
        ∃ p s', x.run n s = .error (.thrown (.object p)) s' ∧
          IsError s'.1 p (errorPrototype (errorClass "InternalError"))
            (Utf16.ofString "Python call failed.")) ∧
      (∀ d, x.outcome n s₁ q = .ok d → ¬IsFinite d →
        ∃ p message s', x.run n s = .error (.thrown (.object p)) s' ∧
          IsError s'.1 p syntaxPrototype message)) := by
  refine ⟨fun X f payload s s' t hrun => ?_, fun h => ⟨fun d hd hfinite => ?_,
    fun e m he hm => ?_, fun e he hm => ?_, fun d hd hnot => ?_⟩⟩
  · obtain ⟨v, hv, hreadable⟩ := reply_written hrun
    exact ⟨(isJson_iff hv).trans hreadable, (read_iff hv).trans hreadable⟩
  · exact BridgedCall.run_value h hd hfinite
  · exact BridgedCall.run_fault h he hm
  · exact BridgedCall.run_unworded h he hm
  · exact BridgedCall.run_refused h hd hnot

end Replies

/-! ## Answers that can be seen -/

/-- The realm of the bridge, with the constructor of errors. -/
def replyRealm : Machine :=
  (endOf (Realm.constructor "Error" 1 (.error 0) (errorPrototype 0) (bridgedRealm, ()))).1

/-- The state of an instance in that realm, once the bridge is there. -/
def replyState : Machine × Host :=
  endOf (interpreter.run bridgeSource (replyRealm, Instance.blank Value))

/-- What a member of a module stands for that is a function. -/
def memberFunction? (m : Machine) (module key : String) : Option Ref := do
  let q ← constantObject? m (Utf16.ofString module)
  foundObject? m (Utf16.ofString key) q

/-- The call of a function that the bridge has made, if it is one. -/
def bridgedCall? (s : Machine × Host) (r : Ref) : Option BridgedCall :=
  match (objectAt s.1 r).kind, reader? s.1 with
  | .closure c, some (j, .object p) => do
    let t ← telling? c.code
    let sc ← s.1.scopes[c.scope]?
    match sc.bindings.toList, sc.parent with
    | [⟨a, some (.object raw), true, false⟩], some 0 =>
      match (objectAt s.1 raw).kind with
      | .native (.host id) => do
        let f ← s.2.registry.function? id
        let tools ← tools? s.1
        if a = rawName ∧ (conclusion? t.rest).isSome then
          some ⟨r, raw, id, c, t, f, j, p, tools, .undefined, #[]⟩
        else none
      | _ => none
    | _, _ => none
  | _, _ => none

/-- What a call needs in the first place. -/
theorem bridgedCall_of {s : Machine × Host} {r : Ref} {x : BridgedCall} (h : bridgedCall? s r = some x) :
    x.callee = r ∧ Captures s.1 x.callee x.id x.closure x.telling x.raw ∧ Concludes x.telling ∧
      s.2.registry.function? x.id = some x.function ∧ HasJson s.1 x.json (.object x.parse) := by
  unfold bridgedCall? at h
  split at h
  · rename_i c j p hclosure hreader
    simp only [Option.bind_eq_bind, Option.bind_eq_some_iff] at h
    obtain ⟨t, ht, sc, hsc, h⟩ := h
    split at h
    · rename_i a raw hbindings hparent
      split at h
      · rename_i id hnative
        simp only [Option.bind_eq_some_iff] at h
        obtain ⟨f, hf, tools, htools, h⟩ := h
        split at h
        · rename_i hboth
          obtain ⟨rfl, hconcludes⟩ := hboth
          cases h
          exact ⟨rfl, ⟨hclosure, ht, ⟨sc, hsc, Array.toList_inj.mp hbindings, hparent⟩, hnative⟩,
            concludes_of hconcludes, hf, hasJson_of hreader⟩
        · cases h
      · cases h
    · cases h
  · cases h

namespace BridgedCall

/-- The state in which a call asks the host, and what it asks, if the call gets so far and what the
bridge uses is the engine's own when the reply comes back. -/
def asked? (x : BridgedCall) (n : Nat) (s : Machine × Host) : Option ((Machine × Host) × HostValue) :=
  match KeptReferences.written hostCall (n + 1) x.callee x.closure x.telling x.receiver x.args s with
  | .ok v s₁ =>
    match payload v with
    | .ok q =>
      match (objectAt (x.replied n s₁ q).1 x.parse).kind with
      | .native (.jsonFunction .parse) =>
        if KeptReferences.holds x.raw s s₁ = true ∧ s₁.1.depth ≤ Engine.callLimit ∧
            concluding? (x.replied n s₁ q) s.1.scopes.size x.raw = some x.tools then some (s₁, q)
        else none
      | _ => none
    | .error _ => none
  | .error _ _ => none

theorem asks_of {x : BridgedCall} {n : Nat} {s s₁ : Machine × Host} {r : Ref} {q : HostValue}
    {v : Value} {args : Array Value} (hx : bridgedCall? s r = some x)
    (h : asked? { x with receiver := v, args } n s = some (s₁, q)) :
    Asks { x with receiver := v, args } n s s₁ q := by
  obtain ⟨-, hcaptures, hconcludes, hfunction, hreader⟩ := bridgedCall_of hx
  unfold asked? at h
  split at h
  · rename_i v s₁' hwritten
    split at h
    · rename_i q' hpayload
      split at h
      · rename_i hparse
        split at h
        · rename_i hall
          obtain ⟨hholds, hroom, hconcluding⟩ := hall
          cases h
          exact ⟨hcaptures, hconcludes, hfunction, hreader, ⟨v, hwritten, hpayload⟩, holds_of hholds,
            hroom, hparse, concluding_of hconcluding⟩
        · cases h
      · cases h
    · cases h
  · cases h

end BridgedCall

/-- Whether a member of a module is a function that asks the host, which then returns a number. -/
def isAnswered (module key : String) (i : Int) (n : Nat) (s : Machine × Host) : Bool :=
  match memberFunction? s.1 module key with
  | some r =>
    match bridgedCall? s r with
    | some x =>
      match x.asked? n s with
      | some (s₁, q) =>
        match x.outcome n s₁ q with
        | .ok (.int l) => l == i
        | _ => false
      | none => false
    | none => false
  | none => false

/-- Whether a module with a function that returns a number can be registered, and its function is
one that asks the host, which then returns the number. -/
def isRegisteredAndAnswered (i : Int) (n : Nat) (s₀ : Machine × Host) : Bool :=
  match interpreter.register (.ofString "m") (.ofFields [("f", returning 0 i)]) s₀ with
  | .ok _ s => isAnswered "m" "f" i n s
  | .error _ _ => false

theorem registered_of {i : Int} {n : Nat} {s₀ : Machine × Host}
    (h : isRegisteredAndAnswered i n s₀ = true) :
    ∃ (s s₁ : Machine × Host) (x : BridgedCall) (q : HostValue),
      interpreter.register (.ofString "m") (.ofFields [("f", returning 0 i)]) s₀ = .ok () s ∧
      memberFunction? s.1 "m" "f" = some x.callee ∧ x.Asks n s s₁ q ∧
      x.outcome n s₁ q = .ok (.int i) := by
  unfold isRegisteredAndAnswered at h
  split at h
  · rename_i s hregister
    unfold isAnswered at h
    split at h
    · rename_i r hmember
      split at h
      · rename_i x hx
        split at h
        · rename_i s₁ q hasked
          split at h
          · rename_i l houtcome
            obtain rfl := beq_iff_eq.mp h
            exact ⟨s, s₁, x, q, hregister, by rw [(bridgedCall_of hx).1, hmember],
              BridgedCall.asks_of hx hasked, houtcome⟩
          · cases h
        · cases h
      · cases h
    · cases h
  · cases h

theorem isRegisteredAndAnswered_seven : isRegisteredAndAnswered 7 30 replyState = true := by
  rw [replyState, run_bridgeTree]
  decide +kernel

/-- A module has a function that returns a number; its reply is in the strict grammar, and a call of
the function from a script gives the number. -/
theorem seven_is_read : ∃ (s s₁ : Machine × Host) (x : BridgedCall) (q : HostValue),
    interpreter.register (.ofString "m") (.ofFields [("f", returning 0 7)]) replyState = .ok () s ∧
    memberFunction? s.1 "m" "f" = some x.callee ∧ x.Asks 30 s s₁ q ∧
    (∃ t s', (BridgedCall.engine 30).replyTo x.function q (x.start s₁) = .ok t s' ∧ IsJson t) ∧
    ∃ w s', x.run 30 s = .ok w s' ∧ IsImage s'.1 w (.int 7) := by
  obtain ⟨s, s₁, x, q, hregister, hmember, hasks, houtcome⟩ :=
    registered_of isRegisteredAndAnswered_seven
  obtain ⟨hreplies, hcalls⟩ := bridge_reads_finite_replies x 30 s s₁ q
  obtain ⟨t, hreply, -⟩ := replyTo_returned houtcome
  refine ⟨s, s₁, x, q, hregister, hmember, hasks, ⟨t, _, hreply, ?_⟩,
    (hcalls hasks).1 _ houtcome trivial⟩
  refine (hreplies _ _ _ _ _ _ hreply).1.mpr fun d hd => ?_
  rw [show returnedData _ = _ from houtcome] at hd
  cases hd
  trivial

/-- A host function that returns what is no number. -/
def returningNaN : HostValue := .function 0 (.returns (.float Binary.nan))

/-- Whether a call of a function that returns what is no number ends in a syntax error. -/
def throwsSyntaxError (s₀ : Machine × Host) : Bool :=
  match interpreter.register (.ofString "m") (.ofFields [("f", returningNaN)]) s₀ with
  | .ok _ s =>
    match memberFunction? s.1 "m" "f" with
    | some r =>
      match (Engine.interp hostCall 37).call (.object r) .undefined #[] s with
      | .error (.thrown (.object p)) s' =>
        decide ((objectAt s'.1 p).prototype = some syntaxPrototype)
      | _ => false
    | none => false
  | .error _ _ => false

theorem thrown_of {s₀ : Machine × Host} (h : throwsSyntaxError s₀ = true) : ∃ s r p s',
    interpreter.register (.ofString "m") (.ofFields [("f", returningNaN)]) s₀ = .ok () s ∧
    memberFunction? s.1 "m" "f" = some r ∧
    (Engine.interp hostCall 37).call (.object r) .undefined #[] s = .error (.thrown (.object p)) s' ∧
    (objectAt s'.1 p).prototype = some syntaxPrototype := by
  unfold throwsSyntaxError at h
  split at h
  · rename_i s hregister
    split at h
    · rename_i r hmember
      split at h
      · rename_i p s' hrun
        exact ⟨s, r, p, s', hregister, hmember, hrun, of_decide_eq_true h⟩
      · cases h
    · cases h
  · cases h

theorem throwsSyntaxError_replyState : throwsSyntaxError replyState = true := by
  rw [replyState, run_bridgeTree]
  decide +kernel

/-- What is no number is returned with a reply that is not in the strict grammar, and a call from a
script ends in the syntax error of the bridge's own reader. -/
theorem nan_is_not_read :
    (∃ t s', HiddenGlobals.bareEngine.replyTo ⟨.ofString "f", returningNaN⟩ (.ofString "[]")
        ([], .blank Unit) = .ok t s' ∧ ¬IsJson t) ∧
      ∃ s r p s', interpreter.register (.ofString "m") (.ofFields [("f", returningNaN)]) replyState =
          .ok () s ∧
        memberFunction? s.1 "m" "f" = some r ∧
        (Engine.interp hostCall 37).call (.object r) .undefined #[] s =
          .error (.thrown (.object p)) s' ∧
        (objectAt s'.1 p).prototype = some syntaxPrototype := by
  refine ⟨?_, thrown_of throwsSyntaxError_replyState⟩
  have hends : returnedData (ending HiddenGlobals.bareEngine ⟨.ofString "f", returningNaN⟩
      (.ofString "[]") ([], .blank Unit)).1 = .ok (.float Binary.nan) := rfl
  have hparts : Binary.Parts.ofFloat Binary.nan = .nan := rfl
  obtain ⟨t, hreply, ht⟩ := replyTo_returned hends
  refine ⟨t, _, hreply, fun hjson => ?_⟩
  obtain ⟨negative, significand, exponent, hfinite⟩ := isFinite_reply.mp ((isJson_iff ht).mp hjson)
  rw [hparts] at hfinite
  cases hfinite

end ScriptHost.Proofs.AnsweredCalls
