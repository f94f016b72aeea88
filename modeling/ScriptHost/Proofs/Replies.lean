import ScriptHost.Proofs.CallBoundary
import ScriptHost.Proofs.HiddenGlobals
import ScriptHost.Proofs.RoundTrip

/-!
# Replies of host functions

A host function takes its arguments as a JSON text and gives its reply as one: an object with one
member, which is what was returned or the text of a fault.  There is no reply only if the fault has
no text, as when host code raises with an integer that is too long to be written.
-/

namespace ScriptHost.Proofs.Replies

open Interpreter Json
open ScriptHost.Proofs.DataTokens
open ScriptHost.Proofs.DataTexts
open ScriptHost.Proofs.ReadScalars
open ScriptHost.Proofs.RoundTrip

variable {E V : Type} {X : Interpreter E V} {f : HostFunction} {payload : HostValue}
  {s s₁ : E × Instance V} {t : Text}

/-! ## Arguments -/

theorem write_list_ne_nil {xs : List HostValue} (h : write wire (.list xs) = .ok t) :
    t.isEmpty = false := by
  obtain ⟨c, rest, rfl, -⟩ := (isReadAs_written _ h).starts
  rfl

/-- The arguments that were written as a list are received one by one. -/
theorem arguments_written (target : HostValue) {xs : List HostValue}
    (h : write wire (.list xs) = .ok t) :
    HostFunction.arguments target (.str t) = .ok (receivedItems xs) := by
  have hread := read_written h
  unfold HostFunction.arguments
  rw [show (HostValue.str t).isTruthy = true by
    simpa [HostValue.isTruthy] using write_list_ne_nil h]
  simp only [HostValue.text?, Bool.not_true, Bool.false_eq_true, if_false, hread, bind, Except.bind]
  rfl

/-- A call over the wire, up to what it returns. -/
def called (X : Interpreter E V) (f : HostFunction) (payload : HostValue) : HostM E V HostValue := do
  X.callHost f.target (← HostM.ofExcept (HostFunction.arguments f.target payload))

theorem plainItems_same {xs : List HostValue} (h : ∀ x ∈ xs, plainOf x = x) :
    plainItems xs = xs := by
  induction xs with
  | nil => rfl
  | cons x xs ih =>
      unfold plainItems
      rw [h x List.mem_cons_self, ih fun y hy => h y (List.mem_cons_of_mem x hy)]

/-- A function receives the arguments that were written for it. -/
theorem called_written {xs : List HostValue} (hexact : ∀ x ∈ xs, IsExact x)
    (hplain : ∀ x ∈ xs, plainOf x = x) (h : write wire (.list xs) = .ok t) :
    called X f (.str t) = X.callHost f.target xs := by
  have hreceived : receivedItems xs = xs :=
    (receivedItems_plain fun x hx => received_exact (hexact x hx)).trans (plainItems_same hplain)
  unfold called
  rw [arguments_written f.target h, hreceived]
  rfl

/-! ## Texts of replies -/

/-- The text of a reply with one member is ASCII, and an object with that member. -/
theorem read_replyText {key : String} {v : HostValue} (hkey : (Text.ofString key).IsScalar)
    (h : HostFunction.replyText key v = .ok t) :
    IsClean t ∧ Json.read t = .ok (.ofFields [(key, received v)]) := by
  refine ⟨isClean_write _ h, (read_written h).trans ?_⟩
  have hpaired : receivedKey (.str (Text.ofString key)) = Text.ofString key :=
    (receivedKey_eq rfl).trans (paired_scalar hkey)
  simp [HostValue.ofFields, received, receivedEntries, hpaired, HostValue.insertEntry]

/-- A reply with a text is always written. -/
theorem replyText_str (key : String) (m : Text) :
    ∃ t, HostFunction.replyText key (.str m) = .ok t :=
  ⟨_, rfl⟩

/-- The data of what was returned, if it has an image that can be written. -/
def returnedData (outcome : Except Fault HostValue) : Except Fault HostValue := do
  let d ← (← outcome).image
  let _ ← HostFunction.replyText "value" d
  return d

/-- The text that stands for a fault with a message. -/
def errorText (e : Fault) (message : Text) : Text :=
  if message.isEmpty then Text.ofString e.cls.name else message

theorem reply_returned {outcome : Except Fault HostValue} {d : HostValue}
    (h : returnedData outcome = .ok d) :
    ∃ t, HostFunction.reply outcome = (t, none) ∧ HostFunction.replyText "value" d = .ok t := by
  obtain ⟨r, hr, h⟩ := ok_of_bind h
  obtain ⟨d', hd, h⟩ := ok_of_bind h
  obtain ⟨t, ht, h⟩ := ok_of_bind h
  cases h
  refine ⟨t, ?_, ht⟩
  unfold HostFunction.reply
  simp [hr, hd, ht, bind, Except.bind]

theorem reply_failed {outcome : Except Fault HostValue} {e : Fault}
    (h : returnedData outcome = .error e) :
    ∃ t, HostFunction.reply outcome = (t, some e) ∧
      HostFunction.replyText "error" (.str (HostFunction.faultText e)) = .ok t := by
  obtain ⟨t, ht⟩ := replyText_str "error" (HostFunction.faultText e)
  refine ⟨t, ?_, ht⟩
  unfold HostFunction.reply
  cases outcome with
  | error g =>
      cases h
      simp [ht, bind, Except.bind]
  | ok r =>
      cases hd : r.image with
      | error g =>
          unfold returnedData at h
          simp only [bind, Except.bind, hd] at h
          cases h
          simp [ht, hd, bind, Except.bind]
      | ok d =>
          unfold returnedData at h
          simp only [bind, Except.bind, hd] at h
          cases hwritten : HostFunction.replyText "value" d with
          | ok u =>
              rw [hwritten] at h
              cases h
          | error g =>
              rw [hwritten] at h
              cases h
              simp [ht, hd, hwritten, bind, Except.bind]

theorem faultText_worded {e : Fault} {m : Text} (h : e.message? = some m) :
    HostFunction.faultText e = errorText e m := by
  have hmessage : e.message = m := by
    cases e with
    | raised cls args =>
        have hraised : Fault.raisedMessage? cls args = some m := h
        change (Fault.raisedMessage? cls args).getD [] = m
        rw [hraised]
        rfl
    | _ => exact Option.some.inj h
  unfold HostFunction.faultText errorText
  rw [hmessage]

/-! ## Calls -/

/-- How a call over the wire ends, and the state after it. -/
def ending (X : Interpreter E V) (f : HostFunction) (payload : HostValue) (s : E × Instance V) :
    Except Fault HostValue × (E × Instance V) :=
  match called X f payload s with
  | .ok r s₁ => (.ok r, s₁)
  | .error e s₁ => (.error e, s₁)

/-- A reply is made from the end of the call. -/
theorem replyTo_run (X : Interpreter E V) (f : HostFunction) (payload : HostValue)
    (s : E × Instance V) :
    X.replyTo f payload s = (do
      let (text, fault?) := HostFunction.reply (ending X f payload s).1
      match fault? with
      | some fault =>
        let reason ← HostM.wording fault
        HostM.record registryLogger .debug
          ("Host function " ++ Failure.shown f.path ++ " raised: " ++ reason)
      | none => pure ()
      return text : HostM E V Text) (ending X f payload s).2 := by
  have houtcome : (tryCatch (do return .ok (← called X f payload)) (fun e => pure (.error e)) :
      HostM E V (Except Fault HostValue)) s =
      .ok (ending X f payload s).1 (ending X f payload s).2 := by
    unfold ending
    change EStateM.tryCatch (EStateM.bind (called X f payload) _) _ s = _
    unfold EStateM.tryCatch EStateM.bind
    cases called X f payload s with
    | ok r s₁ => rfl
    | error e s₁ => rfl
  change EStateM.bind (tryCatch (do return .ok (← called X f payload)) (fun e => pure (.error e)) :
      HostM E V (Except Fault HostValue)) _ s = _
  unfold EStateM.bind
  rewrite [houtcome]
  rfl

theorem replyTo_returned {d : HostValue} (h : returnedData (ending X f payload s).1 = .ok d) :
    ∃ t, X.replyTo f payload s = .ok t (ending X f payload s).2 ∧
      HostFunction.replyText "value" d = .ok t := by
  obtain ⟨t, hreply, ht⟩ := reply_returned h
  refine ⟨t, ?_, ht⟩
  rw [replyTo_run, hreply]
  rfl

theorem replyTo_failed {e : Fault} {m : Text}
    (h : returnedData (ending X f payload s).1 = .error e) (hm : e.message? = some m) :
    ∃ t s', X.replyTo f payload s = .ok t s' ∧
      HostFunction.replyText "error" (.str (errorText e m)) = .ok t := by
  obtain ⟨t, hreply, ht⟩ := reply_failed h
  rw [faultText_worded hm] at ht
  have hrun : ∃ s', X.replyTo f payload s = .ok t s' := by
    rw [replyTo_run, hreply]
    dsimp only
    unfold HostM.wording
    rw [hm]
    exact ⟨_, rfl⟩
  obtain ⟨s', hrun⟩ := hrun
  exact ⟨t, s', hrun, ht⟩

theorem replyTo_unworded {e : Fault}
    (h : returnedData (ending X f payload s).1 = .error e) (hm : e.message? = none) :
    X.replyTo f payload s = .error .integerTooLong (ending X f payload s).2 := by
  obtain ⟨t, hreply, -⟩ := reply_failed h
  rw [replyTo_run, hreply]
  dsimp only
  unfold HostM.wording
  rw [hm]
  rfl

/-! ## What a reply says -/

/-- Whether a call over the wire has a reply: an ASCII text that is read as an object with one
member. -/
def Says (X : Interpreter E V) (f : HostFunction) (payload : HostValue) (s : E × Instance V)
    (key : String) (v : HostValue) : Prop :=
  ∃ t s', X.replyTo f payload s = .ok t s' ∧ IsClean t ∧ Json.read t = .ok (.ofFields [(key, v)])

variable {d v w : HostValue} {e : Fault} {m : Text} {key : String}

theorem says_value (h : returnedData (ending X f payload s).1 = .ok d) :
    Says X f payload s "value" (received d) := by
  obtain ⟨t, hrun, ht⟩ := replyTo_returned h
  exact ⟨t, _, hrun, read_replyText (fun c hc => by revert c; decide) ht⟩

theorem says_error (h : returnedData (ending X f payload s).1 = .error e)
    (hm : e.message? = some m) : Says X f payload s "error" (.str (paired (errorText e m))) := by
  obtain ⟨t, s', hrun, ht⟩ := replyTo_failed h hm
  exact ⟨t, s', hrun, read_replyText (fun c hc => by revert c; decide) ht⟩

/-- A call says one thing only. -/
theorem Says.unique {key' : String} (h : Says X f payload s key v) (h' : Says X f payload s key' w) :
    Text.ofString key = Text.ofString key' ∧ v = w := by
  obtain ⟨t, s₁, hrun, -, hread⟩ := h
  obtain ⟨t', s₂, hrun', -, hread'⟩ := h'
  rw [hrun] at hrun'
  cases hrun'
  rw [hread] at hread'
  simpa [HostValue.ofFields] using hread'

theorem name_eq_empty {c : FaultClass} : c.name = "" ↔ c = .named "" := by
  cases c with
  | failure kind => cases kind <;> simp [FaultClass.name, FailureKind.className]
  | _ => simp [FaultClass.name]

theorem errorText_eq_nil : errorText e m = [] ↔ m = [] ∧ e.cls = .named "" := by
  unfold errorText
  cases m with
  | nil =>
      rw [← name_eq_empty]
      simp [Text.ofString]
  | cons c m => simp

/-- A call over the wire ends in what can be told: a fault of it can be worded. -/
def CanBeTold (outcome : Except Fault HostValue) : Prop :=
  ∀ e, returnedData outcome = .error e → e.message?.isSome = true

/-- A call over the wire ends with data, with a fault that is told, or with one that cannot be. -/
theorem replyTo_cases (X : Interpreter E V) (f : HostFunction) (payload : HostValue)
    (s : E × Instance V) :
    (∃ d, returnedData (ending X f payload s).1 = .ok d ∧
        Says X f payload s "value" (received d)) ∨
      (∃ e m, returnedData (ending X f payload s).1 = .error e ∧ e.message? = some m ∧
        Says X f payload s "error" (.str (paired (errorText e m)))) ∨
      ∃ e, returnedData (ending X f payload s).1 = .error e ∧ e.message? = none ∧
        X.replyTo f payload s = .error .integerTooLong (ending X f payload s).2 := by
  cases h : returnedData (ending X f payload s).1 with
  | ok d => exact .inl ⟨d, rfl, says_value h⟩
  | error e =>
      cases hm : e.message? with
      | some m => exact .inr (.inl ⟨e, m, rfl, hm, says_error h hm⟩)
      | none => exact .inr (.inr ⟨e, rfl, hm, replyTo_unworded h hm⟩)

theorem Says.replied (h : Says X f payload s key v) (hrun : X.replyTo f payload s = .ok t s₁) :
    IsClean t ∧ Json.read t = .ok (.ofFields [(key, v)]) := by
  obtain ⟨t', s', hrun', htold⟩ := h
  rw [hrun] at hrun'
  cases hrun'
  exact htold

/-- There is a reply, if and only if what ends the call can be told. -/
theorem replied_iff :
    (∃ t s', X.replyTo f payload s = .ok t s') ↔ CanBeTold (ending X f payload s).1 := by
  unfold CanBeTold
  obtain ⟨d, h, t, s', hrun, -⟩ | ⟨e, m, h, hm, t, s', hrun, -⟩ | ⟨e, h, hm, hrun⟩ :=
    replyTo_cases X f payload s
  · simp [h, hrun]
  · simp [h, hm, hrun]
  · simp [h, hm, hrun]

theorem reply_is_object (hrun : X.replyTo f payload s = .ok t s₁) :
    IsClean t ∧ ∃ key v, Json.read t = .ok (.ofFields [(key, v)]) := by
  obtain ⟨d, -, htold⟩ | ⟨e, m, -, -, htold⟩ | ⟨e, -, -, hfails⟩ := replyTo_cases X f payload s
  · exact ⟨(htold.replied hrun).1, _, _, (htold.replied hrun).2⟩
  · exact ⟨(htold.replied hrun).1, _, _, (htold.replied hrun).2⟩
  · rw [hrun] at hfails
    cases hfails

theorem replyTo_raises (hrun : X.replyTo f payload s = .error e s₁) : e = .integerTooLong := by
  obtain ⟨d, -, t, s', htold, -⟩ | ⟨g, m, -, -, t, s', htold, -⟩ | ⟨g, -, -, hfails⟩ :=
    replyTo_cases X f payload s
  · rw [hrun] at htold
    cases htold
  · rw [hrun] at htold
    cases htold
  · rw [hrun] at hfails
    cases hfails
    rfl

theorem value_ne_error : Text.ofString "value" ≠ Text.ofString "error" := by decide

/-- The reply is data, if and only if data was returned and written. -/
theorem says_value_iff :
    Says X f payload s "value" v ↔
      ∃ d, returnedData (ending X f payload s).1 = .ok d ∧ v = received d := by
  refine ⟨fun h => ?_, fun ⟨d, hd, hv⟩ => hv ▸ says_value hd⟩
  obtain ⟨d, hd, htold⟩ | ⟨e, m, -, -, htold⟩ | ⟨e, -, -, hfails⟩ := replyTo_cases X f payload s
  · exact ⟨d, hd, (h.unique htold).2⟩
  · exact absurd (h.unique htold).1 value_ne_error
  · obtain ⟨t, s', hrun, -⟩ := h
    rw [hrun] at hfails
    cases hfails

/-- The reply is the text of a fault otherwise. -/
theorem says_error_iff :
    Says X f payload s "error" v ↔ ∃ e m, returnedData (ending X f payload s).1 = .error e ∧
      e.message? = some m ∧ v = .str (paired (errorText e m)) := by
  refine ⟨fun h => ?_, fun ⟨e, m, he, hm, hv⟩ => hv ▸ says_error he hm⟩
  obtain ⟨d, -, htold⟩ | ⟨e, m, he, hm, htold⟩ | ⟨e, -, -, hfails⟩ := replyTo_cases X f payload s
  · exact absurd (htold.unique h).1 value_ne_error
  · exact ⟨e, m, he, hm, (h.unique htold).2⟩
  · obtain ⟨t, s', hrun, -⟩ := h
    rw [hrun] at hfails
    cases hfails

end ScriptHost.Proofs.Replies
