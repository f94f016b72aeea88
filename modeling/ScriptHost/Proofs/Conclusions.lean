import ScriptHost.Proofs.BridgedCalls
import ScriptHost.Proofs.ErrorTexts
import ScriptHost.Proofs.PlainCall

/-!
# What a bridged function does with a reply

Once the reply has been read, a member `error` of it becomes the message of an error that is thrown,
and otherwise its member `value` is what the function gives.  The statements are those of the
bridge's own text, and they use what the engine has for all scripts.
-/

namespace ScriptHost.Proofs.Conclusions

open Script Script.Eval
open ScriptHost.Proofs.Applier
open ScriptHost.Proofs.Bridge
open ScriptHost.Proofs.BridgedCalls
open ScriptHost.Proofs.DataValues
open ScriptHost.Proofs.ErrorTexts
open ScriptHost.Proofs.Evaluation
open ScriptHost.Proofs.NewObjects
open ScriptHost.Proofs.PlainCall
open ScriptHost.Proofs.PropertyChains

variable {σ α β : Type} {s s' s'' : Machine × σ} {I : Interp σ} {host : Engine.HostCall σ}
  {site : Site} {n i line : Nat} {r q raw : Ref} {e : Expr} {v w : Value} {a : α} {b : β}

/-! ## The statements -/

/-- The constructor of objects. -/
def objectName : Name := Utf16.ofString "Object"

/-- The member of a constructor that its objects inherit from. -/
def prototypeMember : Name := Utf16.ofString "prototype"

/-- The method that tells of own members. -/
def ownMember : Name := Utf16.ofString "hasOwnProperty"

/-- The method of functions that calls them for a receiver. -/
def callMember : Name := Utf16.ofString "call"

/-- The constructor of errors. -/
def errorName : Name := Utf16.ofString "Error"

/-- The member of a reply that tells of a fault. -/
def errorMember : Name := Utf16.ofString "error"

/-- The member of a reply that holds what was returned. -/
def valueMember : Name := Utf16.ofString "value"

/-- The method that tells of own members, as the prototype of all objects has it. -/
def ownMethod (l : Nat) : Expr :=
  .member (.member (.name objectName l) prototypeMember false l) ownMember false l

/-- Whether the reply tells of a fault. -/
def tellsFault (l : Nat) : Expr :=
  .call (.member (ownMethod l) callMember false l)
    [.item (.name replyName l), .item (.literal (.string errorMember))] false l

/-- The error that the reply tells of. -/
def toldError (l : Nat) : Expr :=
  .construct (.name errorName l) [.item (.member (.name replyName l) errorMember false l)] l

/-- What follows the reply: an error of it is thrown, or else its value is given. -/
def conclusion (l₁ l₂ l₃ : Nat) : List Stmt :=
  [.conditional (tellsFault l₁) (.block [] [.throwing (toldError l₂) l₂]) none,
    .returning (some (.member (.name replyName l₃) valueMember false l₃))]

/-- The lines of a conclusion, if statements are one. -/
def conclusion? : List Stmt → Option (Nat × Nat × Nat)
  | [.conditional (.call (.member (.member (.member (.name a l₁) b false m₁) c false m₂) d false m₃)
        [.item (.name x m₄), .item (.literal (.string y))] false m₅)
      (.block [] [.throwing (.construct (.name f l₂) [.item (.member (.name g m₆) h false m₇)] m₈) m₉])
      none,
     .returning (some (.member (.name u l₃) w false m₁₀))] =>
    if a = objectName ∧ b = prototypeMember ∧ c = ownMember ∧ d = callMember ∧ x = replyName ∧
        y = errorMember ∧ f = errorName ∧ g = replyName ∧ h = errorMember ∧ u = replyName ∧
        w = valueMember ∧ (m₁ = l₁ ∧ m₂ = l₁ ∧ m₃ = l₁ ∧ m₄ = l₁ ∧ m₅ = l₁) ∧
        (m₆ = l₂ ∧ m₇ = l₂ ∧ m₈ = l₂ ∧ m₉ = l₂) ∧ m₁₀ = l₃ then some (l₁, l₂, l₃)
    else none
  | _ => none

/-- A function that asks the host first goes on with a conclusion. -/
def Concludes (t : Telling) : Prop := ∃ l₁ l₂ l₃, t.rest = conclusion l₁ l₂ l₃

theorem concludes_of {t : Telling} (h : (conclusion? t.rest).isSome = true) : Concludes t := by
  obtain ⟨⟨l₁, l₂, l₃⟩, h⟩ := Option.isSome_iff_exists.mp h
  unfold conclusion? at h
  split at h
  · rename_i hrest
    split at h
    · rename_i hall
      obtain ⟨rfl, rfl, rfl, rfl, rfl, rfl, rfl, rfl, rfl, rfl, rfl, ⟨rfl, rfl, rfl, rfl, rfl⟩,
        ⟨rfl, rfl, rfl, rfl⟩, rfl⟩ := hall
      exact ⟨_, _, _, hrest⟩
    · cases h
  · cases h

/-- The functions that the bridge makes by its own text go on with a conclusion. -/
theorem bridge_concludes : Concludes asking := ⟨5, 6, 8, rfl⟩

/-! ## Running without effect on what was there -/

/-- A computation gives a value; at most it adds objects. -/
def Gives (x : Eval σ α) (s : Machine × σ) (a : α) : Prop :=
  ∃ s', x s = .ok a s' ∧ Newer s.1.objects.size s s'

theorem Newer.later (h : Newer s.1.objects.size s s') (h' : Newer s'.1.objects.size s' s'') :
    Newer s.1.objects.size s s'' :=
  h.trans (h'.mono h.size)

theorem Gives.pure (a : α) (s : Machine × σ) : Gives (Pure.pure a) s a := ⟨s, rfl, .refl _ s⟩

theorem Gives.of_run {x : Eval σ α} (h : x s = .ok a s) : Gives x s a := ⟨s, h, .refl _ s⟩

theorem Gives.bind {x : Eval σ α} {k : α → Eval σ β} (hx : Gives x s a)
    (hk : ∀ s', Newer s.1.objects.size s s' → Gives (k a) s' b) : Gives (x >>= k) s b := by
  obtain ⟨s₁, hrun, hnewer⟩ := hx
  obtain ⟨s₂, hrun₂, hnewer₂⟩ := hk s₁ hnewer
  exact ⟨s₂, (bind_ok hrun).trans hrun₂, Newer.later hnewer hnewer₂⟩

theorem gives_reachLine (line : Nat) (s : Machine × σ) : Gives (reachLine line) s () := by
  obtain ⟨u, s', hrun, hnewer, -⟩ := adds_reachLine line s (Nat.le_refl _)
  exact ⟨s', hrun, hnewer⟩

theorem withFrame_ok {f : Frame} {x : Eval σ α} (h : x (within f s) = .ok a s') :
    Eval.withFrame f x s = .ok a (after s') := by
  rw [withFrame_run, h]

theorem newer_within (f : Frame) (h : Newer s.1.objects.size (within f s) s') :
    Newer s.1.objects.size s (after s') where
  host := h.host
  scopes := h.scopes
  depth := by
    have hdepth := h.depth
    simp only [within] at hdepth
    simp only [after]
    omega
  size := h.size
  old := h.old
  kinds := h.kinds
  calls := .after h.calls

theorem Gives.withFrame {f : Frame} {x : Eval σ α} (h : Gives x (within f s) a) :
    Gives (Eval.withFrame f x) s a := by
  obtain ⟨s', hrun, hnewer⟩ := h
  exact ⟨after s', withFrame_ok hrun, newer_within f hnewer⟩

theorem hasObjects_of_newer (h : Newer s.1.objects.size s s') : HasObjects s.1 s'.1 :=
  fun r hr => ⟨Nat.lt_of_lt_of_le hr h.size, h.old r hr⟩

/-! ## What the conclusion uses -/

/-- The functions that the conclusion calls, and the objects that it finds them in. -/
structure Tools where
  object : Ref
  prototype : Ref
  own : Ref
  call : Ref
  error : Ref
  errorPrototype : Ref
deriving DecidableEq

/-- The names and members that the conclusion uses have the engine's own meaning. -/
structure HasTools (m : Machine) (t : Tools) : Prop where
  object : HasConstant m objectName (.object t.object)
  prototype : Finds m (.name prototypeMember) t.object (some (.object t.prototype))
  own : Finds m (.name ownMember) t.prototype (some (.object t.own))
  ownKind : (objectAt m t.own).kind = .native (.objectMethod .hasOwnProperty)
  call : Finds m (.name callMember) t.own (some (.object t.call))
  callKind : (objectAt m t.call).kind = .native (.functionMethod .call)
  error : HasConstant m errorName (.object t.error)
  errorKind : (objectAt m t.error).kind = .native (.constructor (.error 0))
  errorPrototype : Finds m (.name prototypeMember) t.error (some (.object t.errorPrototype))

theorem HasTools.newer {t : Tools} (h : HasTools s.1 t) (hnewer : Newer s.1.objects.size s s') :
    HasTools s'.1 t := by
  have hobjects := hasObjects_of_newer hnewer
  have hkind {r : Ref} {f : Native} (hr : (objectAt s.1 r).kind = .native f) :
      (objectAt s'.1 r).kind = .native f :=
    (hnewer.kinds r (index_lt_of_native hr)).trans hr
  exact ⟨HasConstant.newer h.object hnewer (Nat.le_refl _), h.prototype.of_objects hobjects,
    h.own.of_objects hobjects, hkind h.ownKind, h.call.of_objects hobjects, hkind h.callKind,
    HasConstant.newer h.error hnewer (Nat.le_refl _), hkind h.errorKind,
    h.errorPrototype.of_objects hobjects⟩

/-- A member of a reply that is an object of the script's own. -/
structure HasMember (m : Machine) (q : Ref) (k : Name) (x : Option Value) : Prop where
  ordinary : IsOrdinary m q
  own : (objectAt m q).own? (.name k) = x.map .plain

theorem HasMember.of_objects {m m' : Machine} {k : Name} {x : Option Value} (h : HasMember m q k x)
    (hobjects : HasObjects m m') : HasMember m' q k x :=
  ⟨h.ordinary.of_objects hobjects, by rw [(hobjects q h.ordinary.inRange).2]; exact h.own⟩

theorem HasMember.newer {k : Name} {x : Option Value} (h : HasMember s.1 q k x)
    (hnewer : Newer s.1.objects.size s s') : HasMember s'.1 q k x :=
  h.of_objects (hasObjects_of_newer hnewer)

theorem HasMember.finds {m : Machine} {k : Name} (h : HasMember m q k (some v)) :
    Finds m (.name k) q (some v) := .own h.ordinary h.own

/-! ## Expressions -/

variable {t : Tools} {reply : Value}

/-- The state in which the conclusion is evaluated. -/
structure Concluding (s : Machine × σ) (i : Nat) (raw : Ref) (t : Tools) (reply : Value) : Prop where
  scopes : InCall s.1 i raw reply
  tools : HasTools s.1 t
  room : s.1.depth < Engine.callLimit

theorem Concluding.newer (h : Concluding s i raw t reply) (hnewer : Newer s.1.objects.size s s') :
    Concluding s' i raw t reply := by
  refine ⟨?_, h.tools.newer hnewer, by rw [hnewer.depth]; exact h.room⟩
  unfold InCall
  rw [hnewer.scopes]
  exact h.scopes

theorem gives_constant {x : Name} (h : InCall s.1 site.scope raw reply) (hx : HasConstant s.1 x v)
    (hne : x ≠ Utf16.ofString "arguments" ∧ x ≠ replyName ∧ x ≠ rawName) (line : Nat) :
    Gives ((Engine.interp host (n + 1)).evaluate site (.name x line)) s v := by
  change Gives (reachLine line >>= fun _ => Variable.read (Engine.interp host n) site.scope x) s v
  refine (gives_reachLine line s).bind fun s' hnewer => .of_run ?_
  refine InCall.read_constant (show InCall s'.1 site.scope raw reply from ?_)
    (HasConstant.newer hx hnewer (Nat.le_refl _)) hne
  unfold InCall
  rw [hnewer.scopes]
  exact h

theorem gives_reply (h : InCall s.1 site.scope raw reply) (line : Nat) :
    Gives ((Engine.interp host (n + 1)).evaluate site (.name replyName line)) s reply := by
  change Gives (reachLine line >>= fun _ =>
    Variable.read (Engine.interp host n) site.scope replyName) s reply
  refine (gives_reachLine line s).bind fun s' hnewer => .of_run ?_
  obtain ⟨inner, outer, k, b, hinner, -, hbindings, -, -, -⟩ := h
  rw [← hnewer.scopes] at hinner
  refine read_binding (j := 1) (b := Variable.mutableBinding replyName reply) hinner ?_ ?_ rfl
  · unfold Variable.indexIn
    rw [hbindings]
    have hne : Utf16.ofString "arguments" ≠ replyName := by decide
    simp [Variable.mutableBinding, List.findIdx?_cons, hne]
  · rw [hbindings]
    rfl

/-- A member together with the object that it was found in. -/
theorem gives_reference {k : Name} (line : Nat)
    (he : Gives ((Engine.interp host n).evaluate site e) s (.object r))
    (hk : Finds s.1 (.name k) r (some v)) :
    Gives (Expression.reference (Engine.interp host n) site (.member e k false line)) s
      (.object r, v) := by
  unfold Expression.reference
  refine he.bind fun s₁ hnewer₁ => (Gives.of_run (throughOptional_run _ _)).bind fun s₂ hnewer₂ =>
    (gives_reachLine line s₂).bind fun s₃ hnewer₃ => ?_
  have hnewer := Newer.later hnewer₁ (Newer.later hnewer₂ hnewer₃)
  have hmember : getMember (Engine.interp host n) (.object r) (.name k) s₃ = .ok v s₃ :=
    (hk.of_objects (hasObjects_of_newer hnewer)).getProperty_some
  exact (Gives.of_run hmember).bind fun s₄ _ => .pure _ s₄

theorem gives_member {k : Name} (line : Nat)
    (he : Gives ((Engine.interp host n).evaluate site e) s (.object r))
    (hk : Finds s.1 (.name k) r (some v)) :
    Gives ((Engine.interp host (n + 1)).evaluate site (.member e k false line)) s v := by
  change Gives (Expression.reference (Engine.interp host n) site (.member e k false line) >>= fun y =>
    pure y.2) s v
  exact (gives_reference line he hk).bind fun s' _ => .pure _ s'

/-- A call of a function of the engine. -/
theorem gives_native {f : Native} {receiver : Value} {args : Array Value}
    (hkind : (objectAt s.1 r).kind = .native f) (hdepth : s.1.depth ≤ Engine.callLimit)
    (h : Gives (Engine.runNative (Engine.interp host n) f r receiver args)
      (within (Engine.nativeFrame r) s) v) :
    Gives ((Engine.interp host (n + 1)).call (.object r) receiver args) s v := by
  obtain ⟨s', hrun, hnewer⟩ := h.withFrame
  exact ⟨s', (call_native hkind hdepth receiver args).trans hrun, hnewer⟩

/-! ## Whether the reply tells of a fault -/

/-- The method that tells of own members, of an object of the script's own. -/
theorem hasOwn_run {k : Name} {x : Option Value} (h : HasMember s.1 q k x) :
    Library.objectMethod I .hasOwnProperty (.object q) #[.string k] s = .ok (.bool x.isSome) s := by
  have hkey : toKey I (Library.arg #[.string k] 0) s = .ok (.name k) s := rfl
  have hobject : toObject (.object q) s = .ok q s := rfl
  have hown : ownProperty I q (.name k) s = .ok (x.map .plain) s := by
    have hdirect := h.ordinary.direct
    unfold IsDirect at hdirect
    unfold ownProperty
    rw [bind_ok (object_run q s)]
    simp only [h.own]
    rfl
  change (toKey I _ >>= fun k => toObject _ >>= fun r => ownProperty I r k >>= fun p =>
    pure (Value.bool p.isSome)) s = _
  rw [bind_ok hkey, bind_ok hobject, bind_ok hown, Option.isSome_map]
  rfl

theorem gives_tellsFault {x : Option Value} (h : Concluding s site.scope raw t (.object q))
    (hq : HasMember s.1 q errorMember x) (l : Nat) :
    Gives ((Engine.interp host (n + 4)).evaluate site (tellsFault l)) s (.bool x.isSome) := by
  have hobject : Gives ((Engine.interp host (n + 1)).evaluate site (.name objectName l)) s
      (.object t.object) := gives_constant h.scopes h.tools.object (by decide) l
  have hown : Gives ((Engine.interp host (n + 3)).evaluate site (ownMethod l)) s (.object t.own) :=
    gives_member l (gives_member l hobject h.tools.prototype) h.tools.own
  have hreference := gives_reference l hown h.tools.call
  change Gives (Expression.call (Engine.interp host (n + 3)) site _ _ false l) s _
  unfold Expression.call
  refine hreference.bind fun s₁ hnewer₁ => ?_
  dsimp only
  refine (Gives.of_run (throughOptional_run _ _)).bind fun s₂ hnewer₂ => ?_
  have h₂ := (h.newer hnewer₁).newer hnewer₂
  refine Gives.bind (a := #[.object q, .string errorMember]) ?_ fun s₃ hnewer₃ => ?_
  · unfold Expression.elements
    refine (gives_reply h₂.scopes l).bind fun s' _ => ?_
    exact .of_run rfl
  · refine (gives_reachLine l s₃).bind fun s₄ hnewer₄ => ?_
    have hnewer := Newer.later hnewer₁ (Newer.later hnewer₂ (Newer.later hnewer₃ hnewer₄))
    have h₄ := h.newer hnewer
    have hq₄ := hq.newer hnewer
    refine gives_native h₄.tools.callKind (Nat.le_of_lt h₄.room) ?_
    refine gives_native (f := .objectMethod .hasOwnProperty) h₄.tools.ownKind h₄.room ?_
    exact .of_run (hasOwn_run ⟨⟨hq₄.ordinary.inRange, hq₄.ordinary.direct⟩, hq₄.own⟩)

/-! ## The error of a reply -/

/-- An error with a message. -/
structure IsError (m : Machine) (q proto : Ref) (message : Utf16) : Prop where
  inRange : q.index < m.objects.size
  kind : (objectAt m q).kind = .error
  prototype : (objectAt m q).prototype = some proto
  message : (objectAt m q).own? "message" = some (.hidden (.string message))

theorem IsError.of_objects {m m' : Machine} {proto : Ref} {message : Utf16}
    (h : IsError m q proto message) (hobjects : HasObjects m m') : IsError m' q proto message := by
  obtain ⟨hrange, hsame⟩ := hobjects q h.inRange
  exact ⟨hrange, by rw [hsame]; exact h.kind, by rw [hsame]; exact h.prototype,
    by rw [hsame]; exact h.message⟩

/-- An error as its constructor makes it. -/
def errorObject (proto : Ref) (message stack : Utf16) : Object :=
  withPut (withPut (.bare .error (some proto)) "message" (.hidden (.string message)))
    "stack" (.hidden (.string stack))

theorem newer_withObjects (os : List Object) (s : Machine × σ) :
    Newer s.1.objects.size s (withObjects os s) where
  host := rfl
  scopes := rfl
  depth := rfl
  size := by rw [size_withObjects]; omega
  old _ hr := objectAt_withObjects hr
  kinds _ hr := congrArg Object.kind (objectAt_withObjects hr)
  calls := .refl _

/-- Whatever has been added, the objects are as they were, and as many calls are under way. -/
structure Preserves (s s' : Machine × σ) : Prop where
  objects : HasObjects s.1 s'.1
  depth : s'.1.depth = s.1.depth

theorem Preserves.trans (h : Preserves s s') (h' : Preserves s' s'') : Preserves s s'' :=
  ⟨h.objects.trans h'.objects, h'.depth.trans h.depth⟩

theorem Newer.preserves (h : Newer s.1.objects.size s s') : Preserves s s' :=
  ⟨hasObjects_of_newer h, h.depth⟩

/-- A call that is over. -/
theorem Preserves.after {f : Frame} (h : Preserves (within f s) s') :
    Preserves s (Evaluation.after s') := by
  refine ⟨fun r hr => h.objects r hr, ?_⟩
  have hdepth : s'.1.depth = s.1.depth + 1 := h.depth
  change s'.1.depth - 1 = s.1.depth
  omega

/-- An error is as its constructor makes it, with a message. -/
structure IsMade (m : Machine) (q proto : Ref) (message : Utf16) : Prop where
  inRange : q.index < m.objects.size
  object : ∃ stack, objectAt m q = errorObject proto message stack

namespace IsMade

variable {m m' : Machine} {proto : Ref} {message : Utf16}

theorem of_objects (h : IsMade m q proto message) (hobjects : HasObjects m m') :
    IsMade m' q proto message := by
  obtain ⟨hinRange, hsame⟩ := hobjects q h.inRange
  exact ⟨hinRange, by rw [hsame]; exact h.object⟩

theorem isError (h : IsMade m q proto message) : IsError m q proto message := by
  obtain ⟨stack, hobject⟩ := h.object
  refine ⟨h.inRange, by rw [hobject]; rfl, by rw [hobject]; rfl, ?_⟩
  rw [hobject]
  change (PropertyTable.put _ _ _).get? _ = _
  rw [BuiltData.get_put_ne _ _ (by decide)]
  exact BuiltData.get_put_self _ _ _

end IsMade

theorem isMade_new (proto : Ref) (message stack : Utf16) (s : Machine × σ) :
    IsMade (withObjects [errorObject proto message stack] s).1 ⟨s.1.objects.size⟩ proto message :=
  ⟨by simp, stack, objectAt_new (errorObject proto message stack) [] s⟩

theorem hasObjects_within (f : Frame) (s : Machine × σ) : HasObjects s.1 (within f s).1 :=
  fun _ h => ⟨h, rfl⟩

theorem hasObjects_after (s : Machine × σ) : HasObjects s.1 (after s).1 := fun _ h => ⟨h, rfl⟩

theorem makeError_run {proto : Ref} {message : Utf16}
    (h : Finds s.1 "prototype" r (some (.object proto))) :
    ∃ stack, Library.makeError I 0 (some r) #[.string message] s =
      .ok (.object ⟨s.1.objects.size⟩) (withObjects [errorObject proto message stack] s) := by
  have hproto : Library.instancePrototype I (some r) (Library.errorIntrinsic 0) s = .ok proto s := by
    change (getProperty I r _ >>= _) s = _
    rw [bind_ok h.getProperty_some]
    rfl
  let started := withObjects [withPut (.bare .error (some proto)) "message" (.hidden (.string message))] s
  obtain ⟨stack, hstack⟩ := trace_run 1 started
  refine ⟨stack, ?_⟩
  have htext : toText I (.string message) (withObjects [.bare .error (some proto)] s) =
      .ok message (withObjects [.bare .error (some proto)] s) := rfl
  unfold Library.makeError
  rw [bind_ok hproto, bind_ok (allocate_run _ s)]
  change (toText I (.string message) >>= fun u => putProperty _ _ (.hidden (.string u)) >>= fun _ =>
    trace 1 >>= fun u => putProperty _ "stack" (.hidden (.string u)) >>= fun _ =>
      Pure.pure (Value.object _)) _ = _
  rw [bind_ok htext, bind_ok (putProperty_new _ _ _ _ s)]
  refine (bind_ok hstack).trans ?_
  rw [bind_ok (putProperty_new _ _ _ _ s)]
  rfl

/-- The error that the reply tells of is made. -/
theorem makes_error {message : Utf16} (h : Concluding s site.scope raw t (.object q))
    (hq : HasMember s.1 q errorMember (some (.string message))) (l : Nat) :
    ∃ p s', (Engine.interp host (n + 3)).evaluate site (toldError l) s = .ok (.object p) s' ∧
      IsMade s'.1 p t.errorPrototype message ∧ Preserves s s' := by
  obtain ⟨s₁, hconstructor, hnewer₁⟩ := gives_constant (n := n + 1) h.scopes
    h.tools.error (by decide) l
  have h₁ := h.newer hnewer₁
  obtain ⟨s₂, hmessage, hnewer₂⟩ := gives_member l (gives_reply (n := n) h₁.scopes l)
    (hq.newer hnewer₁).finds
  obtain ⟨s₃, hline, hnewer₃⟩ := gives_reachLine l s₂
  have h₃ := (h₁.newer hnewer₂).newer hnewer₃
  obtain ⟨stack, hmade⟩ := makeError_run (I := Engine.interp host (n + 1))
    (h₃.tools.errorPrototype.of_objects (hasObjects_within (Engine.nativeFrame t.error) s₃))
  have helements : Expression.elements (Engine.interp host (n + 2)) site
      [.item (.member (.name replyName l) errorMember false l)] #[] s₁ =
        .ok #[.string message] s₂ := elements_one hmessage
  have hcheck : Library.isConstructor (.object t.error) s₃ = .ok true s₃ := by
    change Library.isConstructor.go (s₃.1.objects.size + 1) (.object t.error) s₃ = _
    unfold Library.isConstructor.go
    dsimp only
    rw [bind_ok (object_run _ _), h₃.tools.errorKind]
    rfl
  have hconstruct : (Engine.interp host (n + 2)).construct t.error #[.string message] t.error s₃ =
      .ok (.object ⟨s₃.1.objects.size⟩)
        (after (withObjects [errorObject t.errorPrototype message stack]
          (within (Engine.nativeFrame t.error) s₃))) := by
    change Engine.constructValue (Engine.interp host (n + 1)) _ _ _ s₃ = _
    unfold Engine.constructValue
    rw [bind_ok (checkDepth_run (Nat.le_of_lt h₃.room)), bind_ok (object_run _ _), h₃.tools.errorKind]
    exact withFrame_ok hmade
  have herror := isMade_new t.errorPrototype message stack
    (within (Engine.nativeFrame t.error) s₃)
  have hnew := Newer.preserves (newer_withObjects [errorObject t.errorPrototype message stack]
    (within (Engine.nativeFrame t.error) s₃))
  refine ⟨_, _, ?_, herror.of_objects (hasObjects_after _), (Newer.preserves hnewer₁).trans
    ((Newer.preserves hnewer₂).trans ((Newer.preserves hnewer₃).trans hnew.after))⟩
  change Expression.construct (Engine.interp host (n + 2)) site _ _ l s = _
  unfold Expression.construct
  rw [bind_ok hconstructor, bind_ok helements, bind_ok hline]
  dsimp only
  rw [bind_ok hcheck]
  exact hconstruct

/-! ## The reply is kept -/

theorem HasConstant.of_same {k : Name} (h : HasConstant s.1 k v)
    (hscope : s'.1.scopes[0]? = s.1.scopes[0]?) (hobjects : s'.1.objects = s.1.objects) :
    HasConstant s'.1 k v := by
  have hglobal (r : Ref) : objectAt s'.1 r = objectAt s.1 r := by
    unfold objectAt
    rw [hobjects]
  exact ⟨by rw [hscope]; exact h.outermost, by rw [hglobal]; exact h.direct,
    by rw [hglobal]; exact h.property⟩

theorem hasObjects_of_same (hobjects : s'.1.objects = s.1.objects) : HasObjects s.1 s'.1 := by
  intro r hr
  unfold objectAt
  rw [hobjects]
  exact ⟨hr, rfl⟩

theorem HasTools.of_same {t : Tools} (h : HasTools s.1 t)
    (hscope : s'.1.scopes[0]? = s.1.scopes[0]?) (hobjects : s'.1.objects = s.1.objects) :
    HasTools s'.1 t := by
  have hhas := hasObjects_of_same hobjects
  have hkind {r : Ref} {f : Native} (hr : (objectAt s.1 r).kind = .native f) :
      (objectAt s'.1 r).kind = .native f := by
    rw [(hhas r (index_lt_of_native hr)).2]
    exact hr
  exact ⟨HasConstant.of_same h.object hscope hobjects, h.prototype.of_objects hhas,
    h.own.of_objects hhas, hkind h.ownKind, h.call.of_objects hhas, hkind h.callKind,
    HasConstant.of_same h.error hscope hobjects, hkind h.errorKind, h.errorPrototype.of_objects hhas⟩

theorem modify_same {α : Type} {xs : Array α} {x : α} {f : α → α} (h : xs[i]? = some x) :
    xs.modify i f = xs.modify i fun _ => f x := by
  obtain ⟨hi, rfl⟩ := Array.getElem?_eq_some_iff.mp h
  apply Array.ext
  · simp
  · intro j _ _
    simp only [Array.getElem_modify]
    split
    · rename_i heq
      subst heq
      rfl
    · rfl

/-- What has been read is kept in the variable for the reply. -/
theorem write_reply (h : Concluding s i raw t reply) (w : Value) (strict : Bool) :
    ∃ s', Variable.write I i replyName w strict s = .ok () s' ∧ Concluding s' i raw t w ∧
      s'.1.objects = s.1.objects ∧ s'.1.depth = s.1.depth := by
  obtain ⟨inner, outer, k, a, hinner, houter, hbindings, hparent, hcaptured, hzero⟩ := h.scopes
  obtain ⟨c₀, hc₀, hparent₀, -⟩ := h.tools.object.outermost
  have hinside : i ≠ 0 := by
    rintro rfl
    rw [hc₀] at hinner
    cases hinner
    rw [hparent₀] at hparent
    cases hparent
  have hother : i ≠ k := by
    rintro rfl
    rw [hinner] at houter
    cases houter
    rw [hbindings] at hcaptured
    cases hcaptured
  have hindex : Variable.indexIn inner replyName = some 1 := by
    unfold Variable.indexIn
    rw [hbindings]
    have hne : Utf16.ofString "arguments" ≠ replyName := by decide
    simp [Variable.mutableBinding, List.findIdx?_cons, hne]
  have hfind : Variable.find i replyName s = .ok (.binding i 1) s := findFrom_here hinner hindex
  have hbinding : Variable.bindingAt i 1 s = .ok (Variable.mutableBinding replyName reply) s := by
    unfold Variable.bindingAt
    rw [bind_ok (scope_run hinner), hbindings]
    rfl
  let kept : Scope := { inner with bindings := inner.bindings.modify 1 fun b => { b with value := some w } }
  let s' : Machine × σ := ({ s.1 with scopes := s.1.scopes.modify i fun _ => kept }, s.2)
  have hscope : s'.1.scopes[0]? = s.1.scopes[0]? := by
    simp [s', Array.getElem?_modify, hinside]
  refine ⟨s', ?_, ⟨⟨kept, outer, k, a, ?_, ?_, ?_, hparent, hcaptured, hzero⟩,
    h.tools.of_same hscope rfl, h.room⟩, rfl, rfl⟩
  · unfold Variable.write
    rw [bind_ok hfind]
    unfold Variable.writeAt
    dsimp only
    rw [bind_ok hbinding]
    have hupdate : Variable.updateBinding i 1 (fun b => { b with value := some w }) s = .ok () s' := by
      change EStateM.Result.ok () (({ s.1 with scopes := s.1.scopes.modify i _ }, s.2) : Machine × σ) = _
      simp only [s', kept, modify_same hinner]
    exact hupdate
  · simp [s', Array.getElem?_modify, hinner]
  · simp [s', Array.getElem?_modify, hother, houter]
  · simp [kept, hbindings, Variable.mutableBinding]

/-! ## The statements -/

theorem execute_conditional (site : Site) (hsite : site.records = false) (test : Expr) (yes : Stmt)
    (n : Nat) : (Engine.interp host (n + 1)).execute site (.conditional test yes none) =
      ((Engine.interp host n).evaluate site test >>= fun b =>
        if b.isTruthy then (Engine.interp host n).execute site yes else pure .normal) := by
  have hstatement : (Engine.interp host (n + 1)).execute site (.conditional test yes none) =
      Statement.execute (Engine.interp host n) site (.conditional test yes none) := rfl
  rw [hstatement, Statement.execute]
  simp only [Statement.recordValue, hsite]
  rfl

/-- Where the reply tells of no fault, its value is returned. -/
theorem concludes_value (h : Concluding s site.scope raw t (.object q))
    (herror : HasMember s.1 q errorMember none) (hvalue : HasMember s.1 q valueMember (some v))
    (hsite : site.records = false) (l₁ l₂ l₃ : Nat) :
    Gives (Callable.executeAll (Engine.interp host (n + 6)) site (conclusion l₁ l₂ l₃)) s
      (.returned v) := by
  have htest : Gives ((Engine.interp host (n + 6)).execute site (.conditional (tellsFault l₁)
      (.block [] [.throwing (toldError l₂) l₂]) none)) s .normal := by
    rw [execute_conditional site hsite]
    exact (gives_tellsFault h herror l₁).bind fun s₁ _ => .pure _ s₁
  refine htest.bind fun s₁ hnewer₁ => ?_
  have hmember := @gives_member _ _ host _ _ _ _ _ _ l₃ (gives_reply (n := n + 3) (h.newer hnewer₁).scopes l₃)
    (hvalue.newer hnewer₁).finds
  refine Gives.bind (a := .returned v) ?_ fun s₂ _ => .pure _ s₂
  exact hmember.bind fun s₂ _ => .pure _ s₂

/-- Where the reply tells of a fault, an error with its text is thrown. -/
theorem concludes_error {message : Utf16} (h : Concluding s site.scope raw t (.object q))
    (herror : HasMember s.1 q errorMember (some (.string message)))
    (hsite : site.records = false) (l₁ l₂ l₃ : Nat) :
    ∃ p s', Callable.executeAll (Engine.interp host (n + 6)) site (conclusion l₁ l₂ l₃) s =
      .error (.thrown (.object p)) s' ∧ IsMade s'.1 p t.errorPrototype message ∧
      Preserves s s' := by
  obtain ⟨s₁, htest, hnewer₁⟩ := gives_tellsFault (n := n + 1) h herror l₁
  obtain ⟨p, s₂, hmade, herror₂, hpreserves⟩ := makes_error (n := n) (h.newer hnewer₁)
    (herror.newer hnewer₁) l₂
  obtain ⟨s₃, hline, hnewer₃⟩ := gives_reachLine l₂ s₂
  have hthrow : (Engine.interp host (n + 5)).execute site (.block [] [.throwing (toldError l₂) l₂]) s₁ =
      .error (.thrown (.object p)) s₃ := by
    have hthrowing : (Engine.interp host (n + 4)).execute site (.throwing (toldError l₂) l₂) s₁ =
        .error (.thrown (.object p)) s₃ := (bind_ok hmade).trans ((bind_ok hline).trans rfl)
    exact (bind_error hthrowing : Callable.executeAll (Engine.interp host (n + 4)) site
      [.throwing (toldError l₂) l₂] s₁ = _)
  refine ⟨p, s₃, bind_error ?_, herror₂.of_objects (hasObjects_of_newer hnewer₃),
    (Newer.preserves hnewer₁).trans (hpreserves.trans (Newer.preserves hnewer₃))⟩
  rw [execute_conditional site hsite]
  exact (bind_ok htest).trans hthrow

/-! ## Computing what the conclusion uses -/

/-- The object that is found under a name of an object. -/
def foundObject? (m : Machine) (k : Name) (r : Ref) : Option Ref :=
  match found? m (.name k) m.objects.size r with
  | some (some (.object q)) => some q
  | _ => none

theorem finds_of_foundObject {m : Machine} {k : Name} (h : foundObject? m k r = some q) :
    Finds m (.name k) r (some (.object q)) := by
  unfold foundObject? at h
  split at h
  · rename_i hfound
    cases h
    exact finds_of_found hfound
  · cases h

/-- The object that the engine has given a name. -/
def constantObject? (m : Machine) (k : Name) : Option Ref :=
  match constant? m k with
  | some (.object q) => some q
  | _ => none

theorem hasConstant_of_object {m : Machine} {k : Name} (h : constantObject? m k = some q) :
    HasConstant m k (.object q) := by
  unfold constantObject? at h
  split at h
  · rename_i hconstant
    cases h
    exact hasConstant_of hconstant
  · cases h

/-- The functions that the conclusion calls, if the names and members have the engine's own
meaning. -/
def tools? (m : Machine) : Option Tools := do
  let object ← constantObject? m objectName
  let prototype ← foundObject? m prototypeMember object
  let own ← foundObject? m ownMember prototype
  let call ← foundObject? m callMember own
  let error ← constantObject? m errorName
  let errorPrototype ← foundObject? m prototypeMember error
  match (objectAt m own).kind, (objectAt m call).kind, (objectAt m error).kind with
  | .native (.objectMethod .hasOwnProperty), .native (.functionMethod .call),
    .native (.constructor (.error 0)) => some ⟨object, prototype, own, call, error, errorPrototype⟩
  | _, _, _ => none

theorem hasTools_of {m : Machine} (h : tools? m = some t) : HasTools m t := by
  unfold tools? at h
  simp only [Option.bind_eq_bind, Option.bind_eq_some_iff] at h
  obtain ⟨object, hobject, prototype, hprototype, own, hown, call, hcall, error, herror, proto, hproto,
    hkinds⟩ := h
  split at hkinds
  · rename_i hownKind hcallKind herrorKind
    cases hkinds
    exact ⟨hasConstant_of_object hobject, finds_of_foundObject hprototype, finds_of_foundObject hown,
      hownKind, finds_of_foundObject hcall, hcallKind, hasConstant_of_object herror, herrorKind,
      finds_of_foundObject hproto⟩
  · cases hkinds

/-- The host function that a call asks which has no reply yet, by the scope of the call. -/
def asksIn? (m : Machine) (i : Nat) : Option Ref := do
  let inner ← m.scopes[i]?
  let k ← inner.parent
  let outer ← m.scopes[k]?
  match inner.bindings.toList, outer.bindings.toList, outer.parent with
  | [⟨a, some (.object _), true, false⟩, ⟨b, some .undefined, true, false⟩],
    [⟨c, some (.object raw), true, false⟩], some 0 =>
    if a = Utf16.ofString "arguments" ∧ b = replyName ∧ c = rawName then some raw else none
  | _, _, _ => none

theorem inCall_of {m : Machine} (h : asksIn? m i = some raw) : InCall m i raw .undefined := by
  unfold asksIn? at h
  simp only [Option.bind_eq_bind, Option.bind_eq_some_iff] at h
  obtain ⟨inner, hinner, k, hk, outer, houter, hmatch⟩ := h
  split at hmatch
  · rename_i hbindings hcaptured hparent
    split at hmatch
    · rename_i hnames
      obtain ⟨rfl, rfl, rfl⟩ := hnames
      cases hmatch
      exact ⟨inner, outer, k, _, hinner, houter, Array.toList_inj.mp hbindings, hk,
        Array.toList_inj.mp hcaptured, hparent⟩
    · cases hmatch
  · cases hmatch

/-- The functions that a conclusion calls, if it can be reached. -/
def concluding? (s : Machine × σ) (i : Nat) (raw : Ref) : Option Tools :=
  if asksIn? s.1 i = some raw ∧ s.1.depth < Engine.callLimit then tools? s.1 else none

theorem concluding_of (h : concluding? s i raw = some t) : Concluding s i raw t .undefined := by
  unfold concluding? at h
  split at h
  · rename_i hboth
    exact ⟨inCall_of hboth.1, hasTools_of h, hboth.2⟩
  · cases h

end ScriptHost.Proofs.Conclusions
