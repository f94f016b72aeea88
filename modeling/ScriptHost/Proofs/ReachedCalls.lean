import ScriptHost.Proofs.AnsweredCalls
import ScriptHost.Proofs.Applier

/-!
# Calls that a computation comes to

A computation comes to a call when it has done some steps, perhaps in calls that it has made.  If
nothing on the way catches anything, an error of the call is an error of the computation, and it goes on
with what the call gives.  A function that returns a call comes to it, and so does the applier of the
host with such a function.
-/

namespace ScriptHost.Proofs.ReachedCalls

open Script Script.Eval ScriptEngine
open ScriptHost.Proofs.AnsweredCalls (withFrame_error)
open ScriptHost.Proofs.Applier
open ScriptHost.Proofs.Conclusions
open ScriptHost.Proofs.ErrorTexts
open ScriptHost.Proofs.Evaluation
open ScriptHost.Proofs.PlainCall (constant? hasConstant_of)
open ScriptHost.Proofs.PropertyChains
open ScriptHost.Proofs.Transition (ok_of_bind)

variable {n line : Nat} {s s' s₀ t t' : Machine × Host} {a f g l r : Ref} {c : Closure} {v w : Value}

/-! ## Calls inside computations -/

/-- A computation comes to another one, in a state, and throws whatever error that throws; the error is
shown as it was. -/
def LetsThrough (body : Eval Host Value) (s : Machine × Host) (inner : Eval Host Value)
    (t : Machine × Host) : Prop :=
  ∀ p t', inner t = .error (.thrown (.object p)) t' →
    ∃ s', body s = .error (.thrown (.object p)) s' ∧ s'.1.depth ≤ t'.1.depth ∧
      ∀ name message stack, ShowsError t'.1 p name message stack → ShowsError s'.1 p name message stack

/-- A computation comes to another one, in a state, and goes on with the value that it gives. -/
def GoesOn (body : Eval Host Value) (s : Machine × Host) (inner : Eval Host Value)
    (t : Machine × Host) (rest : Value → Eval Host Value) : Prop :=
  ∀ w t', inner t = .ok w t' → body s = rest w t'

/-- What becomes of a computation after a call. -/
def afterCall {α : Type} (body : Eval Host α) : Eval Host α := fun s =>
  match body s with
  | .ok a s' => .ok a (after s')
  | .error e s' => .error e (after s')

theorem afterCall_ok {α : Type} {body : Eval Host α} {a : α} (h : body t = .ok a t') :
    afterCall body t = .ok a (after t') := by
  unfold afterCall
  rw [h]

theorem withFrame_after {α : Type} {frame : Frame} {body rest : Eval Host α}
    (h : body (within frame s) = rest t) : withFrame frame body s = afterCall rest t := by
  rw [withFrame_run, h]
  unfold afterCall
  cases rest t <;> rfl

/-- A computation comes to another one through steps that are done before it and calls that it is made
in; nothing on the way catches anything.  What follows is what is left of these steps and calls. -/
inductive Reaches (inner : Eval Host Value) (t : Machine × Host) :
    {α : Type} → Eval Host α → Machine × Host → (Value → Eval Host α) → Prop
  | here : Reaches inner t inner t pure
  | first {α β : Type} {body : Eval Host α} {s : Machine × Host} {rest : Value → Eval Host α}
    (next : α → Eval Host β) (h : Reaches inner t body s rest) :
    Reaches inner t (body >>= next) s fun w => rest w >>= next
  | later {α β : Type} {done : Eval Host α} {a : α} {next : α → Eval Host β} {s s' : Machine × Host}
    {rest : Value → Eval Host β} (step : done s = .ok a s') (h : Reaches inner t (next a) s' rest) :
    Reaches inner t (done >>= next) s rest
  | call {α : Type} {body : Eval Host α} {s : Machine × Host} {rest : Value → Eval Host α} (f : Frame)
    (h : Reaches inner t body (within f s) rest) :
    Reaches inner t (withFrame f body) s fun w => afterCall (rest w)
  | same {α : Type} {body body' : Eval Host α} {s s' : Machine × Host} {rest : Value → Eval Host α}
    (heq : body s = body' s') (h : Reaches inner t body' s' rest) : Reaches inner t body s rest

namespace Reaches

variable {inner : Eval Host Value} {α : Type} {body : Eval Host α} {rest : Value → Eval Host α}

theorem goesOn (h : Reaches inner t body s rest) (hinner : inner t = .ok w t') :
    body s = rest w t' := by
  induction h with
  | here => exact hinner
  | @first α β body s rest next _ ih =>
      change EStateM.bind body next s = EStateM.bind (rest w) next t'
      unfold EStateM.bind
      rw [ih]
  | later step _ ih => exact (bind_ok step).trans ih
  | call f _ ih => exact withFrame_after ih
  | same heq _ ih => exact heq.trans ih

/-- An error leaves the objects as they are on its way. -/
theorem throws (h : Reaches inner t body s rest) (hinner : inner t = .error (.thrown v) t') :
    ∃ s', body s = .error (.thrown v) s' ∧ s'.1.objects = t'.1.objects ∧
      s'.1.depth ≤ t'.1.depth := by
  induction h with
  | here => exact ⟨t', hinner, rfl, Nat.le_refl _⟩
  | first next _ ih =>
      obtain ⟨s', hbody, hobjects, hdepth⟩ := ih
      exact ⟨s', bind_error hbody, hobjects, hdepth⟩
  | later step _ ih =>
      obtain ⟨s', hbody, hobjects, hdepth⟩ := ih
      exact ⟨s', (bind_ok step).trans hbody, hobjects, hdepth⟩
  | call f _ ih =>
      obtain ⟨s', hbody, hobjects, hdepth⟩ := ih
      exact ⟨after s', withFrame_error hbody, hobjects, Nat.le_trans (Nat.sub_le _ _) hdepth⟩
  | same heq _ ih =>
      obtain ⟨s', hbody, hobjects, hdepth⟩ := ih
      exact ⟨s', heq.trans hbody, hobjects, hdepth⟩

theorem letsThrough {body : Eval Host Value} {rest : Value → Eval Host Value}
    (h : Reaches inner t body s rest) : LetsThrough body s inner t := by
  intro p t' hinner
  obtain ⟨s', hbody, hobjects, hdepth⟩ := h.throws hinner
  have hsame : HasObjects t'.1 s'.1 := hasObjects_of_same hobjects
  refine ⟨s', hbody, hdepth, fun name message stack hshown => ?_⟩
  obtain ⟨f, hmethod, hkind⟩ := hshown.method
  refine ⟨hshown.primitive.of_objects hsame, ⟨f, hmethod.of_objects hsame, ?_⟩,
    hshown.name.of_objects hsame, hshown.message.of_objects hsame, hshown.stack.of_objects hsame⟩
  rw [show objectAt s'.1 f = objectAt t'.1 f by unfold objectAt; rw [hobjects]]
  exact hkind

end Reaches

/-! ## Functions that return a call -/

/-- A computation gives back what it comes to, whatever that is. -/
def HandsBack (rest : Value → Eval Host Value) : Prop := ∀ w t, ∃ t', rest w t = .ok w t'

theorem handsBack_pure : HandsBack pure := fun _ t => ⟨t, rfl⟩

theorem HandsBack.call {rest : Value → Eval Host Value} (h : HandsBack rest) :
    HandsBack fun w => afterCall (rest w) := by
  intro w t
  obtain ⟨t', ht'⟩ := h w t
  exact ⟨after t', afterCall_ok ht'⟩

/-- A plain function whose body is one `return` with a call. -/
structure ReturnsCall (f : Function) (callee : Expr) (items : List Element) (line : Nat) : Prop where
  kind : f.info.kind = .plain
  isGenerator : f.info.isGenerator = false
  isAsync : f.info.isAsync = false
  body : f.body = [.returning (some (.call callee items false line))]
  named : Expression.namesTextEvaluator callee = false

/-- A call that is about to be made. -/
structure Impending where
  function : Value
  receiver : Value
  args : Array Value

/-- The call. -/
def Impending.call (n : Nat) (y : Impending) : Eval Host Value :=
  (Engine.interp hostCall (n + 1)).call y.function y.receiver y.args

/-- The steps of a function up to the call that it returns. -/
def upToCall (n : Nat) (r : Ref) (c : Closure) (this : Value) (args : Array Value) (callee : Expr)
    (items : List Element) (line : Nat) : Eval Host Impending := do
  let site ← Callable.enter (Engine.interp hostCall (n + 3)) ⟨r, c, some this, .undefined⟩ args
  let (receiver, f) ← Expression.reference (Engine.interp hostCall (n + 1)) site callee
  let values ← Expression.elements (Engine.interp hostCall (n + 1)) site items #[]
  reachLine line
  return ⟨f, receiver, values⟩

variable {callee : Expr} {items : List Element} {this receiver : Value} {args values : Array Value}
  {y : Impending}

/-- A function that returns a call comes to it, once it has found out what it calls. -/
theorem reaches_returned (hf : ReturnsCall c.code callee items line)
    (hr : (objectAt s.1 r).kind = .closure c) (hdepth : s.1.depth ≤ Engine.callLimit)
    (hthis : Callable.receiverFor c.code.info.strict receiver s = .ok this s₀)
    (hcall : upToCall n r c this args callee items line
      (within (Callable.frameOf r c.code.info) s₀) = .ok y t) :
    ∃ rest, HandsBack rest ∧ Reaches (y.call n) t
      ((Engine.interp hostCall (n + 4)).call (.object r) receiver args) s rest := by
  obtain ⟨site, s₁, henter, hcall⟩ := ok_of_bind hcall
  obtain ⟨⟨receiver', f⟩, s₂, hreference, hcall⟩ := ok_of_bind hcall
  obtain ⟨values, s₃, hitems, hcall⟩ := ok_of_bind hcall
  obtain ⟨u, s₄, hline, hcall⟩ := ok_of_bind hcall
  cases hcall
  have hbody : Reaches (Impending.call n ⟨f, receiver', values⟩) t
      ((Engine.interp hostCall (n + 2)).evaluate site (.call callee items false line)) s₁ pure := by
    change Reaches _ t (Expression.call (Engine.interp hostCall (n + 1)) site callee items false line) s₁ _
    unfold Expression.call
    refine .later hreference (.later (throughOptional_run _ _) (.later hitems (.later hline ?_)))
    rw [hf.named]
    exact .later rfl .here
  have hrun : Reaches (Impending.call n ⟨f, receiver', values⟩) t
      (Callable.runBody (Engine.interp hostCall (n + 3)) ⟨r, c, some this, .undefined⟩ args)
      (within (Callable.frameOf r c.code.info) s₀) pure := by
    unfold Callable.runBody
    refine .later henter (.same ?_ hbody)
    dsimp only
    rw [hf.body]
    exact resultOf_returning rfl
  refine ⟨_, handsBack_pure.call, .same ?_ (.call _ hrun)⟩
  change Engine.callValue (Engine.interp hostCall (n + 3)) (.object r) receiver args s = _
  unfold Engine.callValue
  rw [bind_ok (checkDepth_run hdepth)]
  dsimp only
  rw [bind_ok (object_run r s)]
  simp only [hr]
  unfold Callable.callClosure
  simp only [hf.kind, hf.isGenerator, hf.isAsync]
  exact bind_ok hthis

/-! ## Functions that the host applies -/

/-- An engine whose applier can apply a function of a script to a list, with the engine's own method for
this. -/
structure CanApply (s : Machine × Host) (a : Ref) (c : Closure) (r g l : Ref) (values : Array Value) :
    Prop where
  applier : IsApplier s.1 a c
  undefined : HasConstant s.1 undefinedName .undefined
  method : Finds s.1 (.name applyName) r (some (.object g))
  own : IsApply s.1 g
  callable : (objectAt s.1 r).isCallable = true
  list : ∃ b, (objectAt s.1 l).kind = .array values values.size b
  room : s.1.depth < Engine.callLimit

/-- The state in which the applier calls the function. -/
def inApply (a : Ref) (c : Closure) (r g l : Ref) (s : Machine × Host) : Machine × Host :=
  within (Engine.nativeFrame g) (inApplier a c r l s)

/-- The applier calls the function without a receiver and with the items of the list. -/
theorem reaches_applied {inner : Eval Host Value} {rest : Value → Eval Host Value}
    (h : CanApply s a c r g l values) (hback : HandsBack rest)
    (hcall : Reaches inner t ((Engine.interp hostCall n).call (.object r) .undefined values)
      (inApply a c r g l s) rest) :
    ∃ rest, HandsBack rest ∧ Reaches inner t
      ((Engine.interp hostCall (n + 4)).call (.object a) .undefined #[.object r, .object l]) s rest := by
  obtain ⟨b, hlist⟩ := h.list
  have hsame : HasObjects s.1 (inApplier a c r l s).1 := hasObjects_of_same rfl
  have hread : getProperty (Engine.interp hostCall (n + 1)) r (.name applyName) (inApplier a c r l s) =
      .ok (.object g) (inApplier a c r l s) := Finds.getProperty_some (h.method.of_objects hsame)
  have happlied := call_applier (n := n) h.applier h.undefined (l := l) (r := r)
    fun v s' hget => by
      rw [hread] at hget
      cases hget
      exact underWay_inApplier h.applier.code h.undefined
  have hnative : throughApply (Engine.interp hostCall (n + 1)) r l (inApplier a c r l s) =
      calledPlainly (Engine.interp hostCall n) g r values (inApplier a c r l s) := by
    unfold throughApply
    rw [bind_ok hread]
    exact call_apply h.own h.callable hlist
  have hthrough : Reaches inner t (calledPlainly (Engine.interp hostCall n) g r values)
      (inApplier a c r l s) _ := .later (checkDepth_run h.room) (.call _ hcall)
  refine ⟨_, hback.call.call, .same happlied (.later (checkDepth_run (Nat.le_of_lt h.room))
    (.call _ (.later (openScope_run _ _) (.same hnative hthrough))))⟩

/-! ## Calls that can be computed -/

/-- The call that a plain function returns, if it is one. -/
def returnedCall? (f : Function) : Option (Expr × List Element × Nat) :=
  match f with
  | .mk i _ _ _ [.returning (some (.call callee items false line))] =>
    if i.kind == .plain && !i.isGenerator && !i.isAsync && !Expression.namesTextEvaluator callee then
      some (callee, items, line)
    else none
  | _ => none

theorem returnsCall_of {f : Function} (h : returnedCall? f = some (callee, items, line)) :
    ReturnsCall f callee items line := by
  unfold returnedCall? at h
  split at h
  · split at h
    · rename_i hall
      simp only [Bool.and_eq_true, beq_iff_eq, Bool.not_eq_true'] at hall
      obtain ⟨⟨⟨hkind, hgenerator⟩, hasync⟩, hnamed⟩ := hall
      cases h
      exact ⟨hkind, hgenerator, hasync, rfl, hnamed⟩
    · cases h
  · cases h

/-- The call that a function of a script comes to, and the state in which it does. -/
def impending? (n : Nat) (r : Ref) (args : Array Value) (s : Machine × Host) :
    Option (Impending × (Machine × Host)) :=
  match (objectAt s.1 r).kind with
  | .closure c => do
    let (callee, items, line) ← returnedCall? c.code
    match Callable.receiverFor c.code.info.strict .undefined s with
    | .ok this s₀ =>
      match upToCall n r c this args callee items line (within (Callable.frameOf r c.code.info) s₀) with
      | .ok y t => if s.1.depth ≤ Engine.callLimit then some (y, t) else none
      | .error _ _ => none
    | .error _ _ => none
  | _ => none

theorem reaches_impending (h : impending? n r args s = some (y, t)) :
    ∃ rest, HandsBack rest ∧ Reaches (y.call n) t
      ((Engine.interp hostCall (n + 4)).call (.object r) .undefined args) s rest := by
  unfold impending? at h
  split at h
  · rename_i c hclosure
    simp only [Option.bind_eq_bind, Option.bind_eq_some_iff] at h
    obtain ⟨⟨callee, items, line⟩, hreturned, h⟩ := h
    split at h
    · rename_i this s₀ hthis
      split at h
      · rename_i y' t' hcall
        split at h
        · rename_i hdepth
          cases h
          exact reaches_returned (returnsCall_of hreturned) hclosure hdepth hthis hcall
        · cases h
      · cases h
    · cases h
  · cases h

/-- What the applier of the host applies a function with. -/
def appliance? (s : Machine × Host) (a r l : Ref) : Option (Closure × Ref × Array Value) :=
  match (objectAt s.1 a).kind, constant? s.1 undefinedName,
    found? s.1 (.name applyName) s.1.objects.size r with
  | .closure c, some .undefined, some (some (.object g)) =>
    match (objectAt s.1 g).kind, (objectAt s.1 l).kind with
    | .native (.functionMethod .apply), .array values k _ =>
      if appliesFirst c.code = true ∧ c.scope = 0 ∧ (objectAt s.1 r).isCallable = true ∧
          k = values.size ∧ s.1.depth < Engine.callLimit then some (c, g, values)
      else none
    | _, _ => none
  | _, _, _ => none

theorem canApply_of (h : appliance? s a r l = some (c, g, values)) : CanApply s a c r g l values := by
  unfold appliance? at h
  split at h
  · rename_i c' g' hclosure hundefined hmethod
    split at h
    · rename_i values' k b happly hlist
      split at h
      · rename_i hall
        obtain ⟨hcode, hscope, hcallable, rfl, hroom⟩ := hall
        cases h
        exact ⟨⟨hclosure, appliesFirst_of hcode, hscope⟩, hasConstant_of hundefined,
          finds_of_found hmethod, happly, hcallable, ⟨b, hlist⟩, hroom⟩
      · cases h
    · cases h
  · cases h

end ScriptHost.Proofs.ReachedCalls
