import ScriptHost.Script.Engine

/-!
# Running the engine step by step

What single steps of the engine give from a state that is partly known: scopes, calls under way,
variables, and properties that objects hold by themselves.
-/

namespace ScriptHost.Proofs.Evaluation

open Script Script.Eval

variable {σ α β : Type} {s s' : Machine × σ} {I : Interp σ}

/-! ## Sequences -/

theorem bind_ok {x : Eval σ α} {k : α → Eval σ β} {a : α} (h : x s = .ok a s') :
    (x >>= k) s = k a s' := by
  change EStateM.bind x k s = _
  unfold EStateM.bind
  rw [h]

theorem bind_error {x : Eval σ α} {k : α → Eval σ β} {e : Signal} (h : x s = .error e s') :
    (x >>= k) s = .error e s' := by
  change EStateM.bind x k s = _
  unfold EStateM.bind
  rw [h]

theorem bind_congr {x y : Eval σ α} {k : α → Eval σ β} (h : x s = y s) :
    (x >>= k) s = (y >>= k) s := by
  change EStateM.bind x k s = EStateM.bind y k s
  unfold EStateM.bind
  rw [h]

theorem machine_run (s : Machine × σ) : machine s = .ok s.1 s := rfl

theorem failText_ne_ok {cls : String} {t : Utf16} {a : α} : failText cls t s ≠ .ok a s' := by
  unfold failText
  cases hnew : newError cls t s with
  | ok r s₁ =>
      rw [bind_ok hnew]
      exact fun h => nomatch h
  | error e s₁ =>
      rw [bind_error hnew]
      exact fun h => nomatch h

/-- Too many calls under way end in an error, and otherwise nothing happens. -/
theorem checkDepth_ok {u : Unit} (h : Engine.checkDepth s = .ok u s') : s' = s := by
  unfold Engine.checkDepth at h
  rw [bind_ok (machine_run s)] at h
  split at h
  · exact absurd h failText_ne_ok
  · cases h
    rfl

/-! ## Calls under way -/

/-- The state in which a call is under way. -/
def within (f : Frame) (s : Machine × σ) : Machine × σ :=
  ({ s.1 with frames := f :: s.1.frames, depth := s.1.depth + 1 }, s.2)

/-- The state after a call. -/
def after (s : Machine × σ) : Machine × σ :=
  ({ s.1 with frames := s.1.frames.drop 1, depth := s.1.depth - 1 }, s.2)

/-- A call ends as its body does, and then it is no longer under way. -/
theorem withFrame_run (f : Frame) (body : Eval σ α) (s : Machine × σ) :
    withFrame f body s =
      match body (within f s) with
      | .ok a s' => .ok a (after s')
      | .error e s' => .error e (after s') := by
  change EStateM.bind (EStateM.tryCatch (EStateM.bind body _) _) _ (within f s) = _
  unfold EStateM.bind EStateM.tryCatch
  cases h : body (within f s) with
  | ok a s' =>
      simp only [h]
      rfl
  | error e s' =>
      simp only [h]
      rfl

theorem withFrame_congr {f : Frame} {x y : Eval σ α} (h : x (within f s) = y (within f s)) :
    withFrame f x s = withFrame f y s := by
  rw [withFrame_run, withFrame_run, h]

theorem reachLine_eq (line : Nat) (s : Machine × σ) :
    Eval.reachLine line s = .ok () (match s.1.frames with
      | [] => s
      | f :: rest =>
        if f.line.isSome && f.line != some line then
          ({ s.1 with frames := { f with line := some line } :: rest }, s.2)
        else s) := rfl

/-- Nothing is kept of the line that is reached where no lines are known. -/
theorem reachLine_run (h : ∀ f ∈ s.1.frames.head?, f.line = none) (line : Nat) :
    Eval.reachLine line s = .ok () s := by
  rw [reachLine_eq]
  cases hframes : s.1.frames with
  | nil => rfl
  | cons f rest =>
      have hline := h f (by rw [hframes]; rfl)
      simp [hline]

/-! ## Scopes -/

/-- The state with one more scope. -/
def opened (c : Scope) (s : Machine × σ) : Machine × σ :=
  ({ s.1 with scopes := s.1.scopes.push c }, s.2)

theorem openScope_run (c : Scope) (s : Machine × σ) :
    openScope c s = .ok s.1.scopes.size (opened c s) := rfl

theorem modify_push (xs : Array α) (x : α) (f : α → α) :
    (xs.push x).modify xs.size f = xs.push (f x) := by
  apply Array.ext
  · simp
  · intro i _ _
    simp only [Array.getElem_modify, Array.getElem_push]
    grind

/-- A variable is added to the scope opened last. -/
theorem bind_opened {c : Scope} {b : Binding} (h : Variable.indexIn c b.name = none) :
    Variable.bind s.1.scopes.size b (opened c s) =
      .ok () (opened { c with bindings := c.bindings.push b } s) := by
  change EStateM.Result.ok ()
    (({ s.1 with scopes := (s.1.scopes.push c).modify s.1.scopes.size _ }, s.2) :
      Machine × σ) = _
  rw [modify_push, h]
  rfl

/-! ## Variables -/

section Variables

variable {i j p fuel : Nat} {c : Scope} {n : Name}

theorem scope_run (hc : s.1.scopes[i]? = some c) : scope i s = .ok c s := by
  change EStateM.Result.ok (s.1.scopes[i]?.getD default) s = _
  rw [hc]
  rfl

theorem findFrom_here (hc : s.1.scopes[i]? = some c) (hj : Variable.indexIn c n = some j) :
    Variable.findFrom n (fuel + 1) i s = .ok (.binding i j) s := by
  rw [Variable.findFrom, bind_ok (scope_run hc), hj]
  rfl

theorem findFrom_parent (hc : s.1.scopes[i]? = some c) (hn : Variable.indexIn c n = none)
    (hp : c.parent = some p) :
    Variable.findFrom n (fuel + 1) i s = Variable.findFrom n fuel p s := by
  rw [Variable.findFrom, bind_ok (scope_run hc), hn, hp]

theorem findFrom_global (hc : s.1.scopes[i]? = some c) (hn : Variable.indexIn c n = none)
    (hp : c.parent = none) : Variable.findFrom n (fuel + 1) i s = .ok .global s := by
  rw [Variable.findFrom, bind_ok (scope_run hc), hn, hp]
  rfl

/-- The value of a variable whose place has been found. -/
theorem read?_found {b : Binding} {v : Value} (hfind : Variable.find p n s = .ok (.binding i j) s)
    (hc : s.1.scopes[i]? = some c) (hb : c.bindings[j]? = some b) (hv : b.value = some v) :
    Variable.read? I p n s = .ok (some v) s := by
  have hat : Variable.bindingAt i j s = .ok b s := by
    unfold Variable.bindingAt
    rw [bind_ok (scope_run hc), hb]
    rfl
  unfold Variable.read?
  rw [bind_ok hfind]
  dsimp only
  rw [bind_ok hat, hv]
  rfl

/-- A name that no scope binds is a property of the global object. -/
theorem read?_global (hfind : Variable.find p n s = .ok .global s) :
    Variable.read? I p n s = Variable.readGlobal? I n s := by
  unfold Variable.read?
  rw [bind_ok hfind]

theorem read_found {b : Binding} {v : Value} (hfind : Variable.find p n s = .ok (.binding i j) s)
    (hc : s.1.scopes[i]? = some c) (hb : c.bindings[j]? = some b) (hv : b.value = some v) :
    Variable.read I p n s = .ok v s := by
  unfold Variable.read
  rw [bind_ok (read?_found hfind hc hb hv)]
  rfl

/-- The value of a variable of the scope at hand. -/
theorem read_binding {b : Binding} {v : Value} (hc : s.1.scopes[i]? = some c)
    (hj : Variable.indexIn c n = some j) (hb : c.bindings[j]? = some b) (hv : b.value = some v) :
    Variable.read I i n s = .ok v s :=
  read_found (findFrom_here hc hj) hc hb hv

end Variables

/-! ## Properties -/

section Properties

variable {r : Ref} {k : PropertyKey}

/-- The object at a reference. -/
def objectAt (m : Machine) (r : Ref) : Object := m.objects[r.index]?.getD default

/-- An object that no handler stands in for. -/
def IsDirect (o : Object) : Prop := ∀ target handler callable, o.kind ≠ .proxy target handler callable

theorem object_run (r : Ref) (s : Machine × σ) : object r s = .ok (objectAt s.1 r) s := rfl

/-- The value of a property that an object holds by itself. -/
theorem getProperty_own {v : Value} {w e c : Bool} (hdirect : IsDirect (objectAt s.1 r))
    (hown : (objectAt s.1 r).own? k = some ⟨.data v w, e, c⟩) :
    getProperty I r k s = .ok v s := by
  change getAlong I k (.object r) (s.1.objects.size + 1) r s = _
  rw [getAlong, bind_ok (object_run r s)]
  unfold IsDirect at hdirect
  simp only [hown]
  rfl

theorem hasProperty_own {p : Property} (hdirect : IsDirect (objectAt s.1 r))
    (hown : (objectAt s.1 r).own? k = some p) : hasProperty I r k s = .ok true s := by
  change hasAlong I k (s.1.objects.size + 1) r s = _
  rw [hasAlong, bind_ok (object_run r s)]
  unfold IsDirect at hdirect
  simp only [hown]
  rfl

end Properties

/-! ## Functions of the engine -/

theorem checkDepth_run (h : s.1.depth ≤ Engine.callLimit) : Engine.checkDepth s = .ok () s := by
  unfold Engine.checkDepth
  rw [bind_ok (machine_run s), if_neg (by omega)]
  rfl

/-- A call of a function of the engine. -/
theorem call_native {host : Engine.HostCall σ} {n : Nat} {r : Ref} {f : Native}
    (hkind : (objectAt s.1 r).kind = .native f) (hdepth : s.1.depth ≤ Engine.callLimit)
    (receiver : Value) (args : Array Value) :
    (Engine.interp host (n + 1)).call (.object r) receiver args s =
      withFrame (Engine.nativeFrame r)
        (Engine.runNative (Engine.interp host n) f r receiver args) s := by
  change Engine.callValue (Engine.interp host n) (.object r) receiver args s = _
  unfold Engine.callValue
  rw [bind_ok (checkDepth_run hdepth)]
  dsimp only
  rw [bind_ok (object_run r s), hkind]

/-! ## The engine's own constants -/

/-- The name of the undefined value. -/
def undefinedName : Name := Utf16.ofString "undefined"

/-- A name means a value that the engine has given it: no script variable has the name, and the
global object holds the value as a property. -/
structure HasConstant (m : Machine) (n : Name) (v : Value) : Prop where
  outermost : ∃ c, m.scopes[0]? = some c ∧ c.parent = none ∧ Variable.indexIn c n = none
  direct : IsDirect (objectAt m Intrinsic.globalObject.ref)
  property : ∃ w e c,
    (objectAt m Intrinsic.globalObject.ref).own? (.name n) = some ⟨.data v w, e, c⟩

section Constants

variable {n : Name} {v : Value} {i : Nat} {c : Scope}

theorem HasConstant.readGlobal (h : HasConstant s.1 n v) :
    Variable.readGlobal? I n s = .ok (some v) s := by
  obtain ⟨w, e, c, hown⟩ := h.property
  unfold Variable.readGlobal?
  rw [bind_ok (hasProperty_own h.direct hown)]
  change (getProperty I _ _ >>= _) s = _
  rw [bind_ok (getProperty_own h.direct hown)]
  rfl

theorem HasConstant.read_found (h : HasConstant s.1 n v)
    (hfind : Variable.find i n s = .ok .global s) : Variable.read I i n s = .ok v s := by
  unfold Variable.read
  rw [bind_ok ((read?_global hfind).trans h.readGlobal)]
  rfl

/-- A constant as the outermost scope sees it. -/
theorem HasConstant.read_outermost (h : HasConstant s.1 n v) :
    Variable.read I 0 n s = .ok v s := by
  obtain ⟨c₀, hc₀, hparent₀, hunbound₀⟩ := h.outermost
  exact h.read_found (findFrom_global hc₀ hunbound₀ hparent₀)

/-- A constant as a scope directly inside the outermost one sees it. -/
theorem HasConstant.read_inside (h : HasConstant s.1 n v) (hc : s.1.scopes[i]? = some c)
    (hparent : c.parent = some 0) (hunbound : Variable.indexIn c n = none) :
    Variable.read I i n s = .ok v s := by
  obtain ⟨c₀, hc₀, hparent₀, hunbound₀⟩ := h.outermost
  have hsize := (Array.getElem?_eq_some_iff.mp hc₀).1
  refine h.read_found ?_
  change Variable.findFrom n (s.1.scopes.size + 1) i s = _
  obtain ⟨fuel, hfuel⟩ : ∃ fuel, s.1.scopes.size = fuel + 1 := ⟨s.1.scopes.size - 1, by omega⟩
  rw [hfuel, findFrom_parent hc hunbound hparent, findFrom_global hc₀ hunbound₀ hparent₀]

end Constants

end ScriptHost.Proofs.Evaluation
