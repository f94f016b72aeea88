import ScriptHost.Proofs.AssignedKeys
import ScriptHost.Script.Realm

/-!
# Making the first heap on a draft

The first heap is made object by object, and each of its objects is changed many times.  A draft keeps the
number of the objects, the objects as they were made and the changes, so that no step of making the heap
looks at the heap.  Each step has its counterpart on drafts (`Drafted`), and making everything has one from
the counterparts of its steps: a fact can be read off the first heap in the draft that it stands for.
-/

namespace ScriptHost.Proofs.FirstHeap

open Script Script.Eval Script.Realm
open ScriptHost.Proofs.AssignedKeys (updated updateObject_run)
open ScriptHost.Proofs.DataValues (allocate_run updateObject_new withObjects)
open ScriptHost.Proofs.Evaluation (bind_ok)

variable {s : Machine × Unit} {α β : Type}

/-! ## Functions -/

/-- A function of the engine with its length and name. -/
def furnished : Row → Object := fun (name, length, f) =>
  let table := PropertyTable.empty.put "length" (.readOnly (Value.ofNat length))
  { Object.bare (.native f) (some Intrinsic.functionPrototype.ref) with
    properties := table.put "name" (.readOnly (Value.ofString name)) }

theorem native_eq (name : String) (length : Nat) (f : Native) :
    Realm.native name length f = allocate (furnished (name, length, f)) := by
  funext s
  unfold Realm.native putProperty
  rw [bind_ok (allocate_run _ s), bind_ok (updateObject_new _), bind_ok (updateObject_new _),
    allocate_run]
  rfl

/-! ## Drafts -/

/-- A heap in the making: how many objects there are, the objects as they were made and the changes of
them, each with the last one first. -/
structure Draft where
  size : Nat
  made : List Object
  changes : List (Nat × (Object → Object))

namespace Draft

/-- An object with its changes. -/
def changed (d : Draft) (i : Nat) (o : Object) : Object :=
  d.changes.foldr (fun c o => if c.1 == i then c.2 o else o) o

/-- Objects from a place on with their changes. -/
def settled (d : Draft) : Nat → List Object → List Object
  | _, [] => []
  | i, o :: os => d.changed i o :: settled d (i + 1) os

/-- The objects with their changes. -/
def objects (d : Draft) : List Object := settled d 0 d.made.reverse

/-- The state that a draft stands for. -/
def state (d : Draft) : Machine × Unit := ({ bareMachine with objects := ⟨d.objects⟩ }, ())

/-- The number of objects is right, and only objects that are there have been changed. -/
structure IsSound (d : Draft) : Prop where
  size : d.size = d.made.length
  changes : ∀ c ∈ d.changes, c.1 < d.size

/-- The draft with one more object. -/
def push (d : Draft) (o : Object) : Draft := ⟨d.size + 1, o :: d.made, d.changes⟩

/-- The draft with one more change of an object, if the object is there. -/
def change (d : Draft) (i : Nat) (f : Object → Object) : Draft :=
  if i < d.size then ⟨d.size, d.made, (i, f) :: d.changes⟩ else d

theorem settled_eq (d : Draft) (os : List Object) (n : Nat) :
    settled d n os = os.mapIdx fun i o => d.changed (n + i) o := by
  induction os generalizing n with
  | nil => rfl
  | cons o os ih =>
      rw [settled, ih, List.mapIdx_cons]
      simp only [Nat.add_zero, Nat.add_assoc, Nat.add_comm 1]

theorem objects_eq (d : Draft) : d.objects = d.made.reverse.mapIdx d.changed := by
  unfold objects
  rw [settled_eq]
  simp

theorem length_objects (d : Draft) : d.objects.length = d.made.length := by
  simp [objects_eq]

theorem changed_new {d : Draft} (h : d.IsSound) (o : Object) : d.changed d.size o = o := by
  unfold changed
  have hcs : ∀ cs : List (Nat × (Object → Object)), (∀ c ∈ cs, c.1 < d.size) →
      cs.foldr (fun c o => if c.1 == d.size then c.2 o else o) o = o := by
    intro cs
    induction cs with
    | nil => intro _; rfl
    | cons c cs ih =>
        intro hcs
        have hne : (c.1 == d.size) = false := by
          have := hcs c List.mem_cons_self
          simp; omega
        rw [List.foldr_cons, ih fun c hc => hcs c (List.mem_cons_of_mem _ hc), hne]
        rfl
  exact hcs _ h.changes

theorem objects_push {d : Draft} (h : d.IsSound) (o : Object) :
    (d.push o).objects = d.objects ++ [o] := by
  have hsame : (d.push o).changed = d.changed := rfl
  rw [objects_eq, objects_eq, hsame]
  simp only [push, List.reverse_cons, List.mapIdx_append, List.mapIdx_cons, List.mapIdx_nil,
    List.length_reverse, Nat.zero_add, ← h.size, changed_new h]

theorem objects_change {d : Draft} (h : d.IsSound) (i : Nat) (f : Object → Object) :
    (d.change i f).objects = d.objects.modify i f := by
  unfold change
  split
  · rw [objects_eq, objects_eq]
    apply List.ext_getElem
    · simp
    · intro j _ _
      simp only [List.getElem_mapIdx, List.getElem_modify, changed, List.foldr_cons, beq_iff_eq]
  · rename_i hlt
    rw [List.modify_eq_self]
    rw [length_objects, ← h.size]
    omega

theorem isSound_push {d : Draft} (h : d.IsSound) (o : Object) : (d.push o).IsSound :=
  ⟨by simp [push, h.size], fun c hc => Nat.lt_succ_of_lt (h.changes c hc)⟩

theorem isSound_change {d : Draft} (h : d.IsSound) (i : Nat) (f : Object → Object) :
    (d.change i f).IsSound := by
  unfold change
  split
  · rename_i hi
    refine ⟨h.size, fun c hc => ?_⟩
    rcases List.mem_cons.mp hc with rfl | hc
    · exact hi
    · exact h.changes c hc
  · exact h

end Draft

/-! ## Steps -/

/-- A step of making the first heap that can be done on a draft. -/
class Drafted {α : Type} (x : Build α) where
  run : Draft → α × Draft
  sound : ∀ d, d.IsSound → x d.state = .ok (run d).1 (run d).2.state ∧ (run d).2.IsSound

instance (a : α) : Drafted (pure a : Build α) where
  run d := (a, d)
  sound _ h := ⟨rfl, h⟩

instance Drafted.bind {x : Build α} {f : α → Build β} [X : Drafted x] [F : ∀ a, Drafted (f a)] :
    Drafted (x >>= f) where
  run d := let r := X.run d; (F r.1).run r.2
  sound d h := by
    obtain ⟨hx, hd⟩ := X.sound d h
    obtain ⟨hf, hd'⟩ := (F (X.run d).1).sound _ hd
    exact ⟨(bind_ok hx).trans hf, hd'⟩

instance (o : Object) : Drafted (allocate o : Build Ref) where
  run d := (⟨d.size⟩, d.push o)
  sound d h := by
    refine ⟨?_, Draft.isSound_push h o⟩
    rw [allocate_run]
    have hsize : d.state.1.objects.size = d.size := by
      change d.objects.length = _
      rw [Draft.length_objects, h.size]
    have hobjects : d.state.1.objects ++ [o].toArray = ⟨(d.push o).objects⟩ := by
      rw [Draft.objects_push h]
      apply Array.toList_inj.mp
      rw [Array.toList_append]
      rfl
    unfold withObjects
    rw [hsize, hobjects]
    rfl

instance (r : Ref) (f : Object → Object) : Drafted (updateObject r f : Build Unit) where
  run d := ((), d.change r.index f)
  sound d h := by
    refine ⟨?_, Draft.isSound_change h _ _⟩
    rw [updateObject_run]
    have hobjects : d.state.1.objects.modify r.index f = ⟨(d.change r.index f).objects⟩ := by
      rw [Draft.objects_change h]
      apply Array.toList_inj.mp
      rw [Array.toList_modify]
      rfl
    unfold updated
    rw [hobjects]
    rfl

instance (r : Ref) : Drafted (object r : Build Object) where
  run d := (d.objects[r.index]?.getD default, d)
  sound d h := by
    refine ⟨?_, h⟩
    change EStateM.Result.ok (d.state.1.objects[r.index]?.getD default) d.state = _
    rw [← Array.getElem?_toList]
    rfl

/-- What a loop does on a draft. -/
def loop {f : α → β → Build (ForInStep β)} (F : ∀ a b, Drafted (f a b)) : List α → β → Draft → β × Draft
  | [], b, d => (b, d)
  | a :: as, b, d =>
    match (F a b).run d with
    | (.done b, d) => (b, d)
    | (.yield b, d) => loop F as b d

theorem loop_sound {f : α → β → Build (ForInStep β)} (F : ∀ a b, Drafted (f a b)) (as : List α) :
    ∀ (b : β) (d : Draft), d.IsSound → forIn as b f d.state = .ok (loop F as b d).1 (loop F as b d).2.state ∧
      (loop F as b d).2.IsSound := by
  induction as with
  | nil => exact fun b d h => ⟨rfl, h⟩
  | cons a as ih =>
      intro b d h
      obtain ⟨hf, hd⟩ := (F a b).sound d h
      rw [List.forIn_cons, bind_ok hf]
      unfold loop
      rcases hrun : (F a b).run d with ⟨step, d'⟩
      rw [hrun] at hd
      cases step with
      | done b => exact ⟨rfl, hd⟩
      | yield b => exact ih b d' hd

instance Drafted.each (as : List α) (b : β) (f : α → β → Build (ForInStep β)) [F : ∀ a b, Drafted (f a b)] :
    Drafted (forIn as b f) where
  run d := loop F as b d
  sound d h := loop_sound F as b d h

/-! ## The first heap -/

instance (r : Ref) (k : PropertyKey) (p : Property) : Drafted (putProperty r k p : Build Unit) :=
  inferInstanceAs (Drafted (updateObject r _))

instance : Drafted (newObject : Build Ref) := inferInstanceAs (Drafted (allocate _))

instance (name : String) (length : Nat) (f : Native) : Drafted (Realm.native name length f) where
  run d := Drafted.run (allocate (furnished (name, length, f))) d
  sound d h := by
    rw [native_eq]
    exact Drafted.sound d h

instance (r : Ref) (rows : List Row) : Drafted (install r rows) := by
  unfold install
  infer_instance

instance (r : Ref) (k : PropertyKey) (name : String) (f : Native) : Drafted (installGetter r k name f) := by
  unfold installGetter
  infer_instance

instance (r : Ref) (name : String) : Drafted (tag r name) := by
  unfold tag
  infer_instance

instance (name : String) (length : Nat) (k : ConstructorKind) (proto : Ref) :
    Drafted (Realm.constructor name length k proto) := by
  unfold Realm.constructor
  infer_instance

instance (r : Ref) : Drafted (installSpecies r) := by
  unfold installSpecies
  infer_instance

instance (r : Ref) (name : String) (length : Nat) : Drafted (describeFunction r name length) := by
  unfold describeFunction
  infer_instance

instance (r : Ref) (constants : List (String × Float)) : Drafted (installConstants r constants) := by
  unfold installConstants
  infer_instance

instance : Drafted makeBasics := by
  unfold makeBasics
  dsimp only
  repeat' first
    | with_reducible refine @Drafted.bind _ _ _ _ ?_ fun _ => ?_
    | with_reducible refine @Drafted.each _ _ _ _ _ fun _ _ => ?_
    | infer_instance

instance : Drafted makeErrors := by
  unfold makeErrors
  dsimp only
  repeat' first
    | with_reducible refine @Drafted.bind _ _ _ _ ?_ fun _ => ?_
    | with_reducible refine @Drafted.each _ _ _ _ _ fun _ _ => ?_
    | infer_instance
    | split

instance : Drafted makeArrays := by
  unfold makeArrays
  dsimp only
  repeat' first
    | with_reducible refine @Drafted.bind _ _ _ _ ?_ fun _ => ?_
    | with_reducible refine @Drafted.each _ _ _ _ _ fun _ _ => ?_
    | infer_instance

instance : Drafted makeStrings := by
  unfold makeStrings
  dsimp only
  repeat' first
    | with_reducible refine @Drafted.bind _ _ _ _ ?_ fun _ => ?_
    | with_reducible refine @Drafted.each _ _ _ _ _ fun _ _ => ?_
    | infer_instance
    | split

instance : Drafted makeNumbers := by
  unfold makeNumbers
  dsimp only
  repeat' first
    | with_reducible refine @Drafted.bind _ _ _ _ ?_ fun _ => ?_
    | with_reducible refine @Drafted.each _ _ _ _ _ fun _ _ => ?_
    | infer_instance
    | split

instance : Drafted makeSymbols := by
  unfold makeSymbols
  dsimp only
  repeat' first
    | with_reducible refine @Drafted.bind _ _ _ _ ?_ fun _ => ?_
    | with_reducible refine @Drafted.each _ _ _ _ _ fun _ _ => ?_
    | infer_instance

instance : Drafted makeNamespaces := by
  unfold makeNamespaces
  dsimp only
  repeat' first
    | with_reducible refine @Drafted.bind _ _ _ _ ?_ fun _ => ?_
    | with_reducible refine @Drafted.each _ _ _ _ _ fun _ _ => ?_
    | infer_instance

instance : Drafted makeCollections := by
  unfold makeCollections
  dsimp only
  repeat' first
    | with_reducible refine @Drafted.bind _ _ _ _ ?_ fun _ => ?_
    | with_reducible refine @Drafted.each _ _ _ _ _ fun _ _ => ?_
    | infer_instance

instance : Drafted makeGenerators := by
  unfold makeGenerators
  dsimp only
  repeat' first
    | with_reducible refine @Drafted.bind _ _ _ _ ?_ fun _ => ?_
    | with_reducible refine @Drafted.each _ _ _ _ _ fun _ _ => ?_
    | infer_instance

instance : Drafted makeOthers := by
  unfold makeOthers
  dsimp only
  repeat' first
    | with_reducible refine @Drafted.bind _ _ _ _ ?_ fun _ => ?_
    | with_reducible refine @Drafted.each _ _ _ _ _ fun _ _ => ?_
    | infer_instance

instance : Drafted makeViews := by
  unfold makeViews
  dsimp only
  repeat' first
    | with_reducible refine @Drafted.bind _ _ _ _ ?_ fun _ => ?_
    | with_reducible refine @Drafted.each _ _ _ _ _ fun _ _ => ?_
    | infer_instance

instance : Drafted makeGlobals := by
  unfold makeGlobals
  dsimp only
  repeat' first
    | with_reducible refine @Drafted.bind _ _ _ _ ?_ fun _ => ?_
    | with_reducible refine @Drafted.each _ _ _ _ _ fun _ _ => ?_
    | infer_instance

instance : Drafted makeAll := by
  unfold makeAll
  dsimp only
  repeat' first
    | with_reducible refine @Drafted.bind _ _ _ _ ?_ fun _ => ?_
    | with_reducible refine @Drafted.each _ _ _ _ _ fun _ _ => ?_
    | infer_instance

/-- The first heap before its objects have properties. -/
def firstDraft : Draft := ⟨bareObjects.size, bareObjects.toList.reverse, []⟩

theorem state_firstDraft : firstDraft.state = (bareMachine, ()) := by
  have hobjects : firstDraft.objects = bareObjects.toList := by
    rw [Draft.objects_eq]
    unfold firstDraft
    rw [List.reverse_reverse]
    apply List.ext_getElem
    · simp
    · intro i _ _
      simp [Draft.changed]
  unfold Draft.state
  rw [hobjects]
  rfl

theorem isSound_firstDraft : firstDraft.IsSound :=
  ⟨by simp [firstDraft], fun c hc => nomatch hc⟩

/-- The machine that every script starts with, made on a draft. -/
theorem machine_eq : Realm.machine = (Drafted.run makeAll firstDraft).2.state.1 := by
  obtain ⟨hrun, -⟩ := Drafted.sound (x := makeAll) firstDraft isSound_firstDraft
  rw [state_firstDraft] at hrun
  rw [Realm.machine, EStateM.run, hrun]
  rfl

end ScriptHost.Proofs.FirstHeap
