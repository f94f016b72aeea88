import ScriptHost.Instance.ScriptEngine
import ScriptHost.Proofs.DataScripts
import ScriptHost.Proofs.DataValues
import ScriptHost.Proofs.ScriptRuns

/-!
# The arguments of calls

The arguments of a call by name go to the engine as a script: one list of their images, in
parentheses.  The engine makes that list of it, and nothing but the list and what is in it is new.
-/

namespace ScriptHost.Proofs.CallArguments

open Script Script.Eval
open ScriptHost.Proofs.DataScripts
open ScriptHost.Proofs.DataTexts
open ScriptHost.Proofs.DataTrees
open ScriptHost.Proofs.DataValues
open ScriptHost.Proofs.Evaluation
open ScriptHost.Proofs.ScriptRuns

variable {σ : Type} {s : Machine × σ} {I : Interp σ} {host : Engine.HostCall σ} {site : Site}
  {n : Nat} {os : List Object} {v : Value} {x : Specials}

/-- In a script, the numbers that have names are where they are outside. -/
theorem HasNumbers.inScript (h : HasNumbers s.1 x) : HasNumbers (inScript s).1 x :=
  ⟨⟨h.nan.outermost, h.nan.direct, h.nan.property⟩,
    ⟨h.infinity.outermost, h.infinity.direct, h.infinity.property⟩⟩

/-- A script that is plain data in parentheses gives the value of the data, and nothing but the
objects that it needs is new. -/
theorem runScript_datum {v : HostValue} {t : Text} (hv : IsDatum v)
    (ht : Json.write Json.wire v = .ok t) (hn : levels v ≤ n)
    (h : IsFinite v ∨ HasNumbers s.1 x) :
    Statement.runScript (Engine.interp host (n + 1)) (parenthesized t) s =
      .ok (placed x s.1.objects.size v).1 (withObjects (placed x s.1.objects.size v).2 s) :=
  runScript_evaluated (parse_datum hv ht) (evaluate_tree rfl v hn
    ⟨fun f hf => by cases hf; rfl, h.imp_right HasNumbers.inScript⟩)

/-! ## Lists for calls -/

section Lists

open ScriptEngine

variable {items images : List HostValue} {t : Text} {s : Machine × Host}

/-- Plain data in parentheses, as the engine evaluates it. -/
theorem evaluate_datum {v : HostValue} {r : Ref} (hv : IsDatum v)
    (ht : Json.write Json.wire v = .ok t) (hlevels : levels v < Engine.nesting)
    (h : HasNumbers s.1 x) (hr : (placed x s.1.objects.size v).1 = .object r) :
    interpreter.run (parenthesized t) s =
      .ok (.handle (.object r)) (withObjects (placed x s.1.objects.size v).2 s) := by
  have hclean : IsClean (parenthesized t) := by
    have hopen : IsClean (Text.ofString "(") := fun c hc => by revert c; decide
    have hclose : IsClean (Text.ofString ")") := fun c hc => by revert c; decide
    exact (hopen.append (isClean_write v ht)).append hclose
  have hready : IsReady (inScript s) x (IsFinite v) :=
    ⟨fun f hf => by cases hf; rfl, .inr (HasNumbers.inScript h)⟩
  have hbound : levels v ≤ below := Nat.le_sub_one_of_lt hlevels
  have hpassed : ScriptEngine.passed (placed x s.1.objects.size v).1 = .ok (.handle (.object r)) := by
    rw [hr]
    rfl
  exact run_evaluated hclean (parse_datum hv ht) (evaluate_tree rfl v hbound hready) hpassed

/-- The list that a call is given, on a heap of a given size. -/
def listFor (x : Specials) (i : Nat) (images : List HostValue) : Ref :=
  ⟨i + (placedItems x i images).2.length⟩

/-- The state once the list that a call is given is on the heap. -/
def withList (x : Specials) (images : List HostValue) (s : Machine × σ) : Machine × σ :=
  withObjects ((placedItems x s.1.objects.size images).2 ++
    [listObject (placedItems x s.1.objects.size images).1.toArray]) s

theorem placed_list (i : Nat) :
    placed x i (.list images) = (.object (listFor x i images), (placedItems x i images).2 ++
      [listObject (placedItems x i images).1.toArray]) := by
  unfold placed
  rfl

/-- The items that a call is given come to the engine as one new list of their images. -/
theorem listOfHost_run (himages : HostValue.imageItems items = .ok images)
    (hdata : ∀ v ∈ images, IsDatum v) (ht : Json.write Json.wire (.list images) = .ok t)
    (hlevels : levels (.list images) < Engine.nesting) (h : HasNumbers s.1 x) :
    interpreter.listOfHost items s =
      .ok (.handle (.object (listFor x s.1.objects.size images))) (withList x images s) := by
  have hliteral : HostValue.literal (.list items) = .ok t := by
    unfold HostValue.literal HostValue.image
    rw [himages]
    exact ht
  unfold Interpreter.listOfHost
  rw [hliteral]
  have hrun := evaluate_datum (r := listFor x s.1.objects.size images) (.list hdata) ht hlevels h
    (by rw [placed_list])
  rw [placed_list] at hrun
  exact hrun

theorem objectAt_list (images : List HostValue) (s : Machine × σ) :
    objectAt (withList x images s).1 (listFor x s.1.objects.size images) =
      listObject (placedItems x s.1.objects.size images).1.toArray := by
  unfold withList
  rw [← withObjects_withObjects]
  unfold listFor
  rw [← size_withObjects]
  exact objectAt_new _ _ _

end Lists

end ScriptHost.Proofs.CallArguments
