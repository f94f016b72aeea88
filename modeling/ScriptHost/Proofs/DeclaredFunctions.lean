import ScriptHost.Proofs.LocatedFunctions

/-!
# Functions that are declared and listed

A function that a script declares at its top level is a property of the global object, or the value of a
lexical variable.  The first are all listed.  The second are listed where the text of the script has the
name right after its declaring word, at a place that no earlier find reaches over; a further declarator of
the same declaration is not found.
-/

namespace ScriptHost.Proofs.DeclaredFunctions

open Script ScriptEngine Interpreter
open LexicalScan
open ScriptHost.Proofs.Bindings
open ScriptHost.Proofs.DeclaredNames
open ScriptHost.Proofs.FunctionListings
open ScriptHost.Proofs.GlobalValues
open ScriptHost.Proofs.LocatedFunctions

variable {s : Machine × Host} {t text : Text} {n : Name} {r : Ref}

/-- Listing runs through where nothing of the script has to run for it.  Listed are then all keys of the
global object with a function, and all names of functions that are declared where the scan comes to; and
nothing else is listed than such keys, and functions under names that have a declaring word right before
them. -/
theorem declared_functions_are_listed (h : IsListable s) (htext : s.2.script.text? = some text) :
    ∃ names s', interpreter.functionNames s = .ok names s' ∧
      (∀ n r, IsHeldFor s n r → n.toText ∈ names) ∧
      (∀ t r, IsFunction s t r → IsClearlyDeclaredIn text t → t ∈ names) ∧
      ∀ t ∈ names, (∃ n r, IsHeldFor s n r ∧ n.toText = t) ∨
        ∃ r, IsFunction s t r ∧ IsDeclaredIn text t := by
  obtain ⟨names, s', hrun, -, hmem⟩ := functionNames_run h
  have hlisted {t : Text} : t ∈ names ↔ ∃ r, ListedFor s t r := (hmem t).trans isListed_iff
  have hscript : s.2.script.text?.getD [] = text := by rw [htext, Option.getD_some]
  refine ⟨names, s', hrun, fun n r hheld => hlisted.mpr ⟨r, .held hheld⟩, fun t r hfunction hclear => ?_,
    fun t ht => ?_⟩
  · refine hlisted.mpr ⟨r, .bound ⟨hfunction, ?_⟩⟩
    rw [hscript]
    exact mem_names hclear
  · obtain ⟨r, hfor⟩ := hlisted.mp ht
    cases hfor with
    | held hheld => exact .inl ⟨_, r, hheld, rfl⟩
    | bound hbound =>
        have hscanned := hbound.scanned
        rw [hscript] at hscanned
        exact .inr ⟨r, hbound.toIsFunction, of_mem_names hscanned⟩

/-- A script with functions as the values of a second declarator, of a function declaration and of the
one declarator of a declaration. -/
def declaringScript : Text :=
  Text.ofString "let a = 1, f = function () \x7b\x7d; function g() \x7b\x7d" ++ Text.ofString "; " ++
    Text.ofString "const h = function () \x7b\x7d"

/-- Whether the three functions are there after the script, and no key of the global object has the name
of the first. -/
def showsMissed (s : Machine × Host) : Bool :=
  isListable s ["a", "h"] && s.2.script.text? == some declaringScript &&
    (function? s "f").isSome && (heldFor? s (Utf16.ofText "g")).isSome && (function? s "h").isSome &&
    (ownNames s.1).all fun n => n.toText != "f"

/-- The function of a second declarator is not listed. -/
theorem second_declarator_is_missed : ∃ s names s' r, IsListable s ∧
    interpreter.functionNames s = .ok names s' ∧
    Text.ofString "g" ∈ names ∧ Text.ofString "h" ∈ names ∧
    IsFunction s "f" r ∧ Text.ofString "f" ∉ names := by
  have hshows : showsMissed (listedAfter declaringScript) = true := by decide +kernel
  generalize listedAfter declaringScript = s at hshows
  simp only [showsMissed, Bool.and_eq_true, beq_iff_eq, List.all_eq_true, bne_iff_ne] at hshows
  obtain ⟨⟨⟨⟨⟨hcan, hscript⟩, hmissed⟩, hheld⟩, hbound⟩, hfree⟩ := hshows
  have hdeclared : declaredNames declaringScript = [Text.ofString "a", Text.ofString "h"] := by
    simp only [declaredNames, declared?, nameAfterWord?, isNamePart_eq]
    decide +kernel
  have hdeclares : Declares (Text.ofString "const h = function () \x7b\x7d") "h"
      " = function () \x7b\x7d" := by
    refine declared?_iff.mp ?_
    simp only [declared?, nameAfterWord?, isNamePart_eq]
    decide +kernel
  have hlistable : IsListable s := isListable_of hcan fun t ht => by
    rw [hscript] at ht
    rw [← hdeclared]
    exact mem_declaredNames (of_mem_names ht)
  obtain ⟨r, hr⟩ := Option.isSome_iff_exists.mp hmissed
  obtain ⟨g, hg⟩ := Option.isSome_iff_exists.mp hheld
  obtain ⟨h, hh⟩ := Option.isSome_iff_exists.mp hbound
  obtain ⟨names, s', hrun, hkeys, hvariables, honly⟩ := declared_functions_are_listed hlistable hscript
  have hback : (Utf16.ofText "g").toText = Text.ofString "g" := by decide
  refine ⟨s, names, s', r, hlistable, hrun, hback ▸ hkeys _ _ (isHeldFor_of hg),
    hvariables _ _ (isFunction_of hh) (isClearlyDeclaredIn_after_statement hdeclares),
    isFunction_of hr, fun hf => ?_⟩
  rcases honly _ hf with ⟨n, q, hkey, heq⟩ | ⟨q, -, hdeclaredIn⟩
  · exact hfree n hkey.own heq
  · have hmem := mem_declaredNames hdeclaredIn
    rw [hdeclared] at hmem
    exact absurd hmem (by decide)

end ScriptHost.Proofs.DeclaredFunctions
