import ScriptHost.Builtin.Regex
import ScriptHost.Proofs.ImagedItems
import ScriptHost.Proofs.MatchedSpans
import ScriptHost.Proofs.ScannedStrings

/-!
# The methods of the regex module agree

What a pattern finds in a text, the parts that it splits the text into and the text with its matches replaced all
tell of the same matches.
-/

namespace ScriptHost.Proofs.RegexMethods

open Pattern RegexMethod
open ScriptHost.Proofs.ImagedItems (bind_eq_ok)
open ScriptHost.Proofs.MatchedSpans
open ScriptHost.Proofs.ScannedStrings (eq_of_ascii)

variable {pattern text replacement : Text} {p : Compiled}

/-! ## Patterns and texts -/

/-- A part as scripts see it: a text, or nothing where a group has matched nothing. -/
def partValue : Option Text → HostValue
  | some t => .str t
  | none => .none

theorem isText_of_parse {t : Text} {isText : Bool} (hp : parse t isText = .ok p) : p.isText = isText := by
  unfold parse at hp
  obtain ⟨source, -, hp⟩ := bind_eq_ok.mp hp
  obtain ⟨⟨nodes, r⟩, -, hp⟩ := bind_eq_ok.mp hp
  obtain ⟨-, -, hp⟩ := bind_eq_ok.mp hp
  cases hp
  rfl

/-- Patterns that are texts are for texts. -/
theorem isText_of_compile (hp : compile (.str pattern) = .ok p) : p.isText = true := by
  unfold compile at hp
  obtain ⟨-, -, hp⟩ := bind_eq_ok.mp hp
  dsimp only [Subject.ofValue?] at hp
  split at hp
  · rename_i hparse
    cases hp
    exact isText_of_parse hparse
  · cases hp

/-- The subject that a text is. -/
def textSubject (text : Text) : Subject := { points := text.toArray, isText := true }

theorem subjectFor_text (hp : compile (.str pattern) = .ok p) (text : Text) :
    subjectFor p (.str text) = .ok (textSubject text) := by
  unfold subjectFor
  simp [Subject.ofValue?, isText_of_compile hp, textSubject]

@[simp]
theorem textSubject_points (text : Text) : (textSubject text).points = text.toArray := rfl

@[simp]
theorem textSubject_value (text t : Text) : (textSubject text).value t = .str t := rfl

@[simp]
theorem textSubject_optional (text : Text) : (textSubject text).optional = partValue := by
  funext part
  cases part with
  | none => rfl
  | some t => rfl

theorem slice_all (text : Text) : slice text.toArray 0 text.toArray.size = text := by
  rw [slice, Array.extract_size, List.toList_toArray]

/-! ## Replacements -/

/-- A text without backslashes stands for itself. -/
theorem replacementFor_text (hp : compile (.str pattern) = .ok p)
    (h : ∀ c ∈ replacement, c ≠ CodePoint.ofChar '\\') :
    replacementFor p (.str replacement) = .ok (.pieces [.literal replacement]) := by
  have hplain : (replacement.any (·.ascii == '\\')) = false := by
    rw [List.any_eq_false]
    intro c hc hascii
    exact h c hc (eq_of_ascii (by simpa using hascii) (by decide))
  unfold replacementFor
  simp [Subject.ofValue?, hplain, isText_of_compile hp, bind, Except.bind, pure, Except.pure]

theorem replaceAll_literal (p : Compiled) (s : Array CodePoint) (t : Text) :
    p.replaceAll s [.literal t] = Text.joinWith t (gaps s 0 (p.allMatches s)) := by
  have hexpand : (fun m : Match => m.expand s [.literal t]) = fun _ => t := by
    funext m
    simp [Match.expand]
  rw [Compiled.replaceAll, hexpand, replaceSpans_gaps]

/-! ## Calls -/

section
variable (hp : compile (.str pattern) = .ok p) (text : Text)
include hp

theorem test_text : test.call [.str pattern, .str text] =
    .ok (.bool (p.search? text.toArray 0 false).isSome) := by
  simp [call, parameters, apply, hp, subjectFor_text hp, bind, Except.bind, pure, Except.pure]

theorem find_text : find.call [.str pattern, .str text] =
    .ok (partValue ((p.search? text.toArray 0 false).map (·.text text.toArray))) := by
  simp [call, parameters, apply, hp, subjectFor_text hp, bind, Except.bind, pure, Except.pure]

theorem findAll_text : findAll.call [.str pattern, .str text] =
    .ok (.list (((p.allMatches text.toArray).map (·.text text.toArray)).map .str)) := by
  simp [call, parameters, apply, hp, subjectFor_text hp, bind, Except.bind, pure, Except.pure]

theorem groups_text : groups.call [.str pattern, .str text] =
    .ok (((p.search? text.toArray 0 false).map fun m =>
      HostValue.list ((m.groupTexts text.toArray).map partValue)).getD .none) := by
  cases hm : p.search? text.toArray 0 false with
  | none => simp [call, parameters, apply, hp, hm, subjectFor_text hp, bind, Except.bind, pure, Except.pure]
  | some m => simp [call, parameters, apply, hp, hm, subjectFor_text hp, bind, Except.bind, pure, Except.pure]

theorem split_text : split.call [.str pattern, .str text] =
    .ok (.list ((p.splitAll text.toArray).map partValue)) := by
  simp [call, parameters, apply, hp, subjectFor_text hp, bind, Except.bind, pure, Except.pure]

theorem replace_text (h : ∀ c ∈ replacement, c ≠ CodePoint.ofChar '\\') :
    replace.call [.str pattern, .str text, .str replacement] =
      .ok (.str (Text.joinWith replacement (gaps text.toArray 0 (p.allMatches text.toArray)))) := by
  simp [call, parameters, apply, hp, replacementFor_text hp h, subjectFor_text hp, replaced, replaceAll_literal,
    bind, Except.bind]

end

/-! ## What the methods tell -/

/-- The parts right after the first one are what the groups of the first match captured. -/
theorem splitAll_groups {s : Array CodePoint} {m : Match} {ms : List Match} (h : p.allMatches s = m :: ms) :
    ((p.splitAll s).drop 1).take p.groups = m.groupTexts s := by
  have horder := allMatches_inOrder p s
  rw [h] at horder
  cases horder with
  | more hm _ =>
      rw [Compiled.splitAll, h, splitSpans, List.drop_one, List.tail_cons, ← length_groupTexts hm, List.take_left]

/-- What the methods tell of a text: the texts `found` that the matches cover, the texts `kept` between them, and
the `parts` that the text is split into. -/
structure Agreement (p : Compiled) (pattern text : Text) (found kept : List Text) (parts : List (Option Text)) :
    Prop where
  findAll : findAll.call [.str pattern, .str text] = .ok (.list (found.map .str))
  split : split.call [.str pattern, .str text] = .ok (.list (parts.map partValue))
  /-- The pattern is found if it has a match, -/
  test : test.call [.str pattern, .str text] = .ok (.bool (decide (found ≠ [])))
  /-- the first match is what is found, -/
  find : find.call [.str pattern, .str text] = .ok (partValue found.head?)
  /-- and what its groups captured are the parts after the first one. -/
  groups : groups.call [.str pattern, .str text] =
    .ok (if found = [] then .none else .list (((parts.drop 1).take p.groups).map partValue))
  length_parts : parts.length = 1 + found.length * (p.groups + 1)
  length_kept : kept.length = found.length + 1
  /-- What is kept stands among the parts at equal distances, -/
  kept_in_parts : ∀ i, parts[i * (p.groups + 1)]? = kept[i]?.map some
  /-- makes up the text with the matches, -/
  whole : interleaved kept found = text
  /-- and makes up the text after a replacement with the replacements. -/
  replace : ∀ replacement : Text, (∀ c ∈ replacement, c ≠ CodePoint.ofChar '\\') →
    replace.call [.str pattern, .str text, .str replacement] = .ok (.str (Text.joinWith replacement kept))

/-- For every pattern and every text, what the methods tell is about the same matches. -/
theorem methods_agree (hp : compile (.str pattern) = .ok p) (text : Text) :
    ∃ (found kept : List Text) (parts : List (Option Text)), Agreement p pattern text found kept parts := by
  have horder := allMatches_inOrder p text.toArray
  have hhead := (allMatches_eq p text.toArray).2
  refine ⟨(p.allMatches text.toArray).map (·.text text.toArray), gaps text.toArray 0 (p.allMatches text.toArray),
    p.splitAll text.toArray, ?_⟩
  constructor
  case findAll => exact findAll_text hp text
  case split => exact split_text hp text
  case test =>
    rw [test_text hp, ← hhead]
    cases p.allMatches text.toArray with
    | nil => rfl
    | cons m ms => rfl
  case find => rw [find_text hp, ← hhead, List.head?_map]
  case groups =>
    rw [groups_text hp, ← hhead]
    cases hfound : p.allMatches text.toArray with
    | nil => rfl
    | cons m ms =>
        rw [splitAll_groups hfound]
        rfl
  case length_parts => rw [List.length_map, Compiled.splitAll, length_splitSpans horder]
  case length_kept => rw [List.length_map, length_gaps]
  case kept_in_parts =>
    intro i
    exact splitSpans_gap horder i
  case whole => rw [interleaved_gaps horder, slice_all]
  case replace =>
    intro replacement hplain
    exact replace_text hp text hplain

/-- A pattern with a group, in a text where the group takes no part in the first match. -/
theorem choice_methods_agree : ∃ p, compile (.str (Text.ofString "(a)|b")) = .ok p ∧ p.groups = 1 ∧
    (p.search? (Text.ofString "xbya").toArray 0 false).isSome = true ∧
    ∃ (found kept : List Text) (parts : List (Option Text)),
      Agreement p (Text.ofString "(a)|b") (Text.ofString "xbya") found kept parts := by
  have hgroups : (match compile (.str (Text.ofString "(a)|b")) with
    | .ok p => p.groups == 1 && (p.search? (Text.ofString "xbya").toArray 0 false).isSome
    | .error _ => false) = true := by decide +kernel
  split at hgroups
  · rename_i p hp
    rw [Bool.and_eq_true, beq_iff_eq] at hgroups
    exact ⟨p, hp, hgroups.1, hgroups.2, methods_agree hp _⟩
  · cases hgroups

end ScriptHost.Proofs.RegexMethods
