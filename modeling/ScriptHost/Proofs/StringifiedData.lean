import ScriptHost.Proofs.DataValues
import ScriptHost.Proofs.NewObjects
import ScriptHost.Proofs.PropertyChains
import ScriptHost.Proofs.QuotedTexts

/-!
# What the engine writes for data

A tree of lists and records on the heap whose leaves are texts and constants is written as one text.
The text crosses the boundary, and the host reads the tree back: strings intact, and members in the
engine's order.
-/

namespace ScriptHost.Proofs.StringifiedData

open Json Script Script.Eval
open Script.Library.JsonText (Writing quoted replaced)
open ScriptHost.Proofs.DataTokens (joinWith_cons)
open ScriptHost.Proofs.DataValues
open ScriptHost.Proofs.Evaluation
open ScriptHost.Proofs.IntactTexts
open ScriptHost.Proofs.NewObjects
open ScriptHost.Proofs.PropertyChains
open ScriptHost.Proofs.QuotedTexts
open ScriptHost.Proofs.ReadScalars
open ScriptHost.Proofs.RoundTrip
open ScriptHost.Proofs.Scanning

variable {σ α β : Type} {s s' : Machine × σ} {I : Interp σ} {m m' : Machine} {r : Ref} {v : Value}
  {d : HostValue} {t : Text}

/-! ## The text of data -/

/-- Texts with commas between them in a pair of brackets. -/
def enclosing (opening closing : Char) (ts : List Text) : Text :=
  CodePoint.ofChar opening :: (Text.joinWith "," ts ++ [CodePoint.ofChar closing])

mutual

/-- The text that the engine writes for data. -/
def stringified : HostValue → Text
  | .bool b => if b then "true" else "false"
  | .str t => quotedText t
  | .list xs => enclosing '[' ']' (stringifiedItems xs)
  | .dict es => enclosing '\x7b' '\x7d' (stringifiedEntries es)
  | _ => "null"

/-- The texts of the items of a list. -/
def stringifiedItems : List HostValue → List Text
  | [] => []
  | v :: rest => stringified v :: stringifiedItems rest

/-- The texts of the entries of a dictionary. -/
def stringifiedEntries : List (HostValue × HostValue) → List Text
  | [] => []
  | (k, v) :: rest =>
    (quotedText (k.text?.getD []) ++ CodePoint.ofChar ':' :: stringified v) :: stringifiedEntries rest

end

theorem stringifiedItems_eq (xs : List HostValue) : stringifiedItems xs = xs.map stringified := by
  induction xs with
  | nil => rfl
  | cons v xs ih =>
      unfold stringifiedItems
      rw [ih, List.map_cons]

theorem stringifiedEntries_eq (es : List (HostValue × HostValue)) : stringifiedEntries es =
    es.map fun e => quotedText (e.1.text?.getD []) ++ CodePoint.ofChar ':' :: stringified e.2 := by
  induction es with
  | nil => rfl
  | cons e es ih =>
      unfold stringifiedEntries
      rw [ih, List.map_cons]

/-- Data that the engine writes without loss: constants and texts whose pairs of surrogates are
joined, in lists, and in dictionaries under such texts. -/
inductive IsTextual : HostValue → Prop
  | none : IsTextual .none
  | bool (b : Bool) : IsTextual (.bool b)
  | str {t : Text} (h : IsApart t) : IsTextual (.str t)
  | list {xs : List HostValue} (h : ∀ v ∈ xs, IsTextual v) : IsTextual (.list xs)
  | dict {es : List (HostValue × HostValue)} (hkeys : ∀ e ∈ es, ∃ t, e.1 = .str t ∧ IsApart t)
    (h : ∀ e ∈ es, IsTextual e.2) : IsTextual (.dict es)

/-! ## Across the boundary -/

theorem isIntact_joinWith {ts : List Text} (h : ∀ t ∈ ts, IsIntact t) :
    IsIntact (Text.joinWith "," ts) := by
  induction ts with
  | nil => exact isIntact_of_plain (by simp [Text.joinWith])
  | cons t ts ih =>
      have hcomma : IsIntact (",": Text) := isIntact_of_plain (forall_of_all (by decide))
      rw [joinWith_cons]
      refine (h t List.mem_cons_self).append ?_
      split
      · exact isIntact_of_plain (by simp)
      · exact hcomma.append (ih fun u hu => h u (List.mem_cons_of_mem t hu))

theorem isIntact_enclosing {opening closing : Char} {ts : List Text}
    (ho : IsIntact [CodePoint.ofChar opening]) (hc : IsIntact [CodePoint.ofChar closing])
    (h : ∀ t ∈ ts, IsIntact t) : IsIntact (enclosing opening closing ts) :=
  ho.append ((isIntact_joinWith h).append hc)

/-- What the engine writes for data crosses the boundary. -/
theorem isIntact_stringified (h : IsTextual d) : IsIntact (stringified d) := by
  have hmark : ∀ a ∈ ['[', ']', '\x7b', '\x7d', ':'], IsIntact [CodePoint.ofChar a] := by
    intro a ha
    have hall : ∀ a ∈ ['[', ']', '\x7b', '\x7d', ':'], 0 < a.toNat ∧ a.toNat < 128 :=
      forall_of_all (by decide)
    exact isIntact_of_plain (by simpa using hall a ha)
  induction h with
  | none => exact isIntact_of_plain (forall_of_all (by decide))
  | bool b => cases b with
    | false => exact isIntact_of_plain (forall_of_all (by decide))
    | true => exact isIntact_of_plain (forall_of_all (by decide))
  | str => exact isIntact_quotedText _
  | list h ih =>
      refine isIntact_enclosing (hmark _ (by decide)) (hmark _ (by decide)) fun t ht => ?_
      rw [stringifiedItems_eq] at ht
      obtain ⟨v, hv, rfl⟩ := List.mem_map.mp ht
      exact ih v hv
  | dict hkeys h ih =>
      refine isIntact_enclosing (hmark _ (by decide)) (hmark _ (by decide)) fun t ht => ?_
      rw [stringifiedEntries_eq] at ht
      obtain ⟨e, he, rfl⟩ := List.mem_map.mp ht
      exact (isIntact_quotedText _).append ((hmark ':' (by decide)).append (ih e he))

/-! ## Read by the host -/

theorem isGap_nil : IsGap [] := .inl rfl

theorem paired_of_isApart (h : IsApart t) : paired t = t := by
  induction t with
  | nil => rfl
  | cons c t ih =>
      have hrest := ih h.of_cons
      cases t with
      | nil => rfl
      | cons d t =>
          have hpair := (List.isChain_cons_cons.mp h).1
          rw [paired_apart t (by simp [hpair]), hrest]

theorem isReadAsKey_quoted (h : IsApart t) : IsReadAsKey (quotedText t) t := by
  refine ⟨⟨_, rfl⟩, fun position rest => ?_⟩
  obtain ⟨next, hread⟩ := readString_quoted h position rest
  refine ⟨next, ?_⟩
  have htext : (quotedText t).tail ++ rest = t.flatMap pointText ++ CodePoint.ofChar '"' :: rest := by
    simp [quotedText]
  rw [htext, hread]

theorem receivedKey_str (h : IsApart t) : receivedKey (.str t) = t :=
  (receivedKey_eq rfl).trans (paired_of_isApart h)

theorem isReadAs_enclosedItems {xs : List HostValue}
    (h : ∀ v ∈ xs, IsReadAs (stringified v) (received v)) :
    IsReadAs (enclosing '[' ']' (stringifiedItems xs)) (.list (receivedItems xs)) := by
  have hitems : xs ≠ [] → AreReadAs (Text.joinWith "," (stringifiedItems xs)) (receivedItems xs) := by
    induction xs with
    | nil => exact fun hne => absurd rfl hne
    | cons v xs ih =>
        intro _
        have hfirst := h v List.mem_cons_self
        unfold stringifiedItems receivedItems
        rw [joinWith_cons]
        cases xs with
        | nil => simpa [stringifiedItems, receivedItems] using areReadAs_one hfirst
        | cons w xs =>
            have hmore := ih (fun w hw => h w (List.mem_cons_of_mem v hw)) (by simp)
            exact areReadAs_cons hfirst hmore isGap_nil
  cases xs with
  | nil => exact isReadAs_emptyList
  | cons v xs => exact isReadAs_list (hitems (by simp))

theorem isReadAs_enclosedEntries {es : List (HostValue × HostValue)}
    (hkeys : ∀ e ∈ es, ∃ t, e.1 = .str t ∧ IsApart t)
    (h : ∀ e ∈ es, IsReadAs (stringified e.2) (received e.2)) :
    IsReadAs (enclosing '\x7b' '\x7d' (stringifiedEntries es)) (received (.dict es)) := by
  have hentries : es ≠ [] → EntriesReadAs (Text.joinWith "," (stringifiedEntries es)) es := by
    induction es with
    | nil => exact fun hne => absurd rfl hne
    | cons e es ih =>
        intro _
        obtain ⟨k, v⟩ := e
        obtain ⟨t, rfl, ht⟩ := hkeys _ List.mem_cons_self
        have hfirst := h _ List.mem_cons_self
        have hq : IsReadAsKey (quotedText t) (receivedKey (.str t)) := by
          rw [receivedKey_str ht]
          exact isReadAsKey_quoted ht
        unfold stringifiedEntries
        rw [joinWith_cons]
        cases es with
        | nil =>
            have hone := entriesReadAs_one hq isGap_nil hfirst
            simpa [stringifiedEntries, HostValue.text?] using hone
        | cons e es =>
            have hmore := ih (fun e he => hkeys e (List.mem_cons_of_mem _ he))
              (fun e he => h e (List.mem_cons_of_mem _ he)) (by simp)
            exact entriesReadAs_cons hq isGap_nil hfirst hmore
  cases es with
  | nil => exact isReadAs_emptyDict
  | cons e es => exact isReadAs_dict (hentries (by simp))

/-- The host reads what the engine writes for data. -/
theorem isReadAs_stringified (h : IsTextual d) : IsReadAs (stringified d) (received d) := by
  induction h with
  | none => exact isReadAs_word (w := ("null", .none)) (by simp [words])
  | bool b =>
      cases b with
      | false => exact isReadAs_word (w := ("false", .bool false)) (by simp [words])
      | true => exact isReadAs_word (w := ("true", .bool true)) (by simp [words])
  | str h =>
      unfold received
      rw [paired_of_isApart h]
      exact isReadAs_quoted h
  | list h ih => exact isReadAs_enclosedItems ih
  | dict hkeys h ih => exact isReadAs_enclosedEntries hkeys ih

theorem read_stringified (h : IsTextual d) : Json.read (stringified d) = .ok (received d) := by
  refine read_of_isReadAs (isReadAs_stringified h) fun c hc => ?_
  cases h with
  | bool b => cases b with
    | false => cases hc; decide
    | true => cases hc; decide
  | _ => cases hc; decide

end ScriptHost.Proofs.StringifiedData
