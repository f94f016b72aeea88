import ScriptHost.CommandLine.Program
import ScriptHost.Proofs.NormalForms
import ScriptHost.Proofs.StringifiedData

/-!
# Arguments of the program are decoded to what they were

The literal of a tree of data, given to the program as an argument, is decoded to the tree: it is JSON
text, so the text itself is never taken for the value.  Arguments are decoded one by one.
-/

namespace ScriptHost.Proofs.DecodedArguments

open CommandLine HostValue Json
open ScriptHost.Proofs.DataTexts
open ScriptHost.Proofs.NormalForms
open ScriptHost.Proofs.QuotedTexts (IsApart)
open ScriptHost.Proofs.ReadScalars
open ScriptHost.Proofs.RoundTrip
open ScriptHost.Proofs.StringifiedData (paired_of_isApart receivedKey_str)
open ScriptHost.Proofs.TextTrees (textEntries)

variable {v : HostValue} {vs : List HostValue}

/-- Trees of data: integers are not too long, floats are read back, no text has a pair of surrogates,
and keys are texts that stand once. -/
inductive IsArgument : HostValue → Prop
  | none : IsArgument .none
  | bool (b : Bool) : IsArgument (.bool b)
  | int {i : Int} (h : ¬IsLong i) : IsArgument (.int i)
  | float {x : Float} (h : Json.read (writeFloat x) = .ok (.float x)) : IsArgument (.float x)
  | str {t : Text} (h : IsApart t) : IsArgument (.str t)
  | list {xs : List HostValue} (h : ∀ v ∈ xs, IsArgument v) : IsArgument (.list xs)
  | dict {fields : List (Text × HostValue)} (hkeys : (fields.map (·.1)).Nodup)
    (htexts : ∀ e ∈ fields, IsApart e.1) (h : ∀ e ∈ fields, IsArgument e.2) :
    IsArgument (.dict (textEntries fields))

namespace IsArgument

theorem isData (h : IsArgument v) : v.isData = true := by
  induction h with
  | none | bool | int | float | str => rfl
  | list h ih => exact (allData_iff _).mpr ih
  | dict hkeys htexts h ih => exact allEntriesData_texts ih

theorem not_holdsLong (h : IsArgument v) : ¬HoldsLong v := by
  induction h with
  | none | bool | float | str => exact fun hlong => by cases hlong
  | int h =>
      rintro ⟨hlong⟩
      exact h hlong
  | list h ih =>
      rintro ⟨⟩
      exact ih _ ‹_› ‹_›
  | dict hkeys htexts h ih =>
      intro hlong
      cases hlong with
      | value he hvalue =>
          obtain ⟨field, hfield, rfl⟩ := List.mem_map.mp he
          exact ih field hfield hvalue

/-- A tree of data has a literal, which is what is written for the tree. -/
theorem literal_ok (h : IsArgument v) : ∃ t, v.literal = .ok t ∧ write wire v = .ok t := by
  obtain ⟨t, ht⟩ := (write_isOk v h.isData).mpr h.not_holdsLong
  refine ⟨t, ?_, ht⟩
  unfold HostValue.literal
  rw [image_of_isData v h.isData]
  exact ht

/-- A tree of data is received as itself. -/
theorem received_self (h : IsArgument v) : received v = v := by
  induction h with
  | none | bool | int => rfl
  | @float x h => exact Except.ok.inj ((read_written (v := .float x) rfl).symm.trans h)
  | str h => exact congrArg HostValue.str (paired_of_isApart h)
  | @list xs h ih =>
      have hitems : receivedItems xs = xs := by
        clear h
        induction xs with
        | nil => rfl
        | cons w xs hxs =>
            obtain ⟨hw, hrest⟩ := List.forall_mem_cons.mp ih
            unfold receivedItems
            rw [hw, hxs hrest]
      exact congrArg HostValue.list hitems
  | @dict fields hkeys htexts h ih =>
      have hreceived : ∀ e ∈ fields, receivedKey (.str e.1) = e.1 := fun e he => receivedKey_str (htexts e he)
      have hsame : (textEntries fields).map (fun e => receivedKey e.1) = fields.map (·.1) := by
        unfold textEntries
        rw [List.map_map]
        exact List.map_congr_left hreceived
      have hentries : receivedEntries [] (textEntries fields) = _ :=
        receivedEntries_new (by simpa [hsame] using hkeys)
      unfold received
      rw [hentries]
      unfold textEntries
      rw [List.nil_append, List.map_map, List.map_map]
      refine congrArg HostValue.dict (List.map_congr_left fun e he => ?_)
      exact Prod.ext (congrArg HostValue.str (hreceived e he)) (ih e he)

/-- The literal of a tree of data is decoded to the tree. -/
theorem decode_literal (h : IsArgument v) : ∃ t, v.literal = .ok t ∧ decodeArgument t = v := by
  obtain ⟨t, hliteral, hwrite⟩ := h.literal_ok
  refine ⟨t, hliteral, ?_⟩
  unfold decodeArgument
  rw [read_written hwrite, h.received_self]

end IsArgument

theorem decode_literals (h : ∀ v ∈ vs, IsArgument v) :
    ∃ raws, vs.mapM HostValue.literal = .ok raws ∧ decodeArguments raws = vs := by
  induction vs with
  | nil => exact ⟨[], rfl, rfl⟩
  | cons v vs ih =>
      obtain ⟨hv, hvs⟩ := List.forall_mem_cons.mp h
      obtain ⟨t, hliteral, hdecode⟩ := hv.decode_literal
      obtain ⟨raws, hliterals, hdecoded⟩ := ih hvs
      refine ⟨t :: raws, ?_, ?_⟩
      · rw [List.mapM_cons, hliteral, hliterals]
        rfl
      · exact congrArg₂ List.cons hdecode hdecoded

/-- The literals of trees of data are decoded to the trees; of any texts, each one is decoded in its
place, whatever the others are. -/
theorem arguments_are_decoded (h : ∀ v ∈ vs, IsArgument v) :
    (∃ raws, vs.mapM HostValue.literal = .ok raws ∧ decodeArguments raws = vs) ∧
    (∀ raws : List Text, (decodeArguments raws).length = raws.length) ∧
    ∀ (raws raws' : List Text) (i : Nat), raws[i]? = raws'[i]? →
      (decodeArguments raws)[i]? = (decodeArguments raws')[i]? := by
  refine ⟨decode_literals h, fun raws => List.length_map _, fun raws raws' i hsame => ?_⟩
  unfold decodeArguments
  rw [List.getElem?_map, List.getElem?_map, hsame]

/-- Two arguments: a dictionary of lists, and a text that is a lone surrogate and a letter. -/
def nestedArguments : List HostValue :=
  [.dict (textEntries [("é", .list [.none, .int (-12), .dict []]), ("", .bool true)]),
    .str [⟨0xD83D, by decide⟩, CodePoint.ofChar 'a']]

theorem nested_arguments_are_decoded : (∀ v ∈ nestedArguments, IsArgument v) ∧
    ∃ raws, nestedArguments.mapM HostValue.literal = .ok raws ∧
      decodeArguments raws = nestedArguments := by
  have hargument : ∀ v ∈ nestedArguments, IsArgument v := by
    have hlist : IsArgument (.list [.none, .int (-12), .dict []]) := by
      refine .list fun v hv => ?_
      rcases List.mem_cons.mp hv with rfl | hv
      · exact .none
      rcases List.mem_cons.mp hv with rfl | hv
      · exact .int (by decide)
      rcases List.mem_singleton.mp hv with rfl
      exact (.dict .nil (by simp) (by simp) : IsArgument (.dict (textEntries [])))
    have hdict : IsArgument (.dict (textEntries [("é", .list [.none, .int (-12), .dict []]),
        ("", .bool true)])) :=
      .dict (by decide) (by decide) (List.forall_mem_cons.mpr ⟨hlist, by simpa using .bool true⟩)
    refine List.forall_mem_cons.mpr ⟨hdict, ?_⟩
    simpa using IsArgument.str (by decide)
  exact ⟨hargument, (arguments_are_decoded hargument).1⟩

end ScriptHost.Proofs.DecodedArguments
