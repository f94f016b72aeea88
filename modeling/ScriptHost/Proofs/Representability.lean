import ScriptHost.Proofs.NameResolution
import ScriptHost.Proofs.NormalForms

/-!
# Which host values have an image

The contract of a host value that scripts can see is stated on its own, by kind of value; having an
image is shown to be the same, by induction over the value.  The one exception is a record with a tag
that is no text, or whose name ends in a line feed: the contract passes such a field over.
-/

namespace ScriptHost.Proofs.Representability

open HostValue
open ScriptHost.Proofs.ImagedItems
open ScriptHost.Proofs.LookupTexts (isName_of_identifier)
open ScriptHost.Proofs.NameResolution (isIdentifierText_name)
open ScriptHost.Proofs.NormalForms
open ScriptHost.Proofs.ScannedNames (IsName)
open ScriptHost.Proofs.TextTrees (textEntries)

/-! ## The contract -/

/-- The part of a tag that may be a name: up to its first comma. -/
def nameOf (t : Text) : Text := t.takeWhile (· != CodePoint.ofChar ',')

/-- The name under which scripts are to see a field: its tag is a text, and the part of it before the
first comma is an identifier as a whole. -/
def Exposes (f : Field) (name : Text) : Prop :=
  ∃ t, f.2.1.text? = some t ∧ name = nameOf t ∧ IsName name

/-- The values that scripts can see. -/
inductive Representable : HostValue → Prop
  | none : Representable .none
  | bool (b : Bool) : Representable (.bool b)
  | int (i : Int) : Representable (.int i)
  | float (x : Float) : Representable (.float x)
  | str (t : Text) : Representable (.str t)
  | intMember (i : Int) : Representable (.intMember i)
  | strMember (t : Text) : Representable (.strMember t)
  | member {v : HostValue} (h : Representable v) : Representable (.member v)
  | object {name : String} {result : HostValue} {exports : Attribute} {call : Option HostValue}
    (h : Representable result) : Representable (.object name (.method result) exports call)
  | classObject {metaName name : String} {result : HostValue} {exports : Attribute}
    (h : Representable result) : Representable (.classObject metaName name (.method result) exports)
  | record {fs : List Field} (h : ∀ f ∈ fs, ∀ name, Exposes f name → Representable f.2.2) :
    Representable (.record fs)
  | dict {es : List (HostValue × HostValue)} (hkeys : ∀ e ∈ es, e.1.text?.isSome = true)
    (h : ∀ e ∈ es, Representable e.2) : Representable (.dict es)
  | mappingView {es : List (HostValue × HostValue)} (hkeys : ∀ e ∈ es, e.1.text?.isSome = true)
    (h : ∀ e ∈ es, Representable e.2) : Representable (.mappingView es)
  | list {xs : List HostValue} (h : ∀ v ∈ xs, Representable v) : Representable (.list xs)
  | tuple {xs : List HostValue} (h : ∀ v ∈ xs, Representable v) : Representable (.tuple xs)

/-! ## Tags -/

/-- A tag is a text, and its name does not end in a line feed. -/
def IsReadable (tag : HostValue) : Prop :=
  ∃ t, tag.text? = some t ∧ ∀ w, nameOf t ≠ w ++ [CodePoint.ofChar '\n']

mutual

/-- The tags of all records that are looked at are readable. -/
def TagsReadable : HostValue → Prop
  | .member v => TagsReadable v
  | .list xs | .tuple xs => AllTagsReadable xs
  | .dict es | .mappingView es => EntryTagsReadable es
  | .record fs => FieldTagsReadable fs
  | .object _ (.method result) _ _ => TagsReadable result
  | .classObject _ _ (.method result) _ => TagsReadable result
  | _ => True

/-- The tags are readable in all items. -/
def AllTagsReadable : List HostValue → Prop
  | [] => True
  | v :: rest => TagsReadable v ∧ AllTagsReadable rest

/-- The tags are readable in the values of all entries. -/
def EntryTagsReadable : List (HostValue × HostValue) → Prop
  | [] => True
  | (_, v) :: rest => TagsReadable v ∧ EntryTagsReadable rest

/-- The tags of all fields are readable, and those in the values of the fields that are exposed. -/
def FieldTagsReadable : List (Text × HostValue × HostValue) → Prop
  | [] => True
  | (attr, tag, v) :: rest =>
    IsReadable tag ∧ ((∃ name, Exposes (attr, tag, v) name) → TagsReadable v) ∧ FieldTagsReadable rest

end

theorem isName_iff {t : Text} (h : ∀ w, t ≠ w ++ [CodePoint.ofChar '\n']) :
    isIdentifierText t = true ↔ IsName t := by
  refine ⟨fun hidentifier => ?_, isIdentifierText_name⟩
  obtain ⟨w, hw, rfl | heq⟩ := isName_of_identifier hidentifier
  · exact hw
  · exact absurd heq (h w)

theorem isReadable_text {t : Text} (h : (nameOf t).getLast? ≠ some (CodePoint.ofChar '\n')) :
    IsReadable (.str t) :=
  ⟨t, rfl, fun w hw => h (by rw [hw, List.getLast?_concat])⟩

/-- A readable tag declares a name exactly if the field is to be seen under it. -/
theorem declares_iff {f : Field} {name : Text} (h : IsReadable f.2.1) :
    Declares f name ↔ Exposes f name := by
  obtain ⟨t, ht, hfeed⟩ := h
  have hname := isName_iff hfeed
  unfold Declares Exposes tagName?
  rw [ht]
  change (Except.ok (if isIdentifierText (nameOf t) then some (nameOf t) else Option.none)
    : Except Fault (Option Text)) = _ ↔ _
  by_cases hidentifier : isIdentifierText (nameOf t) = true
  · rw [if_pos hidentifier]
    constructor
    · rintro ⟨⟩
      exact ⟨t, rfl, rfl, hname.mp hidentifier⟩
    · rintro ⟨_, ⟨⟩, rfl, -⟩
      rfl
  · rw [if_neg hidentifier]
    constructor
    · rintro ⟨⟩
    · rintro ⟨_, ⟨⟩, rfl, hw⟩
      exact absurd (hname.mpr hw) hidentifier

/-- A readable tag is read. -/
theorem tagName_ok {tag : HostValue} (h : IsReadable tag) : ∃ name?, tagName? tag = .ok name? := by
  obtain ⟨t, ht, -⟩ := h
  unfold tagName?
  rw [ht]
  exact ⟨_, rfl⟩

theorem declaredNames_ok : ∀ {fs : List Field}, FieldTagsReadable fs → ∃ names, declaredNames fs = .ok names
  | [], _ => ⟨[], rfl⟩
  | (attr, tag, v) :: rest, h => by
      obtain ⟨hreadable, -, hrest⟩ := h
      obtain ⟨name?, hname⟩ := tagName_ok hreadable
      obtain ⟨names, hnames⟩ := declaredNames_ok hrest
      unfold declaredNames
      rw [hname, hnames]
      exact ⟨_, rfl⟩

/-! ## Outcomes -/

/-- Something is made exactly if `P`; if it is not, a type is wrong or host code has raised. -/
def Decides (P : Prop) {α : Type} : Except Fault α → Prop
  | .ok _ => P
  | .error f => ¬P ∧ (f.cls = .type ∨ ∃ cls args, f = .raised cls args)

namespace Decides

variable {α β γ : Type} {P Q : Prop} {r : Except Fault α} {r' : Except Fault β}

theorem congr (h : Decides P r) (hiff : P ↔ Q) : Decides Q r := by
  cases r with
  | ok a => exact hiff.mp h
  | error f => exact ⟨fun hq => h.1 (hiff.mpr hq), h.2⟩

theorem refused {f : Fault} (hP : ¬P) (hf : f.cls = .type) : Decides P (.error f : Except Fault α) :=
  ⟨hP, .inl hf⟩

theorem map (h : Decides P r) (g : α → β) : Decides P (do return g (← r)) := by
  cases r with
  | ok a => exact h
  | error f => exact h

theorem and (h : Decides P r) (h' : Decides Q r') (g : α → β → γ) :
    Decides (P ∧ Q) (do return g (← r) (← r')) := by
  cases r with
  | error f => exact ⟨fun hboth => h.1 hboth.1, h.2⟩
  | ok a =>
      cases r' with
      | ok b => exact ⟨h, h'⟩
      | error f => exact ⟨fun hboth => h'.1 hboth.2, h'.2⟩

end Decides

/-! ## Images -/

theorem keyed_cons {P : HostValue → Prop} {e : HostValue × HostValue} {es : List (HostValue × HostValue)} :
    (∀ d ∈ e :: es, d.1.text?.isSome = true ∧ P d.2) ↔
      (e.1.text?.isSome = true ∧ P e.2) ∧ ∀ d ∈ es, d.1.text?.isSome = true ∧ P d.2 :=
  List.forall_mem_cons

mutual

/-- Whether a value has an image is what the contract says. -/
theorem image_decides : ∀ v : HostValue, TagsReadable v → Decides (Representable v) (image v)
  | .none, _ => .none
  | .bool b, _ => .bool b
  | .int i, _ => .int i
  | .float x, _ => .float x
  | .str t, _ => .str t
  | .intMember i, _ => .intMember i
  | .strMember t, _ => .strMember t
  | .member v, h => (image_decides v h).congr ⟨.member, fun h => by cases h; assumption⟩
  | .list xs, h =>
      ((imageItems_decides xs h).congr ⟨.list, fun h => by cases h; assumption⟩).map HostValue.list
  | .tuple xs, h =>
      ((imageItems_decides xs h).congr ⟨.tuple, fun h => by cases h; assumption⟩).map HostValue.list
  | .dict es, h => by
      refine ((imageEntries_decides es h).congr ⟨fun hes => ?_, fun hes => ?_⟩).map HostValue.dict
      · exact .dict (fun e he => (hes e he).1) fun e he => (hes e he).2
      · cases hes with
        | dict hkeys hvalues => exact fun e he => ⟨hkeys e he, hvalues e he⟩
  | .mappingView es, h => by
      refine ((imageEntries_decides es h).congr ⟨fun hes => ?_, fun hes => ?_⟩).map HostValue.dict
      · exact .mappingView (fun e he => (hes e he).1) fun e he => (hes e he).2
      · cases hes with
        | mappingView hkeys hvalues => exact fun e he => ⟨hkeys e he, hvalues e he⟩
  | .record fs, h => by
      obtain ⟨names, hnames⟩ := declaredNames_ok h
      unfold image
      rw [hnames]
      exact ((imageFields_decides fs h).congr ⟨.record, fun h => by cases h; assumption⟩).map _
  | .object _ (.method result) _ _, h =>
      (image_decides result h).congr ⟨.object, fun h => by cases h; assumption⟩
  | .classObject _ _ (.method result) _, h =>
      (image_decides result h).congr ⟨.classObject, fun h => by cases h; assumption⟩
  | .object _ (.failing cls args) _ _, _ | .classObject _ _ (.failing cls args) _, _ => by
      refine ⟨fun h => ?_, .inr ⟨cls, args, rfl⟩⟩
      cases h
  | .object _ .absent _ _, _ | .object _ (.plain _) _ _, _ | .object _ (.unbound _) _ _, _
  | .classObject _ _ .absent _, _ | .classObject _ _ (.plain _) _, _
  | .classObject _ _ (.unbound _) _, _ | .enumeration _, _ | .set _, _ | .bytes _, _
  | .complex _ _, _ | .recordType _, _ | .function _ _, _ =>
      .refused (fun h => by cases h) rfl

theorem imageItems_decides : ∀ xs : List HostValue, AllTagsReadable xs →
    Decides (∀ v ∈ xs, Representable v) (imageItems xs)
  | [], _ => fun _ h => by cases h
  | v :: rest, h =>
      ((image_decides v h.1).and (imageItems_decides rest h.2) List.cons).congr
        List.forall_mem_cons.symm

theorem imageEntries_decides : ∀ es : List (HostValue × HostValue), EntryTagsReadable es →
    Decides (∀ e ∈ es, e.1.text?.isSome = true ∧ Representable e.2) (imageEntries es)
  | [], _ => fun _ h => by cases h
  | (k, v) :: rest, h => by
      unfold imageEntries
      by_cases hkey : k.text?.isSome = true
      · rw [if_pos hkey]
        refine ((image_decides v h.1).and (imageEntries_decides rest h.2) _).congr ?_
        rw [List.forall_mem_cons]
        exact and_congr_left' ⟨fun hv => ⟨hkey, hv⟩, fun hv => hv.2⟩
      · rw [if_neg hkey]
        exact .refused (fun hes => hkey (hes _ List.mem_cons_self).1) rfl

theorem imageFields_decides : ∀ fs : List (Text × HostValue × HostValue), FieldTagsReadable fs →
    Decides (∀ f ∈ fs, ∀ name, Exposes f name → Representable f.2.2) (imageFields fs)
  | [], _ => fun _ h => by cases h
  | (attr, tag, v) :: rest, h => by
      obtain ⟨hreadable, hvalue, hrest⟩ := h
      obtain ⟨name?, hname⟩ := tagName_ok hreadable
      have hexposes (name : Text) : Exposes (attr, tag, v) name ↔ name? = some name := by
        rw [← declares_iff hreadable]
        change tagName? tag = _ ↔ _
        rw [hname]
        exact ⟨Except.ok.inj, congrArg Except.ok⟩
      unfold imageFields
      rw [hname]
      cases name? with
      | none =>
          refine (imageFields_decides rest hrest).congr ?_
          rw [List.forall_mem_cons]
          refine ⟨fun hfs => ⟨fun name hn => ?_, hfs⟩, fun hfs => hfs.2⟩
          cases (hexposes name).mp hn
      | some name =>
          have hthis := (hexposes name).mpr rfl
          refine ((image_decides v (hvalue ⟨name, hthis⟩)).and (imageFields_decides rest hrest) _).congr ?_
          rw [List.forall_mem_cons]
          exact and_congr_left' ⟨fun hv _ _ => hv, fun hv => hv name hthis⟩

end

theorem isReadable_of_mem {fs : List Field} {f : Field} (h : FieldTagsReadable fs) (hf : f ∈ fs) :
    IsReadable f.2.1 := by
  induction fs with
  | nil => cases hf
  | cons g rest ih =>
      obtain ⟨attr, tag, v⟩ := g
      rcases List.mem_cons.mp hf with rfl | hf
      · exact h.1
      · exact ih h.2.2 hf

/-- The names in the image of a record are those under which fields are to be seen. -/
theorem name_iff {fs : List Field} {named : List (Text × HostValue)} {name : Text}
    (hreadable : FieldTagsReadable fs) (h : imageFields fs = .ok named) :
    name ∈ (gathered named).map (·.1) ↔ ∃ f ∈ fs, Exposes f name := by
  rw [keys_gathered]
  constructor
  · intro hname
    obtain ⟨e, he, rfl⟩ := List.mem_map.mp ((keys_gathered named name).mpr hname)
    obtain ⟨before, after, rfl, hlast⟩ := last_of_gathered he
    obtain ⟨f, ⟨pre, post, rfl, hdeclares, -⟩, -⟩ := lastDeclaring_of_last h hlast
    have hf : f ∈ pre ++ f :: post := by simp
    exact ⟨f, hf, (declares_iff (isReadable_of_mem hreadable hf)).mp hdeclares⟩
  · rintro ⟨f, hf, hname⟩
    exact name_of_declares h hf ((declares_iff (isReadable_of_mem hreadable hf)).mpr hname)

/-! ## Main result -/

/-- A record in which one field is to be seen and another one, which has no image, is not. -/
def halfSeen : HostValue :=
  .record [("a", .ofString "x,omitempty", .tuple [.int 1]), ("b", .ofString "9x", .set [])]

/-- A record with a tag that is a number. -/
def numberTagged : HostValue := .record [("a", .int 7, .int 1)]

end ScriptHost.Proofs.Representability
