import Mathlib.Data.List.DropRight
import ScriptHost.Service.Origins

/-!
# The origins that a configuration allows

A configured text lists origins between commas, with white space around them and empty places in between.
What the service admits is a normal form of it: put together again with commas, the origins are read as
they are.
-/

namespace ScriptHost.Proofs.AllowedOrigins

open Service Unicode

variable {t s o : Text} {segments origins : List Text}

/-! ## Pieces between commas -/

/-- The pieces that a text has between its commas. -/
structure AreSegments (t : Text) (segments : List Text) : Prop where
  joined : Text.joinWith [comma] segments = t
  plain : ∀ s ∈ segments, comma ∉ s
  nonempty : segments ≠ []

theorem splitOn_eq (c : CodePoint) (t : Text) : Text.splitOn c t = List.splitOn c t := by
  induction t with
  | nil => rfl
  | cons d t ih =>
      obtain ⟨piece, pieces, hpieces⟩ := List.exists_cons_of_ne_nil (List.splitOn_ne_nil c t)
      rw [Text.splitOn, ih, List.splitOn_cons_eq_if_modifyHead, hpieces]
      by_cases hd : d = c
      · rw [if_pos hd, if_pos (beq_iff_eq.mpr hd)]
      · rw [if_neg hd, if_neg (by simpa using hd)]
        rfl

theorem joinWith_eq (separator : Text) (ts : List Text) :
    Text.joinWith separator ts = separator.intercalate ts := by
  induction ts with
  | nil => rfl
  | cons t ts ih =>
      cases ts with
      | nil => simp [Text.joinWith]
      | cons u us =>
          rw [List.intercalate_cons_cons, ← ih]
          rfl

theorem not_mem_of_mem_splitOn {c : CodePoint} (h : s ∈ Text.splitOn c t) : c ∉ s := by
  induction t generalizing s with
  | nil =>
      obtain rfl := List.mem_singleton.mp h
      exact List.not_mem_nil
  | cons d t ih =>
      rw [Text.splitOn] at h
      split at h
      · rcases List.mem_cons.mp h with rfl | hrest
        · exact List.not_mem_nil
        · exact ih hrest
      · rename_i hd
        split at h
        · obtain rfl := List.mem_singleton.mp h
          simpa using Ne.symm hd
        · rename_i piece pieces hpieces
          rcases List.mem_cons.mp h with rfl | hrest
          · have hpiece : c ∉ piece := ih (hpieces ▸ List.mem_cons_self)
            simpa [hpiece] using Ne.symm hd
          · exact ih (hpieces ▸ List.mem_cons_of_mem piece hrest)

/-- A text has one list of pieces, the one that it is taken apart into. -/
theorem areSegments_iff : AreSegments t segments ↔ Text.splitOn comma t = segments := by
  constructor
  · rintro ⟨rfl, hplain, hnonempty⟩
    rw [splitOn_eq, joinWith_eq]
    exact List.splitOn_intercalate comma hplain hnonempty
  · rintro rfl
    refine ⟨?_, fun s hs => not_mem_of_mem_splitOn hs, ?_⟩
    · rw [splitOn_eq, joinWith_eq]
      exact List.intercalate_splitOn comma
    · rw [splitOn_eq]
      exact List.splitOn_ne_nil comma t

/-! ## White space at the ends -/

/-- All characters of a text are white space. -/
def IsBlankText (t : Text) : Prop := ∀ c ∈ t, isBlank c = true

/-- A text begins and ends with no white space. -/
structure IsTrimmed (t : Text) : Prop where
  first : ∀ c ∈ t.head?, isBlank c = false
  last : ∀ c ∈ t.getLast?, isBlank c = false

/-- One text is another one without the white space at its ends. -/
structure TrimsTo (s o : Text) : Prop where
  ends : ∃ before after, s = before ++ o ++ after ∧ IsBlankText before ∧ IsBlankText after
  trimmed : IsTrimmed o

theorem IsBlankText.append (hs : IsBlankText s) (ht : IsBlankText t) : IsBlankText (s ++ t) :=
  fun c hc => (List.mem_append.mp hc).elim (hs c) (ht c)

theorem dropWhile_blank (hs : IsBlankText s) (ht : ∀ c ∈ t.head?, isBlank c = false) :
    (s ++ t).dropWhile isBlank = t := by
  rw [List.dropWhile_append_of_pos hs]
  cases t with
  | nil => rfl
  | cons c t => exact List.dropWhile_cons_of_neg (by simp [ht c rfl])

theorem rdropWhile_blank (hs : IsBlankText s) (ht : ∀ c ∈ t.getLast?, isBlank c = false) :
    (t ++ s).rdropWhile isBlank = t := by
  have hreversed : (s.reverse ++ t.reverse).dropWhile isBlank = t.reverse :=
    dropWhile_blank (fun c hc => hs c (List.mem_reverse.mp hc)) (by rwa [List.head?_reverse])
  rw [List.rdropWhile, List.reverse_append, hreversed, List.reverse_reverse]

theorem isTrimmed_trim (s : Text) : IsTrimmed (trim s) := by
  change IsTrimmed ((s.dropWhile isBlank).rdropWhile isBlank)
  constructor
  · intro c hc
    obtain ⟨rest, hrest⟩ := List.rdropWhile_prefix isBlank (l := s.dropWhile isBlank)
    have hhead : c ∈ (s.dropWhile isBlank).head? := by
      rw [← hrest]
      exact List.mem_head?_append_of_mem_head? hc
    have hnot := List.head?_dropWhile_not isBlank s
    rw [Option.mem_def.mp hhead] at hnot
    exact hnot
  · intro c hc
    obtain ⟨hne, rfl⟩ := List.mem_getLast?_eq_getLast hc
    simpa using List.rdropWhile_last_not isBlank (s.dropWhile isBlank) hne

/-- A text without the white space at its ends is what trimming gives. -/
theorem trimsTo_iff : TrimsTo s o ↔ trim s = o := by
  constructor
  · rintro ⟨⟨before, after, rfl, hbefore, hafter⟩, hfirst, hlast⟩
    change ((before ++ o ++ after).dropWhile isBlank).rdropWhile isBlank = o
    cases o with
    | nil =>
        rw [List.append_nil, List.dropWhile_eq_nil_iff.mpr (hbefore.append hafter), List.rdropWhile_nil]
    | cons c o =>
        rw [List.append_assoc, dropWhile_blank hbefore (t := c :: o ++ after) hfirst,
          rdropWhile_blank hafter hlast]
  · rintro rfl
    refine ⟨⟨s.takeWhile isBlank, (s.dropWhile isBlank).rtakeWhile isBlank, ?_, ?_, ?_⟩,
      isTrimmed_trim s⟩
    · rw [List.append_assoc]
      change s = _ ++ ((s.dropWhile isBlank).rdropWhile isBlank ++ _)
      rw [List.rdropWhile_append_rtakeWhile, List.takeWhile_append_dropWhile]
    · exact fun c hc => List.mem_takeWhile_imp hc
    · exact fun c hc => List.mem_rtakeWhile_imp hc

/-! ## Listed origins -/

/-- The origins that pieces give, one after the other: a blank piece none, and any other one itself
without the white space at its ends. -/
inductive Lists : List Text → List Text → Prop
  | none : Lists [] []
  | blank {s : Text} {segments origins : List Text} (h : IsBlankText s) (rest : Lists segments origins) :
      Lists (s :: segments) origins
  | origin {s o : Text} {segments origins : List Text} (h : TrimsTo s o) (hne : o ≠ [])
      (rest : Lists segments origins) : Lists (s :: segments) (o :: origins)

theorem trim_eq_nil_iff : trim s = [] ↔ IsBlankText s := by
  rw [← trimsTo_iff]
  constructor
  · rintro ⟨⟨before, after, rfl, hbefore, hafter⟩, -⟩
    rw [List.append_nil]
    exact hbefore.append hafter
  · intro h
    exact ⟨⟨s, [], by simp, h, by simp [IsBlankText]⟩, by simp, by simp⟩

theorem lists_iff :
    Lists segments origins ↔ (segments.map trim).filter (fun s => !s.isEmpty) = origins := by
  constructor
  · intro h
    induction h with
    | none => rfl
    | blank h _ ih => simpa [trim_eq_nil_iff.mpr h] using ih
    | origin h hne _ ih => simp [trimsTo_iff.mp h, hne, ih]
  · rintro rfl
    induction segments with
    | nil => exact .none
    | cons s segments ih =>
        by_cases hs : trim s = []
        · simpa [hs] using Lists.blank (trim_eq_nil_iff.mp hs) ih
        · simpa [hs] using Lists.origin (trimsTo_iff.mpr rfl) hs ih

/-- The listed origins are those that the pieces between commas give. -/
theorem listedOrigins_iff :
    listedOrigins t = origins ↔ ∃ segments, AreSegments t segments ∧ Lists segments origins := by
  simp [listedOrigins, areSegments_iff, lists_iff]

/-- An origin is something, between commas and with no white space at its ends. -/
structure IsOrigin (o : Text) : Prop where
  nonempty : o ≠ []
  plain : comma ∉ o
  trimmed : IsTrimmed o

theorem isOrigin_of_listed (h : o ∈ listedOrigins t) : IsOrigin o := by
  obtain ⟨hmem, hne⟩ := List.mem_filter.mp h
  obtain ⟨s, hs, rfl⟩ := List.mem_map.mp hmem
  obtain ⟨⟨before, after, hsplit, -⟩, htrimmed⟩ := trimsTo_iff.mpr (Eq.refl (trim s))
  refine ⟨by simpa using hne, fun hc => not_mem_of_mem_splitOn hs ?_, htrimmed⟩
  rw [hsplit]
  exact List.mem_append_left after (List.mem_append_right before hc)

theorem lists_self (h : ∀ o ∈ origins, IsOrigin o) : Lists origins origins := by
  induction origins with
  | nil => exact .none
  | cons o origins ih =>
      obtain ⟨ho, hrest⟩ := List.forall_mem_cons.mp h
      exact .origin ⟨⟨[], [], by simp, by simp [IsBlankText], by simp [IsBlankText]⟩, ho.trimmed⟩
        ho.nonempty (ih hrest)

/-- Origins with commas between them are read as they are. -/
theorem listedOrigins_joinWith (hne : origins ≠ []) (h : ∀ o ∈ origins, IsOrigin o) :
    listedOrigins (Text.joinWith [comma] origins) = origins :=
  listedOrigins_iff.mpr ⟨origins, ⟨rfl, fun o ho => (h o ho).plain, hne⟩, lists_self h⟩

theorem originsOf_eq (configured : Option Text) :
    originsOf configured = if listedOrigins (configured.getD "*") = [] then [Text.ofString "*"]
      else listedOrigins (configured.getD "*") := by
  simp [originsOf]

theorem originsOf_joinWith (hne : origins ≠ []) (h : ∀ o ∈ origins, IsOrigin o) :
    originsOf (some (Text.joinWith [comma] origins)) = origins := by
  rw [originsOf_eq, Option.getD_some, listedOrigins_joinWith hne h, if_neg hne]

theorem isOrigin_star : IsOrigin "*" := ⟨by decide, by decide, by decide, by decide⟩

/-- The origins that a configuration allows are in normal form: there is one at least, and none is empty,
holds a comma, or begins or ends with white space.  They are what the pieces between the commas of the
configured text give, in order and as often as they stand there, or a star if that is none.  And the text
that has them with commas between them allows the same. -/
theorem allowed_origins_are_normal (configured : Option Text) :
    originsOf configured ≠ [] ∧ (∀ o ∈ originsOf configured, IsOrigin o) ∧
    (∃ segments listed, AreSegments (configured.getD "*") segments ∧ Lists segments listed ∧
      originsOf configured = if listed = [] then [Text.ofString "*"] else listed) ∧
    originsOf (some (Text.joinWith [comma] (originsOf configured))) = originsOf configured := by
  have hne : originsOf configured ≠ [] := by
    rw [originsOf_eq]
    split
    · exact List.cons_ne_nil _ _
    · assumption
  have horigin : ∀ o ∈ originsOf configured, IsOrigin o := by
    rw [originsOf_eq]
    split
    · exact List.forall_mem_singleton.mpr isOrigin_star
    · exact fun o ho => isOrigin_of_listed ho
  obtain ⟨segments, hsegments, hlists⟩ :=
    listedOrigins_iff.mp (Eq.refl (listedOrigins (configured.getD "*")))
  exact ⟨hne, horigin, ⟨segments, _, hsegments, hlists, originsOf_eq configured⟩,
    originsOf_joinWith hne horigin⟩

example : originsOf (some (Text.ofString " a ,, b\u3000,a")) = ["a", "b", "a"] := by decide

example : originsOf (some (Text.ofString " ,,")) = ["*"] := by decide

end ScriptHost.Proofs.AllowedOrigins
