import ScriptHost.Pattern.Match

/-!
# Matchers go forward

Whatever a node tries, it goes on at its own place of the text or a later one, and with as many captured parts
as it was given.  So a match starts where it was looked for or later, and ends after its start.
-/

namespace ScriptHost.Proofs.SteadyMatchers

open Pattern

variable {s : Array CodePoint} {widths : Array (Option Width)} {f : Flags} {position p : Nat}
  {captures c : Captures} {k : Continuation} {r : Nat × Captures} {body : Matcher} {min : Nat} {max : Option Nat}

/-! ## Steps of a match -/

/-- A later place of the text, with as many captured parts. -/
structure Later (s : Array CodePoint) (position : Nat) (captures : Captures) (p : Nat) (c : Captures) : Prop where
  le : position ≤ p
  within : p ≤ s.size
  size : c.size = captures.size

namespace Later

theorem refl (h : position ≤ s.size) (captures : Captures) : Later s position captures position captures :=
  ⟨Nat.le_refl _, h, rfl⟩

theorem trans {p' : Nat} {c' : Captures} (h : Later s position captures p c) (h' : Later s p c p' c') :
    Later s position captures p' c' :=
  ⟨Nat.le_trans h.le h'.le, h'.within, h'.size.trans h.size⟩

end Later

/-- An outcome that what follows has at a later place. -/
def GoesOn (s : Array CodePoint) (position : Nat) (captures : Captures) (k : Continuation)
    (r : Nat × Captures) : Prop :=
  ∃ p c, Later s position captures p c ∧ k p c = some r

/-- Every outcome of a matcher is one of what follows it. -/
def IsSteady (s : Array CodePoint) (m : Matcher) : Prop :=
  ∀ position captures k r, position ≤ s.size → m position captures k = some r → GoesOn s position captures k r

theorem GoesOn.later (hlater : Later s position captures p c) (h : GoesOn s p c k r) :
    GoesOn s position captures k r := by
  obtain ⟨p', c', hlater', hk⟩ := h
  exact ⟨p', c', hlater.trans hlater', hk⟩

theorem goesOn_here (h : position ≤ s.size) (hk : k position captures = some r) : GoesOn s position captures k r :=
  ⟨position, captures, .refl h captures, hk⟩

/-- The first way to cover a body ends at a later place. -/
theorem settle_later (hbody : IsSteady s body) (h : position ≤ s.size)
    (hsettle : settle body position captures = some (p, c)) : Later s position captures p c := by
  obtain ⟨p', c', hlater, hk⟩ := hbody position captures _ _ h hsettle
  cases hk
  exact hlater

/-! ## Repetitions of one character -/

theorem countUnits_le (s : Array CodePoint) (test : CodePoint → Bool) (n : Nat) (h : position ≤ s.size) :
    position + countUnits s test position n ≤ s.size := by
  induction n generalizing position with
  | zero => exact h
  | succ n ih =>
      unfold countUnits
      split
      · rename_i hunit
        obtain ⟨hlt, -⟩ := Array.getElem?_eq_some_iff.mp hunit
        split
        · have hmore := @ih (position + 1) hlt
          omega
        · exact h
      · exact h

theorem tryFewer_some {g : Nat → Outcome} {n : Nat} (h : tryFewer g n = some r) : ∃ i ≤ n, g i = some r := by
  induction n with
  | zero => exact ⟨0, Nat.le_refl 0, h⟩
  | succ n ih =>
      unfold tryFewer at h
      split at h
      · rename_i hfirst
        exact ⟨n + 1, Nat.le_refl _, hfirst.trans h⟩
      · obtain ⟨i, hi, hg⟩ := ih h
        exact ⟨i, Nat.le_succ_of_le hi, hg⟩

theorem tryMore_some {g : Nat → Outcome} {i n : Nat} (h : tryMore g i n = some r) :
    ∃ j, i ≤ j ∧ j ≤ i + n ∧ g j = some r := by
  induction n generalizing i with
  | zero => exact ⟨i, Nat.le_refl i, Nat.le_refl i, h⟩
  | succ n ih =>
      unfold tryMore at h
      split at h
      · rename_i hfirst
        exact ⟨i, Nat.le_refl i, by omega, hfirst.trans h⟩
      · obtain ⟨j, hi, hj, hg⟩ := ih h
        exact ⟨j, by omega, by omega, hg⟩

/-- How often a unit is tried: not more often than it is found in a row. -/
theorem repeatUnit_limited (s : Array CodePoint) (test : CodePoint → Bool) (greed : Greed) (min : Nat)
    (max : Option Nat) (position : Nat) (captures : Captures) (k : Continuation) :
    ∃ limit, repeatUnit s test greed min max position captures k =
      (let n := countUnits s test position limit
      if n < min then none
      else
        match greed with
        | .greedy => tryFewer (fun i => k (position + min + i) captures) (n - min)
        | .lazy => tryMore (fun i => k (position + i) captures) min (n - min)
        | .possessive => k (position + n) captures) := by
  cases max with
  | none => exact ⟨_, rfl⟩
  | some m => exact ⟨_, rfl⟩

theorem isSteady_repeatUnit (test : CodePoint → Bool) (greed : Greed) (min : Nat) (max : Option Nat) :
    IsSteady s (repeatUnit s test greed min max) := by
  intro position captures k r h hrun
  obtain ⟨limit, hlimit⟩ := repeatUnit_limited s test greed min max position captures k
  rw [hlimit] at hrun
  dsimp only at hrun
  have hcount := countUnits_le s test limit h
  have hpast (i : Nat) (hi : i ≤ countUnits s test position limit) (hk : k (position + i) captures = some r) :
      GoesOn s position captures k r :=
    ⟨position + i, captures, ⟨by omega, by omega, rfl⟩, hk⟩
  split at hrun
  · cases hrun
  · rename_i hmin
    cases greed with
    | greedy =>
        obtain ⟨i, hi, hk⟩ := tryFewer_some hrun
        rw [Nat.add_assoc] at hk
        exact hpast (min + i) (by omega) hk
    | lazy =>
        obtain ⟨i, -, hi, hk⟩ := tryMore_some hrun
        exact hpast i (by omega) hk
    | possessive => exact hpast _ (Nat.le_refl _) hrun

/-! ## Repetitions of a body -/

theorem repeatGreedy_goesOn (hbody : IsSteady s body) (fuel count : Nat) (last : Option Nat)
    (h : position ≤ s.size) (hrun : repeatGreedy body min max k fuel count last position captures = some r) :
    GoesOn s position captures k r := by
  induction fuel generalizing count last position captures with
  | zero => cases hrun
  | succ fuel ih =>
      have hround {last : Option Nat} (hrun : body position captures (fun p c =>
          repeatGreedy body min max k fuel (count + 1) last p c) = some r) : GoesOn s position captures k r := by
        obtain ⟨p, c, hlater, hmore⟩ := hbody position captures _ r h hrun
        exact (ih _ _ hlater.within hmore).later hlater
      unfold repeatGreedy at hrun
      dsimp only at hrun
      split at hrun
      · exact hround hrun
      · split at hrun
        · rename_i hfurther
          split at hfurther
          · cases hrun
            exact hround hfurther
          · cases hfurther
        · exact goesOn_here h hrun

theorem repeatLazy_goesOn (hbody : IsSteady s body) (fuel count : Nat) (last : Option Nat)
    (h : position ≤ s.size) (hrun : repeatLazy body min max k fuel count last position captures = some r) :
    GoesOn s position captures k r := by
  induction fuel generalizing count last position captures with
  | zero => cases hrun
  | succ fuel ih =>
      have hround {last : Option Nat} (hrun : body position captures (fun p c =>
          repeatLazy body min max k fuel (count + 1) last p c) = some r) : GoesOn s position captures k r := by
        obtain ⟨p, c, hlater, hmore⟩ := hbody position captures _ r h hrun
        exact (ih _ _ hlater.within hmore).later hlater
      unfold repeatLazy at hrun
      split at hrun
      · exact hround hrun
      · split at hrun
        · rename_i hk
          exact goesOn_here h (hk.trans hrun)
        · split at hrun
          · exact hround hrun
          · cases hrun

theorem repeatPossessive_later (hbody : IsSteady s body) (fuel count : Nat) (h : position ≤ s.size)
    (hrun : repeatPossessive body min max fuel count position captures = some (p, c)) :
    Later s position captures p c := by
  induction fuel generalizing count position captures with
  | zero => cases hrun
  | succ fuel ih =>
      unfold repeatPossessive at hrun
      split at hrun
      · split at hrun
        · rename_i hsettle
          have hlater := settle_later hbody h hsettle
          exact hlater.trans (ih _ hlater.within hrun)
        · cases hrun
      · split at hrun
        · split at hrun
          · rename_i hsettle
            have hlater := settle_later hbody h hsettle
            split at hrun
            · cases hrun
              exact hlater
            · exact hlater.trans (ih _ hlater.within hrun)
          · cases hrun
            exact .refl h _
        · cases hrun
          exact .refl h _

/-! ## Nodes -/

theorem isSteady_unit (test : CodePoint → Bool) : IsSteady s (Node.matcher.unitMatcher s test) := by
  intro position captures k r h hrun
  unfold Node.matcher.unitMatcher at hrun
  split at hrun
  · rename_i hunit
    obtain ⟨hlt, -⟩ := Array.getElem?_eq_some_iff.mp hunit
    split at hrun
    · exact ⟨position + 1, captures, ⟨by omega, hlt, rfl⟩, hrun⟩
    · cases hrun
  · cases hrun

theorem sameUnits_le {start n : Nat} (h : position ≤ s.size) (hsame : sameUnits f s start position n = true) :
    position + n ≤ s.size := by
  induction n generalizing start position with
  | zero => exact h
  | succ n ih =>
      unfold sameUnits at hsame
      split at hsame
      · rename_i hunit
        obtain ⟨hlt, -⟩ := Array.getElem?_eq_some_iff.mp hunit
        have hmore := ih (show position + 1 ≤ s.size from hlt) (Bool.and_eq_true_iff.mp hsame).2
        omega
      · cases hsame

theorem isSteady_possessive (hbody : IsSteady s body) (fuel : Nat) :
    IsSteady s fun position captures k =>
      match repeatPossessive body min max fuel 0 position captures with
      | some (p, c) => k p c
      | none => none := by
  intro position captures k r h hrun
  dsimp only at hrun
  split at hrun
  · rename_i hsettle
    exact ⟨_, _, repeatPossessive_later hbody fuel 0 h hsettle, hrun⟩
  · cases hrun

theorem isSteady_capture (hbody : IsSteady s body) (i : Nat) :
    IsSteady s fun position captures k =>
      body position captures fun p c => k p (c.setIfInBounds (i - 1) (some (position, p))) := by
  intro position captures k r h hrun
  obtain ⟨p, c, hlater, hk⟩ := hbody position captures _ r h hrun
  exact ⟨p, _, ⟨hlater.le, hlater.within, by rw [Array.size_setIfInBounds, hlater.size]⟩, hk⟩

theorem isSteady_atomic (hbody : IsSteady s body) :
    IsSteady s fun position captures k =>
      match settle body position captures with
      | some (p, c) => k p c
      | none => none := by
  intro position captures k r h hrun
  dsimp only at hrun
  split at hrun
  · rename_i hsettle
    exact ⟨_, _, settle_later hbody h hsettle, hrun⟩
  · cases hrun

/-- A look stays where it is, whichever way it looks. -/
theorem isSteady_look (hbody : IsSteady s body) (back : Nat) (negated : Bool) :
    IsSteady s fun position captures k =>
      let found := if position < back then none else settle body (position - back) captures
      match found with
      | some (_, c) => if negated then none else k position c
      | none => if negated then k position captures else none := by
  intro position captures k r h hrun
  dsimp only at hrun
  split at hrun
  · rename_i hfound
    split at hfound
    · cases hfound
    · have hlater := settle_later hbody (by omega) hfound
      split at hrun
      · cases hrun
      · exact ⟨position, _, ⟨Nat.le_refl _, h, hlater.size⟩, hrun⟩
  · split at hrun
    · exact goesOn_here h hrun
    · cases hrun

theorem isSteady_sequence {tail : Matcher} (hbody : IsSteady s body) (htail : IsSteady s tail) :
    IsSteady s fun position captures k => body position captures fun p c => tail p c k := by
  intro position captures k r h hrun
  obtain ⟨p, c, hlater, hmore⟩ := hbody position captures _ r h hrun
  exact (htail p c k r hlater.within hmore).later hlater

theorem isSteady_choice {others : Matcher} (hbody : IsSteady s body) (hothers : IsSteady s others) :
    IsSteady s fun position captures k =>
      match body position captures k with
      | some r => some r
      | none => others position captures k := by
  intro position captures k r h hrun
  dsimp only at hrun
  split at hrun
  · rename_i hfirst
    exact hbody position captures k r h (hfirst.trans hrun)
  · exact hothers position captures k r h hrun

mutual

/-- Each node goes forward. -/
theorem isSteady_node : ∀ (n : Node) (f : Flags), IsSteady s (n.matcher s widths f)
  | .literal _, _ | .notLiteral _, _ | .any, _ | .set _ _, _ => isSteady_unit _
  | .anchor a, f => by
      intro position captures k r h hrun
      unfold Node.matcher at hrun
      split at hrun
      · exact goesOn_here h hrun
      · cases hrun
  | .repetition greed min max body, f => by
      have hbody := isSteady_sequenceMatcher body f
      unfold Node.matcher
      split
      · exact isSteady_repeatUnit _ greed min max
      · cases greed with
        | greedy => exact fun _ _ _ _ h hrun => repeatGreedy_goesOn hbody _ 0 none h hrun
        | lazy => exact fun _ _ _ _ h hrun => repeatLazy_goesOn hbody _ 0 none h hrun
        | possessive => exact isSteady_possessive hbody _
  | .group none add remove body, f => isSteady_sequenceMatcher body (f.inside add remove)
  | .group (some i) add remove body, f => isSteady_capture (isSteady_sequenceMatcher body (f.inside add remove)) i
  | .atomic body, f => isSteady_atomic (isSteady_sequenceMatcher body f)
  | .look behind negated body, f => isSteady_look (isSteady_sequenceMatcher body f) _ negated
  | .branch alternatives, f => isSteady_alternatives alternatives f
  | .backReference index, f => by
      intro position captures k r h hrun
      unfold Node.matcher at hrun
      split at hrun
      · split at hrun
        · rename_i hsame
          exact ⟨_, captures, ⟨Nat.le_add_right _ _, sameUnits_le h hsame, rfl⟩, hrun⟩
        · cases hrun
      · cases hrun
  | .conditional index yes no, f => by
      have hyes := isSteady_sequenceMatcher yes f
      have hno := isSteady_sequenceMatcher no f
      intro position captures k r h hrun
      unfold Node.matcher at hrun
      dsimp only at hrun
      split at hrun
      · exact hyes position captures k r h hrun
      · exact hno position captures k r h hrun

theorem isSteady_sequenceMatcher : ∀ (ns : List Node) (f : Flags), IsSteady s (sequenceMatcher s widths f ns)
  | [], _ => fun _ _ _ _ h hrun => goesOn_here h hrun
  | [n], f => isSteady_node n f
  | n :: m :: rest, f => by
      have hfirst : IsSteady s (n.matcher s widths f) := isSteady_node n f
      have hmore : IsSteady s (sequenceMatcher s widths f (m :: rest)) := isSteady_sequenceMatcher (m :: rest) f
      have hboth := isSteady_sequence hfirst hmore
      exact hboth

theorem isSteady_alternatives : ∀ (bodies : List (List Node)) (f : Flags),
    IsSteady s (alternativesMatcher s widths f bodies)
  | [], _ => fun _ _ _ _ _ hrun => by cases hrun
  | body :: rest, f => isSteady_choice (isSteady_sequenceMatcher body f) (isSteady_alternatives rest f)

end

end ScriptHost.Proofs.SteadyMatchers
