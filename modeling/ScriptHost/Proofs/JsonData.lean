import ScriptHost.Json.Reader

/-!
# What JSON texts denote

The value of a JSON text is a tree: nothing, truth values, numbers and texts, and lists and
dictionaries of trees, with texts for keys.
-/

namespace ScriptHost.Proofs.JsonData

open Json

variable {ε α β : Type}

/-- What a computation gives, if it gives anything, is in `Q`. -/
def Gives (Q : α → Prop) (r : Except ε α) : Prop := ∀ a, r = .ok a → Q a

namespace Gives

variable {Q : α → Prop} {Q' : β → Prop}

theorem ok {a : α} (h : Q a) : Gives Q (.ok a : Except ε α) := by
  rintro b ⟨⟩
  exact h

theorem error {e : ε} : Gives Q (.error e : Except ε α) := by
  rintro b ⟨⟩

theorem bind {r : Except ε α} {k : α → Except ε β} (hr : Gives Q r)
    (hk : ∀ a, Q a → Gives Q' (k a)) : Gives Q' (r >>= k) := by
  intro b hb
  cases hrun : r with
  | ok a =>
      rw [hrun] at hb
      exact hk a (hr a hrun) b hb
  | error e =>
      rw [hrun] at hb
      cases hb

theorem any (r : Except ε α) : Gives (fun _ => True) r := fun _ _ => trivial

end Gives

/-! ## Trees -/

/-- The host values that are trees of plain values. -/
inductive IsTree : HostValue → Prop
  | none : IsTree .none
  | bool (b : Bool) : IsTree (.bool b)
  | int (i : Int) : IsTree (.int i)
  | float (x : Float) : IsTree (.float x)
  | str (t : Text) : IsTree (.str t)
  | list {items : List HostValue} (h : ∀ v ∈ items, IsTree v) : IsTree (.list items)
  | dict {entries : List (Text × HostValue)} (h : ∀ e ∈ entries, IsTree e.2) :
    IsTree (.dict (entries.map fun e => (.str e.1, e.2)))

/-! ## Entries that are gathered by key -/

section Entries

variable {fields : List (Text × HostValue)} {v : HostValue} {P : HostValue → Prop}

theorem mem_keys_insertEntry {key k : Text}
    (h : k ∈ (HostValue.insertEntry fields key v).map (·.1)) : k = key ∨ k ∈ fields.map (·.1) := by
  induction fields with
  | nil => simpa [HostValue.insertEntry] using h
  | cons field fields ih =>
      obtain ⟨l, w⟩ := field
      unfold HostValue.insertEntry at h
      split at h
      · exact .inr (by simpa using h)
      · rcases List.mem_cons.mp h with rfl | h
        · exact .inr (by simp)
        · rcases ih h with rfl | h
          · exact .inl rfl
          · exact .inr (by simp only [List.map_cons, List.mem_cons]; exact .inr h)

theorem nodup_insertEntry (h : (fields.map (·.1)).Nodup) (key : Text) (v : HostValue) :
    ((HostValue.insertEntry fields key v).map (·.1)).Nodup := by
  induction fields with
  | nil => simp [HostValue.insertEntry]
  | cons field fields ih =>
      obtain ⟨k, w⟩ := field
      obtain ⟨hk, hrest⟩ := List.nodup_cons.mp h
      unfold HostValue.insertEntry
      split
      · exact h
      · rename_i hne
        refine List.nodup_cons.mpr ⟨fun hmem => ?_, ih hrest⟩
        rcases mem_keys_insertEntry hmem with heq | hmem
        · exact hne heq
        · exact hk hmem

/-- Values of a kind under keys of which no two are the same. -/
structure AreEntries (P : HostValue → Prop) (fields : List (Text × HostValue)) : Prop where
  keys : (fields.map (·.1)).Nodup
  values : ∀ e ∈ fields, P e.2

namespace AreEntries

theorem nil : AreEntries P [] := ⟨.nil, by simp⟩

theorem insert (h : AreEntries P fields) (key : Text) (hv : P v) :
    AreEntries P (HostValue.insertEntry fields key v) := by
  refine ⟨nodup_insertEntry h.keys key v, ?_⟩
  obtain ⟨-, h⟩ := h
  induction fields with
  | nil => simpa [HostValue.insertEntry] using hv
  | cons entry rest ih =>
      obtain ⟨k, w⟩ := entry
      obtain ⟨hhead, hrest⟩ := List.forall_mem_cons.mp h
      unfold HostValue.insertEntry
      split
      · exact List.forall_mem_cons.mpr ⟨hv, hrest⟩
      · exact List.forall_mem_cons.mpr ⟨hhead, ih hrest⟩

end AreEntries

end Entries

/-! ## Reading -/

/-- A kind of value that covers whatever a reader puts together from values of the kind. -/
structure IsClosed (P : HostValue → Prop) : Prop where
  none : P .none
  bool : ∀ b, P (.bool b)
  int : ∀ i : Int, (Nat.toDigits 10 i.natAbs).length ≤ maxIntegerDigits → P (.int i)
  float : ∀ x, P (.float x)
  str : ∀ t, P (.str t)
  list : ∀ {items : List HostValue}, (∀ v ∈ items, P v) → P (.list items)
  dict : ∀ {entries : List (Text × HostValue)}, AreEntries P entries →
    P (.dict (entries.map fun e => (.str e.1, e.2)))

theorem isClosed_isTree : IsClosed IsTree where
  none := .none
  bool := .bool
  int i _ := .int i
  float := .float
  str := .str
  list := .list
  dict h := .dict h.values

/-! ## Digits -/

theorem foldl_digits_lt {t : Text} (h : ∀ c ∈ t, c.isDigit = true) (n : Nat) :
    t.foldl (fun n c => 10 * n + (c.val - 0x30)) n < (n + 1) * 10 ^ t.length := by
  induction t generalizing n with
  | nil => simp
  | cons c t ih =>
      obtain ⟨hc, ht⟩ := List.forall_mem_cons.mp h
      have hdigit : c.val - 0x30 ≤ 9 := by
        simp only [CodePoint.isDigit, Bool.and_eq_true, decide_eq_true_eq] at hc
        omega
      calc t.foldl (fun n c => 10 * n + (c.val - 0x30)) (10 * n + (c.val - 0x30))
          < (10 * n + (c.val - 0x30) + 1) * 10 ^ t.length := ih ht _
        _ ≤ ((n + 1) * 10) * 10 ^ t.length := Nat.mul_le_mul_right _ (by omega)
        _ = (n + 1) * 10 ^ (c :: t).length := by
          rw [List.length_cons, Nat.pow_succ', Nat.mul_assoc]

theorem length_digitsValue {t : Text} (h : ∀ c ∈ t, c.isDigit = true)
    (hlength : t.length ≤ maxIntegerDigits) :
    (Nat.toDigits 10 (digitsValue t)).length ≤ maxIntegerDigits := by
  have hlt : digitsValue t < 1 * 10 ^ t.length := foldl_digits_lt h 0
  rw [Nat.one_mul] at hlt
  exact (Nat.length_toDigits_le_iff (by decide) (by decide)).mpr
    (Nat.lt_of_lt_of_le hlt (Nat.pow_le_pow_right (by decide) hlength))

theorem isDigit_zero {c : CodePoint} (h : c.ascii = '0') : c.isDigit = true := by
  have hchars : ∀ n < 128, Char.ofNat n = '0' → n = 48 := by decide
  unfold CodePoint.ascii at h
  split at h
  · simp [CodePoint.isDigit, hchars c.val ‹_› h]
  · cases h

theorem scanWhole_digits {t whole rest : Text} (h : scanWhole? t = some (whole, rest)) :
    ∀ c ∈ whole, c.isDigit = true := by
  unfold scanWhole? at h
  split at h
  · split at h
    · rename_i hzero
      cases h
      intro c hc
      obtain rfl := List.mem_singleton.mp hc
      exact isDigit_zero (by simpa using hzero)
    · split at h
      · rename_i hdigit
        cases h
        refine List.forall_mem_cons.mpr ⟨hdigit, List.all_eq_true.mp List.all_takeWhile⟩
      · cases h
  · cases h

theorem scanNumber_digits {t rest : Text} {token : NumberToken}
    (h : scanNumber? t = some (token, rest)) : ∀ c ∈ token.whole, c.isDigit = true := by
  unfold scanNumber? at h
  obtain ⟨⟨whole, after⟩, hwhole, h⟩ := Option.bind_eq_some_iff.mp h
  cases h
  exact scanWhole_digits hwhole

section Reading

variable {P : HostValue → Prop} (hP : IsClosed P)

include hP

theorem words_closed : ∀ e ∈ words, P e.2 := by
  unfold words
  simp only [List.forall_mem_cons, List.not_mem_nil, false_implies, implies_true, and_true]
  exact ⟨hP.none, hP.bool _, hP.bool _, hP.float _, hP.float _, hP.float _⟩

theorem scanWord_closed {t : Text} {v : HostValue} {n : Nat} {rest : Text}
    (h : scanWord? t = some (v, n, rest)) : P v := by
  obtain ⟨e, he, hv⟩ := List.exists_of_findSome?_eq_some h
  dsimp only at hv
  split at hv
  · cases hv
    exact words_closed hP e he
  · cases hv

theorem tokenValue_gives {token : NumberToken} (h : ∀ c ∈ token.whole, c.isDigit = true) :
    Gives P token.value := by
  unfold NumberToken.value
  split
  · exact .ok (hP.float _)
  · split
    · exact .error
    · rename_i hlength
      have hdigits := length_digitsValue h (Nat.le_of_not_lt hlength)
      refine .ok (hP.int _ ?_)
      split
      · rwa [Int.natAbs_neg]
      · exact hdigits

omit hP in
/-- Each of the three readers, within its number of steps, gives values of a kind. -/
structure ReadsIn (P : HostValue → Prop) (fuel : Nat) : Prop where
  value : ∀ c, Gives (fun r => P r.1) (readValue fuel c)
  items : ∀ acc c, (∀ v ∈ acc, P v) → Gives (fun r => ∀ v ∈ r.1, P v) (readItems fuel acc c)
  entries : ∀ acc c, AreEntries P acc → Gives (fun r => AreEntries P r.1) (readEntries fuel acc c)

omit hP in
theorem readsIn_zero : ReadsIn P 0 where
  value _ := .error
  items _ _ _ := .error
  entries _ _ _ := .error

theorem readValue_gives {fuel : Nat} (h : ReadsIn P fuel) (c : Cursor) :
    Gives (fun r => P r.1) (readValue (fuel + 1) c) := by
  unfold readValue
  split
  · exact .error
  · dsimp only
    split
    · exact (Gives.any _).bind fun _ _ => .ok (hP.str _)
    · split
      · split
        · exact .ok (hP.dict .nil)
        · exact (h.entries [] _ .nil).bind fun _ hr => .ok (hP.dict hr)
      · exact .error
    · split
      · split
        · exact .ok (hP.list (by simp))
        · exact (h.items [] _ (by simp)).bind fun _ hr => .ok (hP.list hr)
      · exact .error
    · split
      · rename_i hword
        exact .ok (scanWord_closed hP hword)
      · split
        · exact .error
        · rename_i hnumber
          exact (tokenValue_gives hP (scanNumber_digits hnumber)).bind fun _ hv => .ok hv

omit hP in
theorem readItems_gives {fuel : Nat} (h : ReadsIn P fuel) (acc : List HostValue) (c : Cursor)
    (hacc : ∀ v ∈ acc, P v) :
    Gives (fun r => ∀ v ∈ r.1, P v) (readItems (fuel + 1) acc c) := by
  unfold readItems
  refine (h.value c).bind fun r hr => ?_
  have hmore : ∀ v ∈ r.1 :: acc, P v := by
    intro v hv
    rcases List.mem_cons.mp hv with rfl | hv
    · exact hr
    · exact hacc v hv
  dsimp only
  split
  · split
    · exact .ok fun v hv => hmore v (List.mem_reverse.mp hv)
    · exact h.items _ _ hmore
    · exact .error
  · exact .error

omit hP in
theorem readEntries_gives {fuel : Nat} (h : ReadsIn P fuel) (acc : List (Text × HostValue))
    (c : Cursor) (hacc : AreEntries P acc) :
    Gives (fun r => AreEntries P r.1) (readEntries (fuel + 1) acc c) := by
  unfold readEntries
  split
  · exact .error
  · split
    · exact .error
    · refine (Gives.any _).bind fun key _ => ?_
      dsimp only
      split
      · exact .error
      · split
        · exact .error
        · refine (h.value _).bind fun r hr => ?_
          split
          · split
            · exact .ok (hacc.insert _ hr)
            · exact h.entries _ _ (hacc.insert _ hr)
            · exact .error
          · exact .error

theorem readsIn (fuel : Nat) : ReadsIn P fuel := by
  induction fuel with
  | zero => exact readsIn_zero
  | succ fuel ih => exact ⟨readValue_gives hP ih, readItems_gives ih, readEntries_gives ih⟩

/-- A JSON text denotes a value of each kind that covers what a reader puts together, if it denotes
anything. -/
theorem read_closed (t : Text) : Gives P (Json.read t) := by
  have hread : Gives P (readText t) := by
    unfold readText
    split
    · exact .error
    · refine ((readsIn hP _).value _).bind fun r hr => ?_
      dsimp only
      split
      · exact .ok hr
      · exact .error
  unfold Json.read
  split
  · rename_i v hv
    exact .ok (hread v hv)
  · exact .error

end Reading

/-- A JSON text denotes a tree, if it denotes anything. -/
theorem read_gives (t : Text) : Gives IsTree (Json.read t) := read_closed isClosed_isTree t

end ScriptHost.Proofs.JsonData
