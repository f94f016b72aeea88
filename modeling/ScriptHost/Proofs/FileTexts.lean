import ScriptHost.File.ScriptText
import ScriptHost.Proofs.ScriptFailures

/-!
# Texts of files

The bytes of a file are read as a text exactly if they are the UTF-8 form of that text, the form in
which the standard library keeps its strings.  All other bytes are refused.
-/

namespace ScriptHost.Proofs.FileTexts

open Utf8
open ScriptHost.Proofs.IntactTexts (decode_encodeAll not_surrogate)
open ScriptHost.Proofs.ScriptFailures (isScalar_ofString)

variable {position : Nat} {c : CodePoint} {t : Text} {bytes rest : List UInt8} {a b d e : UInt8}

/-! ## Strings of the standard library -/

/-- A character has the bytes that the standard library gives it. -/
theorem encodePoint_ofChar (ch : Char) : encodePoint (CodePoint.ofChar ch) = String.utf8EncodeChar ch := by
  have hmax : ch.val.toNat < 0x110000 := (CodePoint.ofChar ch).isLt
  have hval : (CodePoint.ofChar ch).val = ch.val.toNat := rfl
  unfold encodePoint String.utf8EncodeChar
  simp only [hval, Nat.toUInt8]
  generalize ch.val.toNat = v at hmax
  have hlast : 0x80 + v % 0x40 = v % 64 + 128 := by omega
  have hmiddle : 0x80 + v / 0x40 % 0x40 = v / 64 % 64 + 128 := by omega
  by_cases hone : v < 0x80
  · rw [if_pos hone, if_pos (show v ≤ 127 by omega)]
  rw [if_neg hone, if_neg (show ¬v ≤ 127 by omega)]
  by_cases htwo : v < 0x800
  · have hfirst : 0xC0 + v / 0x40 = v / 64 % 32 + 192 := by omega
    rw [if_pos htwo, if_pos (show v ≤ 2047 by omega), hfirst, hlast]
  rw [if_neg htwo, if_neg (show ¬v ≤ 2047 by omega)]
  by_cases hthree : v < 0x10000
  · have hfirst : 0xE0 + v / 0x1000 = v / 4096 % 16 + 224 := by omega
    rw [if_pos hthree, if_pos (show v ≤ 65535 by omega), hfirst, hmiddle, hlast]
  · have hfirst : 0xF0 + v / 0x40000 = v / 262144 % 8 + 240 := by omega
    have hsecond : 0x80 + v / 0x1000 % 0x40 = v / 4096 % 64 + 128 := by omega
    rw [if_neg hthree, if_neg (show ¬v ≤ 65535 by omega), hfirst, hsecond, hmiddle, hlast]

theorem encodeAll_ofString (s : String) : (encodeAll (Text.ofString s)).toByteArray = s.toUTF8 := by
  have hpoints : encodeAll (Text.ofString s) = s.toList.flatMap String.utf8EncodeChar := by
    unfold encodeAll Text.ofString
    rw [List.flatMap_map]
    exact List.flatMap_congr fun ch _ => encodePoint_ofChar ch
  calc (encodeAll (Text.ofString s)).toByteArray
      = s.toList.utf8Encode := congrArg List.toByteArray hpoints
    _ = (String.ofList s.toList).toByteArray := String.toByteArray_ofList.symm
    _ = s.toUTF8 := by rw [String.ofList_toList, String.toUTF8_eq_toByteArray]

/-- A code point that is no surrogate is a character. -/
theorem exists_char (hc : c.IsScalar) : ∃ ch : Char, c = CodePoint.ofChar ch := by
  have hrange := not_surrogate hc
  have hmax := c.isLt
  have hvalid : c.val.isValidChar := by
    unfold Nat.isValidChar
    omega
  refine ⟨Char.ofNat c.val, ?_⟩
  have hback : (Char.ofNat c.val).toNat = c.val := by rw [Char.toNat_ofNat, if_pos hvalid]
  cases c
  exact (CodePoint.mk.injEq ..).mpr hback.symm

/-- A text without surrogates is a string. -/
theorem exists_string (ht : t.IsScalar) : ∃ s : String, t = Text.ofString s := by
  have hchars : ∃ cs : List Char, t = cs.map CodePoint.ofChar := by
    induction t with
    | nil => exact ⟨[], rfl⟩
    | cons c t ih =>
        obtain ⟨hc, hrest⟩ := List.forall_mem_cons.mp ht
        obtain ⟨ch, rfl⟩ := exists_char hc
        obtain ⟨cs, rfl⟩ := ih hrest
        exact ⟨ch :: cs, rfl⟩
  obtain ⟨cs, rfl⟩ := hchars
  exact ⟨String.ofList cs, by rw [Text.ofString, String.toList_ofList]⟩

/-! ## Sequences of bytes -/

theorem isTail_iff : isTail b = true ↔ 0x80 ≤ b.toNat ∧ b.toNat < 0xC0 := by
  simp only [isTail, Bool.and_eq_true, decide_eq_true_eq]
  omega

theorem secondOfThree_iff : secondOfThree a b = true ↔ 0x80 ≤ b.toNat ∧ b.toNat < 0xC0 ∧
    (a.toNat = 0xE0 → 0xA0 ≤ b.toNat) ∧ (a.toNat = 0xED → b.toNat < 0xA0) := by
  have hfirst : ∀ n : UInt8, (a == n) = true ↔ a.toNat = n.toNat := by
    intro n
    rw [beq_iff_eq, UInt8.toNat_inj]
  unfold secondOfThree
  split_ifs with hlow hhigh
  · rw [hfirst] at hlow
    simp at hlow ⊢
    omega
  · rw [hfirst] at hlow hhigh
    simp at hlow hhigh ⊢
    omega
  · rw [hfirst] at hlow hhigh
    rw [isTail_iff]
    simp at hlow hhigh
    omega

theorem secondOfFour_iff : secondOfFour a b = true ↔ 0x80 ≤ b.toNat ∧ b.toNat < 0xC0 ∧
    (a.toNat = 0xF0 → 0x90 ≤ b.toNat) ∧ (a.toNat = 0xF4 → b.toNat < 0x90) := by
  have hfirst : ∀ n : UInt8, (a == n) = true ↔ a.toNat = n.toNat := by
    intro n
    rw [beq_iff_eq, UInt8.toNat_inj]
  unfold secondOfFour
  split_ifs with hlow hhigh
  · rw [hfirst] at hlow
    simp at hlow ⊢
    omega
  · rw [hfirst] at hlow hhigh
    simp at hlow hhigh ⊢
    omega
  · rw [hfirst] at hlow hhigh
    rw [isTail_iff]
    simp at hlow hhigh
    omega

theorem toUInt8_of_eq {n : Nat} (h : n = b.toNat) : n.toUInt8 = b := by
  subst h
  exact UInt8.ofNat_toNat

/-- The bytes of the code point of a number, by the bits that they hold. -/
theorem encodePoint_one (ha : a.toNat < 0x80) : encodePoint (CodePoint.ofNat a.toNat) = [a] := by
  unfold encodePoint
  rw [CodePoint.val_ofNat (by omega)]
  dsimp only
  rw [if_pos ha, toUInt8_of_eq rfl]

theorem encodePoint_two (ha : 0xC2 ≤ a.toNat ∧ a.toNat < 0xE0) (hb : 0x80 ≤ b.toNat ∧ b.toNat < 0xC0) :
    encodePoint (CodePoint.ofNat ((a.toNat - 0xC0) * 0x40 + tailBits b)) = [a, b] := by
  unfold encodePoint tailBits
  rw [CodePoint.val_ofNat (by omega)]
  dsimp only
  rw [if_neg (by omega), if_pos (by omega), toUInt8_of_eq (b := a) (by omega), toUInt8_of_eq (b := b) (by omega)]

theorem encodePoint_three (ha : 0xE0 ≤ a.toNat ∧ a.toNat < 0xF0) (hb : 0x80 ≤ b.toNat ∧ b.toNat < 0xC0)
    (hlow : a.toNat = 0xE0 → 0xA0 ≤ b.toNat) (hd : 0x80 ≤ d.toNat ∧ d.toNat < 0xC0) :
    encodePoint (CodePoint.ofNat ((a.toNat - 0xE0) * 0x1000 + tailBits b * 0x40 + tailBits d)) = [a, b, d] := by
  unfold encodePoint tailBits
  rw [CodePoint.val_ofNat (by omega)]
  dsimp only
  rw [if_neg (by omega), if_neg (by omega), if_pos (by omega), toUInt8_of_eq (b := a) (by omega),
    toUInt8_of_eq (b := b) (by omega), toUInt8_of_eq (b := d) (by omega)]

theorem encodePoint_four (ha : 0xF0 ≤ a.toNat ∧ a.toNat < 0xF5) (hb : 0x80 ≤ b.toNat ∧ b.toNat < 0xC0)
    (hlow : a.toNat = 0xF0 → 0x90 ≤ b.toNat) (hhigh : a.toNat = 0xF4 → b.toNat < 0x90)
    (hd : 0x80 ≤ d.toNat ∧ d.toNat < 0xC0) (he : 0x80 ≤ e.toNat ∧ e.toNat < 0xC0) :
    encodePoint (CodePoint.ofNat ((a.toNat - 0xF0) * 0x40000 + tailBits b * 0x1000 + tailBits d * 0x40 +
      tailBits e)) = [a, b, d, e] := by
  unfold encodePoint tailBits
  rw [CodePoint.val_ofNat (by omega)]
  dsimp only
  rw [if_neg (by omega), if_neg (by omega), if_neg (by omega), toUInt8_of_eq (b := a) (by omega),
    toUInt8_of_eq (b := b) (by omega), toUInt8_of_eq (b := d) (by omega), toUInt8_of_eq (b := e) (by omega)]

theorem isScalar_ofNat {n : Nat} (hn : n < 0xD800 ∨ 0xE000 ≤ n ∧ n < 0x110000) :
    (CodePoint.ofNat n).IsScalar := by
  unfold CodePoint.IsScalar CodePoint.isSurrogate
  rw [CodePoint.val_ofNat (by omega)]
  simp only [Bool.and_eq_false_iff, decide_eq_false_iff_not]
  omega

/-- Bytes that are accepted start with the bytes of a scalar value, and what follows is accepted. -/
def OpensWith (bytes : List UInt8) (t : Text) : Prop :=
  ∃ c later rest u, c.IsScalar ∧ bytes = encodePoint c ++ rest ∧ decodeFrom later rest = .ok u ∧ t = c :: u

theorem opensWith_point (hc : c.IsScalar) (hbytes : bytes = encodePoint c ++ rest)
    (h : (do return c :: (← decodeFrom position rest)) = .ok t) : OpensWith bytes t := by
  cases hrest : decodeFrom position rest with
  | error f =>
      rw [hrest] at h
      cases h
  | ok u =>
      rw [hrest] at h
      cases h
      exact ⟨c, position, rest, u, hc, hbytes, hrest, rfl⟩

theorem opensWith_of_decodeFrom (h : decodeFrom position (a :: rest) = .ok t) : OpensWith (a :: rest) t := by
  rw [decodeFrom.eq_def] at h
  dsimp only at h
  split_ifs at h with hone hstart htwo hthree hfour
  · refine opensWith_point (isScalar_ofNat (by omega)) ?_ h
    rw [encodePoint_one hone, List.singleton_append]
  · split at h
    · cases h
    · rename_i b rest
      split_ifs at h with hb
      rw [isTail_iff] at hb
      refine opensWith_point (isScalar_ofNat (by unfold tailBits; omega)) ?_ h
      rw [encodePoint_two (by omega) hb]
      rfl
  · split at h
    · cases h
    · rename_i b rest
      split_ifs at h with hb
      rw [secondOfThree_iff] at hb
      split at h
      · cases h
      · rename_i d rest
        split_ifs at h with hd
        rw [isTail_iff] at hd
        refine opensWith_point (isScalar_ofNat (by unfold tailBits; omega)) ?_ h
        rw [encodePoint_three (by omega) (by omega) (by omega) hd]
        rfl
  · split at h
    · cases h
    · rename_i b rest
      split_ifs at h with hb
      rw [secondOfFour_iff] at hb
      split at h
      · cases h
      · rename_i d rest
        split_ifs at h with hd
        rw [isTail_iff] at hd
        split at h
        · cases h
        · rename_i e rest
          split_ifs at h with he
          rw [isTail_iff] at he
          refine opensWith_point (isScalar_ofNat (by unfold tailBits; omega)) ?_ h
          rw [encodePoint_four (by omega) (by omega) (by omega) (by omega) hd he]
          rfl

theorem length_encodePoint_pos (c : CodePoint) : 0 < (encodePoint c).length := by
  unfold encodePoint
  dsimp only
  split_ifs
  all_goals
    exact Nat.succ_pos _

/-- Bytes that are accepted are the bytes of their text, which has no surrogates. -/
theorem encodeAll_of_decodeFrom (h : decodeFrom position bytes = .ok t) : t.IsScalar ∧ bytes = encodeAll t := by
  induction hlength : bytes.length using Nat.strong_induction_on generalizing position bytes t with
  | h n ih =>
    cases bytes with
    | nil =>
        cases h
        exact ⟨by simp [Text.IsScalar], rfl⟩
    | cons a rest =>
        obtain ⟨c, later, rest', u, hc, hbytes, hrest, rfl⟩ := opensWith_of_decodeFrom h
        have hpos := length_encodePoint_pos c
        have hsum := congrArg List.length hbytes
        rw [List.length_append] at hsum
        obtain ⟨hu, hencoded⟩ := ih rest'.length (by omega) hrest rfl
        refine ⟨List.forall_mem_cons.mpr ⟨hc, hu⟩, ?_⟩
        rw [hbytes, hencoded]
        rfl

theorem decode_eq_ok_iff : decode bytes = .ok t ↔ t.IsScalar ∧ bytes = encodeAll t := by
  constructor
  · exact encodeAll_of_decodeFrom
  · rintro ⟨ht, rfl⟩
    exact decode_encodeAll ht

/-- A surrogate, an overlong form and a number past the last code point are refused. -/
example : [[0xED, 0xA0, 0x80], [0xC0, 0x80], [0xF4, 0x90, 0x80, 0x80]].map (fun bytes => (decode bytes).isOk) =
    [false, false, false] := by decide

/-! ## Main result -/

/-- The bytes are the UTF-8 form of a text. -/
def IsFormOf (bytes : List UInt8) (t : Text) : Prop :=
  ∃ s : String, t = Text.ofString s ∧ bytes.toByteArray = s.toUTF8

theorem isFormOf_iff : IsFormOf bytes t ↔ decode bytes = .ok t := by
  rw [decode_eq_ok_iff]
  constructor
  · rintro ⟨s, rfl, hbytes⟩
    rw [← encodeAll_ofString, List.toByteArray_inj] at hbytes
    exact ⟨isScalar_ofString s, hbytes⟩
  · rintro ⟨ht, rfl⟩
    obtain ⟨s, rfl⟩ := exists_string ht
    exact ⟨s, rfl, encodeAll_ofString s⟩

variable {files : FileTree} {path : HostValue} {p : FilePath}

/-- Once a path can be handed to the file system, what it leads to decides. -/
theorem load_checked (hpath : FilePath.ofValue path = .ok p) (hcheck : p.check = .ok ())
    (encoding : Text) :
    ScriptText.load files path encoding = match files.find p with
      | .error e => .error (.failure (.notRegularFile p.toText (some e.cls)))
      | .ok (.regular bytes) => ScriptText.decode p.toText encoding bytes
      | .ok (.unreadable reason) =>
        .error (.failure (.unreadable p.toText (.str reason) (some .operatingSystem)))
      | .ok _ => .error (.failure (.notRegularFile p.toText none)) := by
  unfold ScriptText.load
  rw [hpath]
  change (do p.check; _) = _
  rw [hcheck]
  rfl

/-- What a regular file that can be read is loaded as. -/
theorem load_regular (hpath : FilePath.ofValue path = .ok p) (hcheck : p.check = .ok ())
    (hfile : files.find p = .ok (.regular bytes)) (encoding : Text) :
    ScriptText.load files path encoding = ScriptText.decode p.toText encoding bytes := by
  rw [load_checked hpath hcheck, hfile]

theorem decode_default (shown : Text) (bytes : List UInt8) :
    ScriptText.decode shown ScriptText.defaultEncoding bytes =
      match decode bytes with
      | .ok t => .ok t
      | .error e => .error (.failure (.unreadable shown
          (.str ("not valid utf-8 text (" ++ Text.ofString e.defect.reason ++ ")")) (some .decode))) := by
  have hcharset : Charset.ofName? ScriptText.defaultEncoding = some .utf8 := by decide
  unfold ScriptText.decode
  rw [hcharset]
  unfold Charset.decode Charset.decodeUtf8
  cases decode bytes with
  | ok t => rfl
  | error e => rfl

/-- A regular file that can be read gives a text if and only if its bytes are the UTF-8 form of that
text; any other file is refused with its path, and what was written of a string is read as the string. -/
theorem file_gives_its_text (hpath : FilePath.ofValue path = .ok p) (hcheck : p.check = .ok ())
    (hfile : files.find p = .ok (.regular bytes)) :
    (∀ t, ScriptText.load files path ScriptText.defaultEncoding = .ok t ↔ IsFormOf bytes t) ∧
    ((¬∃ t, IsFormOf bytes t) → ∃ reason, ScriptText.load files path ScriptText.defaultEncoding =
      .error (.failure (.unreadable p.toText (.str ("not valid utf-8 text (" ++ reason ++ ")"))
        (some .decode)))) ∧
    ∀ s : String, bytes.toByteArray = s.toUTF8 →
      ScriptText.load files path ScriptText.defaultEncoding = .ok (Text.ofString s) := by
  have hload : ∀ t, ScriptText.load files path ScriptText.defaultEncoding = .ok t ↔ IsFormOf bytes t := by
    intro t
    rw [load_regular hpath hcheck hfile, decode_default, isFormOf_iff]
    cases decode bytes with
    | ok u => simp
    | error e => simp
  refine ⟨hload, ?_, ?_⟩
  · intro hnone
    rw [load_regular hpath hcheck hfile, decode_default]
    cases hdecode : decode bytes with
    | ok t => exact absurd ⟨t, isFormOf_iff.mpr hdecode⟩ hnone
    | error e => exact ⟨_, rfl⟩
  · intro s hs
    exact (hload _).mpr ⟨s, rfl, hs⟩

/-- A working directory with a file of a byte order mark, a letter, a line end of two characters and the
zero character. -/
def markedFiles : FileTree :=
  FileTree.empty.insert "a.js" (.regular [0xEF, 0xBB, 0xBF, 0x61, 0x0D, 0x0A, 0x00])

theorem marked_file_gives_its_text :
    FilePath.ofValue (.str "a.js") = .ok (FilePath.ofText "a.js") ∧ (FilePath.ofText "a.js").check = .ok () ∧
    markedFiles.find (FilePath.ofText "a.js") =
      .ok (.regular [0xEF, 0xBB, 0xBF, 0x61, 0x0D, 0x0A, 0x00]) ∧
    ScriptText.load markedFiles (.str "a.js") ScriptText.defaultEncoding =
      .ok (Text.ofString "\ufeffa\r\n\x00") := by
  have hpath : FilePath.ofValue (.str "a.js") = .ok (FilePath.ofText "a.js") := rfl
  have hcheck : (FilePath.ofText "a.js").check = .ok () := rfl
  have hfile : markedFiles.find (FilePath.ofText "a.js") =
      .ok (.regular [0xEF, 0xBB, 0xBF, 0x61, 0x0D, 0x0A, 0x00]) := by decide
  exact ⟨hpath, hcheck, hfile, (file_gives_its_text hpath hcheck hfile).2.2 _ (by decide)⟩

end ScriptHost.Proofs.FileTexts
