import ScriptHost.Proofs.FileTexts
import ScriptHost.Proofs.ScriptFailures

/-!
# Instances from script files

A file that is no regular one, cannot be read or is no text is refused with the path as it is shown; the
failure of its script carries the path as it was given.  Nothing else is raised for a path that can be
handed to the file system.
-/

namespace ScriptHost.Proofs.LoadedScripts

open Interpreter ScriptEngine
open Script
open ScriptHost.Proofs.FileTexts (load_checked)
open ScriptHost.Proofs.PreparedInstances
open ScriptHost.Proofs.ScriptFailures

variable {files : FileTree} {path t : Text} {f : Fault} {g : Failure} {s : Machine × Host}

/-! ## Files -/

/-- A path shows as some text. -/
theorem toText_ne_nil (p : FilePath) : p.toText ≠ [] := by
  unfold FilePath.toText
  dsimp only
  split
  · decide
  · rename_i hjoined
    simpa using hjoined

/-- The empty path leads to the working directory. -/
theorem find_working (files : FileTree) : files.find (FilePath.ofText []) = .ok .directory := rfl

/-- What refuses a file: it is no regular one, it cannot be read, or its bytes are no text. -/
structure IsFileFailure (path : Text) (g : Failure) : Prop where
  kind : g.kind = .notRegularFile ∨ g.kind = .unreadable
  path : g.path = .str (FilePath.ofText path).toText
  body : ∃ b, g.body = .str b

theorem isFileFailure_decode {bytes : List UInt8}
    (h : ScriptText.decode (FilePath.ofText path).toText ScriptText.defaultEncoding bytes = .error f) :
    ∃ g, f = .failure g ∧ IsFileFailure path g := by
  have hcharset : Charset.ofName? ScriptText.defaultEncoding = some .utf8 := by decide
  unfold ScriptText.decode at h
  rw [hcharset] at h
  dsimp only at h
  split at h
  · cases h
  · cases h
    exact ⟨_, rfl, .inr rfl, rfl, _, rfl⟩

/-- Once a path can be handed to the file system, only the file can be wrong with it. -/
theorem load_fails (hcheck : (FilePath.ofText path).check = .ok ())
    (h : ScriptText.load files (.str path) ScriptText.defaultEncoding = .error f) :
    ∃ g, f = .failure g ∧ IsFileFailure path g := by
  rw [load_checked rfl hcheck] at h
  split at h
  · cases h
    exact ⟨_, rfl, .inl rfl, rfl, _, rfl⟩
  · exact isFileFailure_decode h
  · cases h
    exact ⟨_, rfl, .inr rfl, rfl, _, rfl⟩
  · cases h
    exact ⟨_, rfl, .inl rfl, rfl, _, rfl⟩

/-- The text of a script file comes from a path that is not empty and can be handed to the file
system. -/
theorem checked_of_load (h : ScriptText.load files (.str path) ScriptText.defaultEncoding = .ok t) :
    (FilePath.ofText path).check = .ok () ∧ path ≠ [] := by
  unfold ScriptText.load at h
  change (do (FilePath.ofText path).check; _) = _ at h
  cases hcheck : (FilePath.ofText path).check with
  | error e =>
      rw [hcheck] at h
      cases h
  | ok u =>
      refine ⟨rfl, ?_⟩
      rintro rfl
      rw [hcheck] at h
      cases h

/-! ## Messages -/

/-- A failure carries a path and says it first. -/
structure SaysPath (p : Text) (g : Failure) : Prop where
  path : g.path = .str p
  nonempty : p ≠ []
  message : ∃ rest, g.message? = some (p ++ rest)

theorem saysPath (hpath : g.path = .str t) (hne : t ≠ []) : SaysPath t g := by
  refine ⟨hpath, hne, ": " ++ Failure.shown g.body, ?_⟩
  have htruthy : g.path.isTruthy = true := by
    rw [hpath]
    simpa [HostValue.isTruthy] using hne
  unfold Failure.message?
  rw [if_pos htruthy, hpath]
  exact congrArg some (List.append_assoc _ _ _)

/-! ## Main result -/

theorem constructFrom_unloaded (plan : Blueprint) (s : Machine × Host)
    (h : ScriptText.load files (.str path) ScriptText.defaultEncoding = .error f) :
    interpreter.constructFrom plan files (.str path) s = .error f s := by
  change EStateM.bind _ _ s = _
  unfold EStateM.bind
  rw [h]
  rfl

theorem constructFrom_loaded (plan : Blueprint) (s : Machine × Host)
    (h : ScriptText.load files (.str path) ScriptText.defaultEncoding = .ok t) :
    interpreter.constructFrom plan files (.str path) s =
      match interpreter.construct plan (.str t) s with
      | .ok u s' => .ok u s'
      | .error (.failure g) s' => .error (.failure (g.withPath (.str path))) s'
      | .error f s' => .error f s' := by
  change EStateM.bind _ _ s = _
  unfold EStateM.bind
  rw [h]
  change EStateM.tryCatch _ _ s = _
  unfold EStateM.tryCatch
  cases interpreter.construct plan (.str t) s with
  | ok u s' => rfl
  | error f s' => cases f <;> rfl

/-- Building an instance from a file, for a path that can be handed to the file system.  If it succeeds,
the file has been read and an instance has been built for its text.  If it fails, the failure carries a
path that its message starts with: either the file is refused, or its text is read and building an
instance for the text fails in the same way but for the path. -/
theorem files_fail_with_path {entrypoint : HostValue} (hcheck : (FilePath.ofText path).check = .ok ()) :
    (∀ s, interpreter.constructFrom (blueprint entrypoint) files (.str path) fresh = .ok () s →
      ∃ t, ScriptText.load files (.str path) ScriptText.defaultEncoding = .ok t ∧
        interpreter.construct (blueprint entrypoint) (.str t) fresh = .ok () s) ∧
    ∀ f s, interpreter.constructFrom (blueprint entrypoint) files (.str path) fresh = .error f s →
      ∃ g p, f = .failure g ∧ SaysPath p g ∧
        ((g.kind = .notRegularFile ∨ g.kind = .unreadable) ∧ p = (FilePath.ofText path).toText ∨
          ∃ t g', ScriptText.load files (.str path) ScriptText.defaultEncoding = .ok t ∧
            interpreter.construct (blueprint entrypoint) (.str t) fresh = .error (.failure g') s ∧
            p = path ∧ g.kind = .scriptExecution ∧ g'.kind = g.kind ∧ g'.body = g.body) := by
  cases hload : ScriptText.load files (.str path) ScriptText.defaultEncoding with
  | error e =>
      have hfails := constructFrom_unloaded (blueprint entrypoint) fresh hload
      refine ⟨fun s h => ?_, fun f s h => ?_⟩
      · cases hfails.symm.trans h
      · cases hfails.symm.trans h
        obtain ⟨g, rfl, hg⟩ := load_fails hcheck hload
        exact ⟨g, _, rfl, saysPath hg.path (toText_ne_nil _), .inl ⟨hg.kind, rfl⟩⟩
  | ok t =>
      have hloaded := constructFrom_loaded (blueprint entrypoint) fresh hload
      have hpath := (checked_of_load hload).2
      refine ⟨fun s h => ?_, fun f s h => ?_⟩
      · rw [hloaded] at h
        split at h
        · cases h
          exact ⟨t, rfl, ‹_›⟩
        · cases h
        · cases h
      · rw [hloaded] at h
        split at h
        · cases h
        · rename_i g' s' hconstruct
          cases h
          obtain ⟨m, cause, heq, -⟩ := construct_fails hconstruct
          cases heq
          exact ⟨_, path, rfl, saysPath rfl hpath, .inr ⟨t, _, rfl, hconstruct, rfl, rfl, rfl, rfl⟩⟩
        · rename_i f' s' hother hconstruct
          obtain ⟨m, cause, rfl, -⟩ := construct_fails hconstruct
          exact absurd rfl (hother _)

/-- A file that is not there. -/
def missingPath : Text := "lib/missing.js"

theorem missing_file_fails_with_path : (FilePath.ofText missingPath).check = .ok () ∧
    ∃ g s, interpreter.constructFrom (blueprint .none) FileTree.empty (.str missingPath) fresh =
        .error (.failure g) s ∧ SaysPath missingPath g ∧ g.kind = .notRegularFile := by
  have hcheck : (FilePath.ofText missingPath).check = .ok () := rfl
  have hload : ScriptText.load FileTree.empty (.str missingPath) ScriptText.defaultEncoding =
      .error (.failure (.notRegularFile missingPath (some .fileNotFound))) := rfl
  have hfails := constructFrom_unloaded (blueprint .none) fresh hload
  refine ⟨hcheck, _, fresh, hfails, ?_⟩
  obtain ⟨-, herror⟩ := @files_fail_with_path FileTree.empty missingPath .none hcheck
  obtain ⟨g, p, heq, hsays, ⟨-, hp⟩ | ⟨t, -, hloaded, -⟩⟩ := herror _ _ hfails
  · cases heq
    have hshown : p = missingPath := hp
    exact ⟨hshown ▸ hsays, rfl⟩
  · cases hload.symm.trans hloaded

/-- A path with a zero character. -/
def zeroPath : Text := "a\x00b"

/-- For a path with a zero character a value is wrong, and there is no failure that carries the path. -/
theorem zero_path_is_not_reported :
    ∃ f s, interpreter.constructFrom (blueprint .none) FileTree.empty (.str zeroPath) fresh = .error f s ∧
      f.cls = .value ∧ ∀ g, f ≠ .failure g := by
  have hload : ScriptText.load FileTree.empty (.str zeroPath) ScriptText.defaultEncoding =
      .error (.worded .value "embedded null byte") := rfl
  exact ⟨_, fresh, constructFrom_unloaded _ fresh hload, rfl, fun g h => by cases h⟩

end ScriptHost.Proofs.LoadedScripts
