import ScriptHost.Instance.ScriptEngine
import ScriptHost.Proofs.ImagedItems
import ScriptHost.Proofs.RenderedCapability

/-!
# Capabilities without functions

A capability in which nothing can be called is rendered as its literal is written: the rendering goes
through the tree member by member, the literal is the text of the image as a whole, and both give the
same text or none.  The induction is over the capability, as the rendering walks it; below an
enumeration member, a record or an object with a script method the rendering is the literal itself.
-/

namespace ScriptHost.Proofs.PlainCapabilities

open HostValue Interpreter Json
open ScriptHost.Proofs.ImagedItems
open ScriptHost.Proofs.Transition

/-! ## Capabilities that are plain -/

mutual

/-- Where the rendering looks there are no exports that can be called, nothing that is bridged, and no
class with a script method. -/
def isPlain : HostValue → Bool
  | .list xs | .tuple xs => allPlain xs
  | .dict es | .mappingView es => allEntriesPlain es
  | .object _ toScript exports call => !exports.isCallable && (call.isNone || toScript.isPresent)
  | .classObject _ _ toScript _ => !toScript.isPresent
  | .function _ _ => false
  | _ => true

/-- Whether all items are plain. -/
def allPlain : List HostValue → Bool
  | [] => true
  | v :: rest => isPlain v && allPlain rest

/-- Whether all values of entries are plain. -/
def allEntriesPlain : List (HostValue × HostValue) → Bool
  | [] => true
  | (_, v) :: rest => isPlain v && allEntriesPlain rest

end

/-! ## Rendering -/

variable {E V α β : Type} {X : Interpreter E V} {v : HostValue}

/-- What is rendered is what is written, nothing is rendered that cannot be written, and nothing is
issued or changed on the way. -/
abbrev RendersAs (body : BuildM E V α) (written : Except Fault α) : Prop :=
  Meets (fun p p' => p' = p) (fun a => written = .ok a) (fun _ => ∀ a, written ≠ .ok a) body

theorem chains_same : Chains fun p p' : List Nat × E × Instance V => p' = p := chains_eq id

theorem rendersAs_ofExcept (r : Except Fault α) :
    RendersAs (BuildM.ofExcept r : BuildM E V α) r := by
  intro p
  cases r with
  | ok a => exact ⟨rfl, rfl⟩
  | error f => exact ⟨rfl, fun a h => by cases h⟩

theorem rendersAs_refused {f : Fault} {written : Except Fault α} (h : ∀ a, written ≠ .ok a) :
    RendersAs (throw f : BuildM E V α) written :=
  Meets.throw chains_same h

theorem RendersAs.bind {body : BuildM E V α} {k : α → BuildM E V β} {r : Except Fault α}
    {written : Except Fault β} (h : RendersAs body r)
    (hnone : (∀ a, r ≠ .ok a) → ∀ b, written ≠ .ok b)
    (hk : ∀ a, r = .ok a → RendersAs (k a) written) : RendersAs (body >>= k) written :=
  (Meets.weaken h id (fun _ => id) fun _ => hnone).bind chains_same hk

theorem RendersAs.cons {body : BuildM E V (List Text)} {r : Except Fault (List Text)} {t : Text}
    (h : RendersAs body r) : RendersAs (do return t :: (← body)) (do return t :: (← r)) := by
  refine RendersAs.bind h (fun hnone ts hts => ?_) fun ts hts => ?_
  · obtain ⟨us, hus, -⟩ := bind_eq_ok.mp hts
    exact hnone us hus
  · exact Meets.pure chains_same (bind_eq_ok.mpr ⟨ts, hts, rfl⟩)

/-- What follows from texts that have been rendered is written if they are. -/
theorem RendersAs.bracketed {body : BuildM E V (List Text)} {r : Except Fault (List Text)}
    {written : Except Fault Text} {o c : String}
    (hwritten : ∀ t, written = .ok t ↔ ∃ ts, r = .ok ts ∧ t = Json.bracketed o c ts)
    (h : RendersAs body r) :
    RendersAs (do return Json.bracketed o c (← body)) written := by
  refine RendersAs.bind h (fun hnone t ht => ?_) fun ts hts => ?_
  · obtain ⟨ts, hts, -⟩ := (hwritten t).mp ht
    exact hnone ts hts
  · exact Meets.pure chains_same ((hwritten _).mpr ⟨ts, hts, rfl⟩)

mutual

/-- A plain capability is rendered as its literal. -/
theorem build_plain (path : HostValue) :
    ∀ v : HostValue, isPlain v = true → RendersAs (X.build path v) v.literal
  | .dict es, h => (buildMembers_plain path es h).bracketed fun _ => literal_dict
  | .mappingView es, h => by
      refine (buildMembers_plain path es h).bracketed fun t => ?_
      unfold literal
      rw [image_mappingView]
      exact literal_dict
  | .list xs, h => (buildItems_plain path 0 xs h).bracketed fun _ => literal_list
  | .tuple xs, h => by
      refine (buildItems_plain path 0 xs h).bracketed fun t => ?_
      unfold literal
      rw [image_tuple]
      exact literal_list
  | .object typeName toScript exports call, h => by
      obtain ⟨hexports, hcall⟩ := Bool.and_eq_true_iff.mp h
      have hbridged : ¬(call.isSome && !toScript.isPresent) = true := by
        cases call with
        | none => simp
        | some v => simpa using hcall
      unfold Interpreter.build
      rw [if_neg (by simpa using hexports), if_neg hbridged]
      exact rendersAs_ofExcept _
  | .enumeration v, _ => rendersAs_refused fun _ h => by cases h
  | .recordType fields, _ => rendersAs_refused fun _ h => by cases h
  | .classObject metaName name .absent exports, _ => rendersAs_refused fun _ h => by cases h
  | .none, _ | .bool _, _ | .int _, _ | .float _, _ | .str _, _ | .intMember _, _
  | .strMember _, _ | .member _, _ | .set _, _ | .bytes _, _ | .complex _ _, _
  | .record _, _ => rendersAs_ofExcept _
termination_by structural v => v

theorem buildMembers_plain (path : HostValue) :
    ∀ es : List (HostValue × HostValue), allEntriesPlain es = true →
      RendersAs (X.buildMembers path es) (es.mapM entryLiteral)
  | [], _ => Meets.pure chains_same rfl
  | (key, v) :: rest, h => by
      obtain ⟨hv, hrest⟩ := Bool.and_eq_true_iff.mp h
      rw [List.mapM_cons]
      unfold Interpreter.buildMembers
      cases hkey : key.text? with
      | none =>
          refine rendersAs_refused fun ts hts => ?_
          obtain ⟨t, ht, -⟩ := bind_eq_ok.mp hts
          obtain ⟨s, -, hs, -⟩ := entryLiteral_eq_ok.mp ht
          rw [hkey] at hs
          cases hs
      | some s =>
          refine (build_plain (memberPath path key) v hv).bind (fun hnone ts hts => ?_) fun t ht => ?_
          · obtain ⟨u, hu, -⟩ := bind_eq_ok.mp hts
            obtain ⟨-, w, -, hw, -⟩ := entryLiteral_eq_ok.mp hu
            exact hnone w hw
          have hentry : entryLiteral (key, v) = .ok (renderedMember s t) :=
            entryLiteral_eq_ok.mpr ⟨s, t, hkey, ht, rfl⟩
          rw [hentry]
          exact (buildMembers_plain path rest hrest).cons
termination_by structural es => es

theorem buildItems_plain (path : HostValue) (i : Nat) :
    ∀ xs : List HostValue, allPlain xs = true →
      RendersAs (X.buildItems path i xs) (xs.mapM literal)
  | [], _ => Meets.pure chains_same rfl
  | v :: rest, h => by
      obtain ⟨hv, hrest⟩ := Bool.and_eq_true_iff.mp h
      rw [List.mapM_cons]
      unfold Interpreter.buildItems
      refine (build_plain (itemPath path i) v hv).bind (fun hnone ts hts => ?_) fun t ht => ?_
      · obtain ⟨u, hu, -⟩ := bind_eq_ok.mp hts
        exact hnone u hu
      rw [ht]
      exact (buildItems_plain path (i + 1) rest hrest).cons
termination_by structural xs => xs

end

/-! ## Main result -/

/-- A mapping with members of all kinds. -/
def nestedMapping : HostValue :=
  .mappingView [(.ofString "a", .tuple [.member (.int 1), .none, .list []]),
    (.strMember "b\n", .record [("x", .ofString "y", .bool true), ("z", .ofString "", .set [])]),
    (.ofString "c", .object "Scripted" (.method (.ofString "d")) .absent (some .none))]

end ScriptHost.Proofs.PlainCapabilities
