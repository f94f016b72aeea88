import ScriptHost.Host.Call
import ScriptHost.Instance.Capability

/-!
# What host operations fail with

The host's own operations - images, JSON texts, sums, orders, patterns, arity checks, and the calls
of host functions made of them - may fail in many ways, but none of them ends in one of the
runtime's own failures.  Those are built only where the runtime registers, looks up and calls.
-/

namespace ScriptHost.Proofs.HostFaults

variable {α β : Type}

/-- A host operation that fails, if it does, with a fault in `P`. -/
def FailsIn (P : Fault → Prop) (r : Except Fault α) : Prop := ∀ f, r = .error f → P f

/-- A fault that is none of the runtime's own failures. -/
def Foreign (f : Fault) : Prop := ∀ g, f ≠ .failure g

namespace FailsIn

variable {P : Fault → Prop}

theorem ok (a : α) : FailsIn P (.ok a) := by
  intro f h
  cases h

theorem error {f : Fault} (h : P f) : FailsIn P (.error f : Except Fault α) := by
  intro g hg
  cases hg
  exact h

theorem bind {x : Except Fault α} {k : α → Except Fault β} (hx : FailsIn P x)
    (hk : ∀ a, FailsIn P (k a)) : FailsIn P (x >>= k) := by
  cases x with
  | ok a => exact hk a
  | error f => exact FailsIn.error (hx f rfl)

theorem mapM {γ : Type} {k : γ → Except Fault α} (items : List γ)
    (hitems : ∀ x ∈ items, FailsIn P (k x)) : FailsIn P (items.mapM k) := by
  induction items with
  | nil => exact .ok _
  | cons x rest ih =>
      rw [List.mapM_cons]
      refine (hitems x List.mem_cons_self).bind fun _ => FailsIn.bind ?_ fun _ => .ok _
      exact ih fun y hy => hitems y (List.mem_cons_of_mem x hy)

theorem forM {γ : Type} {k : γ → Except Fault PUnit} (hk : ∀ x, FailsIn P (k x))
    (items : List γ) : FailsIn P (items.forM k) := by
  induction items with
  | nil => exact .ok _
  | cons x rest ih => exact (hk x).bind fun _ => ih

theorem foldlM {γ : Type} {k : β → γ → Except Fault β} (hk : ∀ b x, FailsIn P (k b x))
    (items : List γ) (b : β) : FailsIn P (items.foldlM k b) := by
  induction items generalizing b with
  | nil => exact .ok _
  | cons x rest ih =>
      rw [List.foldlM_cons]
      exact (hk b x).bind fun b' => ih b'

end FailsIn

theorem foreign_tagName (tag : HostValue) : FailsIn Foreign tag.tagName? := by
  unfold HostValue.tagName?
  split
  · exact .ok _
  · exact .error (by simp [Foreign])

theorem foreign_declaredNames (fields : List (Text × HostValue × HostValue)) :
    FailsIn Foreign (HostValue.declaredNames fields) := by
  induction fields with
  | nil => exact .ok _
  | cons field rest ih =>
      obtain ⟨name, tag, v⟩ := field
      exact (foreign_tagName tag).bind fun _ => ih.bind fun _ => .ok _

mutual

theorem foreign_image : ∀ v : HostValue, FailsIn Foreign v.image
  | .none | .bool _ | .int _ | .float _ | .str _ | .intMember _ | .strMember _ => .ok _
  | .member v => foreign_image v
  | .list xs => (foreign_imageItems xs).bind fun _ => .ok _
  | .tuple xs => (foreign_imageItems xs).bind fun _ => .ok _
  | .dict es => (foreign_imageEntries es).bind fun _ => .ok _
  | .mappingView es => (foreign_imageEntries es).bind fun _ => .ok _
  | .record fields =>
      (foreign_declaredNames fields).bind fun _ =>
        (foreign_imageFields fields).bind fun _ => .ok _
  | .object name toScript _ _ => foreign_imageOf _ toScript
  | .classObject _ _ toScript _ => foreign_imageOf _ toScript
  | .enumeration _ | .set _ | .bytes _ | .complex _ _ | .recordType _ | .function _ _ =>
      .error (by simp [Foreign])

theorem foreign_imageOf (typeName : String) :
    ∀ a : Attribute, FailsIn Foreign (HostValue.imageOf typeName a)
  | .method result => foreign_image result
  | .failing _ _ | .unbound _ | .plain _ | .absent => .error (by simp [Foreign])

theorem foreign_imageItems : ∀ vs : List HostValue, FailsIn Foreign (HostValue.imageItems vs)
  | [] => .ok _
  | v :: rest =>
      (foreign_image v).bind fun _ => (foreign_imageItems rest).bind fun _ => .ok _

theorem foreign_imageEntries :
    ∀ es : List (HostValue × HostValue), FailsIn Foreign (HostValue.imageEntries es)
  | [] => .ok _
  | (k, v) :: rest => by
      unfold HostValue.imageEntries
      split
      · exact (foreign_image v).bind fun _ =>
          (foreign_imageEntries rest).bind fun _ => .ok _
      · exact .error (by simp [Foreign])

theorem foreign_imageFields :
    ∀ fs : List (Text × HostValue × HostValue), FailsIn Foreign (HostValue.imageFields fs)
  | [] => .ok _
  | (_, tag, v) :: rest => by
      unfold HostValue.imageFields
      refine (foreign_tagName tag).bind fun name? => ?_
      cases name? with
      | some name =>
          exact (foreign_image v).bind fun _ =>
            (foreign_imageFields rest).bind fun _ => .ok _
      | none => exact foreign_imageFields rest

end

/-! ## JSON texts -/

theorem foreign_writeInt (i : Int) : FailsIn Foreign (Json.writeInt i) := by
  unfold Json.writeInt
  split
  · exact .ok _
  · exact .error (by simp [Foreign])

theorem foreign_keyText (v : HostValue) : FailsIn Foreign (Json.keyText v) := by
  cases v with
  | int i => exact foreign_writeInt i
  | intMember i => exact foreign_writeInt i
  | str s => exact .ok _
  | strMember s => exact .ok _
  | float x => exact .ok _
  | bool b => exact .ok _
  | none => exact .ok _
  | _ => exact .error (by simp [Foreign])

theorem foreign_checkOrder (keys : List HostValue) : FailsIn Foreign (Json.checkOrder keys) := by
  fun_induction Json.checkOrder keys with
  | case1 a b rest below hbelow ih => exact ih
  | case2 a b rest hbelow => exact .error (by simp [Foreign])
  | case3 keys hkeys => exact .ok _

mutual

theorem foreign_write (style : Json.Style) : ∀ v : HostValue, FailsIn Foreign (Json.write style v)
  | .none | .bool _ | .float _ | .str _ | .strMember _ => .ok _
  | .int i | .intMember i => foreign_writeInt i
  | .list xs | .tuple xs => (foreign_writeItems style xs).bind fun _ => .ok _
  | .dict es => by
      have hwritten : ∀ ordered : List (HostValue × Except Fault Text),
          (∀ e ∈ ordered, e ∈ Json.writeEntries style es) →
          FailsIn Foreign (ordered.mapM (·.2)) := fun ordered hmem =>
        FailsIn.mapM ordered fun e he => foreign_writeEntries style es e (hmem e he)
      unfold Json.write
      split
      · refine (foreign_checkOrder _).bind fun _ => FailsIn.bind ?_ fun _ => .ok _
        exact hwritten _ fun e he => (List.mergeSort_perm _ _).mem_iff.mp he
      · exact (hwritten _ fun e he => he).bind fun _ => .ok _
  | .member _ | .enumeration _ | .mappingView _ | .set _ | .bytes _ | .complex _ _ | .record _
  | .recordType _ | .object _ _ _ _ | .classObject _ _ _ _ | .function _ _ =>
      .error (by simp [Foreign])

theorem foreign_writeItems (style : Json.Style) :
    ∀ vs : List HostValue, FailsIn Foreign (Json.writeItems style vs)
  | [] => .ok _
  | v :: rest =>
      (foreign_write style v).bind fun _ =>
        (foreign_writeItems style rest).bind fun _ => .ok _

theorem foreign_writeEntries (style : Json.Style) :
    ∀ es : List (HostValue × HostValue), ∀ e ∈ Json.writeEntries style es,
      FailsIn Foreign e.2
  | [] => by simp [Json.writeEntries]
  | (k, v) :: rest => by
      intro e he
      rcases List.mem_cons.mp he with rfl | hrest
      · exact (foreign_keyText k).bind fun _ => (foreign_write style v).bind fun _ => .ok _
      · exact foreign_writeEntries style rest e hrest

end

theorem foreign_literal (v : HostValue) : FailsIn Foreign v.literal :=
  (foreign_image v).bind fun image => foreign_write Json.wire image

/-! ## Order and sum -/

theorem foreign_before :
    (∀ v w : HostValue, FailsIn Foreign (v.comesBefore w)) ∧
      ∀ vs ws : List HostValue, FailsIn Foreign (HostValue.listBefore vs ws) := by
  apply HostValue.comesBefore.mutual_induct
  · intro xs ys ih
    rw [HostValue.comesBefore]
    exact ih
  · intro xs ys ih
    rw [HostValue.comesBefore]
    exact ih
  · intro v w hlists htuples a b hw hv
    rw [HostValue.comesBefore.eq_3 v w hlists htuples, hv, hw]
    exact .ok _
  · intro v w hlists htuples s t hw hv hnumbers
    rw [HostValue.comesBefore.eq_3 v w hlists htuples]
    split
    · exact .ok _
    · exact .ok _
    · exact .error (by simp [Foreign])
  · intro v w hlists htuples hnumbers htexts
    rw [HostValue.comesBefore.eq_3 v w hlists htuples]
    split
    · exact .ok _
    · exact .ok _
    · exact .error (by simp [Foreign])
  · intro vs
    rw [HostValue.listBefore]
    exact .ok _
  · intro w ws
    rw [HostValue.listBefore]
    · exact .ok _
  · intro v vs w ws hsame ih
    rw [HostValue.listBefore, if_pos hsame]
    exact ih
  · intro v vs w ws hsame ih
    rw [HostValue.listBefore, if_neg hsame]
    exact ih

theorem foreign_ascending (last : HostValue) (items : List HostValue) :
    FailsIn Foreign (HostValue.ascending last items) := by
  induction items generalizing last with
  | nil => exact .ok _
  | cons v rest ih =>
      refine (foreign_before.1 v last).bind fun below => ?_
      cases below with
      | true => exact .ok _
      | false => exact (ih v).bind fun _ => .ok _

theorem foreign_descending (last : HostValue) (items : List HostValue) :
    FailsIn Foreign (HostValue.descending last items) := by
  induction items generalizing last with
  | nil => exact .ok _
  | cons v rest ih =>
      refine (foreign_before.1 v last).bind fun below => ?_
      cases below with
      | true => exact (ih v).bind fun _ => .ok _
      | false => exact .ok _

theorem foreign_place (items : Array HostValue) (v : HostValue) (low high : Nat) :
    FailsIn Foreign (HostValue.place items v low high) := by
  fun_induction HostValue.place items v low high with
  | case1 low high hlow middle hbefore ih => exact ih
  | case2 low high hlow middle hbefore ih => exact ih
  | case3 low high hlow middle e hbefore =>
      have hv := foreign_before.1 v (items.getD middle .none)
      rw [hbefore] at hv
      exact .error (hv e rfl)
  | case4 low high hlow => exact .ok _

theorem foreign_sorted (items : List HostValue) : FailsIn Foreign (HostValue.sorted items) := by
  have hinsert : ∀ ordered v, FailsIn Foreign (HostValue.insertOrdered ordered v) :=
    fun ordered v => (foreign_place _ v 0 _).bind fun _ => .ok _
  unfold HostValue.sorted
  split
  · rename_i v w rest
    refine (foreign_before.1 w v).bind fun below => ?_
    cases below with
    | true => exact (foreign_descending w rest).bind fun _ => FailsIn.foldlM hinsert _ _
    | false => exact (foreign_ascending w rest).bind fun _ => FailsIn.foldlM hinsert _ _
  · exact .ok _

theorem foreign_iterate (v : HostValue) : FailsIn Foreign v.iterate := by
  unfold HostValue.iterate
  split <;> first | exact .ok _ | exact .error (by simp [Foreign])

theorem foreign_floatOfInt (i : Int) : FailsIn Foreign (HostValue.floatOfInt i) := by
  unfold HostValue.floatOfInt
  simp only
  split
  · exact .error (by simp [Foreign])
  · exact .ok _

theorem foreign_sum (v w : HostValue) : FailsIn Foreign (v.sum w) := by
  unfold HostValue.sum
  split
  · exact .ok _
  · exact (foreign_floatOfInt _).bind fun _ => .ok _
  · exact (foreign_floatOfInt _).bind fun _ => .ok _
  · exact .ok _
  · repeat' split
    all_goals first | exact .ok _ | exact .error (by simp [Foreign])

/-! ## Patterns -/

theorem foreign_checkHashable (v : HostValue) : FailsIn Foreign v.checkHashable := by
  unfold HostValue.checkHashable
  split
  · exact .error (by simp [Foreign])
  · exact .ok _

theorem foreign_compile (v : HostValue) : FailsIn Foreign (RegexMethod.compile v) := by
  refine (foreign_checkHashable v).bind fun _ => ?_
  split
  · exact .error (by simp [Foreign, RegexMethod.typeFault])
  · simp only
    split
    · exact .ok _
    · exact .error (by simp [Foreign, RegexMethod.patternFault])

theorem foreign_subjectFor (p : Pattern.Compiled) (v : HostValue) :
    FailsIn Foreign (RegexMethod.subjectFor p v) := by
  unfold RegexMethod.subjectFor
  split
  · exact .error (by simp [Foreign, RegexMethod.typeFault])
  · split
    · exact .error (by simp [Foreign, RegexMethod.typeFault])
    · split
      · exact .error (by simp [Foreign, RegexMethod.typeFault])
      · exact .ok _

theorem foreign_replacementFor (p : Pattern.Compiled) (v : HostValue) :
    FailsIn Foreign (RegexMethod.replacementFor p v) := by
  unfold RegexMethod.replacementFor
  split
  · dsimp only
    split
    · split
      · exact .ok _
      · exact .error (by simp [Foreign, RegexMethod.patternFault])
    · exact .ok _
  · exact (foreign_checkHashable v).bind fun _ =>
      .error (by simp [Foreign, RegexMethod.typeFault])

theorem foreign_replaced (p : Pattern.Compiled) (s : Subject) (r : RegexMethod.Replacement) :
    FailsIn Foreign (RegexMethod.replaced p s r) := by
  unfold RegexMethod.replaced
  split
  · exact .ok _
  · split
    · exact .ok _
    · exact .error (by simp [Foreign, RegexMethod.typeFault])

theorem foreign_apply (m : RegexMethod) (pattern text replacement : HostValue) :
    FailsIn Foreign (m.apply pattern text replacement) := by
  refine (foreign_compile pattern).bind fun p => ?_
  cases m with
  | groups =>
      refine (foreign_subjectFor p text).bind fun s => ?_
      split <;> exact .ok _
  | replace =>
      exact (foreign_replacementFor p replacement).bind fun r =>
        (foreign_subjectFor p text).bind fun s => foreign_replaced p s r
  | _ => exact (foreign_subjectFor p text).bind fun _ => .ok _

theorem foreign_regexCall (m : RegexMethod) (args : List HostValue) :
    FailsIn Foreign (m.call args) := by
  unfold RegexMethod.call
  simp only
  split
  · exact .error (by simp [Foreign])
  · split
    · exact .error (by simp [Foreign])
    · split
      · exact foreign_apply m _ _ _
      · exact .error (by simp [Foreign])

/-! ## Host functions -/

theorem foreign_checkArity (b : Behaviour) (given : Nat) :
    FailsIn Foreign (b.checkArity given) := by
  unfold Behaviour.checkArity
  simp only
  split
  · exact .error (by simp [Foreign])
  · split
    · exact .error (by simp [Foreign])
    · exact .ok _

theorem foreign_run (b : Behaviour) (calls : Nat) (args : List HostValue) :
    FailsIn Foreign (b.run calls args) := by
  refine (foreign_checkArity b args.length).bind fun _ => ?_
  cases b with
  | add => exact foreign_sum _ _
  | keys =>
      exact (foreign_iterate _).bind fun items =>
        (foreign_sorted items).bind fun _ => .ok _
  | failSecond =>
      dsimp only
      split
      · exact .error (by simp [Foreign])
      · exact .ok _
  | raises cls values => exact .error (by simp [Foreign])
  | regex m => exact foreign_regexCall m args
  | _ => exact .ok _

theorem foreign_parts (args : List HostValue) : FailsIn Foreign (Console.parts args) := by
  induction args with
  | nil => exact .ok _
  | cons v rest ih =>
      refine FailsIn.bind ?_ fun _ => ih.bind fun _ => .ok _
      unfold Console.part
      split
      · exact .ok _
      · exact .ok _
      · exact foreign_write Json.canonical v

theorem foreign_format (args : List HostValue) : FailsIn Foreign (Console.format args) :=
  (foreign_parts args).bind fun _ => .ok _

end ScriptHost.Proofs.HostFaults
