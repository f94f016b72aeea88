import ScriptHost.Script.Syntax

/-!
# Comparing the trees of scripts

Trees have no equality that can be computed.  `sameStmt` compares two statements down to a depth; it
knows the kinds that the body of a small function is made of, and finds all others different.  What it
finds the same is equal.
-/

namespace ScriptHost.Proofs.SameTrees

open Script

/-! ## Comparing -/

/-- Whether two options hold the same, by a test of what they hold. -/
def sameOption {α : Type} (same : α → α → Bool) : Option α → Option α → Bool
  | none, none => true
  | some a, some b => same a b
  | _, _ => false

/-- Whether two names that are declared, each perhaps with a value, are the same. -/
def sameBound (same : Expr → Expr → Bool) : Pattern × Option Expr → Pattern × Option Expr → Bool
  | (.name a l, e), (.name b k, d) => a == b && l == k && sameOption same e d
  | _, _ => false

/-- Whether two items of an argument list are the same. -/
def sameItem (same : Expr → Expr → Bool) : Element → Element → Bool
  | .item e, .item d => same e d
  | _, _ => false

/-- Whether two expressions are the same down to a depth. -/
def sameExpr : Nat → Expr → Expr → Bool
  | _ + 1, .literal (.string a), .literal (.string b) => a == b
  | _ + 1, .name a l, .name b k => a == b && l == k
  | n + 1, .member e a o l, .member d b p k =>
    sameExpr n e d && a == b && o == p && l == k
  | n + 1, .call f es o l, .call g ds p k =>
    sameExpr n f g && es.isEqv ds (sameItem (sameExpr n)) && o == p && l == k
  | n + 1, .construct f es l, .construct g ds k =>
    sameExpr n f g && es.isEqv ds (sameItem (sameExpr n)) && l == k
  | _, _, _ => false

/-- Whether two statements are the same down to a depth. -/
def sameStmt : Nat → Stmt → Stmt → Bool
  | n + 1, .declare .var es, .declare .var ds => es.isEqv ds (sameBound (sameExpr n))
  | n + 1, .returning e, .returning d => sameOption (sameExpr n) e d
  | n + 1, .conditional e y none, .conditional d z none => sameExpr n e d && sameStmt n y z
  | n + 1, .throwing e l, .throwing d k => sameExpr n e d && l == k
  | n + 1, .block [] b, .block [] c => b.isEqv c (sameStmt n)
  | _, _, _ => false

/-! ## What is found the same is equal -/

variable {α : Type} {n : Nat}

theorem eq_of_isEqv {same : α → α → Bool} (hsame : ∀ a b, same a b = true → a = b) {as bs : List α}
    (h : as.isEqv bs same = true) : as = bs := by
  induction as generalizing bs with
  | nil =>
      cases bs with
      | nil => rfl
      | cons b bs => cases h
  | cons a as ih =>
      cases bs with
      | nil => cases h
      | cons b bs =>
          obtain ⟨hhead, htail⟩ := (Bool.and_eq_true _ _).mp h
          rw [hsame a b hhead, ih htail]

theorem eq_of_sameOption {same : α → α → Bool} (hsame : ∀ a b, same a b = true → a = b)
    {a b : Option α} (h : sameOption same a b = true) : a = b := by
  unfold sameOption at h
  split at h
  · rfl
  · rw [hsame _ _ h]
  · cases h

section Expressions

variable {same : Expr → Expr → Bool} (hsame : ∀ e d, same e d = true → e = d)

include hsame

theorem eq_of_sameBound (a b : Pattern × Option Expr) (h : sameBound same a b = true) : a = b := by
  unfold sameBound at h
  split at h
  · simp only [Bool.and_eq_true, beq_iff_eq] at h
    obtain ⟨⟨rfl, rfl⟩, hvalue⟩ := h
    rw [eq_of_sameOption hsame hvalue]
  · cases h

theorem eq_of_sameItem (a b : Element) (h : sameItem same a b = true) : a = b := by
  unfold sameItem at h
  split at h
  · rw [hsame _ _ h]
  · cases h

end Expressions

theorem eq_of_sameExpr (e d : Expr) (h : sameExpr n e d = true) : e = d := by
  induction n generalizing e d with
  | zero => simp [sameExpr] at h
  | succ n ih =>
      unfold sameExpr at h
      split at h
      · rw [beq_iff_eq.mp h]
      · obtain ⟨hname, hline⟩ := (Bool.and_eq_true _ _).mp h
        rw [beq_iff_eq.mp hname, beq_iff_eq.mp hline]
      · rename_i hn
        cases hn
        simp only [Bool.and_eq_true, beq_iff_eq] at h
        obtain ⟨⟨⟨hbase, rfl⟩, rfl⟩, rfl⟩ := h
        rw [ih _ _ hbase]
      · rename_i hn
        cases hn
        simp only [Bool.and_eq_true, beq_iff_eq] at h
        obtain ⟨⟨⟨hcallee, hitems⟩, rfl⟩, rfl⟩ := h
        rw [ih _ _ hcallee, eq_of_isEqv (eq_of_sameItem ih) hitems]
      · rename_i hn
        cases hn
        simp only [Bool.and_eq_true, beq_iff_eq] at h
        obtain ⟨⟨hcallee, hitems⟩, rfl⟩ := h
        rw [ih _ _ hcallee, eq_of_isEqv (eq_of_sameItem ih) hitems]
      · cases h

theorem eq_of_sameStmt (s t : Stmt) (h : sameStmt n s t = true) : s = t := by
  induction n generalizing s t with
  | zero => simp [sameStmt] at h
  | succ n ih =>
      unfold sameStmt at h
      split at h
      · rename_i hn
        cases hn
        rw [eq_of_isEqv (eq_of_sameBound eq_of_sameExpr) h]
      · rename_i hn
        cases hn
        rw [eq_of_sameOption eq_of_sameExpr h]
      · rename_i hn
        cases hn
        obtain ⟨htest, hyes⟩ := (Bool.and_eq_true _ _).mp h
        rw [eq_of_sameExpr _ _ htest, ih _ _ hyes]
      · rename_i hn
        cases hn
        obtain ⟨hvalue, hline⟩ := (Bool.and_eq_true _ _).mp h
        rw [eq_of_sameExpr _ _ hvalue, beq_iff_eq.mp hline]
      · rename_i hn
        cases hn
        rw [eq_of_isEqv ih h]
      · cases h

/-- Statements that are found to be the same, one by one, are. -/
theorem eq_of_sameStmts {ss ts : List Stmt} (h : ss.isEqv ts (sameStmt n) = true) : ss = ts :=
  eq_of_isEqv eq_of_sameStmt h

end ScriptHost.Proofs.SameTrees
