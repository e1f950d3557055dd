import LumpRules.RuleFile
import Mathlib.Data.List.Basic

/-!
# The order of application

A rule file sorts its rules by their kinds.  The sort is stable, so that the rules of each kind come
out as they stand among the given ones, one kind after the other (`rules_ofRules`).  Each pass of a
run goes through the rules of one kind, so a run depends on the rules of each kind and their order
only, not on how the kinds are mixed (`applyRules_congr`).
-/

namespace LumpRules

variable {kind : RuleKind} {rule : Rule} {rules rules' : List Rule}

/-- The rules of a kind among some rules, in their order. -/
def rulesOfKind (kind : RuleKind) (rules : List Rule) : List Rule :=
  rules.filter (·.kind = kind)

/-- Rules in the order of application, given kind by kind. -/
def byKind (rules : RuleKind → List Rule) : List Rule :=
  rules .remove ++ rules .add ++ rules .modify

@[simp]
theorem mem_rulesOfKind :
  rule ∈ rulesOfKind kind rules ↔ rule ∈ rules ∧ rule.kind = kind
  := by
  simp [rulesOfKind]

theorem rulesOfKind_append :
  rulesOfKind kind (rules ++ rules') = rulesOfKind kind rules ++ rulesOfKind kind rules'
  := List.filter_append ..

theorem rulesOfKind_flatMap {α : Type} (f : α → List Rule) (items : List α) :
  rulesOfKind kind (items.flatMap f) = items.flatMap fun item => rulesOfKind kind (f item)
  := List.filter_flatMap ..

/-- Rules of one kind are all of that kind and none of another. -/
theorem rulesOfKind_of_forall {kind' : RuleKind} (h : ∀ rule ∈ rules, rule.kind = kind') :
  rulesOfKind kind rules = if kind' = kind then rules else []
  := by
  split
  · next heq =>
    rw [rulesOfKind, List.filter_eq_self]
    intro rule hrule
    simp [h rule hrule, heq]
  · next hne =>
    rw [rulesOfKind, List.filter_eq_nil_iff]
    intro rule hrule
    simp [h rule hrule, hne]

/-- Of rules that are given kind by kind, those of a kind are the given ones. -/
theorem rulesOfKind_byKind {rules : RuleKind → List Rule}
    (h : ∀ kind, ∀ rule ∈ rules kind, rule.kind = kind) (kind : RuleKind) :
  rulesOfKind kind (byKind rules) = rules kind
  := by
  rw [byKind, rulesOfKind_append, rulesOfKind_append, rulesOfKind_of_forall (h .remove),
    rulesOfKind_of_forall (h .add), rulesOfKind_of_forall (h .modify)]
  cases kind <;> simp

/-! ### Sorting -/

/-- Whether a rule is applied no later than another one. -/
def Rule.precedes (a b : Rule) : Bool :=
  a.kind.rank ≤ b.kind.rank

@[simp]
theorem precedes_iff {a b : Rule} :
  a.precedes b = true ↔ a.kind.rank ≤ b.kind.rank
  := by
  simp [Rule.precedes]

/-- Sorted rules are those up to some rank, and the others after them. -/
theorem eq_filter_append_filter (h : rules.Pairwise (·.precedes ·)) (rank : Nat) :
  rules = rules.filter (·.kind.rank ≤ rank) ++ rules.filter (rank < ·.kind.rank)
  := by
  induction h with
  | nil => rfl
  | @cons rule rules hfirst _ ih =>
    by_cases hrank : rule.kind.rank ≤ rank
    · simpa [hrank] using ih
    · have hlater : ∀ other ∈ rules, rank < other.kind.rank := by
        intro other hother
        have hle := precedes_iff.mp (hfirst other hother)
        omega
      have hnone : rules.filter (·.kind.rank ≤ rank) = [] :=
        List.filter_eq_nil_iff.mpr (by simpa using hlater)
      have hall : rules.filter (rank < ·.kind.rank) = rules :=
        List.filter_eq_self.mpr (by simpa using hlater)
      rw [List.filter_cons_of_neg (by simpa using hrank),
        List.filter_cons_of_pos (by simpa using hrank), hnone, hall, List.nil_append]

/-- Sorted rules stand kind by kind. -/
theorem eq_byKind_of_pairwise (h : rules.Pairwise (·.precedes ·)) :
  rules = byKind fun kind => rulesOfKind kind rules
  := by
  have hfilter : ∀ {p q : Rule → Bool}, (∀ rule, p rule = q rule) →
      rules.filter p = rules.filter q :=
    fun hpq => List.filter_congr fun rule _ => hpq rule
  have hremove : rules.filter (·.kind.rank ≤ 0) = rulesOfKind .remove rules := by
    apply hfilter
    rintro (_ | _ | _) <;> rfl
  have hadd : (rules.filter (0 < ·.kind.rank)).filter (·.kind.rank ≤ 1) =
      rulesOfKind .add rules := by
    rw [List.filter_filter]
    apply hfilter
    rintro (_ | _ | _) <;> rfl
  have hmodify : (rules.filter (0 < ·.kind.rank)).filter (1 < ·.kind.rank) =
      rulesOfKind .modify rules := by
    rw [List.filter_filter]
    apply hfilter
    rintro (_ | _ | _) <;> rfl
  have hrest := eq_filter_append_filter (h.filter (0 < ·.kind.rank)) 1
  rw [hadd, hmodify] at hrest
  rw [byKind, List.append_assoc, ← hrest, ← hremove]
  apply eq_filter_append_filter h

theorem precedes_trans (a b c : Rule) (h : a.precedes b = true) (h' : b.precedes c = true) :
  a.precedes c = true
  := by
  rw [precedes_iff] at *
  omega

theorem precedes_total (a b : Rule) :
  (a.precedes b || b.precedes a) = true
  := by
  rw [Bool.or_eq_true, precedes_iff, precedes_iff]
  omega

theorem perm_ofRules (rules : List Rule) :
  (RuleFile.ofRules rules).rules.Perm rules
  := List.mergeSort_perm ..

/-- The rules of a kind stay in their order. -/
theorem rulesOfKind_ofRules (kind : RuleKind) (rules : List Rule) :
  rulesOfKind kind (RuleFile.ofRules rules).rules = rulesOfKind kind rules
  := by
  have hpairwise : (rulesOfKind kind rules).Pairwise (·.precedes ·) := by
    apply List.pairwise_of_forall_mem_list
    intro a ha b hb
    rw [mem_rulesOfKind] at ha hb
    simp [ha.2, hb.2]
  -- Rules of one kind are in order already, so a stable sort keeps them as a part of its result.
  have hsublist : List.Sublist (rulesOfKind kind rules) (RuleFile.ofRules rules).rules :=
    List.sublist_mergeSort precedes_trans precedes_total hpairwise List.filter_sublist
  have hkept : List.Sublist (rulesOfKind kind rules)
      (rulesOfKind kind (RuleFile.ofRules rules).rules) := by
    have hself : rulesOfKind kind (rulesOfKind kind rules) = rulesOfKind kind rules := by
      rw [rulesOfKind_of_forall fun rule hrule => (mem_rulesOfKind.mp hrule).2, if_pos rfl]
    rw [← hself]
    apply hsublist.filter
  symm
  apply hkept.eq_of_length
  apply ((perm_ofRules rules).filter _).length_eq.symm

/-- The rules of a file stand kind by kind, those of each kind in their order. -/
theorem rules_ofRules (rules : List Rule) :
  (RuleFile.ofRules rules).rules = byKind fun kind => rulesOfKind kind rules
  := by
  have hpairwise : (RuleFile.ofRules rules).rules.Pairwise (·.precedes ·) :=
    List.pairwise_mergeSort precedes_trans precedes_total rules
  rw [eq_byKind_of_pairwise hpairwise]
  simp only [rulesOfKind_ofRules]

/-! ### Passes -/

section Passes

variable {ε σ : Type} [EntityView ε] [LumpView σ ε] (options : Options) (name : String)

theorem removeStep_of_kind_ne (run : Run σ) (rule : Rule) (h : rule.kind ≠ .remove) :
  removeStep options name run rule = pure run
  := by
  cases rule with
  | remove => contradiction
  | add => rfl
  | modify => rfl

theorem addStep_of_kind_ne (run : Run σ) (rule : Rule) (h : rule.kind ≠ .add) :
  addStep options name run rule = pure run
  := by
  cases rule with
  | remove => rfl
  | add => contradiction
  | modify => rfl

theorem modifyStep_of_kind_ne (run : Run σ) (rule : Rule) (h : rule.kind ≠ .modify) :
  modifyStep options name run rule = pure run
  := by
  cases rule with
  | remove => rfl
  | add => rfl
  | modify => contradiction

/-- A pass that leaves everything as it is for the rules of other kinds goes through those of one
kind only. -/
theorem foldlM_rulesOfKind {step : Run σ → Rule → Logged (Run σ)}
    (hstep : ∀ run rule, rule.kind ≠ kind → step run rule = pure run) (run : Run σ)
    (rules : List Rule) :
  rules.foldlM step run = (rulesOfKind kind rules).foldlM step run
  := by
  rw [rulesOfKind, List.foldlM_filter]
  congr 1
  funext run rule
  split
  · rfl
  · next hkind => apply hstep run rule (by simpa using hkind)

/-- A run depends on the rules of each kind and their order only. -/
theorem applyRules_congr (h : ∀ kind, rulesOfKind kind rules = rulesOfKind kind rules')
    (lump : σ) :
  applyRules rules options lump = applyRules rules' options lump
  := by
  have hpass : ∀ {step : Run σ → Rule → Logged (Run σ)} (kind : RuleKind),
      (∀ run rule, rule.kind ≠ kind → step run rule = pure run) →
        ∀ run, rules.foldlM step run = rules'.foldlM step run := by
    intro step kind hstep run
    rw [foldlM_rulesOfKind hstep, h, ← foldlM_rulesOfKind hstep]
  have hremove := hpass .remove (removeStep_of_kind_ne options (LumpView.name lump))
  have hadd := hpass .add (addStep_of_kind_ne options (LumpView.name lump))
  have hmodify := hpass .modify (modifyStep_of_kind_ne options (LumpView.name lump))
  simp only [applyRules, hremove, hadd, hmodify]

end Passes

end LumpRules
