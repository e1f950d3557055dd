import LumpRules.Proofs.Application.Patch
import LumpRules.Proofs.Entity.Satisfaction
import LumpRules.Proofs.Text.Wildcard

/-!
# Deleting what was matched

Conditions on attributes allow wildcards for the names of entities and their classes only, deletions
allow them for every attribute.  A value that accepts a text without wildcards also accepts it with
them (`RuleValue.accepts_of_exact`), so that an attribute that satisfies a condition is deleted by
the same condition (`applyDelete_of_holds`).
-/

namespace LumpRules

open Text

variable {key : String} {expected : RuleValue} {allowWildcard : Bool}

/-- No value accepts less where wildcards are allowed. -/
theorem RuleValue.accepts_of_exact {actual : String}
    (h : expected.accepts actual allowWildcard = true) :
  expected.accepts actual true = true
  := by
  cases allowWildcard with
  | true => apply h
  | false =>
    cases expected with
    | literal text => apply matchText_of_exact h
    | pattern pattern => apply h
    | number x => apply h
    | integer n => apply h
    | boolean b => apply h

/-- The conditions that ask for one attribute. -/
def Conditions.onAttribute (key : String) (expected : RuleValue) : Conditions where
  attributes := [(key, expected)]

section Hosts

variable {ε : Type} [EntityView ε] {entity : ε}

theorem hasAttribute_of_exact (h : hasAttribute entity key expected allowWildcard = true) :
  hasAttribute entity key expected true = true
  := by
  rw [hasAttribute, Option.any_eq_true] at h ⊢
  obtain ⟨value, hvalue, haccepts⟩ := h
  exact ⟨value, hvalue, RuleValue.accepts_of_exact haccepts⟩

theorem holds_onAttribute :
  (Conditions.onAttribute key expected).holds entity =
    hasAttribute entity key expected (isWildcardKey key)
  := by
  simp [Conditions.holds, Conditions.onAttribute]

theorem applyDelete_onAttribute :
  applyDelete (Conditions.onAttribute key expected) entity =
    pure (deleteAttribute entity key expected)
  := rfl

end Hosts

/-- Deletions take an attribute under every spelling of its name, if one of them accepts its
value. -/
theorem get?_applyDelete {deletions : Conditions} {entity : Entity} {name : String}
    (hentry : (key, expected) ∈ deletions.attributes) (hname : sameName key name = true)
    (h : hasAttribute entity key expected true = true) :
  (applyDelete deletions entity).value.get? name = none
  := by
  obtain ⟨value, hvalue, haccepts⟩ := hasAttribute_iff.mp h
  have hdeletes : Mutation.deletes { delete := some deletions } name value = true := by
    rw [Mutation.deletes, Option.any_some, List.any_eq_true]
    use (key, expected), hentry
    show (sameName key name && expected.accepts value true) = true
    rw [hname, haccepts, Bool.and_self]
  obtain ⟨held, hheld, hget⟩ := value_applyDelete { delete := some deletions } entity
  have hold : entity.get? name = some value := by
    rw [← hvalue]
    symm
    apply Entries.get?_congr (sameName_iff.mp hname)
  have hdeleted : (applyDelete deletions entity).value = _ := hheld
  rw [hdeleted]
  show held.get? lowerAscii name = none
  rw [hget, hold, Option.filter_some, hdeletes]
  rfl

/-- A value that accepts a text without wildcards accepts it with them; literals are compared in
full lower case both times, as wholes or by what stands before a star.  Hence an attribute of an
entity that satisfies a condition is gone, under every spelling of its name, after a deletion by the
same condition; a deletion of nothing else takes out just that attribute, whatever the host is. -/
theorem applyDelete_of_holds :
  (∀ (value : RuleValue) (actual : String), value.accepts actual false = true →
    value.accepts actual true = true) ∧
  (∀ expected actual : String, (RuleValue.literal expected).accepts actual false = true ↔
    lowercase actual.toList = lowercase expected.toList) ∧
  (∀ start actual : String, (RuleValue.literal (start ++ "*")).accepts actual true = true ↔
    lowercase start.toList <+: lowercase actual.toList) ∧
  (∀ (ε : Type) [EntityView ε] (entity : ε) (key : String) (expected : RuleValue),
    (Conditions.onAttribute key expected).holds entity = true →
    applyDelete (Conditions.onAttribute key expected) entity =
      pure (EntityView.eraseAttribute entity key)) ∧
  ∀ (entity : Entity) (conditions deletions : Conditions) (key : String) (expected : RuleValue),
    (key, expected) ∈ conditions.attributes → (key, expected) ∈ deletions.attributes →
    conditions.holds entity = true →
    ∀ name, sameName key name = true → (applyDelete deletions entity).value.get? name = none
  := by
  refine ⟨?_, ?_, ?_, ?_, ?_⟩
  · intro value actual
    apply RuleValue.accepts_of_exact
  · intro expected actual
    apply matchText_exact_iff
  · intro start actual
    apply matchText_star
  · intro ε _ entity key expected h
    rw [holds_onAttribute] at h
    rw [applyDelete_onAttribute, deleteAttribute, if_pos (hasAttribute_of_exact h)]
  · intro entity conditions deletions key expected hcondition hdeletion h name hname
    have hattribute : hasAttribute entity key expected (isWildcardKey key) = true := by
      rw [Conditions.holds, Bool.and_eq_true, List.all_eq_true] at h
      apply h.1 (key, expected) hcondition
    apply get?_applyDelete hdeletion hname (hasAttribute_of_exact hattribute)

/-- A value that ends in a star is matched as it stands, and deleted. -/
example :
    let entity : Entity := { attributes := [("Model", "Crates*"), ("skin", "1")] }
    let condition := Conditions.onAttribute "model" (.literal "crates*")
    condition.holds entity = true ∧
      (applyDelete condition entity).value.attributes = [("skin", "1")] := by
  decide

end LumpRules
