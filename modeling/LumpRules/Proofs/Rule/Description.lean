import LumpRules.Proofs.Application.Patch
import LumpRules.Proofs.Decimal.Numeral
import LumpRules.Proofs.Precision
import LumpRules.Proofs.Rule.Faults
import LumpRules.Proofs.Text.Wildcard

/-!
# Descriptions that are read both ways

An object that describes a connection is read as a template where connections are made, and as a
pattern where they are looked for.  If none of its texts is written as a pattern both readings hold
the same parts (`value_connectionPattern`).  Then the pattern accepts the connection that is built
from the template, as every text matches itself and every finite delay is near itself
(`ConnectionTemplate.accepts_filled_iff`).
-/

namespace LumpRules

open Text Compilation

variable {key key' name text : String} {value : Json}

/-! ### Texts -/

/-- A text that is not written between slashes, as a pattern is. -/
def IsVerbatim (text : String) : Prop :=
  ¬ ∃ source, source ≠ "" ∧ text = "/" ++ source ++ "/"

theorem isVerbatim_iff :
  IsVerbatim text ↔ patternSource? text = none
  := by
  rw [IsVerbatim, Option.eq_none_iff_forall_ne_some, not_exists]
  simp only [ne_eq, patternSource?_eq_some_iff]

instance (text : String) : Decidable (IsVerbatim text) :=
  decidable_of_iff _ isVerbatim_iff.symm

/-- A verbatim text stands for itself. -/
theorem ruleValue_of_isVerbatim [PatternReader] (h : IsVerbatim text) :
  ruleValue text = pure (.literal text)
  := by
  rw [ruleValue, isVerbatim_iff.mp h]

theorem assignedText_of_isVerbatim [PatternReader] (h : IsVerbatim text) :
  assignedText (.string text) = pure text
  := by
  rw [assignedText, ruleValue_of_isVerbatim h, pure_bind]

/-! ### Scalars -/

/-- A truth value, an integer of 64 bits or a verbatim text. -/
def VerbatimScalar : Json → Prop
  | .bool _ => True
  | .number (.integer n) => Decimal.minInteger ≤ n ∧ n ≤ Decimal.maxInteger
  | .string text => IsVerbatim text
  | _ => False

instance (value : Json) : Decidable (VerbatimScalar value) :=
  match value with
  | .bool _ => inferInstanceAs (Decidable True)
  | .number (.integer n) =>
    inferInstanceAs (Decidable (Decimal.minInteger ≤ n ∧ n ≤ Decimal.maxInteger))
  | .string text => inferInstanceAs (Decidable (IsVerbatim text))
  | .null | .number (.double _) | .number (.single _) | .array _ | .object _ =>
    inferInstanceAs (Decidable False)

/-- What a scalar assigns is as the same scalar expects. -/
theorem accepts_assignedText [PatternReader] (h : VerbatimScalar value) :
  ∃ text expected, (assignedText value).run.value = .ok text ∧
    (∀ key, (expectedValue key value).run.value = .ok expected) ∧
    ∀ allowWildcard, expected.accepts text allowWildcard = true
  := by
  cases value with
  | bool b =>
    have hread : truth? (trim (Json.bool b).render.toList) = some b := by
      cases b with
      | true => decide
      | false => decide
    refine ⟨(Json.bool b).render, .boolean b, rfl, fun _ => rfl, ?_⟩
    intro allowWildcard
    rw [RuleValue.accepts, hread]
    apply beq_self_eq_true
  | number number =>
    cases number with
    | integer n =>
      have hrange : Decimal.minInteger ≤ n ∧ n ≤ Decimal.maxInteger := h
      refine ⟨toString n, .integer n, rfl, ?_, ?_⟩
      · intro key
        rw [expectedValue, if_pos hrange]
        rfl
      · intro allowWildcard
        rw [RuleValue.accepts, Decimal.trim_toString, Decimal.integer?_toString hrange]
        apply beq_self_eq_true
    | double x => contradiction
    | single x => contradiction
  | string text =>
    refine ⟨text, .literal text, ?_, ?_, ?_⟩
    · rw [assignedText_of_isVerbatim h]
      rfl
    · intro key
      rw [expectedValue, ruleValue_of_isVerbatim h]
      rfl
    · intro allowWildcard
      apply matchText_self
  | _ => contradiction

/-! ### Connections -/

/-- A value that is a verbatim text. -/
def VerbatimText : Json → Prop
  | .string text => IsVerbatim text
  | _ => False

/-- A value of a part of a connection that is a verbatim text, if the part is a text. -/
def VerbatimField : ConnectionField → Json → Prop
  | .output | .target | .input | .param => VerbatimText
  | .delay | .limit => fun _ => True

/-- A description of a connection whose texts are verbatim. -/
def VerbatimConnection : Json → Prop
  | .object members => ∀ member ∈ members,
      ∀ field ∈ ConnectionField.ofName? member.1, VerbatimField field member.2
  | _ => True

instance (value : Json) : Decidable (VerbatimText value) :=
  match value with
  | .string text => inferInstanceAs (Decidable (IsVerbatim text))
  | .null | .bool _ | .number _ | .array _ | .object _ => inferInstanceAs (Decidable False)

instance (field : ConnectionField) (value : Json) : Decidable (VerbatimField field value) :=
  match field with
  | .output | .target | .input | .param => inferInstanceAs (Decidable (VerbatimText value))
  | .delay | .limit => inferInstanceAs (Decidable True)

instance (value : Json) : Decidable (VerbatimConnection value) :=
  match value with
  | .object members => inferInstanceAs (Decidable (∀ member ∈ members,
      ∀ field ∈ ConnectionField.ofName? member.1, VerbatimField field member.2))
  | .null | .bool _ | .number _ | .array _ | .string _ => inferInstanceAs (Decidable True)

theorem verbatimText_iff :
  VerbatimText value ↔ ∃ text, value = .string text ∧ IsVerbatim text
  := by
  cases value <;> simp [VerbatimText]

/-- The pattern with the parts of a template, each text as a literal. -/
def ConnectionTemplate.asPattern (template : ConnectionTemplate) : ConnectionPattern where
  output := template.output.map .literal
  target := template.target.map .literal
  input := template.input.map .literal
  param := template.param.map .literal
  delay := template.delay
  limit := template.limit

theorem value_setPatternField [PatternReader] {template : ConnectionTemplate}
    {field : ConnectionField}
    (h : VerbatimField field value) :
  (setPatternField template.asPattern field name value).run.value =
    ConnectionTemplate.asPattern <$> (setTemplateField template field name value).run.value
  := by
  cases field with
  | delay =>
    rw [setPatternField, setTemplateField, run_value_bind, run_value_bind]
    cases (delayOf name value).run.value <;> rfl
  | limit =>
    rw [setPatternField, setTemplateField, run_value_bind, run_value_bind]
    cases (limitOf name value).run.value <;> rfl
  | _ =>
    obtain ⟨text, rfl, hverbatim⟩ := verbatimText_iff.mp h
    rw [setPatternField, setTemplateField, textOf, pure_bind, ruleValue_of_isVerbatim hverbatim,
      assignedText_of_isVerbatim hverbatim]
    rfl

/-- An object with verbatim texts is read as a template and as a pattern alike. -/
theorem value_connectionPattern [PatternReader] (h : VerbatimConnection value) :
  (connectionPattern key value).run.value =
    ConnectionTemplate.asPattern <$> (connectionTemplate key value).run.value
  := by
  cases value with
  | object members =>
    rw [connectionPattern, connectionTemplate, foldFields, foldFields, membersOf, pure_bind,
      pure_bind, run_value_foldlM, run_value_foldlM]
    apply foldlM_map_state ConnectionTemplate.asPattern _ {}
    rintro template ⟨name, value⟩ hmember
    cases hfield : ConnectionField.ofName? name with
    | none =>
      simp only [hfield]
      rfl
    | some field =>
      simp only [hfield]
      apply value_setPatternField (h _ hmember field hfield)
  | _ => rfl

/-- The pattern of a template accepts the connection that is built from it, if its delay is
finite. -/
theorem ConnectionTemplate.accepts_filled_iff (template : ConnectionTemplate) :
  template.asPattern.accepts template.filled = true ↔
    ∀ delay ∈ template.delay, delay.isFinite = true
  := by
  have hself (texts : Option String) (allowWildcard : Bool) :
      (texts.map RuleValue.literal).all
        (·.accepts (texts.getD "") allowWildcard) = true := by
    cases texts with
    | none => rfl
    | some text => apply matchText_self
  have hdelay : (template.delay.all fun delay => isNear (Precision.widen delay)
      (Precision.widen (template.delay.getD defaultDelay))) =
        template.delay.all (·.isFinite) := by
    cases template.delay with
    | none => rfl
    | some delay => apply Precision.isNear_widen_self
  have hlimit : template.limit.all (· == template.limit.getD defaultLimit) = true := by
    cases template.limit with
    | none => rfl
    | some limit => apply beq_self_eq_true
  rw [ConnectionPattern.accepts]
  simp only [asPattern, filled, hself, hdelay, hlimit, Bool.true_and, Bool.and_true,
    Option.all_eq_true, Option.mem_def]

end LumpRules
