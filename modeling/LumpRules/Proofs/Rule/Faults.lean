import LumpRules.Proofs.Rule.Blocks

/-!
# Faults of rule objects

A rule object is compiled exactly if it has no fault.  Faults begin with single values: a text
that is written as a pattern but is no regular expression, a value that is no scalar where one is
compared, a part of a connection of the wrong type.  `FaultyConnection`, `FaultyList` and
`FaultyBlock` find them in connections, in lists of connections and in blocks, and `FaultyRule`
in rule objects.  For each function of the compiler one lemma says that it fails exactly on the
faulty values (`fails_ruleValue` to `fails_modifyRule?`).

A modification has one loophole: if its match block is without any condition (`IsVacuous`), its
other blocks are not looked at.
-/

namespace LumpRules

open Compilation

variable {key name text source : String} {value : Json} {members : Members}

/-! ### Values -/

/-- A text that is written as a pattern and is not accepted as one. -/
def IsBrokenPattern [PatternReader] (text : String) : Prop :=
  ∃ source, source ≠ "" ∧ text = "/" ++ source ++ "/" ∧ PatternReader.read? source = none

/-- A value that no attribute can be compared with. -/
def FaultyCondition [PatternReader] : Json → Prop
  | .string text => IsBrokenPattern text
  | .number _ | .bool _ => False
  | .null | .array _ | .object _ => True

/-- A value that cannot be assigned. -/
def FaultyAssignment [PatternReader] : Json → Prop
  | .string text => IsBrokenPattern text
  | _ => False

/-- A value that no text of a connection can be compared with. -/
def FaultyText [PatternReader] : Json → Prop
  | .string text => IsBrokenPattern text
  | _ => True

/-- A value that is no delay. -/
def FaultyDelay : Json → Prop
  | .number _ => False
  | _ => True

/-- A value that is no limit, which is an integer of 32 bits. -/
def FaultyLimit : Json → Prop
  | .number (.integer n) => ¬ (-0x80000000 ≤ n ∧ n < 0x80000000)
  | _ => True

/-- A text is written as a pattern if it has slashes around something. -/
theorem patternSource?_eq_some_iff :
  patternSource? text = some source ↔ source ≠ "" ∧ text = "/" ++ source ++ "/"
  := by
  have htext : text = "/" ++ source ++ "/" ↔ text.toList = '/' :: (source.toList ++ ['/']) := by
    rw [← String.toList_inj]
    simp
  rw [htext, ne_eq, ← String.toList_eq_nil_iff, patternSource?]
  split
  · next c rest hlist =>
    rw [hlist, List.cons.injEq]
    constructor
    · intro h
      split at h
      · next hlast =>
        obtain rfl := Option.some.inj h
        rw [Bool.and_eq_true, beq_iff_eq, List.getLast?_eq_some_iff] at hlast
        obtain ⟨⟨letters, hletters⟩, hrest⟩ := hlast
        rw [hletters, List.dropLast_concat, String.toList_ofList]
        refine ⟨?_, rfl, rfl⟩
        rintro rfl
        obtain ⟨-, rfl⟩ := List.cons.inj hletters
        contradiction
      · contradiction
    · rintro ⟨hsource, -, hletters⟩
      have hrest : rest ≠ [] := by
        rintro rfl
        apply hsource
        simpa using (congrArg List.dropLast hletters).symm
      rw [hletters, List.getLast?_concat, List.dropLast_concat, String.ofList_toList]
      simp [hrest]
  · next hother =>
    constructor
    · intro h
      contradiction
    · rintro ⟨hsource, hlist⟩
      cases hletters : source.toList with
      | nil => contradiction
      | cons c letters =>
        rw [hletters] at hlist
        apply absurd hlist
        apply hother

theorem fails_ruleValue [PatternReader] :
  Fails (ruleValue text) ↔ IsBrokenPattern text
  := by
  rw [ruleValue, IsBrokenPattern]
  simp only [← and_assoc, ← patternSource?_eq_some_iff]
  cases patternSource? text with
  | none => simp
  | some source =>
    cases hread : PatternReader.read? source with
    | none => simp [Pattern.ofSource?, hread]
    | some expr => simp [Pattern.ofSource?, hread, event]

theorem fails_mismatch {α : Type} (key : String) (expected : ExpectedType) (found : Json) :
  Fails (mismatch key expected found : Compilation α)
  := fails_throw _

theorem fails_expectedValue [PatternReader] :
  Fails (expectedValue key value) ↔ FaultyCondition value
  := by
  cases value with
  | string text => apply fails_ruleValue
  | number n =>
    cases n with
    | integer n =>
      rw [expectedValue, FaultyCondition]
      split <;> simp
    | _ => simp [expectedValue, FaultyCondition]
  | _ => simp [expectedValue, FaultyCondition, fails_mismatch]

theorem fails_assignedText [PatternReader] :
  Fails (assignedText value) ↔ FaultyAssignment value
  := by
  cases value with
  | string text => simp [assignedText, FaultyAssignment, fails_ruleValue]
  | _ => simp [assignedText, FaultyAssignment]

theorem fails_textOf [PatternReader] {α : Type} {f : RuleValue → α} :
  Fails (textOf key value >>= fun text => f <$> ruleValue text) ↔ FaultyText value
  := by
  cases value with
  | string text => simp [textOf, FaultyText, fails_ruleValue]
  | _ => simp [textOf, FaultyText, fails_mismatch, fails_bind]

theorem fails_delayOf :
  Fails (delayOf key value) ↔ FaultyDelay value
  := by
  cases value <;> simp [delayOf, FaultyDelay, fails_mismatch]

theorem fails_limitOf :
  Fails (limitOf key value) ↔ FaultyLimit value
  := by
  rw [limitOf.eq_def, FaultyLimit.eq_def]
  split
  · split <;> simp_all [fails_mismatch]
  · simp [fails_mismatch]

/-! ### Connections -/

/-- A value of a part of a connection that is not as it should be; `FaultyValue` says how its
texts should be. -/
def FaultyField (FaultyValue : Json → Prop) : ConnectionField → Json → Prop
  | .output | .target | .input | .param => FaultyValue
  | .delay => FaultyDelay
  | .limit => FaultyLimit

/-- A value that describes no connection: it is no object, or a part of it is faulty. -/
def FaultyConnection (FaultyValue : Json → Prop) : Json → Prop
  | .object members => ∃ member ∈ members, ∃ field, ConnectionField.ofName? member.1 = some field ∧
      FaultyField FaultyValue field member.2
  | _ => True

/-- A value that describes no list of connections. -/
def FaultyList (FaultyValue : Json → Prop) : Json → Prop
  | .array items => ∃ item ∈ items, FaultyConnection FaultyValue item
  | _ => True

theorem fails_setPatternField [PatternReader] {pattern : ConnectionPattern}
    {field : ConnectionField} :
  Fails (setPatternField pattern field name value) ↔ FaultyField FaultyText field value
  := by
  cases field with
  | delay => simp [setPatternField, FaultyField, fails_delayOf]
  | limit => simp [setPatternField, FaultyField, fails_limitOf]
  | _ => simp [setPatternField, FaultyField, fails_textOf]

theorem fails_setTemplateField [PatternReader] {template : ConnectionTemplate}
    {field : ConnectionField} :
  Fails (setTemplateField template field name value) ↔ FaultyField FaultyAssignment field value
  := by
  cases field with
  | delay => simp [setTemplateField, FaultyField, fails_delayOf]
  | limit => simp [setTemplateField, FaultyField, fails_limitOf]
  | _ => simp [setTemplateField, FaultyField, fails_assignedText]

theorem fails_foldFields {β : Type} {set : β → ConnectionField → String → Json → Compilation β}
    {FaultyValue : Json → Prop}
    (h : ∀ state field name value,
      Fails (set state field name value) ↔ FaultyField FaultyValue field value)
    (start : β) (key : String) (value : Json) :
  Fails (foldFields set start key value) ↔ FaultyConnection FaultyValue value
  := by
  cases value with
  | object members =>
    rw [foldFields, membersOf, pure_bind]
    apply fails_foldlM
    rintro state ⟨name, value⟩
    cases hfield : ConnectionField.ofName? name with
    | none => simp [hfield, event]
    | some field => simp [hfield, h]
  | _ => simp [foldFields, FaultyConnection, membersOf, fails_mismatch, fails_bind]

theorem fails_connectionPattern [PatternReader] :
  Fails (connectionPattern key value) ↔ FaultyConnection FaultyText value
  := fails_foldFields (fun _ _ _ _ => fails_setPatternField) {} key value

theorem fails_connectionTemplate [PatternReader] :
  Fails (connectionTemplate key value) ↔ FaultyConnection FaultyAssignment value
  := fails_foldFields (fun _ _ _ _ => fails_setTemplateField) {} key value

theorem fails_connectionList {α : Type} {each : String → Json → Compilation α}
    {FaultyValue : Json → Prop}
    (h : ∀ value, Fails (each key value) ↔ FaultyConnection FaultyValue value) :
  Fails (connectionList each key value) ↔ FaultyList FaultyValue value
  := by
  cases value with
  | array items => simp only [connectionList, FaultyList, fails_mapM, h]
  | _ => simp [connectionList, FaultyList, fails_mismatch]

/-! ### Blocks -/

/-- Members of a block of which one is faulty, as an attribute or as connections. -/
def FaultyBlock (FaultyAttribute FaultyConnections : Json → Prop) (members : Members) : Prop :=
  ∃ member ∈ members,
    if isConnectionsKey member.1 then FaultyConnections member.2 else FaultyAttribute member.2

theorem faultyBlock_cons {FaultyAttribute FaultyConnections : Json → Prop} :
  FaultyBlock FaultyAttribute FaultyConnections ((key, value) :: members) ↔
    (if isConnectionsKey key then FaultyConnections value else FaultyAttribute value) ∨
      FaultyBlock FaultyAttribute FaultyConnections members
  := by
  simp only [FaultyBlock, List.mem_cons, exists_eq_or_imp]

/-- Members that describe no conditions. -/
def FaultyConditions [PatternReader] : Members → Prop :=
  FaultyBlock FaultyCondition (FaultyList FaultyText)

/-- Members that describe no insertions. -/
def FaultyInsertions [PatternReader] : Members → Prop :=
  FaultyBlock FaultyAssignment (FaultyList FaultyAssignment)

/-- Members that describe no replacements: one of them is faulty, or there are two connections. -/
def FaultyReplacements [PatternReader] (members : Members) : Prop :=
  FaultyBlock FaultyAssignment (FaultyConnection FaultyAssignment) members ∨
    1 < members.countP fun member => isConnectionsKey member.1

theorem fails_conditions [PatternReader] :
  Fails (conditions members) ↔ FaultyConditions members
  := by
  apply fails_foldlM
  rintro block ⟨key, value⟩
  dsimp only
  split
  · simp [fails_connectionList fun _ => fails_connectionPattern]
  · simp [fails_expectedValue]

theorem fails_insertions [PatternReader] :
  Fails (insertions members) ↔ FaultyInsertions members
  := by
  apply fails_foldlM
  rintro block ⟨key, value⟩
  dsimp only
  split
  · simp [fails_connectionList fun _ => fails_connectionTemplate]
  · simp [fails_assignedText]

/-- The connection that is already there counts as one of two. -/
theorem fails_foldlM_addReplacement [PatternReader] (block : Replacements) (n : Nat)
    (h : block.connection.toList.length = n) :
  Fails (members.foldlM addReplacement block) ↔
    FaultyBlock FaultyAssignment (FaultyConnection FaultyAssignment) members ∨
      1 < (members.countP fun member => isConnectionsKey member.1) + n
  := by
  induction members generalizing block n with
  | nil =>
    have hn : n ≤ 1 := by
      rw [← h]
      cases block.connection <;> simp
    simp [FaultyBlock, hn]
  | cons member members ih =>
    obtain ⟨key, value⟩ := member
    rw [List.foldlM_cons, addReplacement, List.countP_cons, faultyBlock_cons]
    by_cases hkey : isConnectionsKey key = true
    · simp only [hkey, if_true]
      cases hconnection : block.connection with
      | some template =>
        rw [hconnection] at h
        simp [← h]
      | none =>
        rw [hconnection] at h
        simp only [Option.isSome_none, Bool.false_eq_true, if_false, bind_assoc, pure_bind, ← h]
        rw [fails_bind_iff fun template => ih _ 1 rfl, fails_connectionTemplate]
        simp [or_assoc]
    · simp only [hkey, Bool.false_eq_true, if_false, bind_assoc, pure_bind]
      rw [fails_bind_iff fun text => ih { block with
          attributes := block.attributes ++ [(key, text)] } n h, fails_assignedText]
      simp [or_assoc]

theorem fails_replacements [PatternReader] :
  Fails (replacements members) ↔ FaultyReplacements members
  := by
  rw [replacements_eq, fails_foldlM_addReplacement {} 0 rfl, FaultyReplacements, Nat.add_zero]

/-! ### Blocks without any condition -/

/-- Members that put no condition on an entity: all they hold is empty lists of connections. -/
def IsVacuous (members : Members) : Prop :=
  ∀ member ∈ members, isConnectionsKey member.1 = true ∧ member.2 = .array []

theorem listed_eq_nil_iff :
  listed value = [] ↔ value = .array []
  := by
  cases value <;> simp [listed]

/-- A vacuous block has no attributes and lists no connections. -/
theorem isVacuous_iff :
  IsVacuous members ↔ attributeMembers members = [] ∧ connectionItems members = []
  := by
  simp only [IsVacuous, attributeMembers, connectionItems, connectionMembers,
    List.filter_eq_nil_iff, List.flatMap_eq_nil_iff, List.mem_filter, List.map_eq_nil_iff,
    listed_eq_nil_iff, Bool.not_eq_true', Bool.not_eq_false]
  constructor
  · intro hvacuous
    exact ⟨fun member hmember => (hvacuous member hmember).1,
      fun member hmember => (hvacuous member hmember.1).2⟩
  · rintro ⟨hkeys, hlists⟩ member hmember
    exact ⟨hkeys member hmember, hlists member ⟨hmember, hkeys member hmember⟩⟩

/-- A block describes no condition exactly if it is vacuous. -/
theorem ConditionsOf.isEmpty_iff [PatternReader] {block : Conditions}
    (h : ConditionsOf members block) :
  block.isEmpty = true ↔ IsVacuous members
  := by
  rw [isVacuous_iff, ← h.eq_nil_iff]
  simp [Conditions.isEmpty]

/-- A block describes no insertion exactly if it is vacuous. -/
theorem InsertionsOf.isEmpty_iff [PatternReader] {block : Insertions}
    (h : InsertionsOf members block) :
  block.isEmpty = true ↔ IsVacuous members
  := by
  rw [isVacuous_iff, ← h.eq_nil_iff]
  simp [Insertions.isEmpty]

/-! ### Rule objects -/

/-- A block of a rule object that is there and is no object, or whose members are faulty. -/
def FaultyPart (members : Members) (name : String) (FaultyMembers : Members → Prop) : Prop :=
  match member? members name with
  | none => False
  | some (.object block) => FaultyMembers block
  | some _ => True

/-- Members of an object that describes no modification.  What is wrong beside a vacuous match
block is not found. -/
def FaultyModification [PatternReader] (members : Members) : Prop :=
  match member? members "match" with
  | some (.object matching) =>
    FaultyConditions matching ∨
      ¬ IsVacuous matching ∧
        (FaultyPart members "delete" FaultyConditions ∨
          FaultyPart members "replace" FaultyReplacements ∨
          FaultyPart members "insert" FaultyInsertions)
  | _ => True

/-- Members of an object that describes no rule of a kind. -/
def FaultyRule [PatternReader] : RuleKind → Members → Prop
  | .remove => FaultyConditions
  | .add => FaultyInsertions
  | .modify => FaultyModification

theorem fails_block? {α : Type} {compile : Members → Compilation α}
    {FaultyMembers : Members → Prop}
    (h : ∀ members, Fails (compile members) ↔ FaultyMembers members) :
  Fails (block? members name compile) ↔ FaultyPart members name FaultyMembers
  := by
  rw [block?, FaultyPart]
  cases member? members name with
  | none => simp
  | some value =>
    cases value with
    | object block => simp [membersOf, h]
    | _ => simp [membersOf, fails_mismatch, fails_bind]

theorem fails_removeRule? [PatternReader] :
  Fails (removeRule? members) ↔ FaultyConditions members
  := by
  rw [removeRule?, fails_bind_iff (P := False), or_false, fails_conditions]
  intro block
  split <;> simp [event]

theorem fails_addRule? [PatternReader] :
  Fails (addRule? members) ↔ FaultyInsertions members
  := by
  rw [addRule?, fails_bind_iff (P := False), or_false, fails_insertions]
  intro block
  split <;> simp [event]

theorem fails_modifyRule? [PatternReader] :
  Fails (modifyRule? members) ↔ FaultyModification members
  := by
  rw [modifyRule?, FaultyModification]
  cases member? members "match" with
  | none => simp
  | some value =>
    cases value with
    | object matching =>
      simp only [membersOf, pure_bind]
      rw [fails_bind, ← fails_conditions]
      cases hmatching : (conditions matching).run.value with
      | error error => simp [Fails, hmatching]
      | ok block =>
        apply or_congr Iff.rfl
        simp only [Except.ok.injEq, exists_eq_left']
        by_cases hempty : block.isEmpty = true
        · have hvacuous := (conditionsOf_conditions hmatching).isEmpty_iff.mp hempty
          simp [hempty, hvacuous, event]
        · have hvacuous := mt (conditionsOf_conditions hmatching).isEmpty_iff.mpr hempty
          simp only [hempty, hvacuous, Bool.false_eq_true, if_false, not_false_eq_true, true_and]
          rw [fails_bind_iff fun _ => fails_bind_iff fun _ => fails_bind_pure,
            fails_block? fun _ => fails_conditions, fails_block? fun _ => fails_replacements,
            fails_block? fun _ => fails_insertions]
    | _ => simp [membersOf, fails_mismatch, fails_bind]

end LumpRules
