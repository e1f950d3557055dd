import LumpRules.Proofs.Rule.Keywords
import LumpRules.Proofs.Rule.Blocks

/-!
# Keywords are read in every spelling

Values that differ in the spelling of keywords only are compiled to the same rules.  The relations
on values follow the nesting of a section, and so do the lemmas: connections (`respects_...`),
blocks (`follows_conditions` and its like), rules (`follows_objectRule?`) and the texts of whole
sections (`follows_compileSections`).  That a step has the same outcome is said by `Follows`, since
the names and values in errors are those of the document as it is spelled.
-/

namespace LumpRules

open Text Document Compilation

variable {key key' name name' : String} {value value' : Json} {members members' : Members}

/-! ### Connections -/

/-- The key of a value shows in errors only. -/
theorem follows_mismatch {α : Type} (y : Compilation α) (expected : ExpectedType) :
  Follows y (mismatch key expected value)
  := follows_throw y _

theorem follows_textOf :
  Follows (textOf key' value) (textOf key value)
  := by
  cases value with
  | string text => apply Follows.refl
  | _ => apply follows_mismatch

theorem follows_delayOf :
  Follows (delayOf key' value) (delayOf key value)
  := by
  cases value with
  | number n => apply Follows.refl
  | _ => apply follows_mismatch

theorem follows_limitOf :
  Follows (limitOf key' value) (limitOf key value)
  := by
  rw [limitOf.eq_def, limitOf.eq_def]
  split
  · split
    · apply Follows.refl
    · apply follows_mismatch
  · apply follows_mismatch

theorem follows_membersOf :
  Follows (membersOf key' value) (membersOf key value)
  := by
  cases value with
  | object members => apply Follows.refl
  | _ => apply follows_mismatch

theorem follows_setPatternField [PatternReader] (pattern : ConnectionPattern)
    (field : ConnectionField) :
  Follows (setPatternField pattern field name' value) (setPatternField pattern field name value)
  := by
  cases field with
  | delay =>
    apply Follows.bind follows_delayOf
    intro delay
    apply Follows.refl
  | limit =>
    apply Follows.bind follows_limitOf
    intro limit
    apply Follows.refl
  | _ =>
    apply Follows.bind follows_textOf
    intro text
    apply Follows.refl

theorem follows_setTemplateField [PatternReader] (template : ConnectionTemplate)
    (field : ConnectionField) :
  Follows (setTemplateField template field name' value)
    (setTemplateField template field name value)
  := by
  cases field with
  | delay =>
    apply Follows.bind follows_delayOf
    intro delay
    apply Follows.refl
  | limit =>
    apply Follows.bind follows_limitOf
    intro limit
    apply Follows.refl
  | _ => apply Follows.refl

/-- A step that ends the same way for related values, under whatever key. -/
def Respects {α : Type} (R : Json → Json → Prop) (compile : String → Json → Compilation α) :
    Prop :=
  ∀ key key' value value', R value value' → Follows (compile key' value') (compile key value)

theorem respects_foldFields {β : Type} {set : β → ConnectionField → String → Json → Compilation β}
    (hset : ∀ state field name name' value,
      Follows (set state field name' value) (set state field name value)) (start : β) :
  Respects RespelledConnection (foldFields set start)
  := by
  intro key key' value value' h
  cases h with
  | same value =>
    apply Follows.bind follows_membersOf
    intro members
    apply Follows.refl
  | @object members members' hmembers =>
    simp only [foldFields, membersOf, pure_bind]
    apply follows_foldlM _ hmembers
    rintro state ⟨name, value⟩ ⟨name', _⟩ ⟨hname, rfl⟩
    rw [ofName?_congr hname]
    cases ConnectionField.ofName? name' with
    | none =>
      intro result hresult
      exact hresult
    | some field => apply hset

theorem respects_connectionPattern [PatternReader] :
  Respects RespelledConnection connectionPattern
  := by
  intro key key' value value' h
  rw [connectionPattern, connectionPattern]
  apply respects_foldFields _ _ key key' value value' h
  intro pattern field name name' value
  apply follows_setPatternField

theorem respects_connectionTemplate [PatternReader] :
  Respects RespelledConnection connectionTemplate
  := by
  intro key key' value value' h
  rw [connectionTemplate, connectionTemplate]
  apply respects_foldFields _ _ key key' value value' h
  intro template field name name' value
  apply follows_setTemplateField

theorem respects_connectionList {α : Type} {each : String → Json → Compilation α}
    (heach : Respects RespelledConnection each) :
  Respects RespelledConnections (connectionList each)
  := by
  intro key key' value value' h
  cases h with
  | same value =>
    cases value with
    | array items =>
      apply follows_mapM (R := RespelledConnection)
      · apply heach
      · apply List.forall₂_same.mpr
        intro item _
        apply RespelledConnection.same
    | _ => apply follows_mismatch
  | array hitems => apply follows_mapM (heach key key') hitems

/-! ### Blocks -/

/-- Members that are compiled alike in every spelling of their keywords. -/
def RespectsEntries {α : Type} (connections : Json → Json → Prop)
    (compile : Members → Compilation α) : Prop :=
  ∀ members members', List.Forall₂ (RespelledEntry connections) members members' →
    Follows (compile members') (compile members)

theorem follows_addMember {α γ : Type} {valueOf : String → Json → Compilation α}
    {connectionOf : String → Json → Compilation γ}
    (hconnection : Respects RespelledConnection connectionOf) (block : Entries α × List γ)
    (member member' : String × Json) (h : RespelledEntry RespelledConnections member member') :
  Follows (addMember valueOf connectionOf block member')
    (addMember valueOf connectionOf block member)
  := by
  cases h with
  | same member => apply Follows.refl
  | connections hname hname' hvalue =>
    rw [addMember, addMember, if_pos (isConnectionsKey_iff.mpr hname),
      if_pos (isConnectionsKey_iff.mpr hname')]
    apply Follows.bind (respects_connectionList hconnection _ _ _ _ hvalue)
    intro connections
    apply Follows.refl

theorem follows_conditions [PatternReader] :
  RespectsEntries RespelledConnections conditions
  := by
  intro members members' h
  rw [conditions_eq, conditions_eq]
  apply Follows.map
  apply follows_foldlM (follows_addMember respects_connectionPattern) h

theorem follows_insertions [PatternReader] :
  RespectsEntries RespelledConnections insertions
  := by
  intro members members' h
  rw [insertions_eq, insertions_eq]
  apply Follows.map
  apply follows_foldlM (follows_addMember respects_connectionTemplate) h

theorem follows_addReplacement [PatternReader] (block : Replacements)
    (member member' : String × Json) (h : RespelledEntry RespelledConnection member member') :
  Follows (addReplacement block member') (addReplacement block member)
  := by
  cases h with
  | same member => apply Follows.refl
  | connections hname hname' hvalue =>
    rw [addReplacement, addReplacement, if_pos (isConnectionsKey_iff.mpr hname),
      if_pos (isConnectionsKey_iff.mpr hname')]
    split
    · apply follows_throw
    · apply Follows.bind (respects_connectionTemplate _ _ _ _ hvalue)
      intro connection
      apply Follows.refl

theorem follows_replacements [PatternReader] :
  RespectsEntries RespelledConnection replacements
  := by
  intro members members' h
  rw [replacements_eq, replacements_eq]
  apply follows_foldlM follows_addReplacement h

/-! ### Rules -/

theorem follows_block {α : Type} {connections : Json → Json → Prop}
    {compile : Members → Compilation α} (hcompile : RespectsEntries connections compile)
    (h : RespelledBlock connections value value') :
  Follows (membersOf key value' >>= compile) (membersOf key value >>= compile)
  := by
  cases h with
  | same value => apply Follows.refl
  | object hmembers =>
    simp only [membersOf, pure_bind]
    apply hcompile _ _ hmembers

theorem follows_block? {α : Type} {keyword : String} {compile : Members → Compilation α}
    (hcompile : RespectsEntries (connectionsOf keyword) compile)
    (hkeyword : keyword ∈ blockKeywords) (h : List.Forall₂ RespelledPart members members') :
  Follows (block? members' keyword compile) (block? members keyword compile)
  := by
  have hfound := member?_congr h hkeyword
  rw [block?, block?]
  generalize member? members keyword = found at hfound ⊢
  generalize member? members' keyword = found' at hfound ⊢
  cases hfound with
  | none => apply Follows.refl
  | some hblock =>
    simp only [← bind_assoc]
    apply Follows.bind (follows_block hcompile hblock)
    intro block
    apply Follows.refl

theorem follows_modifyRule? [PatternReader] (h : List.Forall₂ RespelledPart members members') :
  Follows (modifyRule? members') (modifyRule? members)
  := by
  have hfound : Option.Rel (RespelledBlock (connectionsOf "match")) (member? members "match")
      (member? members' "match") := by
    apply member?_congr h
    decide
  rw [modifyRule?, modifyRule?]
  generalize member? members "match" = found at hfound ⊢
  generalize member? members' "match" = found' at hfound ⊢
  cases hfound with
  | none => apply follows_throw
  | some hblock =>
    simp only [← bind_assoc]
    apply Follows.bind (follows_block follows_conditions hblock)
    intro matching
    split
    · apply Follows.refl
    · have hdelete : Follows (block? members' "delete" conditions)
          (block? members "delete" conditions) :=
        follows_block? follows_conditions (by decide) h
      have hreplace : Follows (block? members' "replace" replacements)
          (block? members "replace" replacements) :=
        follows_block? follows_replacements (by decide) h
      have hinsert : Follows (block? members' "insert" insertions)
          (block? members "insert" insertions) :=
        follows_block? follows_insertions (by decide) h
      apply hdelete.bind
      intro delete
      apply hreplace.bind
      intro replace
      apply hinsert.bind
      intro insert
      apply Follows.refl

theorem follows_objectRule? [PatternReader] (kind : RuleKind) (members members' : Members)
    (h : List.Forall₂ (RespelledMember kind) members members') :
  Follows (objectRule? kind members') (objectRule? kind members)
  := by
  cases kind with
  | remove =>
    apply Follows.bind (follows_conditions _ _ h)
    intro conditions
    apply Follows.refl
  | add =>
    apply Follows.bind (follows_insertions _ _ h)
    intro insertions
    apply Follows.refl
  | modify => apply follows_modifyRule? h

/-! ### Sections -/

variable {kind : RuleKind} {fragment fragment' : String}

/-- Two fragments of a section of which the second is JSON if the first is, with the same rules but
for the spelling of keywords. -/
def RespelledFragment (kind : RuleKind) (fragment fragment' : String) : Prop :=
  ∀ value, Json.read fragment = .ok value →
    ∃ value', Json.read fragment' = .ok value' ∧ RespelledSection kind value value'

/-- Two respelled values list as many objects, which are respelled one by one. -/
theorem exists_objects (h : RespelledSection kind value value') :
  ∃ objects objects' : List Members, listed value = objects.map .object ∧
    listed value' = objects'.map .object ∧
    List.Forall₂ (List.Forall₂ (RespelledMember kind)) objects objects'
  := by
  have hlisted : List.Forall₂ (RespelledObject kind) (listed value) (listed value') := by
    cases h with
    | object h =>
      obtain ⟨members, members', rfl, rfl, hmembers⟩ := h
      exact .cons ⟨members, members', rfl, rfl, hmembers⟩ .nil
    | array h => exact h
  clear h
  generalize listed value = values at hlisted ⊢
  generalize listed value' = values' at hlisted ⊢
  induction hlisted with
  | nil => exact ⟨[], [], rfl, rfl, .nil⟩
  | cons hobject _ ih =>
    obtain ⟨members, members', rfl, rfl, hmembers⟩ := hobject
    obtain ⟨objects, objects', rfl, rfl, hobjects⟩ := ih
    exact ⟨members :: objects, members' :: objects', rfl, rfl, .cons hmembers hobjects⟩

theorem follows_fragmentRules [PatternReader] (kind : RuleKind) (fragment fragment' : String)
    (h : RespelledFragment kind fragment fragment') :
  Follows (fragmentRules kind (objectRule? kind) fragment')
    (fragmentRules kind (objectRule? kind) fragment)
  := by
  cases hread : Json.read fragment with
  | error reason =>
    rw [fragmentRules.eq_def kind _ fragment, sectionObjects, hread]
    apply follows_throw
  | ok value =>
    obtain ⟨value', hread', hvalue⟩ := h value hread
    obtain ⟨objects, objects', hlisted, hlisted', hobjects⟩ := exists_objects hvalue
    rw [fragmentRules_eq hread hlisted, fragmentRules_eq hread' hlisted']
    apply Follows.bind (follows_mapM (follows_objectRule? kind) hobjects)
    intro rules
    apply Follows.refl

/-- Sections whose fragments are respelled are compiled to the same rules. -/
theorem follows_compileSections [PatternReader] {sections sections' : Sections}
    (h : ∀ kind : RuleKind, List.Forall₂ (RespelledFragment kind) (sections.fragments kind.name)
      (sections'.fragments kind.name)) :
  Follows (compileSections sections') (compileSections sections)
  := by
  have hsection (kind : RuleKind) : Follows (sectionRules sections' kind (objectRule? kind))
      (sectionRules sections kind (objectRule? kind)) := by
    rw [sectionRules, sectionRules]
    apply Follows.bind (follows_mapM (follows_fragmentRules kind) (h kind))
    intro rules
    apply Follows.refl
  rw [compileSections, compileSections]
  apply (hsection .remove).bind
  intro removals
  apply (hsection .add).bind
  intro additions
  apply (hsection .modify).bind
  intro modifications
  apply Follows.refl

end LumpRules
