import LumpRules.Proofs.Document.Isolation
import LumpRules.Proofs.Document.Transparency
import LumpRules.Proofs.Json.Grammar
import LumpRules.Proofs.Rule.Respelling

/-!
# Documents one after the other

The rules of a document stand kind by kind, those of a kind as its section lists them, so bringing
them into the order of application leaves them as they are (`ofRules_of_compileSections`).  A
document joins some others if each of its sections of rules is read as theirs are, one after the
other.  This is so if its members are all of their members (`JoinsMembers.joinsSections`), and there
always is such a document, made of the texts in their sections (`exists_joinsSections`).  Within a
section the rules of the first document come before those of the second one, as they do in the order
of application, so a document that joins others describes the rules that they describe together
(`ofDocument_of_joinsSections`).
-/

namespace LumpRules

open Document Compilation

variable {kind : RuleKind} {members : Members} {objects : List Members} {rule : Rule}
  {rules : List Rule} {sections : Sections} {text : String} {texts : List String}
  {files : List RuleFile} {parts : List Sections}

/-! ### The rules of a document -/

theorem RuleOf.kind_eq [PatternReader] (h : RuleOf kind members rule) :
  rule.kind = kind
  := by
  cases h with
  | remove => rfl
  | add => rfl
  | modify => rfl

theorem RulesOf.kind_eq [PatternReader] (h : RulesOf kind objects rules) :
  ∀ rule ∈ rules, rule.kind = kind
  := by
  induction h with
  | nil => simp
  | idle _ _ ih => apply ih
  | kept _ hrule _ ih =>
    rw [List.forall_mem_cons]
    exact ⟨hrule.kind_eq, ih⟩

theorem kind_eq_of_sectionRules [PatternReader]
    (h : (sectionRules sections kind (objectRule? kind)).run.value = .ok rules) :
  ∀ rule ∈ rules, rule.kind = kind
  := by
  obtain ⟨objects, -, hrules⟩ := rulesOf_sectionRules h
  apply hrules.kind_eq

/-- Among the rules of a document those of a kind are the rules of its section. -/
theorem sectionRules_of_compileSections [PatternReader]
    (h : (compileSections sections).run.value = .ok rules)
    (kind : RuleKind) :
  (sectionRules sections kind (objectRule? kind)).run.value = .ok (rulesOfKind kind rules)
  := by
  obtain ⟨found, rfl, hfound⟩ := compileSections_eq_ok_iff.mp h
  rw [rulesOfKind_byKind fun kind => kind_eq_of_sectionRules (hfound kind)]
  apply hfound

/-- The rules of a document stand in the order of application. -/
theorem ofRules_of_compileSections [PatternReader]
    (h : (compileSections sections).run.value = .ok rules) :
  RuleFile.ofRules rules = ⟨rules⟩
  := by
  obtain ⟨found, rfl, hfound⟩ := compileSections_eq_ok_iff.mp h
  have hkind : ∀ kind, rulesOfKind kind (byKind found) = found kind :=
    rulesOfKind_byKind fun kind => kind_eq_of_sectionRules (hfound kind)
  have hrules : (RuleFile.ofRules (byKind found)).rules = byKind found := by
    rw [rules_ofRules, funext hkind]
  exact congrArg RuleFile.mk hrules

/-! ### Several documents -/

/-- The documents describe the rules of the files, each those of one. -/
def DescribeFiles [PatternReader] (texts : List String) (files : List RuleFile) : Prop :=
  List.Forall₂ (fun text file => (RuleFile.ofDocument text).run.value = .ok file) texts files

/-- A document whose sections of rules are read as those of some documents, one after the other. -/
def JoinsSections (text : String) (texts : List String) : Prop :=
  ∃ sections parts, parse text = .ok sections ∧
    List.Forall₂ (fun text part => parse text = .ok part) texts parts ∧
    ∀ kind : RuleKind, (sections.fragments kind.name).map Json.read =
      parts.flatMap fun part => (part.fragments kind.name).map Json.read

/-- The rules of some sections are those of the objects that all of their texts list. -/
theorem exists_objects_of_parts [PatternReader] {lists : List (List Rule)}
    (h : List.Forall₂ (fun part rules =>
      (sectionRules part kind (objectRule? kind)).run.value = .ok rules) parts lists) :
  ∃ (values : List Json) (objects : List Members),
    (parts.flatMap fun part => (part.fragments kind.name).map Json.read) = values.map .ok ∧
    values.flatMap listed = objects.map .object ∧
    (objectRules kind objects).run.value = .ok lists.flatten
  := by
  induction h with
  | nil => exact ⟨[], [], rfl, rfl, rfl⟩
  | cons hpart _ ih =>
    obtain ⟨laterValues, laterObjects, hlaterValues, hlaterObjects, hlater⟩ := ih
    obtain ⟨objects, hholds⟩ := sectionHolds_of_sectionRules hpart
    rw [sectionRules_eq hholds] at hpart
    obtain ⟨values, hvalues, hobjects⟩ := hholds
    use values ++ laterValues, objects ++ laterObjects
    refine ⟨?_, ?_, ?_⟩
    · rw [List.flatMap_cons, hvalues, hlaterValues, List.map_append]
    · rw [List.flatMap_append, hobjects, hlaterObjects, List.map_append]
    · rw [objectRules_append]
      simp only [run_value_bind, hpart, hlater, List.flatten_cons]
      rfl

/-- Sections that are read as those of some documents, one after the other, have their rules. -/
theorem sectionRules_of_parts [PatternReader] {lists : List (List Rule)}
    (h : List.Forall₂ (fun part rules =>
      (sectionRules part kind (objectRule? kind)).run.value = .ok rules) parts lists)
    (hread : (sections.fragments kind.name).map Json.read =
      parts.flatMap fun part => (part.fragments kind.name).map Json.read) :
  (sectionRules sections kind (objectRule? kind)).run.value = .ok lists.flatten
  := by
  obtain ⟨values, objects, hvalues, hobjects, hrules⟩ := exists_objects_of_parts h
  rw [sectionRules_eq ⟨values, hread.trans hvalues, hobjects⟩, hrules]

theorem forall₂_compileSections [PatternReader] (h : DescribeFiles texts files)
    (hparts : List.Forall₂ (fun text part => parse text = .ok part) texts parts) :
  List.Forall₂ (fun part (file : RuleFile) => (compileSections part).run.value = .ok file.rules)
    parts files
  := by
  induction h generalizing parts with
  | nil =>
    cases hparts
    apply List.Forall₂.nil
  | cons hfile _ ih =>
    cases hparts with
    | cons hpart hparts =>
      obtain ⟨sections, hparse, hcompile⟩ := sections_of_ofDocument hfile
      obtain rfl := Except.ok.inj (hpart.symm.trans hparse)
      exact .cons hcompile (ih hparts)

/-- The rules of some documents, put into one file, are those of the document that joins them. -/
theorem ofDocument_of_joinsSections [PatternReader] (h : DescribeFiles texts files)
    (hjoins : JoinsSections text texts) :
  (RuleFile.ofDocument text).run.value = .ok (.ofRules (files.flatMap RuleFile.rules))
  := by
  obtain ⟨sections, parts, hparse, hparts, hread⟩ := hjoins
  have hcompile := forall₂_compileSections h hparts
  apply ofDocument_of_sections hparse
  -- What the sorted rules are kind by kind, each section of the joining document has to give.
  rw [compileSections_eq_ok_iff]
  use fun kind => rulesOfKind kind (files.flatMap RuleFile.rules), rules_ofRules _
  intro kind
  rw [rulesOfKind_flatMap, List.flatMap_def]
  apply sectionRules_of_parts _ (hread kind)
  rw [List.forall₂_map_right_iff]
  apply hcompile.imp
  intro part file hfile
  apply sectionRules_of_compileSections hfile

/-! ### Members -/

/-- A document whose members are those of some documents, one after the other. -/
def JoinsMembers (text : String) (texts : List String) : Prop :=
  ∃ written : List (List MemberText),
    List.Forall₂ (fun text members => IsDocumentOf members (read text).toList) texts written ∧
    IsDocumentOf written.flatten (read text).toList

theorem fragments_capturedItems_flatten (written : List (List MemberText)) (name : String) :
  (Sections.pushAll (capturedItems written.flatten)).fragments name =
    written.flatMap fun members => (Sections.pushAll (capturedItems members)).fragments name
  := by
  simp only [Sections.fragments_pushAll, capturedItems, List.filter_flatten, List.map_flatten,
    List.map_map, List.flatMap_def]
  rfl

theorem JoinsMembers.joinsSections (h : JoinsMembers text texts) :
  JoinsSections text texts
  := by
  obtain ⟨written, hparts, htext⟩ := h
  refine ⟨_, written.map fun members => .pushAll (capturedItems members),
    scan_of_isDocumentOf htext, ?_, ?_⟩
  · rw [List.forall₂_map_right_iff]
    apply hparts.imp
    intro text members hmembers
    apply scan_of_isDocumentOf hmembers
  · intro kind
    rw [fragments_capturedItems_flatten, List.map_flatMap, List.flatMap_map]

/-! ### A document made of sections -/

/-- The texts in the sections of rules, each with the name of its section. -/
def ruleMembers (sections : Sections) : List (String × String) :=
  [RuleKind.remove, .add, .modify].flatMap fun kind =>
    (sections.fragments kind.name).map fun fragment => (kind.name, fragment)

theorem ruleMembers_filter (sections : Sections) (kind : RuleKind) :
  ((ruleMembers sections).filter (·.1 = kind.name)).map Prod.snd = sections.fragments kind.name
  := by
  cases kind <;> simp [ruleMembers, List.filter_map, Function.comp_def, RuleKind.name]

/-- A text of a section of rules that can be put into another document. -/
structure IsRuleMember (member : String × String) : Prop where
  name : ∃ kind : RuleKind, member.1 = kind.name
  reads : ∃ value, Json.read member.2 = .ok value
  container : (Json.tokens member.2.toList).head?.any opensContainer = true

theorem readString_name (kind : RuleKind) :
  Json.readString .full (kind.name.toList ++ ['"']) = .ok (kind.name.toList, [])
  := by
  cases kind <;> decide

theorem IsRuleMember.isJsonMember {member : String × String} (h : IsRuleMember member) :
  IsJsonMember member
  := by
  obtain ⟨name, fragment⟩ := member
  obtain ⟨⟨kind, rfl⟩, hreads, -⟩ := h
  exact ⟨⟨_, readString_name kind⟩, hreads⟩

theorem opensContainer_of_opensBracket {value : List Char} (h : opensBracket value = true) :
  (Json.tokens value).head?.any opensContainer = true
  := by
  cases value with
  | nil => contradiction
  | cons c rest =>
    have hc : c = '{' ∨ c = '[' := by simpa [opensBracket] using h
    rw [Json.tokens_mark (by rcases hc with rfl | rfl <;> simp)]
    apply h

/-- The texts in the sections of rules of a document that describes rules. -/
theorem isRuleMember_of_mem [PatternReader] (hparse : parse text = .ok sections)
    (hcompile : (compileSections sections).run.value = .ok rules) :
  ∀ member ∈ ruleMembers sections, IsRuleMember member
  := by
  intro member hmember
  simp only [ruleMembers, List.mem_flatMap, List.mem_map] at hmember
  obtain ⟨kind, -, fragment, hfragment, rfl⟩ := hmember
  obtain ⟨objects, ⟨values, hvalues, -⟩, -⟩ :=
    rulesOf_sectionRules (sectionRules_of_compileSections hcompile kind)
  refine ⟨⟨kind, rfl⟩, ?_, ?_⟩
  · have hmem : Json.read fragment ∈ (sections.fragments kind.name).map Json.read :=
      List.mem_map_of_mem hfragment
    rw [hvalues, List.mem_map] at hmem
    obtain ⟨value, -, hvalue⟩ := hmem
    exact ⟨value, hvalue.symm⟩
  · obtain ⟨written, -, hopens, rfl⟩ := exists_container hparse hfragment
    rw [MemberText.raw, String.toList_ofList]
    apply opensContainer_of_opensBracket hopens

/-- A document that is made of such texts is read as they are. -/
theorem read_fragments_of_captures {members : List (String × String)} {found : List Member}
    (h : List.Forall₂ Member.Captures found members)
    (hmembers : ∀ member ∈ members, IsRuleMember member) (kind : RuleKind) :
  ((Sections.ofMembers found).fragments kind.name).map Json.read =
    ((members.filter (·.1 = kind.name)).map Prod.snd).map Json.read
  := by
  rw [fragments_ofMembers]
  induction h with
  | nil => rfl
  | @cons member source found members hcaptures _ ih =>
    rw [List.forall_mem_cons] at hmembers
    obtain ⟨⟨⟨kind', hname⟩, -, hopens⟩, hmembers⟩ := hmembers
    obtain ⟨value, hvalue, hraw⟩ := hcaptures.value
    have hcontainer : member.isContainer = true := hcaptures.container.trans hopens
    have hname' : canonicalName member.name = source.1 := by
      rw [hcaptures.name, hname]
      cases kind' <;> rfl
    rw [List.filterMap_cons, fragment?, hname', canonicalName_kind]
    by_cases hkind : source.1 = kind.name
    · simp [hcontainer, hkind, hvalue, hraw, ih hmembers]
    · simp [hkind, ih hmembers]

theorem exists_parts [PatternReader] (h : DescribeFiles texts files) :
  ∃ parts, List.Forall₂ (fun text part => parse text = .ok part) texts parts ∧
    ∀ member ∈ parts.flatMap ruleMembers, IsRuleMember member
  := by
  induction h with
  | nil => exact ⟨[], .nil, by simp⟩
  | cons hfile _ ih =>
    obtain ⟨sections, hparse, hcompile⟩ := sections_of_ofDocument hfile
    obtain ⟨parts, hparts, hmembers⟩ := ih
    use sections :: parts, .cons hparse hparts
    rw [List.flatMap_cons, List.forall_mem_append]
    exact ⟨isRuleMember_of_mem hparse hcompile, hmembers⟩

/-- Documents that describe rules can be joined. -/
theorem exists_joinsSections [PatternReader] (h : DescribeFiles texts files) :
  ∃ text, JoinsSections text texts
  := by
  obtain ⟨parts, hparts, hmembers⟩ := exists_parts h
  obtain ⟨found, hfound, hcaptures⟩ := parse_of_noisyForm
    (fun member hmember => (hmembers member hmember).isJsonMember) (isNoisyForm_bareText _)
  refine ⟨bareText (parts.flatMap ruleMembers), .ofMembers found, parts, hfound, hparts, ?_⟩
  intro kind
  rw [read_fragments_of_captures hcaptures hmembers, List.filter_flatMap, List.map_flatMap,
    List.map_flatMap]
  simp only [ruleMembers_filter]

/-! ### The normal form -/

/-- A rule file keeps exactly the given rules, those of each kind in their order, and one kind after
the other.  This changes no run.  The rules of a document are in this form, so those of several
documents together make up the file of a document that joins them. -/
theorem ofRules_normalForm [PatternReader] :
  (∀ rules, (RuleFile.ofRules rules).rules.Perm rules ∧
    (RuleFile.ofRules rules).rules =
      rulesOfKind .remove rules ++ rulesOfKind .add rules ++ rulesOfKind .modify rules) ∧
  (∀ {ε σ : Type} [EntityView ε] [LumpView σ ε] rules options (lump : σ),
    applyRules (RuleFile.ofRules rules).rules options lump = applyRules rules options lump) ∧
  (∀ text file, (RuleFile.ofDocument text).run.value = .ok file →
    RuleFile.ofRules file.rules = file) ∧
  ∀ texts files, DescribeFiles texts files →
    (∀ text, JoinsSections text texts →
      (RuleFile.ofDocument text).run.value = .ok (.ofRules (files.flatMap RuleFile.rules))) ∧
    (∀ text, JoinsMembers text texts → JoinsSections text texts) ∧
    ∃ text, JoinsSections text texts
  := by
  refine ⟨?_, ?_, ?_, ?_⟩
  · intro rules
    exact ⟨perm_ofRules rules, rules_ofRules rules⟩
  · intro ε σ _ _ rules options lump
    apply applyRules_congr
    intro kind
    apply rulesOfKind_ofRules
  · intro text file hfile
    obtain ⟨sections, -, hcompile⟩ := sections_of_ofDocument hfile
    apply ofRules_of_compileSections hcompile
  · intro texts files hfiles
    refine ⟨?_, ?_, exists_joinsSections hfiles⟩
    · intro text hjoins
      apply ofDocument_of_joinsSections hfiles hjoins
    · intro text hjoins
      apply hjoins.joinsSections

/-- A member with an entity to add. -/
def firstMember : MemberText where
  name := "add".toList
  value := "\x7b\"b\":\"c\"\x7d".toList

/-- A member with a condition of removal. -/
def secondMember : MemberText where
  name := "Filter".toList
  value := "\x7b\"a\":\"d\"\x7d".toList

/-- The documents with one of these members each. -/
def separateTexts : List String :=
  ["\x7b\"add\":\x7b\"b\":\"c\"\x7d\x7d", "\x7b\"Filter\":\x7b\"a\":\"d\"\x7d\x7d"]

/-- A document with both members, and a comment between them. -/
def joinedText : String :=
  "\x7b\"add\":\x7b\"b\":\"c\"\x7d,// and\n\"Filter\":\x7b\"a\":\"d\"\x7d\x7d"

theorem joinsMembers_joinedText :
  JoinsMembers joinedText separateTexts
  := by
  have hcontent : ∀ word : List Char,
      (word.all fun c => ' ' ≤ c && c != '"' && c != '\\') = true → IsContent word := by
    intro word hword
    rw [← List.append_nil word]
    apply (Json.isChars_plain hword .nil).isContent
  have hnested : ∀ name content : List Char, IsContent name → IsContent content →
      IsValue 127 (soleMember (String.ofList name)
        (String.ofList ('"' :: content ++ ['"']))).toList :=
    fun name content hname hcontent => .inr <| .inr <| .inl
      ⟨_, isObject_soleMember hname (isValue_string ⟨content, hcontent, rfl⟩)⟩
  have hfirst : IsContent firstMember.name ∧ IsValue 127 firstMember.value :=
    ⟨hcontent _ rfl, hnested ['b'] ['c'] (hcontent _ rfl) (hcontent _ rfl)⟩
  have hsecond : IsContent secondMember.name ∧ IsValue 127 secondMember.value :=
    ⟨hcontent _ rfl, hnested ['a'] ['d'] (hcontent _ rfl) (hcontent _ rfl)⟩
  have hmember : ∀ member : MemberText,
      IsContent member.name ∧ IsValue 127 member.value →
        IsMember (IsValue 127) member ('"' :: member.name ++ '"' :: ':' :: member.value) :=
    fun member h => ⟨h.1, h.2, [], [], isGap_nil, isGap_nil, by simp⟩
  have hline : IsGap ['\n'] := List.forall_mem_singleton.mpr rfl
  have hobject : IsObject (IsValue 127) [firstMember, secondMember] _ :=
    ⟨[], _, isGap_nil, .more (hmember _ hfirst) isGap_nil hline <|
      .last (hmember _ hsecond) isGap_nil, rfl⟩
  refine ⟨[[firstMember], [secondMember]], ?_, ?_⟩
  · exact .cons (isDocumentOf_soleMember hfirst.1 hfirst.2)
      (.cons (isDocumentOf_soleMember hsecond.1 hsecond.2) .nil)
  · refine .inr ⟨[], _, [], isGap_nil, hobject, isGap_nil, ?_⟩
    decide

/-- The rule of the first document. -/
def firstRule : Rule :=
  .add { attributes := [("b", "c")] }

/-- The rule of the second document. -/
def secondRule : Rule :=
  .remove { attributes := [("a", .literal "d")] }

open scoped PatternReader in
/-- The rules change places, whether they are sorted or compiled from one document. -/
theorem ofRules_normalForm_joinedText :
  DescribeFiles separateTexts [⟨[firstRule]⟩, ⟨[secondRule]⟩] ∧
  JoinsMembers joinedText separateTexts ∧
  RuleFile.ofRules [firstRule, secondRule] = ⟨[secondRule, firstRule]⟩ ∧
  RuleFile.ofRules [secondRule, firstRule] = ⟨[secondRule, firstRule]⟩ ∧
  (RuleFile.ofDocument joinedText).run.value = .ok ⟨[secondRule, firstRule]⟩
  := by
  obtain ⟨hrules, -, hdocument, hjoins⟩ := ofRules_normalForm
  have hfiles : DescribeFiles separateTexts [⟨[firstRule]⟩, ⟨[secondRule]⟩] :=
    .cons rfl (.cons rfl .nil)
  have hsorted : RuleFile.ofRules [firstRule, secondRule] = ⟨[secondRule, firstRule]⟩ :=
    congrArg RuleFile.mk (hrules [firstRule, secondRule]).2
  obtain ⟨hcompiled, hmembers, -⟩ := hjoins separateTexts _ hfiles
  have hjoined : (RuleFile.ofDocument joinedText).run.value =
      .ok (.ofRules [firstRule, secondRule]) :=
    hcompiled joinedText (hmembers joinedText joinsMembers_joinedText)
  rw [hsorted] at hjoined
  exact ⟨hfiles, joinsMembers_joinedText, hsorted, hdocument joinedText _ hjoined, hjoined⟩

end LumpRules
