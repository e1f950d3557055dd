import LumpRules.Proofs.Document.Capture
import LumpRules.Proofs.Json.Requoting
import LumpRules.Proofs.Rule.Correspondence
import LumpRules.Proofs.Rule.Spelling

/-!
# Documents in other spellings

`RespelledDocument` relates a document to the same document with other spellings of some of its
keywords: the texts differ in words between quotes only, and what is found at the places of these
words are spellings of one keyword.  `ofDocument_respelled` shows that such a document can be read
and describes the same rules.
-/

namespace LumpRules

open Text Document Json

variable {text text' name : String} {members members' : List Member} {kind : RuleKind}

/-! ### The sections of a document -/

/-- The text that a member adds to the section of the given name. -/
def fragment? (name : String) (member : Member) : Option String :=
  if member.isContainer = true ∧ canonicalName member.name = canonicalName name then
    some member.raw
  else none

/-- The texts of a section are those of the members that spell its name. -/
theorem fragments_ofMembers :
  (Sections.ofMembers members).fragments name = members.filterMap (fragment? name)
  := by
  rw [ofMembers_eq, Sections.fragments_pushAll]
  induction members with
  | nil => rfl
  | cons member members ih =>
    rw [List.filterMap_cons, ← ih, fragment?]
    by_cases hcontainer : member.isContainer = true
    · by_cases hname : canonicalName member.name = canonicalName name
      · simp [hcontainer, hname]
      · simp [hcontainer, hname]
    · simp [hcontainer]

/-! ### Documents -/

/-- Two members of documents that differ in the spelling of keywords only. -/
structure RespelledTop (member member' : Member) : Prop where
  name : Respelled sectionKeywords member.name member'.name
  value : ∀ kind : RuleKind, canonicalName member.name = kind.name → member.isContainer = true →
    ∀ value value', Json.read member.raw = .ok value → Json.read member'.raw = .ok value' →
      RespelledSection kind value value'

/-- A document and the same document with other spellings of some of its keywords. -/
structure RespelledDocument (text text' : String) : Prop where
  words : Reworded text.toList text'.toList
  members : ∀ members members', scanDocument (Document.read text).toList = .ok members →
    scanDocument (Document.read text').toList = .ok members' →
      List.Forall₂ RespelledTop members members'

theorem rel_fragment? {member member' : Member} (h : RespelledTop member member')
    (halike : member.Alike member') (kind : RuleKind) :
  Option.Rel (RespelledFragment kind) (fragment? kind.name member) (fragment? kind.name member')
  := by
  rw [fragment?, fragment?, canonicalName_congr h.name, halike.container, canonicalName_kind]
  split
  · next hmember =>
    obtain ⟨hcontainer, hname⟩ := hmember
    apply Option.Rel.some
    intro value hread
    obtain ⟨value', hread'⟩ := read_requoted halike.raw hread
    use value', hread'
    apply h.value kind _ _ value value' hread hread'
    · rw [canonicalName_congr h.name, hname]
    · rw [halike.container, hcontainer]
  · apply Option.Rel.none

/-- A document in other spellings describes the same rules. -/
theorem ofDocument_respelled [PatternReader] {file : RuleFile} (h : RespelledDocument text text')
    (hfile : (RuleFile.ofDocument text).run.value = .ok file) :
  (RuleFile.ofDocument text').run.value = .ok file
  := by
  obtain ⟨sections, hparse, hcompile⟩ := sections_of_ofDocument hfile
  obtain ⟨members, hscan, rfl⟩ := exists_members hparse
  obtain ⟨members', hscan', halike⟩ := scanDocument_reworded h.words.read hscan
  have hmembers := h.members members members' hscan hscan'
  have hparse' : parse text' = .ok (.ofMembers members') := by
    rw [parse, scan, hscan']
  have hboth : List.Forall₂ (fun member member' => RespelledTop member member' ∧
      member.Alike member') members members' :=
    List.Forall₂.mp (fun _ _ => And.intro) hmembers halike
  have hfragments : ∀ kind : RuleKind, List.Forall₂ (RespelledFragment kind)
      ((Sections.ofMembers members).fragments kind.name)
      ((Sections.ofMembers members').fragments kind.name) := by
    intro kind
    rw [fragments_ofMembers, fragments_ofMembers]
    apply List.rel_filterMap _ hboth
    rintro member member' ⟨hmember, halike⟩
    apply rel_fragment? hmember halike
  apply ofDocument_of_sections hparse'
  apply follows_compileSections hfragments _ hcompile

/-! ### An example -/

/-- A rule with a condition on the attribute `targetname` and one on the target of a connection. -/
def spelledSection : String :=
  "\x7b\"targetname\":1,\"io\":[\x7b\"TargetName\":\"b\"\x7d]\x7d"

/-- The same rule with other spellings of its keywords; the attribute stays as it is. -/
def respelledSection : String :=
  "\x7b\"targetname\":1,\"Connections\":[\x7b\"target\":\"b\"\x7d]\x7d"

/-- A document of one section. -/
def spelledText : String :=
  "\x7b\"Filter\":" ++ spelledSection ++ "\x7d"

/-- The same document with other spellings of its keywords. -/
def respelledText : String :=
  "\x7b\"remove\":" ++ respelledSection ++ "\x7d"

/-- The member of that document. -/
def spelledMember : Member :=
  ⟨"Filter", (spelledSection ++ "\x7d").toList, ['\x7d']⟩

/-- The member of the document in other spellings. -/
def respelledMember : Member :=
  ⟨"remove", (respelledSection ++ "\x7d").toList, ['\x7d']⟩

theorem reworded_spelledText :
  Reworded spelledText.toList respelledText.toList
  := by
  have hspelled : spelledText.toList = "\x7b".toList ++ ("\"Filter\"".toList ++
      (":\x7b\"targetname\":1,".toList ++ ("\"io\"".toList ++ (":[\x7b".toList ++
        ("\"TargetName\"".toList ++ ":\"b\"\x7d]\x7d\x7d".toList))))) := by
    decide +kernel
  have hrespelled : respelledText.toList = "\x7b".toList ++ ("\"remove\"".toList ++
      (":\x7b\"targetname\":1,".toList ++ ("\"Connections\"".toList ++ (":[\x7b".toList ++
        ("\"target\"".toList ++ ":\"b\"\x7d]\x7d\x7d".toList))))) := by
    decide +kernel
  have hfilter : IsWord "Filter".toList := isWord_of_isAlphanum (by decide)
  have hremove : IsWord "remove".toList := isWord_of_isAlphanum (by decide)
  have hio : IsWord "io".toList := isWord_of_isAlphanum (by decide)
  have hconnections : IsWord "Connections".toList := isWord_of_isAlphanum (by decide)
  have hname : IsWord "TargetName".toList := isWord_of_isAlphanum (by decide)
  have htarget : IsWord "target".toList := isWord_of_isAlphanum (by decide)
  rw [hspelled, hrespelled]
  apply (Reworded.refl _).append
  apply (Reworded.word hfilter hremove .nil).append
  apply (Reworded.refl _).append
  apply (Reworded.word hio hconnections .nil).append
  apply (Reworded.refl _).append
  apply (Reworded.word hname htarget .nil).append
  apply Reworded.refl

theorem respelledSection_spelledSection {value value' : Json}
    (h : Json.read spelledSection = .ok value) (h' : Json.read respelledSection = .ok value') :
  RespelledSection .remove value value'
  := by
  have hread : Json.read spelledSection = .ok (.object [("targetname", .number (.integer 1)),
      ("io", .array [.object [("TargetName", .string "b")]])]) := rfl
  have hread' : Json.read respelledSection = .ok (.object [("targetname", .number (.integer 1)),
      ("Connections", .array [.object [("target", .string "b")]])]) := rfl
  obtain rfl := Except.ok.inj (hread.symm.trans h)
  obtain rfl := Except.ok.inj (hread'.symm.trans h')
  have htarget : Respelled fieldKeywords "TargetName" "target" :=
    .inr ⟨["target", "targetname"], by decide, ⟨"targetname", by decide, rfl⟩, "target",
      by decide, rfl⟩
  apply RespelledSection.object
  refine ⟨_, _, rfl, rfl, ?_⟩
  apply List.Forall₂.cons (.same _)
  apply List.Forall₂.cons _ .nil
  apply RespelledEntry.connections
  · exact ⟨"io", by decide, rfl⟩
  · exact ⟨"connections", by decide, rfl⟩
  · apply RespelledConnections.array
    apply List.Forall₂.cons _ .nil
    apply RespelledConnection.object
    apply List.Forall₂.cons ⟨htarget, rfl⟩ .nil

theorem respelledTop_spelledMember :
  RespelledTop spelledMember respelledMember
  := by
  have hraw : spelledMember.raw = spelledSection := by
    decide +kernel
  have hraw' : respelledMember.raw = respelledSection := by
    decide +kernel
  constructor
  · right
    exact ⟨["remove", "filter"], by decide, ⟨"filter", by decide, rfl⟩, "remove", by decide, rfl⟩
  · intro kind hkind _ value value' h h'
    rw [hraw] at h
    rw [hraw'] at h'
    cases kind with
    | remove => apply respelledSection_spelledSection h h'
    | add => contradiction
    | modify => contradiction

theorem respelledDocument_spelledText :
  RespelledDocument spelledText respelledText
  := by
  constructor
  · apply reworded_spelledText
  · intro members members' h h'
    have hscan : scanDocument (Document.read spelledText).toList = .ok [spelledMember] := by
      decide +kernel
    have hscan' : scanDocument (Document.read respelledText).toList = .ok [respelledMember] := by
      decide +kernel
    obtain rfl := Except.ok.inj (hscan.symm.trans h)
    obtain rfl := Except.ok.inj (hscan'.symm.trans h')
    apply List.Forall₂.cons respelledTop_spelledMember .nil

/-- The rule of both documents. -/
def spelledRule : Rule :=
  .remove
    { attributes := [("targetname", .integer 1)]
      connections := [{ target := some (.literal "b") }] }

open scoped PatternReader in
/-- A document with a removal, and the same under other names of its keywords. -/
theorem ofDocument_respelled_filter :
  RespelledDocument spelledText respelledText ∧
    (RuleFile.ofDocument spelledText).run.value = .ok ⟨[spelledRule]⟩ ∧
    (RuleFile.ofDocument respelledText).run.value = .ok ⟨[spelledRule]⟩
  := by
  have hfile : (RuleFile.ofDocument spelledText).run.value = .ok ⟨[spelledRule]⟩ := rfl
  refine ⟨respelledDocument_spelledText, hfile, ?_⟩
  apply ofDocument_respelled respelledDocument_spelledText hfile

end LumpRules
