import LumpRules.Proofs.Outcome
import LumpRules.Rule.Compilation

/-!
# Keywords and their spellings

Names in a document act as keywords in five places: they name sections, blocks, lists of
connections, and parts of connections; everywhere else they are names of attributes.  Here the
keywords of each place are listed with their aliases, and `RespelledSection` relates two values of a
section that differ in the spelling of keywords only.  Each of the look-ups of the compiler gives
the same for all spellings of a keyword (`canonicalName_congr`, `isConnectionsKey_iff`,
`ofName?_congr`, `member?_congr`).
-/

namespace LumpRules

open Text Document Compilation

/-! ### Spellings -/

/-- The names of sections, each with its aliases. -/
def sectionKeywords : List (List String) :=
  [["remove", "filter"], ["add"], ["modify"]]

/-- The names of the blocks of a modification. -/
def blockKeywords : List String :=
  ["match", "delete", "replace", "insert"]

/-- The names of a list of connections. -/
def connectionKeywords : List String :=
  ["connections", "io"]

/-- The names of the parts of a connection, each with its aliases. -/
def fieldKeywords : List (List String) :=
  [["output", "outputname"], ["target", "targetname"], ["input", "inputname"],
    ["param", "overrideparam"], ["limit", "timestofire"], ["delay"]]

/-- A name that spells one of some aliases, in whatever case. -/
def Spells (aliases : List String) (name : String) : Prop :=
  ∃ keyword ∈ aliases, sameName name keyword = true

/-- The same name, or two spellings of one of some keywords. -/
def Respelled (keywords : List (List String)) (name name' : String) : Prop :=
  name = name' ∨ ∃ aliases ∈ keywords, Spells aliases name ∧ Spells aliases name'

/-! ### Values -/

/-- Two connections that differ in the spelling of the names of their parts only. -/
inductive RespelledConnection : Json → Json → Prop where
  | same (value : Json) : RespelledConnection value value
  | object {members members' : Members} :
      List.Forall₂ (fun member member' =>
        Respelled fieldKeywords member.1 member'.1 ∧ member.2 = member'.2) members members' →
      RespelledConnection (.object members) (.object members')

/-- Two lists of connections that differ in the spelling of keywords only. -/
inductive RespelledConnections : Json → Json → Prop where
  | same (value : Json) : RespelledConnections value value
  | array {items items' : List Json} :
      List.Forall₂ RespelledConnection items items' →
      RespelledConnections (.array items) (.array items')

/-- Two members of a block, where `connections` relates what may stand under the keyword for
connections.  Attributes are the same. -/
inductive RespelledEntry (connections : Json → Json → Prop) :
    String × Json → String × Json → Prop where
  | same (member : String × Json) : RespelledEntry connections member member
  | connections {name name' : String} {value value' : Json} :
      Spells connectionKeywords name → Spells connectionKeywords name' →
      connections value value' → RespelledEntry connections (name, value) (name', value')

/-- Two blocks that differ in the spelling of keywords only. -/
inductive RespelledBlock (connections : Json → Json → Prop) : Json → Json → Prop where
  | same (value : Json) : RespelledBlock connections value value
  | object {members members' : Members} :
      List.Forall₂ (RespelledEntry connections) members members' →
      RespelledBlock connections (.object members) (.object members')

/-- How the connections in a block of a modification are related: a replacement has a single one,
other blocks have lists of them. -/
def connectionsOf (keyword : String) : Json → Json → Prop :=
  if keyword = "replace" then RespelledConnection else RespelledConnections

/-- Two members of a modification. -/
inductive RespelledPart : String × Json → String × Json → Prop where
  | same (member : String × Json) : RespelledPart member member
  | block {keyword name name' : String} {value value' : Json} :
      keyword ∈ blockKeywords → Spells [keyword] name → Spells [keyword] name' →
      RespelledBlock (connectionsOf keyword) value value' →
      RespelledPart (name, value) (name', value')

/-- Two members of an object that describes a rule. -/
def RespelledMember : RuleKind → String × Json → String × Json → Prop
  | .remove => RespelledEntry RespelledConnections
  | .add => RespelledEntry RespelledConnections
  | .modify => RespelledPart

/-- Two objects that describe a rule. -/
def RespelledObject (kind : RuleKind) (value value' : Json) : Prop :=
  ∃ members members', value = .object members ∧ value' = .object members' ∧
    List.Forall₂ (RespelledMember kind) members members'

/-- Two values of a section that differ in the spelling of keywords only. -/
inductive RespelledSection (kind : RuleKind) : Json → Json → Prop where
  | object {value value' : Json} :
      RespelledObject kind value value' → RespelledSection kind value value'
  | array {items items' : List Json} :
      List.Forall₂ (RespelledObject kind) items items' →
      RespelledSection kind (.array items) (.array items')

/-! ### Look-ups -/

variable {keywords : List (List String)} {name name' : String}

/-- What ignores case and is the same for all aliases of a keyword is the same for all its
spellings. -/
theorem Respelled.congr {α : Type} {f : String → α} (h : Respelled keywords name name')
    (hcase : ∀ a b, sameName a b = true → f a = f b)
    (halias : ∀ aliases ∈ keywords, ∀ a ∈ aliases, ∀ b ∈ aliases, f a = f b) :
  f name = f name'
  := by
  rcases h with rfl | ⟨aliases, haliases, ⟨a, ha, hname⟩, b, hb, hname'⟩
  · rfl
  · rw [hcase name a hname, hcase name' b hname', halias aliases haliases a ha b hb]

/-- Spellings of the name of a section are stored under one name. -/
theorem canonicalName_congr (h : Respelled sectionKeywords name name') :
  canonicalName name = canonicalName name'
  := by
  apply h.congr
  · intro a b hab
    rw [canonicalName, canonicalName, sameName_iff.mp hab]
  · decide

/-- The names of a list of connections are recognised in every spelling. -/
theorem isConnectionsKey_iff :
  isConnectionsKey name = true ↔ Spells connectionKeywords name
  := by
  simp [isConnectionsKey, Spells, connectionKeywords]

/-- Spellings of the name of a part of a connection stand for the same part. -/
theorem ofName?_congr (h : Respelled fieldKeywords name name') :
  ConnectionField.ofName? name = ConnectionField.ofName? name'
  := by
  apply h.congr
  · intro a b hab
    rw [ConnectionField.ofName?, ConnectionField.ofName?, sameName_iff.mp hab]
  · decide

/-- A block is found under every spelling of its name. -/
theorem member?_congr {keyword : String} {members members' : Members}
    (h : List.Forall₂ RespelledPart members members') (hkeyword : keyword ∈ blockKeywords) :
  Option.Rel (RespelledBlock (connectionsOf keyword)) (member? members keyword)
    (member? members' keyword)
  := by
  induction h with
  | nil => apply Option.Rel.none
  | @cons member member' members members' hmember _ ih =>
    cases hmember with
    | same member =>
      rw [member?, member?, Entries.get?_cons, Entries.get?_cons]
      split
      · apply Option.Rel.some
        apply RespelledBlock.same
      · apply ih
    | @block other name name' value value' hother hname hname' hvalue =>
      have hinj : ∀ a ∈ blockKeywords, ∀ b ∈ blockKeywords,
          lowerAscii a = lowerAscii b → a = b := by
        decide
      simp only [Spells, List.mem_singleton, exists_eq_left, sameName_iff] at hname hname'
      rw [member?, member?, Entries.get?_cons, Entries.get?_cons, hname, hname']
      split
      · next heq =>
        rw [← hinj other hother keyword hkeyword heq]
        apply Option.Rel.some hvalue
      · apply ih

end LumpRules
