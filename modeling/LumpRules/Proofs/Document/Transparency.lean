import LumpRules.Proofs.Document.Rows
import LumpRules.Proofs.Rule.Fragments

/-!
# Noise is transparent

A document is given by its members, each with what stands between the quotes of its name and the
JSON text of its value.  However much noise is put around its tokens, the document is accepted,
has the sections of the bare text, and describes the same rules (`parse_noisyForm`).
-/

namespace LumpRules.Document

open Text Json

variable {members : List (String × String)} {text : String} {row : List Token}
  {gap : List Char → Prop}

/-- The text of a document without any noise. -/
def bareText (members : List (String × String)) : String :=
  String.ofList ((documentRow members).flatMap Token.text)

/-- The texts of the tokens, one right after the other, show the row. -/
theorem spaced_flatMap (h : gap []) :
  Spaced gap row (row.flatMap Token.text)
  := by
  induction row with
  | nil => apply Spaced.nil
  | cons token row ih => apply Spaced.cons h ih

theorem WithCommas.refl (row : List Token) :
  WithCommas row row
  := by
  induction row with
  | nil => apply WithCommas.nil
  | cons token row ih => apply ih.token

theorem isNoisyForm_bareText (members : List (String × String)) :
  IsNoisyForm (documentRow members) (bareText members).toList
  := by
  use [], documentRow members, (documentRow members).flatMap Token.text, [], .inl rfl, .refl _,
    spaced_flatMap .nil, .nil
  simp [bareText]

/-! ### The row of a document -/

theorem proper_documentRow (h : ∀ member ∈ members, IsJsonMember member) :
  ∀ token ∈ documentRow members, token.IsProper
  := by
  apply (enclosed_documentRow h).proper _ (by simp) (by simp)
  rintro member row ⟨hjson, rfl⟩ token htoken
  obtain ⟨⟨name, hname⟩, value, -, hwrites⟩ := hjson.reads
  simp only [memberRow, List.mem_cons] at htoken
  rcases htoken with rfl | rfl | htoken
  · apply hname.opens.1
  · simp [Token.IsProper]
  · apply rowsProper_writes maxNesting value _ hwrites token htoken

theorem untrailed_documentRow (h : ∀ member ∈ members, IsJsonMember member) :
  Untrailed (documentRow members)
  := by
  have huntrailed : RowsUntrailed IsMemberRow := by
    rintro member row rest ⟨hjson, rfl⟩ hrest
    obtain ⟨-, value, -, hwrites⟩ := hjson.reads
    apply untrailed_cons (by simp [Token.comma])
    apply untrailed_cons (by simp [Token.comma])
    apply rowsUntrailed_writes maxNesting value _ _ hwrites hrest
  have hopen : RowsOpen IsMemberRow := by
    rintro member row ⟨hjson, rfl⟩
    obtain ⟨⟨name, hname⟩, -⟩ := hjson.reads
    exact ⟨_, _, rfl, hname.opens⟩
  rw [← List.append_nil (documentRow members)]
  apply (enclosed_documentRow h).untrailed huntrailed hopen (by simp) (by simp)
  simp [Untrailed]

/-! ### The sections of a document -/

/-- Two lists of members that were found for the same document make up sections that agree. -/
theorem agree_of_captures {found found' : List Member}
    (h : List.Forall₂ Member.Captures found members)
    (h' : List.Forall₂ Member.Captures found' members) :
  Agree (.ofMembers found) (.ofMembers found')
  := by
  apply agree_ofMembers
  apply forall₂_of_common _ h h'
  intro member member' source hmember hmember'
  obtain ⟨value, hvalue, hraw⟩ := hmember.value
  obtain ⟨value', hvalue', hraw'⟩ := hmember'.value
  obtain rfl : value = value' := Except.ok.inj (hvalue.symm.trans hvalue')
  refine ⟨?_, ?_, value, hraw, hraw'⟩
  · rw [hmember.name, hmember'.name]
  · rw [hmember.container, hmember'.container]

theorem scan_bareText (hmembers : ∀ member ∈ members, IsJsonMember member) :
  ∃ found, scan (bareText members) = .ok (.ofMembers found) ∧
    List.Forall₂ Member.Captures found members
  := by
  have hspaced : Spaced IsSpace (documentRow members) (bareText members).toList := by
    rw [bareText, String.toList_ofList]
    apply spaced_flatMap
    simp [IsSpace]
  have hnil : IsSpace [] := by simp [IsSpace]
  obtain ⟨found, hfound, hcaptures⟩ := scanDocument_documentRow hmembers hspaced hnil
  rw [List.append_nil] at hfound
  use found
  simp [scan, hfound, hcaptures]

theorem parse_of_noisyForm (hmembers : ∀ member ∈ members, IsJsonMember member)
    (h : IsNoisyForm (documentRow members) text.toList) :
  ∃ found, parse text = .ok (.ofMembers found) ∧ List.Forall₂ Member.Captures found members
  := by
  obtain ⟨kept, space, hkept, hspace, hread⟩ :=
    read_noisyForm h (proper_documentRow hmembers) (untrailed_documentRow hmembers)
  obtain ⟨found, hfound, hcaptures⟩ := scanDocument_documentRow hmembers hkept hspace
  use found
  simp [parse, scan, hread, hfound, hcaptures]

theorem forall₂_sameValue {fragments fragments' : List String}
    (h : List.Forall₂ SameValue fragments fragments') :
  ∃ values : List Json, fragments.map Json.read = values.map .ok ∧
    fragments'.map Json.read = values.map .ok
  := by
  induction h with
  | nil =>
    use []
    simp
  | cons hsame _ ih =>
    obtain ⟨value, hvalue, hvalue'⟩ := hsame
    obtain ⟨values, hvalues, hvalues'⟩ := ih
    use value :: values
    simp [hvalue, hvalue', hvalues, hvalues']

/-- Noise changes neither the names of the sections, nor the values of their fragments, nor the
rules that a document describes. -/
theorem parse_noisyForm [PatternReader] (hmembers : ∀ member ∈ members, IsJsonMember member)
    (h : IsNoisyForm (documentRow members) text.toList) :
  ∃ sections bare, parse text = .ok sections ∧ scan (bareText members) = .ok bare ∧
    sections.names = bare.names ∧
    (∀ key, ∃ values : List Json, (sections.fragments key).map Json.read = values.map .ok ∧
      (bare.fragments key).map Json.read = values.map .ok) ∧
    RuleFile.ofDocument text = RuleFile.ofDocument (bareText members)
  := by
  obtain ⟨found, hfound, hcaptures⟩ := parse_of_noisyForm hmembers h
  obtain ⟨found', hfound', hcaptures'⟩ := scan_bareText hmembers
  obtain ⟨found'', hfound'', hcaptures''⟩ :=
    parse_of_noisyForm hmembers (isNoisyForm_bareText members)
  have hagree := agree_of_captures hcaptures hcaptures'
  refine ⟨.ofMembers found, .ofMembers found', hfound, hfound', hagree.names_eq, ?_, ?_⟩
  · intro key
    apply forall₂_sameValue (hagree.fragments key)
  · apply ofDocument_congr hfound hfound'' (agree_of_captures hcaptures hcaptures'')

theorem isJsonMember_add :
  ∀ member ∈ [("add", "[1]")], IsJsonMember member
  := by
  intro member hmember
  obtain rfl := List.mem_singleton.mp hmember
  constructor
  · use ['a', 'd', 'd']
    rfl
  · use .array [.number (.integer 1)]
    rfl

theorem isNoisyForm_add :
  IsNoisyForm (documentRow [("add", "[1]")])
    "\ufeff/* \" */\x7b\"add\"://]\n[1,],\x7d".toList
  := by
  have hrow : documentRow [("add", "[1]")] = [.mark '{', .string ['a', 'd', 'd'], .mark ':',
      .mark '[', .word ['1'], .mark ']', .mark '}'] := by
    simp [documentRow, membersRow, memberRow, tokens, isSpace, isScalarChar]
  have hcommas : WithCommas (documentRow [("add", "[1]")])
      [.mark '{', .string ['a', 'd', 'd'], .mark ':', .mark '[', .word ['1'], .comma, .mark ']',
        .comma, .mark '}'] := by
    rw [hrow]
    apply WithCommas.token <| .token <| .token <| .token <| .token <| .comma rfl <|
      .comma rfl .nil
  have hblock : IsNoise ('/' :: '*' :: ([' ', '"', ' '] ++ ['*', '/'])) :=
    .block (by decide) .nil
  have hline : IsNoise ('/' :: '/' :: ([']'] ++ ['\n'])) := .line (by decide) .nil
  exact ⟨['\ufeff'], _, _, [], .inr rfl, hcommas, .cons hblock <| .cons .nil <| .cons .nil <|
    .cons hline <| .cons .nil <| .cons .nil <| .cons .nil <| .cons .nil <| .cons .nil .nil, .nil,
    rfl⟩

open scoped PatternReader in
/-- A document with a mark, a quote and a bracket in comments, and two trailing commas. -/
theorem parse_noisyForm_add :
  (∀ member ∈ [("add", "[1]")], IsJsonMember member) ∧
    IsNoisyForm (documentRow [("add", "[1]")])
      "\ufeff/* \" */\x7b\"add\"://]\n[1,],\x7d".toList ∧
    ∃ sections bare, parse "\ufeff/* \" */\x7b\"add\"://]\n[1,],\x7d" = .ok sections ∧
      scan (bareText [("add", "[1]")]) = .ok bare ∧ sections.names = bare.names ∧
      (∀ key, ∃ values : List Json, (sections.fragments key).map Json.read = values.map .ok ∧
        (bare.fragments key).map Json.read = values.map .ok) ∧
      RuleFile.ofDocument "\ufeff/* \" */\x7b\"add\"://]\n[1,],\x7d" =
        RuleFile.ofDocument (bareText [("add", "[1]")])
  := by
  refine ⟨isJsonMember_add, isNoisyForm_add, ?_⟩
  apply parse_noisyForm isJsonMember_add isNoisyForm_add

end LumpRules.Document
