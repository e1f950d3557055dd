import LumpRules.Proofs.Document.Noise

/-!
# Scanning the texts of a row

A text that shows a row writing a JSON value belongs to the grammar of documents: what JSON calls
a value is one for the scanner (`isValue_of_writes`).  `documentRow` is the row of a document with
given members, and `scanDocument_documentRow` says which members the scanner finds in a text that
shows it.
-/

namespace LumpRules.Document

open Text Json

variable {α β : Type} {item : α → List Token → Prop} {form : β → List Char → Prop}
  {R : α → β → Prop} {items : List α} {row : List Token} {used : List Char} {first close : Char}

/-- The texts that show a row of the language are, after a gap, of the given form. -/
def RowsShow (item : α → List Token → Prop) (form : β → List Char → Prop) (R : α → β → Prop) :
    Prop :=
  ∀ a row used, item a row → Spaced IsSpace row used →
    ∃ gap text b, IsGap gap ∧ used = gap ++ text ∧ form b text ∧ R a b

theorem isListing_of_series (h : Series item close items row) (hitem : RowsShow item form R)
    (hused : Spaced IsSpace row used) :
  ∃ gap listing written, IsGap gap ∧ used = gap ++ listing ∧
    IsListing form close written listing ∧ List.Forall₂ R items written
  := by
  induction h generalizing used with
  | @last a row ha =>
    obtain ⟨before, after, hbefore, hafter, rfl⟩ := spaced_append_iff.mp hused
    obtain ⟨gap, text, b, hgap, rfl, hform, hb⟩ := hitem a row before ha hbefore
    obtain ⟨space, rest, hspace, hrest, rfl⟩ := spaced_cons_iff.mp hafter
    cases hrest
    use gap, text ++ space ++ [close], [b], hgap
    refine ⟨?_, .last hform hspace.isGap, .cons hb .nil⟩
    simp [Token.text]
  | @more a items row rest ha hrest ih =>
    obtain ⟨before, after, hbefore, hafter, rfl⟩ := spaced_append_iff.mp hused
    obtain ⟨gap, text, b, hgap, rfl, hform, hb⟩ := hitem a row before ha hbefore
    obtain ⟨space, tail, hspace, htail, rfl⟩ := spaced_cons_iff.mp hafter
    obtain ⟨gap', listing, written, hgap', rfl, hlisting, hall⟩ := ih htail
    use gap, text ++ space ++ ',' :: gap' ++ listing, b :: written, hgap
    refine ⟨?_, .more hform hspace.isGap hgap' hlisting, .cons hb hall⟩
    simp [Token.text, Token.comma]

theorem isEnclosed_of_enclosed (h : Enclosed first close item items row)
    (hitem : RowsShow item form R) (hused : Spaced IsSpace row used) :
  ∃ gap text written, IsGap gap ∧ used = gap ++ text ∧
    IsEnclosed first close form written text ∧ List.Forall₂ R items written
  := by
  rcases h with ⟨rfl, rfl⟩ | ⟨rest, hrest, rfl⟩
  · obtain ⟨space, rest, hspace, hrest, rfl⟩ := spaced_cons_iff.mp hused
    obtain ⟨space', rest', hspace', hrest', rfl⟩ := spaced_cons_iff.mp hrest
    cases hrest'
    use space, first :: space' ++ [close], [], hspace.isGap
    refine ⟨?_, ⟨space', [close], hspace'.isGap, .empty, rfl⟩, .nil⟩
    simp [Token.text]
  · obtain ⟨space, tail, hspace, htail, rfl⟩ := spaced_cons_iff.mp hused
    obtain ⟨gap, listing, written, hgap, rfl, hlisting, hall⟩ :=
      isListing_of_series hrest hitem htail
    use space, first :: gap ++ listing, written, hspace.isGap
    refine ⟨?_, ⟨gap, listing, hgap, hlisting, rfl⟩, hall⟩
    simp [Token.text]

/-! ### Values -/

/-- A text that shows a row without a gap before it. -/
def Tight (row : List Token) (text : List Char) : Prop :=
  ∃ token tail rest, row = token :: tail ∧ Spaced IsSpace tail rest ∧ text = token.text ++ rest

theorem Tight.spaced {text : List Char} (h : Tight row text) :
  Spaced IsSpace row text
  := by
  obtain ⟨token, tail, rest, rfl, hrest, rfl⟩ := h
  have hspaced : Spaced IsSpace (token :: tail) ([] ++ (token.text ++ rest)) :=
    .cons (by simp [IsSpace]) hrest
  apply hspaced

/-- If every text that shows a row belongs to a language after a gap, then what belongs to the
language shows the row without a gap. -/
theorem exists_tight {P : List Char → Prop}
    (hopen : ∃ token tail, row = token :: tail ∧ token.Opens)
    (h : ∀ used, Spaced IsSpace row used → ∃ gap text, IsGap gap ∧ used = gap ++ text ∧ P text)
    (hused : Spaced IsSpace row used) :
  ∃ gap text, IsGap gap ∧ used = gap ++ text ∧ P text ∧ Tight row text
  := by
  obtain ⟨token, tail, rfl, htoken⟩ := hopen
  obtain ⟨space, rest, hspace, hrest, rfl⟩ := spaced_cons_iff.mp hused
  have htight : Tight (token :: tail) (token.text ++ rest) := ⟨token, tail, rest, rfl, hrest, rfl⟩
  obtain ⟨gap, text, hgap, heq, htext⟩ := h _ htight.spaced
  -- The text starts with the token, so nothing is left for the gap.
  have hnil : gap = [] := by
    obtain ⟨c, more, hc, hblank⟩ := htoken.1.text
    cases gap with
    | nil => rfl
    | cons d gap =>
      rw [hc] at heq
      obtain ⟨rfl, -⟩ := List.cons.inj heq
      simp [hgap c (List.mem_cons_self ..)] at hblank
  subst hnil
  rw [List.nil_append] at heq
  use space, text, hspace.isGap
  rw [heq] at htight ⊢
  use rfl, htext

/-- A text that shows a member of an object is one for the scanner. -/
theorem isMember_of_spaced {body : List Char} {P Q : List Char → Prop} {value : List Token}
    (hbody : IsContent body)
    (hvalue : ∀ used, Spaced IsSpace value used →
      ∃ gap text, IsGap gap ∧ used = gap ++ text ∧ P text ∧ Q text)
    (hused : Spaced IsSpace (.string body :: .mark ':' :: value) used) :
  ∃ gap text written, IsGap gap ∧ used = gap ++ text ∧ IsMember P written text ∧
    written.name = body ∧ Q written.value
  := by
  obtain ⟨space, rest, hspace, hrest, rfl⟩ := spaced_cons_iff.mp hused
  obtain ⟨space', rest', hspace', hrest', rfl⟩ := spaced_cons_iff.mp hrest
  obtain ⟨gap, text, hgap, rfl, htext, hrow⟩ := hvalue rest' hrest'
  use space, '"' :: body ++ '"' :: space' ++ ':' :: gap ++ text, ⟨body, text⟩, hspace.isGap
  refine ⟨?_, ⟨hbody, htext, space', gap, hspace'.isGap, hgap, rfl⟩, rfl, hrow⟩
  simp [Token.text]

theorem isValue_of_leaf {levels : Nat} {value : Json} (h : WritesLeaf value row)
    (hused : Spaced IsSpace row used) :
  ∃ gap text, IsGap gap ∧ used = gap ++ text ∧ IsValue levels text
  := by
  rcases h with ⟨body, name, hbody, -, rfl⟩ | ⟨word, hword, rfl⟩
  · obtain ⟨space, rest, hspace, hrest, rfl⟩ := spaced_cons_iff.mp hused
    cases hrest
    use space, '"' :: body ++ ['"'], hspace.isGap
    constructor
    · simp [Token.text]
    · apply isValue_string
      use body, hbody.1
  · obtain ⟨space, rest, hspace, hrest, rfl⟩ := spaced_cons_iff.mp hused
    cases hrest
    use space, word, hspace.isGap
    constructor
    · simp [Token.text]
    · apply isValue_scalar hword.1

/-- A text that shows a row writing a value is, after a gap, a value for the scanner. -/
theorem isValue_of_writes {levels : Nat} {value : Json} (h : Writes levels value row)
    (hused : Spaced IsSpace row used) :
  ∃ gap text, IsGap gap ∧ used = gap ++ text ∧ IsValue levels text
  := by
  induction levels generalizing value row used with
  | zero => apply isValue_of_leaf h hused
  | succ levels ih =>
    rcases h with h | ⟨items, h, rfl⟩ | ⟨members, h, rfl⟩
    · apply isValue_of_leaf h hused
    · have hshow : RowsShow (Writes levels)
          (fun element text => IsValue levels element ∧ text = element) fun _ _ => True := by
        intro value row used hrow hused
        obtain ⟨gap, text, hgap, heq, htext⟩ := ih hrow hused
        use gap, text, text, hgap, heq, ⟨htext, rfl⟩
      obtain ⟨gap, text, written, hgap, heq, htext, -⟩ := isEnclosed_of_enclosed h hshow hused
      use gap, text, hgap, heq
      right; right; right
      exact ⟨written, htext⟩
    · have hshow : RowsShow (WritesMember (Writes levels)) (IsMember (IsValue levels))
          fun _ _ => True := by
        rintro member row used ⟨body, name, row, hbody, -, hrow, rfl⟩ hused
        have hvalue : ∀ used, Spaced IsSpace row used →
            ∃ gap text, IsGap gap ∧ used = gap ++ text ∧ IsValue levels text ∧ True := by
          intro used hused
          obtain ⟨gap, text, hgap, heq, htext⟩ := ih hrow hused
          use gap, text
        obtain ⟨gap, text, written, hgap, heq, htext, -⟩ :=
          isMember_of_spaced hbody.1 hvalue hused
        use gap, text, written
      obtain ⟨gap, text, written, hgap, heq, htext, -⟩ := isEnclosed_of_enclosed h hshow hused
      use gap, text, hgap, heq
      right; right; left
      exact ⟨written, htext⟩

/-! ### Documents -/

/-- The row of a member with what stands between the quotes of its name, and its value. -/
def memberRow (member : String × String) : List Token :=
  .string member.1.toList :: .mark ':' :: tokens member.2.toList

/-- The rows of some members, with commas between them. -/
def membersRow : List (String × String) → List Token
  | [] => []
  | [member] => memberRow member
  | member :: members => memberRow member ++ .comma :: membersRow members

/-- The row of a document with the given members. -/
def documentRow (members : List (String × String)) : List Token :=
  .mark '{' :: membersRow members ++ [.mark '}']

/-- A name that can be written between the quotes of a JSON string, and a JSON text. -/
def IsJsonMember (member : String × String) : Prop :=
  (∃ name, readString .full (member.1.toList ++ ['"']) = .ok (name, [])) ∧
    ∃ value, Json.read member.2 = .ok value

/-- The row shows the member. -/
def IsMemberRow (member : String × String) (row : List Token) : Prop :=
  IsJsonMember member ∧ row = memberRow member

theorem series_membersRow {member : String × String} {members : List (String × String)}
    (h : ∀ member' ∈ member :: members, IsJsonMember member') :
  Series IsMemberRow '}' (member :: members) (membersRow (member :: members) ++ [.mark '}'])
  := by
  induction members generalizing member with
  | nil =>
    have hmember : IsMemberRow member (memberRow member) := ⟨h member (by simp), rfl⟩
    apply Series.last hmember
  | cons next members ih =>
    rw [List.forall_mem_cons] at h
    have hmember : IsMemberRow member (memberRow member) := ⟨h.1, rfl⟩
    rw [membersRow, List.append_assoc, List.cons_append]
    · apply Series.more hmember (ih h.2)
    · simp

theorem enclosed_documentRow {members : List (String × String)}
    (h : ∀ member ∈ members, IsJsonMember member) :
  Enclosed '{' '}' IsMemberRow members (documentRow members)
  := by
  cases members with
  | nil => exact .inl ⟨rfl, rfl⟩
  | cons member members => exact .inr ⟨_, series_membersRow h, rfl⟩

/-- What the name and the value of a member are to the JSON reader. -/
theorem IsJsonMember.reads {member : String × String} (h : IsJsonMember member) :
  (∃ name, IsLiteral member.1.toList name) ∧
    ∃ value, Json.read member.2 = .ok value ∧ Writes maxNesting value (tokens member.2.toList)
  := by
  obtain ⟨⟨name, hname⟩, value, hvalue⟩ := h
  constructor
  · obtain ⟨body, hbody, htext⟩ := readString_sound hname
    obtain ⟨rfl, -⟩ := List.append_inj' htext rfl
    use name
  · use value, hvalue, read_sound hvalue

/-- A member that was written shows in a text of the grammar. -/
def Shows (member : String × String) (written : MemberText) : Prop :=
  IsJsonMember member ∧ written.name = member.1.toList ∧
    Tight (tokens member.2.toList) written.value

theorem rowsShow_member :
  RowsShow IsMemberRow (IsMember (IsValue 127)) Shows
  := by
  rintro member row used ⟨hjson, rfl⟩ hused
  obtain ⟨⟨name, hname⟩, value, -, hwrites⟩ := hjson.reads
  have hvalue : ∀ used, Spaced IsSpace (tokens member.2.toList) used →
      ∃ gap text, IsGap gap ∧ used = gap ++ text ∧ IsValue 127 text := by
    intro used hused
    apply isValue_of_writes hwrites hused
  have hopen := rowsOpen_writes maxNesting value _ hwrites
  obtain ⟨gap, text, written, hgap, heq, htext, hname, hvalue⟩ :=
    isMember_of_spaced hname.1 (fun used => exists_tight hopen hvalue) hused
  exact ⟨gap, text, written, hgap, heq, htext, hjson, hname, hvalue⟩

/-- Whether a token opens an object or an array. -/
def opensContainer : Token → Bool
  | .mark c => c == '{' || c == '['
  | _ => false

theorem isContainer_eq {member : Member} {token : Token} {rest : List Char}
    (h : member.start = token.text ++ rest) (htoken : token.IsProper) :
  member.isContainer = opensContainer token
  := by
  rw [isContainer_eq_any, h]
  cases token with
  | mark c => rfl
  | string body => rfl
  | word word =>
    obtain ⟨hne, hall⟩ := htoken
    cases word with
    | nil => apply (hne rfl).elim
    | cons c word =>
      have hscalar : isScalarChar c = true := hall c (List.mem_cons_self ..)
      have hc : c ≠ '{' ∧ c ≠ '[' := by
        constructor
        · rintro rfl
          contradiction
        · rintro rfl
          contradiction
      simp [Token.text, opensContainer, hc]

/-- A member that the scanner finds for one that was written. -/
structure Member.Captures (member : Member) (source : String × String) : Prop where
  name : member.name = String.ofList (decoded source.1.toList)
  value : ∃ value, Json.read source.2 = .ok value ∧ Json.read member.raw = .ok value
  container : member.isContainer = (tokens source.2.toList).head?.any opensContainer

theorem Member.Reads.captures {member : Member} {written : MemberText} {source : String × String}
    (h : member.Reads written) (hshows : Shows source written) :
  member.Captures source
  := by
  have hraw := h.raw_eq
  obtain ⟨hname, hstart⟩ := h
  obtain ⟨hjson, hname', htight⟩ := hshows
  obtain ⟨-, value, hvalue, hwrites⟩ := hjson.reads
  refine ⟨?_, ⟨value, hvalue, ?_⟩, ?_⟩
  · rw [hname, hname']
  · rw [hraw]
    apply read_complete hwrites
    rw [String.toList_ofList]
    apply htight.spaced
  · have hproper := rowsProper_writes maxNesting value _ hwrites
    obtain ⟨token, tail, rest, htokens, -, htext⟩ := htight
    rw [htokens] at hproper ⊢
    rw [htext, List.append_assoc] at hstart
    apply isContainer_eq hstart (hproper token (List.mem_cons_self ..))

/-- Two lists that are related to a third one are related to each other. -/
theorem forall₂_of_common {γ : Type} {R : α → γ → Prop} {S : β → γ → Prop} {T : α → β → Prop}
    {as : List α} {bs : List β} {cs : List γ} (h : ∀ a b c, R a c → S b c → T a b)
    (hR : List.Forall₂ R as cs) (hS : List.Forall₂ S bs cs) :
  List.Forall₂ T as bs
  := by
  induction hR generalizing bs with
  | nil =>
    cases hS
    apply List.Forall₂.nil
  | cons ha _ ih =>
    cases hS with
    | cons hb hbs => apply List.Forall₂.cons (h _ _ _ ha hb) (ih hbs)

/-- The members that the scanner finds in a text that shows a document. -/
theorem scanDocument_documentRow {members : List (String × String)} {space : List Char}
    (hmembers : ∀ member ∈ members, IsJsonMember member)
    (hused : Spaced IsSpace (documentRow members) used) (hspace : IsSpace space) :
  ∃ found, scanDocument (used ++ space) = .ok found ∧
    List.Forall₂ Member.Captures found members
  := by
  obtain ⟨gap, object, written, hgap, rfl, hobject, hshows⟩ :=
    isEnclosed_of_enclosed (enclosed_documentRow hmembers) rowsShow_member hused
  obtain ⟨found, hfound, hreads⟩ := scanDocument_complete hgap hobject hspace.isGap
  use found, hfound
  apply forall₂_of_common _ hreads hshows
  intro member source written hread hshow
  apply hread.captures hshow

end LumpRules.Document
