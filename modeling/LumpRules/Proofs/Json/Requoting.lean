import LumpRules.Proofs.Document.Requoting

/-!
# Values with other strings

A text whose strings are replaced by strings that JSON accepts has the same tokens but for those
strings (`exists_tokens_of_requoted`).  Rows of such tokens write values of the same shape, so a
requoted JSON text is a JSON text again (`read_requoted`).
-/

namespace LumpRules.Json

open Text Document

variable {text text' rest : List Char} {c : Char} {row row' : List Token} {token : Token}
  {value : Json}

/-! ### Tokens -/

/-- Two tokens that are the same but for what a string says. -/
inductive TokensAlike : Token → Token → Prop where
  | same (token : Token) : TokensAlike token token
  | string {body body' : List Char} :
      StringsAlike body body' → TokensAlike (.string body) (.string body')

/-- Two rows of such tokens. -/
def RowsAlike (row row' : List Token) : Prop :=
  List.Forall₂ TokensAlike row row'

/-- A text shows a row that is the same as the given one but for its strings. -/
def ShowsAlike (row : List Token) (text : List Char) : Prop :=
  ∃ row' kept space, RowsAlike row row' ∧ Spaced IsSpace row' kept ∧ IsSpace space ∧
    text = kept ++ space

theorem ShowsAlike.prepend (h : ShowsAlike row text) (hc : isSpace c = true) :
  ShowsAlike row (c :: text)
  := by
  obtain ⟨row', kept, space, hrow, hkept, hspace, rfl⟩ := h
  cases row' with
  | nil =>
    cases hkept
    have hspace' : IsSpace (c :: space) := List.forall_mem_cons.mpr ⟨hc, hspace⟩
    use [], [], c :: space, hrow, .nil, hspace'
    rfl
  | cons token row' =>
    have hsingle : IsSpace [c] := List.forall_mem_singleton.mpr hc
    use token :: row', [c] ++ kept, space, hrow, hkept.prepend hsingle, hspace
    rfl

theorem ShowsAlike.cons {token' : Token} (h : ShowsAlike row text)
    (htoken : TokensAlike token token') :
  ShowsAlike (token :: row) (token'.text ++ text)
  := by
  obtain ⟨row', kept, space, hrow, hkept, hspace, rfl⟩ := h
  use token' :: row', [] ++ (token'.text ++ kept), space, .cons htoken hrow,
    .cons (List.forall_mem_nil _) hkept, hspace
  simp

theorem of_cons (h : Requoted (c :: rest) text') (hc : c ≠ '"') :
  ∃ rest', text' = c :: rest' ∧ Requoted rest rest'
  := by
  cases h with
  | char _ h => exact ⟨_, rfl, h⟩
  | string => contradiction

/-- A requoted text shows the tokens of the text but for its strings. -/
theorem showsAlike_tokens (h : Requoted text text') :
  ShowsAlike (tokens text) text'
  := by
  fun_induction tokens text generalizing text' with
  | case1 =>
    cases h
    use [], [], [], .nil, .nil, List.forall_mem_nil _
    rfl
  | case2 c rest hspace ih =>
    have hc : c ≠ '"' := by
      rintro rfl
      contradiction
    obtain ⟨rest', rfl, hrest⟩ := of_cons h hc
    apply (ih hrest).prepend hspace
  | case3 rest _ ih =>
    cases h with
    | char hc => contradiction
    | @string body body' rest rest' hbody hrest =>
      rw [stringSpan_content hbody.content] at ih ⊢
      have htoken := (ih hrest).cons (.string hbody)
      simpa [Token.text] using htoken
  | case4 c rest _ hquote _ ih =>
    obtain ⟨rest', rfl, hrest⟩ := of_cons h hquote
    have hsplit : Requoted (rest.takeWhile isScalarChar ++ rest.dropWhile isScalarChar) rest' := by
      rw [List.takeWhile_append_dropWhile]
      apply hrest
    have hword : '"' ∉ rest.takeWhile isScalarChar := by
      intro hmem
      have hchar := List.mem_takeWhile_imp hmem
      simp [isScalarChar] at hchar
    obtain ⟨left, rfl, hleft⟩ := exists_append_of_cons of_cons hsplit hword
    apply (ih hleft).cons (.same (.word (c :: rest.takeWhile isScalarChar)))
  | case5 c rest _ hquote _ ih =>
    obtain ⟨rest', rfl, hrest⟩ := of_cons h hquote
    apply (ih hrest).cons (.same (.mark c))

/-! ### Values -/

theorem tokensAlike_mark (h : TokensAlike (.mark c) token) :
  token = .mark c
  := by
  cases h
  rfl

/-- The parts of a row are the parts of every row that is alike. -/
theorem exists_append_of_rowsAlike {first second : List Token}
    (h : RowsAlike (first ++ second) row) :
  ∃ first' second', row = first' ++ second' ∧ RowsAlike first first' ∧ RowsAlike second second'
  := by
  induction first generalizing row with
  | nil => exact ⟨[], row, rfl, .nil, h⟩
  | cons token first ih =>
    cases h with
    | cons htoken h =>
      obtain ⟨first', second', rfl, hfirst, hsecond⟩ := ih h
      exact ⟨_ :: first', second', rfl, .cons htoken hfirst, hsecond⟩

theorem exists_cons_of_rowsAlike (h : RowsAlike (.mark c :: row) row') :
  ∃ rest, row' = .mark c :: rest ∧ RowsAlike row rest
  := by
  cases h with
  | cons htoken h => exact ⟨_, by rw [tokensAlike_mark htoken], h⟩

/-- A row that is like a row of a language is a row of the language, too. -/
def CarriesRows {α : Type} (item : α → List Token → Prop) : Prop :=
  ∀ a row row', item a row → RowsAlike row row' → ∃ a', item a' row'

theorem carriesRows_leaf :
  CarriesRows WritesLeaf
  := by
  rintro value _ row' (⟨body, name, hbody, rfl, rfl⟩ | ⟨word, hword, rfl⟩) h
  · cases h with
    | cons htoken h =>
      cases h
      cases htoken with
      | same => exact ⟨_, .inl ⟨body, name, hbody, rfl, rfl⟩⟩
      | string hbody' =>
        obtain ⟨name', hname'⟩ := hbody'.literal name hbody
        exact ⟨_, .inl ⟨_, name', hname', rfl, rfl⟩⟩
  · cases h with
    | cons htoken h =>
      cases h
      cases htoken
      exact ⟨value, .inr ⟨word, hword, rfl⟩⟩

variable {α : Type} {item : α → List Token → Prop} {close first : Char}

theorem carriesRows_series (hitem : CarriesRows item) :
  CarriesRows (Series item close)
  := by
  intro items row row' hseries h
  induction hseries generalizing row' with
  | @last a row ha =>
    obtain ⟨row', end', rfl, hrow, hend⟩ := exists_append_of_rowsAlike h
    obtain ⟨rest, rfl, hrest⟩ := exists_cons_of_rowsAlike hend
    cases hrest
    obtain ⟨a', ha'⟩ := hitem a row row' ha hrow
    exact ⟨[a'], .last ha'⟩
  | @more a items row rest ha _ ih =>
    obtain ⟨row', end', rfl, hrow, hend⟩ := exists_append_of_rowsAlike h
    obtain ⟨rest', rfl, hrest⟩ := exists_cons_of_rowsAlike hend
    obtain ⟨a', ha'⟩ := hitem a row row' ha hrow
    obtain ⟨items', hitems'⟩ := ih rest' hrest
    exact ⟨a' :: items', .more ha' hitems'⟩

theorem carriesRows_enclosed (hitem : CarriesRows item) :
  CarriesRows (Enclosed first close item)
  := by
  rintro items row row' (⟨rfl, rfl⟩ | ⟨rest, hrest, rfl⟩) h
  · obtain ⟨end', rfl, hend⟩ := exists_cons_of_rowsAlike h
    obtain ⟨rest', rfl, hrest⟩ := exists_cons_of_rowsAlike hend
    cases hrest
    exact ⟨[], .inl ⟨rfl, rfl⟩⟩
  · obtain ⟨rest', rfl, hrest'⟩ := exists_cons_of_rowsAlike h
    obtain ⟨items', hitems'⟩ := carriesRows_series hitem items rest rest' hrest hrest'
    exact ⟨items', .inr ⟨rest', hitems', rfl⟩⟩

theorem carriesRows_member {writes : Json → List Token → Prop} (hwrites : CarriesRows writes) :
  CarriesRows (WritesMember writes)
  := by
  rintro member row row' ⟨body, name, rest, hbody, -, hrest, rfl⟩ h
  cases h with
  | cons htoken h =>
    obtain ⟨rest', rfl, hrest'⟩ := exists_cons_of_rowsAlike h
    obtain ⟨value', hvalue'⟩ := hwrites member.2 rest rest' hrest hrest'
    cases htoken with
    | same => exact ⟨(_, value'), body, name, rest', hbody, rfl, hvalue', rfl⟩
    | string hbody' =>
      obtain ⟨name', hname'⟩ := hbody'.literal name hbody
      exact ⟨(_, value'), _, name', rest', hname', rfl, hvalue', rfl⟩

/-- Rows that are alike write values of the same depth. -/
theorem carriesRows_writes (levels : Nat) :
  CarriesRows (Writes levels)
  := by
  induction levels with
  | zero => apply carriesRows_leaf
  | succ levels ih =>
    rintro value row row' (hleaf | ⟨items, hitems, rfl⟩ | ⟨members, hmembers, rfl⟩) h
    · obtain ⟨value', hvalue'⟩ := carriesRows_leaf value row row' hleaf h
      exact ⟨value', .inl hvalue'⟩
    · obtain ⟨items', hitems'⟩ := carriesRows_enclosed ih items row row' hitems h
      exact ⟨.array items', .inr (.inl ⟨items', hitems', rfl⟩)⟩
    · obtain ⟨members', hmembers'⟩ :=
        carriesRows_enclosed (carriesRows_member ih) members row row' hmembers h
      exact ⟨ofMembers members', .inr (.inr ⟨members', hmembers', rfl⟩)⟩

/-- A requoted JSON text is a JSON text again. -/
theorem read_requoted {text text' : String} (h : Requoted text.toList text'.toList)
    (hread : read text = .ok value) :
  ∃ value', read text' = .ok value'
  := by
  obtain ⟨row, kept, space, hrow, hkept, hspace, htext'⟩ := showsAlike_tokens h
  obtain ⟨value', hvalue'⟩ := carriesRows_writes maxNesting value _ row (read_sound hread) hrow
  use value', read_complete_append hvalue' hkept hspace htext'

end LumpRules.Json
