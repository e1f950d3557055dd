import LumpRules.Proofs.Json.Token

/-!
# The notation of JSON values

Which rows of tokens write which values.  `Writes` follows the nesting of a value and leaves the
two kinds of leaves to the reader: a string token writes what `readString` makes of it, and a word
what `readValue` makes of it wherever it stands (`IsLiteral`, `IsName`).
-/

namespace LumpRules.Json

open Text Document

/-- Items separated by commas, at least one, up to the bracket that closes them. -/
inductive Series {α : Type} (item : α → List Token → Prop) (close : Char) :
    List α → List Token → Prop where
  | last {a : α} {row : List Token} :
      item a row → Series item close [a] (row ++ [.mark close])
  | more {a : α} {items : List α} {row rest : List Token} :
      item a row → Series item close items rest →
      Series item close (a :: items) (row ++ .comma :: rest)

/-- Items between brackets. -/
def Enclosed {α : Type} (first close : Char) (item : α → List Token → Prop) (items : List α)
    (row : List Token) : Prop :=
  (items = [] ∧ row = [.mark first, .mark close]) ∨
    ∃ rest, Series item close items rest ∧ row = .mark first :: rest

/-- What stands between the quotes of a string is read as the given text. -/
def IsLiteral (body name : List Char) : Prop :=
  IsContent body ∧ '\n' ∉ body ∧
    ∀ rest, readString .full (body ++ '"' :: rest) = .ok (name, rest)

/-- A word is read as the given value, if nothing prolongs it. -/
def IsName (word : List Char) (value : Json) : Prop :=
  IsScalar word ∧ ∀ rounds levels rest, Stops rest →
    readValue .full rounds levels (word ++ rest) = .ok (value, rest)

/-- A row that writes a value other than an array or an object. -/
def WritesLeaf (value : Json) (row : List Token) : Prop :=
  (∃ body name, IsLiteral body name ∧ value = .string (String.ofList name) ∧
    row = [.string body]) ∨
  ∃ word, IsName word value ∧ row = [.word word]

/-- A row that writes a member of an object. -/
def WritesMember (writes : Json → List Token → Prop) (member : String × Json)
    (row : List Token) : Prop :=
  ∃ body name rest, IsLiteral body name ∧ member.1 = String.ofList name ∧
    writes member.2 rest ∧ row = .string body :: .mark ':' :: rest

/-- A row that writes a value whose objects and arrays nest at most `levels` deep. -/
def Writes : (levels : Nat) → Json → List Token → Prop
  | 0, value, row => WritesLeaf value row
  | levels + 1, value, row =>
    WritesLeaf value row ∨
    (∃ items, Enclosed '[' ']' (Writes levels) items row ∧ value = .array items) ∨
    ∃ members, Enclosed '{' '}' (WritesMember (Writes levels)) members row ∧
      value = ofMembers members

variable {levels : Nat} {value : Json} {row : List Token}

theorem writes_leaf (h : WritesLeaf value row) :
  Writes levels value row
  := by
  cases levels with
  | zero => apply h
  | succ levels => apply Or.inl h

/-- Whether a token may start an item of an object or an array. -/
def Token.Opens (token : Token) : Prop :=
  token.IsProper ∧ token ∉ [.mark '}', .mark ']', .mark ':', .comma]

/-- An item of an object or an array starts with a token that may start one. -/
def RowsOpen {α : Type} (item : α → List Token → Prop) : Prop :=
  ∀ a row, item a row → ∃ token rest, row = token :: rest ∧ token.Opens

theorem IsLiteral.opens {body name : List Char} (h : IsLiteral body name) :
  (Token.string body).Opens
  := by
  obtain ⟨hcontent, hline, -⟩ := h
  constructor
  · apply And.intro hcontent hline
  · simp [Token.comma]

theorem rowsOpen_leaf :
  RowsOpen WritesLeaf
  := by
  rintro value row (⟨body, name, hbody, -, rfl⟩ | ⟨word, hword, rfl⟩)
  · use .string body, [], rfl
    apply hbody.opens
  · use .word word, [], rfl
    constructor
    · apply hword.1
    · simp [Token.comma]

theorem Series.opens {α : Type} {item : α → List Token → Prop} {close : Char} {items : List α}
    (h : Series item close items row) (hitem : RowsOpen item) :
  ∃ token rest, row = token :: rest ∧ token.Opens
  := by
  cases h with
  | last ha =>
    obtain ⟨token, rest, rfl, htoken⟩ := hitem _ _ ha
    exact ⟨token, _, rfl, htoken⟩
  | more ha _ =>
    obtain ⟨token, rest, rfl, htoken⟩ := hitem _ _ ha
    exact ⟨token, _, rfl, htoken⟩

theorem Enclosed.opens {α : Type} {first close : Char} {item : α → List Token → Prop}
    {items : List α} (h : Enclosed first close item items row) (hfirst : first ∈ ['{', '[']) :
  ∃ token rest, row = token :: rest ∧ token.Opens
  := by
  have hopens : (Token.mark first).Opens := by
    simp only [List.mem_cons, List.not_mem_nil, or_false] at hfirst
    rcases hfirst with rfl | rfl <;> simp [Token.Opens, Token.IsProper, Token.comma]
  rcases h with ⟨-, rfl⟩ | ⟨rest, -, rfl⟩
  · exact ⟨_, _, rfl, hopens⟩
  · exact ⟨_, _, rfl, hopens⟩

theorem rowsOpen_writes (levels : Nat) :
  RowsOpen (Writes levels)
  := by
  intro value row h
  cases levels with
  | zero => apply rowsOpen_leaf value row h
  | succ levels =>
    rcases h with h | ⟨items, h, -⟩ | ⟨members, h, -⟩
    · apply rowsOpen_leaf value row h
    · apply h.opens (by simp)
    · apply h.opens (by simp)

theorem rowsOpen_member {writes : Json → List Token → Prop} :
  RowsOpen (WritesMember writes)
  := by
  rintro member row ⟨body, name, rest, hbody, -, -, rfl⟩
  use .string body, .mark ':' :: rest, rfl
  apply hbody.opens

/-- The text of a token starts with a character that is no white space. -/
theorem Token.IsProper.text {token : Token} (h : token.IsProper) :
  ∃ c rest, token.text = c :: rest ∧ isBlank c = false
  := by
  cases token with
  | mark c =>
    use c, [], rfl
    simp only [Token.IsProper, List.mem_cons, List.not_mem_nil, or_false] at h
    rcases h with rfl | rfl | rfl | rfl | rfl | rfl <;> decide
  | string body => exact ⟨'"', body ++ ['"'], rfl, by decide⟩
  | word word =>
    obtain ⟨hne, hall⟩ := h
    cases word with
    | nil => apply (hne rfl).elim
    | cons c rest => use c, rest, rfl, isBlank_of_isScalarChar (hall c (List.mem_cons_self ..))

/-- The text of a token that may start an item starts with no bracket that closes anything. -/
theorem Token.Opens.ne_closer {token : Token} {c : Char} {rest : List Char} (h : token.Opens)
    (htext : token.text = c :: rest) :
  Document.isCloser c = false
  := by
  obtain ⟨hproper, hother⟩ := h
  by_contra hcloser
  simp only [Document.isCloser, Bool.not_eq_false, Bool.or_eq_true, beq_iff_eq] at hcloser
  cases token with
  | mark d =>
    obtain ⟨rfl, -⟩ := List.cons.inj htext
    rcases hcloser with rfl | rfl <;> simp at hother
  | string body =>
    obtain ⟨rfl, -⟩ := List.cons.inj htext
    simp at hcloser
  | word word =>
    have hc : isScalarChar c = true := by
      apply hproper.2 c
      rw [show word = c :: rest from htext]
      apply List.mem_cons_self
    rcases hcloser with rfl | rfl <;> simp [isScalarChar] at hc

/-- Whether a token closes something is seen at the first character of its text. -/
theorem Token.IsProper.isCloser_eq {token : Token} {c : Char} {rest : List Char}
    (h : token.IsProper) (htext : token.text = c :: rest) :
  token.isCloser = Document.isCloser c
  := by
  cases token with
  | mark d =>
    obtain ⟨rfl, -⟩ := List.cons.inj htext
    rfl
  | string body =>
    obtain ⟨rfl, -⟩ := List.cons.inj htext
    rfl
  | word word =>
    have hopens : (Token.word word).Opens := ⟨h, by simp [Token.comma]⟩
    rw [hopens.ne_closer htext]
    rfl

/-- The rows of a language have proper tokens only. -/
def RowsProper {α : Type} (item : α → List Token → Prop) : Prop :=
  ∀ a row, item a row → ∀ token ∈ row, token.IsProper

theorem Series.proper {α : Type} {item : α → List Token → Prop} {close : Char} {items : List α}
    (h : Series item close items row) (hitem : RowsProper item) (hclose : close ∈ ['}', ']']) :
  ∀ token ∈ row, token.IsProper
  := by
  have hmark : (Token.mark close).IsProper := by
    simp only [List.mem_cons, List.not_mem_nil, or_false] at hclose
    rcases hclose with rfl | rfl <;> simp [Token.IsProper]
  induction h with
  | last ha =>
    intro token htoken
    rw [List.mem_append, List.mem_singleton] at htoken
    rcases htoken with htoken | rfl
    · apply hitem _ _ ha token htoken
    · apply hmark
  | more ha _ ih =>
    intro token htoken
    rw [List.mem_append, List.mem_cons] at htoken
    rcases htoken with htoken | rfl | htoken
    · apply hitem _ _ ha token htoken
    · simp [Token.comma, Token.IsProper]
    · apply ih token htoken

theorem Enclosed.proper {α : Type} {item : α → List Token → Prop} {first close : Char}
    {items : List α} (h : Enclosed first close item items row) (hitem : RowsProper item)
    (hfirst : first ∈ ['{', '[']) (hclose : close ∈ ['}', ']']) :
  ∀ token ∈ row, token.IsProper
  := by
  have hmarks : (Token.mark first).IsProper ∧ (Token.mark close).IsProper := by
    simp only [List.mem_cons, List.not_mem_nil, or_false] at hfirst hclose
    rcases hfirst with rfl | rfl <;> rcases hclose with rfl | rfl <;> simp [Token.IsProper]
  obtain ⟨hfirst, hlast⟩ := hmarks
  rcases h with ⟨-, rfl⟩ | ⟨rest, hrest, rfl⟩
  · simp [hfirst, hlast]
  · intro token htoken
    rcases List.mem_cons.mp htoken with rfl | htoken
    · apply hfirst
    · apply hrest.proper hitem hclose token htoken

theorem rowsProper_leaf :
  RowsProper WritesLeaf
  := by
  rintro value row (⟨body, name, hbody, -, rfl⟩ | ⟨word, hword, rfl⟩) token htoken
  · obtain rfl := List.mem_singleton.mp htoken
    apply hbody.opens.1
  · obtain rfl := List.mem_singleton.mp htoken
    apply hword.1

theorem RowsProper.member {writes : Json → List Token → Prop} (h : RowsProper writes) :
  RowsProper (WritesMember writes)
  := by
  rintro member row ⟨body, name, rest, hbody, -, hrest, rfl⟩ token htoken
  simp only [List.mem_cons] at htoken
  rcases htoken with rfl | rfl | htoken
  · apply hbody.opens.1
  · simp [Token.IsProper]
  · apply h _ _ hrest token htoken

theorem rowsProper_writes (levels : Nat) :
  RowsProper (Writes levels)
  := by
  induction levels with
  | zero => apply rowsProper_leaf
  | succ levels ih =>
    rintro value row (h | ⟨items, h, -⟩ | ⟨members, h, -⟩)
    · apply rowsProper_leaf value row h
    · apply h.proper ih (by simp) (by simp)
    · apply h.proper ih.member (by simp) (by simp)

/-! ### Trailing commas -/

/-- No comma stands before a closing bracket. -/
def Untrailed : List Token → Prop
  | [] => True
  | token :: row => ¬ (token = .comma ∧ row.head?.any Token.isCloser) ∧ Untrailed row

/-- A row of the language before a row without trailing commas makes no trailing comma. -/
def RowsUntrailed {α : Type} (item : α → List Token → Prop) : Prop :=
  ∀ a row rest, item a row → Untrailed rest → Untrailed (row ++ rest)

variable {α : Type} {token : Token} {item : α → List Token → Prop} {first close : Char}
  {items : List α} {rest : List Token}

theorem untrailed_cons (hcomma : token ≠ .comma) (h : Untrailed row) :
  Untrailed (token :: row)
  := by
  constructor
  · rintro ⟨hcomma', -⟩
    apply hcomma hcomma'
  · apply h

/-- What starts an item closes nothing. -/
theorem not_isCloser_of_opens (h : token.Opens) :
  token.isCloser = false
  := by
  obtain ⟨c, more, htext, -⟩ := h.1.text
  rw [h.1.isCloser_eq htext, h.ne_closer htext]

theorem Series.untrailed (h : Series item close items row) (hitem : RowsUntrailed item)
    (hopen : RowsOpen item) (hclose : close ≠ ',') (hrest : Untrailed rest) :
  Untrailed (row ++ rest)
  := by
  have hmark : Token.mark close ≠ .comma := by
    simp [Token.comma, hclose]
  induction h with
  | last ha =>
    rw [List.append_assoc]
    apply hitem _ _ _ ha
    apply untrailed_cons hmark hrest
  | @more a items row tail ha htail ih =>
    rw [List.append_assoc]
    apply hitem _ _ _ ha
    constructor
    · obtain ⟨token, more, rfl, htoken⟩ := htail.opens hopen
      rintro ⟨-, hcloser⟩
      simp [not_isCloser_of_opens htoken] at hcloser
    · apply ih

theorem Enclosed.untrailed (h : Enclosed first close item items row)
    (hitem : RowsUntrailed item) (hopen : RowsOpen item) (hfirst : first ≠ ',')
    (hclose : close ≠ ',') (hrest : Untrailed rest) :
  Untrailed (row ++ rest)
  := by
  have hmarks : Token.mark first ≠ .comma ∧ Token.mark close ≠ .comma := by
    simp [Token.comma, hfirst, hclose]
  rcases h with ⟨-, rfl⟩ | ⟨tail, htail, rfl⟩
  · apply untrailed_cons hmarks.1
    apply untrailed_cons hmarks.2 hrest
  · apply untrailed_cons hmarks.1
    apply htail.untrailed hitem hopen hclose hrest

theorem RowsUntrailed.member {writes : Json → List Token → Prop} (h : RowsUntrailed writes) :
  RowsUntrailed (WritesMember writes)
  := by
  rintro member row rest ⟨body, name, tail, -, -, htail, rfl⟩ hrest
  apply untrailed_cons (by simp [Token.comma])
  apply untrailed_cons (by simp [Token.comma])
  apply h _ _ _ htail hrest

theorem rowsUntrailed_leaf :
  RowsUntrailed WritesLeaf
  := by
  rintro value row rest (⟨body, name, -, -, rfl⟩ | ⟨word, -, rfl⟩) hrest
  · apply untrailed_cons (by simp [Token.comma]) hrest
  · apply untrailed_cons (by simp [Token.comma]) hrest

theorem rowsUntrailed_writes (levels : Nat) :
  RowsUntrailed (Writes levels)
  := by
  induction levels with
  | zero => apply rowsUntrailed_leaf
  | succ levels ih =>
    rintro value row rest (h | ⟨items, h, -⟩ | ⟨members, h, -⟩) hrest
    · apply rowsUntrailed_leaf _ _ _ h hrest
    · apply h.untrailed ih (rowsOpen_writes levels) (by simp) (by simp) hrest
    · apply h.untrailed ih.member rowsOpen_member (by simp) (by simp) hrest

end LumpRules.Json
