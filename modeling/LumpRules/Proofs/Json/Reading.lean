import LumpRules.Proofs.Json.Leaves

/-!
# Reading and the notation

`readValue_sound` shows that the tokens of a text that is read as a value are a row that writes
it, and `readValue_complete` that every text that shows such a row, with space between the
tokens, is read as that value.
-/

namespace LumpRules.Json

open Decimal Text Document

variable {α : Type} {text rest used : List Char} {c : Char} {row : List Token} {value : Json}
  {rounds levels limit : Nat}

/-! ### The value of a text -/

/-- A reader that takes texts off the front whose tokens are in a language of rows. -/
def Reader.Sound (reader : Reader α) (item : α → List Token → Prop) : Prop :=
  ∀ text a rest, reader text = .ok (a, rest) →
    ∃ row, item a row ∧ (Stops rest → tokens text = row ++ tokens rest)

/-- A word that is read letter by letter after its first. -/
theorem isName_of_readWord {word : List Char} (hscalar : ∀ d ∈ c :: word, isScalarChar d = true)
    (hread : ∀ rounds levels rest,
      readValue .full rounds levels (c :: rest) = readWord value word rest) :
  IsName (c :: word) value
  := by
  refine ⟨⟨by simp, hscalar⟩, ?_⟩
  intro rounds levels rest _
  rw [List.cons_append, hread, readWord_append]

theorem isName_null :
  IsName ['n', 'u', 'l', 'l'] .null
  := by
  apply isName_of_readWord (by simp [isScalarChar])
  intro rounds levels rest
  rw [readValue.eq_def, skipSpace_cons (by decide)]
  rfl

theorem isName_true :
  IsName ['t', 'r', 'u', 'e'] (.bool true)
  := by
  apply isName_of_readWord (by simp [isScalarChar])
  intro rounds levels rest
  rw [readValue.eq_def, skipSpace_cons (by decide)]
  rfl

theorem isName_false :
  IsName ['f', 'a', 'l', 's', 'e'] (.bool false)
  := by
  apply isName_of_readWord (by simp [isScalarChar])
  intro rounds levels rest
  rw [readValue.eq_def, skipSpace_cons (by decide)]
  rfl

theorem isName_negative {number : JsonNumber} {word : List Char}
    (h : IsPart (readNumber .full true) (fun _ => false) isScalarChar word number) :
  IsName ('-' :: word) (.number number)
  := by
  refine ⟨⟨by simp, ?_⟩, ?_⟩
  · intro c hc
    rcases List.mem_cons.mp hc with rfl | hc
    · decide
    · apply h.scalar c hc
  · intro rounds levels rest hrest
    rw [List.cons_append, readValue.eq_def, skipSpace_cons (by decide)]
    simp only
    rw [h.reads rest hrest]
    rfl

theorem isName_number {number : JsonNumber} {word : List Char}
    (h : IsPart (readNumber .full false) (fun _ => false) isScalarChar (c :: word) number)
    (hc : c.isDigit = true) :
  IsName (c :: word) (.number number)
  := by
  refine ⟨⟨by simp, h.scalar⟩, ?_⟩
  intro rounds levels rest hrest
  have hspace : isSpace c = false := by
    by_contra hspace
    rw [Bool.not_eq_false] at hspace
    have hscalar := isScalarChar_of_isBlank (isBlank_of_isSpace hspace)
    rw [isScalarChar_of_isDigit hc] at hscalar
    contradiction
  have hread := h.reads rest hrest
  rw [List.cons_append] at hread ⊢
  have hother : ∀ {d tail}, d.isDigit = false → c :: (word ++ rest) ≠ d :: tail := by
    intro d tail hd heq
    obtain ⟨rfl, -⟩ := List.cons.inj heq
    simp [hd] at hc
  rw [readValue.eq_def, skipSpace_cons hspace]
  split
  case h_1 heq => simp at heq
  case h_9 d tail _ _ _ _ _ _ _ heq =>
    obtain ⟨rfl, rfl⟩ := List.cons.inj heq
    rw [if_pos hc, hread]
    rfl
  all_goals next heq => apply (hother (by decide) heq).elim

/-- A name that is found after space is a leaf. -/
theorem exists_leaf_of_isName {word : List Char} (hword : IsName word value)
    (hskip : skipSpace text = word ++ rest) :
  ∃ row, WritesLeaf value row ∧ (Stops rest → tokens text = row ++ tokens rest)
  := by
  use [.word word], .inr ⟨word, hword, rfl⟩
  intro hstop
  rw [← tokens_skipSpace, hskip, tokens_word hword.1 hstop]
  rfl

theorem readValue_leaf (h : readValue .full rounds levels text = .ok (value, rest))
    (hobject : ∀ tail, skipSpace text ≠ '{' :: tail)
    (harray : ∀ tail, skipSpace text ≠ '[' :: tail) :
  ∃ row, WritesLeaf value row ∧ (Stops rest → tokens text = row ++ tokens rest)
  := by
  rw [readValue.eq_def] at h
  split at h
  · simp at h
  · next tail hskip =>
    obtain ⟨rfl, htail⟩ := readWord_sound h
    apply exists_leaf_of_isName isName_null (by rw [hskip, htail]; rfl)
  · next tail hskip =>
    obtain ⟨rfl, htail⟩ := readWord_sound h
    apply exists_leaf_of_isName isName_true (by rw [hskip, htail]; rfl)
  · next tail hskip =>
    obtain ⟨rfl, htail⟩ := readWord_sound h
    apply exists_leaf_of_isName isName_false (by rw [hskip, htail]; rfl)
  · next tail hskip =>
    obtain ⟨⟨number, left⟩, hnumber, h⟩ := bind_eq_ok.mp h
    obtain ⟨rfl, rfl⟩ := Prod.mk.inj (Except.ok.inj h)
    obtain ⟨word, hword, -, htail⟩ := readNumber_sound hnumber
    apply exists_leaf_of_isName (isName_negative hword) (by rw [hskip, htail]; rfl)
  · next tail hskip =>
    obtain ⟨⟨name, left⟩, hstring, h⟩ := bind_eq_ok.mp h
    obtain ⟨rfl, rfl⟩ := Prod.mk.inj (Except.ok.inj h)
    obtain ⟨body, hbody, htail⟩ := readString_sound hstring
    use [.string body], .inl ⟨body, name, hbody, rfl, rfl⟩
    intro _
    rw [← tokens_skipSpace, hskip, htail, tokens_string hbody.1]
    rfl
  · next tail hskip => apply (harray tail hskip).elim
  · next tail hskip => apply (hobject tail hskip).elim
  · next d tail _ _ _ _ _ _ _ hskip =>
    by_cases hd : d.isDigit = true
    · rw [if_pos hd] at h
      obtain ⟨⟨number, left⟩, hnumber, h⟩ := bind_eq_ok.mp h
      obtain ⟨rfl, rfl⟩ := Prod.mk.inj (Except.ok.inj h)
      obtain ⟨word, hword, hne, htail⟩ := readNumber_sound hnumber
      cases word with
      | nil => apply (hne rfl).elim
      | cons e word =>
        obtain ⟨rfl, -⟩ := List.cons.inj htail
        apply exists_leaf_of_isName (isName_number hword hd) (by rw [hskip, htail])
    · simp [hd] at h

/-- A mark that is found after space. -/
theorem tokens_of_skipSpace (h : skipSpace text = c :: rest)
    (hc : c ∈ ['{', '}', '[', ']', ':', ',']) :
  Stops text ∧ tokens text = .mark c :: tokens rest
  := by
  constructor
  · obtain ⟨space, hspace, htext⟩ := exists_space text
    rw [htext, h]
    apply stops_append hspace.isGap
    apply stops_cons
    simp only [List.mem_cons, List.not_mem_nil, or_false] at hc
    rcases hc with rfl | rfl | rfl | rfl | rfl | rfl <;> decide
  · rw [← tokens_skipSpace, h, tokens_mark hc]

theorem readElements_sound {reader : Reader α} {item : α → List Token → Prop} {items : List α}
    (hreader : reader.Sound item) (h : readElements reader rounds text = .ok (items, rest)) :
  ∃ row, Series item ']' items row ∧ tokens text = row ++ tokens rest
  := by
  induction rounds generalizing text items with
  | zero => simp [readElements] at h
  | succ rounds ih =>
    obtain ⟨⟨a, after⟩, ha, h⟩ := bind_eq_ok.mp h
    obtain ⟨row, hrow, htokens⟩ := hreader _ _ _ ha
    simp only at h
    split at h
    · simp at h
    · next left hskip =>
      obtain ⟨rfl, rfl⟩ := Prod.mk.inj (Except.ok.inj h)
      obtain ⟨hstop, hafter⟩ := tokens_of_skipSpace hskip (by simp)
      use row ++ [.mark ']'], .last hrow
      rw [htokens hstop, hafter]
      simp
    · next left hskip =>
      obtain ⟨hstop, hafter⟩ := tokens_of_skipSpace hskip (by simp)
      split at h
      · simp at h
      · simp at h
      · next next' _ _ hnext =>
        obtain ⟨⟨items', rest'⟩, hitems, h⟩ := bind_eq_ok.mp h
        obtain ⟨rfl, rfl⟩ := Prod.mk.inj (Except.ok.inj h)
        obtain ⟨rest', hrest, heq⟩ := ih hitems
        rw [tokens_skipSpace] at heq
        use row ++ .comma :: rest', .more hrow hrest
        rw [htokens hstop, hafter, heq]
        simp [Token.comma]
    · simp at h

/-- The members of an object, together with the quote before the first name. -/
theorem readMembers_sound {reader : Reader Json} {writes : Json → List Token → Prop}
    {members : List (String × Json)} (hreader : reader.Sound writes)
    (h : readMembers .full (fun _ => reader) rounds text = .ok (members, rest)) :
  ∃ row, Series (WritesMember writes) '}' members row ∧
    tokens ('"' :: text) = row ++ tokens rest
  := by
  induction rounds generalizing text members with
  | zero => simp [readMembers] at h
  | succ rounds ih =>
    obtain ⟨⟨name, afterName⟩, hname, h⟩ := bind_eq_ok.mp h
    obtain ⟨body, hbody, htext⟩ := readString_sound hname
    rw [htext, tokens_string hbody.1]
    simp only at h
    split at h
    · simp at h
    · next afterColon hcolon =>
      obtain ⟨-, hafterName⟩ := tokens_of_skipSpace hcolon (by simp)
      obtain ⟨⟨a, after⟩, ha, h⟩ := bind_eq_ok.mp h
      obtain ⟨row, hrow, htokens⟩ := hreader _ _ _ ha
      have hmember : WritesMember writes (String.ofList name, a)
          (.string body :: .mark ':' :: row) :=
        ⟨body, name, row, hbody, rfl, hrow, rfl⟩
      simp only at h
      split at h
      · simp at h
      · next left hskip =>
        obtain ⟨rfl, rfl⟩ := Prod.mk.inj (Except.ok.inj h)
        obtain ⟨hstop, hafter⟩ := tokens_of_skipSpace hskip (by simp)
        use .string body :: .mark ':' :: row ++ [.mark '}'], .last hmember
        rw [hafterName, htokens hstop, hafter]
        simp
      · next left hskip =>
        obtain ⟨hstop, hafter⟩ := tokens_of_skipSpace hskip (by simp)
        split at h
        · simp at h
        · next next' hnext =>
          obtain ⟨⟨members', rest'⟩, hmembers, h⟩ := bind_eq_ok.mp h
          obtain ⟨rfl, rfl⟩ := Prod.mk.inj (Except.ok.inj h)
          obtain ⟨row', hrow', heq⟩ := ih hmembers
          rw [← hnext, tokens_skipSpace] at heq
          use .string body :: .mark ':' :: row ++ .comma :: row', .more hmember hrow'
          rw [hafterName, htokens hstop, hafter, heq]
          simp [Token.comma]
        · simp at h
        · simp at h
      · simp at h
    · simp at h

theorem readArray_sound {reader : Reader α} {item : α → List Token → Prop} {items : List α}
    (hreader : reader.Sound item) (h : readArray reader rounds text = .ok (items, rest)) :
  ∃ row, Enclosed '[' ']' item items row ∧ tokens ('[' :: text) = row ++ tokens rest
  := by
  rw [tokens_mark (by simp)]
  rw [readArray] at h
  split at h
  · simp at h
  · next left hskip =>
    obtain ⟨rfl, rfl⟩ := Prod.mk.inj (Except.ok.inj h)
    obtain ⟨-, htext⟩ := tokens_of_skipSpace hskip (by simp)
    use [.mark '[', .mark ']'], .inl ⟨rfl, rfl⟩
    rw [htext]
    rfl
  · obtain ⟨row, hrow, htokens⟩ := readElements_sound hreader h
    rw [tokens_skipSpace] at htokens
    use .mark '[' :: row, .inr ⟨row, hrow, rfl⟩
    rw [htokens]
    rfl

theorem readObject_sound {reader : Reader Json} {writes : Json → List Token → Prop}
    {members : List (String × Json)} (hreader : reader.Sound writes)
    (h : readObject .full (fun _ => reader) rounds text = .ok (members, rest)) :
  ∃ row, Enclosed '{' '}' (WritesMember writes) members row ∧
    tokens ('{' :: text) = row ++ tokens rest
  := by
  rw [tokens_mark (by simp)]
  rw [readObject] at h
  split at h
  · simp at h
  · next left hskip =>
    obtain ⟨rfl, rfl⟩ := Prod.mk.inj (Except.ok.inj h)
    obtain ⟨-, htext⟩ := tokens_of_skipSpace hskip (by simp)
    use [.mark '{', .mark '}'], .inl ⟨rfl, rfl⟩
    rw [htext]
    rfl
  · next next' hskip =>
    obtain ⟨row, hrow, htokens⟩ := readMembers_sound hreader h
    rw [← hskip, tokens_skipSpace] at htokens
    use .mark '{' :: row, .inr ⟨row, hrow, rfl⟩
    rw [htokens]
    rfl
  · simp at h

/-- The tokens of a text that is read as a value write that value. -/
theorem readValue_sound (rounds levels : Nat) :
  Reader.Sound (readValue .full rounds levels) (Writes levels)
  := by
  induction levels with
  | zero =>
    intro text value rest h
    apply readValue_leaf h
    · intro tail htail
      simp [readValue, htail] at h
    · intro tail htail
      simp [readValue, htail] at h
  | succ levels ih =>
    intro text value rest h
    by_cases hobject : ∃ tail, skipSpace text = '{' :: tail
    · obtain ⟨tail, htail⟩ := hobject
      rw [readValue, htail] at h
      obtain ⟨⟨members, left⟩, hmembers, h⟩ := bind_eq_ok.mp h
      obtain ⟨rfl, rfl⟩ := Prod.mk.inj (Except.ok.inj h)
      obtain ⟨row, hrow, htokens⟩ := readObject_sound ih hmembers
      use row, .inr (.inr ⟨members, hrow, rfl⟩)
      intro _
      rw [← tokens_skipSpace, htail, htokens]
    by_cases harray : ∃ tail, skipSpace text = '[' :: tail
    · obtain ⟨tail, htail⟩ := harray
      rw [readValue, htail] at h
      obtain ⟨⟨items, left⟩, hitems, h⟩ := bind_eq_ok.mp h
      obtain ⟨rfl, rfl⟩ := Prod.mk.inj (Except.ok.inj h)
      obtain ⟨row, hrow, htokens⟩ := readArray_sound ih hitems
      use row, .inr (.inl ⟨items, hrow, rfl⟩)
      intro _
      rw [← tokens_skipSpace, htail, htokens]
    obtain ⟨row, hrow, htokens⟩ := readValue_leaf h (fun tail htail => hobject ⟨tail, htail⟩)
      (fun tail htail => harray ⟨tail, htail⟩)
    use row, writes_leaf hrow

/-- The tokens of a JSON text write its value. -/
theorem read_sound {text : String} (h : read text = .ok value) :
  Writes maxNesting value (tokens text.toList)
  := by
  obtain ⟨⟨found, rest⟩, hfound, h⟩ := bind_eq_ok.mp h
  obtain ⟨row, hrow, htokens⟩ := readValue_sound _ _ _ _ _ hfound
  simp only [finish] at h
  split at h
  · next hend =>
    obtain rfl := Except.ok.inj h
    obtain ⟨space, hspace, hrest⟩ := exists_space rest
    rw [hend, List.append_nil] at hrest
    have hstop : Stops rest := by
      rw [hrest, ← List.append_nil space]
      apply stops_append hspace.isGap
      simp [Stops, Lacks]
    have hnone : tokens rest = [] := by
      rw [← tokens_skipSpace, hend, tokens]
    rw [htokens hstop, hnone, List.append_nil]
    apply hrow
  · simp at h

end LumpRules.Json
