import LumpRules.Proofs.Document.Noise
import LumpRules.Proofs.Document.TrailingCommas
import LumpRules.Proofs.Json.Grammar

/-!
# Reading JSON texts

A JSON text has nothing that reading a document takes away.  Its slashes are in strings, where both
strippers stay up to the closing quote, since a string ends on its line; and the token after a comma
outside strings never closes anything.  So `IsClean` texts, which neither stripper changes whatever
comes after them, include every value of the grammar, and a JSON text is read as it stands
(`read_of_isText`).
-/

namespace LumpRules.Document

open Text Json

variable {c : Char} {text text' gap : List Char} {item : List Char → Prop} {levels : Nat}

/-- Neither comments nor trailing commas are taken out of the text, whatever comes after it. -/
structure IsClean (text : List Char) : Prop where
  comments : Turns (stripComments .plain) text text
  commas : Strips text text

theorem IsClean.append (h : IsClean text) (h' : IsClean text') :
  IsClean (text ++ text')
  where
  comments := h.comments.append h'.comments
  commas := h.commas.append h'.commas

theorem isClean_char (hslash : c ≠ '\\') (hquote : c ≠ '"') (hcomment : c ≠ '/')
    (hcomma : c ≠ ',') :
  IsClean [c]
  where
  comments _ := stripComments_plain hslash hquote hcomment
  commas := strips_char hquote hcomma

theorem isClean_of_forall (h : ∀ c ∈ text, IsClean [c]) :
  IsClean text
  where
  comments := turns_word fun c hc => (h c hc).comments
  commas := turns_word fun c hc => (h c hc).commas

theorem isClean_space (h : IsSpace text) :
  IsClean text
  := by
  apply isClean_of_forall
  intro c hc
  have hspace := h c hc
  apply isClean_char
  all_goals
    rintro rfl
    contradiction

theorem isClean_scalar (h : IsScalar text) :
  IsClean text
  := by
  apply isClean_of_forall
  intro c hc
  have hscalar := h.2 c hc
  apply isClean_char
  all_goals
    rintro rfl
    contradiction

theorem isClean_chars (h : IsChars text) :
  IsClean ('"' :: text ++ ['"'])
  where
  comments _ := @stripComments_token _ (.string text) ⟨h.isContent, h.line⟩
  commas := strips_string ⟨text, h.isContent, rfl⟩

theorem isClean_closer (h : isCloser c = true) :
  IsClean [c]
  := by
  rcases isCloser_iff.mp h with rfl | rfl
  · apply isClean_char <;> decide
  · apply isClean_char <;> decide

/-- A comma before something that closes nothing. -/
theorem IsClean.comma (h : IsClean text) (hbegins : Begins text) (hgap : IsSpace gap) :
  IsClean (',' :: gap ++ text)
  where
  comments := by
    have hcomma : Turns (stripComments .plain) [','] [','] := fun _ =>
      stripComments_plain (by decide) (by decide) (by decide)
    have hwhole := (hcomma.append (isClean_space hgap).comments).append h.comments
    simpa using hwhole
  commas := hbegins.strips_comma hgap.isGap h.commas

/-- A text of a language that is clean and starts with something other than a closing bracket. -/
def StartsClean (item : List Char → Prop) : Prop :=
  ∀ text, item text → Begins text ∧ IsClean text

theorem Begins.append (h : Begins text) (text' : List Char) :
  Begins (text ++ text')
  := by
  obtain ⟨c, rest, rfl, hc⟩ := h
  exact ⟨c, rest ++ text', rfl, hc⟩

theorem startsClean_sequence (hitem : StartsClean item) :
  StartsClean (IsSequence item)
  := by
  intro text h
  induction h with
  | one hitem' => apply hitem _ hitem'
  | @more text before after rest ha hbefore hafter _ ih =>
    obtain ⟨hbegins, hclean⟩ := hitem _ ha
    obtain ⟨hrest, hcleanRest⟩ := ih
    constructor
    · rw [List.append_assoc, List.append_assoc]
      apply hbegins.append
    · have hwhole := (hclean.append (isClean_space hbefore)).append (hcleanRest.comma hrest hafter)
      simpa using hwhole

theorem startsClean_wrapped {first close : Char} (hitem : StartsClean item)
    (hfirst : first ∈ ['[', '{']) (hclose : isCloser close = true) :
  StartsClean (IsWrapped first close item)
  := by
  have hopen : IsClean [first] ∧ ∀ rest, Begins (first :: rest) := by
    simp only [List.mem_cons, List.not_mem_nil, or_false] at hfirst
    rcases hfirst with rfl | rfl
    · use isClean_char (by decide) (by decide) (by decide) (by decide)
      exact fun rest => ⟨_, rest, rfl, by decide, by decide, by decide⟩
    · use isClean_char (by decide) (by decide) (by decide) (by decide)
      exact fun rest => ⟨_, rest, rfl, by decide, by decide, by decide⟩
  obtain ⟨hclean, hbegins⟩ := hopen
  have hend : IsClean [close] := isClean_closer hclose
  rintro text (⟨space, hspace, rfl⟩ | ⟨before, items, after, hbefore, hitems, hafter, rfl⟩)
  · use hbegins _
    have hwhole := (hclean.append (isClean_space hspace)).append hend
    simpa using hwhole
  · use hbegins _
    have hinside := (isClean_space hbefore).append (startsClean_sequence hitem _ hitems).2
    have hwhole := ((hclean.append hinside).append (isClean_space hafter)).append hend
    simpa using hwhole

theorem startsClean_pair (hitem : StartsClean item) :
  StartsClean (IsPair item)
  := by
  rintro text ⟨name, before, after, rest, hname, hbefore, hafter, hrest, rfl⟩
  constructor
  · exact ⟨'"', _, rfl, by decide, by decide, by decide⟩
  · have hcolon : IsClean [':'] := by
      apply isClean_char <;> decide
    have hfront := ((isClean_chars hname).append (isClean_space hbefore)).append hcolon
    have hwhole := (hfront.append (isClean_space hafter)).append (hitem _ hrest).2
    simpa using hwhole

theorem startsClean_leaf :
  StartsClean IsLeaf
  := by
  intro text h
  rcases h.cases with ⟨content, hcontent, rfl⟩ | hscalar
  · use IsString.begins ⟨content, hcontent.isContent, rfl⟩
    apply isClean_chars hcontent
  · use hscalar.begins
    apply isClean_scalar hscalar

theorem startsClean_nested (levels : Nat) :
  StartsClean (IsNested levels)
  := by
  induction levels with
  | zero => apply startsClean_leaf
  | succ levels ih =>
    rintro text (h | h | h)
    · apply startsClean_leaf text h
    · apply startsClean_wrapped ih (by decide) (by decide) text h
    · apply startsClean_wrapped (startsClean_pair ih) (by decide) (by decide) text h

/-! ### Whole texts -/

theorem unmarked_wrapped {first close : Char} {rest : List Char}
    (h : IsWrapped first close item text) (hfirst : first ≠ '\ufeff') :
  Unmarked (text ++ rest)
  := by
  rcases h with ⟨space, -, rfl⟩ | ⟨before, items, after, -, -, -, rfl⟩
  · apply unmarked_cons hfirst
  · apply unmarked_cons hfirst

/-- No value starts with a byte-order mark. -/
theorem unmarked_nested {rest : List Char} (h : IsNested levels text) :
  Unmarked (text ++ rest)
  := by
  have hleaf : ∀ text, IsLeaf text → Unmarked (text ++ rest) := by
    intro text h
    rcases h.cases with ⟨content, -, rfl⟩ | hscalar
    · apply unmarked_cons (by decide)
    · apply @unmarked_token (.word text) _ hscalar
  cases levels with
  | zero => apply hleaf text h
  | succ levels =>
    rcases h with h | h | h
    · apply hleaf text h
    · apply unmarked_wrapped h (by decide)
    · apply unmarked_wrapped h (by decide)

theorem isNoise_space (h : IsSpace text) :
  IsNoise text
  := by
  induction text with
  | nil => apply IsNoise.nil
  | cons c text ih =>
    obtain ⟨hc, htext⟩ := List.forall_mem_cons.mp h
    apply IsNoise.space hc (ih htext)

/-- A JSON text is read as it stands. -/
theorem read_of_isText {text : String} (h : IsText text.toList) :
  read text = text
  := by
  obtain ⟨levels, before, value, after, hbefore, hvalue, hafter, htext⟩ := h
  have hclean : IsClean text.toList := by
    rw [htext]
    exact ((isClean_space hbefore).append (startsClean_nested levels value hvalue).2).append
      (isClean_space hafter)
  have hunmarked : Unmarked text.toList := by
    rw [htext, List.append_assoc]
    apply (isNoise_space hbefore).unmarked (unmarked_nested hvalue)
  have hcomments : stripComments .plain text.toList = text.toList := by
    rw [hclean.comments.apply_eq, stripComments, List.append_nil]
  rw [read, withoutTrailingCommas, withoutComments, toList_withoutMark (.inl rfl) hunmarked rfl,
    String.toList_ofList, hcomments, hclean.commas.eq, String.ofList_toList]

/-- A JSON text whose strings hold comment marks, a comma before a closing bracket, and backslashes
and quotes in a row. -/
def crowdedText : String :=
  "[ \"//\\\\\\\",\x7d\" ,\r\n\x7b\"/*\\u00E9\": -0.5E+3,\"\":[\t]\x7d ]"

/-- Nothing in the crowded text is taken for a comment or a trailing comma. -/
theorem read_of_isText_crowdedText :
  IsText crowdedText.toList ∧ read crowdedText = crowdedText
  := by
  have hstring : IsNested 2 "\"//\\\\\\\",\x7d\"".toList := by
    refine .inl (.inl ⟨['/', '/', '\\', '\\', '\\', '"', ',', '}'], ?_, rfl⟩)
    apply @isChars_plain ['/', '/'] _ rfl
    apply IsChars.escape (by decide)
    apply IsChars.escape (by decide)
    apply @isChars_plain [',', '}'] [] rfl .nil
  have hname : IsChars ['/', '*', '\\', 'u', '0', '0', 'E', '9'] := by
    apply @isChars_plain ['/', '*'] _ rfl
    apply @IsChars.unit ['0', '0', 'E', '9'] [] rfl (List.all_eq_true.mp rfl) .nil
  have hnumber : IsNumber "-0.5E+3".toList := by
    have hdigit : ∀ c : Char, c.isDigit = true → IsDigits [c] := by
      simp [IsDigits]
    refine ⟨['-'], ['0'], ['.', '5'], ['E', '+', '3'], by decide, ⟨hdigit '0' rfl, fun _ => rfl⟩,
      .inr ⟨['5'], hdigit '5' rfl, rfl⟩, .inr ⟨'E', ['+'], ['3'], by decide, by decide,
        hdigit '3' rfl, rfl⟩, rfl⟩
  have hspace : ∀ space : List Char, space.all isSpace = true → IsSpace space :=
    fun _ => List.all_eq_true.mp
  have hmembers : IsSequence (IsPair (IsNested 1)) "\"/*\\u00E9\": -0.5E+3,\"\":[\t]".toList := by
    apply @IsSequence.more _ "\"/*\\u00E9\": -0.5E+3".toList [] [] "\"\":[\t]".toList
    · exact ⟨_, [], [' '], _, hname, hspace _ rfl, hspace _ rfl, .inl (.inr (.inl hnumber)), rfl⟩
    · apply hspace _ rfl
    · apply hspace _ rfl
    · apply IsSequence.one
      exact ⟨[], [], [], "[\t]".toList, .nil, hspace _ rfl, hspace _ rfl,
        .inr (.inl (.inl ⟨['\t'], hspace _ rfl, rfl⟩)), rfl⟩
  have hobject : IsNested 2 ('{' :: "\"/*\\u00E9\": -0.5E+3,\"\":[\t]".toList ++ ['}']) :=
    .inr (.inr (.inr ⟨[], _, [], hspace _ rfl, hmembers, hspace _ rfl, rfl⟩))
  have hitems := IsSequence.more hstring (hspace [' '] rfl) (hspace ['\r', '\n'] rfl)
    (.one hobject)
  have hvalue : IsNested 3 ('[' :: [' '] ++ _ ++ [' '] ++ [']']) :=
    .inr (.inl (.inr ⟨[' '], _, [' '], hspace _ rfl, hitems, hspace _ rfl, rfl⟩))
  have htext : IsText crowdedText.toList :=
    ⟨3, [], _, [], hspace _ rfl, hvalue, hspace _ rfl, rfl⟩
  exact ⟨htext, read_of_isText htext⟩

end LumpRules.Document
