import LumpRules.Proofs.Document.Neighbours

/-!
# Inside and outside of strings

Where a place of a text stands among its strings is told by the text before it, character by
character: quotes open and close strings, and inside them a backslash shields one character.  A text
of strings and of characters other than quotes leads from outside to outside (`Unquoted.after_eq`).
-/

namespace LumpRules.Document

/-- Where a place stands among the strings of a text. -/
inductive QuoteState where
  | outside
  | inside
  /-- After a backslash inside a string. -/
  | shielded
  deriving DecidableEq, Repr

namespace QuoteState

/-- The state after one more character. -/
def step : QuoteState → Char → QuoteState
  | .outside, c => if c = '"' then .inside else .outside
  | .inside, c => if c = '\\' then .shielded else if c = '"' then .outside else .inside
  | .shielded, _ => .inside

/-- The state after a text. -/
def after (state : QuoteState) (text : List Char) : QuoteState :=
  text.foldl step state

variable {state : QuoteState} {c : Char} {text rest content gap : List Char}

@[simp]
theorem after_nil :
  state.after [] = state
  := rfl

@[simp]
theorem after_cons :
  state.after (c :: rest) = (state.step c).after rest
  := rfl

@[simp]
theorem after_append :
  state.after (text ++ rest) = (state.after text).after rest
  := List.foldl_append

theorem step_outside (h : c ≠ '"') :
  outside.step c = outside
  := if_neg h

/-- What stands between the quotes of a string stays inside. -/
theorem after_content (h : IsContent content) :
  inside.after content = inside
  := by
  induction h with
  | nil => rfl
  | plain hquote hslash _ ih => rw [after_cons, step, if_neg hslash, if_neg hquote, ih]
  | escape _ ih => rw [after_cons, after_cons, step, if_pos rfl, step, ih]

end QuoteState

variable {text gap : List Char}

theorem Unquoted.after_eq (h : Unquoted text) :
  QuoteState.outside.after text = .outside
  := by
  induction h with
  | nil => rfl
  | char hc _ ih => rw [QuoteState.after_cons, QuoteState.step_outside hc, ih]
  | string hcontent _ ih =>
    rw [QuoteState.after_cons, QuoteState.after_append, QuoteState.step, if_pos rfl,
      QuoteState.after_content hcontent, QuoteState.after_cons]
    exact ih

end LumpRules.Document
