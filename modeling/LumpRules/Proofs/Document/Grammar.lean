import LumpRules.Document

/-!
# The grammar of documents

The texts that the scanner is to recognise, said without the scanner.  A value is a string, a
scalar, or, if there is a level left, an array or an object of values of one level less; `IsGap`
is the white space that may stand between tokens.

    object ::= '{' gap [ member { gap ',' gap member } [ gap ',' ] gap ] '}'
    member ::= string gap ':' gap value
    array  ::= '[' gap [ value { gap ',' gap value } [ gap ',' ] gap ] ']'
    value  ::= object | array | string | scalar

`IsListing` is what stands in an object or an array after the first gap, and carries along the
items as they are written.
-/

namespace LumpRules.Document

open Text

/-- White space between tokens. -/
def IsGap (text : List Char) : Prop :=
  ∀ c ∈ text, isBlank c = true

theorem isGap_nil :
  IsGap []
  := fun _ hc => (List.not_mem_nil hc).elim

/-- What may stand between the quotes of a string: any character but a quote or a backslash, or
a backslash and any character after it. -/
inductive IsContent : List Char → Prop where
  | nil : IsContent []
  | plain {c : Char} {rest : List Char} :
      c ≠ '"' → c ≠ '\\' → IsContent rest → IsContent (c :: rest)
  | escape {c : Char} {rest : List Char} : IsContent rest → IsContent ('\\' :: c :: rest)

/-- A string with its quotes. -/
def IsString (text : List Char) : Prop :=
  ∃ content, IsContent content ∧ text = '"' :: content ++ ['"']

/-- A number or a bare word. -/
def IsScalar (text : List Char) : Prop :=
  text ≠ [] ∧ ∀ c ∈ text, isScalarChar c = true

/-- Items separated by commas, up to the bracket that closes them.  A comma may stand after the
last item. -/
inductive IsListing {α : Type} (item : α → List Char → Prop) (close : Char) :
    List α → List Char → Prop where
  | empty : IsListing item close [] [close]
  | last {a : α} {text gap : List Char} :
      item a text → IsGap gap → IsListing item close [a] (text ++ gap ++ [close])
  | more {a : α} {items : List α} {text gap gap' rest : List Char} :
      item a text → IsGap gap → IsGap gap' → IsListing item close items rest →
      IsListing item close (a :: items) (text ++ gap ++ ',' :: gap' ++ rest)

/-- Items between brackets. -/
def IsEnclosed {α : Type} (first close : Char) (item : α → List Char → Prop) (items : List α)
    (text : List Char) : Prop :=
  ∃ gap rest, IsGap gap ∧ IsListing item close items rest ∧ text = first :: gap ++ rest

/-- A member as it is written: what stands between the quotes of its name, and its value. -/
structure MemberText where
  name : List Char
  value : List Char

/-- The text of a member. -/
def IsMember (value : List Char → Prop) (member : MemberText) (text : List Char) : Prop :=
  IsContent member.name ∧ value member.value ∧ ∃ gap gap', IsGap gap ∧ IsGap gap' ∧
    text = '"' :: member.name ++ '"' :: gap ++ ':' :: gap' ++ member.value

/-- An object with the given members. -/
def IsObject (value : List Char → Prop) (members : List MemberText) (text : List Char) : Prop :=
  IsEnclosed '{' '}' (IsMember value) members text

/-- An array with the given elements. -/
def IsArray (value : List Char → Prop) (elements : List (List Char)) (text : List Char) : Prop :=
  IsEnclosed '[' ']' (fun element text => value element ∧ text = element) elements text

/-- A value whose objects and arrays nest at most `levels` deep. -/
def IsValue : (levels : Nat) → List Char → Prop
  | 0, text => IsString text ∨ IsScalar text
  | levels + 1, text =>
    IsString text ∨ IsScalar text ∨ (∃ members, IsObject (IsValue levels) members text) ∨
      ∃ elements, IsArray (IsValue levels) elements text

/-- A document: white space, or an object with white space around it. -/
def IsDocument (text : List Char) : Prop :=
  IsGap text ∨ ∃ before members object after,
    IsGap before ∧ IsObject (IsValue 127) members object ∧ IsGap after ∧
      text = before ++ object ++ after

end LumpRules.Document
