import LumpRules.Proofs.Json.Reading
import Mathlib.Data.List.DropRight

/-!
# Texts of a row

Every text that shows a row of tokens writing a value, with space between the tokens, is read as
that value (`readValue_complete`, `read_complete`).  The space does not matter because every
reader skips it before it looks at a token.
-/

namespace LumpRules.Json

open Text Document

variable {α : Type} {used left text rest : List Char} {c : Char} {row : List Token} {token : Token}
  {item : α → List Token → Prop} {close : Char} {items : List α} {rounds limit levels : Nat}

/-! ### The front of a text -/

theorem isSpace_of_isBlank (h : isBlank c = false) :
  isSpace c = false
  := by
  by_contra hspace
  simp [isBlank_of_isSpace (Bool.of_not_eq_false hspace)] at h

/-- The first token of a text, after the space before it. -/
theorem Spaced.skip (h : Spaced IsSpace (token :: row) used) (htoken : token.IsProper) :
  ∃ tail, Spaced IsSpace row tail ∧ tail.length < used.length ∧
    ∀ left, skipSpace (used ++ left) = token.text ++ (tail ++ left)
  := by
  obtain ⟨space, tail, hspace, htail, rfl⟩ := spaced_cons_iff.mp h
  obtain ⟨c, more, htext, hc⟩ := htoken.text
  use tail, htail
  constructor
  · simp only [List.length_append, htext, List.length_cons]
    omega
  · intro left
    rw [List.append_assoc, skipSpace_append hspace, htext]
    simp only [List.cons_append, List.append_assoc]
    rw [skipSpace_cons (isSpace_of_isBlank hc)]

/-- The first token of a text, if it is a mark; it ends a scalar before it. -/
theorem Spaced.mark (h : Spaced IsSpace (.mark c :: row) used)
    (hc : c ∈ ['{', '}', '[', ']', ':', ',']) :
  ∃ tail, Spaced IsSpace row tail ∧ tail.length < used.length ∧
    ∀ left, skipSpace (used ++ left) = c :: (tail ++ left) ∧ Stops (used ++ left)
  := by
  obtain ⟨tail, htail, hlen, hskip⟩ := h.skip hc
  use tail, htail, hlen
  intro left
  apply And.intro (hskip left) (tokens_of_skipSpace (hskip left) hc).1

/-- A text that starts an item can be had without the space before it. -/
theorem Spaced.tight (h : Spaced IsSpace (token :: row) used) (htoken : token.Opens) :
  ∃ c tail, Spaced IsSpace (token :: row) (c :: tail) ∧ (c :: tail).length ≤ used.length ∧
    Document.isCloser c = false ∧ ∀ left, skipSpace (used ++ left) = c :: tail ++ left
  := by
  obtain ⟨tail, htail, hlen, hskip⟩ := h.skip htoken.1
  obtain ⟨space, tail', hspace, htail', rfl⟩ := spaced_cons_iff.mp h
  obtain ⟨c, more, htext, hc⟩ := htoken.1.text
  use c, more ++ tail'
  refine ⟨?_, ?_, htoken.ne_closer htext, ?_⟩
  · have hspaced : Spaced IsSpace (token :: row) ([] ++ (token.text ++ tail')) :=
      .cons (by simp [IsSpace]) htail'
    rw [htext] at hspaced
    apply hspaced
  · simp only [List.length_append, htext, List.length_cons]
    omega
  · intro left
    rw [List.append_assoc, skipSpace_append hspace, htext]
    simp only [List.cons_append, List.append_assoc]
    rw [skipSpace_cons (isSpace_of_isBlank hc)]

/-! ### Reading a text -/

/-- A reader that reads every text of a language of rows, if the text is not longer than `limit`
and nothing prolongs it. -/
def Reader.Complete (reader : Reader α) (limit : Nat) (item : α → List Token → Prop) : Prop :=
  ∀ a row used left, item a row → Spaced IsSpace row used → used.length ≤ limit → Stops left →
    reader (used ++ left) = .ok (a, left)

variable {reader : Reader α}

theorem readElements_last {a : α} {after : List Char} (ha : reader text = .ok (a, after))
    (hskip : skipSpace after = ']' :: rest) :
  readElements reader (rounds + 1) text = .ok ([a], rest)
  := by
  rw [readElements, bind_eq_ok]
  use (a, after), ha
  simp only [hskip]

theorem readElements_more {a : α} {after next : List Char} (ha : reader text = .ok (a, after))
    (hskip : skipSpace after = ',' :: next) (hnext : skipSpace next = c :: left) (hc : c ≠ ']')
    (hitems : readElements reader rounds (c :: left) = .ok (items, rest)) :
  readElements reader (rounds + 1) text = .ok (a :: items, rest)
  := by
  rw [readElements, bind_eq_ok]
  use (a, after), ha
  simp only [hskip, hnext]
  split
  · next heq => simp at heq
  · next heq => apply (hc (List.cons.inj heq).1).elim
  · rw [hitems]
    rfl

theorem readElements_complete (left : List Char) (hreader : reader.Complete limit item)
    (hopen : RowsOpen item) (h : Series item ']' items row) (hused : Spaced IsSpace row used)
    (hrounds : used.length ≤ rounds) (hlimit : used.length ≤ limit) :
  readElements reader rounds (used ++ left) = .ok (items, left)
  := by
  induction h generalizing used rounds with
  | @last a row ha =>
    obtain ⟨before, after, hbefore, hafter, rfl⟩ := spaced_append_iff.mp hused
    obtain ⟨tail, htail, hlen, hskip⟩ := hafter.mark (by simp)
    obtain ⟨hskip, hstop⟩ := hskip left
    cases htail
    rw [List.length_append] at hrounds hlimit
    cases rounds with
    | zero => omega
    | succ rounds =>
      rw [List.append_assoc]
      apply readElements_last _ hskip
      apply hreader a row before _ ha hbefore (by omega) hstop
  | @more a items row rest ha hrest ih =>
    obtain ⟨before, after, hbefore, hafter, rfl⟩ := spaced_append_iff.mp hused
    obtain ⟨tail, htail, hlen, hskip⟩ := hafter.mark (by simp)
    obtain ⟨hskip, hstop⟩ := hskip left
    obtain ⟨token, more, rfl, htoken⟩ := hrest.opens hopen
    obtain ⟨c, tight, htight, hlen', hc, hnext⟩ := htail.tight htoken
    rw [List.length_append] at hrounds hlimit
    cases rounds with
    | zero => omega
    | succ rounds =>
      rw [List.append_assoc]
      apply readElements_more _ hskip (hnext left)
      · rintro rfl
        simp [Document.isCloser] at hc
      · apply ih htight (by omega) (by omega)
      · apply hreader a row before _ ha hbefore (by omega) hstop

variable {reader : Reader Json} {writes : Json → List Token → Prop} {member : String × Json}
  {members : List (String × Json)} {value : Json}

/-- The member that a round of `readMembers` reads from after the quote of its name. -/
def MemberAt (reader : Reader Json) (text : List Char) (member : String × Json)
    (after : List Char) : Prop :=
  ∃ name afterName afterColon, readString .full text = .ok (name, afterName) ∧
    member.1 = String.ofList name ∧ skipSpace afterName = ':' :: afterColon ∧
    reader afterColon = .ok (member.2, after)

theorem WritesMember.memberAt (h : WritesMember writes member row)
    (hreader : reader.Complete limit writes) (hused : Spaced IsSpace row used)
    (hlimit : used.length ≤ limit) (hstop : Stops left) :
  ∃ inner, skipSpace (used ++ left) = '"' :: inner ∧ MemberAt reader inner member left
  := by
  obtain ⟨body, name, row, hbody, hname, hrow, rfl⟩ := h
  obtain ⟨afterName, hafterName, hlen, hskip⟩ := hused.skip hbody.opens.1
  obtain ⟨afterColon, hafterColon, hlen', hcolon⟩ := hafterName.mark (by simp)
  use body ++ '"' :: (afterName ++ left)
  constructor
  · rw [hskip left]
    simp [Token.text]
  · use name, afterName ++ left, afterColon ++ left, hbody.2.2 _, hname, (hcolon left).1
    apply hreader _ _ _ _ hrow hafterColon (by omega) hstop

theorem readMembers_last {after : List Char} (h : MemberAt reader text member after)
    (hskip : skipSpace after = '}' :: rest) :
  readMembers .full (fun _ => reader) (rounds + 1) text = .ok ([member], rest)
  := by
  obtain ⟨name, afterName, afterColon, hname, hmember, hcolon, hvalue⟩ := h
  rw [readMembers, bind_eq_ok]
  use (name, afterName), hname
  simp only [hcolon]
  rw [bind_eq_ok]
  use (member.2, after), hvalue
  simp only [hskip, ← hmember]

theorem readMembers_more {after next inner : List Char} (h : MemberAt reader text member after)
    (hskip : skipSpace after = ',' :: next) (hnext : skipSpace next = '"' :: inner)
    (hmembers : readMembers .full (fun _ => reader) rounds inner = .ok (members, rest)) :
  readMembers .full (fun _ => reader) (rounds + 1) text = .ok (member :: members, rest)
  := by
  obtain ⟨name, afterName, afterColon, hname, hmember, hcolon, hvalue⟩ := h
  rw [readMembers, bind_eq_ok]
  use (name, afterName), hname
  simp only [hcolon]
  rw [bind_eq_ok]
  use (member.2, after), hvalue
  simp only [hskip, hnext, ← hmember, hmembers]
  rfl

theorem readMembers_complete (left : List Char) (hreader : reader.Complete limit writes)
    (h : Series (WritesMember writes) '}' members row) (hused : Spaced IsSpace row used)
    (hrounds : used.length ≤ rounds) (hlimit : used.length ≤ limit) :
  ∃ inner, skipSpace (used ++ left) = '"' :: inner ∧
    readMembers .full (fun _ => reader) rounds inner = .ok (members, left)
  := by
  induction h generalizing used rounds with
  | @last member row hmember =>
    obtain ⟨before, after, hbefore, hafter, rfl⟩ := spaced_append_iff.mp hused
    obtain ⟨tail, htail, hlen, hskip⟩ := hafter.mark (by simp)
    obtain ⟨hskip, hstop⟩ := hskip left
    cases htail
    rw [List.length_append] at hrounds hlimit
    obtain ⟨inner, hinner, hat⟩ := hmember.memberAt hreader hbefore (by omega) hstop
    cases rounds with
    | zero => omega
    | succ rounds =>
      rw [List.append_assoc]
      use inner, hinner
      apply readMembers_last hat hskip
  | @more member members row rest hmember hrest ih =>
    obtain ⟨before, after, hbefore, hafter, rfl⟩ := spaced_append_iff.mp hused
    obtain ⟨tail, htail, hlen, hskip⟩ := hafter.mark (by simp)
    obtain ⟨hskip, hstop⟩ := hskip left
    rw [List.length_append] at hrounds hlimit
    obtain ⟨inner, hinner, hat⟩ := hmember.memberAt hreader hbefore (by omega) hstop
    cases rounds with
    | zero => omega
    | succ rounds =>
      obtain ⟨inner', hinner', hmembers⟩ := @ih tail rounds htail (by omega) (by omega)
      rw [List.append_assoc]
      use inner, hinner
      apply readMembers_more hat hskip hinner' hmembers

theorem readArray_complete {reader : Reader α} (left : List Char)
    (hreader : reader.Complete limit item) (hopen : RowsOpen item)
    (h : Enclosed '[' ']' item items row) (hused : Spaced IsSpace row used)
    (hlen : used.length ≤ limit) :
  ∃ inner, skipSpace (used ++ left) = '[' :: inner ∧
    readArray reader limit inner = .ok (items, left)
  := by
  rcases h with ⟨rfl, rfl⟩ | ⟨rest, hrest, rfl⟩
  · obtain ⟨tail, htail, -, hskip⟩ := hused.mark (by simp)
    obtain ⟨tail', htail', -, hskip'⟩ := htail.mark (by simp)
    cases htail'
    use tail ++ left, (hskip left).1
    rw [readArray, (hskip' left).1]
    rfl
  · obtain ⟨tail, htail, hlen', hskip⟩ := hused.mark (by simp)
    obtain ⟨token, more, rfl, htoken⟩ := hrest.opens hopen
    obtain ⟨c, tight, htight, hlen'', hc, hnext⟩ := htail.tight htoken
    use tail ++ left, (hskip left).1
    rw [readArray, hnext left]
    split
    · next heq => simp at heq
    · next heq =>
      obtain ⟨rfl, -⟩ := List.cons.inj heq
      simp [Document.isCloser] at hc
    · apply readElements_complete left hreader hopen hrest htight (by omega) (by omega)

theorem readObject_complete (left : List Char) (hreader : reader.Complete limit writes)
    (h : Enclosed '{' '}' (WritesMember writes) members row) (hused : Spaced IsSpace row used)
    (hlen : used.length ≤ limit) :
  ∃ inner, skipSpace (used ++ left) = '{' :: inner ∧
    readObject .full (fun _ => reader) limit inner = .ok (members, left)
  := by
  rcases h with ⟨rfl, rfl⟩ | ⟨rest, hrest, rfl⟩
  · obtain ⟨tail, htail, -, hskip⟩ := hused.mark (by simp)
    obtain ⟨tail', htail', -, hskip'⟩ := htail.mark (by simp)
    cases htail'
    use tail ++ left, (hskip left).1
    rw [readObject, (hskip' left).1]
    rfl
  · obtain ⟨tail, htail, hlen', hskip⟩ := hused.mark (by simp)
    obtain ⟨inner, hinner, hmembers⟩ :=
      readMembers_complete left hreader hrest htail (by omega : tail.length ≤ limit) (by omega)
    use tail ++ left, (hskip left).1
    rw [readObject, hinner]
    apply hmembers

theorem readValue_leaf_complete (h : WritesLeaf value row) (hused : Spaced IsSpace row used)
    (hstop : Stops left) :
  readValue .full rounds levels (used ++ left) = .ok (value, left)
  := by
  rcases h with ⟨body, name, hbody, rfl, rfl⟩ | ⟨word, hword, rfl⟩
  · obtain ⟨tail, htail, hlen, hskip⟩ := hused.skip hbody.opens.1
    cases htail
    have htext : skipSpace (used ++ left) = '"' :: (body ++ '"' :: left) := by
      rw [hskip left]
      simp [Token.text]
    rw [readValue.eq_def, htext]
    simp only
    rw [hbody.2.2 left]
    rfl
  · have hproper : (Token.word word).IsProper := hword.1
    obtain ⟨tail, htail, hlen, hskip⟩ := hused.skip hproper
    cases htail
    rw [← readValue_skipSpace, hskip left]
    apply hword.2 rounds levels left hstop

/-- Every text that shows a row writing a value is read as that value. -/
theorem readValue_complete (rounds levels : Nat) :
  Reader.Complete (readValue .full rounds levels) rounds (Writes levels)
  := by
  induction levels with
  | zero =>
    intro value row used left h hused hlen hstop
    apply readValue_leaf_complete h hused hstop
  | succ levels ih =>
    rintro value row used left (h | ⟨items, h, rfl⟩ | ⟨members, h, rfl⟩) hused hlen hstop
    · apply readValue_leaf_complete h hused hstop
    · obtain ⟨inner, hinner, hitems⟩ :=
        readArray_complete left ih (rowsOpen_writes levels) h hused hlen
      rw [readValue, hinner]
      simp only
      rw [hitems]
      rfl
    · obtain ⟨inner, hinner, hmembers⟩ := readObject_complete left ih h hused hlen
      rw [readValue, hinner]
      simp only
      rw [hmembers]
      rfl

/-- A text that shows the tokens of a value, with space after them, is read as that value. -/
theorem read_complete_append {text : String} {space : List Char} (h : Writes maxNesting value row)
    (hused : Spaced IsSpace row used) (hspace : IsSpace space)
    (htext : text.toList = used ++ space) :
  read text = .ok value
  := by
  have hend : Stops ([] : List Char) := by
    simp [Stops, Lacks]
  have hstop : Stops (space ++ []) := stops_append hspace.isGap hend
  rw [List.append_nil] at hstop
  have hlen : used.length ≤ text.toList.length + 1 := by
    rw [htext, List.length_append]
    omega
  have hread := readValue_complete _ maxNesting value row used space h hused hlen hstop
  rw [read, bind_eq_ok]
  use (value, space)
  constructor
  · rw [← hread, htext]
  · have hskip : skipSpace (space ++ []) = [] := skipSpace_append hspace
    rw [List.append_nil] at hskip
    simp only [finish, hskip]

/-- A text that shows the tokens of a value is read as that value. -/
theorem read_complete {text : String} (h : Writes maxNesting value row)
    (hused : Spaced IsSpace row text.toList) :
  read text = .ok value
  := by
  apply read_complete_append h hused (List.forall_mem_nil _)
  rw [List.append_nil]

end LumpRules.Json
