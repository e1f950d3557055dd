import LumpRules.Proofs.Json.Leaves
import LumpRules.Proofs.Document.Nesting

/-!
# Nesting and the reader of values

What the reader of JSON values takes off a text leads back to the level at which it started, and the
reader gives up for nesting only where the text has more objects and arrays open than it has levels
(`Reader.Tracks`).  This is shown for each reader from the readers that it calls; strings, numbers
and names are read without giving up for nesting, as they open nothing.
-/

namespace LumpRules.Document

open Text

variable {text rest used left : List Char} {c : Char} {limit n : Nat}
  {start middle finish : Nesting}

/-! ### Ways through a text -/

/-- What stands before the rest of a text leads from one nesting to another. -/
def Leads (start : Nesting) (text : List Char) (finish : Nesting) (rest : List Char) : Prop :=
  ∃ used, text = used ++ rest ∧ start.after used = finish

/-- At some place of a text more than `limit` objects and arrays are open. -/
def Exceeds (limit : Nat) (start : Nesting) (text : List Char) : Prop :=
  ∃ used, used <+: text ∧ limit < (start.after used).level

theorem Reaches.leads (h : Reaches limit start used finish) (rest : List Char) :
  Leads start (used ++ rest) finish rest
  := ⟨used, rfl, h.after_eq⟩

theorem Reaches.not_exceeds (h : Reaches limit start text finish) :
  ¬ Exceeds limit start text
  := by
  rintro ⟨used, hused, hlevel⟩
  exact Nat.not_le.mpr hlevel (h.bounded used hused)

theorem Leads.trans (h : Leads start text middle rest) (h' : Leads middle rest finish left) :
  Leads start text finish left
  := by
  obtain ⟨used, rfl, rfl⟩ := h
  obtain ⟨used', rfl, rfl⟩ := h'
  exact ⟨used ++ used', by rw [List.append_assoc], List.foldl_append⟩

theorem Exceeds.of_leads (h : Leads start text middle rest) (hrest : Exceeds limit middle rest) :
  Exceeds limit start text
  := by
  obtain ⟨used, rfl, rfl⟩ := h
  obtain ⟨used', hprefix, hlevel⟩ := hrest
  refine ⟨used ++ used', (List.prefix_append_right_inj used).mpr hprefix, ?_⟩
  rwa [Nesting.after, List.foldl_append]

theorem leads_char (hc : c ∉ turningChars) :
  Leads (.at n) (c :: rest) (.at n) rest
  := (reaches_char hc (le_refl n)).leads rest

theorem leads_opener (hc : isOpener c = true) :
  Leads (.at n) (c :: rest) (.at (n + 1)) rest
  := (reaches_opener hc (Nat.lt_succ_self n)).leads rest

/-- A bracket that opens a level too many. -/
theorem exceeds_opener (hc : isOpener c = true) :
  Exceeds n (.at n) (c :: rest)
  := by
  obtain ⟨used, heq, hafter⟩ := @leads_opener rest c n hc
  refine ⟨used, ⟨rest, heq.symm⟩, ?_⟩
  rw [hafter]
  exact Nat.lt_succ_self n

theorem leads_closer (hc : isCloser c = true) :
  Leads (.at (n + 1)) (c :: rest) (.at n) rest
  := (reaches_closer hc (Nat.lt_succ_self n)).leads rest

/-- The opening quote of a string. -/
theorem leads_quote :
  Leads (.at n) ('"' :: rest) ⟨.inside, n⟩ rest
  := ⟨['"'], rfl, rfl⟩

/-- The content of a string and its closing quote. -/
theorem leads_content {content : List Char} (h : IsContent content) :
  Leads ⟨.inside, n⟩ (content ++ '"' :: rest) (.at n) rest
  := ((reaches_content h (le_refl n)).leads _).trans ⟨['"'], rfl, rfl⟩

theorem leads_word {word : List Char} (h : ∀ c ∈ word, isScalarChar c = true) :
  Leads (.at n) (word ++ rest) (.at n) rest
  := (reaches_word rfl h (le_refl n)).leads rest

end LumpRules.Document

namespace LumpRules.Json

open Decimal Text Document

variable {α β : Type} {text rest name digits : List Char} {c : Char}
  {limit n levels rounds : Nat} {start middle finish : Nesting} {problem : ReadError}

theorem leads_skipSpace (text : List Char) :
  Leads (.at n) text (.at n) (skipSpace text)
  := by
  obtain ⟨space, hspace, htext⟩ := exists_space text
  use space, htext
  exact (hspace.isGap.reaches (le_refl n)).after_eq

/-! ### Leaves -/

theorem consChar_eq_error {x : Except ReadError (List Char × List Char)} :
  consChar c x = .error problem ↔ x = .error problem
  := by
  cases x <;> simp [consChar]

theorem readString_ne (care : Care) (text : List Char) :
  readString care text ≠ .error .nestedTooDeeply
  := by
  have hshort : ∀ text, shortEscape text ≠ .nestedTooDeeply := by
    intro text
    rw [shortEscape]
    split <;> decide
  fun_induction readString care text <;> simp_all [consChar_eq_error]

theorem readDigits_ne (text : List Char) :
  readDigits text ≠ .error .nestedTooDeeply
  := by
  rw [readDigits]
  split <;> simp

theorem readWhole_ne (text : List Char) :
  readWhole text ≠ .error .nestedTooDeeply
  := by
  intro h
  rcases bind_eq_error.mp h with h | ⟨⟨digits, rest⟩, -, h⟩
  · exact readDigits_ne _ h
  · simp only at h
    split at h <;> simp at h

theorem readFraction_ne (text : List Char) :
  readFraction text ≠ .error .nestedTooDeeply
  := by
  rw [readFraction.eq_def]
  split
  · exact readDigits_ne _
  · simp

theorem readExponent_ne (text : List Char) :
  readExponent text ≠ .error .nestedTooDeeply
  := by
  rw [readExponent.eq_def]
  split
  · simp
  · split
    · intro h
      rcases bind_eq_error.mp h with h | ⟨_, -, h⟩
      · exact readDigits_ne _ h
      · simp at h
    · simp

theorem readNumber_ne (negative : Bool) (text : List Char) :
  readNumber .full negative text ≠ .error .nestedTooDeeply
  := by
  intro h
  rcases bind_eq_error.mp h with h | ⟨⟨whole, afterWhole⟩, -, h⟩
  · exact readWhole_ne _ h
  rcases bind_eq_error.mp h with h | ⟨⟨fraction, afterFraction⟩, -, h⟩
  · exact readFraction_ne _ h
  rcases bind_eq_error.mp h with h | ⟨⟨exponent, afterExponent⟩, -, h⟩
  · exact readExponent_ne _ h
  · simp only at h
    split at h <;> simp at h

theorem readWord_ne (value : α) (word text : List Char) :
  readWord value word text ≠ .error .nestedTooDeeply
  := by
  fun_induction readWord value word text <;> simp_all

/-! ### Readers -/

/-- What a reader makes of a text: if it succeeds, what it takes leads from one nesting to another,
and if it gives up for nesting, more than `limit` objects and arrays are open somewhere. -/
def Tracks (limit : Nat) (start finish : Nesting) (text : List Char) :
    Except ReadError (α × List Char) → Prop
  | .ok (_, rest) => Leads start text finish rest
  | .error error => error = .nestedTooDeeply → Exceeds limit start text

/-- A reader whose outcomes are such. -/
def Reader.Tracks (reader : Reader α) (limit : Nat) (start finish : Nesting) : Prop :=
  ∀ text, Json.Tracks limit start finish text (reader text)

variable {x : Except ReadError (α × List Char)}
  {f : α × List Char → Except ReadError (β × List Char)}

namespace Tracks

theorem error (h : problem ≠ .nestedTooDeeply) :
  @Tracks α limit start finish text (.error problem)
  := fun heq => (h heq).elim

/-- A part of the text is passed over first. -/
theorem after (h : Leads start text middle rest) (hx : Tracks limit middle finish rest x) :
  Tracks limit start finish text x
  := by
  cases x with
  | ok found => exact h.trans hx
  | error error => exact fun heq => .of_leads h (hx heq)

/-- Two readers one after the other. -/
theorem bind (hx : Tracks limit start middle text x)
    (hf : ∀ a rest, Tracks limit middle finish rest (f (a, rest))) :
  Tracks limit start finish text (x >>= f)
  := by
  cases x with
  | ok found => exact after hx (hf found.1 found.2)
  | error error => exact hx

end Tracks

theorem tracks_string {f : List Char × List Char → Except ReadError (β × List Char)}
    (hf : ∀ name rest, Tracks limit (.at n) finish rest (f (name, rest))) :
  Tracks limit ⟨.inside, n⟩ finish text (readString .full text >>= f)
  := by
  apply Tracks.bind _ hf
  cases h : readString .full text with
  | ok found =>
    obtain ⟨body, hbody, rfl⟩ := readString_sound h
    exact leads_content hbody.1
  | error error =>
    apply Tracks.error
    rintro rfl
    exact readString_ne _ _ h

theorem tracks_number (negative : Bool) :
  Reader.Tracks (readNumber .full negative) limit (.at n) (.at n)
  := by
  intro text
  cases h : readNumber .full negative text with
  | ok found =>
    obtain ⟨word, hword, -, rfl⟩ := readNumber_sound h
    exact leads_word hword.scalar
  | error error =>
    apply Tracks.error
    rintro rfl
    exact readNumber_ne _ _ h

theorem tracks_word (value : α) {word : List Char} (hword : ∀ c ∈ word, isScalarChar c = true) :
  Reader.Tracks (readWord value word) limit (.at n) (.at n)
  := by
  intro text
  cases h : readWord value word text with
  | ok found =>
    obtain ⟨-, rfl⟩ := readWord_sound h
    exact leads_word hword
  | error error =>
    apply Tracks.error
    rintro rfl
    exact readWord_ne _ _ _ h

theorem tracks_elements {value : Reader α}
    (hvalue : value.Tracks limit (.at (n + 1)) (.at (n + 1))) :
  Reader.Tracks (readElements value rounds) limit (.at (n + 1)) (.at n)
  := by
  induction rounds with
  | zero => exact fun _ => .error (by decide)
  | succ rounds ih =>
    intro text
    rw [readElements]
    apply (hvalue text).bind
    intro item rest
    apply Tracks.after (leads_skipSpace rest)
    dsimp only
    generalize skipSpace rest = rest
    split
    · exact .error (by decide)
    · exact leads_closer rfl
    · next rest =>
      apply Tracks.after (leads_char (by decide))
      apply Tracks.after (leads_skipSpace rest)
      generalize skipSpace rest = next
      split
      · exact .error (by decide)
      · exact .error (by decide)
      · apply (ih _).bind
        intro items rest
        exact ⟨[], rfl, rfl⟩
    · exact .error (by decide)

theorem tracks_members {value : Reader α}
    (hvalue : value.Tracks limit (.at (n + 1)) (.at (n + 1))) :
  Reader.Tracks (readMembers .full (fun _ => value) rounds) limit ⟨.inside, n + 1⟩ (.at n)
  := by
  induction rounds with
  | zero => exact fun _ => .error (by decide)
  | succ rounds ih =>
    intro text
    rw [readMembers]
    apply tracks_string
    intro body rest
    apply Tracks.after (leads_skipSpace rest)
    dsimp only
    generalize skipSpace rest = rest
    split
    · exact .error (by decide)
    · next rest =>
      apply Tracks.after (leads_char (by decide))
      apply (hvalue rest).bind
      intro item rest
      apply Tracks.after (leads_skipSpace rest)
      dsimp only
      generalize skipSpace rest = rest
      split
      · exact .error (by decide)
      · exact leads_closer rfl
      · next rest =>
        apply Tracks.after (leads_char (by decide))
        apply Tracks.after (leads_skipSpace rest)
        generalize skipSpace rest = rest
        split
        · exact .error (by decide)
        · apply Tracks.after leads_quote
          apply (ih _).bind
          intro members rest
          exact ⟨[], rfl, rfl⟩
        · exact .error (by decide)
        · exact .error (by decide)
      · exact .error (by decide)
    · exact .error (by decide)

theorem tracks_array {value : Reader α} (hvalue : value.Tracks limit (.at (n + 1)) (.at (n + 1))) :
  Reader.Tracks (readArray value rounds) limit (.at (n + 1)) (.at n)
  := by
  intro text
  apply Tracks.after (leads_skipSpace text)
  rw [readArray]
  generalize skipSpace text = text
  split
  · exact .error (by decide)
  · exact leads_closer rfl
  · apply tracks_elements hvalue

theorem tracks_object {value : Reader α} (hvalue : value.Tracks limit (.at (n + 1)) (.at (n + 1))) :
  Reader.Tracks (readObject .full (fun _ => value) rounds) limit (.at (n + 1)) (.at n)
  := by
  intro text
  apply Tracks.after (leads_skipSpace text)
  rw [readObject]
  generalize skipSpace text = text
  split
  · exact .error (by decide)
  · exact leads_closer rfl
  · apply Tracks.after leads_quote
    apply tracks_members hvalue
  · exact .error (by decide)

/-- A value leads back to its level, and it is given up for nesting only if it has more objects and
arrays inside of each other than there are levels. -/
theorem tracks_value (rounds levels n : Nat) :
  Reader.Tracks (readValue .full rounds levels) (n + levels) (.at n) (.at n)
  := by
  induction levels using Nat.strong_induction_on generalizing n with
  | _ levels ih =>
    intro text
    apply Tracks.after (leads_skipSpace text)
    rw [readValue.eq_def]
    generalize skipSpace text = text
    split
    · exact .error (by decide)
    · exact .after (leads_char (by decide)) (tracks_word _ (List.all_eq_true.mp rfl) _)
    · exact .after (leads_char (by decide)) (tracks_word _ (List.all_eq_true.mp rfl) _)
    · exact .after (leads_char (by decide)) (tracks_word _ (List.all_eq_true.mp rfl) _)
    · apply Tracks.after (leads_char (by decide))
      exact (tracks_number true _).bind fun _ rest => ⟨[], rfl, rfl⟩
    · apply Tracks.after leads_quote
      exact tracks_string fun _ rest => ⟨[], rfl, rfl⟩
    · next rest =>
      cases levels with
      | zero => exact fun _ => exceeds_opener rfl
      | succ levels =>
        have hvalue := ih levels (Nat.lt_succ_self levels) (n + 1)
        rw [Nat.succ_add_eq_add_succ] at hvalue
        apply Tracks.after (leads_opener rfl)
        exact (tracks_array hvalue _).bind fun _ rest => ⟨[], rfl, rfl⟩
    · next rest =>
      cases levels with
      | zero => exact fun _ => exceeds_opener rfl
      | succ levels =>
        have hvalue := ih levels (Nat.lt_succ_self levels) (n + 1)
        rw [Nat.succ_add_eq_add_succ] at hvalue
        apply Tracks.after (leads_opener rfl)
        exact (tracks_object hvalue _).bind fun _ rest => ⟨[], rfl, rfl⟩
    · split
      · exact (tracks_number false _).bind fun _ rest => ⟨[], rfl, rfl⟩
      · exact .error (by decide)

/-- A text that never has more than `maxNesting` objects and arrays open is not given up for
nesting. -/
theorem read_ne_nestedTooDeeply {text : String}
    (h : Reaches maxNesting {} text.toList finish) :
  read text ≠ .error .nestedTooDeeply
  := by
  intro hread
  rcases bind_eq_error.mp hread with herror | ⟨⟨value, rest⟩, -, herror⟩
  · have htracks := tracks_value (text.toList.length + 1) maxNesting 0 text.toList
    rw [herror, Nat.zero_add] at htracks
    exact h.not_exceeds (htracks rfl)
  · simp only [Json.finish] at herror
    split at herror <;> simp at herror

end LumpRules.Json
