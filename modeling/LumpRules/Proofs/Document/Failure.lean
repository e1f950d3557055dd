import LumpRules.Proofs.Document.Nesting
import LumpRules.Proofs.Outcome

/-!
# Where scanning stops

An error of the scanner keeps the text that was left where it stopped, and so points to a place of
the text.  `ScanError.Blames` says that this is the place of a real problem: either the bracket
before it is the first to open a level too many, or what stands before it is the beginning of a text
of the language.  So nothing before the place is wrong: a string that does not end as a value is
missed at its start, where another value might have stood, and one that does not end as a name is
missed at the end of the text, where it might have gone on.  Each reader blames the right place if
the readers that it calls do (`scanMembers_blames`, `scanValue_blames`), and `scan_error_place` says
what follows for documents.
-/

namespace LumpRules.Document

open Text

/-- The error points to a place of a text that starts `n` levels down: if it is about levels, right
after the first bracket that opens a level too many, and otherwise to one where the text before it
can be continued to a text of the language. -/
def ScanError.Blames (limit n : Nat) (P : List Char → Prop) (text : List Char)
    (error : ScanError) : Prop :=
  ∃ before, text = before ++ error.rest ∧
    (.fewerLevels ∈ error.expected → Overruns limit (.at n) before) ∧
    (.fewerLevels ∉ error.expected → ∃ ending, P (before ++ ending))

/-- A reader whose errors, on texts that start `n` levels down, point to the right place. -/
def Recognizer.Blames (limit n : Nat) (P : List Char → Prop) (reader : Recognizer) : Prop :=
  ∀ text error, reader text = .error error → error.Blames limit n P text

variable {α : Type} {c : Char} {text gap rest front before ending : List Char}
  {limit n m levels rounds : Nat} {P Q : List Char → Prop} {error : ScanError}
  {expected : List Expected}

namespace ScanError.Blames

/-- An error that is not about levels. -/
theorem of_ending (ending : List Char) (htext : text = before ++ rest)
    (hlevels : .fewerLevels ∉ expected) (h : P (before ++ ending)) :
  ScanError.Blames limit n P text ⟨expected, rest⟩
  := by
  use before, htext
  constructor
  · intro hmem
    contradiction
  · intro _
    use ending

/-- An error inside a part of a text points to the same place of the whole. -/
theorem prepend (h : error.Blames limit m P text) (hfront : Reaches limit (.at n) front (.at m))
    (hwhole : ∀ part, P part → ∃ tail, Q (front ++ part ++ tail)) :
  error.Blames limit n Q (front ++ text)
  := by
  obtain ⟨before, htext, hlevels, hending⟩ := h
  refine ⟨front ++ before, ?_, ?_, ?_⟩
  · rw [htext, List.append_assoc]
  · intro hmem
    apply (hlevels hmem).prepend hfront
  · intro hmem
    obtain ⟨ending, hpart⟩ := hending hmem
    obtain ⟨tail, htail⟩ := hwhole _ hpart
    use ending ++ tail
    simpa using htail

theorem within {outer : Expected} (h : error.Blames limit n P text)
    (houter : .fewerLevels ≠ outer) :
  (error.within outer).Blames limit n P text
  := by
  obtain ⟨before, htext, hlevels, hending⟩ := h
  have hmem : .fewerLevels ∈ (error.within outer).expected ↔ .fewerLevels ∈ error.expected := by
    simp [ScanError.within, houter]
  use before, htext
  rw [hmem]
  exact ⟨hlevels, hending⟩

end ScanError.Blames

/-! ### Items -/

/-- What may stand in an object or an array after its first gap. -/
def IsListed (item : α → List Char → Prop) (close : Char) (text : List Char) : Prop :=
  ∃ items, IsListing item close items text

variable {item : α → List Char → Prop} {close : Char} {a : α}

/-- Before an item there might be the closing bracket. -/
theorem blames_item (hlevels : .fewerLevels ∉ expected) :
  ScanError.Blames limit n (IsListed item close) text ⟨expected, text⟩
  := ScanError.Blames.of_ending [close] (List.nil_append text).symm hlevels ⟨[], .empty⟩

/-- After an item there might be the closing bracket. -/
theorem blames_separator (ha : item a before) (hgap : IsGap gap)
    (htext : text = before ++ gap ++ rest) (hlevels : .fewerLevels ∉ expected) :
  ScanError.Blames limit n (IsListed item close) text ⟨expected, rest⟩
  := ScanError.Blames.of_ending [close] htext hlevels ⟨[a], .last ha hgap⟩

/-- An error inside an item; the item might end, and the closing bracket follow. -/
theorem ScanError.Blames.inside (h : error.Blames limit n P text)
    (hfront : Reaches limit (.at n) front (.at n))
    (hitem : ∀ part, P part → ∃ a, item a (front ++ part)) :
  error.Blames limit n (IsListed item close) (front ++ text)
  := by
  apply h.prepend hfront
  intro part hpart
  obtain ⟨a, ha⟩ := hitem part hpart
  use [close], [a]
  simpa using IsListing.last ha isGap_nil

/-- An error after an item and a comma. -/
theorem ScanError.Blames.more {gap' : List Char} (ha : item a text)
    (hreach : Reaches limit (.at n) text (.at n)) (hgap : IsGap gap) (hgap' : IsGap gap')
    (h : error.Blames limit n (IsListed item close) rest) :
  error.Blames limit n (IsListed item close) (text ++ gap ++ ',' :: gap' ++ rest)
  := by
  have hn : n ≤ limit := hreach.le_start
  have hcomma : Reaches limit (.at n) [','] (.at n) := reaches_char (by decide) hn
  have hfront : Reaches limit (.at n) (text ++ gap ++ ',' :: gap') (.at n) := by
    simpa using ((hreach.append (hgap.reaches hn)).append hcomma).append (hgap'.reaches hn)
  apply h.prepend hfront
  rintro part ⟨items, hitems⟩
  use [], a :: items
  rw [List.append_nil]
  exact .more ha hgap hgap' hitems

section

variable {value : Recognizer}

theorem scanElements_blames (hsound : value.Sound P) (hvalue : value.Blames limit n P)
    (hreach : ∀ text, P text → Reaches limit (.at n) text (.at n)) (hn : n ≤ limit)
    (h : scanElements value rounds text = .error error) :
  error.Blames limit n (IsListed (fun element text => P element ∧ text = element) ']') text
  := by
  induction rounds generalizing text with
  | zero =>
    obtain rfl := Except.error.inj h
    apply blames_item List.not_mem_nil
  | succ rounds ih =>
    by_cases hclose : ∃ rest, text = ']' :: rest
    · obtain ⟨rest, rfl⟩ := hclose
      simp [scanElements] at h
    · rw [scanElements] at h
      · rcases bind_eq_error.mp h with herror | ⟨after, hafter, htail⟩
        · have hfront : Reaches limit (.at n) [] (.at n) := .nil hn
          apply (hvalue _ _ herror).inside hfront
          intro element helement
          exact ⟨element, helement, rfl⟩
        · obtain ⟨element, helement, rfl⟩ := hsound _ _ hafter
          obtain ⟨gap, hgap, hskip⟩ := exists_gap after
          split at htail
          · next rest hrest =>
            obtain ⟨gap', hgap', hskip'⟩ := exists_gap rest
            rw [hskip, hrest, hskip']
            simpa using (ih htail).more ⟨helement, rfl⟩ (hreach _ helement) hgap hgap'
          · simp at htail
          · obtain rfl := Except.error.inj htail
            have htext : element ++ after = element ++ gap ++ skipBlanks after := by
              rw [List.append_assoc, ← hskip]
            exact blames_separator ⟨helement, rfl⟩ hgap htext (by decide)
      · intro rest hrest
        apply hclose ⟨rest, hrest⟩

/-! ### Members -/

/-- A string that does not end could be ended. -/
theorem exists_end (h : stringBody text = none) :
  ∃ more, IsContent (text ++ more)
  := by
  fun_induction stringBody text with
  | case1 => use [], .nil
  | case2 rest => simp at h
  | case3 => use ['"'], .escape .nil
  | case4 c rest ih =>
    obtain ⟨more, hmore⟩ := ih (Option.map_eq_none_iff.mp h)
    use more, .escape hmore
  | case5 c rest hquote hlast hslash ih =>
    obtain ⟨more, hmore⟩ := ih (Option.map_eq_none_iff.mp h)
    have hc : c ≠ '\\' := by
      rintro rfl
      cases rest with
      | nil => apply hlast rfl rfl
      | cons d rest => apply hslash d rest rfl rfl
    use more, .plain hquote hc hmore

/-- A name could go on with a value and the closing bracket. -/
theorem isListed_name {name : List Char} (hP : P ['1']) (hname : IsContent name)
    (hgap : IsGap gap) :
  IsListed (IsMember P) '}' ('"' :: name ++ '"' :: gap ++ [':', '1', '}'])
  := by
  have hmember : IsMember P ⟨name, ['1']⟩ ('"' :: name ++ '"' :: gap ++ [':', '1']) :=
    ⟨hname, hP, gap, [], hgap, isGap_nil, by simp⟩
  use [⟨name, ['1']⟩]
  simpa using IsListing.last hmember isGap_nil

theorem memberName_blames (hP : P ['1']) (h : memberName text = .error error) :
  error.Blames limit n (IsListed (IsMember P) '}') text
  := by
  fun_cases memberName text with
  | case1 rest name left hbody => simp [memberName, hbody] at h
  | case2 rest hbody =>
    obtain ⟨more, hmore⟩ := exists_end hbody
    simp only [memberName, hbody, Except.error.injEq] at h
    subst h
    have hlisted := isListed_name hP hmore isGap_nil
    apply ScanError.Blames.of_ending (more ++ ['"', ':', '1', '}']) (List.append_nil _).symm
      (by decide)
    simpa using hlisted
  | case3 text hquote =>
    rw [memberName] at h
    · obtain rfl := Except.error.inj h
      apply blames_item (by decide)
    · apply hquote

theorem expectChar_error (h : expectChar c text = .error error) :
  error = ⟨[.character c], text⟩
  := by
  cases text with
  | nil => exact (Except.error.inj h).symm
  | cons d rest =>
    rw [expectChar] at h
    split at h
    · contradiction
    · exact (Except.error.inj h).symm

theorem colon_blames {name : String} {afterName : List Char} (hP : P ['1'])
    (hname : memberName text = .ok (name, afterName))
    (h : expectChar ':' (skipBlanks afterName) = .error error) :
  error.Blames limit n (IsListed (IsMember P) '}') text
  := by
  obtain ⟨content, hcontent, -, rfl⟩ := memberName_sound hname
  obtain ⟨gap, hgap, hskip⟩ := exists_gap afterName
  obtain rfl := expectChar_error h
  have htext : '"' :: content ++ '"' :: afterName =
      '"' :: content ++ '"' :: gap ++ skipBlanks afterName := by
    nth_rewrite 1 [hskip]
    simp
  exact .of_ending [':', '1', '}'] htext (by decide) (isListed_name hP hcontent hgap)

/-- What stands before the value of a member. -/
theorem exists_head {name : String} {afterName afterColon : List Char} (P : List Char → Prop)
    (hname : memberName text = .ok (name, afterName))
    (hcolon : expectChar ':' (skipBlanks afterName) = .ok afterColon) (hn : n ≤ limit) :
  ∃ content head, text = head ++ skipBlanks afterColon ∧ Reaches limit (.at n) head (.at n) ∧
    ∀ raw, P raw → IsMember P ⟨content, raw⟩ (head ++ raw)
  := by
  obtain ⟨content, hcontent, -, rfl⟩ := memberName_sound hname
  obtain ⟨gap, hgap, hskip⟩ := exists_gap afterName
  obtain ⟨gap', hgap', hskip'⟩ := exists_gap afterColon
  refine ⟨content, _, ?_, reaches_name hcontent hgap hgap' hn, ?_⟩
  · rw [expectChar_sound hcolon] at hskip
    nth_rewrite 1 [hskip]
    nth_rewrite 1 [hskip']
    simp
  · intro raw hraw
    exact ⟨hcontent, hraw, gap, gap', hgap, hgap', rfl⟩

theorem scanMembers_blames (hsound : value.Sound P) (hvalue : value.Blames limit n P) (hP : P ['1'])
    (hreach : ∀ text, P text → Reaches limit (.at n) text (.at n)) (hn : n ≤ limit)
    (h : scanMembers value rounds text = .error error) :
  error.Blames limit n (IsListed (IsMember P) '}') text
  := by
  induction rounds generalizing text with
  | zero =>
    obtain rfl := Except.error.inj h
    apply blames_item List.not_mem_nil
  | succ rounds ih =>
    by_cases hclose : ∃ rest, text = '}' :: rest
    · obtain ⟨rest, rfl⟩ := hclose
      simp [scanMembers] at h
    · rw [scanMembers] at h
      · rcases bind_eq_error.mp h with herror | ⟨⟨name, afterName⟩, hname, htail⟩
        · apply memberName_blames hP herror
        rcases bind_eq_error.mp htail with herror | ⟨afterColon, hcolon, htail⟩
        · apply colon_blames hP hname herror
        -- the name and the colon are in place: whatever value follows makes a member
        obtain ⟨content, head, rfl, hhead, hmember⟩ := exists_head P hname hcolon hn
        rcases bind_eq_error.mp htail with herror | ⟨after, hafter, htail⟩
        · apply (hvalue _ _ herror).inside hhead
          intro raw hraw
          exact ⟨⟨content, raw⟩, hmember raw hraw⟩
        · obtain ⟨raw, hraw, hstart⟩ := hsound _ _ hafter
          obtain ⟨gap, hgap, hskip⟩ := exists_gap after
          rw [hstart]
          split at htail
          · next rest hrest =>
            obtain ⟨gap', hgap', hskip'⟩ := exists_gap rest
            rcases bind_eq_error.mp htail with herror | ⟨_, _, hok⟩
            · rw [hskip, hrest, hskip']
              simpa using (ih herror).more (hmember raw hraw) (hhead.append (hreach raw hraw))
                hgap hgap'
            · simp at hok
          · simp at htail
          · obtain rfl := Except.error.inj htail
            have htext : head ++ (raw ++ after) = head ++ raw ++ gap ++ skipBlanks after := by
              rw [List.append_assoc, List.append_assoc, ← hskip]
            exact blames_separator (hmember raw hraw) hgap htext (by decide)
      · intro rest hrest
        apply hclose ⟨rest, hrest⟩

end

/-! ### Values -/

/-- A value other than an object or an array is missed at its start. -/
theorem scanValue_flat_error (h : scanValue rounds levels text = .error error)
    (hobject : ∀ rest, text ≠ '{' :: rest) (harray : ∀ rest, text ≠ '[' :: rest) :
  error = ⟨[.value], text⟩
  := by
  rw [scanValue.eq_def] at h
  split at h
  · next rest => apply (hobject rest rfl).elim
  · next rest => apply (harray rest rfl).elim
  · next rest =>
    cases hbody : stringBody rest with
    | none =>
      simp only [hbody] at h
      exact (Except.error.inj h).symm
    | some found => simp [hbody] at h
  · split at h
    · exact (Except.error.inj h).symm
    · simp at h

theorem isValue_one :
  IsValue levels ['1']
  := isValue_scalar ⟨by simp, List.all_eq_true.mp rfl⟩

/-- What is left to show are the errors of objects and arrays. -/
theorem scanValue_blames_of
    (hobject : ∀ rest error, scanValue rounds levels ('{' :: rest) = .error error →
      error.Blames limit n (IsValue levels) ('{' :: rest))
    (harray : ∀ rest error, scanValue rounds levels ('[' :: rest) = .error error →
      error.Blames limit n (IsValue levels) ('[' :: rest)) :
  Recognizer.Blames limit n (IsValue levels) (scanValue rounds levels)
  := by
  intro text error h
  by_cases hbrace : ∃ rest, text = '{' :: rest
  · obtain ⟨rest, rfl⟩ := hbrace
    apply hobject rest error h
  by_cases hbracket : ∃ rest, text = '[' :: rest
  · obtain ⟨rest, rfl⟩ := hbracket
    apply harray rest error h
  obtain rfl := scanValue_flat_error h (fun rest hrest => hbrace ⟨rest, hrest⟩)
    (fun rest hrest => hbracket ⟨rest, hrest⟩)
  exact .of_ending ['1'] (List.nil_append text).symm (by decide) isValue_one

/-- With no level left, a bracket opens a level too many. -/
theorem blames_opener (h : isOpener c = true) :
  ScanError.Blames limit limit P (c :: rest) ⟨[.fewerLevels, .value], rest⟩
  := by
  use [c], rfl
  constructor
  · intro _
    exact ⟨[], c, rfl, h, .nil (le_refl limit)⟩
  · intro hlevels
    simp at hlevels

/-- An error inside of brackets. -/
theorem ScanError.Blames.enclosed {first : Char} (hfirst : isOpener first = true) (hn : n < limit)
    (h : error.Blames limit (n + 1) (IsListed item close) (skipBlanks rest))
    (hvalue : ∀ items text, IsEnclosed first close item items text → P text) :
  error.Blames limit n P (first :: rest)
  := by
  obtain ⟨gap, hgap, hskip⟩ := exists_gap rest
  rw [hskip]
  apply h.prepend ((reaches_opener hfirst hn).append (hgap.reaches hn))
  rintro part ⟨items, hitems⟩
  use []
  rw [List.append_nil]
  exact hvalue items _ ⟨gap, part, hgap, hitems, rfl⟩

/-- The errors of values point to the right place, if as many levels are left as the limit says. -/
theorem scanValue_blames (rounds : Nat) (hn : n + levels = limit) :
  Recognizer.Blames limit n (IsValue levels) (scanValue rounds levels)
  := by
  induction levels generalizing n with
  | zero =>
    obtain rfl : n = limit := hn
    apply scanValue_blames_of
    · intro rest error h
      obtain rfl := Except.error.inj h
      apply blames_opener rfl
    · intro rest error h
      obtain rfl := Except.error.inj h
      apply blames_opener rfl
  | succ levels ih =>
    have hvalue := ih (n := n + 1) (by omega)
    have hsound := scanValue_sound rounds levels
    have hreach : ∀ text, IsValue levels text →
        Reaches limit (.at (n + 1)) text (.at (n + 1)) := by
      intro text htext
      apply htext.reaches (by omega)
    apply scanValue_blames_of
    · intro rest error h
      rw [scanValue] at h
      split at h
      · simp at h
      · next inner hinner =>
        obtain rfl := Except.error.inj h
        have hblame := scanMembers_blames hsound hvalue isValue_one hreach (by omega) hinner
        apply (hblame.within (by decide)).enclosed rfl (by omega)
        intro members text hmembers
        exact .inr (.inr (.inl ⟨members, hmembers⟩))
    · intro rest error h
      rw [scanValue] at h
      split at h
      · simp at h
      · next inner hinner =>
        obtain rfl := Except.error.inj h
        have hblame := scanElements_blames hsound hvalue hreach (by omega) hinner
        apply (hblame.within (by decide)).enclosed rfl (by omega)
        intro elements text helements
        exact .inr (.inr (.inr ⟨elements, helements⟩))

/-! ### Documents -/

/-- An error among the members of a document. -/
theorem members_blames (hgap : IsGap gap)
    (h : scanMembers (scanValue rounds 127) rounds (skipBlanks rest) = .error error) :
  error.Blames maxLevels 0 IsDocument (gap ++ '{' :: rest)
  := by
  have hreach : ∀ text, IsValue 127 text → Reaches maxLevels (.at 1) text (.at 1) := by
    intro text htext
    apply htext.reaches (le_refl 128)
  have hblame := scanMembers_blames (scanValue_sound rounds 127) (scanValue_blames (n := 1) _ rfl)
    isValue_one hreach (by decide) h
  have hbrace : isOpener '{' = true := rfl
  have hobject := hblame.enclosed hbrace (by decide)
    (P := fun text => ∃ members, IsObject (IsValue 127) members text)
    fun members _ hobject => ⟨members, hobject⟩
  apply hobject.prepend (hgap.reaches (by decide))
  rintro object ⟨members, hobject⟩
  use []
  exact .inr ⟨gap, members, object, [], hgap, hobject, isGap_nil, rfl⟩

theorem scanDocument_blames (h : scanDocument text = .error error) :
  error.Blames maxLevels 0 IsDocument text
  := by
  obtain ⟨gap, hgap, hskip⟩ := exists_gap text
  simp only [scanDocument] at h
  split at h
  · simp at h
  · rcases bind_eq_error.mp h with herror | ⟨inside, hinside, htail⟩
    · obtain rfl := expectChar_error herror
      apply ScanError.Blames.of_ending [] hskip (by decide)
      rw [List.append_nil]
      exact .inl hgap
    rw [expectChar_sound hinside] at hskip
    rcases bind_eq_error.mp htail with herror | ⟨⟨members, left⟩, hmembers, htail⟩
    · rw [hskip]
      apply members_blames hgap herror
    obtain ⟨written, used, hused, -, hrest⟩ := scanMembers_sound (scanValue_sound _ _) hmembers
    obtain ⟨gap', hgap', hskip'⟩ := exists_gap inside
    obtain ⟨after, hafter, hleft⟩ := exists_gap left
    split at htail
    · simp at htail
    · obtain rfl := Except.error.inj htail
      have hobject : IsObject (IsValue 127) written ('{' :: gap' ++ used) :=
        ⟨gap', used, hgap', hused, rfl⟩
      have htext : text = gap ++ ('{' :: gap' ++ used) ++ after ++ skipBlanks left := by
        rw [List.append_assoc, ← hleft, hskip, hskip', hrest]
        simp
      apply ScanError.Blames.of_ending [] htext (by decide)
      exact .inr ⟨gap, written, _, after, hgap, hobject, hafter, by simp⟩

/-- The bytes of the text before a place end on the boundary of a character. -/
theorem isValid_byteCount {text : String} (h : text.toList = before ++ rest) :
  String.Pos.Raw.IsValid text ⟨byteCount before⟩
  := by
  rw [String.Pos.Raw.isValid_iff_exists_append]
  use String.ofList before, String.ofList rest
  constructor
  · rw [← String.ofList_append, ← h, String.ofList_toList]
  · rfl

/-- The line and column of an error are those of a place between two characters of the text.  If
the error is about levels, this is right after the first bracket that opens more than `maxLevels` of
them; otherwise the text before it is the beginning of a text that is accepted. -/
theorem scan_error_place {text : String} {problem : ParseError} (h : scan text = .error problem) :
  ∃ error before, scanDocument text.toList = .error error ∧
    text.toList = before ++ error.rest ∧
    problem = ⟨error.expected, .between before error.rest⟩ ∧
    byteCount before ≤ text.utf8ByteSize ∧
    String.Pos.Raw.IsValid text ⟨byteCount before⟩ ∧
    (.fewerLevels ∈ problem.expected → Overruns maxLevels {} before) ∧
    (.fewerLevels ∉ problem.expected →
      ∃ ending, (scan (String.ofList (before ++ ending))).isOk = true)
  := by
  rw [scan] at h
  split at h
  · contradiction
  · next error herror =>
    obtain rfl := Except.error.inj h
    obtain ⟨before, htext, hlevels, hending⟩ := scanDocument_blames herror
    have hvalid := isValid_byteCount htext
    refine ⟨error, before, herror, htext, ?_, hvalid.le_rawEndPos, hvalid, hlevels, ?_⟩
    · rw [ScanError.toParseError, htext, List.length_append, Nat.add_sub_cancel, List.take_left]
    · intro hmem
      obtain ⟨ending, hdocument⟩ := hending hmem
      use ending
      rw [scan_isOk_iff, String.toList_ofList]
      exact hdocument

/-- A string that does not end is missed at its start, where the array might have been closed. -/
theorem scan_error_place_string :
  scan "\x7b\"é\": [\"x" = .error ⟨[.value, .value], ⟨1, 9⟩⟩ ∧
    ∃ ending, (scan (String.ofList ("\x7b\"é\": [".toList ++ ending))).isOk = true
  := by
  have hscan : scan "\x7b\"é\": [\"x" = .error ⟨[.value, .value], ⟨1, 9⟩⟩ := rfl
  obtain ⟨error, before, herror, hbefore, -, -, -, -, hending⟩ := scan_error_place hscan
  obtain rfl : ⟨[.value, .value], ['"', 'x']⟩ = error := Except.error.inj herror
  obtain rfl : "\x7b\"é\": [".toList = before := List.append_cancel_right hbefore
  exact ⟨hscan, hending (by decide)⟩

end LumpRules.Document
