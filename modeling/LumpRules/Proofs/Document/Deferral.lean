import LumpRules.Document.Position
import LumpRules.Proofs.Document.Quotes
import LumpRules.Proofs.Document.TrailingCommas

/-!
# Which commas are dropped

A trailing comma is told by what stands around it: it lies outside strings, and the next character
that is no white space closes something (`isTrailingComma`).  `stripCommas` holds a comma back until
this is known.  One can also write it out at once and remember where: a `Sweep` keeps the output,
and the place in it, counted in bytes, of a comma that may still turn out to be trailing, and takes
that comma out of the output when the next closing bracket shows that it is.

`withoutTrailingCommas_exact` says that both leave the characters that are no trailing commas, in
order, and that the place remembered is always that of the comma which turns out to be trailing.
-/

namespace LumpRules.Document

open Text

variable {c : Char} {text rest front gap before after : List Char} {state : QuoteState}

/-! ### Trailing commas -/

/-- Whether the next character that is no white space closes something. -/
def closesNext (text : List Char) : Bool :=
  (skipBlanks text).head?.any isCloser

/-- Whether the character of an index is a trailing comma. -/
def isTrailingComma (text : List Char) (index : Nat) : Bool :=
  text[index]? == some ',' && QuoteState.outside.after (text.take index) == .outside &&
    closesNext (text.drop (index + 1))

theorem closesNext_gap (h : IsGap gap) :
  closesNext gap = false
  := by
  rw [closesNext, skipBlanks_eq_nil.mpr h]
  rfl

/-- The first character that is no white space decides. -/
theorem closesNext_append (h : IsGap gap) (hc : isBlank c = false) :
  closesNext (gap ++ c :: rest) = isCloser c
  := by
  rw [closesNext, skipBlanks_append h, skipBlanks_cons hc]
  rfl

/-- What comes after a text matters only if it closes something and the text is white space. -/
theorem closesNext_append_eq (h : IsGap text → closesNext rest = false) :
  closesNext (text ++ rest) = closesNext text
  := by
  rcases exists_gap_or text with hgap | ⟨gap, c, more, hgap, hc, rfl⟩
  · rw [closesNext, skipBlanks_append hgap, ← closesNext, h hgap, closesNext_gap hgap]
  · rw [List.append_assoc, List.cons_append, closesNext_append hgap hc, closesNext_append hgap hc]

/-! ### The stripper character by character -/

/-- Where the stripper stands when it holds no comma back. -/
def QuoteState.commaState : QuoteState → CommaState
  | .outside => .plain
  | .inside => .quoted
  | .shielded => .quotedShielded

/-- A character is kept unless it is a trailing comma. -/
theorem stripCommas_cons (state : QuoteState) (c : Char) (rest : List Char) :
  stripCommas state.commaState (c :: rest) =
    (if state = .outside ∧ c = ',' ∧ closesNext rest = true then [] else [c]) ++
      stripCommas (state.step c).commaState rest
  := by
  cases state with
  | shielded => rfl
  | inside =>
    simp only [QuoteState.commaState, QuoteState.step, stripCommas, beq_iff_eq, reduceCtorEq,
      false_and, if_false, List.cons_append, List.nil_append]
    split
    · rfl
    · split <;> rfl
  | outside =>
    by_cases hcomma : c = ','
    · subst hcomma
      rw [QuoteState.step_outside (by decide)]
      simp only [QuoteState.commaState, true_and]
      rcases exists_gap_or rest with hgap | ⟨gap, d, more, hgap, hd, rfl⟩
      · rw [stripCommas_comma_end hgap, closesNext_gap hgap, if_neg Bool.false_ne_true,
          (strips_gap hgap).eq]
        rfl
      · rw [stripCommas_comma hgap hd, closesNext_append hgap hd]
    · by_cases hquote : c = '"'
      · subst hquote
        rfl
      · rw [QuoteState.step_outside hquote, if_neg (by simp [hcomma])]
        apply stripCommas_plain hquote hcomma

theorem isTrailingComma_iff :
  isTrailingComma (before ++ c :: rest) before.length = true ↔
    QuoteState.outside.after before = .outside ∧ c = ',' ∧ closesNext rest = true
  := by
  have hrest : (before ++ c :: rest).drop (before.length + 1) = rest := by
    rw [List.drop_append, List.drop_eq_nil_of_le (Nat.le_succ before.length)]
    simp
  rw [isTrailingComma, hrest, List.getElem?_append_right (Nat.le_refl _), Nat.sub_self,
    List.getElem?_cons_zero, List.take_left]
  simp only [Bool.and_eq_true, beq_iff_eq, Option.some.injEq]
  rw [and_assoc, and_left_comm]

/-- Of a text from some place on, the characters stay that are no trailing commas of the whole. -/
theorem stripCommas_from (before after : List Char) :
  stripCommas (QuoteState.outside.after before).commaState after =
    ((after.zipIdx before.length).filter fun entry =>
      !isTrailingComma (before ++ after) entry.2).map Prod.fst
  := by
  induction after generalizing before with
  | nil => cases QuoteState.outside.after before <;> rfl
  | cons c rest ih =>
    have hrest := ih (before ++ [c])
    rw [QuoteState.after_append, QuoteState.after_cons, QuoteState.after_nil, List.length_append,
      List.length_singleton, List.append_assoc, List.singleton_append] at hrest
    rw [stripCommas_cons, hrest, List.zipIdx_cons, List.filter_cons]
    by_cases h : isTrailingComma (before ++ c :: rest) before.length = true
    · rw [if_pos (isTrailingComma_iff.mp h), if_neg (by simp [h])]
      rfl
    · rw [if_neg (mt isTrailingComma_iff.mpr h), if_pos (by simp [h])]
      rfl

/-- A first part of a text is stripped by itself, unless what comes after it decides on its last
comma. -/
theorem stripCommas_append
    (h : ∀ front gap, before = front ++ ',' :: gap → IsGap gap → state.after front = .outside →
      closesNext after = false) :
  stripCommas state.commaState (before ++ after) =
    stripCommas state.commaState before ++ stripCommas (state.after before).commaState after
  := by
  induction before generalizing state with
  | nil => cases state <;> rfl
  | cons c before ih =>
    have hbefore : ∀ front gap, before = front ++ ',' :: gap → IsGap gap →
        (state.step c).after front = .outside → closesNext after = false := by
      rintro front gap rfl hgap hfront
      apply h (c :: front) gap rfl hgap hfront
    have hnext : state = .outside → c = ',' →
        closesNext (before ++ after) = closesNext before := by
      rintro rfl rfl
      apply closesNext_append_eq
      intro hgap
      apply h [] before rfl hgap rfl
    rw [List.cons_append, stripCommas_cons, stripCommas_cons, ih hbefore, QuoteState.after_cons,
      List.append_assoc]
    by_cases hcomma : state = .outside ∧ c = ','
    · rw [hnext hcomma.1 hcomma.2]
    · have hkept : ∀ p : Prop, ¬ (state = .outside ∧ c = ',' ∧ p) :=
        fun _ hp => hcomma ⟨hp.1, hp.2.1⟩
      rw [if_neg (hkept _), if_neg (hkept _)]

/-! ### Places in a text, counted in bytes -/

theorem byteCount_cons (c : Char) (text : List Char) :
  byteCount (c :: text) = c.utf8Size + byteCount text
  := by
  rw [byteCount, byteCount, String.ofList_cons, String.utf8ByteSize_append,
    String.utf8ByteSize_singleton]

/-- The character that starts at a place, and the text without it, if a character starts there. -/
def takeAt? : Nat → List Char → Option (Char × List Char)
  | _, [] => none
  | 0, c :: rest => some (c, rest)
  | place, c :: rest =>
    if place < c.utf8Size then none
    else (takeAt? (place - c.utf8Size) rest).map fun (found, left) => (found, c :: left)

/-- After a first part of a text the next character starts. -/
theorem takeAt?_byteCount (front : List Char) (c : Char) (rest : List Char) :
  takeAt? (byteCount front) (front ++ c :: rest) = some (c, front ++ rest)
  := by
  induction front with
  | nil => rfl
  | cons d front ih =>
    have hsize := d.utf8Size_pos
    rw [byteCount_cons, List.cons_append, takeAt?, if_neg (by omega), Nat.add_sub_cancel_left, ih]
    · rfl
    · omega

/-! ### Commas taken out afterwards -/

/-- What is kept while a text is gone through: the output so far, where it ends among strings, and
the place in it of a comma that may still turn out to be trailing. -/
structure Sweep where
  written : List Char := []
  quotes : QuoteState := .outside
  pending : Option Nat := none
  deriving DecidableEq, Repr

namespace Sweep

/-- One more character in the output. -/
def write (sweep : Sweep) (c : Char) : Sweep :=
  { sweep with written := sweep.written ++ [c], quotes := sweep.quotes.step c }

/-- The sweep after one more character, or nothing if no character starts at the place of the comma
that is to be taken out. -/
def step? (sweep : Sweep) (c : Char) : Option Sweep :=
  if sweep.quotes ≠ .outside then some (sweep.write c)
  else if c = ',' then some { sweep.write c with pending := some (byteCount sweep.written) }
  else if isCloser c then
    match sweep.pending with
    | none => some (sweep.write c)
    | some place =>
      (takeAt? place sweep.written).map fun (_, left) =>
        { ({ sweep with written := left }).write c with pending := none }
  else if isBlank c then some (sweep.write c)
  else some { sweep.write c with pending := none }

end Sweep

/-- The sweep after a text. -/
def sweep? (text : List Char) : Option Sweep :=
  text.foldlM Sweep.step? {}

theorem sweep?_concat (text : List Char) (c : Char) :
  sweep? (text ++ [c]) = (sweep? text).bind (·.step? c)
  := by
  simp [sweep?, List.foldlM_append]

/-- The text ends in a comma outside strings and white space, and the comma has a place in the
output. -/
def EndsInComma (text : List Char) (place : Nat) : Prop :=
  ∃ front gap, text = front ++ ',' :: gap ∧ IsGap gap ∧
    QuoteState.outside.after front = .outside ∧ place = byteCount (stripCommas .plain front)

variable {place : Nat}

theorem EndsInComma.after_eq (h : EndsInComma text place) :
  QuoteState.outside.after text = .outside
  := by
  obtain ⟨front, gap, rfl, hgap, hfront, -⟩ := h
  rw [QuoteState.after_append, hfront]
  exact (Unquoted.char (by decide) hgap.unquoted).after_eq

/-- After one more character a text ends in that comma or, if it is white space, in the comma in
which it ended before. -/
theorem endsInComma_concat :
  EndsInComma (text ++ [c]) place ↔
    (c = ',' ∧ QuoteState.outside.after text = .outside ∧
      place = byteCount (stripCommas .plain text)) ∨
    isBlank c = true ∧ EndsInComma text place
  := by
  constructor
  · rintro ⟨front, gap, htext, hgap, hfront, hplace⟩
    cases gap using List.reverseRecOn with
    | nil =>
      obtain ⟨rfl, hc⟩ := List.append_inj' htext rfl
      obtain rfl := (List.cons.inj hc).1
      exact .inl ⟨rfl, hfront, hplace⟩
    | append_singleton gap d =>
      rw [← List.cons_append, ← List.append_assoc] at htext
      obtain ⟨rfl, hc⟩ := List.append_inj' htext rfl
      obtain rfl := (List.cons.inj hc).1
      have hblank := List.forall_mem_append.mp hgap
      exact .inr ⟨hblank.2 c (List.mem_cons_self ..), front, gap, rfl, hblank.1, hfront, hplace⟩
  · rintro (⟨rfl, htext, hplace⟩ | ⟨hc, front, gap, rfl, hgap, hfront, hplace⟩)
    · exact ⟨text, [], rfl, isGap_nil, htext, hplace⟩
    · refine ⟨front, gap ++ [c], by simp, ?_, hfront, hplace⟩
      apply hgap.append
      intro d hd
      rwa [List.mem_singleton.mp hd]

theorem closesNext_singleton (h : isCloser c = false) :
  closesNext [c] = false
  := by
  cases hc : isBlank c with
  | true => exact closesNext_gap fun d hd => by rwa [List.mem_singleton.mp hd]
  | false => rw [← h, ← closesNext_append isGap_nil hc, List.nil_append]

/-- The last character is added to what is left, unless it closes something after a comma. -/
theorem stripCommas_concat (h : ∀ place, EndsInComma text place → isCloser c = false) :
  stripCommas .plain (text ++ [c]) = stripCommas .plain text ++ [c]
  := by
  have hlast : ∀ state : QuoteState, stripCommas state.commaState [c] = [c] := by
    intro state
    rw [stripCommas_cons, closesNext_gap isGap_nil, if_neg (by simp)]
    cases state.step c <;> rfl
  have happend := @stripCommas_append text [c] .outside
  rw [hlast] at happend
  apply happend
  intro front gap htext hgap hfront
  apply closesNext_singleton
  apply h _ ⟨front, gap, htext, hgap, hfront, rfl⟩

/-- What is left of a text that ends in a comma, and of the text with a closing bracket after it. -/
theorem stripCommas_ends (hfront : QuoteState.outside.after front = .outside) (hgap : IsGap gap)
    (hc : isCloser c = true) :
  stripCommas .plain (front ++ ',' :: gap) = stripCommas .plain front ++ ',' :: gap ∧
    stripCommas .plain (front ++ ',' :: gap ++ [c]) = stripCommas .plain front ++ gap ++ [c]
  := by
  have hblank := isBlank_of_isCloser hc
  have happend : ∀ rest, stripCommas .plain (front ++ ',' :: rest) =
      stripCommas .plain front ++ stripCommas .plain (',' :: rest) := by
    intro rest
    have hwhole := @stripCommas_append front (',' :: rest) .outside
    rw [hfront] at hwhole
    apply hwhole
    intro _ _ _ _ _
    apply closesNext_append isGap_nil (by decide)
  constructor
  · rw [happend, stripCommas_comma_end hgap]
  · rw [List.append_assoc, List.cons_append, happend, stripCommas_comma hgap hblank, if_pos hc,
      List.nil_append, stripCommas_gap hgap, (strips_closer hc).eq, List.append_assoc]

/-- The sweep has gone through the text: it has written what is left of it, and a comma is pending
exactly if the text ends in one. -/
structure Sweep.Follows (sweep : Sweep) (text : List Char) : Prop where
  written : sweep.written = stripCommas .plain text
  quotes : sweep.quotes = QuoteState.outside.after text
  pending : ∀ place, sweep.pending = some place ↔ EndsInComma text place

namespace Sweep.Follows

variable {sweep : Sweep}

/-- The pending comma is found at its place. -/
theorem exists_comma (h : sweep.Follows text) (hpending : sweep.pending = some place) :
  ∃ front gap, text = front ++ ',' :: gap ∧ IsGap gap ∧
    QuoteState.outside.after front = .outside ∧
    takeAt? place sweep.written = some (',', stripCommas .plain front ++ gap)
  := by
  obtain ⟨front, gap, rfl, hgap, hfront, rfl⟩ := (h.pending place).mp hpending
  refine ⟨front, gap, rfl, hgap, hfront, ?_⟩
  have hwritten := (@stripCommas_ends '}' front gap hfront hgap (by decide)).1
  rw [h.written, hwritten, takeAt?_byteCount]

/-- One more character in the output, if what is left so far is kept. -/
theorem write {pending : Option Nat} (h : sweep.Follows text)
    (hkept : ∀ place, EndsInComma text place → isCloser c = false)
    (hpending : ∀ place, pending = some place ↔ EndsInComma (text ++ [c]) place) :
  Follows { sweep.write c with pending } (text ++ [c])
  where
  written := by
    rw [stripCommas_concat hkept, ← h.written]
    rfl
  quotes := by
    rw [QuoteState.after_append, ← h.quotes]
    rfl
  pending := hpending

/-- The character that closes something takes the pending comma out of the output. -/
theorem step_closer (h : sweep.Follows text) (hquotes : sweep.quotes = .outside)
    (hc : isCloser c = true) :
  ∃ next, sweep.step? c = some next ∧ next.Follows (text ++ [c])
  := by
  have hcomma : c ≠ ',' := by
    rintro rfl
    contradiction
  have hstep : sweep.step? c = _ := if_neg (not_not.mpr hquotes)
  rw [if_neg hcomma, if_pos hc] at hstep
  have hends : ∀ place, ¬ EndsInComma (text ++ [c]) place := by
    intro place
    rw [endsInComma_concat]
    simp [hcomma, isBlank_of_isCloser hc]
  cases hpending : sweep.pending with
  | none =>
    rw [hpending] at hstep
    have hnone : ∀ place, ¬ EndsInComma text place := by
      intro place
      rw [← h.pending, hpending]
      simp
    refine ⟨_, hstep, ?_⟩
    apply h.write
    · intro place hplace
      apply (hnone place hplace).elim
    · intro place
      simp [hends, hpending]
  | some place =>
    obtain ⟨front, gap, rfl, hgap, hfront, htake⟩ := h.exists_comma hpending
    rw [hpending] at hstep
    simp only [htake, Option.map_some] at hstep
    refine ⟨_, hstep, ?_⟩
    constructor
    case written => exact (stripCommas_ends hfront hgap hc).2.symm
    case quotes =>
      rw [QuoteState.after_append, ← h.quotes]
      rfl
    case pending => exact fun place => ⟨nofun, fun hplace => (hends place hplace).elim⟩

/-- A step never fails, and goes on with the text by one character. -/
theorem step (h : sweep.Follows text) (c : Char) :
  ∃ next, sweep.step? c = some next ∧ next.Follows (text ++ [c])
  := by
  by_cases hquotes : sweep.quotes = .outside
  case neg =>
    -- inside a string nothing is pending
    have houtside : QuoteState.outside.after text ≠ .outside := h.quotes ▸ hquotes
    have hends : ∀ place, ¬ EndsInComma text place := fun _ hends => houtside hends.after_eq
    refine ⟨_, if_pos hquotes, ?_⟩
    apply h.write
    · intro place hplace
      apply (hends place hplace).elim
    · intro place
      rw [endsInComma_concat]
      simp [hends, houtside, h.pending]
  by_cases hcloser : isCloser c = true
  · apply h.step_closer hquotes hcloser
  have hkept : ∀ place, EndsInComma text place → isCloser c = false :=
    fun _ _ => Bool.of_not_eq_true hcloser
  have hstep : sweep.step? c = _ := if_neg (not_not.mpr hquotes)
  by_cases hcomma : c = ','
  · subst hcomma
    refine ⟨_, hstep, ?_⟩
    apply h.write hkept
    intro place
    have hblank : isBlank ',' = false := by decide
    rw [endsInComma_concat, ← h.quotes, ← h.written]
    simp [hquotes, hblank, eq_comm]
  rw [if_neg hcomma, if_neg hcloser] at hstep
  by_cases hblank : isBlank c = true
  · rw [if_pos hblank] at hstep
    refine ⟨_, hstep, ?_⟩
    apply h.write hkept
    intro place
    rw [endsInComma_concat]
    simp [hcomma, hblank, h.pending]
  · rw [if_neg hblank] at hstep
    refine ⟨_, hstep, ?_⟩
    apply h.write hkept
    intro place
    rw [endsInComma_concat]
    simp [hcomma, hblank]

end Sweep.Follows

/-- The sweep gets through every text. -/
theorem exists_sweep (text : List Char) :
  ∃ sweep, sweep? text = some sweep ∧ sweep.Follows text
  := by
  induction text using List.reverseRecOn with
  | nil =>
    refine ⟨{}, rfl, ?_⟩
    constructor
    case written => rfl
    case quotes => rfl
    case pending =>
      rintro place
      simp [EndsInComma]
  | append_singleton text c ih =>
    obtain ⟨sweep, hsweep, hfollows⟩ := ih
    obtain ⟨next, hnext, hfollows⟩ := hfollows.step c
    refine ⟨next, ?_, hfollows⟩
    rw [sweep?_concat, hsweep, Option.bind_some, hnext]

/-- A document without its trailing commas has the characters that are no trailing commas, in order.
The sweep gets through the document and leaves the same; and whenever it takes out the pending
comma, at a closing bracket outside strings, what starts at the place remembered is a comma, and it
is the one that was written for a trailing comma of the document, with only white space after it. -/
theorem withoutTrailingCommas_exact (text : String) :
  (withoutTrailingCommas text).toList =
    (text.toList.zipIdx.filter fun entry => !isTrailingComma text.toList entry.2).map Prod.fst ∧
  (∃ sweep, sweep? text.toList = some sweep ∧
    sweep.written = (withoutTrailingCommas text).toList) ∧
  ∀ before c after sweep place, text.toList = before ++ c :: after → sweep? before = some sweep →
    sweep.quotes = .outside → isCloser c = true → sweep.pending = some place →
    ∃ front gap, before = front ++ ',' :: gap ∧ IsGap gap ∧
      isTrailingComma text.toList front.length = true ∧
      takeAt? place sweep.written = some (',', stripCommas .plain front ++ gap)
  := by
  rw [withoutTrailingCommas, String.toList_ofList]
  refine ⟨stripCommas_from [] text.toList, ?_, ?_⟩
  · obtain ⟨sweep, hsweep, hfollows⟩ := exists_sweep text.toList
    exact ⟨sweep, hsweep, hfollows.written⟩
  · intro before c after sweep place htext hsweep hquotes hcloser hpending
    obtain ⟨sweep', hsweep', hfollows⟩ := exists_sweep before
    obtain rfl := Option.some.inj (hsweep.symm.trans hsweep')
    obtain ⟨front, gap, rfl, hgap, hfront, htake⟩ := hfollows.exists_comma hpending
    refine ⟨front, gap, rfl, hgap, ?_, htake⟩
    rw [htext, List.append_assoc, List.cons_append]
    apply isTrailingComma_iff.mpr ⟨hfront, rfl, ?_⟩
    rw [closesNext_append hgap (isBlank_of_isCloser hcloser), hcloser]

end LumpRules.Document
