import LumpRules.Proofs.Document.Capture
import LumpRules.Proofs.Json.Leaves
import LumpRules.Proofs.Rule.Fragments
import Mathlib.Data.List.MinMax

/-!
# Names of sections as JSON reads them

There are two readers of strings.  The scanner takes the content of a member's name for what
`decoded` makes of it, and `IsLiteral` says what the same content denotes in JSON.  The scanner
knows six of the escapes; the others (`\b`, `\f` and four digits of base sixteen after `\u`) it
keeps as they are written, which makes the name longer (`IsLiteral.decodes`).  So the texts of a
document are filed under the names that its members denote if and only if no object or array has
one of the other escapes in its name, and all spellings with the six known ones describe the same
rules (`scan_files_iff`).
-/

namespace LumpRules.Document

open Text Json

variable {c : Char} {body name rest : List Char} {written written' : List MemberText}
  {text text' : String}

/-! ### The two readers of strings -/

/-- Whether the scanner decodes the escape with the given letter. -/
def isKnownEscape (c : Char) : Bool :=
  c ∈ ['"', '\\', '/', 'n', 't', 'r']

/-- Whether the scanner decodes every escape in the content of a string. -/
def hasKnownEscapes : List Char → Bool
  | [] => true
  | '\\' :: c :: rest => isKnownEscape c && hasKnownEscapes rest
  | _ :: rest => hasKnownEscapes rest

theorem hasKnownEscapes_cons (h : c ≠ '\\') :
  hasKnownEscapes (c :: rest) = hasKnownEscapes rest
  := by
  rw [hasKnownEscapes]
  intro _ _ hc
  apply (h hc).elim

/-- The scanner makes of the content of a string the given name if it knows the escapes, and
something longer otherwise. -/
structure Decodes (body name : List Char) : Prop where
  known : hasKnownEscapes body = true → decoded body = name
  unknown : hasKnownEscapes body = false → name.length < (decoded body).length

theorem Decodes.length_le (h : Decodes body name) :
  name.length ≤ (decoded body).length
  := by
  cases hknown : hasKnownEscapes body with
  | true => rw [h.known hknown]
  | false => apply Nat.le_of_lt (h.unknown hknown)

theorem Decodes.plain (h : Decodes body name) (hc : c ≠ '\\') :
  Decodes (c :: body) (c :: name)
  where
  known hknown := by
    rw [hasKnownEscapes_cons hc] at hknown
    rw [decoded_cons hc, h.known hknown]
  unknown hunknown := by
    rw [hasKnownEscapes_cons hc] at hunknown
    rw [decoded_cons hc]
    simpa using h.unknown hunknown

/-- An escape that is decoded to the character that it denotes. -/
theorem Decodes.escape {e : Char} (h : Decodes body name) (he : isKnownEscape e = true)
    (hc : unescape e = [c]) :
  Decodes ('\\' :: e :: body) (c :: name)
  where
  known hknown := by
    rw [hasKnownEscapes, he, Bool.true_and] at hknown
    rw [decoded, hc, h.known hknown]
    rfl
  unknown hunknown := by
    rw [hasKnownEscapes, he, Bool.true_and] at hunknown
    rw [decoded, hc]
    simpa using h.unknown hunknown

/-- An escape that is kept as it is written, before a text that becomes long enough. -/
theorem decodes_kept {e : Char} (he : isKnownEscape e = false) (hkept : unescape e = ['\\', e])
    (hle : name.length ≤ (decoded rest).length) :
  Decodes ('\\' :: e :: rest) (c :: name)
  where
  known hknown := by
    rw [hasKnownEscapes, he, Bool.false_and] at hknown
    contradiction
  unknown _ := by
    rw [decoded, hkept]
    simp only [List.length_append, List.length_cons, List.length_nil]
    omega

/-- The escapes of one letter: six are decoded, the others are kept. -/
theorem unescape_of_simpleEscape? {e : Char} (h : simpleEscape? e = some c) :
  (isKnownEscape e = true ∧ unescape e = [c]) ∨
    isKnownEscape e = false ∧ unescape e = ['\\', e]
  := by
  unfold simpleEscape? at h
  split at h
  case h_9 => contradiction
  all_goals
    obtain rfl := Option.some.inj h
    simp [isKnownEscape, unescape]

/-- The scanner takes digits of base sixteen for themselves. -/
theorem length_decoded_hexUnit {d₁ d₂ d₃ d₄ : Char} {unit : Nat}
    (h : hexUnit? d₁ d₂ d₃ d₄ = some unit) :
  (decoded rest).length ≤ (decoded (d₁ :: d₂ :: d₃ :: d₄ :: rest)).length
  := by
  have happend : decoded ([d₁, d₂, d₃, d₄] ++ rest) = [d₁, d₂, d₃, d₄] ++ decoded rest := by
    apply append_of_passes
    intro d hd rest
    obtain ⟨-, hslash, -⟩ := hexUnit?_chars h hd
    apply decoded_cons hslash
  rw [List.cons_append, List.cons_append, List.cons_append, List.cons_append, List.nil_append]
    at happend
  rw [happend, List.length_append]
  apply Nat.le_add_left

theorem consChar_eq_ok {read : Except ReadError (List Char × List Char)} {left : List Char} :
  consChar c read = .ok (name, left) ↔ ∃ tail, read = .ok (tail, left) ∧ name = c :: tail
  := by
  cases read with
  | error error => simp [consChar]
  | ok found =>
    obtain ⟨tail, left'⟩ := found
    simp only [consChar, Except.ok.injEq, Prod.mk.injEq]
    grind

/-- What JSON reads up to the closing quote is the content of a string that the scanner takes for
what JSON reads, or for something longer. -/
theorem readString_decodes {left : List Char} (h : readString .full rest = .ok (name, left)) :
  ∃ body, Decodes body name ∧ rest = body ++ '"' :: left
  := by
  fun_induction readString .full rest generalizing name with
  | case2 rest =>
    obtain ⟨rfl, rfl⟩ := Prod.mk.inj (Except.ok.inj h)
    use [], ⟨fun _ => rfl, fun h => by simp [hasKnownEscapes] at h⟩
    rfl
  | case4 _ _ _ _ _ _ _ hpassing => simp at hpassing
  | case7 a b c d unit hunit _ hlow hhigh e f g i rest low hunit' hlow' ih =>
    obtain ⟨tail, htail, rfl⟩ := consChar_eq_ok.mp h
    obtain ⟨body, hbody, rfl⟩ := ih htail
    have hsecond : Decodes ('\\' :: 'u' :: e :: f :: g :: i :: body) (c :: tail) :=
      decodes_kept rfl rfl (hbody.length_le.trans (length_decoded_hexUnit hunit'))
    use '\\' :: 'u' :: a :: b :: c :: d :: '\\' :: 'u' :: e :: f :: g :: i :: body
    constructor
    · apply decodes_kept rfl rfl
      apply le_trans _ (length_decoded_hexUnit hunit)
      apply (Nat.le_succ _).trans hsecond.length_le
    · rfl
  | case13 a b c d rest unit hunit _ hlow hhigh ih =>
    obtain ⟨tail, htail, rfl⟩ := consChar_eq_ok.mp h
    obtain ⟨body, hbody, rfl⟩ := ih htail
    use '\\' :: 'u' :: a :: b :: c :: d :: body
    constructor
    · apply decodes_kept rfl rfl
      apply hbody.length_le.trans (length_decoded_hexUnit hunit)
    · rfl
  | case15 e rest _ _ c hescape ih =>
    obtain ⟨tail, htail, rfl⟩ := consChar_eq_ok.mp h
    obtain ⟨body, hbody, rfl⟩ := ih htail
    use '\\' :: e :: body
    constructor
    · rcases unescape_of_simpleEscape? hescape with ⟨hknown, hc⟩ | ⟨hunknown, hkept⟩
      · apply hbody.escape hknown hc
      · apply decodes_kept hunknown hkept hbody.length_le
    · rfl
  | case19 c rest hquote _ _ _ hcontrol hslash ih =>
    obtain ⟨tail, htail, rfl⟩ := consChar_eq_ok.mp h
    obtain ⟨body, hbody, rfl⟩ := ih htail
    use c :: body, hbody.plain hslash
    rfl
  | _ => simp at h

/-- The scanner takes a literal for the name that it denotes, or for something longer. -/
theorem decodes_of_isLiteral (h : IsLiteral body name) :
  Decodes body name
  := by
  obtain ⟨-, -, hreads⟩ := h
  obtain ⟨body', hbody', heq⟩ := readString_decodes (hreads [])
  obtain rfl := List.append_cancel_right heq
  apply hbody'

theorem length_canonicalName (name : String) :
  (canonicalName name).length = name.length
  := by
  have hlower : (lowerAscii name).length = name.length := by
    rw [lowerAscii, String.length_ofList, List.length_map, String.length_toList]
  rw [canonicalName]
  split
  · next hfilter => rw [← hlower, hfilter]; rfl
  · apply hlower

/-- A literal names the section that it denotes exactly if the scanner knows its escapes. -/
theorem canonicalName_decoded_iff (h : IsLiteral body name) :
  canonicalName (String.ofList (decoded body)) = canonicalName (String.ofList name) ↔
    hasKnownEscapes body = true
  := by
  have hdecodes := decodes_of_isLiteral h
  constructor
  · intro heq
    by_contra hunknown
    have hlonger := hdecodes.unknown (Bool.of_not_eq_true hunknown)
    have hlength := congrArg String.length heq
    rw [length_canonicalName, length_canonicalName, String.length_ofList, String.length_ofList]
      at hlength
    omega
  · intro hknown
    rw [hdecodes.known hknown]

/-! ### Sections -/

/-- The members of a document that are objects or arrays and whose names, as `denoted` reads them,
are spellings of the given one. -/
def denoting (denoted : MemberText → List Char) (written : List MemberText) (key : String) :
    List MemberText :=
  (written.filter MemberText.isContainer).filter fun member =>
    canonicalName (String.ofList (denoted member)) = canonicalName key

/-- Two members with one value and, if that is an object or an array, with spellings of one name
whose escapes the scanner knows. -/
structure MemberText.SpelledAlike (member member' : MemberText) : Prop where
  value : member'.value = member.value
  name : member.isContainer = true → ∃ name, IsLiteral member.name name ∧
    IsLiteral member'.name name ∧ hasKnownEscapes member.name = true ∧
      hasKnownEscapes member'.name = true

/-- A test that holds as often as a weaker one holds whenever that does. -/
theorem of_length_filter_eq {α : Type} {items : List α} {p q : α → Bool}
    (himp : ∀ a ∈ items, q a = true → p a = true)
    (hlength : (items.filter q).length = (items.filter p).length) :
  ∀ a ∈ items, p a = true → q a = true
  := by
  have hfilter : items.filter q = (items.filter p).filter q := by
    rw [List.filter_filter]
    apply List.filter_congr
    intro a ha
    cases hq : q a with
    | false => rfl
    | true => rw [himp a ha hq]; rfl
  rw [hfilter, List.length_filter_eq_length_iff] at hlength
  intro a ha hp
  apply hlength a (List.mem_filter.mpr ⟨ha, hp⟩)

theorem fragments_capturedItems (written : List MemberText) (key : String) :
  (Sections.pushAll (capturedItems written)).fragments key =
    (denoting (fun member => decoded member.name) written key).map MemberText.raw
  := by
  simp only [Sections.fragments_pushAll, capturedItems, denoting, List.filter_map, List.map_map,
    Function.comp_def, MemberText.key]

/-- If the members that the scanner finds under each name are as many as those that denote it, then
it knows all their escapes. -/
theorem hasKnownEscapes_of_fragments {denoted : MemberText → List Char}
    (hdenoted : ∀ member ∈ written, member.isContainer = true →
      IsLiteral member.name (denoted member))
    (hfragments : ∀ key, (Sections.pushAll (capturedItems written)).fragments key =
      (denoting denoted written key).map MemberText.raw) :
  ∀ member ∈ written, member.isContainer = true → hasKnownEscapes member.name = true
  := by
  intro first hfirst hcontainer
  by_contra hunknown
  let odd : List MemberText :=
    written.filter fun member => member.isContainer && !hasKnownEscapes member.name
  have hodd : odd ≠ [] := by
    apply List.ne_nil_of_mem (a := first)
    simp [odd, hfirst, hcontainer, Bool.of_not_eq_true hunknown]
  -- Of the members with an unknown escape take one with the longest name.  No other one denotes
  -- that name, so the scanner finds more members under it than there are.
  obtain ⟨member, hmember, hlongest⟩ : ∃ member ∈ odd, ∀ other ∈ odd,
      (decoded other.name).length ≤ (decoded member.name).length := by
    cases hmax : odd.argmax fun member => (decoded member.name).length with
    | none => apply (hodd (List.argmax_eq_none.mp hmax)).elim
    | some member =>
      use member, List.argmax_mem hmax
      intro other hother
      apply List.le_of_mem_argmax hother hmax
  simp only [odd, List.mem_filter, Bool.and_eq_true, Bool.not_eq_true'] at hmember hlongest
  obtain ⟨hmember, hcontainer, hunknown⟩ := hmember
  have hfound : ∀ other ∈ written.filter MemberText.isContainer,
      canonicalName (String.ofList (denoted other)) = canonicalName member.key →
      canonicalName (String.ofList (decoded other.name)) = canonicalName member.key := by
    intro other hother hname
    obtain ⟨hother, hcontainer⟩ := List.mem_filter.mp hother
    have hliteral := hdenoted other hother hcontainer
    cases hknown : hasKnownEscapes other.name with
    | true => rw [← hname, (decodes_of_isLiteral hliteral).known hknown]
    | false =>
      have hlonger := (decodes_of_isLiteral hliteral).unknown hknown
      have hle := hlongest other ⟨hother, hcontainer, hknown⟩
      have hlength := congrArg String.length hname
      simp only [length_canonicalName, MemberText.key, String.length_ofList] at hlength
      omega
  have hlength := congrArg List.length (hfragments member.key)
  rw [fragments_capturedItems, List.length_map, List.length_map] at hlength
  have hdenotes := of_length_filter_eq (by simpa only [decide_eq_true_eq] using hfound)
    hlength.symm member
    (List.mem_filter.mpr ⟨hmember, hcontainer⟩) (by simp [MemberText.key])
  rw [decide_eq_true_eq] at hdenotes
  have hknown := (canonicalName_decoded_iff (hdenoted member hmember hcontainer)).mp hdenotes.symm
  rw [hunknown] at hknown
  contradiction

theorem Sections.pushAll_congr {items items' : List (String × String)}
    (h : List.Forall₂ (fun item item' => canonicalName item.1 = canonicalName item'.1 ∧
      item.2 = item'.2) items items') :
  Sections.pushAll items = Sections.pushAll items'
  := by
  rw [Sections.pushAll, Sections.pushAll]
  generalize ({} : Sections) = sections
  induction h generalizing sections with
  | nil => rfl
  | cons hitem _ ih =>
    obtain ⟨hname, htext⟩ := hitem
    rw [List.foldl_cons, List.foldl_cons, ih, Sections.push, Sections.push, hname, htext]

/-- Documents whose members are spelled alike have the same sections. -/
theorem pushAll_spelledAlike (h : List.Forall₂ MemberText.SpelledAlike written written') :
  Sections.pushAll (capturedItems written) = Sections.pushAll (capturedItems written')
  := by
  apply Sections.pushAll_congr
  induction h with
  | nil => apply List.Forall₂.nil
  | @cons member member' written written' halike _ ih =>
    have hcontainer : member'.isContainer = member.isContainer := by
      rw [MemberText.isContainer, MemberText.isContainer, halike.value]
    simp only [capturedItems, List.filter_cons, hcontainer] at ih ⊢
    split
    · next hmember =>
      obtain ⟨name, hname, hname', hknown, hknown'⟩ := halike.name hmember
      apply List.Forall₂.cons _ ih
      constructor
      · simp only [MemberText.key, (decodes_of_isLiteral hname).known hknown,
          (decodes_of_isLiteral hname').known hknown']
      · simp only [MemberText.raw, halike.value]
    · apply ih

theorem denoting_decoded {denoted : MemberText → List Char}
    (hdenoted : ∀ member ∈ written, member.isContainer = true →
      IsLiteral member.name (denoted member))
    (hknown : ∀ member ∈ written, member.isContainer = true →
      hasKnownEscapes member.name = true) (key : String) :
  denoting (fun member => decoded member.name) written key = denoting denoted written key
  := by
  rw [denoting, denoting]
  apply List.filter_congr
  intro member hmember
  obtain ⟨hmember, hcontainer⟩ := List.mem_filter.mp hmember
  have hliteral := hdenoted member hmember hcontainer
  rw [(decodes_of_isLiteral hliteral).known (hknown member hmember hcontainer)]

/-- A member whose escapes the scanner knows is filed under the name that it denotes. -/
theorem raw_mem_fragments {member : MemberText} (hmember : member ∈ written)
    (hcontainer : member.isContainer = true) (hliteral : IsLiteral member.name name)
    (hknown : hasKnownEscapes member.name = true) :
  member.raw ∈ (Sections.pushAll (capturedItems written)).fragments (String.ofList name)
  := by
  have hname : canonicalName (String.ofList (decoded member.name)) =
      canonicalName (String.ofList name) :=
    (canonicalName_decoded_iff hliteral).mpr hknown
  rw [fragments_capturedItems]
  apply List.mem_map_of_mem
  rw [denoting, List.mem_filter, List.mem_filter, decide_eq_true_eq]
  exact ⟨⟨hmember, hcontainer⟩, hname⟩

/-- The texts of a document are filed under the names that its members denote in JSON exactly if
the scanner knows all their escapes.  A member whose escapes it knows is filed under the name that
it denotes in any case, and spellings of this kind give the same sections and the same rules. -/
theorem scan_files_iff [PatternReader] (h : IsDocumentOf written text.toList) :
  ∃ sections, scan text = .ok sections ∧
    (∀ denoted : MemberText → List Char,
      (∀ member ∈ written, member.isContainer = true → IsLiteral member.name (denoted member)) →
      ((∀ key, sections.fragments key = (denoting denoted written key).map MemberText.raw) ↔
        ∀ member ∈ written, member.isContainer = true → hasKnownEscapes member.name = true)) ∧
    (∀ member ∈ written, member.isContainer = true → ∀ name, IsLiteral member.name name →
      (canonicalName member.key = canonicalName (String.ofList name) ↔
        hasKnownEscapes member.name = true) ∧
      (hasKnownEscapes member.name = true →
        member.raw ∈ sections.fragments (String.ofList name))) ∧
    ∀ text' written', IsDocumentOf written' text'.toList →
      List.Forall₂ MemberText.SpelledAlike written written' →
      scan text' = .ok sections ∧ ∀ source source', read source = text → read source' = text' →
        RuleFile.ofDocument source' = RuleFile.ofDocument source
  := by
  have hscan : scan text = .ok (.pushAll (capturedItems written)) := scan_of_isDocumentOf h
  refine ⟨_, hscan, ?_, ?_, ?_⟩
  · intro denoted hdenoted
    constructor
    · intro hfragments
      exact hasKnownEscapes_of_fragments hdenoted hfragments
    · intro hknown key
      rw [fragments_capturedItems, denoting_decoded hdenoted hknown]
  · intro member hmember hcontainer name hliteral
    constructor
    · exact canonicalName_decoded_iff hliteral
    · intro hknown
      exact raw_mem_fragments hmember hcontainer hliteral hknown
  · intro text' written' h' halike
    have hscan' : scan text' = .ok (.pushAll (capturedItems written)) := by
      rw [scan_of_isDocumentOf h', pushAll_spelledAlike halike]
    use hscan'
    rintro source source' rfl rfl
    rw [ofDocument_eq hscan, ofDocument_eq hscan']

/-- A member whose name is a slash, escaped as JSON allows. -/
def slashMember : MemberText where
  name := ['\\', '/']
  value := ['[', '1', ']']

/-- The text of a document with that member. -/
def slashText : String :=
  "\x7b\"\\/\":[1]\x7d"

theorem isLiteral_slash :
  IsLiteral ['\\', '/'] ['/']
  := (isPiece_escape rfl).isLiteral isLiteral_nil

theorem isDocumentOf_slashText :
  IsDocumentOf [slashMember] slashText.toList
  := by
  have hone : IsValue 126 ['1'] := isValue_scalar ⟨by simp, List.forall_mem_singleton.mpr rfl⟩
  have helements : IsArray (IsValue 126) [['1']] ['[', '1', ']'] :=
    ⟨[], _, isGap_nil, .last ⟨hone, rfl⟩ isGap_nil, rfl⟩
  have hmember : IsMember (IsValue 127) slashMember "\"\\/\":[1]".toList :=
    ⟨isLiteral_slash.1, .inr (.inr (.inr ⟨_, helements⟩)), [], [], isGap_nil, isGap_nil, rfl⟩
  have hobject : IsObject (IsValue 127) [slashMember] slashText.toList :=
    ⟨[], _, isGap_nil, .last hmember isGap_nil, rfl⟩
  refine .inr ⟨[], _, [], isGap_nil, hobject, isGap_nil, ?_⟩
  simp

open scoped PatternReader in
/-- A name with an escaped slash. -/
theorem scan_files_iff_slash :
  IsDocumentOf [slashMember] slashText.toList ∧ IsLiteral slashMember.name ['/'] ∧
    hasKnownEscapes slashMember.name = true ∧
    ∃ sections, scan slashText = .ok sections ∧ "[1]" ∈ sections.fragments "/"
  := by
  refine ⟨isDocumentOf_slashText, isLiteral_slash, rfl, ?_⟩
  obtain ⟨sections, hscan, -, hfiled, -⟩ := scan_files_iff isDocumentOf_slashText
  use sections, hscan
  apply (hfiled slashMember List.mem_cons_self rfl ['/'] isLiteral_slash).2 rfl

/-- The text of a document that writes the name of its section with the given content. -/
def additionText (name : String) : String :=
  "\x7b\"" ++ name ++ "\": \x7b\"x\": \"1\"\x7d\x7d"

open scoped PatternReader in
/-- A section whose name has a letter written with digits is not found under its name, and its
rules are lost. -/
theorem ofDocument_escaped_letter :
  IsLiteral "\\u0061dd".toList "add".toList ∧
    scan (additionText "\\u0061dd") = .ok ⟨[("\\u0061dd", ["\x7b\"x\": \"1\"\x7d"])]⟩ ∧
    (RuleFile.ofDocument (additionText "\\u0061dd")).run.value = .ok ⟨[]⟩ ∧
    (RuleFile.ofDocument (additionText "add")).run.value =
      .ok ⟨[.add { attributes := [("x", "1")] }]⟩
  := by
  have hunit : hexUnit? '0' '0' '6' '1' = some 0x61 := rfl
  have hd : IsPiece ['d'] 'd' := isPiece_plain (by decide) (by decide) (by decide)
  refine ⟨?_, rfl, rfl, rfl⟩
  exact (isPiece_unit hunit (by decide) (by decide)).isLiteral
    (hd.isLiteral (hd.isLiteral isLiteral_nil))

end LumpRules.Document
