import LumpRules.Proofs.RuleSet.Keys

/-!
# The case of names in a chain of rule files

The rules of a lump are found under its names in any case, and the rules for default entities
apply to the default lump of the world that is named like the level.  `scopeChain_of_spelling`
says that both ignore case alike: the rule files for a lump stay the same when the level, the
world or the lump is written in lower case.  The names of the level and of its world are compared
with the case of ASCII letters folded only, so their other letters must be small already; if they
are not, the rules for default entities can be missing (`scopeChain_accent`).
-/

namespace LumpRules

open Text

variable {name name' level world lump level' world' lump' : String} {set : RuleSet}

/-- A name as it stands or in lower case. -/
def IsSpelling (name' name : String) : Prop :=
  name' = name ∨ name' = lowerName name

instance : Decidable (IsSpelling name' name) :=
  inferInstanceAs (Decidable (_ ∨ _))

theorem IsSpelling.lowerName (h : IsSpelling name' name) :
  Text.lowerName name' = Text.lowerName name
  := by
  rcases h with rfl | rfl
  · rfl
  · apply lowerName_lowerName

theorem IsSpelling.lowerAscii (h : IsSpelling name' name)
    (hname : Text.lowerAscii name = Text.lowerName name) :
  Text.lowerAscii name' = Text.lowerName name
  := by
  rcases h with rfl | rfl
  · apply hname
  · apply lowerAscii_lowerName

/-! ### Keys -/

theorem FoldApart.of_isSpelling (h : FoldApart world lump) (hworld : IsSpelling world' world)
    (hlump : IsSpelling lump' lump) :
  FoldApart world' lump'
  := by
  have hfirst : FoldApart world' lump := by
    rcases hworld with rfl | rfl
    · apply h
    · apply h.lowerName_world
  rcases hlump with rfl | rfl
  · apply hfirst
  · apply hfirst.lowerName_lump

/-- The rules of a lump are found in any case. -/
theorem lumpRules_of_isSpelling (set : RuleSet) (h : FoldApart world lump)
    (hworld : IsSpelling world' world) (hlump : IsSpelling lump' lump) :
  set.lumpRules world' lump' = set.lumpRules world lump
  := by
  have h' := h.of_isSpelling hworld hlump
  rw [RuleSet.lumpRules, RuleSet.lumpRules, Scopes.lumpRules, Scopes.lumpRules,
    scopeKey_eq h, scopeKey_eq h', hworld.lowerName, hlump.lowerName]

/-! ### The default lump -/

/-- All letters of the default lump's name are ASCII letters, and no others become them. -/
theorem sameName_defaultLump_iff :
  sameName lump defaultLump = true ↔ lowerName lump = defaultLump
  := by
  rw [sameName_iff]
  constructor
  · intro hascii
    rw [lowerName_congr hascii]
    decide
  · intro hlump
    have hletters : lowercase lump.toList = defaultLump.toList := by
      rw [← hlump, lowerName, String.toList_ofList]
    have hmap : lowercase lump.toList = lump.toList.map Char.toLower := by
      have hall : (defaultLump.toList.all fun d => d.toNat < 128 ∧ d ≠ 'i' ∧ d ≠ 'k') = true := by
        decide
      apply lowerAfter_eq_map
      intro d hd
      change d ∈ lowercase lump.toList at hd
      rw [hletters] at hd
      apply of_decide_eq_true (List.all_eq_true.mp hall d hd)
    rw [lowerAscii, ← hmap, hletters]
    decide

/-! ### Levels and their worlds -/

/-- The letters that are not small in the names of a level and of its main world are ASCII
letters. -/
def HasAsciiCase (level world : String) : Prop :=
  lowerName world = lowerName level →
    lowerAscii world = lowerName world ∧ lowerAscii level = lowerName level

instance : Decidable (HasAsciiCase level world) :=
  inferInstanceAs (Decidable (_ → _))

/-- Levels are compared with their worlds as if in lower case. -/
theorem sameName_iff_of_hasAsciiCase (h : HasAsciiCase level world)
    (hlevel : IsSpelling level' level) (hworld : IsSpelling world' world) :
  sameName world' level' = true ↔ lowerName world = lowerName level
  := by
  rw [sameName_iff]
  constructor
  · intro hascii
    rw [← hworld.lowerName, ← hlevel.lowerName, lowerName_congr hascii]
  · intro hlower
    obtain ⟨hworldAscii, hlevelAscii⟩ := h hlower
    rw [hworld.lowerAscii hworldAscii, hlevel.lowerAscii hlevelAscii, hlower]

/-- The rule files for a lump, told from its names in lower case. -/
theorem scopeChain_eq (set : RuleSet) (h : FoldApart world lump)
    (hascii : lowerName lump = defaultLump → HasAsciiCase level world)
    (hlevel : IsSpelling level' level) (hworld : IsSpelling world' world)
    (hlump : IsSpelling lump' lump) :
  set.scopeChain level' world' lump' =
    (set.lumpRules world lump).toList ++ set.global.toList ++
      if lowerName world = lowerName level ∧ lowerName lump = defaultLump then
        set.globalDefault.toList
      else []
  := by
  rw [RuleSet.scopeChain, lumpRules_of_isSpelling set h hworld hlump]
  have hiff : (sameName world' level' && sameName lump' defaultLump) = true ↔
      lowerName world = lowerName level ∧ lowerName lump = defaultLump := by
    rw [Bool.and_eq_true, sameName_defaultLump_iff, hlump.lowerName]
    apply and_congr_left
    intro hdefault
    apply sameName_iff_of_hasAsciiCase (hascii hdefault) hlevel hworld
  simp only [hiff]

/-- The rule files for a lump are the same in lower case, and those for default entities are
among them exactly for the default lump of the level's main world. -/
theorem scopeChain_of_spelling (set : RuleSet) (h : FoldApart world lump)
    (hascii : lowerName lump = defaultLump → HasAsciiCase level world)
    (hlevel : IsSpelling level' level) (hworld : IsSpelling world' world)
    (hlump : IsSpelling lump' lump) :
  set.scopeChain level' world' lump' = set.scopeChain level world lump ∧
    set.scopeChain level' world' lump' =
      (set.lumpRules world lump).toList ++ set.global.toList ++
        if lowerName world = lowerName level ∧ lowerName lump = defaultLump then
          set.globalDefault.toList
        else []
  := by
  have hchain := scopeChain_eq set h hascii hlevel hworld hlump
  use (hchain.trans (scopeChain_eq set h hascii (.inl rfl) (.inl rfl) (.inl rfl)).symm)

set_option maxRecDepth 4000 in
/-- The rules for default entities, found under other spellings of the level and of the lump. -/
theorem scopeChain_of_spelling_default :
  let set := (RuleSet.new "rules").setGlobalDefault {}
  FoldApart "C1M1" "Default_Ents" ∧ HasAsciiCase "c1M1" "C1M1" ∧
    set.scopeChain "c1m1" "C1M1" "default_ents" = set.scopeChain "c1M1" "C1M1" "Default_Ents" ∧
    set.scopeChain "c1m1" "C1M1" "default_ents" = [⟨[]⟩]
  := by
  intro set
  have hapart : FoldApart "C1M1" "Default_Ents" := by decide
  have hascii : HasAsciiCase "c1M1" "C1M1" := by decide
  have hlevel : IsSpelling "c1m1" "c1M1" := by decide
  have hlump : IsSpelling "default_ents" "Default_Ents" := by decide
  obtain ⟨hsame, hchain⟩ :=
    scopeChain_of_spelling set hapart (fun _ => hascii) hlevel (.inl rfl) hlump
  use hapart, hascii, hsame
  rw [hchain, if_pos (by decide)]
  rfl

/-- The rules for default entities are not found under the lower case of a level whose name has
a capital letter beyond ASCII. -/
theorem scopeChain_accent :
  let set := (RuleSet.new "rules").setGlobalDefault {}
  (set.scopeChain "École" "École" "default_ents").length = 1 ∧
    (set.scopeChain (lowerName "École") "École" "default_ents").length = 0
  := by
  decide

end LumpRules
