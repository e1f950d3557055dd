/-!
# Lists of named entries

Attributes of an entity, members of an object, sections of a document and rules of lumps are
kept as lists of entries under names, in the order in which the names first appeared.  Which
names mean the same entry is decided by a key: names are compared as they stand with the key
`id`, and ignoring case with a key that folds it.  Of several entries under one key the first
one counts.

`alter` changes an entry or adds it at the end, `erase` removes all entries under a key, and
`get?_alter` and `get?_erase` say what is found afterwards.
-/

namespace LumpRules

/-- Entries under names. -/
abbrev Entries (α : Type) := List (String × α)

namespace Entries

variable {κ α : Type} [DecidableEq κ]

/-- The first entry under the key of a name. -/
def get? (key : String → κ) (name : String) (entries : Entries α) : Option α :=
  (entries.find? fun entry => key entry.1 = key name).map Prod.snd

/-- The entries with the one of a name changed.  It keeps its place and its spelling; an entry
that is not there is added at the end. -/
def alter (key : String → κ) (name : String) (change : Option α → α) : Entries α → Entries α
  | [] => [(name, change none)]
  | (first, value) :: rest =>
    if key first = key name then (first, change (some value)) :: rest
    else (first, value) :: alter key name change rest

/-- The entries with the value of a name set. -/
def put (key : String → κ) (name : String) (value : α) (entries : Entries α) : Entries α :=
  alter key name (fun _ => value) entries

/-- The entries without those under the key of a name. -/
def erase (key : String → κ) (name : String) (entries : Entries α) : Entries α :=
  entries.filter fun entry => key entry.1 ≠ key name

variable {key : String → κ} {name other : String} {change : Option α → α} {value : α}
  {entries : Entries α}

@[simp]
theorem get?_nil :
  get? key name ([] : Entries α) = none
  := rfl

theorem get?_cons {first : String} :
  get? key name ((first, value) :: entries) =
    if key first = key name then some value else get? key name entries
  := by
  by_cases h : key first = key name <;> simp [get?, h]

/-- Names with the same key find the same entry. -/
theorem get?_congr (h : key name = key other) :
  get? key name entries = get? key other entries
  := by
  simp [get?, h]

/-- What is found is the value of an entry under the key of the name. -/
theorem mem_of_get? (h : get? key name entries = some value) :
  ∃ first, (first, value) ∈ entries ∧ key first = key name
  := by
  rw [get?, Option.map_eq_some_iff] at h
  obtain ⟨⟨first, value⟩, hfind, rfl⟩ := h
  exact ⟨first, List.mem_of_find?_eq_some hfind, by simpa using List.find?_some hfind⟩

/-- Changing an entry changes what is found under its key, and nothing else. -/
theorem get?_alter :
  get? key other (alter key name change entries) =
    if key name = key other then some (change (get? key name entries))
    else get? key other entries
  := by
  induction entries with
  | nil => simp [alter, get?_cons]
  | cons entry rest ih =>
    obtain ⟨first, value⟩ := entry
    by_cases hfirst : key first = key name
    · by_cases h : key name = key other <;> simp [alter, get?_cons, hfirst, h]
    · by_cases h : key name = key other
      · have hother : key first ≠ key other := h ▸ hfirst
        simp [alter, get?_cons, hother, ih, h]
      · simp [alter, get?_cons, hfirst, ih, h]

/-- A value that was set is found under the key of its name, and under no other. -/
@[simp]
theorem get?_put :
  get? key other (put key name value entries) =
    if key name = key other then some value else get? key other entries
  := get?_alter

/-- Of entries of which one was set, each is an old one, or it has the new value under the name or
in an old place. -/
theorem mem_put {entry : String × α} (h : entry ∈ put key name value entries) :
  entry ∈ entries ∨ entry.2 = value ∧ (entry.1 = name ∨ entry.1 ∈ entries.map Prod.fst)
  := by
  induction entries with
  | nil =>
    obtain rfl := List.mem_singleton.mp h
    simp
  | cons first rest ih =>
    rw [put, alter] at h
    split at h
    · rcases List.mem_cons.mp h with rfl | h
      · simp
      · simp [h]
    · rcases List.mem_cons.mp h with rfl | h
      · simp
      · rcases ih h with h | ⟨hvalue, hname | hname⟩
        · simp [h]
        · simp [hvalue, hname]
        · exact .inr ⟨hvalue, .inr (List.mem_cons_of_mem _ hname)⟩

theorem erase_cons {first : String} :
  erase key name ((first, value) :: entries) =
    if key first = key name then erase key name entries
    else (first, value) :: erase key name entries
  := by
  by_cases h : key first = key name <;> simp [erase, h]

/-- Nothing is found under a key whose entries were erased. -/
@[simp]
theorem get?_erase :
  get? key other (erase key name entries) =
    if key name = key other then none else get? key other entries
  := by
  induction entries with
  | nil => simp [erase]
  | cons entry rest ih =>
    obtain ⟨first, value⟩ := entry
    rw [erase_cons]
    by_cases hfirst : key first = key name
    · by_cases h : key name = key other <;> simp [get?_cons, hfirst, ih, h]
    · by_cases h : key name = key other
      · have hother : key first ≠ key other := h ▸ hfirst
        simp [get?_cons, hother, ih, h]
      · simp [get?_cons, hfirst, ih, h]

/-- The keys stay in place when an entry is changed, and a new one goes to the end. -/
theorem map_key_alter :
  (alter key name change entries).map (key ·.1) =
    if key name ∈ entries.map (key ·.1) then entries.map (key ·.1)
    else entries.map (key ·.1) ++ [key name]
  := by
  induction entries with
  | nil => simp [alter]
  | cons entry rest ih =>
    obtain ⟨first, value⟩ := entry
    by_cases hfirst : key first = key name
    · simp [alter, hfirst]
    · rw [alter, if_neg hfirst, List.map_cons, ih]
      by_cases h : key name ∈ rest.map (key ·.1)
      · rw [if_pos h, if_pos (by simp [h]), List.map_cons]
      · rw [if_neg h, if_neg (by simp [h, Ne.symm hfirst]), List.map_cons, List.cons_append]

/-- Distinct keys stay distinct when an entry is changed. -/
theorem nodup_alter (h : (entries.map (key ·.1)).Nodup) :
  ((alter key name change entries).map (key ·.1)).Nodup
  := by
  rw [map_key_alter]
  split
  · apply h
  · next hname =>
    apply List.nodup_append.mpr ⟨h, by simp, ?_⟩
    rintro first hfirst other hother rfl
    rw [List.mem_singleton] at hother
    apply hname (hother ▸ hfirst)

/-- The spellings stay in place when an entry is changed, and that of a new one goes to the
end. -/
theorem map_fst_alter :
  (alter key name change entries).map Prod.fst =
    entries.map Prod.fst ++ if (get? key name entries).isNone then [name] else []
  := by
  induction entries with
  | nil => rfl
  | cons entry rest ih =>
    obtain ⟨first, value⟩ := entry
    by_cases hfirst : key first = key name
    · simp [alter, get?_cons, hfirst]
    · simp [alter, get?_cons, hfirst, ih]

/-- The spellings of the entries that are left when a name is erased. -/
theorem map_fst_erase :
  (erase key name entries).map Prod.fst =
    (entries.map Prod.fst).filter fun first => key first ≠ key name
  := by
  rw [erase, List.filter_map]
  rfl

/-- If the keys are distinct, every entry is found under its name. -/
theorem get?_of_mem (h : (entries.map (key ·.1)).Nodup) (hmem : (name, value) ∈ entries) :
  get? key name entries = some value
  := by
  induction entries with
  | nil => contradiction
  | cons entry rest ih =>
    obtain ⟨first, other⟩ := entry
    rw [List.map_cons, List.nodup_cons] at h
    rw [get?_cons]
    rcases List.mem_cons.mp hmem with heq | hrest
    · obtain ⟨rfl, rfl⟩ := Prod.mk.inj heq
      rw [if_pos rfl]
    · have hfirst : key first ≠ key name := by
        intro hkey
        apply h.1
        rw [hkey]
        exact List.mem_map_of_mem hrest
      rw [if_neg hfirst, ih h.2 hrest]

end Entries

end LumpRules
