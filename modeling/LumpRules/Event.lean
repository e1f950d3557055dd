import LumpRules.Report

/-!
# Events

What the library does is told by events.  A computation of type `Logged α` has a value and the
events that happened on the way, in order; the value never depends on the events.
-/

namespace LumpRules

/-- How important an event is. -/
inductive Severity where
  | debug
  | info
  | warn
  deriving DecidableEq, Repr

/-- The name of a severity. -/
def Severity.name : Severity → String
  | .debug => "DEBUG"
  | .info => "INFO"
  | .warn => "WARN"

/-- Something that happened. -/
inductive Event where
  | patternRegistered (source : String)
  | removeRuleDropped
  | addRuleDropped
  | modifyRuleDropped
  | connectionFieldIgnored (key : String)
  | ruleFileCompiled (path : String) (rules : Nat)
  | levelWithoutRules (path : String)
  | ruleFileReplaced (world lump path : String)
  | rulesLoaded (level : String) (global globalDefault : Bool) (lumps : Nat)
  | entityRemoved (lump entity rule : String)
  | entityAdded (lump rule : String)
  | entityModified (lump before after rule : String)
  | addSkipped (lump : String) (error : ApplyError)
  | replacementSkipped (lump : String) (error : ApplyError)
  | insertionSkipped (lump : String) (error : ApplyError)
  | connectionsKept
  | removalRefused (index : Nat)
  | rulesApplied (level world lump : String) (report : Report)
  deriving DecidableEq, Repr

namespace Event

/-- How important an event is. -/
def severity : Event → Severity
  | .rulesLoaded .. | .entityRemoved .. | .entityAdded .. | .entityModified .. => .info
  | .ruleFileReplaced .. | .addSkipped .. | .replacementSkipped .. | .insertionSkipped .. => .warn
  | _ => .debug

/-- The wording of an event. -/
def message : Event → String
  | .patternRegistered _ => "registered regex"
  | .removeRuleDropped => "dropping remove rule without predicates"
  | .addRuleDropped => "dropping empty add rule"
  | .modifyRuleDropped => "dropping modify rule with an empty match block"
  | .connectionFieldIgnored _ => "ignoring unknown connection field"
  | .ruleFileCompiled .. => "compiled rule file"
  | .levelWithoutRules _ => "no rule directory for level"
  | .ruleFileReplaced .. => "rule file replaces an earlier one"
  | .rulesLoaded .. => "loaded rules"
  | .entityRemoved .. => "removed entity"
  | .entityAdded .. => "added entity"
  | .entityModified .. => "modified entity"
  | .addSkipped .. => "skipped add rule"
  | .replacementSkipped .. => "skipped replacement"
  | .insertionSkipped .. => "skipped insertion"
  | .connectionsKept => "entity is queued for spawn, keeping its connections"
  | .removalRefused _ => "host refused connection removal"
  | .rulesApplied .. => "applied rules"

/-- The particulars of an event, each a text under a name. -/
def fields : Event → List (String × String)
  | .patternRegistered source => [("pattern", source)]
  | .removeRuleDropped | .addRuleDropped | .modifyRuleDropped | .connectionsKept => []
  | .connectionFieldIgnored key => [("key", key)]
  | .ruleFileCompiled path rules => [("path", path), ("rules", toString rules)]
  | .levelWithoutRules path => [("path", path)]
  | .ruleFileReplaced world lump path => [("world", world), ("lump", lump), ("path", path)]
  | .rulesLoaded level global globalDefault lumps =>
    [("level", level), ("global", toString global), ("global_default", toString globalDefault),
      ("lumps", toString lumps)]
  | .entityRemoved lump entity rule => [("lump", lump), ("entity", entity), ("rule", rule)]
  | .entityAdded lump rule => [("lump", lump), ("rule", rule)]
  | .entityModified lump before after rule =>
    [("lump", lump), ("before", before), ("after", after), ("rule", rule)]
  | .addSkipped lump error | .replacementSkipped lump error | .insertionSkipped lump error =>
    [("lump", lump), ("error", error.message)]
  | .removalRefused index => [("index", toString index)]
  | .rulesApplied level world lump report =>
    [("level", level), ("world", world), ("lump", lump), ("report", report.display)]

end Event

/-- A value and the events that led to it. -/
structure Logged (α : Type) where
  value : α
  events : List Event := []

namespace Logged

instance : Monad Logged where
  pure value := { value }
  bind x f := ⟨(f x.value).value, x.events ++ (f x.value).events⟩

instance : LawfulMonad Logged :=
  .mk' Logged
    (fun x => by simp [Functor.map])
    (fun _ _ => by simp [bind, pure])
    (fun _ _ _ => by simp [bind, List.append_assoc])

/-- One event. -/
def event (e : Event) : Logged Unit :=
  ⟨(), [e]⟩

/-- One event, if a condition holds. -/
def eventIf (condition : Bool) (e : Event) : Logged Unit :=
  ⟨(), if condition then [e] else []⟩

@[simp]
theorem value_pure (a : α) :
  (pure a : Logged α).value = a
  := rfl

@[simp]
theorem events_pure (a : α) :
  (pure a : Logged α).events = []
  := rfl

@[simp]
theorem value_bind (x : Logged α) (f : α → Logged β) :
  (x >>= f).value = (f x.value).value
  := rfl

@[simp]
theorem events_bind (x : Logged α) (f : α → Logged β) :
  (x >>= f).events = x.events ++ (f x.value).events
  := rfl

@[simp]
theorem value_map (f : α → β) (x : Logged α) :
  (f <$> x).value = f x.value
  := rfl

/-- The value of a loop is the fold of the values of its steps. -/
@[simp]
theorem value_foldlM (step : β → α → Logged β) (start : β) (items : List α) :
  (items.foldlM step start).value = items.foldl (fun state item => (step state item).value) start
  := by
  induction items generalizing start with
  | nil => rfl
  | cons item items ih =>
    rw [List.foldlM_cons, value_bind]
    apply ih

end Logged

end LumpRules
