import LumpRules.Proofs.Application.Passes

/-!
# A run told entity by entity

`applyRules` goes through the rules and, for each of them, through the entities.  `applyEach`
tells the same run the other way round: it says which entities stay, which ones arrive, and what
becomes of each of them when it is visited by all rules in turn.  `applyRules_eq_applyEach` says
that both give the same lump and the same report.
-/

namespace LumpRules

/-- The entity after some rules have visited it, in order. -/
def Entity.patched (options : Options) (name : String) (rules : List Rule) (entity : Entity) :
    Entity :=
  rules.foldl (fun entity rule => (rule.visit options name entity).1) entity

/-- What each of some rules met when they visited an entity, in order: nothing if the entity did
not satisfy its conditions at that moment, otherwise the errors. -/
def Entity.outcomes (options : Options) (name : String) :
    List Rule → Entity → List (Option (List ApplyError))
  | [], _ => []
  | rule :: rules, entity =>
    (rule.visit options name entity).2 ::
      Entity.outcomes options name rules (rule.visit options name entity).1

/-- The errors that the rules met at some entities, rule by rule and then entity by entity. -/
def errorsByRule (count : Nat) (outcomes : List (List (Option (List ApplyError)))) :
    List ApplyError :=
  (List.range count).flatMap fun k => outcomes.flatMap fun met => (met[k]?.join).getD []

/-- The entities that no rule removes, followed by those that the rules add. -/
def arrivals (rules : List Rule) (entities : List Entity) : List Entity :=
  entities.filter (fun entity => !rules.any (·.removes entity)) ++
    (additions rules).filterMap Except.toOption

/-- The lump after a run and its report, told entity by entity. -/
def applyEach (rules : List Rule) (options : Options) (lump : Lump) : Lump × Report :=
  let visited := arrivals rules lump.entities
  let outcomes := visited.map (Entity.outcomes options lump.name rules)
  ({ lump with entities := visited.map (Entity.patched options lump.name rules) },
    { removed := lump.entities.countP fun entity => rules.any (·.removes entity)
      added := (additions rules).countP Except.isOk
      modified := (outcomes.map (·.countP Option.isSome)).sum
      errors := (additions rules).filterMap errorOf? ++ errorsByRule rules.length outcomes })

variable {options : Options} {name : String} {run : Run Lump}

theorem sum_countP_cons {α : Type} {rest : α → List (Option (List ApplyError))}
    {first : α → Option (List ApplyError)} {items : List α} :
  (items.map fun a => (first a :: rest a).countP Option.isSome).sum =
    (items.countP fun a => (first a).isSome) +
      (items.map fun a => (rest a).countP Option.isSome).sum
  := by
  induction items with
  | nil => rfl
  | cons a items ih =>
    rw [List.map_cons, List.sum_cons, ih, List.countP_cons, List.countP_cons, List.map_cons,
      List.sum_cons]
    omega

/-- The errors of the first rule come first. -/
theorem errorsByRule_cons {α : Type} {rest : α → List (Option (List ApplyError))}
    {first : α → Option (List ApplyError)} {items : List α} {count : Nat} :
  errorsByRule (count + 1) (items.map fun a => first a :: rest a) =
    (items.flatMap fun a => (first a).getD []) ++ errorsByRule count (items.map rest)
  := by
  simp only [errorsByRule, List.range_succ_eq_map, List.flatMap_cons, List.flatMap_map]
  rfl

/-- The pass of modifications, rule by rule, is a visit of all rules to each entity. -/
theorem foldl_modifyStep_value {rules : List Rule} :
  rules.foldl (fun run rule => (modifyStep options name run rule).value) run =
    let outcomes := run.lump.entities.map (Entity.outcomes options name rules)
    ⟨{ run.lump with entities := run.lump.entities.map (Entity.patched options name rules) },
      { run.report with
        modified := run.report.modified + (outcomes.map (·.countP Option.isSome)).sum
        errors := run.report.errors ++ errorsByRule rules.length outcomes }⟩
  := by
  induction rules generalizing run with
  | nil =>
    have hpatched : Entity.patched options name [] = id := rfl
    simp [hpatched, Entity.outcomes, errorsByRule, List.map_const']
  | cons rule rules ih =>
    have hpatched : Entity.patched options name (rule :: rules) =
        Entity.patched options name rules ∘ fun entity => (rule.visit options name entity).1 :=
      rfl
    have houtcomes : Entity.outcomes options name (rule :: rules) = fun entity =>
        (rule.visit options name entity).2 ::
          Entity.outcomes options name rules (rule.visit options name entity).1 :=
      rfl
    rw [List.foldl_cons, modifyStep_value, ih]
    simp only [hpatched, houtcomes, List.length_cons, errorsByRule_cons, List.map_map,
      Function.comp_def, List.flatMap_map, List.countP_map, sum_countP_cons, Nat.add_assoc,
      List.append_assoc]

/-- A run is its pass of modifications, from the lump as the other two passes leave it. -/
theorem applyRules_value {rules : List Rule} {lump : Lump} :
  (applyRules rules options lump).value =
    let run := rules.foldl (fun run rule => (modifyStep options lump.name run rule).value)
      ⟨{ lump with entities := arrivals rules lump.entities },
        { removed := lump.entities.countP fun entity => rules.any (·.removes entity)
          added := (additions rules).countP Except.isOk
          errors := (additions rules).filterMap errorOf? }⟩
    (run.lump, run.report)
  := by
  unfold applyRules
  simp only [Logged.value_bind, Logged.value_foldlM, Logged.value_pure]
  rw [foldl_removeStep_value, foldl_addStep_value]
  simp [arrivals, LumpView.name]

/-- A run, rule by rule, gives the same lump and the same report as the run told entity by
entity. -/
theorem applyRules_eq_applyEach (rules : List Rule) (options : Options) (lump : Lump) :
  (applyRules rules options lump).value = applyEach rules options lump
  := by
  rw [applyRules_value, foldl_modifyStep_value]
  simp [applyEach]

end LumpRules
