import FloodScheme.Level.Catalogue
import FloodScheme.Proofs.Level.Order
import FloodScheme.Proofs.Level.Reads
import FloodScheme.Proofs.Rule.Admits

/-! The whole report on a payload: what is reported, as what, and in which order. No field is
reported twice, and nothing is reported only if there is nothing to report. -/
namespace FloodScheme
open Outcome

namespace Rule

variable [Library] (r : Rule) (payload : Fields)

/-- An active rule does not fail: the value passes its check, or the rule is optional and the value
is null or absent. -/
def Content : Option Value → Prop
  | none => r.required = false
  | some v => r.required = false ∧ v.isNull = true ∨ r.Admits v

instance (sent : Option Value) : Decidable (r.Content sent) :=
  match sent with
  | none => inferInstanceAs (Decidable (r.required = false))
  | some _ => inferInstanceAs (Decidable (_ ∨ _))

/-- The rule is inactive and forbids its field then, and the payload has a value for it. -/
def Forbids : Prop :=
  r.isActive payload = false ∧ r.forbiddenOtherwise = true ∧
    (payload.get r.name).isBlank = false

instance : Decidable (r.Forbids payload) := inferInstanceAs (Decidable (_ ∧ _))

/-- The rule is active and fails, and the model has a field of its name. -/
def Objects : Prop :=
  r.isActive payload = true ∧ Library.hasField r.name = true ∧
    ¬ r.Content (payload.get? r.name)

instance : Decidable (r.Objects payload) := inferInstanceAs (Decidable (_ ∧ _))

def notAllowed : Failure :=
  .invalid (r.code ++ "_NOT_ALLOWED") (r.name ++ " should not be provided for this selection")
    r.name

/-- `_REQUIRED` for a field that is absent, or blank where the rule is required; `_INVALID` with the
message of the problem otherwise. -/
def objection : Failure :=
  if payload.has r.name = false ∨ r.required = true ∧ (payload.get r.name).isBlank = true then
    .invalid (r.code ++ "_REQUIRED") (r.name ++ " is required") r.name
  else
    .invalid (r.code ++ "_INVALID")
      (r.name ++ ": " ++ ((r.check (payload.get r.name)).map Problem.message).getD "") r.name

variable {r payload}

end Rule

def Failure.undeclared (name : String) : Failure :=
  .invalid (codeOfName name ++ "_NOT_ALLOWED") (name ++ " is not allowed at this level") name

/-- The main intervention type is not among the selected ones. -/
def Failure.unselected : Failure :=
  .invalid "PROJECT_MAIN_INTERVENTION_TYPE_INVALID"
    "mainInterventionType must be one of the selected projectInterventionTypes"
    "mainInterventionType"

namespace Registry

variable [Library] (r : Registry) (names : List String) (rules : List Rule) (payload : Fields)

def undeclared : List String :=
  payload.names.filter fun name => (r.declarations names name).isEmpty

/-- The main intervention type is declared and given, and no item of a list of intervention types is
equal to it. -/
def unselected : Bool :=
  let main := payload.get "mainInterventionType"
  match payload.get "projectInterventionTypes" with
  | .list types => !(r.declarations names "mainInterventionType").isEmpty && !main.isBlank &&
      types.all fun v => !v.equal main
  | _ => false

/-- What is reported of single fields: those that the selection forbids, those that no level
declares, and those that active rules object to. -/
def fieldReport : List Failure :=
  (rules.filter fun m => m.Forbids payload).map Rule.notAllowed ++
    (r.undeclared names payload).map Failure.undeclared ++
    (rules.filter fun m => m.Objects payload).map (·.objection payload)

/-- Everything that is reported; a main intervention type that is reported already is not reported
for the selection. -/
def report : List Failure :=
  r.fieldReport names rules payload ++
    if r.unselected names payload && (r.fieldReport names rules payload).all
        (·.field != some "mainInterventionType")
    then [.unselected] else []

end Registry

variable {rules : List Rule} {payload : Fields} {r : Registry} {names : List String}

namespace Registry

section
variable [Library]

end

/-- All bounds are numbers, and all conditions can be looked up in tables. -/
def Plain (r : Registry) : Prop :=
  ∀ l ∈ r.levels, ∀ d ∈ l.rules, d.Numeric ∧ ∀ c ∈ d.condition, c.isKey = true

theorem sameCondition?_isSome {a b : Rule} (ha : ∀ c ∈ a.condition, c.isKey = true)
    (hb : ∀ c ∈ b.condition, c.isKey = true) : (a.sameCondition? b).isSome = true := by
  unfold Rule.sameCondition? equalOptions?
  cases own : a.condition with
  | none =>
    cases b.condition with
    | none => rfl
    | some e => rfl
  | some c =>
    cases other : b.condition with
    | none => rfl
    | some e =>
      have keys := List.all_eq_true.mp (ha c own)
      have keys' := List.all_eq_true.mp (hb e other)
      refine Value.isSome_andThen rfl (Value.isSome_andThen ?_ rfl)
      exact Value.equalItems?_isSome fun x hx y hy => Value.equal?_isSome (keys x hx) (keys' y hy)

theorem Plain.testable (plain : r.Plain) (quiet : ∀ m ∈ payload, m.2.isQuiet = true) :
    r.Testable names payload := by
  have declared {field : String} {d : Rule} (mem : d ∈ r.declarations names field) :
      d.Numeric ∧ ∀ c ∈ d.condition, c.isKey = true := by
    obtain ⟨n, -, l, found, inside, -⟩ := mem_declarations.mp mem
    exact plain l (find?_eq_some found).1 d inside
  have calm (name : String) : (payload.get name).isQuiet = true := by
    unfold Fields.get
    cases found : payload.get? name with
    | none => rfl
    | some v => exact quiet _ (Fields.mem_of_get? found)
  refine ⟨⟨fun _ d mem => (declared mem).1, fun field => ?_⟩, fun _ d mem => (declared mem).2,
    fun _ d mem c own => ?_, fun types found => ?_⟩
  · refine List.Pairwise.imp_of_mem (fun ha hb _ => ?_) (List.pairwise_of_forall fun _ _ => trivial)
    exact ⟨sameCondition?_isSome (declared ha).2 (declared hb).2,
      sameCondition?_isSome (declared hb).2 (declared ha).2⟩
  · refine Value.signalsIn_of_isQuiet (calm c.field) fun v inside => ?_
    exact Value.isQuiet_of_isKey (List.all_eq_true.mp ((declared mem).2 c own) v inside)
  · refine Value.signalsIn_of_isQuiet (calm _) ?_
    have whole := calm "projectInterventionTypes"
    rw [found] at whole
    exact Value.allQuiet_iff.mp whole

theorem catalogue_plain : Catalogue.registry.Plain := by
  have each : ∀ l ∈ Catalogue.levels, ∀ d ∈ l.rules,
      ((∀ b ∈ d.minimum, b.isNaN = false) ∧ ∀ b ∈ d.maximum, b.isNaN = false) ∧
        ∀ c ∈ d.condition, c.isKey = true := by decide
  intro l level d mem
  obtain ⟨⟨minimum, maximum⟩, keys⟩ := each l level d mem
  exact ⟨⟨minimum, maximum⟩, keys⟩

theorem catalogue_builds (names : List String) : Catalogue.registry.Builds names := by
  have readable : ∀ l ∈ Catalogue.levels, ∀ d ∈ l.rules, d.Readable := by decide
  refine builds_of_readable fun l level d mem => readable l level d mem

def colouredScheme : Fields :=
  [("colour", .text "red"), ("projectType", .text "HCR"),
    ("projectInterventionTypes", .list [.text "NFM"]), ("referenceNumber", .text "ANC501E")]

/-- A field that is asked for where another one is a certain list, and a number that always is. -/
def listGated : Registry where
  levels := [⟨"A", [{ name := "g", kind := .textList, code := "G", required := false },
    gatedRule [.list [.text "x"]], { name := "h", kind := .integer, code := "H" }]⟩]

end Registry
end FloodScheme
