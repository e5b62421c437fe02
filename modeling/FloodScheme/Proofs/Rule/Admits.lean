import FloodScheme.Proofs.Rule.Check

/-! Values that pass the check of a rule, stated without the order in which the limits are tried:
the value is read as its kind, and the result is within all limits of the kind. -/
namespace FloodScheme
open Number

namespace Rule

def Chooses (r : Rule) (s : String) : Prop := ∀ choices ∈ r.chosenFrom, s ∈ choices

/-- The trimmed text is not empty, is short enough and matches the pattern. -/
def FitsText [Library] (r : Rule) (s : String) : Prop :=
  1 ≤ (Text.trimSpace s).length ∧ (∀ n ∈ r.maxLength, (Text.trimSpace s).length ≤ n) ∧
    ∀ p ∈ r.pattern, Library.admits p (Text.trimSpace s) = true

def Within (r : Rule) (d : Decimal) : Prop :=
  (∀ b ∈ r.maximum, d.le b.value = true) ∧ ∀ b ∈ r.minimum, b.value.le d = true

def Exact (r : Rule) (d : Decimal) : Prop :=
  ∃ negative c e, d = .finite negative c e ∧
    ∀ n ∈ r.decimalPlaces, placesOf (Decimal.leanExponent c e) ≤ n

def Admits [Library] (r : Rule) (v : Value) : Prop :=
  match r.kind with
  | .text => ∃ s, v = .text s ∧ r.Chooses s ∧ (r.chosenFrom = none → r.FitsText s)
  | .integer => ∃ i, Reading.integer v = .ok i ∧ r.Within (.ofInt i)
  | .boolean => ∃ b, Reading.boolean v = .ok b
  | .textList => ∃ texts : List String, v = .list (texts.map .text) ∧
      (∀ s ∈ texts, r.Chooses s) ∧ ∀ n ∈ r.minItems, n ≤ texts.length
  | .decimal => ∃ d, Reading.decimal v = .ok d ∧ r.Exact d ∧ r.Within d

variable {r : Rule} {v : Value}

theorem text_eq_ok {s : String} : Reading.text v = .ok s ↔ v = .text s := by
  cases v with
  | text t => simp [Reading.text]
  | null => simp [Reading.text]
  | bool b => simp [Reading.text]
  | int i => simp [Reading.text]
  | float x => simp [Reading.text]
  | decimal d => simp [Reading.text]
  | list items => simp [Reading.text]
  | object members => simp [Reading.text]

theorem checkItem_eq_none : checkItem r v = none ↔ ∃ s, v = .text s ∧ r.Chooses s := by
  unfold checkItem Chooses
  cases chosen : r.chosenFrom with
  | none => simp [problemOf_eq_none, text_eq_ok]
  | some choices => simp [problemOf_eq_none, choice_eq_ok]

theorem checkItems_eq_none {items : List Value} : items.findSome? (checkItem r) = none ↔
    ∃ texts : List String, items = texts.map .text ∧ ∀ s ∈ texts, r.Chooses s := by
  rw [List.findSome?_eq_none_iff]
  constructor
  · intro each
    induction items with
    | nil => exact ⟨[], rfl, nofun⟩
    | cons item rest ih =>
      obtain ⟨first, others⟩ := List.forall_mem_cons.mp each
      obtain ⟨s, rfl, chosen⟩ := checkItem_eq_none.mp first
      obtain ⟨texts, rfl, all⟩ := ih others
      exact ⟨s :: texts, rfl, List.forall_mem_cons.mpr ⟨chosen, all⟩⟩
  · rintro ⟨texts, rfl, all⟩ item mem
    obtain ⟨s, inside, rfl⟩ := List.mem_map.mp mem
    exact checkItem_eq_none.mpr ⟨s, rfl, all s inside⟩

theorem texts_injective {a b : List String} (same : a.map Value.text = b.map Value.text) :
    a = b := List.map_injective_iff.mpr (fun _ _ => Value.text.inj) same

theorem check_eq_none_iff [Library] : r.check v = none ↔ r.Admits v := by
  unfold check Admits
  cases r.kind with
  | text =>
    dsimp only
    cases chosen : r.chosenFrom with
    | none => simp [problemOf_eq_none, text_eq_ok, checkText_eq_none, Chooses, chosen, FitsText]
    | some choices => simp [problemOf_eq_none, choice_eq_ok, Chooses, chosen]
  | integer => simp only [problemOf_eq_none, checkBounds_eq_none, Within]
  | boolean => simp only [problemOf_eq_none, and_true]
  | textList =>
    dsimp only
    split
    · next items =>
      split
      · next p failed =>
        refine iff_of_false nofun ?_
        rintro ⟨texts, same, all, -⟩
        cases same
        rw [checkItems_eq_none.mpr ⟨texts, rfl, all⟩] at failed
        cases failed
      · next clean =>
        obtain ⟨texts, rfl, all⟩ := checkItems_eq_none.mp clean
        rw [Option.map_eq_none_iff, Option.filter_eq_none_iff]
        constructor
        · intro enough
          exact ⟨texts, rfl, all, fun n least => by simpa using enough n least⟩
        · rintro ⟨texts', same, -, enough⟩ n least
          obtain rfl := texts_injective (Value.list.inj same)
          simpa using enough n least
    · next other =>
      refine iff_of_false nofun ?_
      rintro ⟨texts, rfl, -⟩
      exact other _ rfl
  | decimal =>
    simp only [problemOf_eq_none, Option.or_eq_none_iff, checkPlaces_eq_none, checkBounds_eq_none,
      Exact, Within]

instance [Library] (r : Rule) (v : Value) : Decidable (r.Admits v) := decidable_of_iff _ check_eq_none_iff

theorem between_of_check [Library] {lo hi : Int} (kind : r.kind = .integer)
    (least : r.minimum = some (.int lo)) (most : r.maximum = some (.int hi))
    (checked : r.check v = none) : ∃ i, Reading.integer v = .ok i ∧ lo ≤ i ∧ i ≤ hi := by
  have admitted := check_eq_none_iff.mp checked
  simp only [Admits, kind] at admitted
  obtain ⟨i, read, below, above⟩ := admitted
  exact ⟨i, read, Decimal.ofInt_le_ofInt.mp (above _ least),
    Decimal.ofInt_le_ofInt.mp (below _ most)⟩

end Rule
end FloodScheme
