import FloodScheme.Proofs.Rule.Merge
import FloodScheme.Rule.Check

/-! Values that pass the check of a rule: what they are by the kind of the rule, and that they pass
the check of every rule with wider limits. -/
namespace FloodScheme
open Number

theorem problemOf_eq_none {α : Type} {check : α → Option Problem} {x : Except Problem α} :
    problemOf check x = none ↔ ∃ a, x = .ok a ∧ check a = none := by
  cases x with
  | error p => simp [problemOf]
  | ok a => simp [problemOf]

namespace Rule

variable [Library] {r : Rule} {v : Value}

theorem text_of_check (kind : r.kind = .text) (checked : r.check v = none) :
    ∃ s, v = .text s := by
  unfold check at checked
  rw [kind] at checked
  dsimp only at checked
  cases v with
  | text s => exact ⟨s, rfl⟩
  | null => split at checked <;> cases checked
  | bool b => split at checked <;> cases checked
  | int i => split at checked <;> cases checked
  | float x => split at checked <;> cases checked
  | decimal d => split at checked <;> cases checked
  | list items => split at checked <;> cases checked
  | object members => split at checked <;> cases checked

theorem list_of_check (kind : r.kind = .textList) (checked : r.check v = none) :
    ∃ items, v = .list items := by
  unfold check at checked
  rw [kind] at checked
  dsimp only at checked
  split at checked
  · next items => exact ⟨items, rfl⟩
  · cases checked

theorem integer_of_check (kind : r.kind = .integer) (checked : r.check v = none) :
    ∃ i, Reading.integer v = .ok i := by
  unfold check at checked
  rw [kind] at checked
  obtain ⟨i, read, -⟩ := problemOf_eq_none.mp checked
  exact ⟨i, read⟩

theorem boolean_of_check (kind : r.kind = .boolean) (checked : r.check v = none) :
    ∃ b, Reading.boolean v = .ok b := by
  unfold check at checked
  rw [kind] at checked
  obtain ⟨b, read, -⟩ := problemOf_eq_none.mp checked
  exact ⟨b, read⟩

theorem decimal_of_check (kind : r.kind = .decimal) (checked : r.check v = none) :
    ∃ negative c e, Reading.decimal v = .ok (.finite negative c e) := by
  unfold check at checked
  rw [kind] at checked
  obtain ⟨d, read, places⟩ := problemOf_eq_none.mp checked
  cases d with
  | finite negative c e => exact ⟨negative, c, e, read⟩
  | infinity negative => cases places
  | nan negative signalling payload => cases places

end Rule

variable {r : Rule} {d : Decimal}

theorem checkText_eq_none [Library] {s : String} : checkText r s = none ↔
    1 ≤ (Text.trimSpace s).length ∧ (∀ n ∈ r.maxLength, (Text.trimSpace s).length ≤ n) ∧
      ∀ p ∈ r.pattern, Library.admits p (Text.trimSpace s) = true := by
  unfold checkText
  dsimp only
  split
  · next empty => exact iff_of_false nofun fun h => absurd h.1 (Nat.not_le_of_lt empty)
  · next said =>
    have said : 1 ≤ (Text.trimSpace s).length := Nat.le_of_not_lt said
    split
    · next n long =>
      obtain ⟨found, longer⟩ := Option.filter_eq_some_iff.mp long
      have longer : n < (Text.trimSpace s).length := by simpa using longer
      exact iff_of_false nofun fun h => absurd (h.2.1 n found) (Nat.not_le_of_lt longer)
    · next short =>
      have short : ∀ n ∈ r.maxLength, (Text.trimSpace s).length ≤ n := by
        simpa [Option.filter_eq_none_iff] using short
      rw [Option.map_eq_none_iff, Option.filter_eq_none_iff]
      constructor
      · exact fun matched => ⟨said, short, fun p hp => by simpa using matched p hp⟩
      · rintro ⟨-, -, matched⟩ p hp
        simpa using matched p hp

theorem checkBounds_eq_none : checkBounds r d = none ↔
    (∀ b ∈ r.maximum, d.le b.value = true) ∧ ∀ b ∈ r.minimum, b.value.le d = true := by
  unfold checkBounds
  split
  · next b above =>
    obtain ⟨found, above⟩ := Option.filter_eq_some_iff.mp above
    exact iff_of_false nofun fun h => by simp [h.1 b found] at above
  · next below =>
    have below : ∀ b ∈ r.maximum, d.le b.value = true := by
      simpa [Option.filter_eq_none_iff] using below
    rw [Option.map_eq_none_iff, Option.filter_eq_none_iff]
    constructor
    · exact fun above => ⟨below, fun b hb => by simpa using above b hb⟩
    · rintro ⟨-, above⟩ b hb
      simpa using above b hb

theorem checkPlaces_eq_none : checkPlaces r d = none ↔ ∃ negative c e,
    d = .finite negative c e ∧
      ∀ n ∈ r.decimalPlaces, placesOf (Decimal.leanExponent c e) ≤ n := by
  cases d with
  | finite negative c e =>
    rw [checkPlaces, Option.map_eq_none_iff, Option.filter_eq_none_iff]
    simp
  | infinity negative => simp [checkPlaces]
  | nan negative signalling payload => simp [checkPlaces]

namespace Rule

/-- A rule asks for the same kind of values within limits that are at least as wide. Choices
that are empty do not count as choices. -/
structure Covers (a b : Rule) : Prop where
  kind : a.kind = b.kind
  minimum : ∀ x ∈ a.minimum, ∃ y ∈ b.minimum, x.AtMost y
  maximum : ∀ x ∈ a.maximum, ∃ y ∈ b.maximum, y.AtMost x
  maxLength : ∀ n ∈ a.maxLength, ∃ k ∈ b.maxLength, k ≤ n
  minItems : ∀ n ∈ a.minItems, ∃ k ∈ b.minItems, n ≤ k
  decimalPlaces : ∀ n ∈ a.decimalPlaces, ∃ k ∈ b.decimalPlaces, k ≤ n
  chosen : Option.Rel (fun cs ds => ds ⊆ cs) a.chosenFrom b.chosenFrom
  pattern : ∀ p ∈ a.pattern, p ∈ b.pattern

variable {a b : Rule} {v : Value}

theorem Covers.checkBounds (h : a.Covers b) (passed : checkBounds b d = none) :
    checkBounds a d = none := by
  obtain ⟨above, below⟩ := checkBounds_eq_none.mp passed
  refine checkBounds_eq_none.mpr ⟨fun x hx => ?_, fun x hx => ?_⟩
  · obtain ⟨y, hy, wider⟩ := h.maximum x hx
    rcases wider with rfl | le
    · exact above y hy
    · exact Decimal.le_trans (above y hy) le
  · obtain ⟨y, hy, wider⟩ := h.minimum x hx
    rcases wider with rfl | le
    · exact below x hy
    · exact Decimal.le_trans le (below y hy)

theorem Covers.checkPlaces (h : a.Covers b) (passed : checkPlaces b d = none) :
    checkPlaces a d = none := by
  obtain ⟨negative, c, e, finite, fine⟩ := checkPlaces_eq_none.mp passed
  refine checkPlaces_eq_none.mpr ⟨negative, c, e, finite, fun n hn => ?_⟩
  obtain ⟨k, hk, wider⟩ := h.decimalPlaces n hn
  exact Nat.le_trans (fine k hk) wider

theorem Covers.checkText [Library] (h : a.Covers b) {s : String} (passed : checkText b s = none) :
    checkText a s = none := by
  obtain ⟨said, short, matched⟩ := checkText_eq_none.mp passed
  refine checkText_eq_none.mpr ⟨said, fun n hn => ?_, fun p hp => matched p (h.pattern p hp)⟩
  obtain ⟨k, hk, wider⟩ := h.maxLength n hn
  exact Nat.le_trans (short k hk) wider

theorem choice_eq_ok {choices : List String} {s : String} :
    Reading.choice choices v = .ok s ↔ v = .text s ∧ s ∈ choices := by
  cases v with
  | text t =>
    rw [Reading.choice]
    split
    · next among =>
      constructor
      · intro same
        cases same
        exact ⟨rfl, by simpa using among⟩
      · rintro ⟨same, -⟩
        cases same
        rfl
    · next other =>
      refine iff_of_false nofun ?_
      rintro ⟨same, among⟩
      cases same
      exact other (by simpa using among)
  | null => simp [Reading.choice]
  | bool b => simp [Reading.choice]
  | int i => simp [Reading.choice]
  | float x => simp [Reading.choice]
  | decimal d => simp [Reading.choice]
  | list items => simp [Reading.choice]
  | object members => simp [Reading.choice]

theorem choice_mono {cs ds : List String} (sub : ds ⊆ cs)
    (passed : problemOf (fun _ => none) (Reading.choice ds v) = none) :
    problemOf (fun _ => none) (Reading.choice cs v) = none := by
  obtain ⟨s, read, -⟩ := problemOf_eq_none.mp passed
  obtain ⟨text, among⟩ := choice_eq_ok.mp read
  exact problemOf_eq_none.mpr ⟨s, choice_eq_ok.mpr ⟨text, sub among⟩, rfl⟩

theorem Covers.checkItem (h : a.Covers b) (passed : checkItem b v = none) :
    checkItem a v = none := by
  unfold FloodScheme.checkItem at passed ⊢
  rcases rel_cases h.chosen with ⟨own, other⟩ | ⟨cs, ds, own, other, sub⟩
  · rw [own]
    rw [other] at passed
    exact passed
  · rw [own]
    rw [other] at passed
    exact choice_mono sub passed

theorem Covers.check [Library] (h : a.Covers b) (passed : b.check v = none) : a.check v = none := by
  unfold Rule.check at passed ⊢
  rw [h.kind]
  cases kind : b.kind with
  | text =>
    simp only [kind] at passed ⊢
    rcases rel_cases h.chosen with ⟨own, other⟩ | ⟨cs, ds, own, other, sub⟩
    · rw [own]
      rw [other] at passed
      obtain ⟨s, read, text⟩ := problemOf_eq_none.mp passed
      exact problemOf_eq_none.mpr ⟨s, read, h.checkText text⟩
    · rw [own]
      rw [other] at passed
      exact choice_mono sub passed
  | integer =>
    simp only [kind] at passed ⊢
    obtain ⟨i, read, bounds⟩ := problemOf_eq_none.mp passed
    exact problemOf_eq_none.mpr ⟨i, read, h.checkBounds bounds⟩
  | boolean =>
    simp only [kind] at passed ⊢
    exact passed
  | textList =>
    simp only [kind] at passed ⊢
    cases v with
    | list items =>
      dsimp only at passed ⊢
      split at passed
      · cases passed
      · next fine =>
        have each : items.findSome? (FloodScheme.checkItem a) = none :=
          List.findSome?_eq_none_iff.mpr fun v mem =>
            h.checkItem (List.findSome?_eq_none_iff.mp fine v mem)
        rw [each]
        rw [Option.map_eq_none_iff, Option.filter_eq_none_iff] at passed ⊢
        intro n least
        obtain ⟨k, hk, wider⟩ := h.minItems n least
        have enough := passed k hk
        simp only [decide_eq_true_eq, Nat.not_lt] at enough ⊢
        exact Nat.le_trans wider enough
    | null => exact passed
    | bool b => exact passed
    | int i => exact passed
    | float x => exact passed
    | decimal d => exact passed
    | text s => exact passed
    | object members => exact passed
  | decimal =>
    simp only [kind] at passed ⊢
    obtain ⟨d, read, limits⟩ := problemOf_eq_none.mp passed
    obtain ⟨places, bounds⟩ := Option.or_eq_none_iff.mp limits
    refine problemOf_eq_none.mpr ⟨d, read, ?_⟩
    exact Option.or_eq_none_iff.mpr ⟨h.checkPlaces places, h.checkBounds bounds⟩

theorem chosen_of_choices (h : Option.Rel (fun cs ds => ds ⊆ cs ∧ (cs ≠ [] → ds ≠ []))
    a.choices b.choices) : Option.Rel (fun cs ds => ds ⊆ cs) a.chosenFrom b.chosenFrom := by
  unfold chosenFrom
  rcases rel_cases h with ⟨own, other⟩ | ⟨cs, ds, own, other, sub, given⟩
  · rw [own, other]
    exact .none
  · rw [own, other]
    cases cs with
    | nil =>
      rw [List.subset_nil.mp sub]
      exact .none
    | cons c cs =>
      cases ds with
      | nil => exact absurd rfl (given (List.cons_ne_nil c cs))
      | cons d ds => exact .some fun s mem => mem_distinct.mpr (sub (mem_distinct.mp mem))

variable {ds es : List Rule}

theorem Widens.covers (h : a.Widens ds) (h' : b.Widens es) (sub : es ⊆ ds)
    (choices : Option.Rel (fun cs ds => ds ⊆ cs ∧ (cs ≠ [] → ds ≠ [])) a.choices b.choices) :
    a.Covers b := by
  obtain ⟨e, mem⟩ := List.exists_mem_of_ne_nil es h'.given
  refine
    { kind := (h.kind e (sub mem)).symm.trans (h'.kind e mem)
      minimum := h.minimum.mono h'.minimum (List.map_subset _ sub)
      maximum := h.maximum.mono h'.maximum (List.map_subset _ sub)
      maxLength := h.maxLength.mono h'.maxLength (List.map_subset _ sub)
      minItems := h.minItems.mono h'.minItems (List.map_subset _ sub)
      decimalPlaces := h.decimalPlaces.mono h'.decimalPlaces (List.map_subset _ sub)
      chosen := chosen_of_choices choices
      pattern := ?_ }
  intro p hp
  have common : ∀ y ∈ es.map Rule.pattern, y = a.pattern := by
    rcases h.pattern with all | ⟨none, -⟩
    · exact fun y mem => all y (List.map_subset _ sub mem)
    · rw [none] at hp
      cases hp
  have pattern := common _ (List.mem_map_of_mem mem)
  rcases h'.pattern with all | ⟨-, y, hy, z, hz, differ⟩
  · exact (all _ (List.mem_map_of_mem mem)).symm.trans (pattern.trans hp)
  · exact absurd ((common y hy).trans (common z hz).symm) differ

section
variable [Library]

theorem failure?_eq_none {payload : Fields} : a.failure? payload = none ↔
    (Library.hasField a.name = true →
      match payload.get? a.name with
      | none => a.required = false
      | some v => (a.required = false ∧ v.isNull = true) ∨ a.check v = none) := by
  unfold failure?
  cases Library.hasField a.name with
  | false => simp
  | true =>
    simp only [Bool.not_true, Bool.false_eq_true, if_false, true_imp_iff]
    cases found : payload.get? a.name with
    | none =>
      cases a.required with
      | false => simp
      | true => simp
    | some v =>
      cases a.required with
      | false =>
        by_cases null : v.isNull = true
        · simp [null]
        · simp [null]
      | true => simp

theorem Covers.failure? (h : a.Covers b) (name : a.name = b.name)
    (required : a.required = true → b.required = true) {payload : Fields}
    (passed : b.failure? payload = none) : a.failure? payload = none := by
  have optional (h : b.required = false) : a.required = false := by
    cases own : a.required with
    | false => rfl
    | true =>
      rw [required own] at h
      cases h
  rw [failure?_eq_none] at passed ⊢
  rw [name]
  intro field
  have passed := passed field
  cases sent : payload.get? b.name with
  | none =>
    rw [sent] at passed
    exact optional passed
  | some v =>
    rw [sent] at passed
    exact passed.imp (fun none => ⟨optional none.1, none.2⟩) h.check

end
end Rule
end FloodScheme
