import FloodScheme.Proofs.Number.Written
import FloodScheme.Proofs.Outcome
import FloodScheme.Store.Lookup

/-! Texts that a reference number is looked for by. A value that says something is never looked
for as the empty text. -/
namespace FloodScheme
open Number Outcome

theorem Number.integerText_ne_empty (i : Int) : integerText i ≠ "" := by
  intro empty
  have chars := congrArg String.toList empty
  rw [toList_integerText, integerChars] at chars
  split at chars
  · cases chars
  · exact digits_ne_nil _ chars

namespace Number.Double

theorem positional_ne_nil (ds : List Char) (top : Int) : positional ds top ≠ [] := by
  unfold positional
  split
  · simp
  · simp

theorem scientific_ne_nil {ds : List Char} (top : Int) (h : ds ≠ []) : scientific ds top ≠ [] := by
  match ds, h with
  | [d], _ => simp [scientific]
  | d :: e :: rest, _ => simp [scientific]

theorem roundedText_ne_empty {x : Double} (h : x ≠ nan) : x.roundedText ≠ "" := by
  have text {cs : List Char} (some : cs ≠ []) : String.ofList cs ≠ "" := by
    intro empty
    exact some (by simpa using congrArg String.toList empty)
  cases x with
  | nan => exact absurd rfl h
  | infinity negative =>
    cases negative with
    | true => decide
    | false => decide
  | finite negative m e =>
    unfold roundedText
    dsimp only
    split
    · decide
    · split
      · exact text (List.append_ne_nil_of_right_ne_nil _ (positional_ne_nil _ _))
      · refine text (List.append_ne_nil_of_right_ne_nil _ (scientific_ne_nil _ ?_))
        split
        · simp
        · exact digits_ne_nil _

end Number.Double

theorem keepText_float_ne_empty {x : Double} {v : Value}
    (bound : ColumnType.bind (.float x) = .ok v) : ColumnType.keepText v ≠ .text "" := by
  cases x with
  | nan =>
    cases bound
    intro h
    cases h
  | infinity negative =>
    have text := Double.roundedText_ne_empty (x := .infinity negative) (by simp)
    cases bound
    exact fun h => text (Value.text.inj h)
  | finite negative m e =>
    have text := Double.roundedText_ne_empty (x := .finite negative m e) (by simp)
    cases bound
    exact fun h => text (Value.text.inj h)

theorem searchText_ne_empty {v : Value} {s : String} (said : v.truthy = true)
    (h : searchText v = .ok (some s)) : s ≠ "" := by
  rintro rfl
  unfold searchText at h
  obtain ⟨w, bound, read⟩ := map_eq_ok.mp h
  have empty : ColumnType.keepText w = .text "" := by
    split at read
    · next found => rw [found, Option.some.inj read]
    · cases read
  cases v with
  | null => cases said
  | bool b =>
    cases bound
    exact integerText_ne_empty _ (Value.text.inj empty)
  | int i =>
    simp only [ColumnType.bind] at bound
    split at bound
    · cases bound
      exact integerText_ne_empty _ (Value.text.inj empty)
    · cases bound
  | float x => exact keepText_float_ne_empty bound empty
  | decimal d =>
    obtain ⟨x, prepared, bound⟩ := bind_eq_ok.mp bound
    simp only [ColumnType.prepareNumeric] at prepared
    split at prepared
    · cases prepared
    · cases prepared
      exact keepText_float_ne_empty bound empty
  | text t =>
    cases bound
    cases empty
    cases said
  | list items => cases bound
  | object members => cases bound

end FloodScheme
