import FloodScheme.Proofs.Decision.Agreement
import FloodScheme.Proofs.Decision.Stripped
import FloodScheme.Proofs.Rule.Admits
import FloodScheme.Proofs.Value.Readers

/-! Conversions of payload fields in a decision: months and years to numbers, names and reference
numbers to texts. In a payload that a level accepts these fields are blank or have passed a check
after which the conversion does not stop. -/
namespace FloodScheme
open Number

theorem Number.isWritable_of_word {i : Int} (word : ColumnType.isWord i = true) :
    isWritable i = true := by
  have bounds : -(2 ^ 63) ≤ i ∧ i < 2 ^ 63 := by
    simpa [ColumnType.isWord] using word
  have small : i.natAbs < 10 ^ 19 := by omega
  rw [isWritable, decide_eq_true_eq]
  exact Nat.lt_of_lt_of_le small (Nat.pow_le_pow_right (by decide) (by decide))

theorem Value.null_or_text_of_isBlank {v : Value} (blank : v.isBlank = true) :
    v = .null ∨ ∃ s, v = .text s := by
  cases v with
  | null => exact .inl rfl
  | text s => exact .inr ⟨s, rfl⟩
  | bool b => cases blank
  | int i => cases blank
  | float x => cases blank
  | decimal d => cases blank
  | list items => cases blank
  | object members => cases blank

theorem Value.countable_of_isBlank {v : Value} (blank : v.isBlank = true) : v.Countable := by
  have none := Timeline.part_of_isBlank blank
  rcases null_or_text_of_isBlank blank with rfl | ⟨s, rfl⟩
  · exact ⟨_, rfl, rfl⟩
  · exact ⟨_, none, rfl⟩

theorem Value.countable_of_reading {v : Value} {i : Int} (json : v.FromJson)
    (read : Reading.integer v = .ok i) (word : ColumnType.isWord i = true) : v.Countable := by
  rcases (readers_agree json read).1.years with unread | own
  · exact ⟨none, unread, rfl⟩
  · exact ⟨some i, own, by rw [Option.all_some, isWritable_of_word word]⟩

namespace Decision

def numberFields : List String :=
  ["financialStartYear", "financialEndYear"] ++
    Timeline.milestones.flatMap fun m => [m.monthField, m.yearField]

def textFields : List String := ["referenceNumber", "name"]

structure Converts (payload : Fields) : Prop where
  numbers : ∀ name ∈ numberFields, (payload.get name).Countable
  texts : ∀ name ∈ textFields, payload.get name = .null ∨ ∃ s, payload.get name = .text s

end Decision

namespace Catalogue
open Decision

theorem converted_closed : ∀ l ∈ levels, ∀ r ∈ l.rules, r.name ∈ numberFields ++ textFields →
    r.forbiddenOtherwise = r.condition.isSome := by decide

theorem numberFields_bounded : ∀ l ∈ levels, ∀ r ∈ l.rules, r.name ∈ numberFields →
    r.kind = .integer ∧ ∃ b ∈ [(1, 12), (2000, 2100)],
      r.minimum = some (.int b.1) ∧ r.maximum = some (.int b.2) := by decide

theorem textFields_text : ∀ l ∈ levels, ∀ r ∈ l.rules, r.name ∈ textFields → r.kind = .text := by
  decide

end Catalogue

namespace Level.Accepts
open Catalogue Decision

variable {l : Level} {payload kept : Fields} {name : String}

theorem blank_or_checked (h : l.Accepts payload kept)
    (closed : ∀ r ∈ l.rules, r.name = name → r.forbiddenOtherwise = r.condition.isSome) :
    (payload.get name).isBlank = true ∨
      ∃ v, payload.get? name = some v ∧ ∃ r ∈ l.rules, r.name = name ∧ r.check v = none := by
  cases sent : payload.get? name with
  | none =>
    rw [Fields.get, sent]
    exact .inl rfl
  | some v =>
    obtain ⟨r, mem, rfl⟩ := h.rule_of_sent sent
    cases active : r.isActive payload with
    | true =>
      rcases h.takes_of_active mem active sent with ⟨-, rfl⟩ | checked
      · rw [Fields.get, sent]
        exact .inl rfl
      · exact .inr ⟨v, rfl, r, mem, rfl, checked⟩
    | false => exact .inl (h.blank_of_inactive mem (closed r mem rfl) active)

theorem converts (h : l.Accepts payload kept) (level : l ∈ levels)
    (json : (Value.object payload).FromJson) : Converts payload := by
  have each {name : String} {v : Value} (sent : payload.get? name = some v) : v.FromJson := by
    cases json with
    | object each => exact each _ (Fields.mem_of_get? sent)
  constructor
  · intro name number
    rcases h.blank_or_checked fun r mem own =>
      converted_closed l level r mem (List.mem_append_left _ (own ▸ number)) with
      blank | ⟨v, sent, r, mem, rfl, checked⟩
    · exact Value.countable_of_isBlank blank
    · obtain ⟨kind, b, bounds, least, most⟩ := numberFields_bounded l level r mem number
      obtain ⟨i, read, above, below⟩ := Rule.between_of_check kind least most checked
      have word : ColumnType.isWord i = true := by
        rcases List.mem_pair.mp bounds with rfl | rfl
        · simp [ColumnType.isWord]
          omega
        · simp [ColumnType.isWord]
          omega
      have value : payload.get r.name = v := by
        rw [Fields.get, sent]
        rfl
      rw [value]
      exact Value.countable_of_reading (each sent) read word
  · intro name text
    rcases h.blank_or_checked fun r mem own =>
      converted_closed l level r mem (List.mem_append_right _ (own ▸ text)) with
      blank | ⟨v, sent, r, mem, rfl, checked⟩
    · exact Value.null_or_text_of_isBlank blank
    · obtain ⟨s, rfl⟩ := Rule.text_of_check (textFields_text l level r mem text) checked
      exact .inr ⟨s, by rw [Fields.get, sent]; rfl⟩

end Level.Accepts

end FloodScheme
