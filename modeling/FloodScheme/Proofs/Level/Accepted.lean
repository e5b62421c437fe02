import FloodScheme.Proofs.Level.Single
import FloodScheme.Proofs.Rule.Check
import FloodScheme.Proofs.Saving

/-! A payload that a level accepts, and what is left of it for the write. Every field of it is
declared by a rule of the level; what is written passes the check of its rule, or is the null of an
optional field. -/
namespace FloodScheme

/-- `validate` returns no failures at the level, and `strip` returns `kept`. -/
structure Level.Accepts (l : Level) (payload kept : Fields) : Prop where
  clean : levelFailures l.rules payload = []
  apart : (l.rules.map Rule.name).Nodup
  fields : ∀ r ∈ l.rules, Library.hasField r.name = true
  kept : kept = keepActive l.rules payload

/-- An active rule reports no failure of the value. -/
def Rule.Takes (r : Rule) (v : Value) : Prop :=
  r.required = false ∧ v = .null ∨ r.check v = none

namespace Level.Accepts
open Catalogue

variable {l : Level} {payload kept : Fields} {r : Rule} {name : String} {v : Value}

theorem rule_of_sent (h : l.Accepts payload kept) (sent : payload.get? name = some v) :
    ∃ r ∈ l.rules, r.name = name := by
  cases declared : declares l.rules name with
  | false =>
    rw [get?_of_undeclared h.clean declared] at sent
    cases sent
  | true =>
    obtain ⟨r, mem, named⟩ := List.any_eq_true.mp declared
    exact ⟨r, mem, by simpa using named⟩

theorem failure?_eq_none (h : l.Accepts payload kept) (mem : r ∈ l.rules)
    (active : r.isActive payload = true) : r.failure? payload = none := by
  have passes := (levelFailures_eq_nil.mp h.clean).1 r mem
  rw [Rule.Passes, if_pos active] at passes
  exact passes

theorem takes_of_active (h : l.Accepts payload kept) (mem : r ∈ l.rules)
    (active : r.isActive payload = true) (sent : payload.get? r.name = some v) : r.Takes v := by
  have clean := h.failure?_eq_none mem active
  unfold Rule.failure? at clean
  simp only [sent, h.fields r mem, Bool.not_true, Bool.false_eq_true, if_false] at clean
  split at clean
  · next optional =>
    simp only [Bool.and_eq_true, Bool.not_eq_true'] at optional
    cases v with
    | null => exact .inl ⟨optional.1, rfl⟩
    | bool b => cases optional.2
    | int i => cases optional.2
    | float x => cases optional.2
    | decimal d => cases optional.2
    | text s => cases optional.2
    | list items => cases optional.2
    | object members => cases optional.2
  · exact .inr (Option.map_eq_none_iff.mp clean)

theorem get?_kept (h : l.Accepts payload kept) (mem : r ∈ l.rules) :
    kept.get? r.name = if r.isActive payload then payload.get? r.name else none := by
  rw [h.kept, get?_keepActive_of_mem payload h.apart mem]

theorem sent_of_kept (h : l.Accepts payload kept) (found : kept.get? name = some v) :
    payload.get? name = some v := by
  rw [h.kept, get?_keepActive] at found
  split at found
  · exact found
  · cases found

theorem rule_of_kept (h : l.Accepts payload kept) (found : kept.get? name = some v) :
    ∃ r ∈ l.rules, r.name = name ∧ r.isActive payload = true ∧ r.Takes v := by
  have sent := h.sent_of_kept found
  obtain ⟨r, mem, rfl⟩ := h.rule_of_sent sent
  rw [h.get?_kept mem] at found
  split at found
  · next active => exact ⟨r, mem, rfl, active, h.takes_of_active mem active sent⟩
  · cases found

theorem kept_of_required (h : l.Accepts payload kept) (mem : r ∈ l.rules)
    (required : r.required = true) (active : r.isActive payload = true) :
    ∃ v, kept.get? r.name = some v ∧ r.check v = none := by
  obtain ⟨v, sent, checked⟩ :=
    checked_of_required (h.fields r mem) required (h.failure?_eq_none mem active)
  exact ⟨v, by rw [h.get?_kept mem, if_pos active, sent], checked⟩

end Level.Accepts

namespace Proposal

variable {q : Proposal} {u : Upsert}

def kept (q : Proposal) : Fields :=
  (Catalogue.registry.strip (.text q.level) q.payload).toOption.getD []

theorem Sends.kept_eq (h : q.Sends u) : q.kept = u.payload := by
  rw [kept, h.stripped]
  rfl

theorem Sends.level (h : q.Sends u) :
    ∃ l ∈ Catalogue.levels, l.name = q.level ∧ l.Accepts q.payload u.payload := by
  obtain ⟨l, found, clean⟩ := Catalogue.validate_eq_ok h.accepted
  have first : Catalogue.levels.find? (fun l => l.name == q.level) = some l := found
  have mem := List.mem_of_find?_eq_some first
  exact ⟨l, mem, by simpa using List.find?_some first,
    clean, Catalogue.rules_nodup l mem, Catalogue.rules_fields l mem,
    Catalogue.strip_eq_ok found h.stripped⟩

end Proposal
end FloodScheme
