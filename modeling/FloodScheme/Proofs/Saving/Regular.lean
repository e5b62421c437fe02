import FloodScheme.Proofs.Level.Accepted
import FloodScheme.Proofs.Saving.Rights
import FloodScheme.Proofs.Store.Regular

/-! Saves keep the tables regular, whatever they are asked to write and whatever fails on the way:
no level takes the name of an area, so it comes with the area that the link leads to. -/
namespace FloodScheme

theorem Catalogue.rmaName_unknown : ∀ l ∈ levels, ∀ r ∈ l.rules, r.name ≠ "rmaName" := by
  decide

namespace Proposal

variable {t t' : Tables} {q : Proposal} {p : Principal} {x x' : Project}

theorem Sends.rmaName {u : Upsert} (h : q.Sends u) : u.payload.get? "rmaName" = none := by
  obtain ⟨l, level, -, accepts⟩ := h.level
  cases found : u.payload.get? "rmaName" with
  | none => rfl
  | some v =>
    obtain ⟨r, rule, named, -⟩ := accepts.rule_of_kept found
    exact absurd named (Catalogue.rmaName_unknown l level r rule)

theorem SavesNew.regular (h : q.SavesNew t p x t') (before : t.Regular) :
    t'.Regular ∧ t.Extends t' := by
  obtain ⟨a, code, u, coded, found, -, area, -, sends, creates⟩ := h.area
  exact ⟨creates.regular before area found ⟨code, coded⟩ sends.rmaName, creates.extends⟩

theorem SavesAgain.regular (h : q.SavesAgain t p x x' t') (before : t.Regular) :
    t'.Regular ∧ t.Extends t' := by
  obtain ⟨u, sends, updates, moved⟩ := h.moved
  exact ⟨updates.regular before (fun a area => (moved a area).2) sends.rmaName,
    updates.extends before.owned.ids⟩

theorem save_regular (q : Proposal) {db : Database} (p : Principal) (now : String)
    (before : db.tables.Regular) :
    (q.save db p now).2.Regular ∧ db.tables.Extends (q.save db p now).2 := by
  rcases save_tables q db p now with same | ⟨x, new⟩ | ⟨x, x', again⟩
  · rw [same]
    exact ⟨before, .refl _⟩
  · exact new.regular before
  · exact again.regular before

end Proposal
end FloodScheme
