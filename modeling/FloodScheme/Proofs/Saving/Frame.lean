import FloodScheme.Proofs.Saving.Regular
import FloodScheme.Proofs.Store.Frame

/-! Frame of a save. Every field that a level declares has a column, except for the fields that find
the scheme and its area. -/
namespace FloodScheme
open Outcome Decision

theorem Catalogue.rules_mapped : ∀ l ∈ levels, ∀ r ∈ l.rules,
    r.name = "referenceNumber" ∨ r.name = "areaId" ∨
      ∃ f ∈ Field.writable, f.wire = r.name ∧ f.column ≠ "rma_name" := by
  decide +kernel

namespace Proposal

variable {q : Proposal} {u : Upsert} {db : Database} {p : Principal} {a : Acceptance}
  {now : String} {saved : Saved}

theorem Sends.mapped (h : q.Sends u) (key : String) (v : Value)
    (sent : u.payload.get? key = some v) (named : key ≠ "referenceNumber")
    (placed : key ≠ "areaId") :
    ∃ f ∈ Field.writable, f.wire = key ∧ f.column ≠ "rma_name" := by
  obtain ⟨l, level, -, accepts⟩ := h.level
  obtain ⟨r, rule, rfl, -⟩ := accepts.rule_of_kept sent
  rcases Catalogue.rules_mapped l level r rule with name | area | mapped
  · exact absurd name named
  · exact absurd area placed
  · exact mapped

/-- The area that a change of the scheme `x` resolves, if it asks for another one. -/
def newArea (q : Proposal) (t : Tables) (x : Project) : Option Area :=
  (if movesArea q.payload (t.record x) then t.withParents (q.payload.get "areaId")
    else none).map AreaWithParents.area

theorem now_of_upsert {u : Upsert} (h : q.upsert p a now = .ok u) : u.now = now := by
  obtain ⟨stripped, -, h⟩ := bind_eq_ok.mp h
  obtain rfl := pure_eq_ok.mp h
  rfl

theorem frame_of_saved (ids : (db.tables.projects.map Project.id).Nodup)
    (h : (q.save db p now).1 = .ok saved) (changed : saved.created = false) :
    ∃ reference x, q.payload.get "referenceNumber" = .text reference ∧
      db.tables.project? reference = some x ∧
      (q.save db p now).2.project? reference = some saved.project ∧
      db.tables.Frame q.kept (q.newArea db.tables x) now x saved.project
        (q.save db p now).2 := by
  obtain ⟨a, u, vetted, upserted, written, made⟩ := save_eq_ok h
  obtain ⟨clean, accepted⟩ := vet_eq_ok vetted
  obtain ⟨strip, -, -, area⟩ := upsert_eq_ok upserted
  have sends : q.Sends u := ⟨clean, strip⟩
  rcases reference_cases clean strip with ⟨-, unnamed, -⟩ | ⟨-, s, some, named, stripped⟩
  · obtain ⟨-, rfl⟩ := accepted_new unnamed accepted
    rw [changed] at made
    cases made
  · obtain ⟨x, found, -, rfl⟩ := accepted_again some named accepted
    have updates := updates_of_named some stripped found written
    have frame := updates.frame ids sends.mapped sends.rmaName
    rw [now_of_upsert upserted, ← sends.kept_eq, area] at frame
    exact ⟨s, x, named, found, updates.change.project? found, frame⟩

end Proposal
end FloodScheme
