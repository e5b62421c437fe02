import FloodScheme.Proofs.Saving.Frame
import FloodScheme.Proofs.Service.Window

/-! What a request that changes a scheme leaves alone, whatever is stored and whoever asks. -/
namespace FloodScheme.Service
open Outcome

variable {s : Service} {r : Request} {now : String} {q : Proposal}

theorem changed_of_answer (post : r.method = "POST") (path : r.path = "/api/v1/project/upsert")
    (changed : (s.answer r now).1.status = 200) :
    ∃ p q saved, r.Proposes q ∧ (q.save s.database p now).1 = .ok saved ∧
      saved.created = false ∧ (s.answer r now).2.tables = (q.save s.database p now).2 := by
  obtain ⟨p, q, saved, -, sent, saves, tables, response⟩ :=
    response_of_answer post path (by rw [changed]; decide)
  refine ⟨p, q, saved, sent, saves, ?_, tables⟩
  rw [response, Response.written] at changed
  split at changed
  · cases made : saved.created with
    | false => rfl
    | true =>
      rw [savedStatus, made] at changed
      cases changed
  · cases changed

/-- A request that updates a scheme writes each active field of its payload to the column of the
field. `rma_name` and the area of the first link change only if the request resolves a new area, the
date of the urgency details only if the payload has them. Every other column except `updated_at`,
every other scheme and every row of the other tables stays as it was. -/
theorem update_frame (ids : (s.tables.projects.map Project.id).Nodup) (post : r.method = "POST")
    (path : r.path = "/api/v1/project/upsert") (sent : r.Proposes q)
    (changed : (s.answer r now).1.status = 200) :
    ∃ reference x x', q.payload.get "referenceNumber" = .text reference ∧
      s.tables.project? reference = some x ∧
      (s.answer r now).2.tables.project? reference = some x' ∧
      s.tables.Frame q.kept (q.newArea s.tables x) now x x' (s.answer r now).2.tables := by
  obtain ⟨p, q', saved, sent', saves, made, tables⟩ := changed_of_answer post path changed
  obtain rfl := sent.eq sent'
  obtain ⟨reference, x, named, found, after, frame⟩ :=
    Proposal.frame_of_saved ids saves made
  rw [tables]
  exact ⟨reference, x, saved.project, named, found, after, frame⟩

theorem update_frame_dyke :
    let q := dykeStep "FINANCIAL_START_YEAR" [("financialStartYear", .text "2026")]
    let r := Request.toSave "1" q
    let s := norfolkWith (dyke [])
    (s.tables.projects.map Project.id).Nodup ∧ r.Proposes q ∧
      (s.answer r "").1.status = 200 ∧
      ∃ reference x x', q.payload.get "referenceNumber" = .text reference ∧
        s.tables.project? reference = some x ∧
        (s.answer r "").2.tables.project? reference = some x' ∧
        s.tables.Frame q.kept (q.newArea s.tables x) "" x x' (s.answer r "").2.tables := by
  intro q r s
  have ids : (s.tables.projects.map Project.id).Nodup := List.nodup_singleton _
  have sent : r.Proposes q := Request.proposes_toSave "1" q
  have changed : (s.answer r "").1.status = 200 := by decide
  exact ⟨ids, sent, changed, update_frame ids rfl rfl sent changed⟩

end FloodScheme.Service
