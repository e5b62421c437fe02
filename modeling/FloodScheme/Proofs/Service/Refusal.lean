import FloodScheme.Proofs.Outcome
import FloodScheme.Service.Routes

/-! Answers that refuse a request have a status of 400 or more, whatever refuses it. -/
namespace FloodScheme
open Outcome

namespace Response

/-- A status that reports an error. -/
def Refuses (r : Response) : Prop := 400 ≤ r.status

theorem refuses_error {status : Nat} (h : 400 ≤ status) (code message : String)
    (field : Option String) : (error status code message field).Refuses := h

theorem refuses_unexpected : unexpected.Refuses := by
  unfold unexpected
  exact refuses_error (by decide) _ _ _

theorem refuses_unavailable : unavailable.Refuses := by
  unfold unavailable
  exact refuses_error (by decide) _ _ _

theorem refuses_ofStatus {status : Nat} (h : 400 ≤ status) (detail : String) :
    (ofStatus status detail).Refuses := h

theorem refuses_ofStoreFault (f : StoreFault) : (ofStoreFault f).Refuses := by
  cases f with
  | constraint name =>
    unfold ofStoreFault
    dsimp only
    split
    · exact refuses_error (by decide) _ _ _
    · exact refuses_error (by decide) _ _ _
  | unavailable => exact refuses_unavailable
  | unbindable => exact refuses_unavailable
  | failed => exact refuses_unexpected
  | crashed => exact refuses_unexpected
  | columnType => exact refuses_unexpected
  | tooLarge => exact refuses_unexpected

theorem refuses_ofFault (f : Fault) : (ofFault f).Refuses := by
  unfold ofFault
  split
  · exact refuses_error (by decide) _ _ _
  · exact refuses_ofStoreFault _
  · exact refuses_unexpected

theorem refuses_ofPing (f : StoreFault) : (ofPing f).Refuses := by
  unfold ofPing
  split
  · exact refuses_ofStatus (by decide) _
  · exact refuses_ofStatus (by decide) _
  · exact refuses_unexpected

theorem refusal_status (f : Failure) : 400 ≤ f.status := by
  unfold Failure.status
  cases f.kind with
  | notFound => decide
  | forbidden => decide
  | conflict => decide
  | invalid => decide

theorem refuses_ofFailures (fs : List Failure) : (ofFailures fs).Refuses := by
  cases fs with
  | nil => exact refuses_unexpected
  | cons f rest => exact refusal_status f

theorem refuses_ofComplaints (cs : List Complaint) : (ofComplaints cs).Refuses := by
  have status : (ofComplaints cs).status = 422 := rfl
  rw [Refuses, status]
  decide

theorem refuses_written {r : Response} (h : r.Refuses) : r.written.Refuses := by
  unfold written
  split
  · exact h
  · exact refuses_unexpected

end Response

namespace Request
open Response

theorem refuses_sent {r : Request} {response : Response} (h : r.sent = .error response) :
    response.Refuses := by
  unfold sent at h
  split at h
  · cases h
  · cases h
  · split at h
    · cases h
    · split at h
      · cases h
      · split at h
        · cases h
        · obtain rfl := Except.error.inj h
          unfold readError
          split
          · exact refuses_ofComplaints _
          · exact refuses_ofStatus (by decide) _

end Request

namespace Service
open Response

theorem refuses_reach {s : Service} {response : Response} (h : s.reach = .error response) :
    response.Refuses := by
  unfold reach at h
  split at h
  · exact Except.error.inj h ▸ refuses_ofPing _
  · cases h

theorem refuses_caller {s : Service} {r : Request} {response : Response}
    (h : s.caller r = .error response) : response.Refuses := by
  unfold caller at h
  split at h
  · exact Except.error.inj h ▸ refuses_ofStatus (by decide) _
  · split at h
    · exact Except.error.inj h ▸ refuses_ofFault _
    · exact Except.error.inj h ▸ refuses_ofStatus (by decide) _
    · cases h

theorem refuses_withCaller {α : Type} {s : Service} {r : Request}
    {judge : Sent → Except (List Complaint) α} {response : Response}
    (h : s.withCaller r judge = .error response) : response.Refuses := by
  unfold withCaller at h
  rcases bind_eq_error.mp h with h | ⟨sent, -, h⟩
  · exact Request.refuses_sent h
  · rcases bind_eq_error.mp h with h | ⟨-, -, h⟩
    · exact refuses_reach h
    · rcases bind_eq_error.mp h with h | ⟨p, -, h⟩
      · exact refuses_caller h
      · rcases bind_eq_error.mp h with h | ⟨a, -, h⟩
        · obtain ⟨cs, -, rfl⟩ := mapError_eq_error.mp h
          exact refuses_ofComplaints cs
        · cases h

theorem refuses_ofRejection (e : Rejection) : (ofRejection e).Refuses := by
  cases e with
  | rules fs => exact refuses_ofFailures fs
  | failure f => exact refusal_status f
  | fault f => exact refuses_ofFault f

end Service
end FloodScheme
