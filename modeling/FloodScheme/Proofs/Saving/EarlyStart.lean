import FloodScheme.Proofs.Area.Resolution
import FloodScheme.Proofs.Reference.Pattern
import FloodScheme.Proofs.Saving.Success
import FloodScheme.Proofs.Store.Caller

/-! The level of early starts. It is saved for whoever may update the scheme, if the reference
number passes its rule. -/
namespace FloodScheme
open Outcome Decision

theorem Rule.passes_of_check {r : Rule} {payload : Fields} {v : Value}
    (active : r.isActive payload = true) (sent : payload.get? r.name = some v)
    (checked : r.check v = none) : r.Passes payload := by
  rw [Passes, if_pos active, failure?_eq_none, sent]
  exact fun _ => .inr checked

namespace Catalogue

theorem reference_unreported_iff {name : String} {l : Level}
    (found : registry.find? name = some l) (later : name ≠ "INITIAL_SAVE") {payload : Fields}
    {v : Value} (sent : payload.get? "referenceNumber" = some v) :
    (∀ f ∈ levelFailures l.rules payload, f.field ≠ some "referenceNumber") ↔
      referenceNumber.check v = none := by
  have apart := rules_nodup l (List.mem_of_find?_eq_some found)
  have asked : referenceNumber ∈ l.rules := by
    rcases find?_cases found with ⟨-, first⟩ | ⟨-, rest, rules⟩
    · exact absurd first later
    · rw [rules]
      exact List.mem_cons_self
  refine (unreported_iff apart asked).trans ⟨fun clean => ?_, fun checked => ?_⟩
  · obtain ⟨w, own, checked⟩ := checked_of_required (by decide) rfl clean.1
    rw [Option.some.inj (own.symm.trans sent)] at checked
    exact checked
  · exact ⟨Rule.passes_of_check rfl sent checked, fun main => absurd main (by decide)⟩

end Catalogue

namespace Proposal

def earlyStart (reference : String) (early : Bool) : Proposal where
  level := "COULD_START_EARLY"
  payload := [("referenceNumber", .text reference), ("couldStartEarly", .bool early)]

variable {reference : String} {early : Bool} {db : Database} {p : Principal} {x : Project}

def earlyStartRules : List Rule := [Catalogue.referenceNumber, Catalogue.couldStartEarly]

theorem find?_earlyStart : Catalogue.registry.find? "COULD_START_EARLY" =
    some ⟨"COULD_START_EARLY", earlyStartRules⟩ := rfl

theorem get?_earlyStart {name : String} {v : Value}
    (sent : (earlyStart reference early).payload.get? name = some v) :
    name = "referenceNumber" ∧ v = .text reference ∨ name = "couldStartEarly" ∧ v = .bool early := by
  simp only [earlyStart, Fields.get?_cons, Fields.get?_nil] at sent
  split at sent
  · next own => exact .inl ⟨own, (Option.some.inj sent).symm⟩
  · split at sent
    · next own => exact .inr ⟨own, (Option.some.inj sent).symm⟩
    · cases sent

theorem earlyStart_validates (early : Bool)
    (checked : Catalogue.referenceNumber.check (.text reference) = none) :
    Catalogue.registry.validate (.text "COULD_START_EARLY") (earlyStart reference early).payload =
      .ok [] := by
  refine Registry.validate_eq_ok.mpr ⟨_, Catalogue.merge_of_find? find?_earlyStart, rfl, rfl, rfl,
    rfl, levelFailures_eq_nil.mpr ⟨?_, ?_, rfl⟩⟩
  · intro r mem
    rcases List.mem_pair.mp mem with rfl | rfl
    · exact Rule.passes_of_check rfl rfl checked
    · exact Rule.passes_of_check (v := .bool early) rfl rfl rfl
  · intro name mem
    rcases List.mem_pair.mp mem with rfl | rfl
    · rfl
    · rfl

section
variable (faithful : db.faults.Faithful) (some : reference ≠ "")
  (found : db.tables.project? reference = .some x) {l : LinkRow}
  (link : db.tables.ownerLink? x.id = .some l) {w : AreaWithParents}
  (area : Hierarchy.withParents db.area (.int l.areaId) = .ok (.some w))
  (member : p.belongsTo (.int w.area.id) = true)
include faithful some found link area member

theorem earlyStart_decided :
    decideProposal db.reads (earlyStart reference early).payload p (.text "COULD_START_EARLY") =
      .ok { existing := db.tables.record x } := by
  have stored : db.project (.text reference) = .ok (db.tables.record x) := by
    have read : Gives True (db.project (.text reference))
        ((db.tables.named? (.text reference)).map db.tables.record) :=
      project_gives (fun _ => List.forall_mem_cons.mpr ⟨faithful _ rfl, List.forall_mem_cons.mpr
        ⟨faithful _ rfl, List.forall_mem_singleton.mpr (faithful _ rfl)⟩⟩) fun _ => ⟨_, rfl⟩
    have named : db.tables.named? (.text reference) = .some x := found
    rcases read with same | ⟨wild, -⟩
    · rw [same, named]
      rfl
    · exact absurd trivial wild
  have owner : (db.tables.record x).areaId = .some l.areaId :=
    congrArg (Option.map LinkRow.areaId) link
  have allowed : refuseUpdate? p w = none := by
    simp [refuseUpdate?, member]
  have said : (Value.text reference).truthy = true := by simpa [Value.truthy] using some
  have current : currentArea db.reads (db.tables.record x) = .ok w := by
    rw [currentArea, owner, reads_area]
    exact congrArg lift area
  have rights : rejectSome ((refuseUpdate? p w).map updateRefused) = .ok () := by
    rw [allowed]
    rfl
  refine (if_pos said).trans (bind_eq_ok.mpr ⟨_, congrArg lift stored, ?_⟩)
  exact bind_eq_ok.mpr ⟨_, current, bind_eq_ok.mpr ⟨_, rights, rfl⟩⟩

theorem earlyStart_vetted
    (checked : Catalogue.referenceNumber.check (.text reference) = none) :
    (earlyStart reference early).vet db p = .ok { existing := db.tables.record x } := by
  have valid : Catalogue.registry.validate (.text (earlyStart reference early).level)
      (earlyStart reference early).payload = .ok [] := earlyStart_validates early checked
  unfold vet
  rw [valid]
  exact mapError_eq_ok.mpr (earlyStart_decided faithful some found link area member)

end

theorem earlyStart_fits (t : Tables)
    (checked : Catalogue.referenceNumber.check (.text reference) = none) :
    (earlyStart reference early).Fits t := by
  have sent {name : String} {v : Value}
      (kept : (earlyStart reference early).kept.get? name = .some v) :
      (earlyStart reference early).payload.get? name = .some v := by
    obtain ⟨left, strip⟩ := Registry.strip_of_validate (earlyStart_validates early checked)
    have own : (earlyStart reference early).kept = left :=
      congrArg (fun r => r.toOption.getD []) strip
    rw [own, Catalogue.strip_eq_ok find?_earlyStart strip, get?_keepActive] at kept
    split at kept
    · exact kept
    · cases kept
  have columns : ∀ f ∈ Field.writable, f.wire ≠ "referenceNumber" ∧ (f.wire = "couldStartEarly" →
      ∀ b, (Declaration.ofColumn f.column).limits (f.kind.toStorage (.bool b)) = true) := by
    decide
  constructor
  · intro f known v kept
    obtain ⟨apart, flag⟩ := columns f known
    rcases get?_earlyStart (sent kept) with ⟨wire, -⟩ | ⟨wire, rfl⟩
    · exact absurd wire apart
    · exact flag wire early
  · intro s kept
    rcases get?_earlyStart (sent kept) with ⟨name, -⟩ | ⟨name, -⟩
    · exact absurd name (by decide)
    · exact absurd name (by decide)
  · intro a found
    have unsent : (Value.null).key? = none := by decide
    rw [show (earlyStart reference early).payload.get "areaId" = .null from rfl, Tables.area?,
      unsent] at found
    cases found
  · intro level
    have first : "COULD_START_EARLY" = "INITIAL_SAVE" := level
    exact absurd first (by decide)

end Proposal
end FloodScheme
