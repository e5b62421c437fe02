import FloodScheme.Proofs.Level.Dates
import FloodScheme.Proofs.Level.Stripped
import FloodScheme.Proofs.Number.Trimmed

/-! Decisions on stripped payloads. A decision reads a few fields of the payload, which no level
takes under a condition, and the date of its level. A date that is dropped was blank, and a blank
date is read as if it was not there. -/
namespace FloodScheme
open Number

namespace Timeline

theorem part_of_isBlank {v : Value} (blank : v.isBlank = true) : part v = .ok none := by
  cases v with
  | null => rfl
  | text s =>
    have blank : Text.allBlank s = true := blank
    change Except.ok (readInteger? s) = _
    cases number : readInteger? s with
    | none => rfl
    | some i =>
      rw [Text.allBlank_eq_false (readInteger?_trim number).2] at blank
      cases blank
  | bool b => cases blank
  | int i => cases blank
  | float x => cases blank
  | decimal d => cases blank
  | list items => cases blank
  | object members => cases blank

theorem checkPayload_congr {payload payload' : Fields} {level : Value}
    (date : ∀ m ∈ milestones, .text m.level = level →
      part (payload.get m.monthField) = part (payload'.get m.monthField) ∧
        part (payload.get m.yearField) = part (payload'.get m.yearField)) (start stop : Value) :
    checkPayload payload level start stop = checkPayload payload' level start stop := by
  unfold checkPayload
  cases found : milestone? level with
  | error f => rfl
  | ok own =>
    cases own with
    | none => rfl
    | some m =>
      obtain ⟨mem, named⟩ : m ∈ milestones ∧ .text m.level = level := by
        unfold milestone? at found
        split at found
        · cases found
        · split at found
          · next name =>
            have found := Except.ok.inj found
            exact ⟨List.mem_of_find?_eq_some found,
              congrArg Value.text (by simpa using List.find?_some found)⟩
          · cases found
      obtain ⟨month, year⟩ := date m mem named
      change check _ _ level start stop = check _ _ level start stop
      rw [check, check, month, year]

end Timeline

namespace Decision

/-- What a decision reads of a payload, whatever its level. -/
def readFields : List String :=
  ["referenceNumber", "name", "areaId", "financialStartYear", "financialEndYear"]

variable {reads : Reads} {payload payload' : Fields} {p : Principal} {level : Value}

section
variable (same : ∀ name ∈ readFields, payload.get name = payload'.get name)
include same

theorem checkName_congr (existing : Option ProjectRecord) :
    checkName reads payload existing = checkName reads payload' existing := by
  rw [checkName, isPresent, same "name" (by decide)]
  rfl

theorem checkYears_congr (existing : Option ProjectRecord) :
    checkYears payload existing = checkYears payload' existing := by
  unfold checkYears yearsToCompare isPresent
  rw [same "financialStartYear" (by decide), same "financialEndYear" (by decide)]

theorem checkAreaChange_congr (existing : ProjectRecord) :
    checkAreaChange reads payload p existing = checkAreaChange reads payload' p existing := by
  unfold checkAreaChange isPresent
  rw [same "areaId" (by decide)]

theorem create_congr : create reads payload p = create reads payload' p := by
  unfold create
  rw [same "areaId" (by decide), checkName_congr same, checkYears_congr same]

theorem decideProposal_congr
    (date : ∀ start stop, Timeline.checkPayload payload level start stop =
      Timeline.checkPayload payload' level start stop) :
    decideProposal reads payload p level = decideProposal reads payload' p level := by
  unfold decideProposal update
  rw [same "referenceNumber" (by decide), create_congr same]
  simp only [checkName_congr same, checkYears_congr same, checkAreaChange_congr same, date]

end
end Decision

namespace Catalogue
open Decision

theorem readFields_unconditional : ∀ l ∈ levels, ∀ r ∈ l.rules, r.name ∈ readFields →
    r.condition.isNone = true := by decide

theorem dates_closed : ∀ l ∈ levels, ∀ r ∈ l.rules, ∀ m ∈ Timeline.milestones,
    m.hasField r.name = true → r.forbiddenOtherwise = r.condition.isSome := by decide

end Catalogue

namespace Level.Accepts
open Catalogue

variable {l : Level} {payload kept : Fields} {name : String}

theorem get_cases (h : l.Accepts payload kept) (name : String) :
    kept.get name = payload.get name ∨ kept.get name = .null ∧
      ∃ r ∈ l.rules, r.name = name ∧ r.isActive payload = false := by
  cases sent : payload.get? name with
  | none =>
    refine .inl ?_
    cases found : kept.get? name with
    | none => rw [Fields.get, Fields.get, sent, found]
    | some v =>
      rw [h.sent_of_kept found] at sent
      cases sent
  | some v =>
    obtain ⟨r, mem, rfl⟩ := h.rule_of_sent sent
    have own := h.get?_kept mem
    cases active : r.isActive payload with
    | true =>
      rw [if_pos active] at own
      exact .inl (by rw [Fields.get, Fields.get, own])
    | false =>
      rw [if_neg (by simp [active])] at own
      exact .inr ⟨by rw [Fields.get, own]; rfl, r, mem, rfl, active⟩

theorem get_of_unconditional (h : l.Accepts payload kept)
    (free : ∀ r ∈ l.rules, r.name = name → r.condition.isNone = true) :
    kept.get name = payload.get name := by
  rcases h.get_cases name with same | ⟨-, r, mem, own, inactive⟩
  · exact same
  · rw [Rule.isActive, Option.isNone_iff_eq_none.mp (free r mem own)] at inactive
    cases inactive

theorem blank_of_inactive (h : l.Accepts payload kept) {r : Rule} (mem : r ∈ l.rules)
    (closed : r.forbiddenOtherwise = r.condition.isSome) (inactive : r.isActive payload = false) :
    (payload.get r.name).isBlank = true := by
  have conditional : r.condition.isSome = true := by
    cases own : r.condition with
    | some c => rfl
    | none =>
      rw [Rule.isActive, own] at inactive
      cases inactive
  have passes := (levelFailures_eq_nil.mp h.clean).1 r mem
  rw [Rule.Passes, if_neg (by simp [inactive])] at passes
  exact passes (closed.trans conditional)

theorem part_of_closed (h : l.Accepts payload kept)
    (closed : ∀ r ∈ l.rules, r.name = name → r.forbiddenOtherwise = r.condition.isSome) :
    Timeline.part (kept.get name) = Timeline.part (payload.get name) := by
  rcases h.get_cases name with same | ⟨dropped, r, mem, rfl, inactive⟩
  · rw [same]
  · rw [dropped, Timeline.part_of_isBlank (h.blank_of_inactive mem (closed r mem rfl) inactive)]
    rfl

theorem decideProposal_kept (h : l.Accepts payload kept) (level : l ∈ levels) (reads : Reads)
    (p : Principal) : decideProposal reads kept p (.text l.name) =
      decideProposal reads payload p (.text l.name) := by
  refine Decision.decideProposal_congr (fun name read => ?_) fun start stop =>
    Timeline.checkPayload_congr (fun m known _ => ⟨?_, ?_⟩) start stop
  · exact h.get_of_unconditional fun r mem own =>
      readFields_unconditional l level r mem (own ▸ read)
  · exact h.part_of_closed fun r mem own =>
      dates_closed l level r mem m known (by simp [Milestone.hasField, own])
  · exact h.part_of_closed fun r mem own =>
      dates_closed l level r mem m known (by simp [Milestone.hasField, own])

end Level.Accepts

/-- If `validate` accepts a payload and every field named in a condition is itself declared without
a condition (`Gated`), then `strip` returns a sublist of the payload, `validate` accepts that
sublist, and `strip` returns it unchanged. The built-in registry is `Gated`, and at its levels
`decideProposal` returns the same for the stripped payload as for the payload. -/
theorem stripped_payload_stands :
    (∀ [Library] (r : Registry) (levels : Value) (payload : Fields), r.Gated →
      r.validate levels payload = .ok [] →
        ∃ kept, r.strip levels payload = .ok kept ∧ kept.Sublist payload ∧
          (∀ name, kept.get? name = payload.get? name ∨ kept.get? name = none) ∧
          r.validate levels kept = .ok [] ∧ r.strip levels kept = .ok kept) ∧
    Catalogue.registry.Gated ∧
    ∀ (level : String) (payload : Fields),
      Catalogue.registry.validate (.text level) payload = .ok [] →
        ∃ kept, Catalogue.registry.strip (.text level) payload = .ok kept ∧
          ∀ reads p, decideProposal reads kept p (.text level) =
            decideProposal reads payload p (.text level) := by
  refine ⟨fun _ _ _ gated accepted => gated.strip_settles accepted,
    Catalogue.gated, fun level payload accepted => ?_⟩
  obtain ⟨kept, stripped⟩ := Registry.strip_of_validate accepted
  obtain ⟨l, found, clean⟩ := Catalogue.validate_eq_ok accepted
  obtain ⟨mem, rfl⟩ := Registry.find?_eq_some found
  have accepts : l.Accepts payload kept :=
    ⟨clean, Catalogue.rules_nodup l mem, Catalogue.rules_fields l mem,
      Catalogue.strip_eq_ok found stripped⟩
  exact ⟨kept, stripped, fun reads p => accepts.decideProposal_kept mem reads p⟩

theorem stripped_payload_stands_early :
    ∃ kept : Fields, kept = [("referenceNumber", .text "ANC501E/000A/001A"),
        ("couldStartEarly", .bool false)] ∧
      Catalogue.registry.validate (.text "EARLIEST_WITH_GIA") kept = .ok [] ∧
      ∀ reads p, decideProposal reads kept p (.text "EARLIEST_WITH_GIA") =
        decideProposal reads [("referenceNumber", .text "ANC501E/000A/001A"),
          ("earliestWithGiaMonth", .text " "), ("couldStartEarly", .bool false)] p
          (.text "EARLIEST_WITH_GIA") := by
  have accepted : Catalogue.registry.validate (.text "EARLIEST_WITH_GIA")
    [("referenceNumber", .text "ANC501E/000A/001A"), ("earliestWithGiaMonth", .text " "),
      ("couldStartEarly", .bool false)] = .ok [] := rfl
  have stripped : Catalogue.registry.strip (.text "EARLIEST_WITH_GIA")
    [("referenceNumber", .text "ANC501E/000A/001A"), ("earliestWithGiaMonth", .text " "),
      ("couldStartEarly", .bool false)] = .ok [("referenceNumber", .text "ANC501E/000A/001A"),
        ("couldStartEarly", .bool false)] := rfl
  obtain ⟨settles, gated, decided⟩ := stripped_payload_stands
  obtain ⟨kept, left, -, -, again, -⟩ := settles _ _ _ gated accepted
  obtain ⟨kept', left', same⟩ := decided _ _ accepted
  cases stripped.symm.trans left
  cases stripped.symm.trans left'
  exact ⟨_, rfl, again, same⟩

end FloodScheme
