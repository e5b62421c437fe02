import FloodScheme.Proofs.Saving.Conditions
import FloodScheme.Proofs.Service.Window

/-! Requests that save against the conditions of fields. What is stored for a field was stored while
its condition was met; a request that ends the condition leaves the value in place. -/
namespace FloodScheme.Service
open Catalogue

def Stores (s : Service) (id : Int) (name : String) (v : Value) (c : Condition) (met : Bool) :
    Prop :=
  ∃ x ∈ s.tables.projects, x.id = id ∧ x.stored name = v ∧ x.meets c = met

variable {s : Service} {name : String} {c : Condition}

theorem answer_unmet (r : Request) (now : String) (owned : s.tables.Owned)
    (taken : TakenUnder name c) {p : Project} (mem : p ∈ (s.answer r now).2.tables.projects)
    (unmet : p.meets c = false) :
    p.stored name = .null ∨
      ∃ x ∈ s.tables.projects, x.id = p.id ∧ x.stored name = p.stored name := by
  rcases answer_tables s r now with same | ⟨u, a, q, -, -, -, ⟨x, new⟩ | ⟨x, x', again⟩⟩
  · rw [same] at mem
    exact .inr ⟨p, mem, rfl, rfl⟩
  · rw [new.projects, List.mem_append, List.mem_singleton] at mem
    rcases mem with old | rfl
    · exact .inr ⟨p, old, rfl, rfl⟩
    · refine .inl (by_contra fun some => ?_)
      rw [new.meets_of_stored taken some] at unmet
      cases unmet
  · rw [again.projects owned] at mem
    obtain ⟨y, old, changed⟩ := List.mem_map.mp mem
    split at changed
    · subst changed
      refine .inr ⟨x, again.changes.mem, again.changes.identity.1.symm, by_contra fun differs => ?_⟩
      rw [again.meets_of_changed taken fun same => differs same.symm] at unmet
      cases unmet
    · subst changed
      exact .inr ⟨y, old, rfl, rfl⟩

/-- After any requests to a service without schemes: if the condition of a field is false of the
stored columns of a scheme, then the column of the field is null, or a request made the condition
false while that value was stored, and since then neither has changed. -/
theorem unmet_values_left (s : Service) (visits : List (Request × String)) :
    ∀ p ∈ (s.unused.after visits).tables.projects, ∀ l ∈ levels, ∀ r ∈ l.rules,
      ∀ c ∈ r.condition, p.meets c = false →
        p.stored r.name = .null ∨ ∃ before v later, visits = before ++ v :: later ∧
          (s.unused.after before).Stores p.id r.name (p.stored r.name) c true ∧
          ∀ between, between <+: later →
            (s.unused.after (before ++ v :: between)).Stores p.id r.name (p.stored r.name) c
              false := by
  intro p mem l level r rule c conditional unmet
  have taken : TakenUnder r.name c := ⟨l, level, r, rule, rfl, conditional⟩
  induction visits using List.reverseRecOn generalizing p with
  | nil => exact absurd mem List.not_mem_nil
  | append_singleton visits v ih =>
    have now : (s.unused.after (visits ++ [v])).Stores p.id r.name (p.stored r.name) c false :=
      ⟨p, mem, rfl, rfl, unmet⟩
    rw [after_concat] at mem
    rcases answer_unmet v.1 v.2 (after_owned visits s.unused_owned) taken mem unmet with
      none | ⟨x, old, id, same⟩
    · exact .inl none
    cases met : x.meets c with
    | true =>
      -- the last request ended the condition
      refine .inr ⟨visits, v, [], rfl, ⟨x, old, id, same, met⟩, fun between inside => ?_⟩
      rw [List.prefix_nil.mp inside]
      exact now
    | false =>
      rw [← same]
      rcases ih x old met with none | ⟨before, w, later, split, was, since⟩
      · exact .inl none
      · refine .inr ⟨before, w, later ++ [v], by simp [split], id ▸ was, fun between inside => ?_⟩
        rcases List.prefix_concat_iff.mp inside with rfl | earlier
        · rw [split] at now
          simpa [same] using now
        · exact id ▸ since between earlier

theorem unmet_values_left_start :
    let visits := [(Request.toSave "1" (firstSave (.int 2024) (.int 2025)), ""),
      (Request.toSave "1" (dykeStep "EARLIEST_WITH_GIA" [("couldStartEarly", .bool true),
        ("earliestWithGiaMonth", .int 5), ("earliestWithGiaYear", .int 2023)]), ""),
      (Request.toSave "1" (dykeStep "COULD_START_EARLY" [("couldStartEarly", .bool false)]), "")]
    ∃ p ∈ (norfolk.unused.after visits).tables.projects, p.meets startsEarly = false ∧
      (p.stored "earliestWithGiaMonth" = .null ∨ ∃ before v later, visits = before ++ v :: later ∧
        (norfolk.unused.after before).Stores p.id "earliestWithGiaMonth"
          (p.stored "earliestWithGiaMonth") startsEarly true ∧
        ∀ between, between <+: later →
          (norfolk.unused.after (before ++ v :: between)).Stores p.id "earliestWithGiaMonth"
            (p.stored "earliestWithGiaMonth") startsEarly false) ∧
      (p.stored "earliestWithGiaMonth").int? = some 5 := by
  intro visits
  have stored : ((norfolk.unused.after visits).tables.projects.any fun p =>
      !p.meets startsEarly && (p.stored "earliestWithGiaMonth").int? == some 5) = true := by
    decide +kernel
  obtain ⟨p, mem, found⟩ := List.any_eq_true.mp stored
  have left : p.meets startsEarly = false ∧ (p.stored "earliestWithGiaMonth").int? = some 5 := by
    simpa using found
  exact ⟨p, mem, left.1, unmet_values_left norfolk visits p mem
    (saved "EARLIEST_WITH_GIA" (couldStartEarly :: earliestWithGia)) (by simp [levels])
    (month "earliestWithGiaMonth" startsEarly) (by simp [saved, earliestWithGia]) startsEarly rfl
    left.1, left.2⟩

theorem unmet_value_left :
    let save := Request.toSave "1" ⟨"INITIAL_SAVE", [("name", .text "Dyke"), ("areaId", .int 2),
      ("projectType", .text "DEF"), ("projectInterventionTypes", .list [.text "NFM"]),
      ("mainInterventionType", .text "NFM"), ("financialStartYear", .int 2024),
      ("financialEndYear", .int 2025)]⟩
    let change := Request.toSave "1" (dykeStep "PROJECT_TYPE" [("projectType", .text "HCR")])
    (norfolk.unused.answer save "").1.status = 201 ∧
      ((norfolk.unused.after [(save, "")]).answer change "").1.status = 200 ∧
      ∃ p ∈ (norfolk.unused.after [(save, ""), (change, "")]).tables.projects,
        (∃ l ∈ levels, projectInterventionTypes ∈ l.rules ∧ mainInterventionType ∈ l.rules) ∧
        projectInterventionTypes.condition = some isIntervention ∧
        mainInterventionType.condition = some isIntervention ∧ p.meets isIntervention = false ∧
        p.stored projectInterventionTypes.name = .text "NFM" ∧
        p.stored mainInterventionType.name = .text "NFM" := by
  intro save change
  have stored : ((norfolk.unused.after [(save, ""), (change, "")]).tables.projects.any fun p =>
      !p.meets isIntervention && ((p.stored projectInterventionTypes.name).equal (.text "NFM") &&
        (p.stored mainInterventionType.name).equal (.text "NFM"))) = true := by
    decide
  obtain ⟨p, mem, found⟩ := List.any_eq_true.mp stored
  simp only [Bool.and_eq_true, Bool.not_eq_true'] at found
  exact ⟨by decide, by decide, p, mem,
    ⟨initialSave, by simp [levels], by simp [initialSave], by simp [initialSave]⟩, rfl, rfl,
    found.1, Value.eq_text_of_equal found.2.1, Value.eq_text_of_equal found.2.2⟩

end FloodScheme.Service
