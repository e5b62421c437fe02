import FloodScheme.Proofs.Saving.Interventions
import FloodScheme.Proofs.Service.Years

/-! Intervention types over the requests of a service. From no schemes on, the main intervention
type of a scheme is one of those that are stored with it. -/
namespace FloodScheme.Service

/-- After any requests to a service without schemes: a stored main intervention type is an item of
the intervention types stored for the same scheme. -/
theorem main_type_selected (s : Service) (visits : List (Request × String)) :
    ∀ p ∈ (s.unused.after visits).tables.projects,
      p.column "main_intervention_type" ≠ .null → ∃ main types,
        p.column "main_intervention_type" = .text main ∧
        p.column "project_intervention_types" = .text types ∧
        main.toList ∈ splitCommas types.toList := by
  induction visits using List.reverseRecOn with
  | nil => exact fun p mem => absurd mem List.not_mem_nil
  | append_singleton visits v ih =>
    rw [after_concat]
    exact answer_keeps (after_owned visits s.unused_owned) (fun _ _ _ _ _ new => new.mainSelected)
      (fun _ _ _ _ _ _ again => again.mainSelected) ih

theorem main_type_selected_dyke :
    let visits := [(Request.toSave "1" ⟨"INITIAL_SAVE", [("name", .text "Dyke"), ("areaId", .int 2),
      ("projectType", .text "DEF"), ("projectInterventionTypes", .list [.text "NFM", .text "PFR"]),
      ("mainInterventionType", .text "PFR"), ("financialStartYear", .int 2024),
      ("financialEndYear", .int 2025)]⟩, "")]
    ∃ p ∈ (norfolk.unused.after visits).tables.projects,
      p.column "main_intervention_type" ≠ .null ∧
      p.column "project_intervention_types" = .text "NFM,PFR" ∧ ∃ main types,
        p.column "main_intervention_type" = .text main ∧
        p.column "project_intervention_types" = .text types ∧
        main.toList ∈ splitCommas types.toList := by
  intro visits
  have stored : ((norfolk.unused.after visits).tables.projects.any fun p =>
      !(p.column "main_intervention_type").isNull &&
        (p.column "project_intervention_types").equal (.text "NFM,PFR")) = true := by
    decide +kernel
  obtain ⟨p, mem, found⟩ := List.any_eq_true.mp stored
  simp only [Bool.and_eq_true, Bool.not_eq_true'] at found
  have given : p.column "main_intervention_type" ≠ .null := by
    intro none
    rw [none] at found
    cases found.1
  exact ⟨p, mem, given, Value.eq_text_of_equal found.2,
    main_type_selected norfolk visits p mem given⟩

end FloodScheme.Service
