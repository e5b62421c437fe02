import FloodScheme.Proofs.Saving.Years
import FloodScheme.Proofs.Service.History

/-! Financial years over the requests of a service. From no schemes on, the years of every scheme
are in order as long as the texts that pass for years can be read. -/
namespace FloodScheme.Service

theorem answer_yearsOrdered {s : Service} {r : Request} {now : String} (owned : s.tables.Owned)
    (legible : ∀ q, r.Proposes q → q.LegibleYears)
    (before : ∀ p ∈ s.tables.projects, p.YearsOrdered) :
    ∀ p ∈ (s.answer r now).2.tables.projects, p.YearsOrdered :=
  answer_keeps owned (fun q _ _ _ sent new => new.yearsOrdered (legible q sent))
    (fun q _ _ _ _ sent again => again.yearsOrdered (legible q sent)) before

/-- After any requests to a service without schemes the first financial year of every scheme is at
most the last one, if no request sends a year as a text that passes its check and that
`readInteger?` does not read. -/
theorem years_ordered (s : Service) (visits : List (Request × String))
    (legible : ∀ v ∈ visits, ∀ q, v.1.Proposes q → q.LegibleYears) :
    ∀ p ∈ (s.unused.after visits).tables.projects, p.YearsOrdered := by
  induction visits using List.reverseRecOn with
  | nil => exact fun p mem => absurd mem List.not_mem_nil
  | append_singleton visits v ih =>
    rw [after_concat]
    refine answer_yearsOrdered (after_owned visits s.unused_owned)
      (legible v (by simp)) (ih fun v mem => legible v (by simp [mem]))

theorem years_ordered_dyke :
    let visits := [(Request.toSave "1" (firstSave (.int 2024) (.text "2025")), "")]
    (∀ v ∈ visits, ∀ q, v.1.Proposes q → q.LegibleYears) ∧
      (norfolk.unused.after visits).tables.projects.map Project.years? = [some (2024, 2025)] ∧
      ∀ p ∈ (norfolk.unused.after visits).tables.projects, p.YearsOrdered := by
  intro visits
  have legible : ∀ v ∈ visits, ∀ q, v.1.Proposes q → q.LegibleYears := by
    intro v mem q sent
    obtain rfl := List.mem_singleton.mp mem
    obtain rfl := (Request.proposes_toSave "1" _).eq sent
    intro r year s text _
    rcases List.mem_pair.mp year with rfl | rfl
    · cases text
    · cases text
      decide
  exact ⟨legible, by decide, years_ordered norfolk visits legible⟩

theorem years_disordered :
    let visits := [(Request.toSave "1" (firstSave (.text "2030.0") (.int 2025)), "")]
    ∃ p ∈ (norfolk.unused.after visits).tables.projects,
      p.years? = some (2030, 2025) ∧ ¬ p.YearsOrdered := by
  intro visits
  have stored : (norfolk.unused.after visits).tables.projects.map Project.years? =
      [some (2030, 2025)] := by decide
  have some : some (2030, 2025) ∈
      (norfolk.unused.after visits).tables.projects.map Project.years? := by simp [stored]
  obtain ⟨p, mem, years⟩ := List.mem_map.mp some
  refine ⟨p, mem, years, fun ⟨first, last, same, order⟩ => ?_⟩
  rw [years] at same
  cases same
  exact absurd order (by decide)

end FloodScheme.Service
