import FloodScheme.Proofs.Saving.Window
import FloodScheme.Proofs.Service.Years

/-! Requests that save and the dates of milestones: which of the written dates are checked against
the stored years, and which of the other dates lie between the years that are stored afterwards. -/
namespace FloodScheme.Service
open Timeline

variable {s : Service} {r : Request} {now : String} {q : Proposal} {reference : String}
  {x : Project}

def dyke (dates : Fields) : Project where
  id := 1
  reference := "ANC501E/000A/001A"
  slug := "anc501e-000a-001a"
  columns := [("name", .text "Dyke"), ("earliest_start_year", .int 2025),
    ("project_end_financial_year", .int 2030)] ++ dates
  createdAt := ""
  updatedAt := ""

def norfolkWith (x : Project) : Service where
  tables := { norfolk.tables with
    projects := [x], states := [⟨x.id, "draft"⟩], links := [⟨x.id, 2, true⟩] }

def startOutline : Milestone :=
  ⟨"START_OUTLINE_BUSINESS_CASE", "Start Outline Business Case",
    "startOutlineBusinessCaseMonth", "startOutlineBusinessCaseYear", false⟩

theorem dyke_stored (dates : Fields) :
    (norfolkWith (dyke dates)).tables.project? "ANC501E/000A/001A" = some (dyke dates) := rfl

/-- If a request writes a month and a year of a milestone, then the milestone belongs to the level
of the request and the date lies between the stored years, or the milestone is the one before that
of the level, whose date is written unchecked. -/
theorem written_dates_within (post : r.method = "POST")
    (path : r.path = "/api/v1/project/upsert") (sent : r.Proposes q)
    (named : q.payload.get "referenceNumber" = .text reference)
    (stored : s.tables.project? reference = some x)
    (accepted : (s.answer r now).1.status < 400) :
    ∀ m ∈ milestones, q.writes m = true → ∀ month year,
      q.payload.get? m.monthField = some (.int month) →
      q.payload.get? m.yearField = some (.int year) →
        m.level = q.level ∧ m.Within x.window (toLex (year, month)) ∨
          ∃ own ∈ milestones, own.level = q.level ∧ m.Precedes own := by
  intro m known written month year sentMonth sentYear
  obtain ⟨p, x', again⟩ := savesAgain_of_answer post path sent named stored accepted
  obtain ⟨u, -, sends, -⟩ := again.updates
  rcases sends.takenAt known written with own | before
  · exact .inl ⟨own, again.within known own sentMonth sentYear⟩
  · exact .inr before

theorem written_dates_within_dyke :
    let q := dykeStep "START_OUTLINE_BUSINESS_CASE"
      [("startOutlineBusinessCaseMonth", .int 5), ("startOutlineBusinessCaseYear", .int 2026)]
    let r := Request.toSave "1" q
    r.Proposes q ∧ ((norfolkWith (dyke [])).answer r "").1.status < 400 ∧
      q.writes startOutline = true ∧
      (startOutline.level = q.level ∧
          startOutline.Within (dyke []).window (toLex (2026, 5)) ∨
        ∃ own ∈ milestones, own.level = q.level ∧ startOutline.Precedes own) := by
  intro q r
  have sent : r.Proposes q := Request.proposes_toSave "1" q
  have accepted : ((norfolkWith (dyke [])).answer r "").1.status < 400 := by decide
  have written : q.writes startOutline = true := by decide
  exact ⟨sent, accepted, written, written_dates_within rfl rfl sent rfl (dyke_stored []) accepted
    startOutline (by decide) written 5 2026 rfl rfl⟩

theorem carried_date_outside :
    let q := dykeStep "COMPLETE_OUTLINE_BUSINESS_CASE"
      [("completeOutlineBusinessCaseMonth", .int 5),
        ("completeOutlineBusinessCaseYear", .int 2026),
        ("startOutlineBusinessCaseMonth", .int 5), ("startOutlineBusinessCaseYear", .int 2050)]
    let r := Request.toSave "1" q
    r.Proposes q ∧ (norfolkWith (dyke [])).tables.project? "ANC501E/000A/001A" = some (dyke []) ∧
      (dyke []).window = ⟨some 2025, some 2030⟩ ∧
      ((norfolkWith (dyke [])).answer r "").1.status = 200 ∧
      startOutline ∈ milestones ∧ q.writes startOutline = true ∧
      q.payload.get? startOutline.monthField = some (.int 5) ∧
      q.payload.get? startOutline.yearField = some (.int 2050) ∧
      ¬ startOutline.Within (dyke []).window (toLex (2050, 5)) := by
  intro q r
  exact ⟨Request.proposes_toSave "1" q, dyke_stored [], rfl, by decide, by decide,
    by decide, rfl, rfl, by decide⟩

/-- If all stored dates lie between the stored years, then after an accepted request every date that
the request does not write lies between the years stored then, unless the request is for one of the
two years and narrows the window on that side. -/
theorem unwritten_dates_within (post : r.method = "POST")
    (path : r.path = "/api/v1/project/upsert") (sent : r.Proposes q)
    (named : q.payload.get "referenceNumber" = .text reference)
    (stored : s.tables.project? reference = some x) (before : x.InWindow)
    (accepted : (s.answer r now).1.status < 400) :
    ∃ x', (s.answer r now).2.tables.project? reference = some x' ∧
      ∀ m ∈ milestones, q.writes m = false →
        (∀ d ∈ x'.date? m, m.Within x'.window d) ∨
          q.level ∈ Proposal.yearLevels ∧ m.Narrowed x.window x'.window := by
  obtain ⟨p, x', again⟩ := savesAgain_of_answer post path sent named stored accepted
  obtain ⟨u, -, -, updates⟩ := again.updates
  exact ⟨x', updates.change.project? stored,
    fun m known unwritten => again.keeps known unwritten (before m known)⟩

theorem unwritten_dates_within_dyke :
    let x := dyke [("start_outline_business_case_month", .int 5),
      ("start_outline_business_case_year", .int 2026)]
    let q := dykeStep "FINANCIAL_END_YEAR" [("financialEndYear", .int 2027)]
    let r := Request.toSave "1" q
    r.Proposes q ∧ x.InWindow ∧ ((norfolkWith x).answer r "").1.status < 400 ∧
      ∃ x', ((norfolkWith x).answer r "").2.tables.project? "ANC501E/000A/001A" = some x' ∧
        ∀ m ∈ milestones, q.writes m = false →
          (∀ d ∈ x'.date? m, m.Within x'.window d) ∨
            q.level ∈ Proposal.yearLevels ∧ m.Narrowed x.window x'.window := by
  intro x q r
  have sent : r.Proposes q := Request.proposes_toSave "1" q
  have before : x.InWindow := by decide
  have accepted : ((norfolkWith x).answer r "").1.status < 400 := by decide
  exact ⟨sent, before, accepted,
    unwritten_dates_within rfl rfl sent rfl (dyke_stored _) before accepted⟩

theorem unwritten_date_outside :
    let x := dyke [("start_outline_business_case_month", .int 5),
      ("start_outline_business_case_year", .int 2029)]
    let q := dykeStep "FINANCIAL_END_YEAR" [("financialEndYear", .int 2026)]
    let r := Request.toSave "1" q
    r.Proposes q ∧ (norfolkWith x).tables.project? "ANC501E/000A/001A" = some x ∧ x.InWindow ∧
      ((norfolkWith x).answer r "").1.status = 200 ∧
      startOutline ∈ milestones ∧ q.writes startOutline = false ∧
      ∃ x', ((norfolkWith x).answer r "").2.tables.project? "ANC501E/000A/001A" = some x' ∧
        ∃ d ∈ x'.date? startOutline, ¬ startOutline.Within x'.window d := by
  intro x q r
  have outside : (((norfolkWith x).answer r "").2.tables.project? "ANC501E/000A/001A").any
      (fun x' => (x'.date? startOutline).any fun d =>
        !decide (startOutline.Within x'.window d)) = true := by decide
  obtain ⟨x', found, outside⟩ := (Option.any_eq_true _ _).mp outside
  obtain ⟨d, date, outside⟩ := (Option.any_eq_true _ _).mp outside
  exact ⟨Request.proposes_toSave "1" q, dyke_stored _, by decide, by decide, by decide,
    by decide, x', found, d, date, by simpa using outside⟩

end FloodScheme.Service
