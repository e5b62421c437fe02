import FloodScheme.Proofs.Level.Accepted
import FloodScheme.Proofs.Saving.Rights
import FloodScheme.Proofs.Store.Whole

/-! The financial years of a scheme. A save that writes one of them holds it against the other
one, as it is sent or as it is stored, so that they stay in order; the text of a year counts only
where it can be read. -/
namespace FloodScheme
open Number Decision Catalogue

namespace Project

/-- The financial years of a scheme, once both are stored as whole numbers. -/
def years? (p : Project) : Option (Int × Int) :=
  match p.column "earliest_start_year", p.column "project_end_financial_year" with
  | .int first, .int last => some (first, last)
  | _, _ => none

/-- A scheme has both financial years, and the first one does not come after the last one. -/
def YearsOrdered (p : Project) : Prop := ∃ first last, p.years? = some (first, last) ∧ first ≤ last

theorem years?_eq_some {p : Project} {first last : Int} :
    p.years? = some (first, last) ↔ p.column "earliest_start_year" = .int first ∧
      p.column "project_end_financial_year" = .int last := by
  unfold years?
  constructor
  · intro h
    split at h
    · next start stop =>
      cases h
      exact ⟨start, stop⟩
    · cases h
  · rintro ⟨start, stop⟩
    rw [start, stop]

end Project

/-- Every text that passes for a financial year reads as a whole number. -/
def Proposal.LegibleYears (q : Proposal) : Prop :=
  ∀ r ∈ [financialStartYear, financialEndYear], ∀ s, q.payload.get? r.name = some (.text s) →
    r.check (.text s) = none → (readInteger? s).isSome = true

namespace Catalogue

def rulesFor (name : String) : List Rule :=
  levels.flatMap fun l => l.rules.filter (·.name == name)

theorem mem_rulesFor {l : Level} {r : Rule} (level : l ∈ levels) (mem : r ∈ l.rules) :
    r ∈ rulesFor r.name :=
  List.mem_flatMap.mpr ⟨l, level, List.mem_filter.mpr ⟨mem, by simp⟩⟩

/-- A field of whole numbers, asked for by every level that has it. -/
structure Asks (r : Rule) (f : Field) : Prop where
  field : f ∈ Field.writable
  wire : f.wire = r.name
  number : f.kind = .number
  column : ColumnType.ofColumn f.column = .integer ∧ f.column ≠ "rma_name"
  whole : r.kind = .integer
  required : r.required = true
  always : r.condition.isNone = true
  only : ∀ r' ∈ rulesFor r.name, r' = r

def startYear : Field := ⟨"financialStartYear", "earliest_start_year", .number⟩

def endYear : Field := ⟨"financialEndYear", "project_end_financial_year", .number⟩

set_option maxRecDepth 4000 in
theorem rulesFor_startYear :
    rulesFor "financialStartYear" = [financialStartYear, financialStartYear] := rfl

set_option maxRecDepth 4000 in
theorem rulesFor_endYear :
    rulesFor "financialEndYear" = [financialEndYear, financialEndYear] := rfl

theorem asks_startYear : Asks financialStartYear startYear where
  field := by decide
  wire := rfl
  number := rfl
  column := by decide
  whole := rfl
  required := rfl
  always := rfl
  only r mem := by
    have one : r ∈ [financialStartYear, financialStartYear] := rulesFor_startYear ▸ mem
    simpa using one

theorem asks_endYear : Asks financialEndYear endYear where
  field := by decide
  wire := rfl
  number := rfl
  column := by decide
  whole := rfl
  required := rfl
  always := rfl
  only r mem := by
    have one : r ∈ [financialEndYear, financialEndYear] := rulesFor_endYear ▸ mem
    simpa using one

theorem Asks.active {r : Rule} {f : Field} (h : Asks r f) (payload : Fields) :
    r.isActive payload = true := by
  rw [Rule.isActive, Option.isNone_iff_eq_none.mp h.always]
  rfl

end Catalogue

theorem Value.isBlank_of_integer {v : Value} {i : Int} (read : Reading.integer v = .ok i)
    (legible : v.Legible) : v.isBlank = false := by
  cases v with
  | null => cases read
  | text s =>
    obtain ⟨j, number⟩ := Option.isSome_iff_exists.mp (legible s rfl)
    exact Text.allBlank_eq_false (readInteger?_trim number).2
  | bool b => rfl
  | int i => rfl
  | float x => rfl
  | decimal d => rfl
  | list items => rfl
  | object members => rfl

namespace Proposal
open Upsert

variable {q : Proposal} {u : Upsert} {r : Rule} {f : Field}

theorem Sends.asked (sends : q.Sends u) (asks : Asks r f) :
    u.payload.get? r.name = q.payload.get? r.name ∧
      ∀ v, q.payload.get? r.name = some v → r.check v = none := by
  obtain ⟨l, level, -, accepts⟩ := sends.level
  have declared {v : Value} (sent : q.payload.get? r.name = some v) : r ∈ l.rules := by
    obtain ⟨r', mem, named⟩ := accepts.rule_of_sent sent
    exact asks.only r' (named ▸ mem_rulesFor level mem) ▸ mem
  constructor
  · cases sent : q.payload.get? r.name with
    | none =>
      cases kept : u.payload.get? r.name with
      | none => rfl
      | some v =>
        rw [accepts.sent_of_kept kept] at sent
        cases sent
    | some v => rw [accepts.get?_kept (declared sent), if_pos (asks.active _), sent]
  · intro v sent
    rcases accepts.takes_of_active (declared sent) (asks.active _) sent with ⟨optional, -⟩ | checked
    · rw [asks.required] at optional
      cases optional
    · exact checked

theorem Sends.year (sends : q.Sends u) (asks : Asks r f) {before after : Value}
    (legible : ∀ v, q.payload.get? r.name = some v → r.check v = none → v.Legible)
    (known : (∃ i, before = .int i) ∨
      before = .null ∧ (q.payload.get? r.name).isSome = true)
    (leaves : Leaves f.column before after (u.data.get? f.column)) :
    ∃ i, after = .int i ∧ comparedYear q.payload r.name before = some i ∧
      (isPresent q.payload r.name = false → after = before) := by
  obtain ⟨kept, checks⟩ := sends.asked asks
  rw [get?_data u asks.field asks.column.2, asks.wire, asks.number, kept] at leaves
  unfold comparedYear isPresent Fields.get
  cases sent : q.payload.get? r.name with
  | none =>
    rw [sent] at leaves known
    obtain rfl : after = before := leaves
    obtain ⟨i, rfl⟩ | ⟨-, missing⟩ := known
    · exact ⟨i, rfl, rfl, fun _ => rfl⟩
    · cases missing
  | some v =>
    rw [sent] at leaves
    have checked := checks v sent
    have readable := legible v sent checked
    obtain ⟨i, read⟩ := Rule.integer_of_check asks.whole checked
    have present := Value.isBlank_of_integer read readable
    have whole : ∃ j, after = .int j ∧ v.whole? = some j := by
      rcases leaves with ⟨equal, rfl⟩ | stored
      · have same := FieldKind.whole?_toStorage readable
        obtain ⟨j, rfl⟩ | ⟨rfl, -⟩ := known
        · rw [Value.whole?_eq_some.mpr (Value.wholePart_of_equal_int equal)] at same
          exact ⟨j, rfl, same.symm⟩
        · exact absurd (Value.eq_null_of_equal equal)
            (FieldKind.toStorage_ne_null read readable)
      · rw [asks.column.1] at stored
        exact ColumnType.store_whole read readable stored
    obtain ⟨j, rfl, number⟩ := whole
    refine ⟨j, rfl, ?_, ?_⟩
    · simpa [present] using number
    · simp [present]

theorem LegibleYears.legible (h : q.LegibleYears)
    (mem : r ∈ [financialStartYear, financialEndYear]) (v : Value)
    (sent : q.payload.get? r.name = some v) (checked : r.check v = none) : v.Legible := by
  rintro s rfl
  exact h r mem s sent checked

theorem le_of_yearRequirement {payload : Fields} {first last : Value} {i j : Int}
    (met : (yearRequirement payload first last).holds = true)
    (start : comparedYear payload "financialStartYear" first = some i)
    (stop : comparedYear payload "financialEndYear" last = some j)
    (sent : isPresent payload "financialStartYear" = true ∨
      isPresent payload "financialEndYear" = true) : i ≤ j := by
  have some : (isPresent payload "financialStartYear" ||
      isPresent payload "financialEndYear") = true := Bool.or_eq_true_iff.mpr sent
  simpa [yearRequirement, start, stop, some] using met

variable {t t' : Tables} {p : Principal} {x x' : Project}

theorem SavesNew.yearsOrdered (h : q.SavesNew t p x t') (legible : q.LegibleYears) :
    x.YearsOrdered := by
  obtain ⟨a, u, code, -, -, -, -, sends, creates⟩ := h.creates
  obtain ⟨l, level, named, accepts⟩ := sends.level
  obtain rfl := eq_initialSave level (named.trans h.level)
  obtain ⟨v, sentStart, -⟩ := accepts.kept_of_required (r := financialStartYear)
    (by simp [initialSave]) rfl rfl
  obtain ⟨w, sentEnd, -⟩ := accepts.kept_of_required (r := financialEndYear)
    (by simp [initialSave]) rfl rfl
  rw [(sends.asked asks_startYear).1] at sentStart
  rw [(sends.asked asks_endYear).1] at sentEnd
  obtain ⟨i, start, comparedStart, set⟩ := sends.year asks_startYear
    (legible.legible (by simp)) (.inr ⟨rfl, by rw [sentStart]; rfl⟩) (creates.column _)
  obtain ⟨j, stop, comparedEnd, -⟩ := sends.year asks_endYear
    (legible.legible (by simp)) (.inr ⟨rfl, by rw [sentEnd]; rfl⟩) (creates.column _)
  have met := h.allowed (yearRequirement q.payload .null .null) (by simp [createRequirements])
  have present : isPresent q.payload "financialStartYear" = true := by
    cases sent : isPresent q.payload "financialStartYear" with
    | true => rfl
    | false =>
      rw [set sent] at start
      cases start
  exact ⟨i, j, Project.years?_eq_some.mpr ⟨start, stop⟩,
    le_of_yearRequirement met comparedStart comparedEnd (.inl present)⟩

/-- The years that a write leaves where there were years before: each one as it is sent, or as it
was. -/
def LeavesYears (q : Proposal) (before after : Int × Int) : Prop :=
  comparedYear q.payload "financialStartYear" (.int before.1) = some after.1 ∧
    comparedYear q.payload "financialEndYear" (.int before.2) = some after.2

theorem Sends.leavesYears (sends : q.Sends u) (legible : q.LegibleYears)
    (updates : Updates t u x x' t') {before : Int × Int} (years : x.years? = some before) :
    ∃ after, x'.years? = some after ∧ q.LeavesYears before after := by
  obtain ⟨start₀, stop₀⟩ := Project.years?_eq_some.mp years
  obtain ⟨i, start, comparedStart, -⟩ := sends.year asks_startYear
    (legible.legible (by simp)) (.inl ⟨_, start₀⟩) (updates.change.column _)
  obtain ⟨j, stop, comparedEnd, -⟩ := sends.year asks_endYear
    (legible.legible (by simp)) (.inl ⟨_, stop₀⟩) (updates.change.column _)
  rw [start₀] at comparedStart
  rw [stop₀] at comparedEnd
  exact ⟨(i, j), Project.years?_eq_some.mpr ⟨start, stop⟩, comparedStart, comparedEnd⟩

theorem LeavesYears.le_or_eq {before after : Int × Int} (leaves : q.LeavesYears before after)
    (met : (yearRequirement q.payload (.int before.1) (.int before.2)).holds = true) :
    after.1 ≤ after.2 ∨ after = before := by
  by_cases sent : isPresent q.payload "financialStartYear" = true ∨
      isPresent q.payload "financialEndYear" = true
  · exact .inl (le_of_yearRequirement met leaves.1 leaves.2 sent)
  · simp only [not_or, Bool.not_eq_true] at sent
    obtain ⟨first, last⟩ := leaves
    simp only [comparedYear, sent, Bool.false_eq_true, if_false] at first last
    exact .inr (Prod.ext (Option.some.inj first).symm (Option.some.inj last).symm)

theorem SavesAgain.yearsOrdered (h : q.SavesAgain t p x x' t') (legible : q.LegibleYears)
    (before : x.YearsOrdered) : x'.YearsOrdered := by
  obtain ⟨u, -, sends, updates⟩ := h.updates
  obtain ⟨first, last, years, order⟩ := before
  obtain ⟨start, stop⟩ := Project.years?_eq_some.mp years
  obtain ⟨after, years', leaves⟩ := sends.leavesYears legible updates years
  have met := h.allowed (yearRequirement q.payload (t.record x).startYear (t.record x).endYear)
    (by simp [updateRequirements])
  rw [show (t.record x).startYear = .int first from start,
    show (t.record x).endYear = .int last from stop] at met
  rcases leaves.le_or_eq met with ordered | rfl
  · exact ⟨after.1, after.2, years', ordered⟩
  · exact ⟨first, last, years', order⟩

end Proposal
end FloodScheme
