import FloodScheme.Timeline
import FloodScheme.Proofs.Outcome

/-! Dates of milestones as financial years. The comparison with April is one of whole years: the
year in which the date lies against the years that bound it. A year that does not read as a number
bounds nothing. -/
namespace FloodScheme.Timeline
open Number Outcome

/-- The financial year of a month, named by the year in which it starts. -/
def financialYear (month year : Int) : Int := if startMonth ≤ month then year else year - 1

/-- The levels whose date lies between the first and the last financial year. -/
def regularLevels : List String :=
  ["START_OUTLINE_BUSINESS_CASE", "COMPLETE_OUTLINE_BUSINESS_CASE", "AWARD_CONTRACT",
    "START_CONSTRUCTION", "READY_FOR_SERVICE"]

/-- The level whose date lies before the first financial year. -/
def earlyLevel : String := "EARLIEST_WITH_GIA"

def Reports (r : Except Fault (Option Failure)) (code : String) : Prop :=
  ∃ f, r = .ok (some f) ∧ f.code = code

/-- How a date in a financial year is judged at a regular level. It stops only where the year that
is broken is too long to be written. -/
structure JudgedBetween (fy : Int) (first last : Option Int) (r : Except Fault (Option Failure)) :
    Prop where
  passes : r = .ok none ↔ (∀ s ∈ first, s ≤ fy) ∧ ∀ e ∈ last, fy < e
  before : Reports r "DATE_BEFORE_FINANCIAL_START" ↔ ∃ s ∈ first, fy < s ∧ isWritable s = true
  after : Reports r "DATE_AFTER_FINANCIAL_END" ↔
    (∀ s ∈ first, s ≤ fy) ∧ ∃ e ∈ last, e ≤ fy ∧ isWritable e = true
  stops : ∀ f, r = .error f ↔ f = .unformattable ∧
    ((∃ s ∈ first, fy < s ∧ isWritable s = false) ∨
      (∀ s ∈ first, s ≤ fy) ∧ ∃ e ∈ last, e ≤ fy ∧ isWritable e = false)

/-- How a date in a financial year is judged at the early level. -/
structure JudgedEarly (fy : Int) (first : Option Int) (r : Except Fault (Option Failure)) :
    Prop where
  passes : r = .ok none ↔ ∀ s ∈ first, fy < s
  after : Reports r "DATE_AFTER_FINANCIAL_START" ↔ ∃ s ∈ first, s ≤ fy ∧ isWritable s = true
  stops : ∀ f, r = .error f ↔
    f = .unformattable ∧ ∃ s ∈ first, s ≤ fy ∧ isWritable s = false

theorem isBefore_iff {month year boundary : Int} :
    isBefore month year boundary = true ↔ financialYear month year < boundary := by
  simp only [isBefore, financialYear, Bool.or_eq_true, Bool.and_eq_true, beq_iff_eq,
    decide_eq_true_eq]
  split <;> omega

theorem isBefore_eq_false_iff {month year boundary : Int} :
    isBefore month year boundary = false ↔ boundary ≤ financialYear month year := by
  rw [← Bool.not_eq_true, isBefore_iff, Int.not_lt]

section Breaches
variable {m : Milestone} {month year : Int} {first last : Option Int} {b : Breach}

theorem reached_iff {known : Option Int} {breach : Int → Breach} :
    (known.filter fun i => !isBefore month year i).map breach = some b ↔
      ∃ i ∈ known, i ≤ financialYear month year ∧ breach i = b := by
  rw [Option.map_eq_some_iff]
  refine exists_congr fun i => ?_
  rw [Option.filter_eq_some_iff, Bool.not_eq_true', isBefore_eq_false_iff, and_assoc,
    Option.mem_def]

theorem breach?_early (early : m.early = true) : breach? m month year first last = some b ↔
    ∃ s ∈ first, s ≤ financialYear month year ∧ .tooLateForStart s = b := by
  rw [breach?, if_pos early, reached_iff]

theorem breach?_regular (regular : m.early = false) : breach? m month year first last = some b ↔
    (∃ s ∈ first, financialYear month year < s ∧ .tooEarly s = b) ∨
    (∀ s ∈ first, s ≤ financialYear month year) ∧
      ∃ e ∈ last, e ≤ financialYear month year ∧ .tooLate e = b := by
  rw [breach?, if_neg (by simp [regular])]
  cases hs : first.filter (isBefore month year) with
  | some s =>
    obtain ⟨rfl, early⟩ := Option.filter_eq_some_iff.mp hs
    have early := isBefore_iff.mp early
    simp [early, Int.not_le.mpr early]
  | none =>
    have known : ∀ s ∈ first, s ≤ financialYear month year := fun s hf =>
      isBefore_eq_false_iff.mp (Bool.eq_false_iff.mpr (Option.filter_eq_none_iff.mp hs s hf))
    rw [reached_iff]
    constructor
    · exact fun h => .inr ⟨known, h⟩
    · rintro (⟨s, hf, early, -⟩ | ⟨-, h⟩)
      · exact absurd (known s hf) (Int.not_le.mpr early)
      · exact h

theorem breach?_regular_eq_none (regular : m.early = false) :
    breach? m month year first last = none ↔ (∀ s ∈ first, s ≤ financialYear month year) ∧
      ∀ e ∈ last, financialYear month year < e := by
  rw [Option.eq_none_iff_forall_ne_some]
  simp only [ne_eq, breach?_regular regular]
  constructor
  · intro sound
    have begun : ∀ s ∈ first, s ≤ financialYear month year := fun s known =>
      Int.not_lt.mp fun early => sound _ (.inl ⟨s, known, early, rfl⟩)
    exact ⟨begun, fun e known => Int.not_le.mp fun late =>
      sound _ (.inr ⟨begun, e, known, late, rfl⟩)⟩
  · rintro ⟨begun, unended⟩ b (⟨s, known, early, -⟩ | ⟨-, e, known, late, -⟩)
    · exact absurd (begun s known) (Int.not_le.mpr early)
    · exact absurd (unended e known) (Int.not_lt.mpr late)

theorem breach?_early_eq_none (early : m.early = true) :
    breach? m month year first last = none ↔ ∀ s ∈ first, financialYear month year < s := by
  rw [Option.eq_none_iff_forall_ne_some]
  simp only [ne_eq, breach?_early early]
  constructor
  · exact fun sound s known => Int.not_le.mp fun late => sound _ ⟨s, known, late, rfl⟩
  · rintro before b ⟨s, known, late, -⟩
    exact absurd (before s known) (Int.not_lt.mpr late)

end Breaches

section Said
variable {m : Milestone} {breach : Option Breach}

theorem said_written {b : Breach} (writable : isWritable b.year = true) :
    (some b).mapM (·.failure m) =
      .ok (some (.invalid b.code (m.label ++ b.demand) m.monthField)) := by
  rw [Option.mapM_some, Breach.failure, if_pos writable]
  rfl

theorem said_unwritten {b : Breach} (long : isWritable b.year = false) :
    (some b).mapM (·.failure m) = .error .unformattable := by
  rw [Option.mapM_some, Breach.failure, if_neg (by simp [long])]
  rfl

theorem said_eq_none : breach.mapM (·.failure m) = .ok none ↔ breach = none := by
  cases breach with
  | none => exact ⟨fun _ => rfl, fun _ => rfl⟩
  | some b =>
    cases writable : isWritable b.year with
    | true =>
      rw [said_written writable]
      exact ⟨nofun, nofun⟩
    | false =>
      rw [said_unwritten writable]
      exact ⟨nofun, nofun⟩

theorem said_eq_some {f : Failure} : breach.mapM (·.failure m) = .ok (some f) ↔
    ∃ b, breach = some b ∧ isWritable b.year = true ∧
      .invalid b.code (m.label ++ b.demand) m.monthField = f := by
  cases breach with
  | none => exact ⟨nofun, nofun⟩
  | some b =>
    cases writable : isWritable b.year with
    | true =>
      rw [said_written writable]
      simp [writable]
    | false =>
      rw [said_unwritten writable]
      simp [writable]

theorem said_eq_error {f : Fault} : breach.mapM (·.failure m) = .error f ↔
    f = .unformattable ∧ ∃ b, breach = some b ∧ isWritable b.year = false := by
  cases breach with
  | none => exact ⟨nofun, nofun⟩
  | some b =>
    cases writable : isWritable b.year with
    | true =>
      rw [said_written writable]
      simp [writable]
    | false =>
      rw [said_unwritten writable]
      simp [writable, eq_comm (a := f)]

theorem reports_said {code : String} : Reports (breach.mapM (·.failure m)) code ↔
    ∃ b, breach = some b ∧ b.code = code ∧ isWritable b.year = true := by
  unfold Reports
  simp only [said_eq_some]
  constructor
  · rintro ⟨_, ⟨b, broken, writable, rfl⟩, coded⟩
    exact ⟨b, broken, coded, writable⟩
  · rintro ⟨b, broken, coded, writable⟩
    exact ⟨_, ⟨b, broken, writable, rfl⟩, coded⟩

end Said

section Judgements
variable {m : Milestone} {month year : Int} {first last : Option Int}

theorem judgedBetween_said (regular : m.early = false) :
    JudgedBetween (financialYear month year) first last
      ((breach? m month year first last).mapM (·.failure m)) where
  passes := by rw [said_eq_none, breach?_regular_eq_none regular]
  before := by
    rw [reports_said]
    simp only [breach?_regular regular]
    constructor
    · rintro ⟨b, ⟨s, known, early, rfl⟩ | ⟨-, e, -, -, rfl⟩, coded, writable⟩
      · exact ⟨s, known, early, writable⟩
      · simp [Breach.code] at coded
    · rintro ⟨s, known, early, writable⟩
      exact ⟨_, .inl ⟨s, known, early, rfl⟩, rfl, writable⟩
  after := by
    rw [reports_said]
    simp only [breach?_regular regular]
    constructor
    · rintro ⟨b, ⟨s, -, -, rfl⟩ | ⟨begun, e, known, late, rfl⟩, coded, writable⟩
      · simp [Breach.code] at coded
      · exact ⟨begun, e, known, late, writable⟩
    · rintro ⟨begun, e, known, late, writable⟩
      exact ⟨_, .inr ⟨begun, e, known, late, rfl⟩, rfl, writable⟩
  stops f := by
    rw [said_eq_error]
    simp only [breach?_regular regular]
    refine and_congr_right fun _ => ?_
    constructor
    · rintro ⟨b, ⟨s, known, early, rfl⟩ | ⟨begun, e, known, late, rfl⟩, long⟩
      · exact .inl ⟨s, known, early, long⟩
      · exact .inr ⟨begun, e, known, late, long⟩
    · rintro (⟨s, known, early, long⟩ | ⟨begun, e, known, late, long⟩)
      · exact ⟨_, .inl ⟨s, known, early, rfl⟩, long⟩
      · exact ⟨_, .inr ⟨begun, e, known, late, rfl⟩, long⟩

theorem judgedEarly_said (early : m.early = true) :
    JudgedEarly (financialYear month year) first
      ((breach? m month year first last).mapM (·.failure m)) where
  passes := by rw [said_eq_none, breach?_early_eq_none early]
  after := by
    rw [reports_said]
    simp only [breach?_early early]
    constructor
    · rintro ⟨b, ⟨s, known, late, rfl⟩, -, writable⟩
      exact ⟨s, known, late, writable⟩
    · rintro ⟨s, known, late, writable⟩
      exact ⟨_, ⟨s, known, late, rfl⟩, rfl, writable⟩
  stops f := by
    rw [said_eq_error]
    simp only [breach?_early early]
    refine and_congr_right fun _ => ?_
    constructor
    · rintro ⟨b, ⟨s, known, late, rfl⟩, long⟩
      exact ⟨s, known, late, long⟩
    · rintro ⟨s, known, late, long⟩
      exact ⟨_, ⟨s, known, late, rfl⟩, long⟩

end Judgements

theorem milestone_of_regular : ∀ level ∈ regularLevels, ∃ m ∈ milestones,
    milestones.find? (·.level == level) = some m ∧ m.early = false := by
  decide

theorem milestone_of_early : ∃ m ∈ milestones,
    milestones.find? (·.level == earlyLevel) = some m ∧ m.early = true := by
  decide

theorem milestone_own : ∀ m ∈ milestones, milestones.find? (·.level == m.level) = some m := by
  decide

theorem level_of_milestone : ∀ m ∈ milestones, m.level ∈ regularLevels ∨ m.level = earlyLevel := by
  decide

theorem milestone_of_other {level : String} (regular : level ∉ regularLevels)
    (early : level ≠ earlyLevel) : milestones.find? (·.level == level) = none := by
  rw [List.find?_eq_none]
  intro m mem same
  rcases level_of_milestone m mem with own | own
  · exact regular (beq_iff_eq.mp same ▸ own)
  · exact early (beq_iff_eq.mp same ▸ own)

section Check
variable {month year start stop : Value} {level : String} {m : Milestone} {mo y : Option Int}
  {first last : Option Int}

theorem milestone?_text : milestone? (.text level) = .ok (milestones.find? (·.level == level)) :=
  rfl

theorem check_of_milestone {mo y : Int} (own : milestones.find? (·.level == level) = some m)
    (hmonth : part month = .ok (some mo)) (hyear : part year = .ok (some y))
    (hstart : part start = .ok first) (hstop : part stop = .ok last) :
    check month year (.text level) start stop =
      (breach? m mo y first last).mapM (·.failure m) := by
  simp only [check, milestone?_text, own, hmonth, hyear, hstart, hstop, bind, Except.bind]

theorem check_of_missing (hmonth : part month = .ok mo) (hyear : part year = .ok y)
    (missing : mo = none ∨ y = none ∨ milestones.find? (·.level == level) = none) :
    check month year (.text level) start stop = .ok none := by
  simp only [check, milestone?_text, hmonth, hyear, bind, Except.bind]
  split
  · next own => simp [own] at missing
  · rfl

theorem judgedBetween_check {a b : Int} (regular : level ∈ regularLevels)
    (hmonth : part month = .ok (some a)) (hyear : part year = .ok (some b))
    (hstart : part start = .ok first) (hstop : part stop = .ok last) :
    JudgedBetween (financialYear a b) first last (check month year (.text level) start stop) := by
  obtain ⟨m, -, own, lies⟩ := milestone_of_regular level regular
  rw [check_of_milestone own hmonth hyear hstart hstop]
  exact judgedBetween_said lies

theorem breach_of_failure {f : Failure}
    (h : check month year (.text level) start stop = .ok (some f)) :
    ∃ (m : Milestone) (b : Breach), milestones.find? (·.level == level) = some m ∧
      .invalid b.code (m.label ++ b.demand) m.monthField = f := by
  obtain ⟨own, found, h⟩ := bind_eq_ok.mp h
  cases found
  obtain ⟨mo, -, h⟩ := bind_eq_ok.mp h
  obtain ⟨y, -, h⟩ := bind_eq_ok.mp h
  split at h
  · obtain ⟨first, -, h⟩ := bind_eq_ok.mp h
    obtain ⟨last, -, h⟩ := bind_eq_ok.mp h
    obtain ⟨b, -, -, said⟩ := said_eq_some.mp h
    exact ⟨_, b, ‹_›, said⟩
  · cases pure_eq_ok.mp h

theorem checkPayload_of_level (payload : Fields) (mem : m ∈ milestones) :
    checkPayload payload (.text m.level) start stop =
      check (payload.get m.monthField) (payload.get m.yearField) (.text m.level) start stop := by
  rw [checkPayload, milestone?_text, milestone_own m mem]
  rfl

theorem checkPayload_of_other (payload : Fields) (other : ∀ m ∈ milestones, m.level ≠ level) :
    checkPayload payload (.text level) start stop = .ok none := by
  have none : milestones.find? (·.level == level) = none := by
    simpa [List.find?_eq_none] using other
  rw [checkPayload, milestone?_text, none]
  rfl

/-- `check` compares the financial year of a date with the years of the window, for months and years
that `part` reads as a number or as none. It returns none for a date that is not known and for a
level without a milestone. Its failures name the month field of the milestone of the level. -/
theorem dates_judged (level : String) (start stop : Value) (hmonth : part month = .ok mo)
    (hyear : part year = .ok y) :
    (mo = none ∨ y = none ∨ level ∉ regularLevels ∧ level ≠ earlyLevel →
      check month year (.text level) start stop = .ok none) ∧
    (∀ a b, mo = some a → y = some b → ∀ s e, part start = .ok s → part stop = .ok e →
      (level ∈ regularLevels →
        JudgedBetween (financialYear a b) s e (check month year (.text level) start stop)) ∧
      (level = earlyLevel →
        JudgedEarly (financialYear a b) s (check month year (.text level) start stop) ∧
        ∀ other o, part other = .ok o → check month year (.text level) start other =
          check month year (.text level) start stop)) ∧
    (∀ f, check month year (.text level) start stop = .ok (some f) → f.kind = .invalid ∧
      ∃ m ∈ milestones, m.level = level ∧ f.field = some m.monthField) ∧
    ∀ payload : Fields,
      (∀ m ∈ milestones, m.level = level → checkPayload payload (.text level) start stop =
        check (payload.get m.monthField) (payload.get m.yearField) (.text level) start stop) ∧
      ((∀ m ∈ milestones, m.level ≠ level) →
        checkPayload payload (.text level) start stop = .ok none) := by
  refine ⟨fun missing => ?_, ?_, fun f said => ?_, fun payload => ⟨?_, ?_⟩⟩
  · refine check_of_missing hmonth hyear (missing.imp_right (Or.imp_right ?_))
    exact fun ⟨regular, early⟩ => milestone_of_other regular early
  · rintro a b rfl rfl s e hstart hstop
    constructor
    · exact fun regular => judgedBetween_check regular hmonth hyear hstart hstop
    · rintro rfl
      obtain ⟨m, -, own, lies⟩ := milestone_of_early
      rw [check_of_milestone own hmonth hyear hstart hstop]
      refine ⟨judgedEarly_said lies, fun other o hother => ?_⟩
      rw [check_of_milestone own hmonth hyear hstart hother]
      simp only [breach?, lies, if_true]
  · obtain ⟨m, b, own, rfl⟩ := breach_of_failure said
    have same := List.find?_some own
    exact ⟨rfl, m, List.mem_of_find?_eq_some own, beq_iff_eq.mp same, rfl⟩
  · rintro m mem rfl
    exact checkPayload_of_level payload mem
  · exact checkPayload_of_other payload

theorem dates_judged_march :
    Reports (check (.text "3") (.int 2025) (.text "START_CONSTRUCTION") (.int 2025) .null)
      "DATE_BEFORE_FINANCIAL_START" := by
  have hmonth : part (.text "3") = .ok (some 3) := congrArg Except.ok (by decide +kernel)
  have hyear : part (.int 2025) = .ok (some 2025) := rfl
  obtain ⟨-, judged, -⟩ := dates_judged "START_CONSTRUCTION" (.int 2025) .null hmonth hyear
  have between := (judged 3 2025 rfl rfl (some 2025) none rfl rfl).1 (by decide)
  exact between.before.mpr ⟨2025, rfl, by decide, by decide +kernel⟩

theorem dates_unjudged :
    (part (.decimal (.finite false 1 4300)) = .ok (some (10 ^ 4300 : Nat)) ∧
      financialYear 5 2025 < (10 ^ 4300 : Nat) ∧
      check (.int 5) (.int 2025) (.text "START_CONSTRUCTION") (.decimal (.finite false 1 4300))
        .null = .error .unformattable) ∧
    check (.float (.infinity false)) (.int 2025) (.text "RISK") .null .null =
      .error .unbounded := by
  have start : part (.decimal (.finite false 1 4300)) = .ok (some (10 ^ 4300 : Nat)) :=
    congrArg Except.ok (by decide +kernel)
  have later : financialYear 5 2025 < (10 ^ 4300 : Nat) := by
    decide +kernel
  have long : isWritable (10 ^ 4300 : Nat) = false := by
    decide +kernel
  have judged := judgedBetween_check (by decide : "START_CONSTRUCTION" ∈ regularLevels)
    (show part (.int 5) = .ok (some 5) from rfl) (show part (.int 2025) = .ok (some 2025) from rfl)
    start (show part .null = .ok none from rfl)
  exact ⟨⟨start, later, (judged.stops _).mpr ⟨rfl, .inl ⟨_, Option.mem_some_self _, later, long⟩⟩⟩, rfl⟩

end Check

end FloodScheme.Timeline
