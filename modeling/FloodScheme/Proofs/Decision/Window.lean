import FloodScheme.Proofs.Decision.Requirements

/-! The check of a milestone's date against what is required of it. -/
namespace FloodScheme
open Outcome Number Requirement

namespace Value

variable {calm : Prop}

/-- A value that reads as a whole number that can be written, or as none. -/
def Countable (v : Value) : Prop := ∃ n, v.wholePart = .ok n ∧ n.all Number.isWritable = true

theorem whole_gives {v : Value} (countable : calm → v.Countable) :
    Gives calm v.wholePart v.whole? := by
  unfold whole?
  cases hv : v.wholePart with
  | ok n => exact .inl rfl
  | error f =>
    refine .inr ⟨fun c => ?_, f, rfl⟩
    obtain ⟨n, read, -⟩ := countable c
    cases hv.symm.trans read

theorem isWritable_of_whole? {v : Value} {i : Int} (countable : v.Countable)
    (h : v.whole? = some i) : Number.isWritable i = true := by
  obtain ⟨n, read, writable⟩ := countable
  rw [whole?, read] at h
  have number : n = some i := h
  simpa [number] using writable

end Value

namespace Decision

variable {calm : Prop}

theorem milestone_gives {level : Value} (key : calm → level.isKey = true) :
    Gives calm (Timeline.milestone? level) (milestoneOf? level) := by
  unfold Timeline.milestone?
  split
  · next bad =>
    refine .inr ⟨fun c => ?_, _, rfl⟩
    simp [key c] at bad
  · cases level with
    | text name => exact .inl rfl
    | null => exact .inl rfl
    | bool b => exact .inl rfl
    | int i => exact .inl rfl
    | float x => exact .inl rfl
    | decimal d => exact .inl rfl
    | list items => exact .inl rfl
    | object members => exact .inl rfl

theorem mem_of_milestoneOf? {level : Value} {m : Milestone} (h : milestoneOf? level = some m) :
    m ∈ Timeline.milestones := by
  unfold milestoneOf? at h
  split at h
  · exact List.mem_of_find?_eq_some h
  · cases h

theorem part_gives {v : Value} (countable : calm → v.Countable) :
    Gives calm (Timeline.part v) (datePart? v) := by
  unfold Timeline.part datePart?
  cases v with
  | bool b => exact .inl rfl
  | null => exact Value.whole_gives countable
  | int i => exact Value.whole_gives countable
  | float x => exact Value.whole_gives countable
  | decimal d => exact Value.whole_gives countable
  | text s => exact Value.whole_gives countable
  | list items => exact Value.whole_gives countable
  | object members => exact Value.whole_gives countable

theorem isWritable_of_datePart? {v : Value} {i : Int} (countable : v.Countable)
    (h : datePart? v = some i) : isWritable i = true := by
  unfold datePart? at h
  split at h
  · cases h
  · exact Value.isWritable_of_whole? countable h

theorem isBefore_eq : Timeline.isBefore = beforeApril := by
  funext month year boundary
  rw [Bool.eq_iff_iff]
  simp only [Timeline.isBefore, beforeApril, Bool.or_eq_true, Bool.and_eq_true, beq_iff_eq,
    decide_eq_true_eq]
  exact Iff.rfl

theorem unmet?_dateRequirements (m : Milestone) (month year : Int) (start stop : Option Int) :
    unmet? (dateRequirements m month year start stop) =
      (Timeline.breach? m month year start stop).map fun b =>
        .invalid b.code (m.label ++ b.demand) m.monthField := by
  unfold dateRequirements Timeline.breach? unmet?
  simp only [isBefore_eq]
  cases m.early with
  | true =>
    cases start with
    | none => rfl
    | some s =>
      cases hs : beforeApril month year s with
      | true => simp [Option.filter_some, hs]
      | false => simp [Option.filter_some, hs]
  | false =>
    cases start with
    | none =>
      cases stop with
      | none => rfl
      | some e =>
        cases he : beforeApril month year e with
        | true => simp [Option.filter_some, he]
        | false => simp [Option.filter_some, he]
    | some s =>
      cases hs : beforeApril month year s with
      | true => simp [Option.filter_some, hs]
      | false =>
        cases stop with
        | none => simp [Option.filter_some, hs]
        | some e =>
          cases he : beforeApril month year e with
          | true => simp [Option.filter_some, hs, he]
          | false => simp [Option.filter_some, hs, he]

theorem year_of_breach? {m : Milestone} {month year : Int} {start stop : Option Int}
    {b : Timeline.Breach} (h : Timeline.breach? m month year start stop = some b) :
    start = some b.year ∨ stop = some b.year := by
  unfold Timeline.breach? at h
  split at h
  · obtain ⟨s, found, rfl⟩ := Option.map_eq_some_iff.mp h
    exact .inl (Option.filter_eq_some_iff.mp found).1
  · split at h
    · next s found =>
      cases h
      exact .inl (Option.filter_eq_some_iff.mp found).1
    · obtain ⟨e, found, rfl⟩ := Option.map_eq_some_iff.mp h
      exact .inr (Option.filter_eq_some_iff.mp found).1

theorem breach_gives {m : Milestone} {month year : Int} {start stop : Option Int}
    (writable : calm → ∀ i, start = some i ∨ stop = some i → isWritable i = true) :
    Gives calm ((Timeline.breach? m month year start stop).mapM (·.failure m))
      (unmet? (dateRequirements m month year start stop)) := by
  rw [unmet?_dateRequirements]
  cases hb : Timeline.breach? m month year start stop with
  | none => exact .inl rfl
  | some b =>
    by_cases long : isWritable b.year = true
    · have said : b.failure m = .ok (.invalid b.code (m.label ++ b.demand) m.monthField) := by
        rw [Timeline.Breach.failure, if_pos long]
      simp only [Option.mapM_some, said]
      exact .inl rfl
    · have stopped : b.failure m = .error .unformattable := by
        rw [Timeline.Breach.failure, if_neg long]
      simp only [Option.mapM_some, stopped]
      exact .inr ⟨fun c => long (writable c _ (year_of_breach? hb)), _, rfl⟩

theorem checkPayload_gives {payload : Fields} {level start stop : Value}
    (key : calm → level.isKey = true)
    (dates : calm → ∀ m ∈ Timeline.milestones,
      (payload.get m.monthField).Countable ∧ (payload.get m.yearField).Countable)
    (years : calm → start.Countable ∧ stop.Countable) :
    Gives calm (Timeline.checkPayload payload level start stop)
      (unmet? (windowRequirements payload level start stop)) := by
  unfold Timeline.checkPayload windowRequirements
  refine .bind (milestone_gives key) ?_
  cases hm : milestoneOf? level with
  | none => exact .pure _
  | some m =>
    have mem := mem_of_milestoneOf? hm
    unfold Timeline.check
    refine .bind (milestone_gives key) ?_
    rw [hm]
    refine .bind (part_gives fun c => (dates c m mem).1) ?_
    refine .bind (part_gives fun c => (dates c m mem).2) ?_
    cases hmonth : datePart? (payload.get m.monthField) with
    | none =>
      simp only [hmonth]
      exact .pure _
    | some month =>
      cases hyear : datePart? (payload.get m.yearField) with
      | none =>
        simp only [hmonth, hyear]
        exact .pure _
      | some year =>
        simp only [hmonth, hyear]
        refine .bind (part_gives fun c => (years c).1) ?_
        refine .bind (part_gives fun c => (years c).2) ?_
        refine breach_gives fun c i known => ?_
        rcases known with first | last
        · exact isWritable_of_datePart? (years c).1 first
        · exact isWritable_of_datePart? (years c).2 last

end Decision
end FloodScheme
