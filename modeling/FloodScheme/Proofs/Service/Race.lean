import FloodScheme.Proofs.Service.Window
import Mathlib.Data.List.Induction
import Mathlib.Logic.Function.Basic

/-! Concurrent saves. A save checks first and writes later, and other clients take turns in between.
The write does not repeat the check of the years, so two clients can each check against years that
the other one replaces. -/
namespace FloodScheme
open Decision Outcome

theorem Decision.comparedYear_int {payload : Fields} {field : String} {before after : Int} :
    comparedYear payload field (.int before) = some after ↔
      isPresent payload field = true ∧ (payload.get field).whole? = some after ∨
        isPresent payload field = false ∧ after = before := by
  have stored : (Value.int before).whole? = some before := rfl
  unfold comparedYear
  cases isPresent payload field with
  | true => simp
  | false => simp [stored, eq_comm]

namespace Proposal

theorem reference_sent {q : Proposal} {stripped : Fields} {s : String}
    (clean : Catalogue.registry.validate (.text q.level) q.payload = .ok [])
    (strip : Catalogue.registry.strip (.text q.level) q.payload = .ok stripped)
    (named : q.payload.get "referenceNumber" = .text s) :
    s ≠ "" ∧ stripped.get "referenceNumber" = .text s := by
  rcases reference_cases clean strip with ⟨-, unnamed, -⟩ | ⟨-, s', some, named', kept⟩
  · rw [unnamed] at named
    cases named
  · obtain rfl : s' = s := Value.text.inj (named'.symm.trans named)
    exact ⟨some, kept⟩

theorem legibleYears_of_int {q : Proposal}
    (plain : ∀ r ∈ [Catalogue.financialStartYear, Catalogue.financialEndYear], ∀ v,
      q.payload.get? r.name = some v → ∃ i, v = .int i) : q.LegibleYears := by
  intro r year s sent _
  obtain ⟨i, number⟩ := plain r year _ sent
  cases number

end Proposal

structure Client where
  proposal : Proposal
  principal : Principal

inductive Stage
  | asked
  /-- Checked, and not written yet. -/
  | vetted (a : Acceptance)
  | finished

def Stage.isVetted : Stage → Bool
  | vetted _ => true
  | _ => false

def Stage.isFinished : Stage → Bool
  | finished => true
  | _ => false

/-- The check, or the write once the check has passed. Each reads the tables at its turn. -/
def Client.step (c : Client) (stage : Stage) (db : Database) (now : String) : Stage × Tables :=
  match stage with
  | .asked =>
    match c.proposal.vet db c.principal with
    | .error _ => (.finished, db.tables)
    | .ok a => (.vetted a, db.tables)
  | .vetted a =>
    match c.proposal.upsert c.principal a now with
    | .error _ => (.finished, db.tables)
    | .ok u => (.finished, (u.run db).2)
  | .finished => (.finished, db.tables)

theorem Client.step_step (c : Client) (db : Database) (now : String) :
    (c.step (c.step .asked db now).1 ⟨(c.step .asked db now).2, db.faults⟩ now).2 =
      (c.proposal.save db c.principal now).2 := by
  cases vetted : c.proposal.vet db c.principal with
  | error r => simp [step, Proposal.save, vetted]
  | ok a => cases upserted : c.proposal.upsert c.principal a now with
    | error f => simp [step, Proposal.save, vetted, upserted]
    | ok u => simp [step, Proposal.save_run vetted upserted, vetted, upserted]

/-- Tables that clients share, and how far each of them has come. -/
structure Race (ι : Type) where
  tables : Tables
  stage : ι → Stage

/-- Whose turn it is, and how the store behaves. -/
structure Turn (ι : Type) where
  client : ι
  faults : Faults := Faults.none
  now : String := ""

namespace Race

variable {ι : Type} {clients : ι → Client} {met met' : ι → ι → Prop} {reference : String}
  {r : Race ι} {x : Project} {years : Int × Int}

/-- The years are in order, or one client sent the first and another one, which it met, the last. -/
def Explained (clients : ι → Client) (met : ι → ι → Prop) (years : Int × Int) : Prop :=
  years.1 ≤ years.2 ∨ ∃ k l, k ≠ l ∧ met k l ∧
    ((clients k).proposal.payload.get "financialStartYear").whole? = some years.1 ∧
    ((clients l).proposal.payload.get "financialEndYear").whole? = some years.2

/-- The client has passed the rules of its level, and the years that its write would leave are
`Explained`. -/
structure Checked (clients : ι → Client) (met : ι → ι → Prop) (years : Int × Int) (k : ι) :
    Prop where
  clean : Catalogue.registry.validate (.text (clients k).proposal.level)
    (clients k).proposal.payload = .ok []
  explained : ∀ after, (clients k).proposal.LeavesYears years after → Explained clients met after

/-- The stored years are `Explained`, and so are the years that the writes of checked clients would
leave. -/
structure Standing (clients : ι → Client) (met : ι → ι → Prop) (reference : String) (r : Race ι)
    (x : Project) (years : Int × Int) : Prop where
  stored : r.tables.project? reference = some x
  known : x.years? = some years
  explained : Explained clients met years
  checked : ∀ k, (r.stage k).isVetted = true → Checked clients met years k

theorem Explained.mono (more : ∀ k l, met k l → met' k l) (h : Explained clients met years) :
    Explained clients met' years := by
  rcases h with ordered | ⟨k, l, apart, pair, start, stop⟩
  · exact .inl ordered
  · exact .inr ⟨k, l, apart, more k l pair, start, stop⟩

theorem Standing.mono (more : ∀ k l, met k l → met' k l)
    (h : Standing clients met reference r x years) :
    Standing clients met' reference r x years where
  stored := h.stored
  known := h.known
  explained := h.explained.mono more
  checked k pending := by
    obtain ⟨clean, explained⟩ := h.checked k pending
    exact ⟨clean, fun after leaves => (explained after leaves).mono more⟩

theorem Checked.of_written {k l : ι} {before : Int × Int} (h : Checked clients met before l)
    (apart : k ≠ l) (meets : met k l ∧ met l k)
    (written : (clients k).proposal.LeavesYears before years)
    (explained : Explained clients met years) : Checked clients met years l := by
  refine ⟨h.clean, fun after leaves => ?_⟩
  rcases comparedYear_int.mp leaves.1 with ⟨sentFirst, start⟩ | ⟨keptFirst, start⟩
  · rcases comparedYear_int.mp leaves.2 with ⟨sentLast, stop⟩ | ⟨keptLast, stop⟩
    · -- both years are sent, and were compared with each other
      refine h.explained after ⟨?_, ?_⟩
      · exact comparedYear_int.mpr (.inl ⟨sentFirst, start⟩)
      · exact comparedYear_int.mpr (.inl ⟨sentLast, stop⟩)
    · rcases comparedYear_int.mp written.2 with ⟨-, other⟩ | ⟨-, same⟩
      · exact .inr ⟨l, k, apart.symm, meets.2, start, stop ▸ other⟩
      · refine h.explained after ⟨?_, ?_⟩
        · exact comparedYear_int.mpr (.inl ⟨sentFirst, start⟩)
        · exact comparedYear_int.mpr (.inr ⟨keptLast, stop.trans same⟩)
  · rcases comparedYear_int.mp leaves.2 with ⟨sentLast, stop⟩ | ⟨keptLast, stop⟩
    · rcases comparedYear_int.mp written.1 with ⟨-, other⟩ | ⟨-, same⟩
      · exact .inr ⟨k, l, apart, meets.1, start ▸ other, stop⟩
      · refine h.explained after ⟨?_, ?_⟩
        · exact comparedYear_int.mpr (.inr ⟨keptFirst, start.trans same⟩)
        · exact comparedYear_int.mpr (.inl ⟨sentLast, stop⟩)
    · -- neither is sent, so that what the other one has left stays
      have same : after = years := Prod.ext start stop
      exact same ▸ explained

section
variable [DecidableEq ι]

def turn (clients : ι → Client) (r : Race ι) (t : Turn ι) : Race ι :=
  let next := (clients t.client).step (r.stage t.client) ⟨r.tables, t.faults⟩ t.now
  ⟨next.2, Function.update r.stage t.client next.1⟩

def after (clients : ι → Client) (r : Race ι) (turns : List (Turn ι)) : Race ι :=
  turns.foldl (turn clients) r

/-- At some moment both clients have checked and neither has written. -/
def Overlap (clients : ι → Client) (r : Race ι) (turns : List (Turn ι)) (k l : ι) : Prop :=
  ∃ before later, turns = before ++ later ∧ ((r.after clients before).stage k).isVetted = true ∧
    ((r.after clients before).stage l).isVetted = true

theorem forall_update {P : ι → Prop} {k : ι} {stage : Stage} (own : stage.isVetted = true → P k)
    (others : ∀ l, l ≠ k → (r.stage l).isVetted = true → P l) :
    ∀ l, (Function.update r.stage k stage l).isVetted = true → P l := by
  intro l pending
  by_cases same : l = k
  · subst same
    rw [Function.update_self] at pending
    exact own pending
  · rw [Function.update_of_ne same] at pending
    exact others l same pending

theorem Standing.idle (h : Standing clients met reference r x years) (k : ι) {stage : Stage}
    (nothing : stage.isVetted = false) :
    Standing clients met reference ⟨r.tables, Function.update r.stage k stage⟩ x years where
  stored := h.stored
  known := h.known
  explained := h.explained
  checked := forall_update (fun pending => by simp [nothing] at pending)
    fun l _ pending => h.checked l pending

theorem Standing.vet (h : Standing clients met reference r x years) {k : ι} {faults : Faults}
    {a : Acceptance}
    (named : (clients k).proposal.payload.get "referenceNumber" = .text reference)
    (vetted : (clients k).proposal.vet ⟨r.tables, faults⟩ (clients k).principal = .ok a) :
    Standing clients met reference ⟨r.tables, Function.update r.stage k (.vetted a)⟩ x years where
  stored := h.stored
  known := h.known
  explained := h.explained
  checked := by
    refine forall_update (fun _ => ?_) fun l _ pending => h.checked l pending
    obtain ⟨clean, accepted⟩ := Proposal.vet_eq_ok vetted
    refine ⟨clean, fun after leaves => ?_⟩
    obtain ⟨kept, strip⟩ := Registry.strip_of_validate clean
    obtain ⟨some, -⟩ := Proposal.reference_sent clean strip named
    obtain ⟨y, found, allowed, -⟩ := Proposal.accepted_again some named accepted
    obtain rfl : y = x := Option.some.inj (found.symm.trans h.stored)
    obtain ⟨start, stop⟩ := Project.years?_eq_some.mp h.known
    have met := allowed (yearRequirement (clients k).proposal.payload (.int years.1) (.int years.2))
      (by simp [updateRequirements, Tables.record, start, stop])
    rcases leaves.le_or_eq met with ordered | rfl
    · exact .inl ordered
    · exact h.explained

theorem Standing.write (h : Standing clients met reference r x years) {k : ι} {a : Acceptance}
    {u : Upsert} {x' : Project} {t' : Tables}
    (named : (clients k).proposal.payload.get "referenceNumber" = .text reference)
    (legible : (clients k).proposal.LegibleYears)
    (meets : ∀ l, l ≠ k → (r.stage l).isVetted = true → met k l ∧ met l k)
    (pending : (r.stage k).isVetted = true) {now : String} {faults : Faults}
    (upserted : (clients k).proposal.upsert (clients k).principal a now = .ok u)
    (written : Upsert.write ⟨r.tables, faults⟩ u = .ok (t', x')) :
    ∃ years',
      Standing clients met reference ⟨t', Function.update r.stage k .finished⟩ x' years' := by
  obtain ⟨clean, explained⟩ := h.checked k pending
  obtain ⟨strip, -⟩ := Proposal.upsert_eq_ok upserted
  obtain ⟨some, stripped⟩ := Proposal.reference_sent clean strip named
  have updates := Proposal.updates_of_named some stripped h.stored written
  have sends : (clients k).proposal.Sends u := ⟨clean, strip⟩
  obtain ⟨years', known, leaves⟩ := sends.leavesYears legible updates h.known
  refine ⟨years', updates.change.project? h.stored, known, explained years' leaves, ?_⟩
  refine forall_update nofun fun l apart pending => ?_
  exact (h.checked l pending).of_written apart.symm (meets l apart pending) leaves
    (explained years' leaves)

theorem Standing.turn (h : Standing clients met reference r x years)
    (named : ∀ k, (clients k).proposal.payload.get "referenceNumber" = .text reference)
    (legible : ∀ k, (clients k).proposal.LegibleYears)
    (meets : ∀ k l, (r.stage k).isVetted = true → (r.stage l).isVetted = true → met k l)
    (t : Turn ι) : ∃ x' years', Standing clients met reference (r.turn clients t) x' years' := by
  obtain ⟨k, faults, now⟩ := t
  unfold Race.turn
  cases stage : r.stage k with
  | asked =>
    cases vetted : (clients k).proposal.vet ⟨r.tables, faults⟩ (clients k).principal with
    | error e =>
      simp only [Client.step, vetted]
      exact ⟨x, years, h.idle k rfl⟩
    | ok a =>
      simp only [Client.step, vetted]
      exact ⟨x, years, h.vet (named k) vetted⟩
  | vetted a =>
    have pending : (r.stage k).isVetted = true := by rw [stage]; rfl
    cases upserted : (clients k).proposal.upsert (clients k).principal a now with
    | error f =>
      simp only [Client.step, upserted]
      exact ⟨x, years, h.idle k rfl⟩
    | ok u =>
      simp only [Client.step, upserted]
      rcases Upsert.run_cases ⟨r.tables, faults⟩ u with ⟨same, -⟩ | ⟨x', written, -⟩
      · rw [same]
        exact ⟨x, years, h.idle k rfl⟩
      · have both : ∀ l, l ≠ k → (r.stage l).isVetted = true → met k l ∧ met l k :=
          fun l _ other => ⟨meets k l pending other, meets l k other pending⟩
        exact ⟨x', h.write (named k) (legible k) both pending upserted written⟩
  | finished => exact ⟨x, years, h.idle k rfl⟩

theorem after_concat (r : Race ι) (turns : List (Turn ι)) (t : Turn ι) :
    r.after clients (turns ++ [t]) = (r.after clients turns).turn clients t := by
  simp [after]

theorem Overlap.append {turns : List (Turn ι)} {k l : ι} (h : r.Overlap clients turns k l)
    (more : List (Turn ι)) : r.Overlap clients (turns ++ more) k l := by
  obtain ⟨before, later, rfl, first, second⟩ := h
  exact ⟨before, later ++ more, List.append_assoc .., first, second⟩

theorem after_standing (fresh : ∀ k, r.stage k = .asked)
    (named : ∀ k, (clients k).proposal.payload.get "referenceNumber" = .text reference)
    (legible : ∀ k, (clients k).proposal.LegibleYears)
    (stored : r.tables.project? reference = some x) (ordered : x.YearsOrdered)
    (turns : List (Turn ι)) : ∃ x' years',
      Standing clients (r.Overlap clients turns) reference (r.after clients turns) x' years' := by
  induction turns using List.reverseRecOn with
  | nil =>
    obtain ⟨first, last, known, order⟩ := ordered
    exact ⟨x, (first, last), stored, known, .inl order, fun k pending => by
      simp [after, fresh k, Stage.isVetted] at pending⟩
  | append_singleton turns t ih =>
    obtain ⟨x', years', standing⟩ := ih
    rw [after_concat]
    refine (standing.mono fun k l met => met.append [t]).turn named legible ?_ t
    exact fun k l first second => ⟨turns, [t], rfl, first, second⟩

end
end Race

/-- Any number of clients check and write the years of one scheme in any interleaving, with any
refusals. Afterwards the first stored year does not exceed the last one, or two clients both checked
before either wrote, one sent the first year and the other the last one. -/
theorem race_years {ι : Type} [DecidableEq ι] {clients : ι → Client} {r : Race ι}
    {reference : String} {x : Project} (fresh : ∀ k, r.stage k = .asked)
    (named : ∀ k, (clients k).proposal.payload.get "referenceNumber" = .text reference)
    (legible : ∀ k, (clients k).proposal.LegibleYears)
    (stored : r.tables.project? reference = some x) (ordered : x.YearsOrdered)
    (turns : List (Turn ι)) :
    ∃ x' first last, (r.after clients turns).tables.project? reference = some x' ∧
      x'.years? = some (first, last) ∧
      (first ≤ last ∨ ∃ k l, k ≠ l ∧ r.Overlap clients turns k l ∧
        ((clients k).proposal.payload.get "financialStartYear").whole? = some first ∧
        ((clients l).proposal.payload.get "financialEndYear").whole? = some last) := by
  obtain ⟨x', years', standing⟩ := Race.after_standing fresh named legible stored ordered turns
  exact ⟨x', years'.1, years'.2, standing.stored, standing.known, standing.explained⟩

namespace Service

def rivals (first last : Int) (moved : Bool) : Client where
  proposal :=
    if moved then dykeStep "FINANCIAL_END_YEAR" [("financialEndYear", .int last)]
    else dykeStep "FINANCIAL_START_YEAR" [("financialStartYear", .int first)]
  principal := ⟨.int 1, false, true, [{ areaId := .int 2 }]⟩

def rivalry : Race Bool := ⟨(norfolkWith (dyke [])).tables, fun _ => .asked⟩

def overlapping : List (Turn Bool) := [⟨false, Faults.none, ""⟩, ⟨true, Faults.none, ""⟩,
  ⟨false, Faults.none, ""⟩, ⟨true, Faults.none, ""⟩]

theorem rivals_named (first last : Int) (k : Bool) :
    (rivals first last k).proposal.payload.get "referenceNumber" = .text "ANC501E/000A/001A" := by
  cases k with
  | false => rfl
  | true => rfl

theorem rivals_legible (first last : Int) (k : Bool) :
    (rivals first last k).proposal.LegibleYears := by
  refine Proposal.legibleYears_of_int fun r year v sent => ?_
  rcases List.mem_pair.mp year with rfl | rfl
  · cases k with
    | false => exact ⟨first, (Option.some.inj sent).symm⟩
    | true => cases sent
  · cases k with
    | false => cases sent
    | true => exact ⟨last, (Option.some.inj sent).symm⟩

theorem dyke_yearsOrdered : (dyke []).YearsOrdered := ⟨2025, 2030, rfl, by decide⟩

end Service

open Service

theorem race_years_dyke :
    (∀ k, rivalry.stage k = .asked) ∧
      (∀ k, (rivals 2026 2029 k).proposal.payload.get "referenceNumber" =
        .text "ANC501E/000A/001A") ∧
      (∀ k, (rivals 2026 2029 k).proposal.LegibleYears) ∧
      rivalry.tables.project? "ANC501E/000A/001A" = some (dyke []) ∧ (dyke []).YearsOrdered ∧
      (∀ k, ((rivalry.after (rivals 2026 2029) overlapping).stage k).isFinished = true) ∧
      ∃ x' first last,
        (rivalry.after (rivals 2026 2029) overlapping).tables.project? "ANC501E/000A/001A" =
          some x' ∧ x'.years? = some (first, last) ∧
        (first ≤ last ∨ ∃ k l, k ≠ l ∧ rivalry.Overlap (rivals 2026 2029) overlapping k l ∧
          ((rivals 2026 2029 k).proposal.payload.get "financialStartYear").whole? = some first ∧
          ((rivals 2026 2029 l).proposal.payload.get "financialEndYear").whole? = some last) :=
  ⟨fun _ => rfl, rivals_named _ _, rivals_legible _ _, dyke_stored [], dyke_yearsOrdered,
    by decide, race_years (fun _ => rfl) (rivals_named _ _) (rivals_legible _ _)
      (dyke_stored []) dyke_yearsOrdered overlapping⟩

theorem race_years_crossed :
    (∀ k, rivalry.stage k = .asked) ∧
      (∀ k, (rivals 2030 2025 k).proposal.payload.get "referenceNumber" =
        .text "ANC501E/000A/001A") ∧
      rivalry.tables.project? "ANC501E/000A/001A" = some (dyke []) ∧ (dyke []).YearsOrdered ∧
      (∀ k, ((rivalry.after (rivals 2030 2025) overlapping).stage k).isFinished = true) ∧
      ∃ x', (rivalry.after (rivals 2030 2025) overlapping).tables.project? "ANC501E/000A/001A" =
        some x' ∧ x'.years? = some (2030, 2025) ∧ ¬ x'.YearsOrdered := by
  have left : ((rivalry.after (rivals 2030 2025) overlapping).tables.project?
      "ANC501E/000A/001A").bind Project.years? = some (2030, 2025) := by decide
  obtain ⟨x', stored, years⟩ := Option.bind_eq_some_iff.mp left
  refine ⟨fun _ => rfl, rivals_named _ _, dyke_stored [], dyke_yearsOrdered, by decide, x',
    stored, years, ?_⟩
  rintro ⟨first, last, years', order⟩
  cases years.symm.trans years'
  exact absurd order (by decide)

end FloodScheme
