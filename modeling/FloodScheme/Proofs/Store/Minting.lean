import FloodScheme.Proofs.Reference.Parts
import FloodScheme.Proofs.Store.Write

/-! Reference numbers over a run of calls. The numbers of a code follow each other without a gap,
and its counters are those of its last number, whatever calls fail on the way. -/
namespace FloodScheme.Upsert

/-- The tables after calls one after another, each with the faults that it meets. -/
def afterCalls (t : Tables) (calls : List (Faults × Upsert)) : Tables :=
  calls.foldl (fun t c => (run ⟨t, c.1⟩ c.2).2) t

/-- A code has its first `n` reference numbers, each on one project, and one row of counters or,
where there is no number, none. -/
structure Numbered (t : Tables) (code : String) (n : Nat) : Prop where
  counters : t.counters.filter (·.code == code) =
    (Counters.left n).toList.map fun c => ⟨code, c⟩
  references : (t.projects.map Project.reference).filter (Reference.code? · == some code) =
    (List.range n).map fun i => Reference.format code (.nth (i + 1))

/-- What every call keeps. -/
structure Minted (t : Tables) : Prop where
  ids : (t.projects.map Project.id).Nodup
  numbered : ∀ code, ∃ n, Numbered t code n
  coded : ∀ r ∈ t.projects.map Project.reference, (Reference.code? r).isSome

theorem advance_filter_other {counters : List CounterRow} {code other : String}
    (h : other ≠ code) :
    (advance counters code).filter (·.code == other) = counters.filter (·.code == other) := by
  have apart : ¬ code = other := fun equal => h equal.symm
  induction counters with
  | nil => simp [advance, apart]
  | cons c rest ih =>
    rw [advance]
    split
    · next own =>
      have own' : c.code = code := by simpa using own
      simp [apart, own']
    · rw [List.filter_cons, List.filter_cons, ih]

theorem advance_filter_own {counters : List CounterRow} {code : String}
    {current : Option Counters}
    (h : counters.filter (·.code == code) = current.toList.map fun c => ⟨code, c⟩) :
    (advance counters code).filter (·.code == code) =
      [⟨code, current.elim (Counters.next ⟨0, 0⟩) Counters.next⟩] := by
  induction counters with
  | nil =>
    cases current with
    | none => simp [advance]
    | some c => simp at h
  | cons c rest ih =>
    rw [advance]
    by_cases own : c.code = code
    · rw [List.filter_cons_of_pos (by simpa using own)] at h
      cases current with
      | none => simp at h
      | some now =>
        simp only [Option.toList_some, List.map_cons, List.map_nil, List.cons.injEq] at h
        rw [if_pos (by simpa using own), List.filter_cons_of_pos (by simp), h.2, h.1]
        rfl
    · rw [List.filter_cons_of_neg (by simpa using own)] at h
      rw [if_neg (by simpa using own), List.filter_cons_of_neg (by simpa using own), ih h]

namespace Numbered

variable {t t' : Tables} {code : String} {n : Nat}

theorem counters? (h : Numbered t code n) : t.counters? code = Counters.left n := by
  have head := congrArg List.head? h.counters
  rw [List.head?_filter] at head
  rw [Tables.counters?, head]
  cases Counters.left n with
  | none => rfl
  | some c => rfl

theorem of_eq (h : Numbered t code n)
    (counters : t'.counters.filter (·.code == code) = t.counters.filter (·.code == code))
    (references : (t'.projects.map Project.reference).filter (Reference.code? · == some code) =
      (t.projects.map Project.reference).filter (Reference.code? · == some code)) :
    Numbered t' code n :=
  ⟨counters.trans h.counters, references.trans h.references⟩

end Numbered

theorem Creates.reference_eq {t t' : Tables} {u : Upsert} {code : String} {p : Project}
    (h : Creates t u code p t') {n : Nat} (before : Numbered t code n) :
    p.reference = Reference.format code (.nth (n + 1)) := by
  rw [h.reference, nextCounters, before.counters?, Counters.next_left]

theorem Creates.numbered_own {t t' : Tables} {u : Upsert} {code : String} {p : Project}
    (h : Creates t u code p t') {n : Nat} (before : Numbered t code n) :
    Numbered t' code (n + 1) := by
  have minted := h.reference_eq before
  rw [h.tables]
  refine ⟨?_, ?_⟩
  · rw [advance_filter_own before.counters, Counters.next_left]
    rfl
  · have coded : Reference.code? p.reference = some code := by
      rw [minted, Reference.code?_format_nth]
    have last : [p.reference].filter (Reference.code? · == some code) = [p.reference] := by
      simp [coded]
    rw [List.map_append, List.filter_append, before.references, List.range_succ,
      List.map_append]
    exact congrArg _ (last.trans (by rw [minted]; rfl))

theorem Creates.numbered_other {t t' : Tables} {u : Upsert} {code other : String} {p : Project}
    (h : Creates t u code p t') {n m : Nat} (own : Numbered t code n) (apart : other ≠ code)
    (before : Numbered t other m) : Numbered t' other m := by
  have minted := h.reference_eq own
  have coded : Reference.code? p.reference = some code := by
    rw [minted, Reference.code?_format_nth]
  have skipped : [p.reference].filter (Reference.code? · == some other) = [] := by
    simpa [coded] using fun equal : code = other => apart equal.symm
  rw [h.tables]
  refine before.of_eq (advance_filter_other apart) ?_
  rw [List.map_append, List.filter_append]
  exact (congrArg _ skipped).trans (List.append_nil _)

theorem Creates.minted_after {t t' : Tables} {u : Upsert} {code : String} {p : Project}
    (h : Creates t u code p t') (before : Minted t) : Minted t' := by
  obtain ⟨n, own⟩ := before.numbered code
  refine ⟨h.ids before.ids, ?_, ?_⟩
  · intro other
    by_cases equal : other = code
    · subst equal
      exact ⟨n + 1, h.numbered_own own⟩
    · obtain ⟨m, held⟩ := before.numbered other
      exact ⟨m, h.numbered_other own equal held⟩
  · intro r hr
    rw [h.tables, List.map_append, List.mem_append] at hr
    rcases hr with old | new
    · exact before.coded r old
    · simp only [List.map_cons, List.map_nil, List.mem_singleton] at new
      rw [new, h.reference_eq own, Reference.code?_format_nth]
      rfl

theorem Updates.map_projects {t t' : Tables} {u : Upsert} {p p' : Project}
    (h : Updates t u p p' t') (ids : (t.projects.map Project.id).Nodup) {α : Type}
    (f : Project → α) (same : f p' = f p) : t'.projects.map f = t.projects.map f :=
  h.change.map_rows ids h.mem f same

theorem Updates.minted_after {t t' : Tables} {u : Upsert} {p p' : Project}
    (h : Updates t u p p' t') (before : Minted t) : Minted t' := by
  obtain ⟨id, reference, -⟩ := h.change.identity
  have ids := h.map_projects before.ids Project.id id
  have references := h.map_projects before.ids Project.reference reference
  have counters : t'.counters = t.counters := by rw [h.tables]
  refine ⟨ids ▸ before.ids, fun code => ?_, references ▸ before.coded⟩
  obtain ⟨n, held⟩ := before.numbered code
  exact ⟨n, held.of_eq (by rw [counters]) (by rw [references])⟩

theorem minted_run (db : Database) (u : Upsert) (before : Minted db.tables) :
    Minted (run db u).2 := by
  rcases run_cases db u with ⟨same, -⟩ | ⟨p, written, -⟩
  · rw [same]
    exact before
  · rcases write_cases written with ⟨code, created⟩ | ⟨p₀, updated⟩
    · exact created.minted_after before
    · exact updated.minted_after before

theorem prefix_run (db : Database) (u : Upsert)
    (ids : (db.tables.projects.map Project.id).Nodup) :
    (db.tables.projects.map fun p => (p.id, p.reference)) <+:
      ((run db u).2.projects.map fun p => (p.id, p.reference)) := by
  rcases run_cases db u with ⟨same, -⟩ | ⟨p, written, -⟩
  · exact same ▸ List.prefix_rfl
  · rcases write_cases written with ⟨code, created⟩ | ⟨p₀, updated⟩
    · rw [created.tables, List.map_append]
      exact List.prefix_append _ _
    · obtain ⟨id, reference, -⟩ := updated.change.identity
      have kept := updated.map_projects ids (fun p => (p.id, p.reference))
        (by rw [id, reference])
      exact kept ▸ List.prefix_rfl

theorem counters_run (db : Database) (u : Upsert)
    (length : (run db u).2.projects.length = db.tables.projects.length) :
    (run db u).2.counters = db.tables.counters := by
  rcases run_cases db u with ⟨same, -⟩ | ⟨p, written, -⟩
  · rw [same]
  · rcases write_cases written with ⟨code, created⟩ | ⟨p₀, updated⟩
    · rw [created.tables] at length
      simp at length
    · rw [updated.tables]

theorem Minted.start (t : Tables) : Minted { t with projects := [], counters := [] } :=
  ⟨List.nodup_nil, fun _ => ⟨0, rfl, rfl⟩, fun _ h => absurd h List.not_mem_nil⟩

theorem minted_afterCalls {t : Tables} (calls : List (Faults × Upsert)) (before : Minted t) :
    Minted (afterCalls t calls) := by
  induction calls generalizing t with
  | nil => exact before
  | cons c rest ih => exact ih (minted_run ⟨t, c.1⟩ c.2 before)

theorem Minted.nodup {t : Tables} (h : Minted t) :
    (t.projects.map Project.reference).Nodup := by
  refine List.nodup_iff_count_le_one.mpr fun r => ?_
  by_cases mem : r ∈ t.projects.map Project.reference
  · obtain ⟨code, hcode⟩ := Option.isSome_iff_exists.mp (h.coded r mem)
    obtain ⟨n, numbered⟩ := h.numbered code
    have distinct : ((List.range n).map fun i =>
        Reference.format code (.nth (i + 1))).Nodup := by
      refine List.Nodup.map_on (fun i _ j _ equal => ?_) List.nodup_range
      have same := (Reference.format_nth_injective i.succ_pos j.succ_pos equal).2
      omega
    have counted := List.count_filter (l := t.projects.map Project.reference)
      (p := fun r => Reference.code? r == some code) (a := r) (by simp [hcode])
    rw [← counted, numbered.references]
    exact List.nodup_iff_count_le_one.mp distinct r
  · rw [List.count_eq_zero_of_not_mem mem]
    exact Nat.zero_le 1

/-- After any calls on tables without projects and counters: the reference numbers of a code are the
first `n` of that code in order, for some `n`, the counters stored for the code are those of its
last number, and no two projects have the same number. A further call keeps the existing numbers,
and leaves the counters as they were if it adds no project or fails before the commit. -/
theorem references_gapless (t : Tables) (calls : List (Faults × Upsert)) :
    let t' := afterCalls { t with projects := [], counters := [] } calls
    (∀ code, ∃ n, Numbered t' code n) ∧
      (∀ r ∈ t'.projects.map Project.reference, (Reference.code? r).isSome) ∧
      (t'.projects.map Project.reference).Nodup ∧
      ∀ (faults : Faults) (u : Upsert),
        let after := run ⟨t', faults⟩ u
        (t'.projects.map fun p => (p.id, p.reference)) <+:
            (after.2.projects.map fun p => (p.id, p.reference)) ∧
          (after.2.projects.length = t'.projects.length → after.2.counters = t'.counters) ∧
          ((∃ f, after.1 = .error f) → faults .readBack = none → after.2 = t') := by
  intro t'
  have minted : Minted t' := minted_afterCalls calls (Minted.start t)
  refine ⟨minted.numbered, minted.coded, minted.nodup, fun faults u => ⟨?_, ?_, ?_⟩⟩
  · exact prefix_run ⟨t', faults⟩ u minted.ids
  · exact counters_run ⟨t', faults⟩ u
  · rintro ⟨f, failed⟩ readable
    exact tables_of_error ⟨t', faults⟩ u failed readable

end FloodScheme.Upsert
