import FloodScheme.Proofs.Level.Report

/-! Failures of one field depend on that field and on the field of its condition; those of the main
intervention type depend on the intervention types as well. They depend on nothing else in the
payload. -/
namespace FloodScheme

/-- The failures of one field. -/
def about (field : String) (fs : List Failure) : List Failure := fs.filter (·.field == some field)

/-- Two payloads that may differ in one field, and in no other. -/
def SameBut (field : String) (payload payload' : Fields) : Prop :=
  ∀ name, name ≠ field → payload.get? name = payload'.get? name

variable {rules : List Rule} {payload payload' : Fields} {f g : String}

theorem about_append (fs gs : List Failure) : about g (fs ++ gs) = about g fs ++ about g gs :=
  List.filter_append ..

theorem about_filterMap {α : Type} {n : α → String} {fails : α → Option Failure}
    (named : ∀ a f, fails a = some f → f.field = some (n a)) (xs : List α) :
    about g (xs.filterMap fails) = (xs.filter (n · == g)).filterMap fails := by
  unfold about
  rw [List.filter_filterMap, List.filterMap_filter]
  refine List.filterMap_congr fun a _ => ?_
  cases failed : fails a with
  | none => simp
  | some f => simp [Option.filter, named a f failed]

theorem about_forbiddenFailures : about g (forbiddenFailures rules payload) =
    forbiddenFailures (rules.filter (·.name == g)) payload := by
  refine about_filterMap (fun m f failed => ?_) rules
  split at failed
  · cases failed
    rfl
  · cases failed

theorem about_activeFailures [Library] : about g (activeFailures rules payload) =
    activeFailures (rules.filter (·.name == g)) payload := by
  unfold activeFailures
  rw [about_filterMap (fun m f => field_of_failure?), List.filter_comm]

theorem about_undeclaredFailures : about g (undeclaredFailures rules payload) =
    (payload.names.filter (· == g)).filterMap fun name =>
      if declares rules name then none else some (Failure.undeclared name) := by
  refine about_filterMap (n := id) (fun name f failed => ?_) payload.names
  split at failed
  · cases failed
  · cases failed
    rfl

theorem Fields.filter_names {fields : Fields} (apart : fields.names.Nodup) (name : String) :
    fields.names.filter (· == name) = if (fields.get? name).isSome then [name] else [] := by
  rw [List.filter_beq, apart.count]
  cases found : fields.get? name with
  | some v =>
    have there : name ∈ fields.names := List.mem_map_of_mem (f := Prod.fst) (mem_of_get? found)
    rw [if_pos there]
    rfl
  | none =>
    have missing : name ∉ fields.names := by
      intro mem
      obtain ⟨⟨n, v⟩, inside, rfl⟩ := List.mem_map.mp mem
      rw [get?_of_mem apart inside] at found
      cases found
    rw [if_neg missing]
    rfl

theorem any_field_eq (fs : List Failure) :
    fs.any (·.field == some g) = !(about g fs).isEmpty := by
  rw [Bool.eq_iff_iff, Bool.not_eq_true', List.isEmpty_eq_false_iff_exists_mem, List.any_eq_true]
  refine exists_congr fun h => ?_
  rw [about, List.mem_filter]

section
variable [Library] (apart : payload.names.Nodup) (apart' : payload'.names.Nodup)
  (same : SameBut f payload payload') (other : g ≠ f)
  (gate : ∀ m ∈ rules, m.name = g → ∀ c ∈ m.condition, c.field ≠ f)
include apart apart' same other gate

theorem about_fields : about g (forbiddenFailures rules payload ++
      undeclaredFailures rules payload ++ activeFailures rules payload) =
    about g (forbiddenFailures rules payload' ++ undeclaredFailures rules payload' ++
      activeFailures rules payload') := by
  have named {m : Rule} (mem : m ∈ rules.filter (·.name == g)) : m ∈ rules ∧ m.name = g := by
    simpa using mem
  have gates : ∀ m ∈ rules.filter (·.name == g), m.SameGate payload payload' :=
    fun m mem c own => same c.field (gate m (named mem).1 (named mem).2 c own)
  have own : ∀ m ∈ rules.filter (·.name == g), payload.get? m.name = payload'.get? m.name :=
    fun m mem => by rw [(named mem).2, same g other]
  simp only [about_append, about_forbiddenFailures, about_undeclaredFailures,
    about_activeFailures]
  rw [forbiddenFailures_congr gates own, activeFailures_congr gates own,
    Fields.filter_names apart, Fields.filter_names apart', same g other]

theorem about_levelFailures
    (main : ¬ (g = "mainInterventionType" ∧ f = "projectInterventionTypes")) :
    about g (levelFailures rules payload) = about g (levelFailures rules payload') := by
  have fields := about_fields apart apart' same other gate
  unfold levelFailures
  dsimp only
  generalize forbiddenFailures rules payload ++ undeclaredFailures rules payload ++
    activeFailures rules payload = reported at fields ⊢
  generalize forbiddenFailures rules payload' ++ undeclaredFailures rules payload' ++
    activeFailures rules payload' = reported' at fields ⊢
  rw [about_append, about_append, fields]
  congr 1
  by_cases own : g = "mainInterventionType"
  · subst own
    have types : "projectInterventionTypes" ≠ f := fun h => main ⟨rfl, h.symm⟩
    rw [mainTypeFailures_reads (same _ other) (same _ types)]
    congr 1
    refine List.filter_congr fun h mem => ?_
    rw [field_of_mainTypeFailures mem, any_field_eq, any_field_eq, fields]
  · have silent (rules : List Rule) (payload : Fields) (p : Failure → Bool) :
        about g ((mainTypeFailures rules payload).filter p) = [] := by
      refine List.filter_eq_nil_iff.mpr fun h mem named => own ?_
      have field := field_of_mainTypeFailures (List.mem_filter.mp mem).1
      rw [field] at named
      exact (by simpa using named : "mainInterventionType" = g).symm
    rw [silent, silent]

end

namespace Registry

/-- If two payloads differ only in the field `f`, `validate` reports the same failures of another
field `g` for both, unless the merged rule of `g` has a condition on `f`, or `g` is the main
intervention type and `f` the intervention types. `validate` returns for both payloads if the bounds
are numbers, the condition values can be looked up in tables and the library builds models of the
merged rules. -/
theorem validate_local [Library] (r : Registry) (names : List String) (payload payload' : Fields)
    (f g : String) (apart : payload.names.Nodup) (apart' : payload'.names.Nodup)
    (same : ∀ name, name ≠ f → payload.get? name = payload'.get? name) (other : g ≠ f)
    (main : ¬ (g = "mainInterventionType" ∧ f = "projectInterventionTypes")) :
    (∀ rules, r.merge (.list (names.map .text)) = .ok rules →
      (∀ m ∈ rules, m.name = g → ∀ c ∈ m.condition, c.field ≠ f) →
      ∀ fs fs', r.validate (.list (names.map .text)) payload = .ok fs →
        r.validate (.list (names.map .text)) payload' = .ok fs' →
        fs.filter (·.field == some g) = fs'.filter (·.field == some g)) ∧
    (r.Plain → r.Builds names → (∀ m ∈ payload, m.2.isQuiet = true) →
      (∀ m ∈ payload', m.2.isQuiet = true) → names ≠ [] → (∀ n ∈ names, (r.find? n).isSome = true) →
      (∃ fs, r.validate (.list (names.map .text)) payload = .ok fs) ∧
        ∃ fs', r.validate (.list (names.map .text)) payload' = .ok fs') := by
  refine ⟨fun rules merged gate fs fs' validated validated' => ?_,
    fun plain builds quiet quiet' given known =>
      ⟨(plain.testable quiet).validate_returns builds given known,
        (plain.testable quiet').validate_returns builds given known⟩⟩
  obtain ⟨_, first, -, -, -, -, rfl⟩ := validate_eq_ok.mp validated
  obtain ⟨_, second, -, -, -, -, rfl⟩ := validate_eq_ok.mp validated'
  cases merged.symm.trans first
  cases merged.symm.trans second
  exact about_levelFailures apart apart' same other gate main

theorem validate_local_coloured :
    let without : Fields := colouredScheme.filter (·.1 != "projectInterventionTypes")
    ∃ fs fs', Catalogue.registry.validate (.list (["PROJECT_TYPE"].map .text)) colouredScheme =
        .ok fs ∧
      Catalogue.registry.validate (.list (["PROJECT_TYPE"].map .text)) without = .ok fs' ∧
      fs ≠ fs' ∧ fs.filter (·.field == some "referenceNumber") =
        fs'.filter (·.field == some "referenceNumber") ∧
      (fs.filter (·.field == some "referenceNumber")).map Failure.code =
        ["REFERENCE_NUMBER_INVALID"] := by
  intro without
  have same : ∀ name, name ≠ "projectInterventionTypes" →
      colouredScheme.get? name = without.get? name := by
    intro name other
    have dropped := Fields.get?_filter (· != "projectInterventionTypes") colouredScheme name
    rw [if_pos (by simpa using other)] at dropped
    exact dropped.symm
  obtain ⟨reports, returns⟩ := validate_local Catalogue.registry ["PROJECT_TYPE"] colouredScheme
    without "projectInterventionTypes" "referenceNumber" (by decide) (by decide) same (by decide)
    (by decide)
  obtain ⟨⟨fs, validated⟩, fs', validated'⟩ :=
    returns catalogue_plain (catalogue_builds _) (by decide) (by decide) (by decide) (by decide)
  obtain ⟨rules, merged, -⟩ := validate_eq_ok.mp validated
  refine ⟨fs, fs', validated, validated', ?_, reports rules merged ?_ fs fs' validated validated', ?_⟩
  · cases validated
    cases validated'
    decide
  · cases merged
    decide
  · cases validated
    decide

theorem validate_unlocal :
    (∃ rules, listGated.merge (.list (["A"].map .text)) = .ok rules ∧
      ∀ m ∈ rules, m.name = "h" → ∀ c ∈ m.condition, c.field ≠ "g") ∧
    listGated.validate (.list (["A"].map .text)) [("g", .list [.text "y"])] =
      .ok [.invalid "H_REQUIRED" "h is required" "h"] ∧
    listGated.validate (.list (["A"].map .text)) [("g", .list [.text "x"])] =
      .error .wrongShape :=
  ⟨⟨_, rfl, by decide⟩, rfl, rfl⟩

end Registry
end FloodScheme
