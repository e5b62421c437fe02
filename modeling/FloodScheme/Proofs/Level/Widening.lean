import FloodScheme.Level.Catalogue
import FloodScheme.Proofs.Level.Order
import Mathlib.Data.List.Flatten

/-! Merging more declarations widens the limits of a rule and drops requirements, so a value that
passes at one level passes together with further levels. -/
namespace FloodScheme

namespace Rule

variable {m m' : Rule} {ds es : List Rule} {payload : Fields}

/-- All declarations leave a choice, or none of them names choices. -/
def ChoicesAlike (ds : List Rule) : Prop :=
  (∀ d ∈ ds, ∃ cs, d.choices = some cs ∧ cs ≠ []) ∨ ∀ d ∈ ds, d.choices = none

theorem Widens.choices_rel (h : m.Widens ds) (h' : m'.Widens es) (sub : es ⊆ ds)
    (alike : ChoicesAlike ds) :
    Option.Rel (fun cs ds => ds ⊆ cs ∧ (cs ≠ [] → ds ≠ [])) m.choices m'.choices := by
  obtain ⟨e, mem⟩ := List.exists_mem_of_ne_nil es h'.given
  rcases alike with some | none
  · have all {xs : List Rule} (sub : xs ⊆ ds) : none ∉ xs.map Rule.choices := by
      intro missing
      obtain ⟨d, hd, missing⟩ := List.mem_map.mp missing
      obtain ⟨cs, given, -⟩ := some d (sub hd)
      rw [given] at missing
      cases missing
    obtain ⟨cs, own, whole⟩ := h.choices.eq_some (all (List.Subset.refl ds))
    obtain ⟨cs', other, part⟩ := h'.choices.eq_some (all sub)
    rw [own, other]
    refine .some ⟨fun c hc => ?_, fun _ empty => ?_⟩
    · obtain ⟨listed, known, among⟩ := (part c).mp hc
      exact (whole c).mpr ⟨listed, List.map_subset _ sub known, among⟩
    · obtain ⟨listed, given, choices⟩ := some e (sub mem)
      obtain ⟨c, hc⟩ := List.exists_mem_of_ne_nil listed choices
      have among : c ∈ cs' := (part c).mpr ⟨listed, List.mem_map.mpr ⟨e, mem, given⟩, hc⟩
      rw [empty] at among
      cases among
  · rw [h.choices.eq_none (List.mem_map.mpr ⟨e, sub mem, none e (sub mem)⟩),
      h'.choices.eq_none (List.mem_map.mpr ⟨e, mem, none e (sub mem)⟩)]
    exact .none

theorem Covers.passes [Library] (h : m.Covers m') (name : m.name = m'.name)
    (active : m.isActive payload = m'.isActive payload)
    (required : m.required = true → m'.required = true)
    (forbidden : m.forbiddenOtherwise = true → m'.forbiddenOtherwise = true)
    (passes : m'.Passes payload) : m.Passes payload := by
  unfold Passes at passes ⊢
  rw [active, name]
  split
  · next on =>
    rw [if_pos on] at passes
    exact h.failure? name required passes
  · next off =>
    rw [if_neg off] at passes
    exact fun closed => passes (forbidden closed)

end Rule

namespace Registry
open Rule

variable {r : Registry} {names : List String} {field : String} {payload : Fields} {n : String}
  {l : Level} {fs : List Failure}

theorem declarations_sublist (mem : n ∈ names) :
    (r.declarations [n] field).Sublist (r.declarations names field) := by
  have one : [n].dedup.Sublist names.dedup := by simpa using mem
  exact ((one.filterMap r.find?).flatMap Level.rules).filter _

section
variable (named : n ∈ names) (found : r.find? n = some l)
  (declared : declares l.rules field = true) (uniform : r.Uniform names field)
  (unanimous : Unanimous (r.declarations names field))
  (choices : ChoicesAlike (r.declarations names field))
include named found declared uniform unanimous choices

theorem covers_of_more_levels {rules rules' : List Rule}
    (merged : r.merge (.list (names.map .text)) = .ok rules)
    (merged' : r.merge (.list ([n].map .text)) = .ok rules') :
    ∃ m ∈ rules, ∃ m' ∈ rules', m.name = field ∧ m'.name = field ∧ m.Covers m' ∧
      Option.Rel Condition.Alike m.condition m'.condition ∧
      (m.required = true → m'.required = true) ∧
      (m.forbiddenOtherwise = true → m'.forbiddenOtherwise = true) := by
  obtain ⟨d, mem, own⟩ := declares_iff.mp declared
  have given : d ∈ r.declarations [n] field :=
    mem_declarations.mpr ⟨n, List.mem_singleton_self n, l, found, mem, own⟩
  have fewer : (r.declarations [n] field).Sublist (r.declarations names field) :=
    declarations_sublist named
  have unanimous' := List.Pairwise.sublist fewer unanimous
  obtain ⟨m, inside, name, combines⟩ := merged_combines merged
    (List.ne_nil_of_mem (fewer.subset given)) uniform fun _ _ same _ => unanimous.perm same.symm
  obtain ⟨m', inside', name', combines'⟩ := merged_combines merged' (List.ne_nil_of_mem given)
    (fun a ha b hb => uniform a (fewer.subset ha) b (fewer.subset hb))
    fun _ _ same _ => Unanimous.perm same.symm unanimous'
  refine ⟨m, inside, m', inside', name, name',
    combines.toWidens.covers combines'.toWidens fewer.subset
      (combines.toWidens.choices_rel combines'.toWidens fewer.subset choices), ?_,
    fun required => ?_, fun forbidden => ?_⟩
  · obtain ⟨a, ha, condition⟩ := combines.condition_of_unanimous unanimous
    obtain ⟨b, hb, condition'⟩ := combines'.condition_of_unanimous unanimous'
    rw [condition, condition']
    exact unanimous.alike ha (fewer.subset hb)
  · obtain ⟨-, every⟩ := combines.required.mp required
    exact combines'.required.mpr ⟨unanimous', fun d mem => every d (fewer.subset mem)⟩
  · obtain ⟨-, every⟩ := combines.forbidden.mp forbidden
    exact combines'.forbidden.mpr ⟨unanimous', fun d mem => every d (fewer.subset mem)⟩

/-- If a level reports no failure of a field, then a list of levels that includes it reports none
either, when all these levels declare the field alike. -/
theorem unreported_of_more_levels [Library] (alone : r.validate (.text n) payload = .ok fs)
    (clean : ∀ f ∈ fs, f.field ≠ some field) :
    (∀ gs, r.validate (.list (names.map .text)) payload = .ok gs →
      ∀ g ∈ gs, g.field ≠ some field) ∧
    (r.Testable names payload → r.Builds names → (∀ n ∈ names, (r.find? n).isSome = true) →
      ∃ gs, r.validate (.list (names.map .text)) payload = .ok gs) := by
  refine ⟨fun gs together => ?_,
    fun h builds known => h.validate_returns builds (List.ne_nil_of_mem named) known⟩
  -- a level on its own is a list of one
  have alone : r.validate (.list ([n].map .text)) payload = .ok fs := alone
  obtain ⟨rules, merged, calm, -, -, -, rfl⟩ := validate_eq_ok.mp together
  obtain ⟨rules', merged', calm', -, -, -, rfl⟩ := validate_eq_ok.mp alone
  obtain ⟨m, inside, m', inside', name, name', covers, condition, required, forbidden⟩ :=
    covers_of_more_levels named found declared uniform unanimous choices merged merged'
  have active : m.isActive payload = m'.isActive payload := isActive_of_alike condition
    (by simpa using List.any_eq_false.mp calm m inside)
    (by simpa using List.any_eq_false.mp calm' m' inside')
  rw [← name'] at clean
  obtain ⟨passes, main⟩ := (unreported_iff (merge_names_eq_ok merged' field).1 inside').mp clean
  rw [← name]
  refine (unreported_iff (merge_names_eq_ok merged field).1 inside).mpr
    ⟨covers.passes (name.trans name'.symm) active required forbidden passes, fun own => ?_⟩
  have own' := name'.trans (name.symm.trans own)
  rw [← main own']
  exact mainTypeFailures_congr
    ((declares_iff.mpr ⟨m, inside, own⟩).trans (declares_iff.mpr ⟨m', inside', own'⟩).symm)

end

theorem unreported_of_more_levels_risks :
    ∃ gs, Catalogue.registry.validate
        (.list (["PROPERTY_AFFECTED_FLOODING", "RISK"].map .text)) [] = .ok gs ∧
      ∀ g ∈ gs, g.field ≠ some "noPropertiesAtRisk" := by
  have declared : Catalogue.registry.declarations ["PROPERTY_AFFECTED_FLOODING", "RISK"]
      "noPropertiesAtRisk" =
    [Catalogue.noPropertiesAtFloodRisk, Catalogue.noPropertiesAtFloodRisk.optional] := rfl
  have found : Catalogue.registry.find? "RISK" = some (Catalogue.saved "RISK"
    ([Catalogue.risks, Catalogue.noPropertiesAtFloodRisk.optional] ++
      Catalogue.floodPropertyCounts ++ [Catalogue.noPropertiesAtCoastalErosionRisk.optional] ++
      Catalogue.coastalPropertyCounts)) := rfl
  have alone : Catalogue.registry.validate (.text "RISK") [] =
    .ok [.invalid "REFERENCE_NUMBER_REQUIRED" "referenceNumber is required" "referenceNumber",
      .invalid "RISKS_REQUIRED" "risks is required" "risks"] := rfl
  have named : "RISK" ∈ ["PROPERTY_AFFECTED_FLOODING", "RISK"] := by decide
  refine ⟨_, rfl, (unreported_of_more_levels named found rfl ?_ ?_ ?_ alone ?_).1 _ rfl⟩
  · unfold Uniform
    rw [declared]
    simp [Catalogue.noPropertiesAtFloodRisk, Catalogue.flag, Rule.optional]
  · rw [declared]
    exact List.pairwise_pair.mpr ⟨rfl, rfl⟩
  · rw [declared]
    exact .inr (by simp [Catalogue.noPropertiesAtFloodRisk, Catalogue.flag, Rule.optional])
  · decide

end Registry
end FloodScheme
