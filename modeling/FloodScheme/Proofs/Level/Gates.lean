import FloodScheme.Proofs.Level.Accepted
import FloodScheme.Proofs.Level.Stripped
import FloodScheme.Proofs.Rule.Admits
import FloodScheme.Proofs.Rule.Truth

/-! Fields whose condition is that another field is true. The check of that field and the condition
agree on what is false, on truth values and on numbers; a text that the check reads as true does not
meet the condition. -/
namespace FloodScheme

/-- The condition that a field is true. -/
def Condition.isTrue (gate : String) : Condition := ⟨gate, [.bool true], false⟩

theorem Value.isIn_singleton (x v : Value) : x.isIn [v] = v.equal x := by
  unfold isIn isIn? equal
  cases v.equal? x with
  | none => rfl
  | some found => cases found <;> rfl

theorem Condition.holds_isTrue {gate : String} {payload : Fields} :
    (isTrue gate).holds payload = true ↔ (payload.get gate).Same (.bool true) := by
  have back : (Value.bool true).Same (payload.get gate) ↔
      (payload.get gate).Same (.bool true) := by
    constructor
    · exact Value.Same.symm_of_isKey rfl
    · exact fun same => same.symm_of_isKey (Value.isKey_of_same same)
  rw [← back, ← Value.equal_eq_true, ← Value.isIn_singleton]
  simp [holds, isTrue]

namespace Catalogue

theorem levels_nodup : (levels.map Level.name).Nodup := by decide

theorem find?_of_mem {l : Level} (level : l ∈ levels) : registry.find? l.name = some l := by
  have some : (registry.find? l.name).isSome = true :=
    List.find?_isSome.mpr ⟨l, level, beq_self_eq_true _⟩
  obtain ⟨l', found⟩ := Option.isSome_iff_exists.mp some
  obtain ⟨mem, named⟩ := Registry.find?_eq_some found
  rw [found, List.inj_on_of_nodup_map levels_nodup mem level named]

theorem accepts_of_validate {l : Level} {payload : Fields} (level : l ∈ levels)
    (accepted : registry.validate (.text l.name) payload = .ok []) :
    ∃ kept, registry.strip (.text l.name) payload = .ok kept ∧ l.Accepts payload kept := by
  obtain ⟨l', found, clean⟩ := validate_eq_ok accepted
  cases (find?_of_mem level).symm.trans found
  obtain ⟨kept, stripped⟩ := Registry.strip_of_validate accepted
  exact ⟨kept, stripped, clean, rules_nodup l level, rules_fields l level, strip_eq_ok found stripped⟩

theorem truth_gates : ∀ l ∈ levels, ∀ r ∈ l.rules, ∀ c ∈ r.condition,
    (Value.bool true).isIn c.values = true → r.required = true ∧
      ∃ g ∈ l.rules, g.name = c.field ∧ g.kind = .boolean ∧ g.required = true ∧
        g.condition.isNone = true := by decide

/-- Let `validate` accept a payload at a level where a field is conditional on `gate`. If the
checked value of the gate is false, `strip` drops the field. If it is true, and the value sent is
neither a text nor a decimal that only rounds to one, then the field is present, passes its check,
and `strip` keeps it. If the value sent is a text, `strip` drops the field. -/
theorem gate_agrees {l : Level} {r : Rule} {gate : String} {payload : Fields} (level : l ∈ levels)
    (mem : r ∈ l.rules) (gated : r.condition = some (.isTrue gate))
    (accepted : registry.validate (.text l.name) payload = .ok []) :
    ∃ v b kept, payload.get? gate = some v ∧ Reading.boolean v = .ok b ∧
      registry.strip (.text l.name) payload = .ok kept ∧
      (b = false → kept.get? r.name = none) ∧
      (b = true → (∀ s, v ≠ .text s) → (∀ d, v = .decimal d → d.equal (.ofInt 1) = true) →
        ∃ w, payload.get? r.name = some w ∧ r.Admits w ∧ kept.get? r.name = some w) ∧
      ((∃ s, v = .text s) → kept.get? r.name = none) := by
  obtain ⟨kept, stripped, accepts⟩ := accepts_of_validate level accepted
  obtain ⟨required, g, inside, named, kind, asked, always⟩ :=
    truth_gates l level r mem _ gated rfl
  have on : g.isActive payload = true := by
    rw [Rule.isActive, Option.isNone_iff_eq_none.mp always]
    rfl
  obtain ⟨v, written, checked⟩ := accepts.kept_of_required inside asked on
  have sent : payload.get? gate = some v := by
    have found := accepts.sent_of_kept written
    rwa [named] at found
  obtain ⟨b, read⟩ := Rule.boolean_of_check kind checked
  have active : r.isActive payload = true ↔ v.Same (.bool true) := by
    have value : payload.get gate = v := by rw [Fields.get, sent]; rfl
    rw [← value, ← Condition.holds_isTrue, Rule.isActive, gated]
    rfl
  have closed (differs : ¬ v.Same (.bool true)) : kept.get? r.name = none := by
    rw [accepts.get?_kept mem, if_neg (mt active.mp differs)]
  refine ⟨v, b, kept, sent, read, stripped, fun reads => closed fun same => ?_,
    fun reads notText exact => ?_, ?_⟩
  · rw [Reading.boolean_of_same_true same, reads] at read
    cases read
  · have same : v.Same (.bool true) := by
      rw [reads] at read
      rcases Reading.same_true_of_boolean read with same | ⟨s, rfl⟩ | ⟨d, rfl⟩
      · exact same
      · exact absurd rfl (notText s)
      · exact Value.same_iff.mpr (.number rfl rfl (exact d rfl))
    obtain ⟨w, found, fits⟩ := accepts.kept_of_required mem required (active.mpr same)
    exact ⟨w, accepts.sent_of_kept found, Rule.check_eq_none_iff.mp fits, found⟩
  · rintro ⟨s, rfl⟩
    refine closed fun same => ?_
    cases same

def woodland : Habitat :=
  ⟨"woodland", "WOODLAND", "hectaresOfWoodlandHabitatCreatedOrEnhanced",
    "HECTARES_OF_WOODLAND_HABITAT_CREATED_OR_ENHANCED"⟩

def woodlandLevel : Level := saved woodland.quantityLevel [woodland.gateRule, woodland.quantityRule]

theorem woodlandLevel_mem : woodlandLevel ∈ levels := by
  refine List.mem_append_right _ (List.mem_flatMap.mpr ⟨woodland, ?_, ?_⟩)
  · simp [habitats, woodland]
  · simp [Habitat.levels, woodlandLevel]

/-- Four hectares of woodland, if there is any. -/
def woodlandStep (gate : Value) : Fields :=
  [("referenceNumber", .text "ANC501E/000A/001A"), ("woodland", gate),
    ("hectaresOfWoodlandHabitatCreatedOrEnhanced", .int 4)]

theorem gate_agrees_woodland :
    ∃ kept w, registry.validate (.text woodlandLevel.name) (woodlandStep (.int 1)) = .ok [] ∧
      registry.strip (.text woodlandLevel.name) (woodlandStep (.int 1)) = .ok kept ∧
      Reading.boolean (.int 1) = .ok true ∧ woodland.quantityRule.Admits w ∧
      kept.get? "hectaresOfWoodlandHabitatCreatedOrEnhanced" = some w := by
  have accepted : registry.validate (.text woodlandLevel.name) (woodlandStep (.int 1)) = .ok [] :=
    rfl
  have gated : woodland.quantityRule.condition = some (.isTrue "woodland") := rfl
  obtain ⟨v, b, kept, sent, read, stripped, -, opens, -⟩ :=
    gate_agrees woodlandLevel_mem (by simp [woodlandLevel, saved]) gated accepted
  cases sent
  cases read
  obtain ⟨w, -, admitted, found⟩ := opens rfl nofun nofun
  exact ⟨kept, w, accepted, stripped, rfl, admitted, found⟩

theorem gate_disagrees :
    registry.validate (.text woodlandLevel.name) (woodlandStep (.text "yes")) = .ok [] ∧
      woodlandLevel ∈ levels ∧ woodland.quantityRule ∈ woodlandLevel.rules ∧
      woodland.quantityRule.condition = some (.isTrue "woodland") ∧
      Reading.boolean (.text "yes") = .ok true ∧
      ∃ kept, registry.strip (.text woodlandLevel.name) (woodlandStep (.text "yes")) = .ok kept ∧
        kept.get? "hectaresOfWoodlandHabitatCreatedOrEnhanced" = none :=
  ⟨rfl, woodlandLevel_mem, by simp [woodlandLevel, saved], rfl, rfl, _, rfl, rfl⟩

end Catalogue
end FloodScheme
