import FloodScheme.Proofs.Value.Equal
import FloodScheme.Rule

/-! Conditions that are equal, and payloads that are equal in the field that a condition looks at:
both ways the condition holds alike. -/
namespace FloodScheme.Condition

variable {a b c : Condition} {payload payload' : Fields}

def Same (a b : Condition) : Prop := a.equal? b = some true

theorem same_iff : a.Same b ↔
    a.field = b.field ∧ List.Forall₂ Value.Same a.values b.values ∧ a.negated = b.negated := by
  unfold Same equal?
  rw [Value.andThen_eq_true, Value.andThen_eq_true, Value.equalItems?_eq_true, Option.some.injEq,
    Option.some.injEq, beq_iff_eq, beq_iff_eq]

theorem holds_of_same (there : a.Same b) (back : b.Same a) (calm : a.signals payload = false)
    (calm' : b.signals payload = false) : a.holds payload = b.holds payload := by
  obtain ⟨field, there, negated⟩ := same_iff.mp there
  obtain ⟨-, back, -⟩ := same_iff.mp back
  unfold signals at calm calm'
  rw [← field] at calm'
  rw [holds, holds, ← field, negated, Value.isIn_of_forall₂ there back calm calm']

theorem holds_congr (there : (payload.get c.field).Same (payload'.get c.field))
    (back : (payload'.get c.field).Same (payload.get c.field)) (calm : c.signals payload = false)
    (calm' : c.signals payload' = false) : c.holds payload = c.holds payload' := by
  rw [holds, holds, Value.isIn_congr there back calm calm']

theorem signals_of_isKey (single : (payload.get c.field).isKey = true)
    (singles : ∀ v ∈ c.values, v.isKey = true) : c.signals payload = false :=
  Value.signalsIn_of_isKey single singles

theorem Same.trans (h : a.Same b) (h' : b.Same c) : a.Same c := by
  obtain ⟨field, values, negated⟩ := same_iff.mp h
  obtain ⟨field', values', negated'⟩ := same_iff.mp h'
  exact same_iff.mpr ⟨field.trans field',
    Value.forall₂_trans (fun _ _ _ _ => Value.Same.trans) values values', negated.trans negated'⟩

/-- No object among the values names a member twice. -/
def namesOnce (c : Condition) : Bool := c.values.all Value.namesOnce

theorem Same.symm (ha : a.namesOnce = true) (hb : b.namesOnce = true) (h : a.Same b) :
    b.Same a := by
  obtain ⟨field, values, negated⟩ := same_iff.mp h
  exact same_iff.mpr ⟨field.symm,
    Value.forall₂_symm (fun x hx y hy => Value.Same.symm (List.all_eq_true.mp ha x hx)
      (List.all_eq_true.mp hb y hy)) values, negated.symm⟩

/-- One condition, or two that are equal whichever comes first. A condition on NaN is not equal to
itself. -/
def Alike (a b : Condition) : Prop := a = b ∨ a.Same b ∧ b.Same a

theorem Alike.symm (h : a.Alike b) : b.Alike a := by
  rcases h with rfl | ⟨there, back⟩
  · exact .inl rfl
  · exact .inr ⟨back, there⟩

theorem Alike.holds (h : a.Alike b) (calm : a.signals payload = false)
    (calm' : b.signals payload = false) : a.holds payload = b.holds payload := by
  rcases h with rfl | ⟨there, back⟩
  · rfl
  · exact holds_of_same there back calm calm'

theorem isKey_of_forall₂ {vs ws : List Value} (h : List.Forall₂ Value.Same vs ws) :
    vs.all Value.isKey = ws.all Value.isKey := by
  induction h with
  | nil => rfl
  | cons first rest ih => rw [List.all_cons, List.all_cons, ih, Value.isKey_of_same first]

theorem Alike.isKey (h : a.Alike b) : a.isKey = b.isKey := by
  rcases h with rfl | ⟨there, -⟩
  · rfl
  · exact isKey_of_forall₂ (same_iff.mp there).2.1

end FloodScheme.Condition
