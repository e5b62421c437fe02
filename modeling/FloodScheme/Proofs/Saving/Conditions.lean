import FloodScheme.Proofs.Level.Stripped
import FloodScheme.Proofs.Rule.Condition
import FloodScheme.Proofs.Saving.Success
import FloodScheme.Proofs.Saving.Window

/-! Fields that depend on another one. A save writes such a field only together with a value of the
other one that meets the condition; a later save can change the other one and leaves the field
where it is. -/
namespace FloodScheme
open Number Catalogue Upsert

def Project.meets (p : Project) (c : Condition) : Bool := c.holds [(c.field, p.stored c.field)]

def Project.bare (p : Project) : Project := { p with columns := [] }

/-- A field that a level takes under a condition. -/
def Catalogue.TakenUnder (name : String) (c : Condition) : Prop :=
  ∃ l ∈ levels, ∃ r ∈ l.rules, r.name = name ∧ c ∈ r.condition

namespace Catalogue

theorem gate_fields : ∀ l ∈ levels, ∀ r ∈ l.rules, ∀ c ∈ r.condition, ∃ f ∈ Field.writable,
    Field.writable.find? (·.wire == c.field) = some f ∧ f.kind = .copied ∧
      f.column ≠ "rma_name" := by decide +kernel

theorem conditions_keys : ∀ l ∈ levels, ∀ r ∈ l.rules, ∀ c ∈ r.condition, ∀ v ∈ c.values,
    v.isKey = true := by decide

theorem conditions_same : ∀ l ∈ levels, ∀ r ∈ l.rules, ∀ c ∈ r.condition, ∀ l' ∈ levels,
    ∀ r' ∈ l'.rules, r'.name = r.name → ∃ c' ∈ r'.condition,
      c'.equal? c = some true ∧ c.equal? c' = some true := by decide +kernel

theorem conditional_names : ∀ l ∈ levels, ∀ r ∈ l.rules, r.condition.isSome = true →
    r.name ≠ "rmaName" := by decide

end Catalogue

theorem ColumnType.truth_of_store {v w : Value} (given : v ≠ .null)
    (stored : boolean.store v = .ok w) :
    ∃ d b, v.number? = some d ∧ w = .bool b ∧ d.equal (.ofInt (if b then 1 else 0)) = true := by
  obtain ⟨p, bound, prepared, put, rfl⟩ := store_eq_ok.mp stored
  replace prepared : prepareBoolean v = .ok p := prepared
  unfold prepareBoolean at prepared
  split at prepared
  · exact absurd rfl given
  · split at prepared
    · next d number =>
      split at prepared
      · next zero =>
        cases prepared
        cases put
        exact ⟨d, false, number, rfl, zero⟩
      · split at prepared
        · next one =>
          cases prepared
          cases put
          exact ⟨d, true, number, rfl, one⟩
        · cases prepared
    · cases prepared

theorem Rule.same_of_stored {r : Rule} {t : ColumnType} {v before after : Value}
    (kind : r.kind = .text ∨ r.kind = .boolean) (suits : r.kind.suits .copied t = true)
    (checked : r.check v = none)
    (leaves : (before.equal v = true ∧ after = before) ∨ t.store v = .ok after) :
    v.isKey = true ∧ after.Same v := by
  rcases kind with isText | isBoolean
  · obtain ⟨s, rfl⟩ := text_of_check isText checked
    refine ⟨rfl, ?_⟩
    rcases leaves with ⟨equal, rfl⟩ | stored
    · exact Value.equal_eq_true.mp equal
    · rw [isText] at suits
      cases t with
      | text =>
        cases stored
        exact Value.same_iff.mpr (.text s)
      | integer => cases suits
      | boolean => cases suits
      | numeric => cases suits
  · obtain ⟨b, read⟩ := boolean_of_check isBoolean checked
    have given : v ≠ .null := by
      rintro rfl
      cases read
    have equal : after.Same v := by
      rcases leaves with ⟨equal, rfl⟩ | stored
      · exact Value.equal_eq_true.mp equal
      · rw [isBoolean] at suits
        cases t with
        | boolean =>
          obtain ⟨d, b, number, rfl, equal⟩ := ColumnType.truth_of_store given stored
          exact Value.same_iff.mpr (.number rfl number (Decimal.equal_symm equal))
        | text => cases suits
        | integer => cases suits
        | numeric => cases suits
    refine ⟨?_, equal⟩
    cases Value.same_iff.mp equal with
    | null => cases read
    | text s => rfl
    | list items => cases read
    | object length members => cases read
    | number first second equal =>
      exact Value.isKey_of_number second (Decimal.isNaN_of_equal equal).2

theorem Level.Accepts.meets_of_active {l : Level} {payload : Fields} {u : Upsert}
    {x x' : Project} {r : Rule} {c : Condition} (accepts : l.Accepts payload u.payload)
    (level : l ∈ levels) (leaves : ∀ c, Leaves c (x.column c) (x'.column c) (u.data.get? c))
    (mem : r ∈ l.rules) (conditional : c ∈ r.condition) (active : r.isActive payload = true) :
    (x'.stored c.field).isKey = true ∧ x'.meets c = true := by
  obtain ⟨g, gate, named, required, always, kind⟩ := gates l level r mem c conditional
  have asked : g.isActive payload = true := by
    rw [Rule.isActive, Option.isNone_iff_eq_none.mp always]
    rfl
  obtain ⟨v, written, checked⟩ := accepts.kept_of_required gate required asked
  rw [named] at written
  have sent := accepts.sent_of_kept written
  obtain ⟨f, known, found, copied, own⟩ := gate_fields l level r mem c conditional
  have wire : f.wire = c.field := by simpa using List.find?_some found
  have suits := rules_suit l level g gate f known (wire.trans named.symm)
  rw [copied] at suits
  have column := leaves f.column
  rw [get?_data u known own, wire, written, copied] at column
  obtain ⟨single, same⟩ := Rule.same_of_stored kind suits checked column
  have stored : x'.stored c.field = x'.column f.column := by
    rw [Project.stored, found]
    rfl
  have singles := conditions_keys l level r mem c conditional
  have singleStored := (Value.isKey_of_same same).trans single
  have first : Fields.get [(c.field, x'.column f.column)] c.field = x'.column f.column := by
    simp [Fields.get, Fields.get?]
  have second : payload.get c.field = v := by
    rw [Fields.get, sent]
    rfl
  -- the condition does not tell what is stored from what was sent
  have equal : c.holds [(c.field, x'.column f.column)] = c.holds payload := by
    refine Condition.holds_congr ?_ ?_ (Condition.signals_of_isKey ?_ singles)
      (Condition.signals_of_isKey ?_ singles)
    · rw [first, second]
      exact same
    · rw [first, second]
      exact same.symm_of_isKey singleStored
    · rw [first]
      exact singleStored
    · rw [second]
      exact single
  rw [Project.meets, stored, equal]
  rw [Rule.isActive, conditional] at active
  exact ⟨singleStored, active⟩

namespace Proposal

variable {q : Proposal} {u : Upsert} {t t' : Tables} {p : Principal} {x x' : Project}
  {name : String} {c : Condition}

theorem Sends.meets_of_changed (h : q.Sends u)
    (leaves : ∀ c, Leaves c (x.column c) (x'.column c) (u.data.get? c))
    (taken : TakenUnder name c) (changed : x'.stored name ≠ x.stored name) :
    x'.meets c = true := by
  obtain ⟨l, level, r, mem, rfl, conditional⟩ := taken
  have other := conditional_names l level r mem (by rw [conditional]; rfl)
  cases written : q.kept.has r.name with
  | false => exact absurd (h.stored_eq leaves other written) changed
  | true =>
    obtain ⟨l', level', -, accepts⟩ := h.level
    rw [h.kept_eq] at written
    obtain ⟨v, found⟩ := Option.isSome_iff_exists.mp written
    obtain ⟨r', mem', named, active, -⟩ := accepts.rule_of_kept found
    obtain ⟨c', conditional', there, back⟩ :=
      conditions_same l level r mem c conditional l' level' r' mem' named
    obtain ⟨single, met⟩ := accepts.meets_of_active level' leaves mem' conditional' active
    have field := (Condition.same_iff.mp there).1
    have calm {d : Condition} (about : d.field = c'.field)
        (singles : ∀ v ∈ d.values, v.isKey = true) :
        d.signals [(c'.field, x'.stored c'.field)] = false := by
      refine Condition.signals_of_isKey ?_ singles
      rw [about, Fields.get, Fields.get?_cons, if_pos rfl]
      exact single
    rw [Project.meets] at met ⊢
    rw [← field, ← met]
    exact (Condition.holds_of_same there back
      (calm rfl (conditions_keys l' level' r' mem' c' conditional'))
      (calm field.symm (conditions_keys l level r mem c conditional))).symm

theorem SavesNew.meets_of_stored (h : q.SavesNew t p x t') (taken : TakenUnder name c)
    (some : x.stored name ≠ .null) : x.meets c = true := by
  obtain ⟨a, u, code, -, -, -, -, sends, creates⟩ := h.creates
  have bare : x.bare.stored name = .null := by
    unfold Project.stored
    cases Field.writable.find? (·.wire == name) with
    | none => rfl
    | some f => rfl
  exact sends.meets_of_changed (x := x.bare) creates.column taken (bare ▸ some)

theorem SavesAgain.meets_of_changed (h : q.SavesAgain t p x x' t') (taken : TakenUnder name c)
    (changed : x'.stored name ≠ x.stored name) : x'.meets c = true := by
  obtain ⟨u, -, sends, updates⟩ := h.updates
  exact sends.meets_of_changed updates.change.column taken changed

end Proposal
end FloodScheme
