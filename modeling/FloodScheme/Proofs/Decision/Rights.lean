import FloodScheme.Proofs.Service.Window

/-! Callers with more rights. A decision looks at the caller's rights when a scheme is made, when
one is changed, and when one moves to another area. More rights can only turn a refusal there into
a pass, so every other outcome stays as it is. -/
namespace FloodScheme

theorem refuseCreate?_eq_none {p : Principal} {id : Value} :
    refuseCreate? p id = none ↔ p.isRma = true ∧ p.belongsTo id = true := by
  unfold refuseCreate?
  cases p.isRma with
  | false => simp
  | true => simp

theorem refuseUpdate?_eq_none {p : Principal} {area : Option AreaWithParents} :
    refuseUpdate? p area = none ↔ p.isAdmin = true ∨ ∃ a ∈ area,
      p.belongsTo (.int a.area.id) = true ∨ ∃ pso ∈ a.pso, p.belongsTo (.int pso.id) = true := by
  unfold refuseUpdate?
  cases p.isAdmin with
  | true => simp
  | false => cases area with
    | none => simp
    | some a => cases own : p.belongsTo (.int a.area.id) with
      | true => simp [own]
      | false => simp [own, Option.any_eq_true]

namespace Principal

/-- The same user with at least the rights of `p`. What a membership says beside its area does not
count. -/
structure Within (p q : Principal) : Prop where
  userId : p.userId = q.userId
  areas : ∀ m ∈ p.areas, ∃ m' ∈ q.areas, m'.areaId = m.areaId
  isAdmin : p.isAdmin = true → q.isAdmin = true
  isRma : p.isRma = true → q.isRma = true

namespace Within

variable {p q : Principal}

theorem belongsTo (h : p.Within q) {id : Value} (own : p.belongsTo id = true) :
    q.belongsTo id = true := by
  simp only [Principal.belongsTo, Bool.and_eq_true, List.any_eq_true] at own ⊢
  obtain ⟨said, m, mem, same⟩ := own
  obtain ⟨m', mem', area⟩ := h.areas m mem
  exact ⟨said, m', mem', by rw [area, same]⟩

theorem mayCreate (h : p.Within q) {id : Value} (allowed : refuseCreate? p id = none) :
    refuseCreate? q id = none := by
  obtain ⟨rma, own⟩ := refuseCreate?_eq_none.mp allowed
  exact refuseCreate?_eq_none.mpr ⟨h.isRma rma, h.belongsTo own⟩

theorem mayUpdate (h : p.Within q) {area : Option AreaWithParents}
    (allowed : refuseUpdate? p area = none) : refuseUpdate? q area = none := by
  apply refuseUpdate?_eq_none.mpr
  rcases refuseUpdate?_eq_none.mp allowed with admin | ⟨a, known, own | ⟨pso, parent, above⟩⟩
  · exact .inl (h.isAdmin admin)
  · exact .inr ⟨a, known, .inl (h.belongsTo own)⟩
  · exact .inr ⟨a, known, .inr ⟨pso, parent, h.belongsTo above⟩⟩

end Within
end Principal

namespace Decision

variable {α β : Type}

/-- The second outcome is the first one, unless the first one is a refusal of rights. -/
def Outlasts (x y : Except Halt α) : Prop :=
  y = x ∨ ∃ f : Failure, f.kind = .forbidden ∧ x = .error (.failure f)

namespace Outlasts

theorem refl (x : Except Halt α) : Outlasts x x := .inl rfl

theorem bind {x y : Except Halt α} {f g : α → Except Halt β} (h : Outlasts x y)
    (then_ : ∀ a, Outlasts (f a) (g a)) : Outlasts (x >>= f) (y >>= g) := by
  rcases h with rfl | ⟨r, kind, rfl⟩
  · cases y with
    | error e => exact .refl _
    | ok a => exact then_ a
  · exact .inr ⟨r, kind, rfl⟩

theorem rejectSome {x y : Option Refusal} {g : Refusal → Failure}
    (kind : ∀ r, (g r).kind = .forbidden) (h : x = none → y = none) :
    Outlasts (rejectSome (x.map g)) (Decision.rejectSome (y.map g)) := by
  cases x with
  | none =>
    rw [h rfl]
    exact .refl _
  | some r => exact .inr ⟨g r, kind r, rfl⟩

end Outlasts

variable {reads : Reads} {payload : Fields} {p q : Principal}

theorem create_outlasts (h : p.Within q) :
    Outlasts (create reads payload p) (create reads payload q) :=
  .bind (.rejectSome (fun _ => rfl) h.mayCreate) fun _ => .refl _

theorem checkAreaChange_outlasts (h : p.Within q) (existing : ProjectRecord) :
    Outlasts (checkAreaChange reads payload p existing)
      (checkAreaChange reads payload q existing) := by
  unfold checkAreaChange
  cases admin : p.isAdmin with
  | true =>
    rw [h.isAdmin admin]
    exact .refl _
  | false =>
    dsimp only
    split
    · exact .inr ⟨areaChangeRefused, rfl, rfl⟩
    · exact .refl _

theorem update_outlasts (h : p.Within q) (level reference : Value) :
    Outlasts (update reads payload p level reference)
      (update reads payload q level reference) := by
  refine .bind (.refl _) fun found => ?_
  cases found with
  | none => exact .refl _
  | some existing =>
    refine .bind (.refl _) fun current => ?_
    refine .bind (.rejectSome (fun _ => rfl) h.mayUpdate) fun _ => ?_
    refine .bind (.refl _) fun _ => .bind (.refl _) fun _ => ?_
    exact .bind (checkAreaChange_outlasts h existing) fun _ => .refl _

theorem decideProposal_outlasts (h : p.Within q) (level : Value) :
    Outlasts (decideProposal reads payload p level) (decideProposal reads payload q level) := by
  unfold decideProposal
  dsimp only
  split
  · exact update_outlasts h level _
  · exact create_outlasts h

theorem decideProposal_of_within (h : p.Within q) {level : Value} {a : Acceptance}
    (accepted : decideProposal reads payload p level = .ok a) :
    decideProposal reads payload q level = .ok a := by
  rcases decideProposal_outlasts h level with same | ⟨f, -, refused⟩
  · rw [same, accepted]
  · rw [accepted] at refused
    cases refused

end Decision

namespace Proposal

variable {s : Proposal} {db : Database} {p q : Principal} {a : Acceptance}

theorem vet_of_within (h : p.Within q) (accepted : s.vet db p = .ok a) : s.vet db q = .ok a := by
  obtain ⟨clean, decided⟩ := vet_eq_ok accepted
  unfold vet
  rw [clean]
  simp only [Decision.decideProposal_of_within h decided]
  rfl

theorem save_of_within (h : p.Within q) (accepted : s.vet db p = .ok a) (now : String) :
    s.save db q now = s.save db p now := by
  unfold save upsert
  rw [accepted, vet_of_within h accepted, h.userId]

end Proposal

/-- If `decideProposal` accepts for a principal, it returns the same acceptance for the same user
with more rights, for all reads. `vet` and `save` then also return the same. -/
theorem more_rights_keep_acceptance {p q : Principal} (h : p.Within q) :
    (∀ (reads : Reads) (payload : Fields) (level : Value) (a : Acceptance),
        decideProposal reads payload p level = .ok a →
          decideProposal reads payload q level = .ok a) ∧
      ∀ (s : Proposal) (db : Database) (now : String) (a : Acceptance), s.vet db p = .ok a →
        s.vet db q = .ok a ∧ s.save db q now = s.save db p now :=
  ⟨fun _ _ _ _ accepted => Decision.decideProposal_of_within h accepted,
    fun _ _ now _ accepted =>
      ⟨Proposal.vet_of_within h accepted, Proposal.save_of_within h accepted now⟩⟩

theorem more_rights_keep_acceptance_dyke :
    let p : Principal := ⟨.int 1, false, false, [{ areaId := .int 1 }]⟩
    let q : Principal := ⟨.int 1, true, true, [{ areaId := .int 2 }, { areaId := .int 1 }]⟩
    let s := Service.dykeStep "FINANCIAL_END_YEAR" [("financialEndYear", .int 2027)]
    let db : Database := ⟨(Service.norfolkWith (Service.dyke [])).tables, Faults.none⟩
    p.Within q ∧ (∃ a, s.vet db p = .ok a) ∧
      ∃ a, s.vet db q = .ok a ∧ s.save db q "" = s.save db p "" := by
  intro p q s db
  have h : p.Within q := ⟨rfl, by simp [p, q], by simp [p], by simp [p]⟩
  have accepted : (s.vet db p).isOk = true := by decide
  obtain ⟨a, accepted⟩ : ∃ a, s.vet db p = .ok a := by
    cases vetted : s.vet db p with
    | error r =>
      rw [vetted] at accepted
      cases accepted
    | ok a => exact ⟨a, rfl⟩
  exact ⟨h, ⟨a, accepted⟩, a, (more_rights_keep_acceptance h).2 s db "" a accepted⟩

end FloodScheme
