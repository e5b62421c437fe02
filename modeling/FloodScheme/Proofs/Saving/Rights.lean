import FloodScheme.Proofs.Store.Ownership

/-! Rights of the caller of a save. The rules compare identifiers as they are sent; here they are
related to the rows that the save writes. -/
namespace FloodScheme.Proposal
open Decision Tables

variable {t t' : Tables} {q : Proposal} {p : Principal} {u : UserRow} {x x' : Project}

theorem SavesNew.area (h : q.SavesNew t p x t') : ∃ (a : Area) (code : String) (w : Upsert),
    t.Coded a code ∧ t.areas.find? (·.id == a.id) = some a ∧
    (q.payload.get "areaId").key? = some a.id ∧
    w.area = some a ∧ w.userId = p.userId ∧ q.Sends w ∧ Upsert.Creates t w code x t' := by
  obtain ⟨a, w, code, parents, rfcc, area, userId, sends, creates⟩ := h.creates
  obtain ⟨b, code', parents', found, key, coded, rfcc'⟩ :=
    coded_of_requirements fun r hr => h.allowed r (List.mem_append_right _ hr)
  obtain rfl := Option.some.inj (parents.symm.trans parents')
  obtain rfl := Option.some.inj (rfcc.symm.trans rfcc')
  exact ⟨a.area, code, w, coded, found, key, area, userId, sends, creates⟩

theorem SavesNew.adds (h : q.SavesNew t p x t') : ∃ a code, t.Adds x code a t' := by
  obtain ⟨a, code, w, -, -, -, area, -, -, creates⟩ := h.area
  exact ⟨a.id, code, creates.adds area⟩

theorem SavesNew.owned (h : q.SavesNew t p x t') (before : t.Owned) : t'.Owned := by
  obtain ⟨a, code, w, coded, found, -, area, -, -, creates⟩ := h.area
  exact creates.owned before area ⟨a, code, found, coded⟩

theorem ownerLink_new {a : Area} {w : Upsert} {code : String} (before : t.Owned)
    (creates : Upsert.Creates t w code x t') (area : w.area = some a) :
    t'.ownerLink? x.id = some ⟨x.id, a.id, true⟩ := by
  have adds := creates.adds area
  have none : (t.links.find? fun l => l.projectId == x.id && l.owner) = none := by
    refine List.find?_eq_none.mpr fun l hl both => adds.fresh ?_
    simp only [Bool.and_eq_true, beq_iff_eq] at both
    rw [← before.projectIds, ← both.1]
    exact List.mem_map_of_mem hl
  rw [ownerLink?, adds.links, List.find?_append, none]
  simp

theorem SavesNew.made (h : q.SavesNew t p x t') (before : t.Owned) (rights : t.Entitles u p) :
    t.Made u x t' := by
  obtain ⟨a, code, w, coded, found, key, area, userId, -, creates⟩ := h.area
  have adds := creates.adds area
  have rma : p.isRma = true := h.allowed _ List.mem_cons_self
  have belongs : isMember p (q.payload.get "areaId") = true :=
    h.allowed _ (List.mem_cons_of_mem _ List.mem_cons_self)
  refine ⟨adds.fresh, ?_, rights.primary rma, a, code, _, found, coded, ?_, ?_,
    creates.reference⟩
  · rw [creates.creator, userId, rights.userId, rights.key]
  · exact rights.member_key? belongs key
  · exact ownerLink_new before creates area

theorem SavesNew.others (h : q.SavesNew t p x t') :
    t'.areas = t.areas ∧ t'.users = t.users ∧ t'.memberships = t.memberships := by
  obtain ⟨a, code, adds⟩ := h.adds
  exact adds.others

theorem SavesNew.ownerLink (h : q.SavesNew t p x t') (before : t.Owned) {y : Project}
    (mem : y ∈ t.projects) : t'.ownerLink? y.id = t.ownerLink? y.id := by
  obtain ⟨a, code, adds⟩ := h.adds
  obtain ⟨l, link, -⟩ := before.ownerLink mem
  have found : (t.links.find? fun l => l.projectId == y.id && l.owner) = some l := link
  rw [ownerLink?, ownerLink?, adds.links, List.find?_append, found]
  rfl

theorem SavesNew.projects (h : q.SavesNew t p x t') : t'.projects = t.projects ++ [x] := by
  obtain ⟨a, code, adds⟩ := h.adds
  exact adds.projects

theorem SavesNew.forall_projects (h : q.SavesNew t p x t') {P : Project → Prop} (made : P x)
    (before : ∀ y ∈ t.projects, P y) : ∀ y ∈ t'.projects, P y := by
  rw [h.projects]
  exact List.forall_mem_append.mpr ⟨before, by simpa using made⟩

theorem SavesAgain.changes (h : q.SavesAgain t p x x' t') : t.Changes x x' t' := by
  obtain ⟨w, -, -, updates⟩ := h.updates
  exact updates.changes

theorem SavesAgain.projects (h : q.SavesAgain t p x x' t') (before : t.Owned) :
    t'.projects = t.projects.map fun y => if y.id = x.id then x' else y := by
  obtain ⟨w, -, -, updates⟩ := h.updates
  exact updates.change.rows before.ids updates.mem

theorem SavesAgain.forall_projects (h : q.SavesAgain t p x x' t') (owned : t.Owned)
    {P : Project → Prop} (changed : P x → P x') (before : ∀ y ∈ t.projects, P y) :
    ∀ y ∈ t'.projects, P y := by
  rw [h.projects owned]
  intro y mem
  obtain ⟨z, old, rfl⟩ := List.mem_map.mp mem
  split
  · exact changed (before x h.changes.mem)
  · exact before z old

theorem SavesAgain.moved (h : q.SavesAgain t p x x' t') :
    ∃ w, q.Sends w ∧ Upsert.Updates t w x x' t' ∧ ∀ a, w.area = some a →
      p.isAdmin = true ∧ t.areas.find? (·.id == a.id) = some a ∧ ∃ code, t.Coded a code := by
  obtain ⟨w, area, sends, updates⟩ := h.updates
  refine ⟨w, sends, updates, fun a ha => ?_⟩
  rw [area] at ha
  have allowed := h.allowed
  unfold updateRequirements at allowed
  dsimp only at allowed
  by_cases moves : movesArea q.payload (t.record x) = true
  · rw [if_pos moves] at ha allowed
    have change := fun r hr => allowed r (List.mem_append_left _ (List.mem_append_right _ hr))
    have admin := change _ List.mem_cons_self
    obtain ⟨b, code, parents, found, -, coded, -⟩ :=
      coded_of_requirements fun r hr => change r (List.mem_cons_of_mem _ hr)
    rw [parents] at ha
    obtain rfl := Option.some.inj ha
    exact ⟨admin, found, code, coded⟩
  · rw [if_neg moves] at ha
    cases ha

theorem SavesAgain.resolves (h : q.SavesAgain t p x x' t')
    (moves : movesArea q.payload (t.record x) = true) :
    ∃ a w, (q.payload.get "areaId").key? = some a.id ∧
      t.areas.find? (·.id == a.id) = some a ∧ w.area = some a ∧ Upsert.Updates t w x x' t' := by
  obtain ⟨w, area, -, updates⟩ := h.updates
  have allowed := h.allowed
  unfold updateRequirements at allowed
  dsimp only at allowed
  rw [if_pos moves] at area allowed
  obtain ⟨a, -, parents, found, key, -, -⟩ := coded_of_requirements fun r hr =>
    allowed r (List.mem_append_left _ (List.mem_append_right _ (List.mem_cons_of_mem _ hr)))
  rw [parents] at area
  exact ⟨a.area, w, key, found, area, updates⟩

theorem SavesAgain.owned (h : q.SavesAgain t p x x' t') (before : t.Owned) : t'.Owned := by
  obtain ⟨w, -, updates, moved⟩ := h.moved
  refine updates.owned before fun a ha => ?_
  obtain ⟨-, found, code, coded⟩ := moved a ha
  exact ⟨a, code, found, coded⟩

theorem SavesAgain.admin_of_link (h : q.SavesAgain t p x x' t') {id : Int}
    (differs : t'.ownerLink? id ≠ t.ownerLink? id) : p.isAdmin = true := by
  obtain ⟨w, -, updates, moved⟩ := h.moved
  cases harea : w.area with
  | some a => exact (moved a harea).1
  | none =>
    refine absurd ?_ differs
    rw [ownerLink?, ownerLink?, updates.tables, harea]
    rfl

theorem SavesAgain.mayChange (h : q.SavesAgain t p x x' t') (before : t.Owned)
    (rights : t.Entitles u p) :
    ∃ l, t.ownerLink? x.id = some l ∧ t.MayChange u l.areaId := by
  obtain ⟨w, -, updates, -⟩ := h.moved
  obtain ⟨l, link, mem⟩ := before.ownerLink updates.mem
  refine ⟨l, link, ?_⟩
  have second := h.allowed _ (List.mem_append_left _ (List.mem_append_left _
    (List.mem_cons_of_mem _ List.mem_cons_self)))
  have existing : (t.record x).areaId = some l.areaId := by
    rw [record, link]
    rfl
  simp only [existing, Option.bind_some, Bool.or_eq_true] at second
  rcases second with admin | belongs
  · exact .inl (rights.isAdmin ▸ admin)
  · obtain ⟨a, parents, belongs⟩ := (Option.any_eq_true _ _).mp belongs
    obtain ⟨area, found, rfl⟩ := Option.map_eq_some_iff.mp parents
    have row := row_of_area?_int found
    have same := id_of_find? row
    rcases Bool.or_eq_true_iff.mp belongs with own | above
    · exact .inr (.inl (same ▸ rights.member_int own))
    · obtain ⟨pso, hpso, member⟩ := (Option.any_eq_true _ _).mp above
      obtain ⟨b, code, found', rma, -⟩ := before.leads l mem
      obtain rfl := Option.some.inj (row.symm.trans found')
      rw [t.pso?_of_isRma rma] at hpso
      obtain ⟨i, parent, stored, typed⟩ := parent_of_parent? hpso
      obtain rfl := id_of_find? stored
      have isPso : pso.isPso = true := by simpa [Area.isPso] using typed
      exact .inr (.inr ⟨area, pso, row, parent, stored, isPso, rights.member_int member⟩)

end FloodScheme.Proposal
