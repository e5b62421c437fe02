import FloodScheme.Proofs.Saving
import FloodScheme.Proofs.Store.Caller
import FloodScheme.Proofs.Store.Effect

/-! Who owns a scheme. Every scheme has one link, to an RMA with a coordination code, and a save
keeps that: the area that the rules looked at is the one that the link leads to. -/
namespace FloodScheme

namespace Tables

/-- An RMA whose parent is a PSO Area with this coordination code. -/
def Coded (t : Tables) (a : Area) (code : String) : Prop :=
  a.isRma = true ∧ ∃ i pso, a.parentId = some i ∧ t.areas.find? (·.id == i) = some pso ∧
    pso.isPso = true ∧ pso.subType = some code ∧ code ≠ ""

/-- The number of an RMA with a coordination code. -/
def Leads (t : Tables) (areaId : Int) : Prop :=
  ∃ a code, t.areas.find? (·.id == areaId) = some a ∧ t.Coded a code

/-- Schemes have numbers of their own, and one owner link each. -/
structure Owned (t : Tables) : Prop where
  ids : (t.projects.map Project.id).Nodup
  links : (t.links.map fun l => (l.projectId, l.owner)) = t.projects.map fun p => (p.id, true)
  leads : ∀ l ∈ t.links, t.Leads l.areaId

/-- A user may change the schemes of an area: an admin, or a member of it or of the PSO Area that
is its parent. -/
def MayChange (t : Tables) (u : UserRow) (areaId : Int) : Prop :=
  u.admin = true ∨ t.Member u.id areaId ∨
    ∃ a pso, t.areas.find? (·.id == areaId) = some a ∧ a.parentId = some pso.id ∧
      t.areas.find? (·.id == pso.id) = some pso ∧ pso.isPso = true ∧ t.Member u.id pso.id

/-- A user made a scheme: one who acts for an RMA, in an area of their own, whose coordination
code starts the reference number. -/
structure Made (t : Tables) (u : UserRow) (p : Project) (t' : Tables) : Prop where
  fresh : p.id ∉ t.projects.map Project.id
  creator : p.creatorId = some u.id
  primary : ∃ a, t.primaryArea? u.id = some a ∧ a.isRma = true
  area : ∃ a code c, t.areas.find? (·.id == a.id) = some a ∧ t.Coded a code ∧
    t.Member u.id a.id ∧ t'.ownerLink? p.id = some ⟨p.id, a.id, true⟩ ∧
    p.reference = Reference.format code c

theorem Leads.of_areas {t t' : Tables} {areaId : Int} (h : t.Leads areaId)
    (same : t'.areas = t.areas) : t'.Leads areaId := by
  unfold Leads Coded at h ⊢
  rw [same]
  exact h

theorem Made.of_same {t t' : Tables} {u : UserRow} {p p' : Project} (h : t.Made u p t')
    (id : p'.id = p.id) (reference : p'.reference = p.reference)
    (creator : p'.creatorId = p.creatorId) : t.Made u p' t' := by
  refine ⟨?_, ?_, h.primary, ?_⟩
  · rw [id]
    exact h.fresh
  · rw [creator]
    exact h.creator
  · rw [id, reference]
    exact h.area

theorem row_of_area?_int {t : Tables} {i : Int} {a : Area} (h : t.area? (.int i) = some a) :
    t.areas.find? (·.id == i) = some a := by
  obtain ⟨key, found⟩ := row_of_area? h
  rw [Value.eq_of_key?_int key]
  exact found

theorem parent_of_parent? {t : Tables} {a pso : Area} {type : String}
    (h : t.parent? a type = some pso) :
    ∃ i, a.parentId = some i ∧ t.areas.find? (·.id == i) = some pso ∧ pso.type = type := by
  obtain ⟨found, typed⟩ := Option.filter_eq_some_iff.mp h
  obtain ⟨i, parent, found⟩ := Option.bind_eq_some_iff.mp found
  exact ⟨i, parent, row_of_area?_int found, by simpa using typed⟩

theorem coded_of_requirements {t : Tables} {id : Value}
    (met : ∀ r ∈ Decision.areaRequirements t id, r.holds = true) :
    ∃ a code, t.withParents id = some a ∧ t.areas.find? (·.id == a.area.id) = some a.area ∧
      id.key? = some a.area.id ∧ t.Coded a.area code ∧ a.rfccCode = some code := by
  obtain ⟨a, parents, area, rma, pso, code, -, parent, coded, some, rfcc⟩ :=
    Decision.area_of_requirements met
  obtain ⟨i, above, found, typed⟩ := parent_of_parent? parent
  obtain ⟨key, row⟩ := row_of_area? area
  exact ⟨a, code, parents, row, key,
    ⟨rma, i, pso, above, found, by simpa [Area.isPso] using typed, coded, some⟩, rfcc⟩

namespace Owned

variable {t t' : Tables}

theorem projectIds (h : t.Owned) :
    (t.links.map LinkRow.projectId) = t.projects.map Project.id := by
  have firsts := congrArg (List.map Prod.fst) h.links
  rw [List.map_map, List.map_map] at firsts
  exact firsts

theorem ownerLink (h : t.Owned) {p : Project} (mem : p ∈ t.projects) :
    ∃ l, t.ownerLink? p.id = some l ∧ l ∈ t.links := by
  have pair : (p.id, true) ∈ t.links.map fun l => (l.projectId, l.owner) := by
    rw [h.links]
    exact List.mem_map_of_mem mem
  obtain ⟨l, hl, same⟩ := List.mem_map.mp pair
  have both := Prod.mk.inj same
  have some : (t.ownerLink? p.id).isSome = true := by
    rw [ownerLink?, List.find?_isSome]
    exact ⟨l, hl, by simp [both.1, both.2]⟩
  obtain ⟨k, found⟩ := Option.isSome_iff_exists.mp some
  exact ⟨k, found, List.mem_of_find?_eq_some found⟩

end Owned
end Tables

namespace Upsert

theorem relink_rows (links : List LinkRow) (projectId areaId : Int) :
    ((relink projectId areaId links).map fun l => (l.projectId, l.owner)) =
      links.map fun l => (l.projectId, l.owner) := by
  induction links with
  | nil => rfl
  | cons l rest ih =>
    rw [relink]
    split
    · rfl
    · rw [List.map_cons, List.map_cons, ih]

theorem mem_relink {links : List LinkRow} {projectId areaId : Int} {l : LinkRow}
    (h : l ∈ relink projectId areaId links) : l ∈ links ∨ l.areaId = areaId := by
  induction links with
  | nil => cases h
  | cons m rest ih =>
    rw [relink] at h
    split at h
    · rcases List.mem_cons.mp h with rfl | old
      · exact .inr rfl
      · exact .inl (List.mem_cons_of_mem _ old)
    · rcases List.mem_cons.mp h with rfl | later
      · exact .inl List.mem_cons_self
      · rcases ih later with old | moved
        · exact .inl (List.mem_cons_of_mem _ old)
        · exact .inr moved

theorem movedLinks_eq {t : Tables} (owned : t.Owned) {p : Project} (mem : p ∈ t.projects)
    (a : Area) : movedLinks t.links p.id (some a) = relink p.id a.id t.links := by
  have linked : p.id ∈ t.links.map LinkRow.projectId := by
    rw [owned.projectIds]
    exact List.mem_map_of_mem mem
  obtain ⟨l, hl, same⟩ := List.mem_map.mp linked
  have any : t.links.any (·.projectId == p.id) = true :=
    List.any_eq_true.mpr ⟨l, hl, by simpa using same⟩
  simp only [movedLinks, any, if_true]

theorem Creates.owned {t t' : Tables} {u : Upsert} {code : String} {p : Project} {a : Area}
    (h : Creates t u code p t') (before : t.Owned) (area : u.area = some a)
    (leads : t.Leads a.id) : t'.Owned := by
  have adds := h.adds area
  have areas := adds.others.1
  refine ⟨h.ids before.ids, ?_, ?_⟩
  · rw [adds.projects, adds.links, List.map_append, List.map_append, before.links]
    rfl
  · intro l hl
    rw [adds.links, List.mem_append, List.mem_singleton] at hl
    rcases hl with old | rfl
    · exact (before.leads l old).of_areas areas
    · exact leads.of_areas areas

theorem Updates.owned {t t' : Tables} {u : Upsert} {p p' : Project} (h : Updates t u p p' t')
    (before : t.Owned) (leads : ∀ a, u.area = some a → t.Leads a.id) : t'.Owned := by
  have identity := h.change.identity
  have ids := h.change.map_rows before.ids h.mem Project.id identity.1
  have pairs := h.change.map_rows before.ids h.mem (fun q => (q.id, true)) (by rw [identity.1])
  have links : t'.links = movedLinks t.links p.id u.area := by rw [h.tables]
  have areas : t'.areas = t.areas := by rw [h.tables]
  refine ⟨ids ▸ before.ids, ?_, ?_⟩
  · rw [pairs, ← before.links, links]
    cases u.area with
    | none => rfl
    | some a => rw [movedLinks_eq before h.mem, relink_rows]
  · intro l hl
    rw [links] at hl
    cases harea : u.area with
    | none =>
      rw [harea] at hl
      exact (before.leads l hl).of_areas areas
    | some a =>
      rw [harea, movedLinks_eq before h.mem] at hl
      rcases mem_relink hl with old | moved
      · exact (before.leads l old).of_areas areas
      · rw [moved]
        exact (leads a harea).of_areas areas

end Upsert
end FloodScheme
