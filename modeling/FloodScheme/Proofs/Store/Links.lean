import FloodScheme.Proofs.Store.Row
import FloodScheme.Proofs.Store.Write

/-! The links of a project once its first one leads to another area, whoever the links are of and
however many there are. -/
namespace FloodScheme

namespace Upsert

theorem find?_relink (links : List LinkRow) (projectId areaId : Int) :
    (relink projectId areaId links).find? (fun l => l.projectId == projectId) =
      (links.find? fun l => l.projectId == projectId).map fun l => { l with areaId } := by
  induction links with
  | nil => rfl
  | cons l rest ih =>
    by_cases own : l.projectId == projectId
    · rw [relink, if_pos own, List.find?_cons, List.find?_cons, own]
      rfl
    · rw [relink, if_neg own, List.find?_cons, List.find?_cons, Bool.eq_false_iff.mpr own, ih]

theorem filter_relink (links : List LinkRow) {projectId other : Int} (areaId : Int)
    (apart : other ≠ projectId) :
    (relink projectId areaId links).filter (fun l => l.projectId == other) =
      links.filter fun l => l.projectId == other := by
  induction links with
  | nil => rfl
  | cons l rest ih =>
    by_cases own : l.projectId == projectId
    · have elsewhere : ¬ (l.projectId == other) = true := fun same =>
        apart ((beq_iff_eq.mp same).symm.trans (beq_iff_eq.mp own))
      rw [relink, if_pos own, List.filter_cons, List.filter_cons, if_neg elsewhere,
        if_neg elsewhere]
    · rw [relink, if_neg own, List.filter_cons, List.filter_cons, ih]

theorem filter_movedLinks (links : List LinkRow) {projectId other : Int} (area : Option Area)
    (apart : other ≠ projectId) :
    (movedLinks links projectId area).filter (fun l => l.projectId == other) =
      links.filter fun l => l.projectId == other := by
  cases area with
  | none => rfl
  | some a =>
    unfold movedLinks
    dsimp only
    split
    · exact filter_relink links a.id apart
    · have elsewhere : ¬ (projectId == other) = true := fun same =>
        apart (beq_iff_eq.mp same).symm
      rw [List.filter_append, List.filter_cons, if_neg elsewhere, List.filter_nil,
        List.append_nil]

theorem find?_movedLinks (links : List LinkRow) (projectId : Int) (a : Area) :
    (movedLinks links projectId (some a)).find? (fun l => l.projectId == projectId) =
      some ⟨projectId, a.id,
        (links.find? fun l => l.projectId == projectId).all LinkRow.owner⟩ := by
  unfold movedLinks
  dsimp only
  cases first : links.find? fun l => l.projectId == projectId with
  | some l =>
    have own := List.find?_some first
    have any : links.any (·.projectId == projectId) = true :=
      List.any_eq_true.mpr ⟨l, List.mem_of_find?_eq_some first, own⟩
    rw [if_pos any, find?_relink, first]
    simpa using own
  | none =>
    have absent : ¬ links.any (·.projectId == projectId) = true := by
      rw [List.any_eq_true]
      rintro ⟨l, mem, own⟩
      exact List.find?_eq_none.mp first l mem own
    rw [if_neg absent, List.find?_append, first]
    simp

end Upsert

namespace Tables

theorem ownerLink?_of_link? {t : Tables} {projectId : Int} {l : LinkRow}
    (first : t.link? projectId = some l) (owner : l.owner = true) :
    t.ownerLink? projectId = some l := by
  unfold link? at first
  unfold ownerLink?
  generalize t.links = links at first ⊢
  induction links with
  | nil => cases first
  | cons m rest ih =>
    rw [List.find?_cons] at first ⊢
    cases own : m.projectId == projectId with
    | true =>
      rw [own] at first
      obtain rfl := Option.some.inj first
      rw [owner]
      rfl
    | false =>
      rw [own] at first
      exact ih first

end Tables

namespace Upsert

variable {t t' : Tables} {u : Upsert} {p p' : Project} {a : Area}

theorem Updates.link? (h : Updates t u p p' t') (area : u.area = some a) :
    t'.link? p.id = some ⟨p.id, a.id, (t.link? p.id).all LinkRow.owner⟩ := by
  have links : t'.links = movedLinks t.links p.id (some a) := by rw [h.tables, area]
  rw [Tables.link?, links]
  exact find?_movedLinks t.links p.id a

theorem Updates.ownerLink? (h : Updates t u p p' t') (area : u.area = some a)
    (owner : (t.link? p.id).all LinkRow.owner = true) :
    t'.ownerLink? p.id = some ⟨p.id, a.id, true⟩ := by
  have first := h.link? area
  rw [owner] at first
  exact Tables.ownerLink?_of_link? first rfl

end Upsert
end FloodScheme
