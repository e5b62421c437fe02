import FloodScheme.Proofs.Store.Write
import Mathlib.Data.List.Forall2

/-! Effect of a write on each table, whatever is written to the columns. -/
namespace FloodScheme

namespace Tables

/-- The counters of a code move to the next ones, in their row or in a new row at the end. -/
def Advances (counters : List CounterRow) (code : String) (counters' : List CounterRow) : Prop :=
  (∃ before c after, counters = before ++ ⟨code, c⟩ :: after ∧
      (∀ row ∈ before, row.code ≠ code) ∧ counters' = before ++ ⟨code, c.next⟩ :: after) ∨
    (∀ row ∈ counters, row.code ≠ code) ∧ counters' = counters ++ [⟨code, Counters.first⟩]

/-- One project is added, with its draft state and its owner link, and one code moves on. -/
structure Adds (t : Tables) (p : Project) (code : String) (areaId : Int) (t' : Tables) :
    Prop where
  fresh : p.id ∉ t.projects.map Project.id
  projects : t'.projects = t.projects ++ [p]
  states : t'.states = t.states ++ [⟨p.id, "draft"⟩]
  links : t'.links = t.links ++ [⟨p.id, areaId, true⟩]
  counters : Advances t.counters code t'.counters
  reference : p.reference = Reference.format code
    (((t.counters? code).map Counters.next).getD Counters.first)
  others : t'.areas = t.areas ∧ t'.users = t.users ∧ t'.memberships = t.memberships

/-- At most the row of one project changes, and its links. -/
structure Changes (t : Tables) (p p' : Project) (t' : Tables) : Prop where
  mem : p ∈ t.projects
  identity : p'.id = p.id ∧ p'.reference = p.reference ∧ p'.version = p.version ∧
    p'.slug = p.slug ∧ p'.creatorId = p.creatorId ∧ p'.createdAt = p.createdAt
  projects : List.Forall₂ (fun q q' => q' = q ∨ q.id = p.id ∧ q' = p') t.projects t'.projects
  links : t'.links.filter (·.projectId != p.id) = t.links.filter (·.projectId != p.id)
  states : t'.states = t.states
  counters : t'.counters = t.counters
  others : t'.areas = t.areas ∧ t'.users = t.users ∧ t'.memberships = t.memberships

end Tables

namespace Upsert

theorem advances_advance (counters : List CounterRow) (code : String) :
    Tables.Advances counters code (advance counters code) := by
  induction counters with
  | nil => exact .inr ⟨by simp, rfl⟩
  | cons c rest ih =>
    rw [advance]
    by_cases own : c.code = code
    · subst own
      refine .inl ⟨[], c.counters, rest, rfl, by simp, ?_⟩
      rw [if_pos (by simp)]
      rfl
    · rw [if_neg (by simpa using own)]
      rcases ih with ⟨before, d, after, split, apart, moved⟩ | ⟨apart, added⟩
      · refine .inl ⟨c :: before, d, after, by rw [split]; rfl, ?_, by rw [moved]; rfl⟩
        exact List.forall_mem_cons.mpr ⟨own, apart⟩
      · refine .inr ⟨List.forall_mem_cons.mpr ⟨own, apart⟩, ?_⟩
        rw [added]
        rfl

theorem relink_filter (links : List LinkRow) (projectId areaId : Int) :
    (relink projectId areaId links).filter (·.projectId != projectId) =
      links.filter (·.projectId != projectId) := by
  induction links with
  | nil => rfl
  | cons l rest ih =>
    rw [relink]
    split
    · next own => simp [beq_iff_eq.mp own]
    · rw [List.filter_cons, List.filter_cons, ih]

theorem movedLinks_filter (links : List LinkRow) (projectId : Int) (area : Option Area) :
    (movedLinks links projectId area).filter (·.projectId != projectId) =
      links.filter (·.projectId != projectId) := by
  unfold movedLinks
  split
  · rfl
  · split
    · exact relink_filter links projectId _
    · rw [List.filter_append]
      simp

theorem Change.forall₂ {t : Tables} {u : Upsert} {p p' : Project} {rows : List Project}
    (h : Change t u p p' rows) :
    List.Forall₂ (fun q q' => q' = q ∨ q.id = p.id ∧ q' = p') t.projects rows := by
  cases h with
  | nothing same undated => exact List.forall₂_same.mpr fun q _ => .inl rfl
  | row prepared kept fits stays row result indexes =>
    rw [List.forall₂_map_right_iff]
    refine List.forall₂_same.mpr fun q _ => ?_
    subst result
    dsimp only
    split
    · next own => exact .inr ⟨by simpa using own, rfl⟩
    · exact .inl rfl

theorem name_of_indexes {t : Tables} {p : Project} (h : checkIndexes t p = .ok ()) :
    ∃ s, p.name = .text s := by
  unfold checkIndexes Project.nameKey? at h
  cases hname : p.name with
  | text s => exact ⟨s, rfl⟩
  | null => simp [hname] at h
  | bool b => simp [hname] at h
  | int i => simp [hname] at h
  | float x => simp [hname] at h
  | decimal d => simp [hname] at h
  | list items => simp [hname] at h
  | object members => simp [hname] at h

theorem Creates.adds {t t' : Tables} {u : Upsert} {code : String} {p : Project} {a : Area}
    (h : Creates t u code p t') (area : u.area = some a) : t.Adds p code a.id t' := by
  have fresh := h.fresh
  have reference : p.reference = Reference.format code
      (((t.counters? code).map Counters.next).getD Counters.first) := by
    rw [h.reference, nextCounters]
    cases t.counters? code with
    | none => rfl
    | some c => rfl
  rw [h.tables]
  exact ⟨fresh, rfl, rfl, by simp [newLink, area], advances_advance t.counters code, reference,
    rfl, rfl, rfl⟩

theorem Updates.changes {t t' : Tables} {u : Upsert} {p p' : Project}
    (h : Updates t u p p' t') : t.Changes p p' t' := by
  have rows := h.change.forall₂
  refine ⟨h.mem, h.change.identity, rows, ?_, ?_, ?_, ?_⟩
  · rw [h.tables]
    exact movedLinks_filter t.links p.id u.area
  · rw [h.tables]
  · rw [h.tables]
  · rw [h.tables]
    exact ⟨rfl, rfl, rfl⟩

theorem Creates.named {t t' : Tables} {u : Upsert} {code : String} {p : Project}
    (h : Creates t u code p t') : ∃ s, p.name = .text s := name_of_indexes h.indexes

theorem Change.named {t : Tables} {u : Upsert} {p p' : Project} {rows : List Project}
    (h : Change t u p p' rows) (before : ∃ s, p.name = .text s) : ∃ s, p'.name = .text s := by
  cases h with
  | nothing same undated => exact before
  | row prepared kept fits stays row result indexes => exact name_of_indexes indexes

theorem Change.named_rows {t : Tables} {u : Upsert} {p p' : Project} {rows : List Project}
    (h : Change t u p p' rows) (before : ∀ q ∈ t.projects, ∃ s, q.name = .text s)
    (mem : p ∈ t.projects) : ∀ q ∈ rows, ∃ s, q.name = .text s := by
  have named := h.named (before p mem)
  cases h with
  | nothing same undated => exact before
  | row prepared kept fits stays row result indexes =>
    intro q hq
    obtain ⟨q₀, old, rfl⟩ := List.mem_map.mp hq
    split
    · exact named
    · exact before q₀ old

end Upsert
end FloodScheme
