import FloodScheme.Proofs.Field.Shown
import FloodScheme.Proofs.Store.Ownership
import FloodScheme.Proofs.Store.Row
import FloodScheme.Proofs.Store.Sound

/-! Consistency of all tables about a scheme: it has version 1 of its reference number, the state
draft and one link, to an area whose name it has. `project` and `projectRow` both return the area of
that link, and writes keep the tables consistent. -/
namespace FloodScheme
open Outcome

theorem filter_key {α : Type} {rows : List α} {key : α → Int} (apart : (rows.map key).Nodup)
    {x : α} (mem : x ∈ rows) : (rows.filter fun y => key y == key x) = [x] := by
  induction rows with
  | nil => cases mem
  | cons y rest ih =>
    obtain ⟨new, apart⟩ := List.nodup_cons.mp apart
    rw [List.filter_cons]
    rcases List.mem_cons.mp mem with rfl | later
    · have others : (rest.filter fun y => key y == key x) = [] := by
        refine List.filter_eq_nil_iff.mpr fun y inside same => new ?_
        exact beq_iff_eq.mp same ▸ List.mem_map_of_mem inside
      rw [if_pos (beq_self_eq_true _), others]
    · have other : ¬ (key y == key x) = true := fun same =>
        new (beq_iff_eq.mp same ▸ List.mem_map_of_mem later)
      rw [if_neg other, ih apart later]

namespace Project

/-- What stays of a scheme once it is made. -/
def identity (p : Project) : Int × String × String × Int × Option Int :=
  (p.id, p.reference, p.slug, p.version, p.creatorId)

end Project

namespace Tables

variable {t t' : Tables} {p : Project} {a : Area}

/-- A scheme and its area, as all tables have them. -/
structure Keeps (t : Tables) (p : Project) (a : Area) : Prop where
  version : p.version = 1
  slug : p.slug = Reference.slug p.reference
  state : t.states.filter (·.projectId == p.id) = [⟨p.id, "draft"⟩]
  area : t.areas.find? (·.id == a.id) = some a
  link : t.links.filter (·.projectId == p.id) = [⟨p.id, a.id, true⟩]
  name : p.column "rma_name" = .text a.name

/-- The tables as saves leave them. -/
structure Regular (t : Tables) : Prop where
  owned : t.Owned
  sound : t.Sound
  slugs : ∀ p ∈ t.projects, p.slug = Reference.slug p.reference
  states : t.states = t.projects.map fun p => ⟨p.id, "draft"⟩
  named : ∀ p ∈ t.projects, ∀ l ∈ t.links, l.projectId = p.id →
    ∃ a, t.areas.find? (·.id == l.areaId) = some a ∧ p.column "rma_name" = .text a.name

/-- What later tables keep of earlier ones: the areas, and every scheme in its place. -/
structure Extends (t t' : Tables) : Prop where
  areas : t'.areas = t.areas
  projects : t.projects.map Project.identity <+: t'.projects.map Project.identity

theorem Extends.refl (t : Tables) : t.Extends t := ⟨rfl, List.prefix_rfl⟩

theorem Extends.trans {t'' : Tables} (h : t.Extends t') (h' : t'.Extends t'') : t.Extends t'' :=
  ⟨h'.areas.trans h.areas, h.projects.trans h'.projects⟩

namespace Keeps

theorem links (h : t.Keeps p a) : t.link? p.id = some ⟨p.id, a.id, true⟩ ∧
    t.ownerLink? p.id = some ⟨p.id, a.id, true⟩ := by
  constructor
  · rw [link?, ← List.head?_filter, h.link]
    rfl
  · have owner : (t.links.filter fun l => l.projectId == p.id && l.owner) =
        [⟨p.id, a.id, true⟩] := by
      have both := congrArg (List.filter LinkRow.owner) h.link
      rw [List.filter_filter] at both
      simp only [Bool.and_comm]
      exact both
    rw [ownerLink?, ← List.head?_filter, owner]
    rfl

end Keeps

namespace Regular

theorem keeps (h : t.Regular) (mem : p ∈ t.projects) : ∃ a, t.Keeps p a := by
  have pair : (p.id, true) ∈ t.links.map fun l => (l.projectId, l.owner) := by
    rw [h.owned.links]
    exact List.mem_map_of_mem mem
  obtain ⟨l, there, same⟩ := List.mem_map.mp pair
  obtain ⟨id, owner⟩ := Prod.mk.inj same
  obtain ⟨a, found, name⟩ := h.named p mem l there id
  have area := id_of_find? found
  have row : l = ⟨p.id, a.id, true⟩ := by
    rw [← id, ← owner, area]
  refine ⟨a, h.sound.first p mem, h.slugs p mem, ?_, area ▸ found, ?_, name⟩
  · have ids : (t.states.map StateRow.projectId).Nodup := by
      rw [h.states, List.map_map]
      exact h.owned.ids
    have state : (⟨p.id, "draft"⟩ : StateRow) ∈ t.states := by
      rw [h.states]
      exact List.mem_map_of_mem mem
    exact filter_key ids state
  · have ids : (t.links.map LinkRow.projectId).Nodup := by
      rw [h.owned.projectIds]
      exact h.owned.ids
    rw [row] at there
    exact filter_key ids there

theorem project? (h : t.Regular) (mem : p ∈ t.projects) : t.project? p.reference = some p := by
  have some : (t.project? p.reference).isSome = true := by
    rw [Tables.project?, List.find?_isSome]
    exact ⟨p, mem, by simp [h.sound.first p mem]⟩
  obtain ⟨q, found⟩ := Option.isSome_iff_exists.mp some
  obtain ⟨reference, version⟩ := Upsert.own_of_project? found
  have there := Upsert.mem_of_project? found
  obtain ⟨key, -, others⟩ := Upsert.checkIndexes_eq_ok.mp (h.sound.indexed p mem)
  by_cases same : q.id = p.id
  · rw [found, Upsert.eq_of_id_eq h.owned.ids mem there same]
  · exact absurd (version.trans (h.sound.first p mem).symm) ((others q there same).2 reference)

end Regular
end Tables

namespace Tables

variable {t : Tables}

theorem Regular.reads (h : t.Regular) {db db' : Database} (tables : db.tables = t)
    (tables' : db'.tables = t) {reference : Value} {record : ProjectRecord} {row : Fields}
    (read : db.project reference = .ok (some record))
    (shown : db'.projectRow reference = .ok (some row)) :
    ∃ p ∈ t.projects, ∃ a, t.Keeps p a ∧ record.id = p.id ∧ record.areaId = some a.id ∧
      Field.sideRow row Field.linkTable =
        .object [("area_id", .int a.id), ("owner", .bool true)] ∧
      ∀ wire, Field.toWire row = .ok wire → wire.get? "areaId" = some (.int a.id) := by
  obtain ⟨p, found, id, area⟩ := Database.project_eq_ok read
  obtain ⟨p', found'⟩ := Database.found_of_projectRow shown
  obtain ⟨key, searched, row⟩ := Upsert.findProject_eq_ok found
  obtain ⟨key', searched', row'⟩ := Upsert.findProject_eq_ok found'
  obtain rfl := Option.some.inj (Except.ok.inj (searched.symm.trans searched'))
  rw [tables] at row area
  rw [tables', row] at row'
  obtain rfl := Option.some.inj row'
  have mem := Upsert.mem_of_project? row
  obtain ⟨a, keeps⟩ := h.keeps mem
  obtain ⟨link, owner⟩ := keeps.links
  have side := Field.sideRow_link found' shown
  rw [tables', link] at side
  refine ⟨p, mem, a, keeps, id, ?_, side, fun wire sent => Field.get?_areaId side sent⟩
  rw [area, owner]
  rfl

theorem Regular.readable (h : t.Regular) {p : Project} (mem : p ∈ t.projects) :
    ∃ record row,
      Database.project { tables := t } (.text p.reference) = .ok (some record) ∧
      Database.projectRow { tables := t } (.text p.reference) = .ok (some row) :=
  Database.readable_of_stored (h.project? mem)

end Tables

namespace Upsert

variable {t t' : Tables} {u : Upsert} {p p' : Project}

theorem data_rmaName (unsent : u.payload.get? "rmaName" = none) :
    u.data.get? "rma_name" = u.area.map fun a => .text a.name := by
  have field : (⟨"rmaName", "rma_name", .copied⟩ : Field) ∈ Field.writable := by decide
  have column := Field.get?_toStorage field u.payload
  rw [unsent, Option.map_none] at column
  unfold data
  cases u.area with
  | none => exact column
  | some a => exact (Fields.get?_set _ _ _ _).trans (if_pos rfl)

theorem leaves_rmaName (unsent : u.payload.get? "rmaName" = none) {before after : Value}
    (h : Leaves "rma_name" before after (u.data.get? "rma_name")) :
    after = u.area.elim before fun a => .text a.name := by
  rw [data_rmaName unsent] at h
  cases harea : u.area with
  | none =>
    rw [harea] at h
    exact h
  | some a =>
    rw [harea] at h
    exact h.text (by decide)

theorem relink_eq_map {links : List LinkRow} (apart : (links.map LinkRow.projectId).Nodup)
    (projectId areaId : Int) : relink projectId areaId links =
      links.map fun l => if l.projectId = projectId then { l with areaId } else l := by
  induction links with
  | nil => rfl
  | cons l rest ih =>
    obtain ⟨new, apart⟩ := List.nodup_cons.mp apart
    rw [relink, List.map_cons]
    by_cases own : l.projectId = projectId
    · have others : ∀ m ∈ rest, (if m.projectId = projectId then { m with areaId } else m) = m := by
        refine fun m mem => if_neg fun same => new ?_
        rw [own, ← same]
        exact List.mem_map_of_mem mem
      rw [if_pos (beq_iff_eq.mpr own), if_pos own, List.map_congr_left others, List.map_id']
    · rw [if_neg (by simpa using own), if_neg own, ih apart]

theorem Creates.regular {code : String} {a : Area} (h : Creates t u code p t')
    (before : t.Regular) (area : u.area = some a)
    (found : t.areas.find? (·.id == a.id) = some a) (coded : ∃ code, t.Coded a code)
    (unsent : u.payload.get? "rmaName" = none) : t'.Regular := by
  have adds := h.adds area
  have name := leaves_rmaName unsent (h.column "rma_name")
  rw [area] at name
  obtain ⟨c, coded⟩ := coded
  refine ⟨h.owned before.owned area ⟨a, c, found, coded⟩, h.sound before.sound, ?_, ?_, ?_⟩
  · rw [adds.projects]
    exact List.forall_mem_append.mpr ⟨before.slugs, by simpa using h.slug⟩
  · rw [adds.states, adds.projects, before.states, List.map_append]
    rfl
  · intro q mem l link own
    rw [adds.projects, List.mem_append, List.mem_singleton] at mem
    rw [adds.links, List.mem_append, List.mem_singleton] at link
    rw [adds.others.1]
    -- rows of old schemes and of the new one do not meet
    rcases mem with old | rfl
    · rcases link with there | rfl
      · exact before.named q old l there own
      · refine absurd ?_ adds.fresh
        rw [show p.id = q.id from own]
        exact List.mem_map_of_mem old
    · rcases link with there | rfl
      · refine absurd ?_ adds.fresh
        rw [← own, ← before.owned.projectIds]
        exact List.mem_map_of_mem there
      · exact ⟨a, found, name⟩

theorem Updates.mem_links (h : Updates t u p p' t') (before : t.Owned) {l : LinkRow}
    (mem : l ∈ t'.links) : l ∈ t.links ∧ (l.projectId = p.id → u.area = none) ∨
      ∃ a, u.area = some a ∧ l.projectId = p.id ∧ l.areaId = a.id := by
  have links : t'.links = movedLinks t.links p.id u.area := by rw [h.tables]
  rw [links] at mem
  cases area : u.area with
  | none =>
    rw [area] at mem
    exact .inl ⟨mem, fun _ => rfl⟩
  | some a =>
    have apart : (t.links.map LinkRow.projectId).Nodup := before.projectIds ▸ before.ids
    rw [area, movedLinks_eq before h.mem, relink_eq_map apart] at mem
    obtain ⟨m, there, rfl⟩ := List.mem_map.mp mem
    split
    · next own => exact .inr ⟨a, rfl, own, rfl⟩
    · next other => exact .inl ⟨there, fun own => absurd own other⟩

theorem Updates.regular (h : Updates t u p p' t') (before : t.Regular)
    (areas : ∀ a, u.area = some a →
      t.areas.find? (·.id == a.id) = some a ∧ ∃ code, t.Coded a code)
    (unsent : u.payload.get? "rmaName" = none) : t'.Regular := by
  have identity := h.change.identity
  have rows := h.change.rows before.owned.ids h.mem
  have ids := h.change.map_rows before.owned.ids h.mem Project.id identity.1
  have name := leaves_rmaName unsent (h.change.column "rma_name")
  have states : t'.states = t.states := by rw [h.tables]
  have same : t'.areas = t.areas := by rw [h.tables]
  refine ⟨h.owned before.owned fun a area => ?_, h.sound before.sound, ?_, ?_, ?_⟩
  · obtain ⟨found, code, coded⟩ := areas a area
    exact ⟨a, code, found, coded⟩
  · rw [rows]
    intro q mem
    obtain ⟨y, old, rfl⟩ := List.mem_map.mp mem
    split
    · rw [identity.2.2.2.1, identity.2.1]
      exact before.slugs p h.mem
    · exact before.slugs y old
  · have moved := congrArg (List.map fun i => (⟨i, "draft"⟩ : StateRow)) ids
    rw [List.map_map, List.map_map] at moved
    rw [states, before.states]
    exact moved.symm
  · intro q mem l link own
    rw [rows] at mem
    obtain ⟨y, old, rfl⟩ := List.mem_map.mp mem
    rw [same]
    by_cases changed : y.id = p.id
    · rw [if_pos changed] at own ⊢
      have first := own.trans identity.1
      rcases h.mem_links before.owned link with ⟨there, still⟩ | ⟨a, area, -, led⟩
      · rw [still first] at name
        rw [name]
        exact before.named p h.mem l there first
      · rw [area] at name
        rw [led]
        exact ⟨a, (areas a area).1, name⟩
    · rw [if_neg changed] at own ⊢
      rcases h.mem_links before.owned link with ⟨there, -⟩ | ⟨a, -, first, -⟩
      · exact before.named y old l there own
      · exact absurd (own.symm.trans first) changed

theorem Creates.extends {code : String} (h : Creates t u code p t') : t.Extends t' := by
  rw [h.tables]
  refine ⟨rfl, ?_⟩
  rw [List.map_append]
  exact List.prefix_append _ _

theorem Updates.extends (h : Updates t u p p' t') (ids : (t.projects.map Project.id).Nodup) :
    t.Extends t' := by
  obtain ⟨id, reference, version, slug, creator, -⟩ := h.change.identity
  have same : p'.identity = p.identity := by
    rw [Project.identity, Project.identity, id, reference, version, slug, creator]
  have areas : t'.areas = t.areas := by rw [h.tables]
  exact ⟨areas, h.change.map_rows ids h.mem Project.identity same ▸ List.prefix_rfl⟩

end Upsert
end FloodScheme
