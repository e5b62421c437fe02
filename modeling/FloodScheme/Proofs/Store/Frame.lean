import FloodScheme.Proofs.Store.Links
import FloodScheme.Proofs.Store.Regular

/-! Frame of an update. Every column, row and table is written from the payload or the area, or is a
time, or stays as it was. -/
namespace FloodScheme

theorem Fields.get?_tabulated {α : Type} (rows : List α) (name : α → String)
    (value : String → Value) (c : String) :
    get? (rows.map fun r => (name r, value (name r))) c =
      if c ∈ rows.map name then some (value c) else none := by
  induction rows with
  | nil => rfl
  | cons r rest ih =>
    rw [List.map_cons, get?_cons, List.map_cons, ih]
    by_cases own : c = name r
    · simp [own]
    · simp [own]

/-- What a column has of a value that was sent: what its type makes of it, or a value that was
there and is equal to it. -/
def ColumnType.Holds (t : ColumnType) (sent held : Value) : Prop :=
  t.store sent = .ok held ∨ held.equal sent = true

namespace Project

variable {p p' : Project}

theorem get?_row_congr
    (identity : p'.id = p.id ∧ p'.reference = p.reference ∧ p'.version = p.version ∧
      p'.slug = p.slug ∧ p'.creatorId = p.creatorId ∧ p'.createdAt = p.createdAt) {c : String}
    (column : p'.column c = p.column c) (undated : c ≠ "urgency_details_updated_at")
    (untimed : c ≠ "updated_at") : p'.row.get? c = p.row.get? c := by
  obtain ⟨id, reference, version, slug, creator, created⟩ := identity
  unfold row
  simp only [Fields.get?_append, Fields.get?_tabulated, Fields.get?_cons, if_neg undated,
    if_neg untimed, id, reference, version, slug, creator, created, column]

end Project

namespace Tables

/-- What an update makes of the tables: it sends values to the columns of the scheme `x`, which
becomes `x'`, and moves it to an area, if to any. -/
structure Frame (t : Tables) (sent : Fields) (moved : Option Area) (now : String)
    (x x' : Project) (t' : Tables) : Prop where
  /-- Every key is written to the column of its field, the two that find the scheme and its area
  excepted. -/
  written : ∀ key v, sent.get? key = some v → key ≠ "referenceNumber" → key ≠ "areaId" →
    ∃ f ∈ Field.writable, f.wire = key ∧ ∃ w, (Field.toStorage sent).get? f.column = some w ∧
      (ColumnType.ofColumn f.column).Holds w (x'.column f.column)
  areaName : x'.column "rma_name" = moved.elim (x.column "rma_name") fun a => .text a.name
  link : ∀ a, moved = some a → ∃ owner, t'.link? x.id = some ⟨x.id, a.id, owner⟩
  links : t'.links = Upsert.movedLinks t.links x.id moved
  otherLinks : ∀ id, id ≠ x.id →
    t'.links.filter (·.projectId == id) = t.links.filter (·.projectId == id)
  dated : x'.detailsUpdatedAt = if sent.has "urgencyDetails" then some now else x.detailsUpdatedAt
  columns : ∀ c, (Field.toStorage sent).get? c = none →
    c ∉ ["rma_name", "urgency_details_updated_at", "updated_at"] → x'.row.get? c = x.row.get? c
  rows : t'.projects = t.projects.map fun y => if y.id = x.id then x' else y
  rest : t' = { t with projects := t'.projects, links := t'.links }

end Tables

namespace Upsert

variable {t t' : Tables} {u : Upsert} {p p' : Project}

theorem Leaves.holds {c : String} {before after v : Value} (h : Leaves c before after (some v)) :
    (ColumnType.ofColumn c).Holds v after := by
  rcases h with ⟨equal, rfl⟩ | stored
  · exact .inr equal
  · exact .inl stored

theorem Change.dated {rows : List Project} (h : Change t u p p' rows) :
    p'.detailsUpdatedAt =
      if u.payload.has "urgencyDetails" then some u.now else p.detailsUpdatedAt := by
  cases h with
  | nothing same undated => simp [undated]
  | row prepared kept fits stays row result indexes => rw [result]

theorem Updates.frame (h : Updates t u p p' t') (ids : (t.projects.map Project.id).Nodup)
    (known : ∀ key v, u.payload.get? key = some v → key ≠ "referenceNumber" → key ≠ "areaId" →
      ∃ f ∈ Field.writable, f.wire = key ∧ f.column ≠ "rma_name")
    (unsent : u.payload.get? "rmaName" = none) : t.Frame u.payload u.area u.now p p' t' := by
  have links : t'.links = movedLinks t.links p.id u.area := by rw [h.tables]
  refine ⟨fun key v sent named placed => ?_, leaves_rmaName unsent (h.change.column "rma_name"),
    fun a area => ⟨_, h.link? area⟩, links, fun id other => ?_, h.change.dated,
    fun c unwritten other => ?_, h.change.rows ids h.mem, ?_⟩
  · obtain ⟨f, mem, rfl, column⟩ := known key v sent named placed
    have data := get?_data u mem column
    have leaves := h.change.column f.column
    rw [data, sent] at leaves
    refine ⟨f, mem, rfl, _, ?_, leaves.holds⟩
    rw [Field.get?_toStorage mem, sent]
    rfl
  · rw [links]
    exact filter_movedLinks t.links u.area other
  · simp only [List.mem_cons, List.not_mem_nil, or_false, not_or] at other
    have column := h.change.column c
    rw [get?_data_of_ne u other.1, unwritten] at column
    exact Project.get?_row_congr h.change.identity column other.2.1 other.2.2
  · rw [links]
    exact h.tables

end Upsert
end FloodScheme
