import FloodScheme.Proofs.Number.Written
import FloodScheme.Proofs.Outcome
import FloodScheme.Store.Lookup

/-! Areas and their parents read off the area table at once, without operations that may fail. -/
namespace FloodScheme
open Outcome

namespace Tables

def area? (t : Tables) (id : Value) : Option Area :=
  id.key?.bind fun key => t.areas.find? (·.id == key)

/-- The parent, if it has the type. -/
def parent? (t : Tables) (a : Area) (type : String) : Option Area :=
  (a.parentId.bind fun id => t.area? (.int id)).filter (·.type == type)

/-- A PSO Area counts as its own PSO, and an RMA has that of its parent. -/
def pso? (t : Tables) (a : Area) : Option Area :=
  if a.isPso then some a else if a.isRma then t.parent? a Area.psoType else none

def withParents (t : Tables) (id : Value) : Option AreaWithParents :=
  (t.area? id).map fun a => ⟨a, t.pso? a, (t.pso? a).bind (t.parent? · Area.eaType)⟩

theorem id_of_find? {areas : List Area} {i : Int} {a : Area}
    (h : areas.find? (·.id == i) = some a) : a.id = i := by
  simpa using List.find?_some h

theorem row_of_area? {t : Tables} {id : Value} {a : Area} (h : t.area? id = some a) :
    id.key? = some a.id ∧ t.areas.find? (·.id == a.id) = some a := by
  obtain ⟨key, hkey, found⟩ := Option.bind_eq_some_iff.mp h
  rw [id_of_find? found]
  exact ⟨hkey, found⟩

theorem mem_of_area? {t : Tables} {id : Value} {a : Area} (h : t.area? id = some a) :
    a ∈ t.areas := List.mem_of_find?_eq_some (row_of_area? h).2

theorem pso?_of_isRma (t : Tables) {a : Area} (rma : a.isRma = true) :
    t.pso? a = t.parent? a Area.psoType := by
  have type : a.type = Area.rmaType := beq_iff_eq.mp rma
  have apart : a.isPso = false := by
    rw [Area.isPso, type]
    rfl
  simp [pso?, rma, apart]

theorem mem_of_pso? {t : Tables} {a pso : Area} (mem : a ∈ t.areas) (h : t.pso? a = some pso) :
    pso ∈ t.areas := by
  unfold pso? at h
  split at h
  · exact Option.some.inj h ▸ mem
  · split at h
    · obtain ⟨found, -⟩ := Option.filter_eq_some_iff.mp h
      obtain ⟨id, -, found⟩ := Option.bind_eq_some_iff.mp found
      exact mem_of_area? found
    · cases h

end Tables

namespace Hierarchy

variable {db : Database} {calm : Prop} {asked : Int → Prop}
  (quiet : calm → ∀ i, asked i → db.faults (.readArea i) = none)
include quiet

theorem area_gives {id : Value} (ask : ∀ i ∈ id.key?, asked i) :
    Gives calm (db.area id) (db.tables.area? id) := by
  unfold Database.area Tables.area?
  cases hkey : id.key? with
  | none => exact .pure _
  | some i => exact .guard (fun c => attempt_eq_ok.mpr (quiet c i (ask i hkey))) (.pure _)

theorem area_int_gives {i : Int} (ask : asked i) :
    Gives calm (db.area (.int i)) (db.tables.area? (.int i)) :=
  area_gives quiet fun _ key => Value.eq_of_key?_int key ▸ ask

section
variable (parents : ∀ a ∈ db.tables.areas, ∀ i ∈ a.parentId, asked i)
include parents

theorem parentOfType_gives {a : Area} (mem : a ∈ db.tables.areas) (type : String) :
    Gives calm (parentOfType db.area a type) (db.tables.parent? a type) := by
  unfold parentOfType Tables.parent?
  cases above : a.parentId with
  | none => exact .pure _
  | some i =>
    simp only [Option.bind_some]
    exact (area_int_gives quiet (parents a mem i above)).bind (.pure _)

theorem psoOf_gives {a : Area} (mem : a ∈ db.tables.areas) :
    Gives calm (psoOf db.area a) (db.tables.pso? a) := by
  unfold psoOf Tables.pso?
  split
  · exact .pure _
  · split
    · exact parentOfType_gives quiet parents mem _
    · exact .pure _

theorem withParents_gives {id : Value} (ask : ∀ i ∈ id.key?, asked i) :
    Gives calm (withParents db.area id) (db.tables.withParents id) := by
  unfold withParents Tables.withParents
  refine .bind (area_gives quiet ask) ?_
  cases harea : db.tables.area? id with
  | none => exact .pure _
  | some a =>
    have mem := Tables.mem_of_area? harea
    refine .bind (psoOf_gives quiet parents mem) ?_
    simp only [Option.map_some]
    cases hpso : db.tables.pso? a with
    | none => exact .pure _
    | some pso =>
      exact .bind (parentOfType_gives quiet parents (Tables.mem_of_pso? mem hpso) _) (.pure _)

end
end Hierarchy
end FloodScheme
