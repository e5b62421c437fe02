import FloodScheme.Proofs.Area.Parents

/-! Resolution of areas in any table, also where a parent is missing, has another type, is the area
itself or leads round in a circle. `withParents` makes at most three lookups, and `codeOf` and
`codeOfArea` return the same code. -/
namespace FloodScheme
open Outcome

namespace Tables

/-- A lookup in the table, which does not fail. -/
def look (t : Tables) (id : Value) : Except Fault (Option Area) := .ok (t.area? id)

/-- An area points to another one, which has the type. -/
def IsParent (t : Tables) (a p : Area) (type : String) : Prop :=
  ∃ i, a.parentId = some i ∧ t.area? (.int i) = some p ∧ p.type = type

/-- The area under an identifier with the parents that count for it. -/
structure Resolves (t : Tables) (id : Value) (w : AreaWithParents) : Prop where
  area : t.area? id = some w.area
  self : w.area.type = "PSO Area" → w.pso = some w.area
  above : w.area.type = "RMA" → ∀ p, w.pso = some p ↔ t.IsParent w.area p "PSO Area"
  other : w.area.type ≠ "PSO Area" → w.area.type ≠ "RMA" → w.pso = none
  ea : ∀ e, w.ea = some e ↔ ∃ p, w.pso = some p ∧ t.IsParent p e "EA Area"
  code : ∀ c, w.rfccCode = some c ↔ c ≠ "" ∧ ∃ p, w.pso = some p ∧ p.subType = some c

variable {t : Tables} {id : Value}

theorem area?_eq_none : t.area? id = none ↔ ∀ a ∈ t.areas, id.key? ≠ some a.id := by
  unfold area?
  cases id.key? with
  | none => simp
  | some key =>
    rw [Option.bind_some, List.find?_eq_none]
    refine forall₂_congr fun a _ => ?_
    rw [beq_iff_eq, ne_eq, Option.some.injEq, eq_comm]

theorem parent?_eq_some {a p : Area} {type : String} :
    t.parent? a type = some p ↔ t.IsParent a p type := by
  unfold parent? IsParent
  rw [Option.filter_eq_some_iff, Option.bind_eq_some_iff, beq_iff_eq]
  constructor
  · rintro ⟨⟨i, pointer, row⟩, typed⟩
    exact ⟨i, pointer, row, typed⟩
  · rintro ⟨i, pointer, row, typed⟩
    exact ⟨⟨i, pointer, row⟩, typed⟩

theorem resolves_of_withParents {w : AreaWithParents} (h : t.withParents id = some w) :
    t.Resolves id w := by
  obtain ⟨a, found, rfl⟩ := Option.map_eq_some_iff.mp h
  refine ⟨found, fun own => ?_, fun rma p => ?_, fun notPso notRma => ?_, fun e => ?_, fun c => ?_⟩
  · have own : a.isPso = true := beq_iff_eq.mpr own
    exact if_pos own
  · have rma : a.isRma = true := beq_iff_eq.mpr rma
    rw [t.pso?_of_isRma rma]
    exact parent?_eq_some
  · have notPso : ¬ a.isPso = true := fun own => notPso (beq_iff_eq.mp own)
    have notRma : ¬ a.isRma = true := fun rma => notRma (beq_iff_eq.mp rma)
    exact (if_neg notPso).trans (if_neg notRma)
  · rw [Option.bind_eq_some_iff]
    exact exists_congr fun p => and_congr_right fun _ => parent?_eq_some
  · rw [AreaWithParents.rfccCode, Option.filter_eq_some_iff, Option.bind_eq_some_iff, bne_iff_ne]
    exact and_comm

end Tables

namespace Hierarchy

variable {t : Tables} {find : Value → Except Fault (Option Area)}

theorem parentOfType_look (a : Area) (type : String) :
    parentOfType t.look a type = .ok (t.parent? a type) := by
  unfold parentOfType Tables.parent?
  cases a.parentId with
  | none => rfl
  | some i =>
    simp only [Tables.look, Option.bind_some]
    rfl

theorem psoOf_look (a : Area) : psoOf t.look a = .ok (t.pso? a) := by
  unfold psoOf Tables.pso?
  split
  · rfl
  · split
    · exact parentOfType_look a Area.psoType
    · rfl

theorem withParents_look (id : Value) : withParents t.look id = .ok (t.withParents id) := by
  unfold withParents Tables.withParents
  rw [Tables.look]
  cases t.area? id with
  | none => rfl
  | some a =>
    change (psoOf t.look a >>= _) = _
    rw [psoOf_look, Option.map_some]
    cases t.pso? a with
    | none => rfl
    | some pso =>
      change (parentOfType t.look pso Area.eaType >>= _) = _
      rw [parentOfType_look]
      rfl

theorem codeOfArea_look (a : Area) :
    codeOfArea t.look a = .ok (((t.pso? a).bind Area.subType).filter (· != "")) := by
  unfold codeOfArea
  rw [psoOf_look]
  rfl

theorem codeOf_look (id : Value) :
    codeOf t.look id =
      match t.withParents id with
      | none => .error (.areaNotFound id)
      | some w => .ok w.rfccCode := by
  unfold codeOf strict Tables.withParents
  rw [Tables.look]
  cases t.area? id with
  | none => rfl
  | some a => exact codeOfArea_look a

/-- Lookups that keep a record of what was looked for, also where they fail. -/
abbrev Recorded := ExceptT Fault (StateM (List Value))

def recorded (find : Value → Except Fault (Option Area)) (id : Value) : Recorded (Option Area) := do
  modify (· ++ [id])
  ExceptT.mk (pure (find id))

/-- A recorded computation returns what the unrecorded one does, with at most so many lookups. -/
def Asks {α : Type} (n : Nat) (x : Recorded α) (y : Except Fault α) : Prop :=
  ∀ before, ∃ asked : List Value, asked.length ≤ n ∧ x.run.run before = (y, before ++ asked)

namespace Asks

variable {α β : Type} {m n : Nat} {x : Recorded α} {y : Except Fault α}

theorem pure (n : Nat) (a : α) : Asks n (Pure.pure a) (Pure.pure a) :=
  fun before => ⟨[], Nat.zero_le n, by rw [List.append_nil]; rfl⟩

theorem once (find : Value → Except Fault (Option Area)) (id : Value) :
    Asks 1 (recorded find id) (find id) :=
  fun _ => ⟨[id], Nat.le_refl 1, rfl⟩

theorem bind {f : α → Recorded β} {g : α → Except Fault β} (first : Asks m x y)
    (rest : ∀ a, Asks n (f a) (g a)) : Asks (m + n) (x >>= f) (y >>= g) := by
  intro before
  obtain ⟨asked, few, same⟩ := first before
  have unfolded : (x >>= f).run.run before =
      match x.run.run before with
      | (.ok a, after) => (f a).run.run after
      | (.error e, after) => (.error e, after) := by
    change (x.run >>= ExceptT.bindCont f).run before = _
    rw [StateT.run_bind]
    rcases x.run.run before with ⟨result, after⟩
    cases result with
    | ok a => rfl
    | error e => rfl
  rw [unfolded, same]
  cases y with
  | error e => exact ⟨asked, by omega, rfl⟩
  | ok a =>
    obtain ⟨later, fewer, same⟩ := rest a (before ++ asked)
    refine ⟨asked ++ later, by rw [List.length_append]; omega, ?_⟩
    rw [← List.append_assoc]
    exact same

end Asks

theorem parentOfType_asks (find : Value → Except Fault (Option Area)) (a : Area) (type : String) :
    Asks 1 (parentOfType (recorded find) a type) (parentOfType find a type) := by
  unfold parentOfType
  cases a.parentId with
  | none => exact .pure 1 none
  | some i => exact (Asks.once find (.int i)).bind fun _ => .pure 0 _

theorem psoOf_asks (find : Value → Except Fault (Option Area)) (a : Area) :
    Asks 1 (psoOf (recorded find) a) (psoOf find a) := by
  unfold psoOf
  split
  · exact .pure 1 _
  · split
    · exact parentOfType_asks find a Area.psoType
    · exact .pure 1 none

theorem withParents_asks (find : Value → Except Fault (Option Area)) (id : Value) :
    Asks 3 (withParents (recorded find) id) (withParents find id) := by
  refine (Asks.once find id).bind (n := 2) fun found => ?_
  cases found with
  | none => exact .pure 2 none
  | some a =>
    refine (psoOf_asks find a).bind (n := 1) fun pso => ?_
    cases pso with
    | none => exact .pure 1 _
    | some pso => exact (parentOfType_asks find pso Area.eaType).bind fun _ => .pure 0 _

/-- The results are the same, or a lookup fails and its fault is the result. -/
def SameOrStops {α : Type} (find : Value → Except Fault (Option Area)) (x y : Except Fault α) :
    Prop :=
  x = y ∨ ∃ id f, find id = .error (.store f) ∧ x = .error (.store f)

namespace SameOrStops

variable {α β : Type} {x y : Except Fault α}

theorem refl (x : Except Fault α) : SameOrStops find x x := .inl rfl

theorem bind {f g : α → Except Fault β} (first : SameOrStops find x y)
    (rest : ∀ a, SameOrStops find (f a) (g a)) : SameOrStops find (x >>= f) (y >>= g) := by
  rcases first with rfl | ⟨id, fault, failed, rfl⟩
  · cases x with
    | error e => exact .inl rfl
    | ok a => exact rest a
  · exact .inr ⟨id, fault, failed, rfl⟩

end SameOrStops

theorem area_sameOrStops (db : Database) (id : Value) :
    SameOrStops db.area (db.area id) (db.tables.look id) := by
  cases found : db.area id with
  | ok a =>
    have agreed : Gives False (db.area id) (db.tables.area? id) :=
      area_gives False.elim fun _ _ => trivial
    rcases agreed with same | ⟨-, f, failed⟩
    · exact .inl (found.symm.trans same)
    · rw [found] at failed
      cases failed
  | error f =>
    obtain ⟨g, rfl⟩ : ∃ g, f = .store g := by
      unfold Database.area at found
      split at found
      · cases found
      · rcases bind_eq_error.mp found with failed | ⟨_, -, found⟩
        · unfold Database.attempt Faults.attempt at failed
          split at failed
          · exact ⟨_, (Except.error.inj failed).symm⟩
          · cases failed
        · cases found
    exact .inr ⟨id, g, found, rfl⟩

section
variable {find' : Value → Except Fault (Option Area)}
  (lookups : ∀ id, SameOrStops find (find id) (find' id))
include lookups

theorem parentOfType_sameOrStops (a : Area) (type : String) :
    SameOrStops find (parentOfType find a type) (parentOfType find' a type) := by
  unfold parentOfType
  cases a.parentId with
  | none => exact .refl _
  | some i => exact (lookups (.int i)).bind fun _ => .refl _

theorem psoOf_sameOrStops (a : Area) : SameOrStops find (psoOf find a) (psoOf find' a) := by
  unfold psoOf
  split
  · exact .refl _
  · split
    · exact parentOfType_sameOrStops lookups a Area.psoType
    · exact .refl _

theorem withParents_sameOrStops (id : Value) :
    SameOrStops find (withParents find id) (withParents find' id) := by
  refine (lookups id).bind fun found => ?_
  cases found with
  | none => exact .refl _
  | some a =>
    refine (psoOf_sameOrStops lookups a).bind fun pso => ?_
    cases pso with
    | none => exact .refl _
    | some pso =>
      exact (parentOfType_sameOrStops lookups pso Area.eaType).bind fun _ => .refl _

theorem codeOf_sameOrStops (id : Value) : SameOrStops find (codeOf find id) (codeOf find' id) := by
  unfold codeOf strict
  refine .bind (.bind (lookups id) fun _ => .refl _) fun a => ?_
  exact (psoOf_sameOrStops lookups a).bind fun _ => .refl _

end

/-- For every table of areas, `withParents t.look id` returns `none` if and only if no area has the
number `id`, and otherwise the area together with its PSO Area and the EA Area above that. `codeOf`
and `codeOfArea` return the code of the resolved area; `codeOf` fails with `areaNotFound` exactly
when `withParents` returns `none`. `withParents` calls its lookup at most three times. Over a
database both functions return the same results, or stop with the fault of the lookup. -/
theorem areas_resolved (t : Tables) (id : Value) :
    (withParents t.look id = .ok none ↔ ∀ a ∈ t.areas, id.key? ≠ some a.id) ∧
      (codeOf t.look id = .error (.areaNotFound id) ↔ withParents t.look id = .ok none) ∧
      (withParents t.look id = .ok none ∨ ∃ w, withParents t.look id = .ok (some w) ∧
        t.Resolves id w ∧ codeOf t.look id = .ok w.rfccCode ∧
        codeOfArea t.look w.area = .ok w.rfccCode) ∧
      (∀ find, ∃ asked : List Value, asked.length ≤ 3 ∧
        (withParents (recorded find) id).run.run [] = (withParents find id, asked)) ∧
      ∀ faults, let db : Database := ⟨t, faults⟩
        SameOrStops db.area (withParents db.area id) (withParents t.look id) ∧
          SameOrStops db.area (codeOf db.area id) (codeOf t.look id) := by
  have none : t.withParents id = none ↔ t.area? id = none := Option.map_eq_none_iff
  refine ⟨?_, ?_, ?_, fun find => withParents_asks find id [], fun faults => ?_⟩
  · rw [withParents_look, Except.ok.injEq, none, Tables.area?_eq_none]
  · rw [withParents_look, codeOf_look, Except.ok.injEq]
    cases t.withParents id with
    | none => exact iff_of_true rfl rfl
    | some w => exact iff_of_false nofun nofun
  · rw [withParents_look]
    cases resolved : t.withParents id with
    | none => exact .inl rfl
    | some w =>
      refine .inr ⟨w, rfl, Tables.resolves_of_withParents resolved, ?_, ?_⟩
      · rw [codeOf_look, resolved]
      · obtain ⟨a, -, rfl⟩ := Option.map_eq_some_iff.mp resolved
        exact codeOfArea_look a
  · have lookups := area_sameOrStops ⟨t, faults⟩
    exact ⟨withParents_sameOrStops lookups id, codeOf_sameOrStops lookups id⟩

end Hierarchy
end FloodScheme
