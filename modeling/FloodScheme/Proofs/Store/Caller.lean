import FloodScheme.Proofs.Area.Parents
import FloodScheme.Proofs.Number.Readings

/-! Rights of a caller as rows of users and memberships. Identifiers that agree as texts agree as
numbers of rows. -/
namespace FloodScheme
open Number Outcome

namespace Tables

def Member (t : Tables) (userId areaId : Int) : Prop :=
  ∃ m ∈ t.memberships, m.userId = userId ∧ m.areaId = areaId

def primaryArea? (t : Tables) (userId : Int) : Option Area :=
  (t.memberships.filter (·.userId == userId)).findSome? fun m =>
    if m.primary then t.areas.find? (·.id == m.areaId) else none

def user? (t : Tables) (id : Value) : Option UserRow :=
  id.key?.bind fun key => t.users.find? (·.id == key)

def membership? (t : Tables) (m : MembershipRow) : Option Membership :=
  (t.areas.find? (·.id == m.areaId)).map fun a => ⟨.int a.id, m.primary, some a.type, some a.name⟩

/-- A caller's rights, and the user they belong to. -/
structure Entitles (t : Tables) (u : UserRow) (p : Principal) : Prop where
  userId : p.userId = .int u.id
  key : (Value.int u.id).key? = some u.id
  isAdmin : p.isAdmin = u.admin
  areas : p.areas = (t.memberships.filter (·.userId == u.id)).filterMap t.membership?
  isRma : p.isRma = (p.areas.find? (·.primary)).any (·.areaType == some Area.rmaType)

theorem mem_of_user? {t : Tables} {id : Value} {u : UserRow} (h : t.user? id = some u) :
    u ∈ t.users := by
  obtain ⟨key, -, found⟩ := Option.bind_eq_some_iff.mp h
  exact List.mem_of_find?_eq_some found

end Tables

theorem principal_eq_ok {db : Database} {id : Value} {p : Principal}
    (h : db.principal id = .ok (some p)) :
    ∃ u, db.tables.user? id = some u ∧ db.tables.Entitles u p := by
  unfold Database.principal at h
  unfold Tables.user?
  split at h
  · cases h
  · next key hkey =>
    obtain ⟨_, _, h⟩ := bind_eq_ok.mp h
    split at h
    · cases pure_eq_ok.mp h
    · next u found =>
      obtain ⟨_, _, h⟩ := bind_eq_ok.mp h
      have same : u.id = key := by simpa using List.find?_some found
      have named : (Value.int u.id).key? = some u.id := by
        rw [same, Value.key?_int_of_key? hkey]
      obtain rfl := Option.some.inj (pure_eq_ok.mp h)
      refine ⟨u, by rw [hkey]; exact found, rfl, named, rfl, ?_, rfl⟩
      rw [same]
      rfl

theorem sameArea_int {i j : Int} (h : sameArea (.int i) (.int j) = true) : i = j := by
  have texts : Text.trim (Value.int i).shown = Text.trim (Value.int j).shown := by
    simpa [sameArea, Value.isNull] using h
  rw [Value.shown_int, Value.shown_int, trim_integerText, trim_integerText] at texts
  exact integerText_injective texts

theorem sameArea_key? {i j : Int} {v : Value} (h : sameArea (.int i) v = true)
    (key : v.key? = some j) : i = j := by
  have texts : Text.trim (Value.int i).shown = Text.trim v.shown := by
    simp only [sameArea, Bool.and_eq_true, beq_iff_eq] at h
    exact h.2
  rw [Value.shown_int, trim_integerText] at texts
  rw [Value.key?, ← texts] at key
  exact eq_of_readInteger?_integerText key

namespace Tables.Entitles

variable {t : Tables} {u : UserRow} {p : Principal}

theorem member_of_mem (h : t.Entitles u p) {m : Membership} (mem : m ∈ p.areas) :
    ∃ i, m.areaId = .int i ∧ t.Member u.id i := by
  rw [h.areas] at mem
  obtain ⟨row, rows, made⟩ := List.mem_filterMap.mp mem
  obtain ⟨a, found, rfl⟩ := Option.map_eq_some_iff.mp made
  obtain ⟨stored, own⟩ := List.mem_filter.mp rows
  exact ⟨a.id, rfl, row, stored, by simpa using own, (id_of_find? found).symm⟩

theorem member_int (h : t.Entitles u p) {i : Int}
    (belongs : p.areas.any (sameArea ·.areaId (.int i)) = true) : t.Member u.id i := by
  obtain ⟨m, mem, same⟩ := List.any_eq_true.mp belongs
  obtain ⟨j, areaId, member⟩ := h.member_of_mem mem
  rw [areaId] at same
  exact sameArea_int same ▸ member

theorem member_key? (h : t.Entitles u p) {v : Value} {i : Int}
    (belongs : p.areas.any (sameArea ·.areaId v) = true) (key : v.key? = some i) :
    t.Member u.id i := by
  obtain ⟨m, mem, same⟩ := List.any_eq_true.mp belongs
  obtain ⟨j, areaId, member⟩ := h.member_of_mem mem
  rw [areaId] at same
  exact sameArea_key? same key ▸ member

theorem primary (h : t.Entitles u p) (rma : p.isRma = true) :
    ∃ a, t.primaryArea? u.id = some a ∧ a.isRma = true := by
  have first (rows : List MembershipRow) :
      ((rows.filterMap t.membership?).find? (·.primary)).any
          (·.areaType == some Area.rmaType) =
        (rows.findSome? fun m =>
          if m.primary then t.areas.find? (·.id == m.areaId) else none).any Area.isRma := by
    induction rows with
    | nil => rfl
    | cons m rows ih =>
      rw [List.filterMap_cons, List.findSome?_cons, membership?]
      cases t.areas.find? (·.id == m.areaId) with
      | none =>
        simp only [Option.map_none, ite_self]
        exact ih
      | some a =>
        cases hp : m.primary with
        | true => simp [Area.isRma]
        | false => simpa [hp] using ih
  rw [h.isRma, h.areas, first] at rma
  obtain ⟨a, found, isRma⟩ := Option.any_eq_true _ _ |>.mp rma
  exact ⟨a, found, isRma⟩

end Tables.Entitles
end FloodScheme
