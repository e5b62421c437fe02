import FloodScheme.Proofs.Store.Minting
import FloodScheme.Proofs.Store.Success

/-! Tables as the constraints of the database and the writes of the service leave them. A write
keeps them so. -/
namespace FloodScheme
open Number

namespace ColumnType

theorem isKey_of_bind {v w : Value} (h : bind v = .ok w) : w.isKey = true := by
  cases v with
  | null =>
    cases h
    rfl
  | bool b =>
    cases h
    rfl
  | int i =>
    simp only [bind] at h
    split at h
    · cases h
      rfl
    · cases h
  | float x =>
    cases x with
    | nan =>
      cases h
      rfl
    | infinity negative =>
      cases h
      rfl
    | finite negative m e =>
      cases h
      rfl
  | text s =>
    cases h
    rfl
  | decimal d => cases h
  | list items => cases h
  | object members => cases h

theorem isKey_keepNumber (x : Double) : (keepNumber x).isKey = true := by
  unfold keepNumber
  split
  · split
    · rfl
    · rfl
  · rfl

theorem isKey_keep (t : ColumnType) {v : Value} (single : v.isKey = true) :
    (t.keep v).isKey = true := by
  cases t with
  | text =>
    change (keepText v).isKey = true
    unfold keepText
    split
    · rfl
    · rfl
    · exact single
  | integer =>
    change (keepInteger v).isKey = true
    unfold keepInteger
    split
    · exact isKey_keepNumber _
    · split
      · dsimp only
        split
        · rfl
        · exact isKey_keepNumber _
      · rfl
    · exact single
  | boolean =>
    change (keepBoolean v).isKey = true
    unfold keepBoolean
    split
    · rfl
    · exact single
  | numeric =>
    change (keepNumeric v).isKey = true
    unfold keepNumeric
    split
    · next x =>
      split
      · rfl
      · cases x with
        | nan => rfl
        | infinity negative => rfl
        | finite negative m e => rfl
    · exact single

theorem isKey_of_store {t : ColumnType} {v w : Value} (h : t.store v = .ok w) :
    w.isKey = true := by
  obtain ⟨p, b, -, bound, rfl⟩ := store_eq_ok.mp h
  exact isKey_keep t (isKey_of_bind bound)

end ColumnType

namespace Tables

/-- The indexes admit every row, columns hold single values, and all projects are the first
versions under their reference numbers. -/
structure Sound (t : Tables) : Prop where
  indexed : ∀ p ∈ t.projects, Upsert.checkIndexes t p = .ok ()
  single : ∀ p ∈ t.projects, ∀ c, (p.column c).isKey = true
  first : ∀ p ∈ t.projects, p.version = 1

/-- The next reference number of a code is not in use. -/
def Ahead (t : Tables) : Prop :=
  ∀ code, ∀ p ∈ t.projects, p.reference ≠ Reference.format code (Upsert.nextCounters t code)

end Tables

namespace Upsert

variable {t t' : Tables} {u : Upsert} {p p' : Project}

theorem Leaves.isKey {c : String} {before after : Value} {sent : Option Value}
    (h : Leaves c before after sent) (single : before.isKey = true) : after.isKey = true := by
  cases sent with
  | none => exact h ▸ single
  | some v =>
    rcases h with ⟨-, rfl⟩ | stored
    · exact single
    · exact ColumnType.isKey_of_store stored

theorem indexed_of_row (before : ∀ q ∈ t.projects, checkIndexes t q = .ok ())
    (rows : ∀ q ∈ t'.projects, q = p ∨ q ∈ t.projects ∧ q.id ≠ p.id)
    (admitted : checkIndexes t p = .ok ()) : ∀ q ∈ t'.projects, checkIndexes t' q = .ok () := by
  obtain ⟨key, named, free⟩ := checkIndexes_eq_ok.mp admitted
  intro q mem
  rcases rows q mem with rfl | ⟨old, other⟩
  · refine checkIndexes_eq_ok.mpr ⟨key, named, fun x mem apart => ?_⟩
    rcases rows x mem with rfl | ⟨old, -⟩
    · exact absurd rfl apart
    · exact free x old apart
  · obtain ⟨own, ownNamed, ownFree⟩ := checkIndexes_eq_ok.mp (before q old)
    refine checkIndexes_eq_ok.mpr ⟨own, ownNamed, fun x mem apart => ?_⟩
    rcases rows x mem with rfl | ⟨old', -⟩
    · obtain ⟨name, reference⟩ := free q old other
      refine ⟨?_, fun same version => reference same.symm version.symm⟩
      rw [named, ← ownNamed]
      exact name.symm
    · exact ownFree x old' apart

theorem Creates.sound {code : String} (h : Creates t u code p t') (before : t.Sound) :
    t'.Sound := by
  have projects : t'.projects = t.projects ++ [p] := by rw [h.tables]
  have fresh : ∀ q ∈ t.projects, q.id ≠ p.id := fun q mem same =>
    h.fresh (same ▸ List.mem_map_of_mem mem)
  refine ⟨indexed_of_row before.indexed (fun q mem => ?_) h.indexes, ?_, ?_⟩
  · rw [projects] at mem
    rcases List.mem_append.mp mem with old | new
    · exact .inr ⟨old, fresh q old⟩
    · exact .inl (List.mem_singleton.mp new)
  · rw [projects]
    refine List.forall_mem_append.mpr ⟨before.single, ?_⟩
    simpa using fun c => (h.column c).isKey rfl
  · rw [projects]
    exact List.forall_mem_append.mpr ⟨before.first, by simpa using h.version⟩

theorem Change.sound (h : Change t u p p' t'.projects) (before : t.Sound)
    (mem : p ∈ t.projects) : t'.Sound := by
  have single : ∀ c, (p'.column c).isKey = true := fun c =>
    (h.column c).isKey (before.single p mem c)
  have version : p'.version = 1 := h.identity.2.2.1.trans (before.first p mem)
  generalize hrows : t'.projects = rows at h
  cases h with
  | nothing same undated =>
    have indexed : ∀ q, checkIndexes t' q = checkIndexes t q := fun q => by
      rw [checkIndexes, checkIndexes, hrows]
    refine ⟨fun q stored => ?_, hrows ▸ before.single, hrows ▸ before.first⟩
    rw [indexed]
    exact before.indexed q (hrows ▸ stored)
  | row prepared kept fits stays row result indexes =>
    have rows : ∀ q ∈ t'.projects, q = p' ∨ q ∈ t.projects ∧ q.id ≠ p'.id := by
      intro q stored
      rw [hrows] at stored
      obtain ⟨y, old, rfl⟩ := List.mem_map.mp stored
      split
      · exact .inl rfl
      · next other => exact .inr ⟨old, by simpa using other⟩
    refine ⟨indexed_of_row before.indexed rows indexes, fun q stored => ?_, fun q stored => ?_⟩
    · rcases rows q stored with rfl | ⟨old, -⟩
      · exact single
      · exact before.single q old
    · rcases rows q stored with rfl | ⟨old, -⟩
      · exact version
      · exact before.first q old

theorem Updates.sound (h : Updates t u p p' t') (before : t.Sound) : t'.Sound :=
  h.change.sound before h.mem

theorem Minted.ahead (h : Minted t) : t.Ahead := by
  intro code p mem same
  obtain ⟨n, numbered⟩ := h.numbered code
  have next : nextCounters t code = .nth (n + 1) := by
    rw [nextCounters, numbered.counters?, Counters.next_left]
  rw [next] at same
  have own : p.reference ∈ (t.projects.map Project.reference).filter
      (Reference.code? · == some code) := by
    refine List.mem_filter.mpr ⟨List.mem_map_of_mem mem, ?_⟩
    rw [same, Reference.code?_format_nth]
    exact beq_self_eq_true _
  rw [numbered.references] at own
  obtain ⟨i, below, old⟩ := List.mem_map.mp own
  rw [same] at old
  have equal := (Reference.format_nth_injective i.succ_pos n.succ_pos old).2
  have bound := List.mem_range.mp below
  omega

end Upsert
end FloodScheme
