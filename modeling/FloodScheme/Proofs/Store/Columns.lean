import FloodScheme.Proofs.Fields
import FloodScheme.Proofs.Store.Write

/-! What a write leaves in the columns of its project: the value that was sent, as the type of the
column keeps it, or what was there before. -/
namespace FloodScheme
open Outcome

namespace Field

theorem columns_nodup : (writable.map Field.column).Nodup := by decide

theorem toStorage_names (payload : Fields) :
    (toStorage payload).names =
      (writable.filter fun f => payload.has f.wire).map Field.column := by
  unfold toStorage Fields.names
  induction writable with
  | nil => rfl
  | cons f rest ih =>
    rw [List.filterMap_cons, List.filter_cons]
    cases found : payload.get? f.wire with
    | none => simpa [Fields.has, found] using ih
    | some v => simpa [Fields.has, found] using ih

theorem toStorage_nodup (payload : Fields) : (toStorage payload).names.Nodup := by
  rw [toStorage_names]
  exact columns_nodup.sublist (List.filter_sublist.map _)

theorem get?_toStorage {f : Field} (mem : f ∈ writable) (payload : Fields) :
    (toStorage payload).get? f.column = (payload.get? f.wire).map f.kind.toStorage := by
  have gathered : ∀ fields : List Field, (fields.map Field.column).Nodup → f ∈ fields →
      Fields.get? (fields.filterMap fun g =>
        (payload.get? g.wire).map fun v => (g.column, g.kind.toStorage v)) f.column =
        (payload.get? f.wire).map f.kind.toStorage := by
    intro fields apart mem
    induction fields with
    | nil => cases mem
    | cons g rest ih =>
      obtain ⟨new, apart⟩ := List.nodup_cons.mp apart
      rw [List.filterMap_cons]
      rcases List.mem_cons.mp mem with same | later
      · rw [← same] at new ⊢
        cases found : payload.get? f.wire with
        | none =>
          refine Fields.get?_eq_none fun old => new ?_
          obtain ⟨⟨c, v⟩, stored, named⟩ := List.mem_map.mp old
          obtain ⟨h, mem, made⟩ := List.mem_filterMap.mp stored
          obtain ⟨w, _, pair⟩ := Option.map_eq_some_iff.mp made
          have column : h.column = f.column := (congrArg Prod.fst pair).trans named
          exact column ▸ List.mem_map_of_mem mem
        | some v => simp [Fields.get?_cons]
      · have other : f.column ≠ g.column := fun same =>
          new (same ▸ List.mem_map_of_mem later)
        cases found : payload.get? g.wire with
        | none => simpa [found] using ih apart later
        | some v => simpa [found, Fields.get?_cons, other] using ih apart later
  exact gathered writable columns_nodup mem

end Field

theorem ColumnType.store_eq_ok {t : ColumnType} {v w : Value} :
    t.store v = .ok w ↔
      ∃ p b, t.prepare v = .ok p ∧ ColumnType.bind p = .ok b ∧ t.keep b = w := by
  constructor
  · intro h
    obtain ⟨p, prepared, h⟩ := bind_eq_ok.mp h
    obtain ⟨b, bound, h⟩ := bind_eq_ok.mp h
    exact ⟨p, b, prepared, bound, pure_eq_ok.mp h⟩
  · rintro ⟨p, b, prepared, bound, rfl⟩
    exact bind_eq_ok.mpr ⟨p, prepared, bind_eq_ok.mpr ⟨b, bound, rfl⟩⟩

namespace Upsert

theorem get?_setAll (columns : Fields) {data : Fields} (apart : data.names.Nodup) (c : String) :
    (setAll columns data).get? c = (data.get? c).or (columns.get? c) := by
  unfold setAll
  induction data generalizing columns with
  | nil => rfl
  | cons m rest ih =>
    obtain ⟨n, v⟩ := m
    obtain ⟨new, apart⟩ := List.nodup_cons.mp apart
    rw [List.foldl_cons, ih _ apart, Fields.get?_set, Fields.get?_cons]
    by_cases own : c = n
    · subst own
      rw [Fields.get?_eq_none new]
      simp
    · simp [own]

theorem data_nodup (u : Upsert) : u.data.names.Nodup := by
  unfold data
  cases u.area with
  | none => exact Field.toStorage_nodup _
  | some a => exact Fields.nodup_set _ _ (Field.toStorage_nodup _)

theorem get?_data_of_ne (u : Upsert) {c : String} (other : c ≠ "rma_name") :
    u.data.get? c = (Field.toStorage u.payload).get? c := by
  unfold data
  cases u.area with
  | none => rfl
  | some a => exact (Fields.get?_set _ _ _ _).trans (if_neg other)

theorem get?_data (u : Upsert) {f : Field} (mem : f ∈ Field.writable)
    (other : f.column ≠ "rma_name") :
    u.data.get? f.column = (u.payload.get? f.wire).map f.kind.toStorage := by
  rw [u.get?_data_of_ne other, Field.get?_toStorage mem]

theorem data_name (u : Upsert) : u.data.get? "name" = u.payload.get? "name" := by
  have column := get?_data u (f := ⟨"name", "name", .copied⟩) (by decide) (by decide)
  rw [column]
  exact Option.map_id'

theorem get?_kept {data prepared kept : Fields} (fits : prepare data = .ok prepared)
    (stays : keep prepared = .ok kept) :
    kept.names = data.names ∧
      ∀ c, match data.get? c with
        | none => kept.get? c = none
        | some v => ∃ w, (ColumnType.ofColumn c).store v = .ok w ∧ kept.get? c = some w := by
  obtain ⟨names, first⟩ := Fields.get?_mapM
    (f := fun c v => (ColumnType.ofColumn c).prepare v) (fun m => by
      cases fitted : (ColumnType.ofColumn m.1).prepare m.2 with
      | error f => simp only [fitted]; rfl
      | ok w => simp only [fitted]; rfl) fits
  obtain ⟨names', second⟩ := Fields.get?_mapM
    (f := fun c v => (ColumnType.bind v).map (ColumnType.ofColumn c).keep) (fun m => by
      cases bound : ColumnType.bind m.2 with
      | error f => simp only [bound]; rfl
      | ok w => simp only [bound]; rfl) stays
  refine ⟨names'.trans names, fun c => ?_⟩
  have first := first c
  have second := second c
  cases sent : data.get? c with
  | none =>
    simp only [sent] at first
    simpa only [first] using second
  | some v =>
    simp only [sent] at first
    obtain ⟨w, prepared, found⟩ := first
    simp only [found] at second
    obtain ⟨w', bound, found'⟩ := second
    refine ⟨w', ?_, found'⟩
    obtain ⟨b, hb, rfl⟩ := map_eq_ok.mp bound
    exact bind_eq_ok.mpr ⟨w, prepared, bind_eq_ok.mpr ⟨b, hb, rfl⟩⟩

/-- A column before and after a write that has a value for it, or none: a value that is equal to
the stored one is not written. -/
def Leaves (c : String) (before after : Value) (sent : Option Value) : Prop :=
  match sent with
  | none => after = before
  | some v =>
    (before.equal v = true ∧ after = before) ∨ (ColumnType.ofColumn c).store v = .ok after

variable {data prepared kept : Fields} {p : Project}

theorem leaves_setAll (columns : Fields) (apart : data.names.Nodup)
    (fits : prepare data = .ok prepared) (stays : keep prepared = .ok kept) (c : String) :
    Leaves c (columns.get c) ((setAll columns kept).get c) (data.get? c) := by
  obtain ⟨names, each⟩ := get?_kept fits stays
  have each := each c
  have found := get?_setAll columns (names ▸ apart) c
  rw [Fields.get, Fields.get, found]
  cases sent : data.get? c with
  | none =>
    simp only [sent] at each
    rw [each]
    rfl
  | some v =>
    simp only [sent] at each
    obtain ⟨w, stored, kept⟩ := each
    rw [kept]
    exact .inr stored

theorem get?_changes (p : Project) (apart : data.names.Nodup) (c : String) :
    (changes p data).get? c = (data.get? c).filter fun v => !(p.column c).equal v :=
  Fields.get?_filter_pairs _ apart c

theorem leaves_changes (apart : data.names.Nodup)
    (fits : prepare (changes p data) = .ok prepared) (stays : keep prepared = .ok kept)
    (c : String) :
    Leaves c (p.column c) ((setAll p.columns kept).get c) (data.get? c) := by
  have some_apart : (changes p data).names.Nodup := apart.sublist (List.filter_sublist.map _)
  have leaves := leaves_setAll p.columns some_apart fits stays c
  rw [get?_changes p apart] at leaves
  cases sent : data.get? c with
  | none =>
    rw [sent] at leaves
    exact leaves
  | some v =>
    rw [sent, Option.filter_some] at leaves
    split at leaves
    · exact leaves
    · next equal => exact .inl ⟨by simpa using equal, leaves⟩

theorem Creates.column {t t' : Tables} {u : Upsert} {code : String}
    (h : Creates t u code p t') (c : String) : Leaves c .null (p.column c) (u.data.get? c) := by
  obtain ⟨prepared, kept, fits, stays, columns⟩ := h.columns
  rw [Project.column, columns]
  exact leaves_setAll [] u.data_nodup fits stays c

theorem Change.column {t : Tables} {u : Upsert} {p' : Project} {rows : List Project}
    (h : Change t u p p' rows) (c : String) :
    Leaves c (p.column c) (p'.column c) (u.data.get? c) := by
  cases h with
  | nothing same undated =>
    have changed := get?_changes p u.data_nodup c
    rw [same] at changed
    cases sent : u.data.get? c with
    | none => rfl
    | some v =>
      refine .inl ⟨?_, rfl⟩
      rw [sent, Option.filter_some] at changed
      split at changed
      · cases changed
      · next equal => simpa using equal
  | row prepared kept fits stays row result indexes =>
    rw [result]
    exact leaves_changes u.data_nodup fits stays c

end Upsert
end FloodScheme
