import FloodScheme.Proofs.Outcome
import FloodScheme.Store.Upsert
import Mathlib.Data.List.Nodup

/-! What a write can do to the tables. A create adds one row to each table and moves the counters
of one code on; an update changes one project and perhaps its link; a write that does not come to
its commit changes nothing. -/
namespace FloodScheme.Upsert
open Outcome

/-- Counters of the next number of a code. -/
def nextCounters (t : Tables) (code : String) : Counters :=
  (t.counters? code).elim (Counters.next ⟨0, 0⟩) Counters.next

def newLink (projectId : Int) (area : Option Area) : List LinkRow :=
  (area.map fun a => (⟨projectId, a.id, true⟩ : LinkRow)).toList

/-- The links once a project's first one leads to an area; a missing one is made. -/
def movedLinks (links : List LinkRow) (projectId : Int) (area : Option Area) : List LinkRow :=
  match area with
  | none => links
  | some a =>
    if links.any (·.projectId == projectId) then relink projectId a.id links
    else links ++ [⟨projectId, a.id, true⟩]

/-- A create that goes through. -/
structure Creates (t : Tables) (u : Upsert) (code : String) (p : Project) (t' : Tables) :
    Prop where
  asked : (u.payload.get "referenceNumber").truthy = false
  minted : u.code = some code
  id : p.id = Tables.nextId (t.projects.map Project.id)
  reference : p.reference = Reference.format code (nextCounters t code)
  version : p.version = 1
  slug : p.slug = Reference.slug p.reference
  creator : p.creatorId = u.userId.key?
  columns : ∃ prepared kept, prepare u.data = .ok prepared ∧ keep prepared = .ok kept ∧
    p.columns = setAll [] kept
  indexes : checkIndexes t p = .ok ()
  tables : t' = { t with
    projects := t.projects ++ [p]
    states := t.states ++ [⟨p.id, draft⟩]
    links := t.links ++ newLink p.id u.area
    counters := advance t.counters code }

/-- What an update makes of the project it found, and of the rows of all projects. -/
inductive Change (t : Tables) (u : Upsert) (p : Project) : Project → List Project → Prop
  | nothing (same : changes p u.data = []) (undated : u.payload.has "urgencyDetails" = false) :
    Change t u p p t.projects
  | row (prepared kept : Fields) (fits : prepare (changes p u.data) = .ok prepared)
    (stays : keep prepared = .ok kept) (p' : Project)
    (result : p' =
      { p with
        columns := setAll p.columns kept
        updatedAt := u.now
        detailsUpdatedAt :=
          if u.payload.has "urgencyDetails" then some u.now else p.detailsUpdatedAt })
    (indexes : checkIndexes t p' = .ok ()) :
    Change t u p p' (t.projects.map fun q => if q.id == p'.id then p' else q)

/-- An update that goes through. -/
structure Updates (t : Tables) (u : Upsert) (p p' : Project) (t' : Tables) : Prop where
  asked : (u.payload.get "referenceNumber").truthy = true
  found : ∃ reference, searchText (u.payload.get "referenceNumber") = .ok (some reference) ∧
    t.project? reference = some p
  change : Change t u p p' t'.projects
  tables : t' = { t with
    projects := t'.projects
    links := movedLinks t.links p.id u.area }

theorem mem_of_project? {t : Tables} {reference : String} {p : Project}
    (h : t.project? reference = some p) : p ∈ t.projects := List.mem_of_find?_eq_some h

theorem own_of_project? {t : Tables} {reference : String} {p : Project}
    (h : t.project? reference = some p) : p.reference = reference ∧ p.version = 1 := by
  simpa using List.find?_some h

theorem Updates.mem {t t' : Tables} {u : Upsert} {p p' : Project} (h : Updates t u p p' t') :
    p ∈ t.projects := by
  obtain ⟨reference, -, found⟩ := h.found
  exact mem_of_project? found

theorem Change.identity {t : Tables} {u : Upsert} {p p' : Project} {rows : List Project}
    (h : Change t u p p' rows) :
    p'.id = p.id ∧ p'.reference = p.reference ∧ p'.version = p.version ∧ p'.slug = p.slug ∧
      p'.creatorId = p.creatorId ∧ p'.createdAt = p.createdAt := by
  cases h with
  | nothing same undated => exact ⟨rfl, rfl, rfl, rfl, rfl, rfl⟩
  | row prepared kept fits stays row result indexes =>
    subst result
    exact ⟨rfl, rfl, rfl, rfl, rfl, rfl⟩

theorem find?_replaced {rows : List Project} {wanted : Project → Bool} {p p' : Project}
    (found : rows.find? wanted = some p) (same : p'.id = p.id) (also : wanted p' = true) :
    (rows.map fun q => if q.id == p'.id then p' else q).find? wanted = some p' := by
  induction rows with
  | nil => cases found
  | cons q rest ih =>
    rw [List.map_cons]
    by_cases own : q.id == p'.id
    · rw [if_pos own, List.find?_cons_of_pos also]
    · rw [if_neg own]
      cases first : wanted q with
      | true =>
        rw [List.find?_cons_of_pos first] at found
        obtain rfl := Option.some.inj found
        simp [same] at own
      | false =>
        have later : ¬ wanted q = true := by simp [first]
        rw [List.find?_cons_of_neg later] at found ⊢
        exact ih found

theorem Change.project? {t t' : Tables} {u : Upsert} {p p' : Project} {reference : String}
    (h : Change t u p p' t'.projects) (found : t.project? reference = some p) :
    t'.project? reference = some p' := by
  have identity := h.identity
  obtain ⟨own, first⟩ := own_of_project? found
  rw [Tables.project?]
  generalize t'.projects = rows at h
  cases h with
  | nothing same undated => exact found
  | row prepared kept fits stays row result indexes =>
    refine find?_replaced found identity.1 ?_
    simp [identity.2.1, identity.2.2.1, own, first]

theorem eq_of_id_eq {rows : List Project} (ids : (rows.map Project.id).Nodup) {p q : Project}
    (hp : p ∈ rows) (hq : q ∈ rows) (same : q.id = p.id) : q = p :=
  List.inj_on_of_nodup_map ids hq hp same

theorem Change.rows {t : Tables} {u : Upsert} {p p' : Project} {rows : List Project}
    (h : Change t u p p' rows) (ids : (t.projects.map Project.id).Nodup)
    (mem : p ∈ t.projects) : rows = t.projects.map fun q => if q.id = p.id then p' else q := by
  cases h with
  | nothing same undated =>
    have kept : ∀ q ∈ t.projects, (if q.id = p.id then p else q) = q := by
      intro q hq
      split
      · next equal => exact (eq_of_id_eq ids mem hq equal).symm
      · rfl
    exact ((List.map_congr_left kept).trans (List.map_id _)).symm
  | row prepared kept fits stays row result indexes =>
    subst result
    simp only [beq_iff_eq]

theorem Change.map_rows {t : Tables} {u : Upsert} {p p' : Project} {rows : List Project}
    (h : Change t u p p' rows) (ids : (t.projects.map Project.id).Nodup)
    (mem : p ∈ t.projects) {α : Type} (f : Project → α) (same : f p' = f p) :
    rows.map f = t.projects.map f := by
  rw [h.rows ids mem, List.map_map]
  refine List.map_congr_left fun q hq => ?_
  simp only [Function.comp]
  split
  · next equal => rw [same, eq_of_id_eq ids mem hq equal]
  · rfl

theorem nextId_not_mem (ids : List Int) : Tables.nextId ids ∉ ids := by
  have bound : ∀ (rest : List Int) (i : Int), ∀ j ∈ i :: rest, j ≤ rest.foldl max i := by
    intro rest
    induction rest with
    | nil => simp
    | cons k rest ih =>
      intro i j hj
      have step := ih (max i k)
      rcases List.mem_cons.mp hj with rfl | hj
      · exact Int.le_trans (Int.le_max_left _ k) (step _ (by simp))
      · rcases List.mem_cons.mp hj with rfl | hj
        · exact Int.le_trans (Int.le_max_right i _) (step _ (by simp))
        · exact step j (by simp [hj])
  intro h
  cases ids with
  | nil => exact absurd h (by simp)
  | cons i rest =>
    have below := bound rest i _ h
    simp only [Tables.nextId] at below
    omega

theorem Creates.fresh {t t' : Tables} {u : Upsert} {code : String} {p : Project}
    (h : Creates t u code p t') : p.id ∉ t.projects.map Project.id := by
  rw [h.id]
  exact nextId_not_mem _

theorem Creates.ids {t t' : Tables} {u : Upsert} {code : String} {p : Project}
    (h : Creates t u code p t') (before : (t.projects.map Project.id).Nodup) :
    (t'.projects.map Project.id).Nodup := by
  rw [h.tables, List.map_append]
  refine List.nodup_append.mpr ⟨before, by simp, fun i hi j hj => ?_⟩
  rw [List.map_singleton, List.mem_singleton] at hj
  rintro rfl
  exact h.fresh (hj ▸ hi)

theorem lift_eq_ok {α : Type} {r : Except StoreFault α} {a : α} :
    lift r = .ok a ↔ r = .ok a := mapError_eq_ok

theorem mint_eq_ok {db : Database} {asked : Option String}
    {code : String} {next : Counters} {counters : List CounterRow}
    (h : mint db asked = .ok (code, next, counters)) :
    asked = some code ∧ next = nextCounters db.tables code ∧
      counters = advance db.tables.counters code := by
  unfold mint at h
  obtain ⟨-, -, h⟩ := bind_eq_ok.mp h
  cases asked with
  | none => simp at h
  | some c =>
    obtain ⟨-, -, h⟩ := bind_eq_ok.mp h
    obtain ⟨-, -, h⟩ := bind_eq_ok.mp h
    obtain ⟨-, -, h⟩ := bind_eq_ok.mp h
    obtain ⟨-, -, h⟩ := bind_eq_ok.mp h
    simp only [pure_eq_ok, Prod.mk.injEq] at h
    obtain ⟨rfl, rfl, rfl⟩ := h
    exact ⟨rfl, rfl, rfl⟩

theorem creates_of_create {db : Database} {u : Upsert} {t' : Tables} {p : Project}
    (asked : (u.payload.get "referenceNumber").truthy = false)
    (h : create db u = .ok (t', p)) : ∃ code, Creates db.tables u code p t' := by
  unfold create at h
  obtain ⟨⟨code, next, counters⟩, minted, h⟩ := bind_eq_ok.mp h
  obtain ⟨hcode, rfl, rfl⟩ := mint_eq_ok minted
  obtain ⟨prepared, hprepared, h⟩ := bind_eq_ok.mp h
  obtain ⟨-, -, h⟩ := bind_eq_ok.mp h
  obtain ⟨kept, hkept, h⟩ := bind_eq_ok.mp h
  obtain ⟨-, -, h⟩ := bind_eq_ok.mp h
  obtain ⟨_, hindexes, h⟩ := bind_eq_ok.mp h
  obtain ⟨-, -, h⟩ := bind_eq_ok.mp h
  refine ⟨code, ?_⟩
  cases harea : u.area with
  | none =>
    simp only [harea, pure_bind, pure_eq_ok, Prod.mk.injEq] at h
    obtain ⟨rfl, rfl⟩ := h
    exact ⟨asked, hcode, rfl, rfl, rfl, rfl, rfl,
      ⟨prepared, kept, lift_eq_ok.mp hprepared, lift_eq_ok.mp hkept, rfl⟩,
      lift_eq_ok.mp hindexes, by simp [newLink, harea]⟩
  | some a =>
    simp only [harea] at h
    obtain ⟨-, -, h⟩ := bind_eq_ok.mp h
    simp only [pure_bind, pure_eq_ok, Prod.mk.injEq] at h
    obtain ⟨rfl, rfl⟩ := h
    exact ⟨asked, hcode, rfl, rfl, rfl, rfl, rfl,
      ⟨prepared, kept, lift_eq_ok.mp hprepared, lift_eq_ok.mp hkept, rfl⟩,
      lift_eq_ok.mp hindexes, by simp [newLink, harea]⟩

theorem change_of_changeProject {db : Database} {u : Upsert} {p p' : Project} {t' : Tables}
    (h : changeProject db u p = .ok (t', p')) :
    Change db.tables u p p' t'.projects ∧ t' = { db.tables with projects := t'.projects } := by
  unfold changeProject at h
  split at h
  · simp at h
  · dsimp only at h
    split at h
    · next idle =>
      simp only [pure_eq_ok, Prod.mk.injEq] at h
      obtain ⟨rfl, rfl⟩ := h
      simp only [Bool.and_eq_true, List.isEmpty_iff, Bool.not_eq_true'] at idle
      exact ⟨.nothing idle.1 idle.2, rfl⟩
    · obtain ⟨prepared, hprepared, h⟩ := bind_eq_ok.mp h
      obtain ⟨-, -, h⟩ := bind_eq_ok.mp h
      obtain ⟨kept, hkept, h⟩ := bind_eq_ok.mp h
      obtain ⟨-, -, h⟩ := bind_eq_ok.mp h
      obtain ⟨_, hindexes, h⟩ := bind_eq_ok.mp h
      simp only [pure_eq_ok, Prod.mk.injEq] at h
      obtain ⟨rfl, rfl⟩ := h
      exact ⟨.row prepared kept (lift_eq_ok.mp hprepared) (lift_eq_ok.mp hkept) _ rfl
        (lift_eq_ok.mp hindexes), rfl⟩

theorem relink_same {links : List LinkRow} {projectId areaId : Int} {l : LinkRow}
    (found : links.find? (fun l => l.projectId == projectId) = some l)
    (same : l.areaId = areaId) : relink projectId areaId links = links := by
  induction links with
  | nil => rfl
  | cons m rest ih =>
    by_cases own : m.projectId == projectId
    · simp only [List.find?_cons, own, Option.some.injEq] at found
      subst found
      rw [relink, if_pos own, ← same]
    · simp only [List.find?_cons, own] at found
      rw [relink, if_neg own, ih found]

theorem moveLink_eq_ok {db : Database} {projectId : Int} {a : Area} {links : List LinkRow}
    (h : moveLink db projectId (db.tables.link? projectId) a = .ok links) :
    links = movedLinks db.tables.links projectId (some a) := by
  unfold moveLink at h
  split at h
  · next l found =>
    have own : db.tables.links.any (·.projectId == projectId) = true := by
      refine List.any_eq_true.mpr ⟨l, List.mem_of_find?_eq_some found, ?_⟩
      simpa using List.find?_some found
    simp only [movedLinks, own, if_true]
    split at h
    · next same =>
      rw [relink_same found (by simpa using same)]
      exact (pure_eq_ok.mp h).symm
    · obtain ⟨-, -, h⟩ := bind_eq_ok.mp h
      exact (pure_eq_ok.mp h).symm
  · next missing =>
    have none : db.tables.links.any (·.projectId == projectId) = false := by
      simpa [Tables.link?] using missing
    obtain ⟨-, -, h⟩ := bind_eq_ok.mp h
    simp only [movedLinks, none]
    exact (pure_eq_ok.mp h).symm

theorem findProject_eq_ok {db : Database} {reference : Value} {p : Project}
    (h : db.findProject reference = .ok (some p)) :
    ∃ key, searchText reference = .ok (some key) ∧ db.tables.project? key = some p := by
  unfold Database.findProject at h
  obtain ⟨-, -, h⟩ := bind_eq_ok.mp h
  split at h
  · simp at h
  · next key search =>
    cases key with
    | none => simp [pure_eq_ok] at h
    | some key => exact ⟨key, search, by simpa [pure_eq_ok] using h⟩

theorem updates_of_update {db : Database} {u : Upsert} {t' : Tables} {p' : Project}
    (asked : (u.payload.get "referenceNumber").truthy = true)
    (h : update db u (u.payload.get "referenceNumber") = .ok (t', p')) :
    ∃ p, Updates db.tables u p p' t' := by
  unfold update at h
  obtain ⟨found, hfound, h⟩ := bind_eq_ok.mp h
  cases found with
  | none => simp at h
  | some p =>
    refine ⟨p, ?_⟩
    dsimp only at h
    split at h
    · next harea =>
      obtain ⟨change, tables⟩ := change_of_changeProject h
      exact ⟨asked, findProject_eq_ok hfound, change, by simpa [movedLinks, harea] using tables⟩
    · next a harea =>
      obtain ⟨-, -, h⟩ := bind_eq_ok.mp h
      obtain ⟨⟨tables, q⟩, hchange, h⟩ := bind_eq_ok.mp h
      obtain ⟨links, hlinks, h⟩ := bind_eq_ok.mp h
      simp only [pure_eq_ok, Prod.mk.injEq] at h
      obtain ⟨rfl, rfl⟩ := h
      obtain ⟨change, rest⟩ := change_of_changeProject hchange
      refine ⟨asked, findProject_eq_ok hfound, change, ?_⟩
      rw [harea, ← moveLink_eq_ok hlinks]
      exact congrArg (fun s : Tables => { s with links }) rest

theorem write_cases {db : Database} {u : Upsert} {t' : Tables} {p : Project}
    (h : write db u = .ok (t', p)) :
    (∃ code, Creates db.tables u code p t') ∨ ∃ p₀, Updates db.tables u p₀ p t' := by
  unfold write at h
  dsimp only at h
  split at h
  · next asked => exact .inr (updates_of_update asked h)
  · next asked => exact .inl (creates_of_create (by simpa using asked) h)

theorem run_cases (db : Database) (u : Upsert) :
    ((run db u).2 = db.tables ∧ ∃ f, (run db u).1 = .error f) ∨
      ∃ p, write db u = .ok ((run db u).2, p) ∧
        (run db u).1 = (db.attempt .readBack).map fun _ => p := by
  unfold run
  split
  · next f _ => exact .inl ⟨rfl, f, rfl⟩
  · next t p written =>
    split
    · next f _ => exact .inl ⟨rfl, f, rfl⟩
    · exact .inr ⟨p, written, rfl⟩

theorem tables_of_error (db : Database) (u : Upsert) {f : Fault}
    (failed : (run db u).1 = .error f) (readable : db.faults .readBack = none) :
    (run db u).2 = db.tables := by
  rcases run_cases db u with ⟨same, -⟩ | ⟨p, -, result⟩
  · exact same
  · have back : db.attempt .readBack = .ok () := attempt_eq_ok.mpr readable
    rw [result, back] at failed
    cases failed

end FloodScheme.Upsert
