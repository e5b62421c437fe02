import FloodScheme.Proofs.Decision.Window
import FloodScheme.Proofs.Store.Search

/-! `decideProposal` returns what the requirements say, except where a read or a conversion stops
it. Each step is compared with its requirements, and the steps compose. -/
namespace FloodScheme
open Outcome Number

/-- Numbers of areas that a decision may look for: that of the area that is sent, and those that
rows refer to. -/
def Tables.Seeks (t : Tables) (payload : Fields) (i : Int) : Prop :=
  (payload.get "areaId").key? = some i ∨ (∃ a ∈ t.areas, a.parentId = some i) ∨
    ∃ l ∈ t.links, l.areaId = i

def schemeReads : List Operation := [.readProject, .readOwnerLink, .readState]

/-- Operations that a decision may ask for. -/
inductive Tables.Asks (t : Tables) (payload : Fields) : Operation → Prop
  | area {i : Int} (sought : t.Seeks payload i) : Asks t payload (.readArea i)
  | name : Asks t payload .searchName
  | scheme {op : Operation} (read : op ∈ schemeReads) : Asks t payload op

/-- The operations that the decision asks for do not fail, and its conversions do not stop. -/
structure Readable (db : Database) (payload : Fields) (level : Value) : Prop where
  quiet : ∀ op, db.tables.Asks payload op → db.faults op = none
  reference : ∃ key, searchText (payload.get "referenceNumber") = .ok key
  name : (payload.get "name").isBlank = true ∨ ∃ s, payload.get "name" = .text s
  level : level.isKey = true
  sentYears : (payload.get "financialStartYear").Countable ∧
    (payload.get "financialEndYear").Countable
  dates : ∀ m ∈ Timeline.milestones,
    (payload.get m.monthField).Countable ∧ (payload.get m.yearField).Countable
  storedYears : ∀ q ∈ db.tables.projects,
    (q.column "earliest_start_year").Countable ∧
      (q.column "project_end_financial_year").Countable

namespace Decision

variable {α β : Type} {calm : Prop}

/-- A step returns what the requirement says, or stops with a fault; if `calm` is true it does not
stop. -/
def Follows (calm : Prop) (x : Except Halt α) (y : Except Failure α) : Prop :=
  x = y.mapError .failure ∨ ¬ calm ∧ ∃ f, x = .error (.fault f)

namespace Follows

theorem pure (a : α) : Follows calm (Pure.pure a) (.ok a) := .inl rfl

theorem reject (f : Failure) : Follows calm (Decision.reject f : Except Halt α) (.error f) :=
  .inl rfl

theorem stop {f : Fault} {y : Except Failure α} (wild : ¬ calm) :
    Follows calm (.error (.fault f)) y := .inr ⟨wild, f, rfl⟩

theorem bind {x : Except Halt α} {y : Except Failure α} {f : α → Except Halt β}
    {g : α → Except Failure β} (h : Follows calm x y)
    (then_ : ∀ a, y = .ok a → Follows calm (f a) (g a)) :
    Follows calm (x >>= f) (y >>= g) := by
  rcases h with rfl | ⟨wild, e, rfl⟩
  · cases y with
    | error e => exact .inl rfl
    | ok a => exact then_ a rfl
  · exact .inr ⟨wild, e, rfl⟩

theorem value {x : Except Halt α} {a : α} {f : α → Except Halt β} {y : Except Failure β}
    (h : Follows calm x (.ok a)) (then_ : Follows calm (f a) y) : Follows calm (x >>= f) y := by
  rcases h with rfl | ⟨wild, e, rfl⟩
  · exact then_
  · exact .inr ⟨wild, e, rfl⟩

theorem lift {r : Except Fault α} {a : α} (h : Gives calm r a) :
    Follows calm (Decision.lift r) (.ok a) := by
  rcases h with rfl | ⟨wild, e, rfl⟩
  · exact .inl rfl
  · exact .inr ⟨wild, e, rfl⟩

end Follows

open Requirement

theorem follows_append {x : Except Halt β} {f : β → Except Halt α}
    {rs rs' : List Requirement} {a : α} {b : β} (first : Follows calm x (judge rs b))
    (then_ : Follows calm (f b) (judge rs' a)) :
    Follows calm (x >>= f) (judge (rs ++ rs') a) := by
  rw [judge_append rs rs' a b]
  refine first.bind fun c hc => ?_
  rw [eq_of_judge_eq_ok hc]
  exact then_

theorem follows_last {x : Except Halt Unit} {f : Unit → Except Halt α} {rs : List Requirement}
    {a : α} (last : Follows calm x (judge rs ())) (result : f () = pure a) :
    Follows calm (x >>= f) (judge rs a) := by
  rw [← List.append_nil rs]
  refine follows_append last ?_
  rw [result]
  exact .pure a

theorem rejectSome_follows (rs : List Requirement) :
    Follows calm (rejectSome (unmet? rs)) (judge rs ()) := by
  unfold judge
  cases unmet? rs with
  | none => exact .pure ()
  | some f => exact .reject f

theorem belongsTo_eq (p : Principal) (id : Value) : p.belongsTo id = isMember p id := by
  unfold Principal.belongsTo isMember
  cases hid : id.isNull with
  | true =>
    have apart : ∀ m ∈ p.areas, ¬ sameArea m.areaId id = true := by
      simp [sameArea, hid]
    rw [List.any_eq_false.mpr apart]
    rfl
  | false => rfl

theorem refuseCreate_follows (p : Principal) (id : Value) :
    Follows calm (rejectSome ((refuseCreate? p id).map createRefused))
      (judge [⟨p.isRma, createRefused .onlyRma⟩,
        ⟨isMember p id, createRefused .noAccessToArea⟩] ()) := by
  rw [judge_cons, judge_cons, refuseCreate?, belongsTo_eq]
  cases p.isRma with
  | false => exact .reject _
  | true =>
    cases isMember p id with
    | false => exact .reject _
    | true => exact .pure ()

theorem refuseUpdate_follows (p : Principal) (area : Option AreaWithParents) :
    Follows calm (rejectSome ((refuseUpdate? p area).map updateRefused))
      (judge [⟨p.isAdmin || area.isSome, updateRefused .areaUnknown⟩,
        ⟨p.isAdmin || area.any fun a =>
            isMember p (.int a.area.id) || a.pso.any fun pso => isMember p (.int pso.id),
          updateRefused .noAccessToScheme⟩] ()) := by
  rw [judge_cons, judge_cons]
  unfold refuseUpdate?
  cases p.isAdmin with
  | true => exact .pure ()
  | false =>
    cases area with
    | none => exact .reject _
    | some a =>
      simp only [belongsTo_eq, Bool.false_or, Option.isSome_some, Option.any_some]
      cases isMember p (.int a.area.id) || a.pso.any fun pso => isMember p (.int pso.id) with
      | true => exact .pure ()
      | false => exact .reject _

theorem nameTaken_gives {db : Database} (quiet : calm → db.faults .searchName = none)
    (s : String) {excluded : Value} {counts : Project → Bool}
    (others : excluded = .null ∧ (∀ q, counts q = true) ∨
      ∃ reference, reference ≠ "" ∧ excluded = .text reference ∧
        ∀ q, counts q = (q.reference != reference)) :
    Gives calm (db.nameTaken (.text s) excluded)
      (db.tables.projects.any fun q =>
        counts q && q.nameKey? == some (Database.searchedName s)) := by
  refine .guard (fun c => attempt_eq_ok.mpr (quiet c)) ?_
  rcases others with ⟨rfl, all⟩ | ⟨reference, some, rfl, others⟩
  · simp only [all, Bool.true_and]
    exact .inl rfl
  · have said : (Value.text reference).truthy = true := by simpa [Value.truthy] using some
    have key : searchText (.text reference) = .ok (.some reference) := rfl
    have found (q : Project) : (counts q && q.nameKey? == .some (Database.searchedName s)) =
        ((Option.some reference).any (q.reference != ·) &&
          q.nameKey? == .some (Database.searchedName s)) := by
      rw [others q]
      rfl
    simp only [said, key, if_true, found]
    rw [← List.any_filter]
    exact .inl rfl

theorem checkName_follows {db : Database} {payload : Fields} {existing : Option ProjectRecord}
    {counts : Project → Bool} (quiet : calm → db.faults .searchName = none)
    (readable : calm → (payload.get "name").isBlank = true ∨ ∃ s, payload.get "name" = .text s)
    (others : existing = none ∧ (∀ q, counts q = true) ∨
      ∃ e, existing = some e ∧ e.reference ≠ "" ∧ ∀ q, counts q = (q.reference != e.reference)) :
    Follows calm (checkName db.reads payload existing)
      (judge [⟨nameIsFree db.tables (payload.get "name") counts, nameDuplicate⟩] ()) := by
  rw [judge_cons]
  unfold checkName isPresent
  cases hname : payload.get "name" with
  | null => exact .pure ()
  | text s =>
    by_cases blank : Text.allBlank s = true
    · simp only [Value.isBlank, nameIsFree, blank, Bool.true_or]
      exact .pure ()
    · have said : (Value.text s).isBlank = false := by simpa [Value.isBlank] using blank
      have excluded : (existing.elim .null fun e => .text e.reference) = Value.null ∧
            (∀ q, counts q = true) ∨
          ∃ reference, reference ≠ "" ∧
            (existing.elim .null fun e => .text e.reference) = Value.text reference ∧
            ∀ q, counts q = (q.reference != reference) := by
        rcases others with ⟨rfl, all⟩ | ⟨e, rfl, some, rest⟩
        · exact .inl ⟨rfl, all⟩
        · exact .inr ⟨e.reference, some, rfl, rest⟩
      simp only [said, Bool.not_false, if_true, nameIsFree,
        eq_false_of_ne_true blank, Bool.false_or]
      refine .value (.lift (nameTaken_gives quiet s excluded)) ?_
      cases db.tables.projects.any fun q =>
          counts q && q.nameKey? == some (Database.searchedName s) with
      | true => exact .reject _
      | false => exact .pure ()
  | bool b => exact .stop fun c => by simpa [hname, Value.isBlank] using readable c
  | int i => exact .stop fun c => by simpa [hname, Value.isBlank] using readable c
  | float x => exact .stop fun c => by simpa [hname, Value.isBlank] using readable c
  | decimal d => exact .stop fun c => by simpa [hname, Value.isBlank] using readable c
  | list items => exact .stop fun c => by simpa [hname, Value.isBlank] using readable c
  | object members => exact .stop fun c => by simpa [hname, Value.isBlank] using readable c

theorem checkYears_follows {payload : Fields} {existing : Option ProjectRecord}
    (sent : calm → (payload.get "financialStartYear").Countable ∧
      (payload.get "financialEndYear").Countable)
    (stored : calm → (existing.elim .null ProjectRecord.startYear).Countable ∧
      (existing.elim .null ProjectRecord.endYear).Countable) :
    Follows calm (checkYears payload existing)
      (judge [yearRequirement payload (existing.elim .null ProjectRecord.startYear)
        (existing.elim .null ProjectRecord.endYear)] ()) := by
  rw [judge_cons]
  unfold checkYears yearRequirement comparedYear yearsToCompare
  dsimp only
  generalize hstart : (if isPresent payload "financialStartYear" then
    payload.get "financialStartYear" else existing.elim .null ProjectRecord.startYear) = start
  generalize hstop : (if isPresent payload "financialEndYear" then
    payload.get "financialEndYear" else existing.elim .null ProjectRecord.endYear) = stop
  have countable : calm → start.Countable ∧ stop.Countable := by
    intro c
    rw [← hstart, ← hstop]
    constructor
    · split
      · exact (sent c).1
      · exact (stored c).1
    · split
      · exact (sent c).2
      · exact (stored c).2
  split
  · next silent =>
    have none : (isPresent payload "financialStartYear" ||
        isPresent payload "financialEndYear") = false := by
      simpa using silent
    simp only [none, Bool.not_false, Bool.true_or, if_true]
    exact .pure ()
  · next said =>
    have some : (isPresent payload "financialStartYear" ||
        isPresent payload "financialEndYear") = true := by
      cases hs : isPresent payload "financialStartYear" with
      | true => rfl
      | false => simpa [hs] using said
    simp only [some, Bool.not_true, Bool.false_or]
    refine .value (.lift (Value.whole_gives fun c => (countable c).1)) ?_
    refine .value (.lift (Value.whole_gives fun c => (countable c).2)) ?_
    cases first : start.whole? with
    | none => exact .pure ()
    | some s =>
      cases last : stop.whole? with
      | none => exact .pure ()
      | some e =>
        simp only [Option.all_some, Option.getD_some, decide_eq_true_eq]
        split
        · exact .pure ()
        · split
          · next long =>
            refine .stop fun c => ?_
            simp [Value.isWritable_of_whole? (countable c).1 first,
              Value.isWritable_of_whole? (countable c).2 last] at long
          · split
            · exact .reject _
            · exact .reject _

theorem reads_area (db : Database) : db.reads.area = db.area := by
  rw [Database.reads]

theorem reads_project (db : Database) : db.reads.project = db.project := by
  rw [Database.reads]

section
variable {db : Database} {asked : Int → Prop}
  (quiet : calm → ∀ i, asked i → db.faults (.readArea i) = none)
  (parents : ∀ a ∈ db.tables.areas, ∀ i ∈ a.parentId, asked i)
include quiet parents

theorem resolveArea_follows {id : Value} (ask : ∀ i ∈ id.key?, asked i)
    (k : Option AreaWithParents → β) :
    Follows calm (resolveArea db.reads id >>= fun a => pure (k (some a)))
      (judge (areaRequirements db.tables id) (k (db.tables.withParents id))) := by
  have found := Hierarchy.withParents_gives quiet parents ask
  rw [resolveArea, reads_area, bind_assoc]
  refine .value (.lift found) ?_
  unfold Tables.withParents areaRequirements
  dsimp only
  rw [judge_cons, judge_cons, judge_cons, judge_nil]
  cases db.tables.area? id with
  | none => exact .reject _
  | some a =>
    simp only [Option.map_some, Option.isSome_some, Option.any_some, Option.bind_some, if_true]
    cases rma : a.isRma with
    | false => exact .reject _
    | true =>
      rw [db.tables.pso?_of_isRma rma]
      cases hcode : (db.tables.parent? a Area.psoType).bind Area.subType with
      | none =>
        simp only [AreaWithParents.rfccCode, hcode]
        exact .reject _
      | some code =>
        by_cases empty : code = ""
        · simp only [AreaWithParents.rfccCode, hcode, empty]
          exact .reject _
        · simp [AreaWithParents.rfccCode, hcode, empty, Option.filter_some]
          exact .pure _

theorem currentArea_follows {existing : ProjectRecord} (ask : ∀ i ∈ existing.areaId, asked i) :
    Follows calm (currentArea db.reads existing)
      (.ok (existing.areaId.bind fun i => db.tables.withParents (.int i))) := by
  rw [currentArea, reads_area]
  cases hid : existing.areaId with
  | none => exact .pure _
  | some i =>
    simp only [Option.bind_some]
    refine .lift (Hierarchy.withParents_gives quiet parents fun j key => ?_)
    rw [← Value.eq_of_key?_int key]
    exact ask i hid

theorem checkAreaChange_follows {payload : Fields} (p : Principal) (existing : ProjectRecord)
    (ask : ∀ i ∈ (payload.get "areaId").key?, asked i) :
    Follows calm (checkAreaChange db.reads payload p existing)
      (judge
        (if movesArea payload existing then
          ⟨p.isAdmin, areaChangeRefused⟩ :: areaRequirements db.tables (payload.get "areaId")
        else [])
        (if movesArea payload existing then db.tables.withParents (payload.get "areaId")
        else none)) := by
  unfold checkAreaChange
  dsimp only
  change Follows calm (if movesArea payload existing then _ else _) _
  split
  · rw [judge_cons]
    cases p.isAdmin with
    | false => exact .reject _
    | true =>
      have same : ∀ x : Except Halt AreaWithParents, x.map some = x >>= fun a => pure (some a) := by
        intro x
        cases x with
        | error e => rfl
        | ok a => rfl
      simp only [Bool.not_true, Bool.false_eq_true, if_false, if_true, same]
      exact resolveArea_follows quiet parents ask fun area => area
  · exact .pure _

end

theorem parents_sought {t : Tables} {payload : Fields} :
    ∀ a ∈ t.areas, ∀ i ∈ a.parentId, t.Seeks payload i :=
  fun a mem _ above => .inr (.inl ⟨a, mem, above⟩)

theorem create_follows {db : Database} {payload : Fields} {level : Value} (p : Principal)
    (h : calm → Readable db payload level) :
    Follows calm (create db.reads payload p)
      (judge (createRequirements db.tables payload p)
        (acceptance (db.tables.withParents (payload.get "areaId")) none)) := by
  have areas (c : calm) (i : Int) (sought : db.tables.Seeks payload i) :
      db.faults (.readArea i) = none := (h c).quiet _ (.area sought)
  have listed : createRequirements db.tables payload p = [_, _] ++ ([_] ++ ([_] ++ _)) := rfl
  rw [create, listed]
  refine follows_append (refuseCreate_follows p _) ?_
  refine follows_append
    (checkName_follows (fun c => (h c).quiet _ .name) (fun c => (h c).name)
      (.inl ⟨rfl, fun _ => rfl⟩)) ?_
  refine follows_append (checkYears_follows (fun c => (h c).sentYears) ?_) ?_
  · intro c
    exact ⟨⟨none, rfl, rfl⟩, ⟨none, rfl, rfl⟩⟩
  · exact resolveArea_follows areas parents_sought (fun _ key => .inl key)
      fun area => acceptance area none

theorem named?_eq_some {t : Tables} {reference : Value} {q : Project}
    (h : t.named? reference = some q) :
    ∃ key, searchText reference = .ok (some key) ∧ t.project? key = some q := by
  unfold Tables.named? at h
  cases hs : searchText reference with
  | error e => simp [hs, Except.toOption] at h
  | ok key =>
    cases key with
    | none => simp [hs, Except.toOption] at h
    | some key => exact ⟨key, rfl, by simpa [hs, Except.toOption] using h⟩

theorem reference_of_named? {t : Tables} {reference : Value} {q : Project}
    (said : reference.truthy = true) (h : t.named? reference = some q) :
    q ∈ t.projects ∧ q.reference ≠ "" := by
  obtain ⟨key, searched, found⟩ := named?_eq_some h
  have equal := List.find?_some found
  simp only [Bool.and_eq_true, beq_iff_eq] at equal
  refine ⟨List.mem_of_find?_eq_some found, ?_⟩
  rw [equal.1]
  exact searchText_ne_empty said searched

theorem project_gives {db : Database} {reference : Value}
    (quiet : calm → ∀ op ∈ schemeReads, db.faults op = none)
    (searched : calm → ∃ key, searchText reference = .ok key) :
    Gives calm (db.project reference) ((db.tables.named? reference).map db.tables.record) := by
  have attempt {op : Operation} (read : op ∈ schemeReads) (c : calm) : db.attempt op = .ok () :=
    attempt_eq_ok.mpr (quiet c op read)
  have found : Gives calm (db.findProject reference) (db.tables.named? reference) := by
    unfold Database.findProject Tables.named?
    refine .guard (attempt (by simp [schemeReads])) ?_
    cases hs : searchText reference with
    | ok key => exact .inl rfl
    | error e =>
      refine .inr ⟨fun c => ?_, _, rfl⟩
      obtain ⟨key, ok⟩ := searched c
      cases hs.symm.trans ok
  refine found.bind ?_
  cases db.tables.named? reference with
  | none => exact .pure _
  | some q =>
    exact .guard (attempt (by simp [schemeReads]))
      (.guard (attempt (by simp [schemeReads])) (.pure _))

theorem update_follows {db : Database} {payload : Fields} {level : Value} (p : Principal)
    (said : (payload.get "referenceNumber").truthy = true)
    (h : calm → Readable db payload level) :
    Follows calm (update db.reads payload p level (payload.get "referenceNumber"))
      (match db.tables.named? (payload.get "referenceNumber") with
      | none => .error projectUnknown
      | some q =>
        judge (updateRequirements db.tables payload p level (db.tables.record q))
          (acceptance
            (if movesArea payload (db.tables.record q) then
              db.tables.withParents (payload.get "areaId")
            else none) (db.tables.record q))) := by
  have areas (c : calm) (i : Int) (sought : db.tables.Seeks payload i) :
      db.faults (.readArea i) = none := (h c).quiet _ (.area sought)
  have scheme (c : calm) (op : Operation) (read : op ∈ schemeReads) : db.faults op = none :=
    (h c).quiet _ (.scheme read)
  rw [update, reads_project]
  refine .value (.lift (project_gives scheme fun c => (h c).reference)) ?_
  cases named : db.tables.named? (payload.get "referenceNumber") with
  | none => exact .reject _
  | some q =>
    obtain ⟨mem, some⟩ := reference_of_named? said named
    have owned : ∀ i ∈ (db.tables.record q).areaId, db.tables.Seeks payload i := by
      intro i own
      obtain ⟨l, owner, rfl⟩ := Option.map_eq_some_iff.mp own
      exact .inr (.inr ⟨l, List.mem_of_find?_eq_some owner, rfl⟩)
    have years (c : calm) := (h c).storedYears q mem
    have listed : updateRequirements db.tables payload p level (db.tables.record q) =
        [_, _] ++ ([_] ++ ([_] ++ (_ ++ _))) := rfl
    simp only [Option.map_some, listed]
    refine .value (currentArea_follows areas parents_sought owned) ?_
    refine follows_append (refuseUpdate_follows p _) ?_
    refine follows_append (checkName_follows (fun c => (h c).quiet _ .name) (fun c => (h c).name)
      (.inr ⟨db.tables.record q, rfl, some, fun _ => rfl⟩)) ?_
    refine follows_append (checkYears_follows (fun c => (h c).sentYears) years) ?_
    refine follows_append
      (checkAreaChange_follows areas parents_sought p _ fun _ key => .inl key) ?_
    refine .value (.lift (checkPayload_gives (fun c => (h c).level) (fun c => (h c).dates) years))
      ?_
    exact follows_last (rejectSome_follows _) rfl

theorem decideProposal_follows {db : Database} {payload : Fields} {level : Value} (p : Principal)
    (h : calm → Readable db payload level) :
    Follows calm (decideProposal db.reads payload p level)
      (expected db.tables payload p level) := by
  unfold decideProposal expected
  dsimp only
  by_cases said : (payload.get "referenceNumber").truthy = true
  · simp only [said, if_true, Bool.not_true]
    exact update_follows p said h
  · simp only [said, Bool.not_false]
    exact create_follows p h

theorem expected_of_accepted {db : Database} {payload : Fields} {p : Principal} {level : Value}
    {a : Acceptance} (accepted : decideProposal db.reads payload p level = .ok a) :
    expected db.tables payload p level = .ok a := by
  have follows : Follows False (decideProposal db.reads payload p level)
      (expected db.tables payload p level) := decideProposal_follows p False.elim
  rw [accepted] at follows
  rcases follows with agreed | ⟨-, f, stopped⟩
  · exact mapError_eq_ok.mp agreed.symm
  · cases stopped

/-- `decideProposal` returns what `expected` returns, unless a read or a conversion stops it with a
fault. No fault stops it when `Readable` gives that the database answers and the values convert. -/
theorem decideProposal_eq_expected (db : Database) (payload : Fields) (p : Principal)
    (level : Value) :
    ((∀ f, decideProposal db.reads payload p level ≠ .error (.fault f)) →
        decideProposal db.reads payload p level =
          (expected db.tables payload p level).mapError .failure) ∧
      (Readable db payload level →
        decideProposal db.reads payload p level =
          (expected db.tables payload p level).mapError .failure) := by
  have follows := decideProposal_follows p (id : Readable db payload level → _)
  constructor
  · intro runs
    rcases follows with agreed | ⟨-, f, stopped⟩
    · exact agreed
    · exact absurd stopped (runs f)
  · intro readable
    rcases follows with agreed | ⟨wild, -⟩
    · exact agreed
    · exact absurd readable wild

theorem decideProposal_eq_expected_dyke :
    let dyke : Project :=
      { id := 1, reference := "ANC501E/000A/001A", slug := "anc501e-000a-001a"
        columns := [("name", .text "Dyke"), ("earliest_start_year", .int 2025),
          ("project_end_financial_year", .int 2030)]
        createdAt := "", updatedAt := "" }
    let areas : List Area :=
      [{ id := 1, name := "Anglian PSO North", type := "PSO Area", subType := some "AN" },
        { id := 2, name := "Norfolk County Council", type := "RMA", parentId := some 1 }]
    let db : Database :=
      { tables := { areas, projects := [dyke], states := [⟨1, "draft"⟩], links := [⟨1, 2, true⟩] } }
    let p : Principal := ⟨.int 1, false, true, [⟨.int 2, true, some "RMA", none⟩]⟩
    let last (year : Int) : Fields :=
      [("referenceNumber", .text "ANC501E/000A/001A"), ("financialEndYear", .int year)]
    let level := Value.text "FINANCIAL_END_YEAR"
    (∀ year ∈ [2027, 2024], Readable db (last year) level) ∧
      (∀ f, decideProposal db.reads (last 2027) p level ≠ .error (.fault f)) ∧
      decideProposal db.reads (last 2027) p level = .ok (acceptance none (db.tables.record dyke)) ∧
      decideProposal db.reads (last 2024) p level = .error (.failure (endBeforeStart 2025 2024)) := by
  intro dyke areas db p last level
  have unsent : ∀ m ∈ Timeline.milestones, m.monthField ∉ ["referenceNumber", "financialEndYear"] ∧
      m.yearField ∉ ["referenceNumber", "financialEndYear"] := by decide
  have absent (year : Int) {name : String}
      (other : name ∉ ["referenceNumber", "financialEndYear"]) :
      ((last year).get name).Countable := by
    simp only [List.mem_cons, List.not_mem_nil, or_false, not_or] at other
    rw [Fields.get, Fields.get?_cons, if_neg other.1, Fields.get?_cons, if_neg other.2]
    exact ⟨none, rfl, rfl⟩
  have counts (year : Int) (small : Number.isWritable year = true) : (Value.int year).Countable :=
    ⟨some year, rfl, by rw [Option.all_some, small]⟩
  have readable : ∀ year ∈ [2027, 2024], Readable db (last year) level := by
    intro year mem
    have small : ∀ year ∈ [2027, 2024], Number.isWritable year = true := by decide +kernel
    exact
      { quiet := fun _ _ => rfl
        reference := ⟨some "ANC501E/000A/001A", rfl⟩
        name := .inl rfl
        level := rfl
        sentYears := ⟨absent year (by decide), counts year (small year mem)⟩
        dates := fun m mem => ⟨absent year (unsent m mem).1, absent year (unsent m mem).2⟩
        storedYears := List.forall_mem_singleton.mpr
          ⟨counts 2025 (by decide +kernel), counts 2030 (by decide +kernel)⟩ }
  let asks (year : Int) : List Requirement :=
    updateRequirements db.tables (last year) p level (db.tables.record dyke)
  have judged (year : Int) : expected db.tables (last year) p level =
      Requirement.judge (asks year) (acceptance none (db.tables.record dyke)) := by
    have named : ((last year).get "referenceNumber").truthy = true := rfl
    have found : db.tables.named? ((last year).get "referenceNumber") = some dyke := rfl
    have stays : movesArea (last year) (db.tables.record dyke) = false := rfl
    rw [expected_named named found, stays]
    rfl
  have met : Requirement.unmet? (asks 2027) = none := by decide +kernel
  have unmet : Requirement.unmet? (asks 2024) = some (endBeforeStart 2025 2024) := by decide +kernel
  obtain ⟨-, agreed⟩ := decideProposal_eq_expected db (last 2027) p level
  obtain ⟨-, refused⟩ := decideProposal_eq_expected db (last 2024) p level
  have accepts : decideProposal db.reads (last 2027) p level =
      .ok (acceptance none (db.tables.record dyke)) := by
    rw [agreed (readable 2027 (by decide)), judged, Requirement.judge, met]
    rfl
  have runs : ∀ f, decideProposal db.reads (last 2027) p level ≠ .error (.fault f) := by
    rw [accepts]
    intro f stopped
    cases stopped
  refine ⟨readable, runs, accepts, ?_⟩
  rw [refused (readable 2024 (by decide)), judged, Requirement.judge, unmet]
  rfl

end Decision
end FloodScheme
