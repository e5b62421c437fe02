import FloodScheme.Proofs.Decision.Converted
import FloodScheme.Proofs.Level.Gates
import FloodScheme.Proofs.Service.Window
import FloodScheme.Proofs.Store.Caller
import FloodScheme.Proofs.Timeline.FinancialYear

/-! Faults of `decideProposal`. Names, years and dates can stop it in a payload that no level has
accepted; in an accepted payload only a failing operation of the database can. -/
namespace FloodScheme
open Outcome Number

namespace Outcome

variable {ε α β : Type} {cause : ε → Prop}

/-- If a computation stops, it does so for one of the causes. -/
def StopsFor (cause : ε → Prop) (x : Except ε α) : Prop := ∀ e, x = .error e → cause e

namespace StopsFor

theorem of_ok {x : Except ε α} {a : α} (h : x = .ok a) : StopsFor cause x := by
  intro e stopped
  cases h.symm.trans stopped

theorem bind {x : Except ε α} {f : α → Except ε β} (first : StopsFor cause x)
    (rest : ∀ a, x = .ok a → StopsFor cause (f a)) : StopsFor cause (x >>= f) := by
  intro e stopped
  rcases bind_eq_error.mp stopped with stopped | ⟨a, reached, stopped⟩
  · exact first e stopped
  · exact rest a reached e stopped

theorem map {x : Except ε α} {f : α → β} (h : StopsFor cause x) : StopsFor cause (x.map f) := by
  cases x with
  | error e =>
    intro e' stopped
    exact h e' (congrArg Except.error (Except.error.inj stopped))
  | ok a => exact of_ok rfl

end StopsFor

theorem Gives.eq_of_ok {calm : Prop} {x : Except ε α} {a b : α} (h : Gives calm x a)
    (reached : x = .ok b) : b = a := by
  rcases h with same | ⟨-, e, stopped⟩
  · exact Except.ok.inj (reached.symm.trans same)
  · cases reached.symm.trans stopped

end Outcome

/-- An operation that is asked for fails. -/
inductive Database.Fails (db : Database) (asked : Operation → Prop) : Fault → Prop
  | operation {op : Operation} {g : StoreFault} (ask : asked op) (failed : db.faults op = some g) :
    Fails db asked (.store g)

namespace Database

variable {db : Database} {asked : Operation → Prop}

theorem not_fails (quiet : ∀ op, asked op → db.faults op = none) {f : Fault} :
    ¬ db.Fails asked f := by
  rintro ⟨ask, failed⟩
  cases (quiet _ ask).symm.trans failed

theorem attempt_stops {op : Operation} (ask : asked op) :
    StopsFor (db.Fails asked) (db.attempt op) := by
  intro f stopped
  unfold attempt Faults.attempt at stopped
  split at stopped
  · next g failed =>
    cases stopped
    exact .operation ask failed
  · cases stopped

theorem area_stops {id : Value} (ask : ∀ i ∈ id.key?, asked (.readArea i)) :
    StopsFor (db.Fails asked) (db.area id) := by
  unfold area
  cases key : id.key? with
  | none => exact .of_ok rfl
  | some i => exact (attempt_stops (ask i key)).bind fun _ _ => .of_ok rfl

theorem nameTaken_stops (ask : asked .searchName) (s : String) {excluded : Value}
    (searched : ∃ key, searchText excluded = .ok key) :
    StopsFor (db.Fails asked) (db.nameTaken (.text s) excluded) := by
  obtain ⟨key, searched⟩ := searched
  refine (attempt_stops ask).bind fun _ _ => ?_
  simp only [searched]
  split
  · exact .of_ok rfl
  · exact .of_ok rfl

theorem project_stops (ask : ∀ op ∈ schemeReads, asked op) {reference : Value}
    (searched : ∃ key, searchText reference = .ok key) :
    StopsFor (db.Fails asked) (db.project reference) := by
  obtain ⟨key, searched⟩ := searched
  have attempt {op : Operation} (read : op ∈ schemeReads) :
      StopsFor (db.Fails asked) (db.attempt op) := attempt_stops (ask op read)
  unfold project findProject
  rw [searched]
  refine .bind ((attempt (by simp [schemeReads])).bind fun _ _ => .of_ok rfl) fun found _ => ?_
  cases found with
  | none => exact .of_ok rfl
  | some q =>
    exact (attempt (by simp [schemeReads])).bind fun _ _ =>
      (attempt (by simp [schemeReads])).bind fun _ _ => .of_ok rfl

end Database

namespace Hierarchy

variable {db : Database} {asked : Operation → Prop}
  (parents : ∀ a ∈ db.tables.areas, ∀ i ∈ a.parentId, asked (.readArea i))
include parents

theorem parentOfType_stops {a : Area} (mem : a ∈ db.tables.areas) (type : String) :
    StopsFor (db.Fails asked) (parentOfType db.area a type) := by
  unfold parentOfType
  cases above : a.parentId with
  | none => exact .of_ok rfl
  | some i =>
    refine .bind (Database.area_stops fun j key => ?_) fun _ _ => .of_ok rfl
    rw [← Value.eq_of_key?_int key]
    exact parents a mem i above

theorem psoOf_stops {a : Area} (mem : a ∈ db.tables.areas) :
    StopsFor (db.Fails asked) (psoOf db.area a) := by
  unfold psoOf
  split
  · exact .of_ok rfl
  · split
    · exact parentOfType_stops parents mem _
    · exact .of_ok rfl

theorem withParents_stops {id : Value} (ask : ∀ i ∈ id.key?, asked (.readArea i)) :
    StopsFor (db.Fails asked) (withParents db.area id) := by
  unfold withParents
  refine (Database.area_stops ask).bind fun found read => ?_
  have gives : Gives False (db.area id) (db.tables.area? id) := area_gives False.elim ask
  have row := gives.eq_of_ok read
  cases found with
  | none => exact .of_ok rfl
  | some a =>
    have mem := Tables.mem_of_area? row.symm
    refine (psoOf_stops parents mem).bind fun above read => ?_
    have gives : Gives False (psoOf db.area a) (db.tables.pso? a) :=
      psoOf_gives False.elim parents mem
    have own := gives.eq_of_ok read
    cases above with
    | none => exact .of_ok rfl
    | some pso =>
      exact (parentOfType_stops parents (Tables.mem_of_pso? mem own.symm) _).bind
        fun _ _ => .of_ok rfl

end Hierarchy

/-- A fault has the cause; failures are not faults. -/
def Halt.HasCause (cause : Fault → Prop) : Halt → Prop
  | failure _ => True
  | fault f => cause f

/-- The columns of the financial years are of whole numbers, and may be left empty. -/
def Tables.WholeYears (t : Tables) : Prop :=
  ∀ x ∈ t.projects, ∀ column ∈ ["earliest_start_year", "project_end_financial_year"],
    x.column column = .null ∨ ∃ i, x.column column = .int i ∧ ColumnType.isWord i = true

theorem Tables.WholeYears.countable {t : Tables} (h : t.WholeYears) {x : Project}
    (mem : x ∈ t.projects) {column : String}
    (year : column ∈ ["earliest_start_year", "project_end_financial_year"]) :
    (x.column column).Countable := by
  rcases h x mem column year with null | ⟨i, own, word⟩
  · rw [null]
    exact ⟨none, rfl, rfl⟩
  · rw [own]
    exact ⟨some i, rfl, by rw [Option.all_some, isWritable_of_word word]⟩

namespace Decision

variable {α : Type} {cause : Fault → Prop} {db : Database} {payload : Fields} {p : Principal}

theorem lift_stops {r : Except Fault α} (h : StopsFor cause r) :
    StopsFor (Halt.HasCause cause) (lift r) := by
  intro e stopped
  obtain ⟨f, failed, rfl⟩ := mapError_eq_error.mp stopped
  exact h f failed

theorem reject_stops (f : Failure) : StopsFor (Halt.HasCause cause) (reject f : Except Halt α) := by
  intro e stopped
  cases stopped
  trivial

theorem rejectSome_stops (f : Option Failure) : StopsFor (Halt.HasCause cause) (rejectSome f) := by
  cases f with
  | none => exact .of_ok rfl
  | some f => exact reject_stops f

theorem Follows.stopsFor {x : Except Halt α} {y : Except Failure α} (h : Follows True x y) :
    StopsFor (Halt.HasCause cause) x := by
  intro e stopped
  rcases h with same | ⟨wild, -⟩
  · obtain ⟨f, -, rfl⟩ := mapError_eq_error.mp (same.symm.trans stopped)
    trivial
  · exact absurd trivial wild

section
variable (readable : Converts payload)
include readable

theorem checkName_stops (existing : Option ProjectRecord) :
    StopsFor (Halt.HasCause (db.Fails (db.tables.Asks payload)))
      (checkName db.reads payload existing) := by
  unfold checkName
  split
  · next said =>
    rcases readable.texts "name" (by decide) with unnamed | ⟨s, named⟩
    · rw [isPresent, unnamed] at said
      cases said
    · rw [named]
      have searched : ∃ key, searchText (existing.elim .null fun p => .text p.reference) =
          .ok key := by
        cases existing with
        | none => exact ⟨_, rfl⟩
        | some e => exact ⟨_, rfl⟩
      refine (lift_stops (Database.nameTaken_stops .name s searched)).bind fun taken _ => ?_
      cases taken with
      | true => exact reject_stops _
      | false => exact .of_ok rfl
  · exact .of_ok rfl

theorem checkYears_stops (existing : Option ProjectRecord)
    (stored : (existing.elim .null ProjectRecord.startYear).Countable ∧
      (existing.elim .null ProjectRecord.endYear).Countable) :
    StopsFor (Halt.HasCause cause) (checkYears payload existing) :=
  (checkYears_follows (fun _ => ⟨readable.numbers _ (by decide), readable.numbers _ (by decide)⟩)
    fun _ => stored).stopsFor

theorem checkPayload_stops {level : String} {start stop : Value}
    (stored : start.Countable ∧ stop.Countable) :
    StopsFor cause (Timeline.checkPayload payload (.text level) start stop) := by
  have dates : ∀ m ∈ Timeline.milestones,
      m.monthField ∈ numberFields ∧ m.yearField ∈ numberFields := by decide
  have gives : Gives True (Timeline.checkPayload payload (.text level) start stop) _ :=
    checkPayload_gives (fun _ => rfl)
      (fun _ m mem => ⟨readable.numbers _ (dates m mem).1, readable.numbers _ (dates m mem).2⟩)
      fun _ => stored
  rcases gives with same | ⟨wild, -⟩
  · exact .of_ok same
  · exact absurd trivial wild

end

theorem parents_asked {t : Tables} :
    ∀ a ∈ t.areas, ∀ i ∈ a.parentId, t.Asks payload (.readArea i) :=
  fun a mem i above => .area (parents_sought a mem i above)

theorem resolveArea_stops :
    StopsFor (Halt.HasCause (db.Fails (db.tables.Asks payload)))
      (resolveArea db.reads (payload.get "areaId")) := by
  rw [resolveArea, reads_area]
  refine (lift_stops (Hierarchy.withParents_stops parents_asked
    fun i key => .area (.inl key))).bind fun found _ => ?_
  cases found with
  | none => exact reject_stops _
  | some a =>
    dsimp only
    split
    · exact reject_stops _
    · split
      · exact reject_stops _
      · exact .of_ok rfl

theorem create_stops (readable : Converts payload) :
    StopsFor (Halt.HasCause (db.Fails (db.tables.Asks payload))) (create db.reads payload p) :=
  (rejectSome_stops _).bind fun _ _ => (checkName_stops readable none).bind fun _ _ =>
    (checkYears_stops readable none ⟨⟨none, rfl, rfl⟩, ⟨none, rfl, rfl⟩⟩).bind fun _ _ =>
      resolveArea_stops.bind fun _ _ => .of_ok rfl

theorem currentArea_stops {existing : ProjectRecord}
    (owner : ∀ i ∈ existing.areaId, ∃ l ∈ db.tables.links, l.areaId = i) :
    StopsFor (Halt.HasCause (db.Fails (db.tables.Asks payload)))
      (currentArea db.reads existing) := by
  rw [currentArea, reads_area]
  cases own : existing.areaId with
  | none => exact .of_ok rfl
  | some i =>
    refine lift_stops (Hierarchy.withParents_stops parents_asked fun j key => ?_)
    rw [← Value.eq_of_key?_int key]
    exact .area (.inr (.inr (owner i own)))

theorem checkAreaChange_stops (existing : ProjectRecord) :
    StopsFor (Halt.HasCause (db.Fails (db.tables.Asks payload)))
      (checkAreaChange db.reads payload p existing) := by
  unfold checkAreaChange
  dsimp only
  split
  · split
    · exact reject_stops _
    · exact resolveArea_stops.map
  · exact .of_ok rfl

theorem update_stops {level : String} (readable : Converts payload)
    (years : db.tables.WholeYears) {reference : Value}
    (searched : ∃ key, searchText reference = .ok key) :
    StopsFor (Halt.HasCause (db.Fails (db.tables.Asks payload)))
      (update db.reads payload p (.text level) reference) := by
  rw [update, reads_project]
  have asks : ∀ op ∈ schemeReads, db.tables.Asks payload op := fun _ read => .scheme read
  refine (lift_stops (Database.project_stops asks searched)).bind fun found read => ?_
  have gives : Gives False (db.project reference)
      ((db.tables.named? reference).map db.tables.record) := project_gives False.elim False.elim
  have row := gives.eq_of_ok (mapError_eq_ok.mp read)
  cases found with
  | none => exact reject_stops _
  | some existing =>
    obtain ⟨q, named, rfl⟩ := Option.map_eq_some_iff.mp row.symm
    obtain ⟨key, -, project⟩ := named?_eq_some named
    have mem : q ∈ db.tables.projects := List.mem_of_find?_eq_some project
    have stored : (db.tables.record q).startYear.Countable ∧
        (db.tables.record q).endYear.Countable :=
      ⟨years.countable mem (by decide), years.countable mem (by decide)⟩
    refine (currentArea_stops fun i own => ?_).bind fun current _ =>
      (rejectSome_stops _).bind fun _ _ => (checkName_stops readable _).bind fun _ _ =>
      (checkYears_stops readable (some _) stored).bind fun _ _ =>
      (checkAreaChange_stops _).bind fun _ _ =>
      (lift_stops (checkPayload_stops readable stored)).bind fun _ _ =>
      (rejectSome_stops _).bind fun _ _ => .of_ok rfl
    obtain ⟨l, owner, rfl⟩ := Option.map_eq_some_iff.mp own
    exact ⟨l, List.mem_of_find?_eq_some owner, rfl⟩

theorem decideProposal_stops {level : String} (readable : Converts payload)
    (years : db.tables.WholeYears) :
    StopsFor (Halt.HasCause (db.Fails (db.tables.Asks payload)))
      (decideProposal db.reads payload p (.text level)) := by
  unfold decideProposal
  dsimp only
  split
  · refine update_stops readable years ?_
    rcases readable.texts "referenceNumber" (by decide) with unnamed | ⟨s, named⟩
    · rw [unnamed]
      exact ⟨_, rfl⟩
    · rw [named]
      exact ⟨_, rfl⟩
  · exact create_stops readable

theorem create_notText (allowed : refuseCreate? p (payload.get "areaId") = none)
    (said : isPresent payload "name" = true) (other : ∀ s, payload.get "name" ≠ .text s) :
    create db.reads payload p = .error (.fault .notText) := by
  have stopped (excluded : Value) :
      db.nameTaken (payload.get "name") excluded = .error .notText := by
    unfold Database.nameTaken
    split
    · next s named => exact absurd named (other s)
    · rfl
  have named : checkName db.reads payload none = .error (.fault .notText) := by
    rw [checkName, if_pos said]
    change (lift (db.nameTaken (payload.get "name") .null) >>= _) = _
    rw [stopped]
    rfl
  rw [create, allowed, named]
  rfl

theorem create_unbounded (allowed : refuseCreate? p (payload.get "areaId") = none)
    (unnamed : isPresent payload "name" = false) {negative : Bool}
    (infinite : payload.get "financialStartYear" = .float (.infinity negative)) :
    create db.reads payload p = .error (.fault .unbounded) := by
  have named : checkName db.reads payload none = .ok () := by
    rw [checkName, unnamed]
    rfl
  have years : checkYears payload none = .error (.fault .unbounded) := by
    unfold checkYears yearsToCompare isPresent
    rw [infinite]
    rfl
  rw [create, allowed, named, years]
  rfl

theorem update_unbounded {m : Milestone} (mem : m ∈ Timeline.milestones) {reference : Value}
    {x : ProjectRecord} (found : db.project reference = .ok (some x))
    {a : Option AreaWithParents} (current : currentArea db.reads x = .ok a)
    (allowed : refuseUpdate? p a = none)
    (silent : ∀ name ∈ ["name", "areaId", "financialStartYear", "financialEndYear"],
      isPresent payload name = false) {negative : Bool}
    (infinite : payload.get m.monthField = .float (.infinity negative)) :
    update db.reads payload p (.text m.level) reference = .error (.fault .unbounded) := by
  have own : Timeline.milestone? (.text m.level) = .ok (some m) :=
    congrArg Except.ok (Timeline.milestone_own m mem)
  have named : checkName db.reads payload (some x) = .ok () := by
    rw [checkName, silent "name" (by decide)]
    rfl
  have years : checkYears payload (some x) = .ok () := by
    unfold checkYears
    rw [silent "financialStartYear" (by decide), silent "financialEndYear" (by decide)]
    rfl
  have stays : checkAreaChange db.reads payload p x = .ok none := by
    unfold checkAreaChange
    rw [silent "areaId" (by decide)]
    rfl
  have dates : Timeline.checkPayload payload (.text m.level) x.startYear x.endYear =
      .error .unbounded := by
    rw [Timeline.checkPayload, own]
    change Timeline.check (payload.get m.monthField) (payload.get m.yearField) (.text m.level)
      x.startYear x.endYear = _
    rw [Timeline.check, own, infinite]
    rfl
  have rights : rejectSome ((refuseUpdate? p a).map updateRefused) = .ok () := by
    rw [allowed]
    rfl
  rw [update, reads_project, found]
  refine bind_eq_error.mpr (.inr ⟨some x, rfl, bind_eq_error.mpr (.inr ⟨a, current, ?_⟩)⟩)
  refine bind_eq_error.mpr (.inr ⟨(), rights, bind_eq_error.mpr (.inr ⟨(), named, ?_⟩)⟩)
  refine bind_eq_error.mpr (.inr ⟨(), years, bind_eq_error.mpr (.inr ⟨none, stays, ?_⟩)⟩)
  exact bind_eq_error.mpr (.inl (congrArg lift dates))

/-- If `Catalogue.registry.validate` accepts a JSON payload at a level, then `decideProposal` at
that level returns what `expected` returns, or stops with the fault of a database operation that it
asks for and that fails. Without that validation a name that is not a text stops `decideProposal`,
and so does an infinite year or month. -/
theorem accepted_faultless :
    (∀ (level : String) (payload : Fields) (db : Database) (p : Principal),
      (Value.object payload).FromJson →
      Catalogue.registry.validate (.text level) payload = .ok [] → db.tables.WholeYears →
        (decideProposal db.reads payload p (.text level) =
            (expected db.tables payload p (.text level)).mapError .failure ∨
          ∃ f, decideProposal db.reads payload p (.text level) = .error (.fault f) ∧
            db.Fails (db.tables.Asks payload) f) ∧
        ((∀ op, db.tables.Asks payload op → db.faults op = none) →
          decideProposal db.reads payload p (.text level) =
            (expected db.tables payload p (.text level)).mapError .failure)) ∧
    (∀ (payload : Fields) (db : Database) (p : Principal) (level : Value),
      (payload.get "referenceNumber").truthy = false →
      refuseCreate? p (payload.get "areaId") = none →
        (isPresent payload "name" = true → (∀ s, payload.get "name" ≠ .text s) →
          decideProposal db.reads payload p level = .error (.fault .notText)) ∧
        (isPresent payload "name" = false → ∀ negative,
          payload.get "financialStartYear" = .float (.infinity negative) →
            decideProposal db.reads payload p level = .error (.fault .unbounded))) ∧
    ∀ (payload : Fields) (db : Database) (p : Principal), ∀ m ∈ Timeline.milestones, ∀ x a,
      (payload.get "referenceNumber").truthy = true →
      db.project (payload.get "referenceNumber") = .ok (some x) →
      currentArea db.reads x = .ok a → refuseUpdate? p a = none →
      (∀ name ∈ ["name", "areaId", "financialStartYear", "financialEndYear"],
        isPresent payload name = false) →
      ∀ negative, payload.get m.monthField = .float (.infinity negative) →
        decideProposal db.reads payload p (.text m.level) = .error (.fault .unbounded) := by
  refine ⟨fun level payload db p json accepted years => ?_,
    fun payload db p level new allowed => ⟨fun said other => ?_, fun unnamed _ infinite => ?_⟩,
    fun payload db p m mem x a named found current allowed silent _ infinite => ?_⟩
  · obtain ⟨l, found, -⟩ := Catalogue.validate_eq_ok accepted
    obtain ⟨mem, rfl⟩ := Registry.find?_eq_some found
    obtain ⟨kept, -, accepts⟩ := Catalogue.accepts_of_validate mem accepted
    have agreed := (decideProposal_eq_expected db payload p (.text l.name)).1
    have stops : ∀ f, decideProposal db.reads payload p (.text l.name) = .error (.fault f) →
        db.Fails (db.tables.Asks payload) f :=
      fun f => decideProposal_stops (accepts.converts mem json) years (.fault f)
    constructor
    · by_cases faulty : ∃ f, decideProposal db.reads payload p (.text l.name) = .error (.fault f)
      · obtain ⟨f, stopped⟩ := faulty
        exact .inr ⟨f, stopped, stops f stopped⟩
      · exact .inl (agreed fun f stopped => faulty ⟨f, stopped⟩)
    · exact fun quiet => agreed fun f stopped => Database.not_fails quiet (stops f stopped)
  · rw [decideProposal, new]
    exact create_notText allowed said other
  · rw [decideProposal, new]
    exact create_unbounded allowed unnamed infinite
  · rw [decideProposal, named]
    exact update_unbounded mem found current allowed silent infinite

open Service in
theorem accepted_faultless_dyke :
    let db : Database := ⟨(norfolkWith (dyke [])).tables, Faults.none⟩
    let p : Principal := ⟨.int 1, true, false, []⟩
    let month (v : Value) := (dykeStep "START_OUTLINE_BUSINESS_CASE"
      [("startOutlineBusinessCaseMonth", v), ("startOutlineBusinessCaseYear", .int 2026)]).payload
    let level := Value.text "START_OUTLINE_BUSINESS_CASE"
    let far := (dykeStep "PROJECT_AREA" [("areaId", .int 9223372036854775808)]).payload
    (∀ payload ∈ [month (.text "5"), far], (Value.object payload).FromJson) ∧
      Catalogue.registry.validate level (month (.text "5")) = .ok [] ∧
      Catalogue.registry.validate (.text "PROJECT_AREA") far = .ok [] ∧
      db.tables.WholeYears ∧
      (∃ a, decideProposal db.reads (month (.text "5")) p level = .ok a) ∧
      decideProposal db.reads far p (.text "PROJECT_AREA") = .error (.failure areaUnknown) ∧
      decideProposal db.reads (month (.float (.infinity false))) p level =
        .error (.fault .unbounded) := by
  intro db p month level far
  obtain ⟨runs, -, unchecked⟩ := accepted_faultless
  have monthJson : (Value.object (month (.text "5"))).FromJson := by
    refine .object (List.forall_mem_cons.mpr ⟨.text _, List.forall_mem_cons.mpr ⟨.text _,
      List.forall_mem_singleton.mpr (.int ?_)⟩⟩)
    exact isWritable_of_word rfl
  have farJson : (Value.object far).FromJson := by
    refine .object (List.forall_mem_cons.mpr ⟨.text _, List.forall_mem_singleton.mpr (.int ?_)⟩)
    decide +kernel
  have read : Catalogue.registry.validate level (month (.text "5")) = .ok [] := rfl
  have sought : Catalogue.registry.validate (.text "PROJECT_AREA") far = .ok [] := rfl
  have years : db.tables.WholeYears := by
    refine List.forall_mem_singleton.mpr (List.forall_mem_cons.mpr
      ⟨.inr ⟨2025, rfl, rfl⟩, List.forall_mem_singleton.mpr (.inr ⟨2030, rfl, rfl⟩)⟩)
  refine ⟨List.forall_mem_cons.mpr ⟨monthJson, List.forall_mem_singleton.mpr farJson⟩, read, sought,
    years, ?_, ?_, ?_⟩
  · exact ⟨_, (runs _ _ db p monthJson read years).2 fun _ _ => rfl⟩
  · have agreed := (runs _ _ db p farJson sought years).2 fun _ _ => rfl
    have unmet : Requirement.unmet? (updateRequirements db.tables far p (.text "PROJECT_AREA")
        (db.tables.record (dyke []))) = some areaUnknown := by decide +kernel
    have judged : expected db.tables far p (.text "PROJECT_AREA") = .error areaUnknown := by
      have named : (far.get "referenceNumber").truthy = true := rfl
      have found : db.tables.named? (far.get "referenceNumber") = some (dyke []) := rfl
      rw [expected_named named found, Requirement.judge, unmet]
    rw [agreed, judged]
    rfl
  · exact unchecked _ db p startOutline (by decide) _ _ rfl rfl rfl rfl (by decide) false rfl

end Decision
end FloodScheme
