import FloodScheme.Proofs.Level.Failures
import FloodScheme.Proofs.Level.Merged
import FloodScheme.Proofs.Rule.Twin

/-! The order of levels. The merged rule for a field combines its declarations in any order; for
levels that are named in another order, or more than once, `validate` reports the same fields with
the same codes and `strip` returns the same payload. -/
namespace FloodScheme

/-- The same reports, or the same fault. -/
def SameReports : Except Fault (List Failure) → Except Fault (List Failure) → Prop
  | .ok fs, .ok gs => ∀ report, report ∈ fs.map Failure.report ↔ report ∈ gs.map Failure.report
  | .error e, .error e' => e = e'
  | _, _ => False

theorem any_clashesWith_eq_false [Library] {rules : List Rule} {payload : Fields}
    (numeric : ∀ m ∈ rules, m.Numeric) : ((rules.filter (·.isActive payload)).any fun r =>
      Library.hasField r.name && (payload.get? r.name).any r.clashesWith) = false := by
  refine List.any_eq_false.mpr fun m listed clash => ?_
  obtain ⟨v, -, clash⟩ := (Option.any_eq_true _ _).mp (Bool.and_eq_true_iff.mp clash).2
  rw [Rule.clashesWith_eq_false (numeric m (List.mem_filter.mp listed).1)] at clash
  cases clash

/-- Each rule has a `Twin` in the other list. -/
def Paired (rules rules' : List Rule) : Prop := ∀ m ∈ rules, ∃ m' ∈ rules', m.Twin m'

/-- Lists of `Twin`s are refused alike, whatever the order of the rules. -/
def Library.Impartial [Library] : Prop := ∀ rules rules', Paired rules rules' →
  Paired rules' rules → Library.refusal? rules = Library.refusal? rules'

namespace Paired

variable {rules rules' : List Rule} {payload : Fields} {f : Failure}

theorem declares (there : Paired rules rules') (back : Paired rules' rules) (name : String) :
    declares rules name = declares rules' name := by
  rw [Bool.eq_iff_iff, declares_iff, declares_iff]
  constructor
  · rintro ⟨m, mem, own⟩
    obtain ⟨m', mem', twin⟩ := there m mem
    exact ⟨m', mem', twin.name.symm.trans own⟩
  · rintro ⟨m, mem, own⟩
    obtain ⟨m', mem', twin⟩ := back m mem
    exact ⟨m', mem', twin.name.symm.trans own⟩

theorem isActive {m m' : Rule} (twin : m.Twin m') (mem : m ∈ rules) (mem' : m' ∈ rules')
    (calm : signalsTesting rules payload = false) (calm' : signalsTesting rules' payload = false) :
    m.isActive payload = m'.isActive payload :=
  Rule.isActive_of_alike twin.condition (by simpa using List.any_eq_false.mp calm m mem)
    (by simpa using List.any_eq_false.mp calm' m' mem')

theorem report [Library] (there : Paired rules rules') (back : Paired rules' rules)
    (calm : signalsTesting rules payload = false) (calm' : signalsTesting rules' payload = false)
    (reported : f ∈ forbiddenFailures rules payload ++ undeclaredFailures rules payload ++
      activeFailures rules payload) :
    ∃ g ∈ forbiddenFailures rules' payload ++ undeclaredFailures rules' payload ++
      activeFailures rules' payload, g.report = f.report := by
  rcases List.mem_append.mp reported with reported | active
  · rcases List.mem_append.mp reported with forbidden | undeclared
    · obtain ⟨m, mem, ⟨inactive, closed, given⟩, rfl⟩ := mem_forbiddenFailures.mp forbidden
      obtain ⟨m', mem', twin⟩ := there m mem
      refine ⟨_, List.mem_append_left _ (List.mem_append_left _
        (mem_forbiddenFailures.mpr ⟨m', mem', ⟨?_, ?_, ?_⟩, rfl⟩)), ?_⟩
      · rw [← isActive twin mem mem' calm calm']
        exact inactive
      · rw [← twin.forbidden]
        exact closed
      · rw [← twin.name]
        exact given
      · rw [twin.name, twin.code]
    · obtain ⟨name, sent, missing, rfl⟩ := mem_undeclaredFailures.mp undeclared
      rw [declares there back] at missing
      exact ⟨_, List.mem_append_left _ (List.mem_append_right _
        (mem_undeclaredFailures.mpr ⟨name, sent, missing, rfl⟩)), rfl⟩
  · obtain ⟨m, mem, on, failed⟩ := mem_activeFailures.mp active
    obtain ⟨m', mem', twin⟩ := there m mem
    have same : (m.failure? payload).map Failure.report =
      (m'.failure? payload).map Failure.report := twin.failure?
    rw [failed] at same
    obtain ⟨g, failed', report⟩ := Option.map_eq_some_iff.mp same.symm
    rw [isActive twin mem mem' calm calm'] at on
    exact ⟨g, List.mem_append_right _ (mem_activeFailures.mpr ⟨m', mem', on, failed'⟩), report⟩

theorem report_mem [Library] (there : Paired rules rules') (back : Paired rules' rules)
    (calm : signalsTesting rules payload = false) (calm' : signalsTesting rules' payload = false)
    (reported : f ∈ levelFailures rules payload) :
    ∃ g ∈ levelFailures rules' payload, g.report = f.report := by
  rcases List.mem_append.mp reported with reported | selection
  · obtain ⟨g, mem, same⟩ := report there back calm calm' reported
    exact ⟨g, List.mem_append_left _ mem, same⟩
  · obtain ⟨failed, fresh⟩ := List.mem_filter.mp selection
    rw [Bool.not_eq_true', List.any_eq_false] at fresh
    refine ⟨f, List.mem_append_right _ (List.mem_filter.mpr ⟨?_, ?_⟩), rfl⟩
    · rw [mainTypeFailures_congr (declares there back _)] at failed
      exact failed
    · rw [Bool.not_eq_true', List.any_eq_false]
      intro g mem field
      obtain ⟨g', mem', same⟩ := report back there calm' calm mem
      have field' : g'.field = g.field := congrArg Prod.fst same
      exact fresh g' mem' (field' ▸ field)

theorem canPrepare (back : Paired rules' rules) (numeric : ∀ m ∈ rules, m.Numeric)
    (numeric' : ∀ m ∈ rules', m.Numeric) (calm : signalsTesting rules payload = false)
    (calm' : signalsTesting rules' payload = false) (keys : canPrepare rules payload = true) :
    canPrepare rules' payload = true := by
  refine List.all_eq_true.mpr fun m' listed => ?_
  obtain ⟨mem', on⟩ := List.mem_filter.mp listed
  obtain ⟨m, mem, twin⟩ := back m' mem'
  rw [isActive twin mem' mem calm' calm] at on
  rw [twin.isKey (numeric' m' mem') (numeric m mem)]
  exact List.all_eq_true.mp keys m (List.mem_filter.mpr ⟨mem, on⟩)

theorem active (there : Paired rules rules') (calm : signalsTesting rules payload = false)
    (calm' : signalsTesting rules' payload = false) :
    Paired (rules.filter (·.isActive payload)) (rules'.filter (·.isActive payload)) := by
  intro m listed
  obtain ⟨mem, on⟩ := List.mem_filter.mp listed
  obtain ⟨m', mem', twin⟩ := there m mem
  rw [isActive twin mem mem' calm calm'] at on
  exact ⟨m', List.mem_filter.mpr ⟨mem', on⟩, twin⟩

theorem any_refuses (there : Paired rules rules') (refused : rules.any Library.refuses = true) :
    rules'.any Library.refuses = true := by
  obtain ⟨m, mem, refuses⟩ := List.any_eq_true.mp refused
  obtain ⟨m', mem', twin⟩ := there m mem
  rw [twin.refuses] at refuses
  exact List.any_eq_true.mpr ⟨m', mem', refuses⟩

theorem clashesChecking [Library] (there : Paired rules rules') (back : Paired rules' rules)
    (numeric : ∀ m ∈ rules, m.Numeric) (numeric' : ∀ m ∈ rules', m.Numeric) :
    clashesChecking rules payload = clashesChecking rules' payload := by
  unfold FloodScheme.clashesChecking mainTypeSelection?
  rw [any_clashesWith_eq_false numeric, any_clashesWith_eq_false numeric', declares there back]

theorem reports [Library] (there : Paired rules rules') (back : Paired rules' rules)
    (calm : signalsTesting rules payload = false) (calm' : signalsTesting rules' payload = false)
    (report : Option String × String) :
    report ∈ (levelFailures rules payload).map Failure.report ↔
      report ∈ (levelFailures rules' payload).map Failure.report := by
  simp only [List.mem_map]
  constructor
  · rintro ⟨f, mem, rfl⟩
    exact report_mem there back calm calm' mem
  · rintro ⟨f, mem, rfl⟩
    exact report_mem back there calm' calm mem

theorem keepActive (there : Paired rules rules') (back : Paired rules' rules)
    (apart' : (rules'.map Rule.name).Nodup)
    (calm : signalsStripping rules payload = false)
    (calm' : signalsStripping rules' payload = false) :
    keepActive rules payload = keepActive rules' payload := by
  refine List.filter_congr fun member mem => ?_
  obtain ⟨name, v⟩ := member
  have sent : name ∈ payload.names := List.mem_map.mpr ⟨_, mem, rfl⟩
  have quiet := List.any_eq_false.mp calm name sent
  have quiet' := List.any_eq_false.mp calm' name sent
  dsimp only
  cases found : rules.find? (·.name == name) with
  | none =>
    cases found' : rules'.find? (·.name == name) with
    | none => rfl
    | some m' =>
      obtain ⟨m, inside, twin⟩ := back m' (List.mem_of_find?_eq_some found')
      have named : m'.name = name := by simpa using List.find?_some found'
      have other := List.find?_eq_none.mp found m inside
      simp [← twin.name, named] at other
  | some m =>
    obtain ⟨m', inside', twin⟩ := there m (List.mem_of_find?_eq_some found)
    have named : m.name = name := by simpa using List.find?_some found
    have found' : rules'.find? (·.name == name) = some m' := by
      rw [← named, twin.name]
      exact Registry.find?_of_mem apart' inside'
    rw [found] at quiet
    rw [found'] at quiet' ⊢
    exact Rule.isActive_of_alike twin.condition (by simpa using quiet) (by simpa using quiet')

end Paired

theorem Library.rows_impartial : Library.Impartial := by
  intro rules rules' there back
  have same : rules.any Library.refuses = rules'.any Library.refuses :=
    Bool.eq_iff_iff.mpr ⟨there.any_refuses, back.any_refuses⟩
  change (if rules.any Library.refuses then _ else _) =
    if rules'.any Library.refuses then _ else _
  rw [same]

namespace Registry

variable {r : Registry} {names names' : List String} {rules rules' : List Rule} {payload : Fields}

/-- No object in a condition names a member twice. -/
def MembersOnce (r : Registry) : Prop :=
  ∀ l ∈ r.levels, ∀ d ∈ l.rules, ∀ c ∈ d.condition, c.namesOnce = true

/-- The declarations of some levels can be merged in whatever order: their bounds are numbers, and
their conditions can be compared with one another. -/
structure Comparable (r : Registry) (names : List String) : Prop where
  numeric : ∀ field, ∀ d ∈ r.declarations names field, d.Numeric
  compared : ∀ field, (r.declarations names field).Pairwise fun a b =>
    (a.sameCondition? b).isSome = true ∧ (b.sameCondition? a).isSome = true

/-- All declarations of a field are of one kind and fail with one code. -/
def Uniform (r : Registry) (names : List String) (field : String) : Prop :=
  ∀ a ∈ r.declarations names field, ∀ b ∈ r.declarations names field,
    a.kind = b.kind ∧ a.code = b.code

theorem declarations_perm (same : ∀ n, n ∈ names ↔ n ∈ names') (field : String) :
    (r.declarations names field).Perm (r.declarations names' field) := by
  have once : names.dedup.Perm names'.dedup :=
    (List.perm_ext_iff_of_nodup names.nodup_dedup names'.nodup_dedup).mpr fun n => by
      rw [List.mem_dedup, List.mem_dedup, same]
  exact ((once.filterMap r.find?).flatMap_right Level.rules).filter _

theorem Comparable.perm (h : r.Comparable names) (same : ∀ n, n ∈ names ↔ n ∈ names') :
    r.Comparable names' where
  numeric field d mem := h.numeric field d ((declarations_perm same field).mem_iff.mpr mem)
  compared field :=
    ((declarations_perm same field).pairwise_iff fun both => both.symm).mp (h.compared field)

theorem Uniform.perm {field : String} (h : r.Uniform names field)
    (same : ∀ n, n ∈ names ↔ n ∈ names') : r.Uniform names' field := fun a ha b hb =>
  h a ((declarations_perm same field).mem_iff.mpr ha) b
    ((declarations_perm same field).mem_iff.mpr hb)

theorem Comparable.merge_returns (h : r.Comparable names) (given : names ≠ [])
    (known : ∀ n ∈ names, (r.find? n).isSome = true) :
    ∃ rules, r.merge (.list (names.map .text)) = .ok rules := by
  refine ⟨_, merge_of_calm (select_names given known) ?_⟩
  have nothing : (([] : List Rule).map Rule.name).Nodup := List.nodup_nil
  refine (clashes_eq_false_iff nothing).mpr fun field => ?_
  have same := ((selected_perm r names).flatMap_right Level.rules).filter (·.name == field)
  change List.Perm _ (r.declarations names field) at same
  have compared := (same.pairwise_iff fun both => both.symm).mpr (h.compared field)
  have numeric (d : Rule) (mem : d ∈ _) : d.Numeric := h.numeric field d (same.mem_iff.mp mem)
  rw [List.find?_nil]
  generalize (((names.filterMap r.find?).foldl addLevel []).flatMap Level.rules).filter
    (·.name == field) = ds at compared numeric
  cases ds with
  | nil => rfl
  | cons d rest =>
    obtain ⟨first, others⟩ := List.forall_mem_cons.mp numeric
    exact Rule.calm_of_numeric first (.inl rfl) others fun x mem =>
      ((List.pairwise_cons.mp compared).1 x mem).1

section
variable (once : r.MembersOnce) (merged : r.merge (.list (names.map .text)) = .ok rules)
include once merged

theorem combines_of_declared {field : String} (declared : r.declarations names field ≠ [])
    (uniform : r.Uniform names field) :
    ∃ m ∈ rules, m.name = field ∧ m.Combines (r.declarations names field) := by
  refine merged_combines merged declared uniform fun d rest same all =>
    Rule.unanimous_of_head (fun x mem => ?_) all
  obtain ⟨n, -, l, found, inside, -⟩ := mem_declarations.mp (same.mem_iff.mp mem)
  exact once l (find?_eq_some found).1 x inside

theorem combines_of_mem (uniform : ∀ field, r.Uniform names field) {m : Rule} (mem : m ∈ rules) :
    m.Combines (r.declarations names m.name) := by
  obtain ⟨ds, same, joined⟩ := joined_of_mem merged mem
  have declared : r.declarations names m.name ≠ [] := by
    intro none
    rw [none] at same
    rw [same.eq_nil] at joined
    cases joined
  obtain ⟨m', mem', own, combines⟩ := combines_of_declared once merged declared (uniform m.name)
  rw [List.inj_on_of_nodup_map (merge_names_eq_ok merged m.name).1 mem mem' own.symm] at combines ⊢
  exact combines

theorem paired (uniform : ∀ field, r.Uniform names field) (same : ∀ n, n ∈ names ↔ n ∈ names')
    (merged' : r.merge (.list (names'.map .text)) = .ok rules') : Paired rules rules' := by
  intro m mem
  have combines := (combines_of_mem once merged uniform mem).perm (declarations_perm same m.name)
  obtain ⟨m', mem', -, combines'⟩ :=
    combines_of_declared once merged' combines.given ((uniform m.name).perm same)
  exact ⟨m', mem', Rule.twin_of_combines combines combines'⟩

end

theorem Comparable.numeric_of_mem (h : r.Comparable names)
    (merged : r.merge (.list (names.map .text)) = .ok rules) : ∀ m ∈ rules, m.Numeric := by
  intro m mem
  obtain ⟨ds, same, joined⟩ := joined_of_mem merged mem
  exact Rule.numeric_of_joined joined fun d inside => h.numeric _ d (same.mem_iff.mp inside)

theorem condition_of_mem {P : Condition → Prop}
    (merged : r.merge (.list (names.map .text)) = .ok rules)
    (declared : ∀ field, ∀ d ∈ r.declarations names field, ∀ c ∈ d.condition, P c) :
    ∀ m ∈ rules, ∀ c ∈ m.condition, P c := by
  intro m mem c left
  obtain ⟨ds, same, joined⟩ := joined_of_mem merged mem
  rcases Rule.condition_of_joined joined with none | ⟨d, inside, own⟩
  · rw [none] at left
    cases left
  · rw [own] at left
    exact declared _ d (same.mem_iff.mp inside) c left

theorem signalsTesting_eq_false (merged : r.merge (.list (names.map .text)) = .ok rules)
    (calm : ∀ field, ∀ d ∈ r.declarations names field, ∀ c ∈ d.condition,
      c.signals payload = false) : signalsTesting rules payload = false := by
  refine List.any_eq_false.mpr fun m mem signals => ?_
  obtain ⟨c, left, signals⟩ := (Option.any_eq_true _ _).mp signals
  rw [condition_of_mem merged calm m mem c left] at signals
  cases signals

theorem validate_of_merge [Library] {levels : Value} (merged : r.merge levels = .ok rules) :
    r.validate levels payload =
      if signalsTesting rules payload then .error .incomparable
      else if !canPrepare rules payload then .error .wrongShape
      else
        match modelRefusal? rules payload with
        | some f => .error f
        | none =>
          if clashesChecking rules payload then .error .incomparable
          else .ok (levelFailures rules payload) := by
  rw [validate, merged]
  rfl

/-- Validating the payload at these levels does not stop: condition values can be looked up in
tables, and neither testing them nor looking for the main intervention type meets a signalling
NaN. -/
structure Testable (r : Registry) (names : List String) (payload : Fields) : Prop
    extends r.Comparable names where
  keys : ∀ field, ∀ d ∈ r.declarations names field, ∀ c ∈ d.condition, c.isKey = true
  calm : ∀ field, ∀ d ∈ r.declarations names field, ∀ c ∈ d.condition, c.signals payload = false
  selection : ∀ selected, payload.get "projectInterventionTypes" = .list selected →
    (payload.get "mainInterventionType").signalsIn selected = false

/-- The library builds models of the merged rules of some levels, whichever of them are active. -/
def Builds [Library] (r : Registry) (names : List String) : Prop :=
  ∀ rules, r.merge (.list (names.map .text)) = .ok rules →
    ∀ active, active.Sublist rules → Library.refusal? active = none

theorem builds_of_readable (readable : ∀ l ∈ r.levels, ∀ d ∈ l.rules, d.Readable) :
    r.Builds names := by
  intro rules merged active sub
  have free : active.any Library.refuses = false := by
    refine List.any_eq_false.mpr fun m listed => ?_
    obtain ⟨ds, same, joined⟩ := joined_of_mem merged (sub.subset listed)
    have declared : ∀ d ∈ ds, d.Readable := fun d mem => by
      obtain ⟨n, -, l, found, inside, -⟩ := mem_declarations.mp (same.mem_iff.mp mem)
      exact readable l (find?_eq_some found).1 d inside
    rw [(Rule.readable_of_joined joined declared).not_refused]
    exact Bool.false_ne_true
  change (if active.any Library.refuses then some Fault.wrongShape else none) = none
  rw [free]
  rfl

theorem Testable.validate_returns [Library] (h : r.Testable names payload) (builds : r.Builds names)
    (given : names ≠ []) (known : ∀ n ∈ names, (r.find? n).isSome = true) :
    ∃ fs, r.validate (.list (names.map .text)) payload = .ok fs := by
  obtain ⟨rules, merged⟩ := h.merge_returns given known
  have numeric := h.numeric_of_mem merged
  refine ⟨_, validate_eq_ok.mpr ⟨rules, merged, signalsTesting_eq_false merged h.calm, ?_,
    builds rules merged _ List.filter_sublist, ?_, rfl⟩⟩
  · refine List.all_eq_true.mpr fun m listed => ?_
    have mem := (List.mem_filter.mp listed).1
    rw [Rule.isKey_of_numeric (numeric m mem)]
    exact (Option.all_eq_true _ _).mpr (condition_of_mem merged h.keys m mem)
  · rw [clashesChecking, any_clashesWith_eq_false numeric, Bool.false_or]
    unfold mainTypeSelection?
    dsimp only
    split
    · next selected found =>
      split
      · exact h.selection selected found
      · rfl
    · rfl

theorem sameReports_of_paired [Library] (there : Paired rules rules') (back : Paired rules' rules)
    (models : modelRefusal? rules payload = modelRefusal? rules' payload)
    (numeric : ∀ m ∈ rules, m.Numeric) (numeric' : ∀ m ∈ rules', m.Numeric)
    (calm : signalsTesting rules payload = false) (calm' : signalsTesting rules' payload = false)
    {levels levels' : Value} (merged : r.merge levels = .ok rules)
    (merged' : r.merge levels' = .ok rules') :
    SameReports (r.validate levels payload) (r.validate levels' payload) := by
  have keys : canPrepare rules payload = canPrepare rules' payload := Bool.eq_iff_iff.mpr
    ⟨back.canPrepare numeric numeric' calm calm', there.canPrepare numeric' numeric calm' calm⟩
  have checking : clashesChecking rules payload = clashesChecking rules' payload :=
    there.clashesChecking back numeric numeric'
  rw [validate_of_merge merged, validate_of_merge merged', calm, calm', keys, models, checking]
  cases canPrepare rules' payload with
  | false => rfl
  | true =>
    cases modelRefusal? rules' payload with
    | some f => rfl
    | none =>
      cases clashesChecking rules' payload with
      | true => rfl
      | false => exact there.reports back calm calm'

theorem Comparable.alike [Library] (comparable : r.Comparable names) (once : r.MembersOnce)
    (given : names ≠ []) (known : ∀ n ∈ names, (r.find? n).isSome = true)
    (uniform : ∀ field, r.Uniform names field) (same : ∀ n, n ∈ names ↔ n ∈ names')
    (calm : ∀ field, ∀ d ∈ r.declarations names field, ∀ c ∈ d.condition,
      c.signals payload = false) :
    (Library.Impartial ∨ r.Builds names ∧ r.Builds names' →
        SameReports (r.validate (.list (names.map .text)) payload)
          (r.validate (.list (names'.map .text)) payload)) ∧
      ∃ kept, r.strip (.list (names.map .text)) payload = .ok kept ∧
        r.strip (.list (names'.map .text)) payload = .ok kept := by
  have comparable' := comparable.perm same
  have uniform' (field : String) : r.Uniform names' field := (uniform field).perm same
  have given' : names' ≠ [] := by
    obtain ⟨n, mem⟩ := List.exists_mem_of_ne_nil names given
    exact List.ne_nil_of_mem ((same n).mp mem)
  obtain ⟨rules, merged⟩ := comparable.merge_returns given known
  obtain ⟨rules', merged'⟩ :=
    comparable'.merge_returns given' fun n mem => known n ((same n).mpr mem)
  have there := paired once merged uniform same merged'
  have back := paired once merged' uniform' (fun n => (same n).symm) merged
  have quiet := signalsTesting_eq_false merged calm
  have quiet' := signalsTesting_eq_false merged' fun field d mem =>
    calm field d ((declarations_perm same field).mem_iff.mpr mem)
  have strips := signalsStripping_of_testing quiet
  have strips' := signalsStripping_of_testing quiet'
  refine ⟨fun library => sameReports_of_paired there back ?_ (comparable.numeric_of_mem merged)
    (comparable'.numeric_of_mem merged') quiet quiet' merged merged',
    _, strip_eq_ok.mpr ⟨rules, merged, strips, rfl⟩, ?_⟩
  · rcases library with impartial | ⟨builds, builds'⟩
    · exact impartial _ _ (there.active quiet quiet') (back.active quiet' quiet)
    · exact (builds rules merged _ List.filter_sublist).trans
        (builds' rules' merged' _ List.filter_sublist).symm
  · exact strip_eq_ok.mpr ⟨rules', merged', strips',
      (there.keepActive back (merge_names_eq_ok merged' "").1 strips strips').symm⟩

/-- The rules that `merge` returns do not depend on the order of the levels or on repeated levels:
the rule of a field combines all its declarations, and merging one of the declarations again gives
a rule that combines the same. `validate` then returns the same reports or the same fault, and
`strip` the same payload, for both orders, if the library refuses models of equivalent rules alike
or refuses none. `Comparable` and `signals` exclude signalling NaNs, which stop comparisons and
which only some orders compare. -/
theorem merge_order_free [Library] (once : r.MembersOnce) (given : names ≠ [])
    (known : ∀ n ∈ names, (r.find? n).isSome = true) :
    (r.Comparable names → ∃ rules, r.merge (.list (names.map .text)) = .ok rules) ∧
    (∀ rules, r.merge (.list (names.map .text)) = .ok rules → (rules.map Rule.name).Nodup ∧
      ∀ field, r.declarations names field ≠ [] → r.Uniform names field →
        ∃ m ∈ rules, m.name = field ∧ m.Combines (r.declarations names field) ∧
          ((∀ d ∈ r.declarations names field, d.Numeric) →
            ∀ d ∈ r.declarations names field, d.agrees d = true →
              m.clashes d = false ∧ (m.merge d).Combines (r.declarations names field))) ∧
    ((∀ field, r.Uniform names field) →
      ∀ names' : List String, (∀ n, n ∈ names ↔ n ∈ names') → ∀ payload,
        (r.Comparable names →
          (∀ field, ∀ d ∈ r.declarations names field, ∀ c ∈ d.condition,
            c.signals payload = false) →
          (Library.Impartial ∨ r.Builds names ∧ r.Builds names' →
            SameReports (r.validate (.list (names.map .text)) payload)
              (r.validate (.list (names'.map .text)) payload)) ∧
          ∃ kept, r.strip (.list (names.map .text)) payload = .ok kept ∧
            r.strip (.list (names'.map .text)) payload = .ok kept) ∧
        (∀ fs gs, r.validate (.list (names.map .text)) payload = .ok fs →
          r.validate (.list (names'.map .text)) payload = .ok gs →
            ∀ report, report ∈ fs.map Failure.report ↔ report ∈ gs.map Failure.report) ∧
        ∀ kept kept', r.strip (.list (names.map .text)) payload = .ok kept →
          r.strip (.list (names'.map .text)) payload = .ok kept' → kept = kept') := by
  refine ⟨fun h => h.merge_returns given known, fun rules merged =>
    ⟨(merge_names_eq_ok merged "").1, fun field declared uniform => ?_⟩, ?_⟩
  · obtain ⟨m, mem, own, combines⟩ := combines_of_declared once merged declared uniform
    exact ⟨m, mem, own, combines, fun numeric d inside self =>
      combines.absorbs numeric inside self⟩
  intro uniform names' same payload
  have uniform' (field : String) : r.Uniform names' field := (uniform field).perm same
  refine ⟨fun comparable => comparable.alike once given known uniform same,
    fun fs gs alone other => ?_, fun kept kept' stripped stripped' => ?_⟩
  · obtain ⟨rules, merged, quiet, -, -, -, rfl⟩ := validate_eq_ok.mp alone
    obtain ⟨rules', merged', quiet', -, -, -, rfl⟩ := validate_eq_ok.mp other
    exact (paired once merged uniform same merged').reports
      (paired once merged' uniform' (fun n => (same n).symm) merged) quiet quiet'
  · obtain ⟨rules, merged, quiet, rfl⟩ := strip_eq_ok.mp stripped
    obtain ⟨rules', merged', quiet', rfl⟩ := strip_eq_ok.mp stripped'
    exact (paired once merged uniform same merged').keepActive
      (paired once merged' uniform' (fun n => (same n).symm) merged)
      (merge_names_eq_ok merged' "").1 quiet quiet'

def yearRule (first last : Int) : Rule :=
  { name := "year", kind := .integer, code := "YEAR", minimum := some (.int first),
    maximum := some (.int last) }

def yearLevels : Registry where
  levels := [⟨"EARLY", [yearRule 2020 2030]⟩, ⟨"LATE", [yearRule 2025 2040]⟩]

theorem merge_order_free_years :
    ∃ rules, yearLevels.merge (.list (["EARLY", "LATE", "EARLY"].map .text)) = .ok rules ∧
      (∃ m ∈ rules, m.name = "year" ∧
        m.Combines (yearLevels.declarations ["EARLY", "LATE", "EARLY"] "year")) ∧
      SameReports (yearLevels.validate (.list (["EARLY", "LATE", "EARLY"].map .text)) [])
        (yearLevels.validate (.list (["LATE", "EARLY"].map .text)) []) := by
  have declared : (yearLevels.mentioned ["EARLY", "LATE", "EARLY"]).flatMap Level.rules =
    [yearRule 2025 2040, yearRule 2020 2030] := rfl
  have eq_yearRule {field : String} {d : Rule}
      (mem : d ∈ yearLevels.declarations ["EARLY", "LATE", "EARLY"] field) :
      ∃ first last, d = yearRule first last := by
    have mem := (List.mem_filter.mp mem).1
    rw [declared, List.mem_pair] at mem
    rcases mem with rfl | rfl
    · exact ⟨_, _, rfl⟩
    · exact ⟨_, _, rfl⟩
  have comparable : yearLevels.Comparable ["EARLY", "LATE", "EARLY"] := by
    refine ⟨fun field d mem => ?_, fun field => ?_⟩
    · obtain ⟨first, last, rfl⟩ := eq_yearRule mem
      constructor
      · rintro b ⟨⟩
        rfl
      · rintro b ⟨⟩
        rfl
    · rw [declarations, declared]
      exact List.Pairwise.filter _ (List.pairwise_pair.mpr ⟨rfl, rfl⟩)
  have uniform (field : String) : yearLevels.Uniform ["EARLY", "LATE", "EARLY"] field := by
    intro a ha b hb
    obtain ⟨_, _, rfl⟩ := eq_yearRule ha
    obtain ⟨_, _, rfl⟩ := eq_yearRule hb
    exact ⟨rfl, rfl⟩
  have once : yearLevels.MembersOnce := by
    intro l hl d hd
    rcases List.mem_pair.mp hl with rfl | rfl
    · rw [List.mem_singleton.mp hd]
      rintro c ⟨⟩
    · rw [List.mem_singleton.mp hd]
      rintro c ⟨⟩
  obtain ⟨returns, combines, alike⟩ := merge_order_free once
    (List.cons_ne_nil "EARLY" ["LATE", "EARLY"]) (by decide)
  obtain ⟨rules, merged⟩ := returns comparable
  obtain ⟨m, mem, own, year, -⟩ :=
    (combines rules merged).2 "year" (List.ne_nil_of_length_pos (by decide)) (uniform "year")
  refine ⟨rules, merged, ⟨m, mem, own, year⟩, ?_⟩
  refine ((alike uniform ["LATE", "EARLY"] (by simp [or_comm]) []).1 comparable
    fun field d mem => ?_).1 (.inl Library.rows_impartial)
  obtain ⟨_, _, rfl⟩ := eq_yearRule mem
  rintro c ⟨⟩

def gatedRule (values : List Value) : Rule :=
  { name := "f", kind := .text, code := "F", condition := some { field := "g", values } }

/-- Two levels that ask for a field under a condition each, the first one with the other field. -/
def gatedLevels (values values' : List Value) : Registry where
  levels :=
    [⟨"A", [{ name := "g", kind := .textList, code := "G", required := false }, gatedRule values]⟩,
      ⟨"B", [gatedRule values']⟩]

/-- A number that no number can be compared with. -/
def signallingNaN : Value := .decimal (.nan false true 0)

theorem gatedLevels_uniform (values values' : List Value) (field : String) :
    (gatedLevels values values').Uniform ["A", "B"] field := by
  intro a ha b hb
  obtain ⟨ha, own⟩ := List.mem_filter.mp ha
  obtain ⟨hb, other⟩ := List.mem_filter.mp hb
  have same : a.name = b.name := (eq_of_beq own).trans (eq_of_beq other).symm
  have declared (d : Rule) (mem : d ∈ ((gatedLevels values values').mentioned ["A", "B"]).flatMap
      Level.rules) : d.kind = (if d.name = "f" then .text else .textList) ∧
        d.code = if d.name = "f" then "F" else "G" := by
    have mem : d ∈ [{ name := "g", kind := .textList, code := "G", required := false },
      gatedRule values, gatedRule values'] := mem
    simp only [List.mem_cons, List.not_mem_nil, or_false] at mem
    rcases mem with rfl | rfl | rfl
    · exact ⟨rfl, rfl⟩
    · exact ⟨rfl, rfl⟩
    · exact ⟨rfl, rfl⟩
  rw [(declared a ha).1, (declared a ha).2, (declared b hb).1, (declared b hb).2, same]
  exact ⟨rfl, rfl⟩

theorem merge_order_seen :
    ((∀ field, (gatedLevels [signallingNaN] [.int 1]).Uniform ["A", "B"] field) ∧
      (gatedLevels [signallingNaN] [.int 1]).merge (.list [.text "A", .text "B"]) =
        .error .incomparable) ∧
    ∃ r : Registry, r = gatedLevels [.object [("a", .int 1), ("b", .int 2)]]
        [.object [("b", .int 2), ("a", .int 1)]] ∧
      (∀ field, r.Uniform ["A", "B"] field) ∧
      r.validate (.list [.text "A", .text "B"])
          [("g", .object [("a", .int 5), ("b", signallingNaN)])] =
        .ok [.invalid "G_INVALID" "g: Input should be a valid list" "g"] ∧
      r.validate (.list [.text "B", .text "A"])
          [("g", .object [("a", .int 5), ("b", signallingNaN)])] = .error .incomparable :=
  ⟨⟨gatedLevels_uniform _ _, rfl⟩, _, rfl, gatedLevels_uniform _ _, rfl, rfl⟩

end Registry
end FloodScheme
