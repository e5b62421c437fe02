import FloodScheme.Proofs.Rule.Check

/-! Rules with the same failures of every field, as are all rules that combine the same
declarations. Declarations whose bounds are numbers and whose conditions can be compared merge
without a clash. -/
namespace FloodScheme
open Number

/-- What a failure is reported as: its field and its code. -/
def Failure.report (f : Failure) : Option String × String := (f.field, f.code)

namespace Rule

/-- The bounds of a rule are numbers. -/
structure Numeric (r : Rule) : Prop where
  minimum : ∀ b ∈ r.minimum, b.isNaN = false
  maximum : ∀ b ∈ r.maximum, b.isNaN = false

/-- Rules with the same failures, up to the wording of messages. -/
structure Twin (a b : Rule) : Prop where
  name : a.name = b.name
  code : a.code = b.code
  required : a.required = b.required
  forbidden : a.forbiddenOtherwise = b.forbiddenOtherwise
  covers : a.Covers b
  covered : b.Covers a
  condition : Option.Rel Condition.Alike a.condition b.condition

variable {a b d m r : Rule} {ds rs : List Rule} {payload : Fields} {v : Value}

theorem widen_numeric {pick : Bound → Bound → Bound} (picks : ∀ a b, pick a b = a ∨ pick a b = b)
    {x y : Option Bound} (hx : ∀ b ∈ x, b.isNaN = false) (hy : ∀ b ∈ y, b.isNaN = false) :
    ∀ b ∈ widen pick x y, b.isNaN = false := by
  cases x with
  | none => exact nofun
  | some a =>
    cases y with
    | none => exact nofun
    | some b =>
      intro c mem
      obtain rfl : pick a b = c := Option.some.inj mem
      rcases picks a b with same | same
      · rw [same]
        exact hx a rfl
      · rw [same]
        exact hy b rfl

theorem Numeric.merge (ha : a.Numeric) (hb : b.Numeric) : (a.merge b).Numeric := by
  obtain ⟨minimum, maximum, -⟩ := merge_limits a b
  constructor
  · rw [minimum]
    refine widen_numeric (fun x y => ?_) ha.minimum hb.minimum
    unfold Bound.min
    split
    · exact .inr rfl
    · exact .inl rfl
  · rw [maximum]
    refine widen_numeric (fun x y => ?_) ha.maximum hb.maximum
    unfold Bound.max
    split
    · exact .inr rfl
    · exact .inl rfl

theorem numeric_of_joined (joined : joined? ds = some m) (numeric : ∀ d ∈ ds, d.Numeric) :
    m.Numeric := by
  cases ds with
  | nil => cases joined
  | cons d rest =>
    cases joined
    obtain ⟨first, others⟩ := List.forall_mem_cons.mp numeric
    exact List.foldlRecOn rest merge first fun _ before r mem => before.merge (others r mem)

/-- A rule that no model is refused for: its name is free, and its pattern can be read. -/
def Readable (r : Rule) : Prop :=
  Library.reserved.contains r.name = false ∧ ∀ p ∈ r.pattern, (Text.Pattern.read? p).isSome = true

instance (r : Rule) : Decidable r.Readable := inferInstanceAs (Decidable (_ ∧ _))

theorem Readable.merge (ha : a.Readable) : (a.merge b).Readable := by
  obtain ⟨-, -, -, -, -, pattern⟩ := merge_limits a b
  refine ⟨(merge_identity a b).1 ▸ ha.1, fun p own => ?_⟩
  rw [pattern] at own
  split at own
  · exact ha.2 p own
  · cases own

theorem readable_of_joined (joined : joined? ds = some m) (readable : ∀ d ∈ ds, d.Readable) :
    m.Readable := by
  cases ds with
  | nil => cases joined
  | cons d rest =>
    cases joined
    exact List.foldlRecOn rest merge (readable d List.mem_cons_self) fun _ before _ _ =>
      before.merge

theorem Readable.not_refused (h : a.Readable) : Library.refuses a = false := by
  have read : (a.pattern.any fun p => (Text.Pattern.read? p).isNone) = false := by
    cases own : a.pattern with
    | none => rfl
    | some p =>
      rw [Option.any_some, Option.isNone_eq_false_iff]
      exact h.2 p own
  rw [Library.refuses, h.1, read, Bool.and_false]
  rfl

theorem isSome_equal {x y : Option Bound} (hx : ∀ b ∈ x, b.isNaN = false)
    (hy : ∀ b ∈ y, b.isNaN = false) : (equalOptions? Bound.equal? x y).isSome = true := by
  cases x with
  | none =>
    cases y with
    | none => rfl
    | some b => rfl
  | some a =>
    cases y with
    | none => rfl
    | some b =>
      change (Value.equalNumbers? a.value b.value).isSome = true
      unfold Value.equalNumbers?
      rw [Value.isSignalling_of_not_isNaN (hx a rfl), Value.isSignalling_of_not_isNaN (hy b rfl)]
      rfl

theorem unordered_eq_false {x y : Option Bound} (hx : ∀ b ∈ x, b.isNaN = false)
    (hy : ∀ b ∈ y, b.isNaN = false) : unordered x y = false := by
  cases x with
  | none => rfl
  | some a =>
    cases y with
    | none => rfl
    | some b => exact Bool.or_eq_false_iff.mpr ⟨hx a rfl, hy b rfl⟩

theorem clashes_eq_false (ha : a.Numeric) (hb : b.Numeric)
    (comparable : (a.sameCondition? b).isSome = true) : a.clashes b = false := by
  have compared : (a.same? b).isSome = true := by
    unfold same?
    exact Value.isSome_andThen rfl <| Value.isSome_andThen (isSome_equal ha.minimum hb.minimum) <|
      Value.isSome_andThen (isSome_equal ha.maximum hb.maximum) <| Value.isSome_andThen rfl <|
      Value.isSome_andThen comparable rfl
  unfold clashes
  split
  · next missing =>
    rw [missing] at compared
    cases compared
  · rfl
  · rw [unordered_eq_false ha.minimum hb.minimum, unordered_eq_false ha.maximum hb.maximum]
    cases found : a.sameCondition? b with
    | none =>
      rw [found] at comparable
      cases comparable
    | some same => rfl

theorem calm_of_numeric (hm : m.Numeric) (first : m.condition = d.condition ∨ m.condition = none)
    (numeric : ∀ r ∈ rs, r.Numeric)
    (comparable : ∀ r ∈ rs, (d.sameCondition? r).isSome = true) : m.calm rs = true := by
  induction rs generalizing m with
  | nil => rfl
  | cons r rest ih =>
    obtain ⟨hr, numeric⟩ := List.forall_mem_cons.mp numeric
    obtain ⟨compared, comparable⟩ := List.forall_mem_cons.mp comparable
    have compared : (m.sameCondition? r).isSome = true := by
      rcases first with same | none
      · rw [sameCondition?, same]
        exact compared
      · rw [sameCondition?, none]
        cases r.condition with
        | none => rfl
        | some c => rfl
    rw [calm, clashes_eq_false hm hr compared, ih (hm.merge hr) ?_ numeric comparable]
    · rfl
    · rw [merge_condition]
      split
      · exact first
      · exact .inr rfl

theorem Widens.numeric (h : m.Widens ds) (numeric : ∀ d ∈ ds, d.Numeric) : m.Numeric where
  minimum b hb := by
    have widest := h.minimum
    rw [Option.mem_def.mp hb] at widest
    obtain ⟨d, mem, own⟩ := List.mem_map.mp widest.2.1
    exact (numeric d mem).minimum b own
  maximum b hb := by
    have widest := h.maximum
    rw [Option.mem_def.mp hb] at widest
    obtain ⟨d, mem, own⟩ := List.mem_map.mp widest.2.1
    exact (numeric d mem).maximum b own

theorem Combines.agrees (h : m.Combines ds) (all : Unanimous ds) (mem : d ∈ ds)
    (self : d.agrees d = true) : m.agrees d = true := by
  obtain ⟨e, inside, own⟩ := h.condition_of_unanimous all
  rw [Rule.agrees, sameCondition?, own]
  by_cases same : e = d
  · rw [same]
    exact self
  · exact (List.Pairwise.forall all inside mem same).1

theorem Combines.absorbs (h : m.Combines ds) (numeric : ∀ d ∈ ds, d.Numeric) (mem : d ∈ ds)
    (self : d.agrees d = true) : m.clashes d = false ∧ (m.merge d).Combines ds := by
  have shares (all : Unanimous ds) := h.agrees all mem self
  have compared : (m.sameCondition? d).isSome = true := by
    rcases h.condition with ⟨all, -⟩ | ⟨-, none⟩
    · rw [eq_of_beq (shares all)]
      rfl
    · rw [sameCondition?, none]
      cases d.condition with
      | none => rfl
      | some c => rfl
  have calm : m.clashes d = false :=
    clashes_eq_false (h.toWidens.numeric numeric) (numeric d mem) compared
  have kept {p : Rule → Bool} (merged : p (m.merge d) = (m.agrees d && (p m && p d)))
      (own : p m = true ↔ Unanimous ds ∧ ∀ d ∈ ds, p d = true) :
      p (m.merge d) = true ↔ Unanimous ds ∧ ∀ d ∈ ds, p d = true := by
    rw [merged, ← own]
    refine ⟨fun all => ?_, fun left => ?_⟩
    · simp only [Bool.and_eq_true] at all
      exact all.2.1
    · obtain ⟨all, every⟩ := own.mp left
      rw [shares all, left, every d mem]
      rfl
  have widens := h.toWidens.concat (h.name d mem) (h.kind d mem) (h.code d mem) calm
  refine ⟨calm,
    { toWidens := widens.congr fun x => ?_, condition := ?_, required := ?_, forbidden := ?_ }⟩
  · rw [List.mem_append, List.mem_singleton, or_iff_left_iff_imp]
    exact fun same => same ▸ mem
  · rw [merge_condition]
    rcases h.condition with ⟨all, e, inside, own⟩ | ⟨differ, none⟩
    · rw [shares all]
      exact .inl ⟨all, e, inside, own⟩
    · rw [none, ite_self]
      exact .inr ⟨differ, rfl⟩
  · exact kept (merge_required m d) h.required
  · exact kept (merge_forbidden m d) h.forbidden

theorem agrees_symm (ha : ∀ c ∈ a.condition, c.namesOnce = true)
    (hb : ∀ c ∈ b.condition, c.namesOnce = true) (h : a.agrees b = true) : b.agrees a = true := by
  rw [agrees_iff] at h ⊢
  rcases rel_cases h with ⟨own, other⟩ | ⟨c, d, own, other, same⟩
  · rw [own, other]
    exact .none
  · rw [own, other]
    exact .some (same.symm (ha c own) (hb d other))

theorem agrees_trans (h : a.agrees b = true) (h' : b.agrees r = true) : a.agrees r = true := by
  rw [agrees_iff] at h h' ⊢
  rcases rel_cases h with ⟨own, other⟩ | ⟨c, d, own, other, same⟩
  · rw [own]
    rw [other] at h'
    exact h'
  · rw [other] at h'
    rw [own]
    rcases rel_cases h' with ⟨none, -⟩ | ⟨d', e, found, third, same'⟩
    · cases none
    · cases found
      rw [third]
      exact .some (same.trans same')

theorem unanimous_of_head (members : ∀ x ∈ d :: rs, ∀ c ∈ x.condition, c.namesOnce = true)
    (all : rs.all d.agrees = true) : Unanimous (d :: rs) := by
  have back (x : Rule) (mem : x ∈ rs) : x.agrees d = true :=
    agrees_symm (members d List.mem_cons_self) (members x (List.mem_cons_of_mem _ mem))
      (List.all_eq_true.mp all x mem)
  refine List.pairwise_cons.mpr ⟨fun x mem => ⟨List.all_eq_true.mp all x mem, back x mem⟩, ?_⟩
  exact List.pairwise_of_forall_mem_list fun x hx y hy =>
    ⟨agrees_trans (back x hx) (List.all_eq_true.mp all y hy),
      agrees_trans (back y hy) (List.all_eq_true.mp all x hx)⟩

theorem twin_of_combines (h : a.Combines ds) (h' : b.Combines ds) : a.Twin b := by
  obtain ⟨d, mem⟩ := List.exists_mem_of_ne_nil ds h.given
  have condition : Option.Rel Condition.Alike a.condition b.condition := by
    rcases h.condition with ⟨all, x, hx, own⟩ | ⟨differ, own⟩
    · obtain ⟨y, hy, other⟩ := h'.condition_of_unanimous all
      rw [own, other]
      exact all.alike hx hy
    · rcases h'.condition with ⟨all, -⟩ | ⟨-, other⟩
      · exact absurd all differ
      · rw [own, other]
        exact .none
  exact
    { name := (h.name d mem).symm.trans (h'.name d mem)
      code := (h.code d mem).symm.trans (h'.code d mem)
      required := Bool.eq_iff_iff.mpr (h.required.trans h'.required.symm)
      forbidden := Bool.eq_iff_iff.mpr (h.forbidden.trans h'.forbidden.symm)
      covers := h.toWidens.covers h'.toWidens (List.Subset.refl ds) (h.choices.rel h'.choices)
      covered := h'.toWidens.covers h.toWidens (List.Subset.refl ds) (h'.choices.rel h.choices)
      condition }

theorem alike_symm {c e : Option Condition} (h : Option.Rel Condition.Alike c e) :
    Option.Rel Condition.Alike e c := by
  rcases rel_cases h with ⟨rfl, rfl⟩ | ⟨c, e, rfl, rfl, alike⟩
  · exact .none
  · exact .some alike.symm

theorem Twin.symm (h : a.Twin b) : b.Twin a where
  name := h.name.symm
  code := h.code.symm
  required := h.required.symm
  forbidden := h.forbidden.symm
  covers := h.covered
  covered := h.covers
  condition := alike_symm h.condition

theorem Twin.check [Library] (h : a.Twin b) : a.check v = none ↔ b.check v = none :=
  ⟨h.covered.check, h.covers.check⟩

theorem Twin.failure? [Library] (h : a.Twin b) :
    (a.failure? payload).map Failure.report = (b.failure? payload).map Failure.report := by
  unfold Rule.failure?
  dsimp only
  rw [h.name, h.code, h.required]
  split
  · rfl
  · cases payload.get? b.name with
    | none => rfl
    | some v =>
      dsimp only
      split
      · rfl
      · have same := h.check (v := v)
        cases own : a.check v with
        | none => rw [same.mp own]
        | some p =>
          cases other : b.check v with
          | none =>
            rw [same.mpr other] at own
            cases own
          | some q =>
            simp only [Option.map_some]
            split
            · rfl
            · rfl

theorem Covers.pattern_eq (h : a.Covers b) (h' : b.Covers a) : a.pattern = b.pattern :=
  Option.ext fun p => ⟨h.pattern p, h'.pattern p⟩

theorem Twin.refuses (h : a.Twin b) : Library.refuses a = Library.refuses b := by
  have chosen : a.chosenFrom.isNone = b.chosenFrom.isNone := by
    rcases rel_cases h.covers.chosen with ⟨own, other⟩ | ⟨cs, ds, own, other, -⟩
    · rw [own, other]
    · rw [own, other]
      rfl
  rw [Library.refuses, Library.refuses, h.name, h.covers.kind, chosen,
    h.covers.pattern_eq h.covered]

theorem isKey_of_numeric (h : a.Numeric) : a.isKey = a.condition.all Condition.isKey := by
  have quiet {x : Option Bound} (hx : ∀ b ∈ x, b.isNaN = false) : x.all Bound.isKey = true := by
    cases x with
    | none => rfl
    | some b =>
      rw [Option.all_some, Bound.isKey, Value.isSignalling_of_not_isNaN (hx b rfl)]
      rfl
  rw [isKey, quiet h.minimum, quiet h.maximum]
  rfl

theorem Twin.isKey (h : a.Twin b) (ha : a.Numeric) (hb : b.Numeric) : a.isKey = b.isKey := by
  rw [isKey_of_numeric ha, isKey_of_numeric hb]
  rcases rel_cases h.condition with ⟨own, other⟩ | ⟨c, e, own, other, alike⟩
  · rw [own, other]
  · rw [own, other, Option.all_some, Option.all_some, alike.isKey]

theorem clashesWith_eq_false (h : a.Numeric) (v : Value) : a.clashesWith v = false := by
  have calm {x : Option Bound} (hx : ∀ b ∈ x, b.isNaN = false) : x.any Bound.isNaN = false := by
    cases x with
    | none => rfl
    | some b => exact hx b rfl
  unfold clashesWith unorderedBounds
  rw [calm h.minimum, calm h.maximum]
  split
  · simp
  · rfl

end Rule
end FloodScheme
