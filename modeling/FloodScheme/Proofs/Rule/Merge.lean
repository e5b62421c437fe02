import FloodScheme.Proofs.Rule.Condition
import FloodScheme.Rule.Merge
import Mathlib.Data.List.Induction
import Mathlib.Data.List.Pairwise

/-! Rules that are merged one after another. What is left of a limit is the widest one that any of
the rules has, whatever their order; a condition is left where every rule has the one of the first
rule. -/
namespace FloodScheme
open Number

/-- What is left of limits: none where one of them is missing, and else one of them that is as wide
as any other. -/
def Widest {α : Type} (wider : α → α → Prop) (limits : List (Option α)) : Option α → Prop
  | none => none ∈ limits
  | some a => none ∉ limits ∧ some a ∈ limits ∧ ∀ b, some b ∈ limits → wider a b

/-- What is left of lists of choices: none where one of them is missing, and else the choices of
all of them. -/
def United (lists : List (Option (List String))) : Option (List String) → Prop
  | none => none ∈ lists
  | some choices => none ∉ lists ∧ ∀ c, c ∈ choices ↔ ∃ own, some own ∈ lists ∧ c ∈ own

/-- What all of some settings are, or nothing where two of them differ. -/
def Common {α : Type} (settings : List (Option α)) (x : Option α) : Prop :=
  (∀ y ∈ settings, y = x) ∨ x = none ∧ ∃ y ∈ settings, ∃ z ∈ settings, y ≠ z

theorem rel_cases {α β : Type} {R : α → β → Prop} {x : Option α} {y : Option β}
    (h : Option.Rel R x y) :
    (x = none ∧ y = none) ∨ ∃ a b, x = some a ∧ y = some b ∧ R a b := by
  cases h with
  | none => exact .inl ⟨rfl, rfl⟩
  | some related => exact .inr ⟨_, _, rfl, rfl, related⟩

theorem widen_self {α : Type} {pick : α → α → α} (same : ∀ a, pick a a = a) (x : Option α) :
    widen pick x x = x := by
  cases x with
  | none => rfl
  | some a => exact congrArg some (same a)

theorem widen_of_equal {α : Type} {pick : α → α → α} {equal? : α → α → Option Bool}
    (first : ∀ {a b}, equal? a b = some true → pick a b = a) {x y : Option α}
    (equal : equalOptions? equal? x y = some true) : widen pick x y = x := by
  cases x with
  | none => rfl
  | some a =>
    cases y with
    | none => cases equal
    | some b => exact congrArg some (first equal)

section
variable {α : Type} {wider : α → α → Prop} {pick : α → α → α} {limits part : List (Option α)}
  {x y : Option α}

theorem widest_singleton (wider : α → α → Prop) (refl : ∀ a, wider a a) (x : Option α) :
    Widest wider [x] x := by
  cases x with
  | none => exact List.mem_singleton_self _
  | some a =>
    refine ⟨by simp, List.mem_singleton_self _, fun b mem => ?_⟩
    cases List.mem_singleton.mp mem
    exact refl a

theorem Widest.concat (h : Widest wider limits x)
    (trans : ∀ a b c, wider a b → wider b c → wider a c)
    (picks : ∀ a ∈ x, ∀ b ∈ y, (pick a b = a ∨ pick a b = b) ∧ wider (pick a b) a ∧
      wider (pick a b) b) : Widest wider (limits ++ [y]) (widen pick x y) := by
  cases x with
  | none => exact List.mem_append_left _ h
  | some a =>
    cases y with
    | none => exact List.mem_append_right _ (List.mem_singleton_self _)
    | some b =>
      obtain ⟨all, found, widest⟩ := h
      obtain ⟨picked, first, second⟩ := picks a rfl b rfl
      refine ⟨?_, ?_, fun c mem => ?_⟩
      · simpa using all
      · rcases picked with same | same
        · rw [same]
          exact List.mem_append_left _ found
        · rw [same]
          exact List.mem_append_right _ (List.mem_singleton_self _)
      · rcases List.mem_append.mp mem with old | new
        · exact trans _ _ _ first (widest c old)
        · cases List.mem_singleton.mp new
          exact second

theorem Widest.congr (same : ∀ y, y ∈ limits ↔ y ∈ part) (h : Widest wider limits x) :
    Widest wider part x := by
  cases x with
  | none => exact (same none).mp h
  | some a =>
    obtain ⟨all, found, widest⟩ := h
    exact ⟨fun mem => all ((same none).mpr mem), (same _).mp found,
      fun b mem => widest b ((same _).mpr mem)⟩

theorem Widest.mono (h : Widest wider limits x) (h' : Widest wider part y) (sub : part ⊆ limits) :
    ∀ a ∈ x, ∃ b ∈ y, wider a b := by
  rintro a rfl
  obtain ⟨all, -, widest⟩ := h
  cases y with
  | none => exact absurd (sub h') all
  | some b => exact ⟨b, rfl, widest b (sub h'.2.1)⟩

theorem mem_distinct {texts : List String} {t : String} : t ∈ distinct texts ↔ t ∈ texts := by
  have gathered (seen : List String) :
      t ∈ texts.foldl (fun seen t => if seen.contains t then seen else seen ++ [t]) seen ↔
        t ∈ seen ∨ t ∈ texts := by
    induction texts generalizing seen with
    | nil => simp
    | cons s rest ih =>
      rw [List.foldl_cons, ih, List.mem_cons]
      split
      · next known =>
        have known : s ∈ seen := by simpa using known
        constructor
        · exact fun h => h.imp_right .inr
        · rintro (old | rfl | later)
          · exact .inl old
          · exact .inl known
          · exact .inr later
      · rw [List.mem_append, List.mem_singleton, or_assoc]
  exact (gathered []).trans (by simp)

theorem mem_union {a b : List String} {t : String} : t ∈ union a b ↔ t ∈ a ∨ t ∈ b := by
  rw [union, mem_distinct, List.mem_append]

variable {lists lists' : List (Option (List String))} {cs ds es : Option (List String)}

theorem united_singleton (cs : Option (List String)) : United [cs] cs := by
  cases cs with
  | none => exact List.mem_singleton_self _
  | some choices => exact ⟨by simp, by simp⟩

theorem United.congr (same : ∀ ds, ds ∈ lists ↔ ds ∈ lists') (h : United lists cs) :
    United lists' cs := by
  cases cs with
  | none => exact (same none).mp h
  | some choices =>
    obtain ⟨all, choices⟩ := h
    refine ⟨fun mem => all ((same none).mpr mem), fun c => (choices c).trans ?_⟩
    simp only [same]

theorem United.eq_none (h : United lists cs) (missing : none ∈ lists) : cs = none := by
  cases cs with
  | none => rfl
  | some choices => exact absurd missing h.1

theorem United.eq_some (h : United lists cs) (all : none ∉ lists) :
    ∃ choices, cs = some choices ∧ ∀ c, c ∈ choices ↔ ∃ own, some own ∈ lists ∧ c ∈ own := by
  cases cs with
  | none => exact absurd h all
  | some choices => exact ⟨choices, rfl, h.2⟩

theorem United.rel (h : United lists cs) (h' : United lists es) :
    Option.Rel (fun cs es => es ⊆ cs ∧ (cs ≠ [] → es ≠ [])) cs es := by
  cases cs with
  | none =>
    cases es with
    | none => exact .none
    | some es => exact absurd h h'.1
  | some cs =>
    cases es with
    | none => exact absurd h' h.1
    | some es =>
      have same (c : String) : c ∈ cs ↔ c ∈ es := (h.2 c).trans (h'.2 c).symm
      refine .some ⟨fun c mem => (same c).mpr mem, fun given empty => given ?_⟩
      subst empty
      exact List.eq_nil_iff_forall_not_mem.mpr fun c mem => absurd ((same c).mp mem) (by simp)

theorem United.concat (h : United lists cs)
    (left : es = widen union cs ds ∨ es = cs ∧ cs = ds) : United (lists ++ [ds]) es := by
  cases cs with
  | none =>
    have gone : es = none := by
      rcases left with rfl | ⟨rfl, -⟩
      · rfl
      · rfl
    rw [gone]
    exact List.mem_append_left _ h
  | some cs =>
    cases ds with
    | none =>
      obtain rfl : es = none := left.resolve_right fun both => by cases both.2
      exact List.mem_append_right _ (List.mem_singleton_self _)
    | some ds =>
      obtain ⟨all, choices⟩ := h
      have more (c : String) : (c ∈ cs ∨ c ∈ ds) ↔
          ∃ own, some own ∈ lists ++ [some ds] ∧ c ∈ own := by
        simp [choices, or_and_right, exists_or]
      have every : none ∉ lists ++ [some ds] := by simpa using all
      rcases left with rfl | ⟨rfl, same⟩
      · exact ⟨every, fun c => mem_union.trans (more c)⟩
      · cases same
        exact ⟨every, fun c => by rw [← more, or_self]⟩

theorem Common.congr {α : Type} {xs ys : List (Option α)} {x : Option α}
    (same : ∀ y, y ∈ xs ↔ y ∈ ys) (h : Common xs x) : Common ys x := by
  rcases h with all | ⟨none, y, hy, z, hz, differ⟩
  · exact .inl fun y mem => all y ((same y).mpr mem)
  · exact .inr ⟨none, y, (same y).mp hy, z, (same z).mp hz, differ⟩

theorem Common.concat {α : Type} [BEq α] [LawfulBEq α] {xs : List (Option α)} {x y : Option α}
    (h : Common xs x) (given : xs ≠ []) : Common (xs ++ [y]) (if x == y then x else none) := by
  rcases h with all | ⟨rfl, z, hz, w, hw, differ⟩
  · split
    · next same =>
      refine .inl fun z mem => ?_
      rcases List.mem_append.mp mem with old | new
      · exact all z old
      · rw [List.mem_singleton.mp new]
        exact (eq_of_beq same).symm
    · next differ =>
      obtain ⟨z, hz⟩ := List.exists_mem_of_ne_nil xs given
      refine .inr ⟨rfl, z, List.mem_append_left _ hz, y, by simp, ?_⟩
      rw [all z hz]
      exact fun same => differ (beq_iff_eq.mpr same)
  · refine .inr ⟨by split <;> rfl, z, List.mem_append_left _ hz, w, List.mem_append_left _ hw,
      differ⟩

end

namespace Bound

variable {a b c : Bound}

/-- A bound that is the same or lower. -/
def AtMost (a b : Bound) : Prop := a = b ∨ a.value.le b.value = true

theorem AtMost.refl (a : Bound) : a.AtMost a := .inl rfl

theorem AtMost.trans (h : a.AtMost b) (h' : b.AtMost c) : a.AtMost c := by
  rcases h with rfl | first
  · exact h'
  · rcases h' with rfl | second
    · exact .inr first
    · exact .inr (Decimal.le_trans first second)

theorem lt_iff : a.lt b = true ↔
    ∃ x y, a.value.place = some x ∧ b.value.place = some y ∧ x < y := by
  rw [lt, beq_iff_eq, Decimal.compare?_eq_lt]

theorem le_of_lt (h : a.lt b = true) : a.value.le b.value = true := by
  obtain ⟨x, y, first, second, less⟩ := lt_iff.mp h
  exact Decimal.le_iff.mpr ⟨x, y, first, second, less.le⟩

theorem le_of_not_lt (ha : a.isNaN = false) (hb : b.isNaN = false) (h : b.lt a = false) :
    a.value.le b.value = true := by
  obtain ⟨x, first⟩ := Decimal.place_of_not_isNaN ha
  obtain ⟨y, second⟩ := Decimal.place_of_not_isNaN hb
  refine Decimal.le_iff.mpr ⟨x, y, first, second, not_lt.mp fun less => ?_⟩
  rw [lt_iff.mpr ⟨y, x, second, first, less⟩] at h
  cases h

theorem min_picks (ha : a.isNaN = false) (hb : b.isNaN = false) :
    (a.min b = a ∨ a.min b = b) ∧ (a.min b).AtMost a ∧ (a.min b).AtMost b := by
  unfold Bound.min
  split
  · next less => exact ⟨.inr rfl, .inr (le_of_lt less), .refl b⟩
  · next more => exact ⟨.inl rfl, .refl a, .inr (le_of_not_lt ha hb (by simpa using more))⟩

theorem max_picks (ha : a.isNaN = false) (hb : b.isNaN = false) :
    (a.max b = a ∨ a.max b = b) ∧ a.AtMost (a.max b) ∧ b.AtMost (a.max b) := by
  unfold Bound.max
  split
  · next less => exact ⟨.inr rfl, .inr (le_of_lt less), .refl b⟩
  · next more => exact ⟨.inl rfl, .refl a, .inr (le_of_not_lt hb ha (by simpa using more))⟩

theorem not_lt_of_equal (h : a.equal? b = some true) : a.lt b = false ∧ b.lt a = false := by
  obtain ⟨x, first, second⟩ := Decimal.equal_iff.mp (Value.equalNumbers?_eq_true.mp h)
  constructor
  · refine Bool.eq_false_iff.mpr fun less => ?_
    obtain ⟨y, z, first', second', less⟩ := lt_iff.mp less
    cases first.symm.trans first'
    cases second.symm.trans second'
    exact lt_irrefl _ less
  · refine Bool.eq_false_iff.mpr fun less => ?_
    obtain ⟨y, z, first', second', less⟩ := lt_iff.mp less
    cases second.symm.trans first'
    cases first.symm.trans second'
    exact lt_irrefl _ less

theorem min_of_equal (h : a.equal? b = some true) : a.min b = a := by
  rw [Bound.min, (not_lt_of_equal h).2]
  rfl

theorem max_of_equal (h : a.equal? b = some true) : a.max b = a := by
  rw [Bound.max, (not_lt_of_equal h).1]
  rfl

end Bound

namespace Rule

variable {a b d m r : Rule} {ds rs : List Rule}

theorem parts_of_same (h : a.same b = true) :
    (a.name = b.name ∧ a.kind = b.kind ∧ a.code = b.code ∧ a.required = b.required) ∧
      equalOptions? Bound.equal? a.minimum b.minimum = some true ∧
      equalOptions? Bound.equal? a.maximum b.maximum = some true ∧
      (a.maxLength = b.maxLength ∧ a.minItems = b.minItems ∧ a.decimalPlaces = b.decimalPlaces ∧
        a.choices = b.choices ∧ a.pattern = b.pattern) ∧
      a.sameCondition? b = some true ∧ a.forbiddenOtherwise = b.forbiddenOtherwise := by
  rw [same, beq_iff_eq, same?] at h
  simp only [Value.andThen_eq_true, Option.some.injEq, Bool.and_eq_true, beq_iff_eq] at h
  obtain ⟨⟨⟨⟨name, kind⟩, code⟩, required⟩, minimum, maximum,
    ⟨⟨⟨⟨maxLength, minItems⟩, decimalPlaces⟩, choices⟩, pattern⟩, condition, forbidden⟩ := h
  exact ⟨⟨name, kind, code, required⟩, minimum, maximum,
    ⟨maxLength, minItems, decimalPlaces, choices, pattern⟩, condition, forbidden⟩

/-- The conditions of two rules are equal, or both are missing. -/
def agrees (a b : Rule) : Bool := a.sameCondition? b == some true

theorem agrees_iff : a.agrees b = true ↔ Option.Rel Condition.Same a.condition b.condition := by
  unfold agrees sameCondition?
  cases a.condition with
  | none =>
    cases b.condition with
    | none => simp [equalOptions?]
    | some d => simp [equalOptions?]
  | some c =>
    cases b.condition with
    | none => simp [equalOptions?]
    | some d => simp [equalOptions?, Condition.Same]

theorem merge_identity (a b : Rule) : (a.merge b).name = a.name ∧ (a.merge b).kind = a.kind ∧
    (a.merge b).code = a.code := by
  unfold merge
  split
  · exact ⟨rfl, rfl, rfl⟩
  · split
    · exact ⟨rfl, rfl, rfl⟩
    · exact ⟨rfl, rfl, rfl⟩

theorem merge_condition (a b : Rule) :
    (a.merge b).condition = if a.agrees b then a.condition else none := by
  unfold merge agrees
  split
  · next same => simp [(parts_of_same same).2.2.2.2.1]
  · split
    · rfl
    · rfl

theorem merge_required (a b : Rule) :
    (a.merge b).required = (a.agrees b && (a.required && b.required)) := by
  unfold merge agrees
  split
  · next same =>
    obtain ⟨⟨-, -, -, required⟩, -, -, -, condition, -⟩ := parts_of_same same
    simp [condition, ← required]
  · split
    · next agree => rw [agree]; rfl
    · next differ => rw [Bool.eq_false_iff.mpr differ]; rfl

theorem merge_forbidden (a b : Rule) : (a.merge b).forbiddenOtherwise =
    (a.agrees b && (a.forbiddenOtherwise && b.forbiddenOtherwise)) := by
  unfold merge agrees
  split
  · next same =>
    obtain ⟨-, -, -, -, condition, forbidden⟩ := parts_of_same same
    simp [condition, ← forbidden]
  · split
    · next agree => rw [agree]; rfl
    · next differ => rw [Bool.eq_false_iff.mpr differ]; rfl

theorem merge_limits (a b : Rule) :
    (a.merge b).minimum = widen Bound.min a.minimum b.minimum ∧
      (a.merge b).maximum = widen Bound.max a.maximum b.maximum ∧
      (a.merge b).maxLength = widen Nat.max a.maxLength b.maxLength ∧
      (a.merge b).minItems = widen Nat.min a.minItems b.minItems ∧
      (a.merge b).decimalPlaces = widen Nat.max a.decimalPlaces b.decimalPlaces ∧
      (a.merge b).pattern = if a.pattern == b.pattern then a.pattern else none := by
  unfold merge
  split
  · next same =>
    obtain ⟨-, minimum, maximum, ⟨maxLength, minItems, decimalPlaces, -, pattern⟩, -⟩ :=
      parts_of_same same
    refine ⟨(widen_of_equal Bound.min_of_equal minimum).symm,
      (widen_of_equal Bound.max_of_equal maximum).symm, ?_, ?_, ?_, ?_⟩
    · rw [← maxLength, widen_self Nat.max_self]
    · rw [← minItems, widen_self Nat.min_self]
    · rw [← decimalPlaces, widen_self Nat.max_self]
    · rw [← pattern, if_pos (beq_self_eq_true _)]
  · split
    · exact ⟨rfl, rfl, rfl, rfl, rfl, rfl⟩
    · exact ⟨rfl, rfl, rfl, rfl, rfl, rfl⟩

theorem merge_choices (a b : Rule) : (a.merge b).choices = widen union a.choices b.choices ∨
    (a.merge b).choices = a.choices ∧ a.choices = b.choices := by
  unfold merge
  split
  · next same =>
    obtain ⟨-, -, -, ⟨-, -, -, choices, -⟩, -⟩ := parts_of_same same
    exact .inr ⟨rfl, choices⟩
  · split
    · exact .inl rfl
    · exact .inl rfl

theorem numbers_of_calm (calm : a.clashes b = false) :
    (∀ x ∈ a.minimum, ∀ y ∈ b.minimum, x.isNaN = false ∧ y.isNaN = false) ∧
      ∀ x ∈ a.maximum, ∀ y ∈ b.maximum, x.isNaN = false ∧ y.isNaN = false := by
  unfold clashes at calm
  split at calm
  · cases calm
  · next same =>
    have equal : a.same b = true := by rw [Rule.same, same]; rfl
    obtain ⟨-, minimum, maximum, -⟩ := parts_of_same equal
    constructor
    · intro x hx y hy
      rw [hx, hy] at minimum
      exact Decimal.isNaN_of_equal (Value.equalNumbers?_eq_true.mp minimum)
    · intro x hx y hy
      rw [hx, hy] at maximum
      exact Decimal.isNaN_of_equal (Value.equalNumbers?_eq_true.mp maximum)
  · simp only [Bool.or_eq_false_iff] at calm
    obtain ⟨⟨minimum, maximum⟩, -⟩ := calm
    constructor
    · intro x hx y hy
      rw [hx, hy] at minimum
      exact Bool.or_eq_false_iff.mp minimum
    · intro x hx y hy
      rw [hx, hy] at maximum
      exact Bool.or_eq_false_iff.mp maximum

/-- The identity of the rule is common to the declarations, and each of its limits is as wide as any
of theirs. -/
structure Widens (m : Rule) (ds : List Rule) : Prop where
  name : ∀ d ∈ ds, d.name = m.name
  kind : ∀ d ∈ ds, d.kind = m.kind
  code : ∀ d ∈ ds, d.code = m.code
  minimum : Widest Bound.AtMost (ds.map Rule.minimum) m.minimum
  maximum : Widest (fun a b => b.AtMost a) (ds.map Rule.maximum) m.maximum
  maxLength : Widest (· ≥ ·) (ds.map Rule.maxLength) m.maxLength
  minItems : Widest (· ≤ ·) (ds.map Rule.minItems) m.minItems
  decimalPlaces : Widest (· ≥ ·) (ds.map Rule.decimalPlaces) m.decimalPlaces
  choices : United (ds.map Rule.choices) m.choices
  pattern : Common (ds.map Rule.pattern) m.pattern

theorem widens_singleton (d : Rule) : d.Widens [d] where
  name := by simp
  kind := by simp
  code := by simp
  minimum := widest_singleton Bound.AtMost .refl _
  maximum := widest_singleton (fun a b => Bound.AtMost b a) .refl _
  maxLength := widest_singleton (· ≥ ·) Nat.le_refl _
  minItems := widest_singleton (· ≤ ·) Nat.le_refl _
  decimalPlaces := widest_singleton (· ≥ ·) Nat.le_refl _
  choices := united_singleton _
  pattern := .inl (by simp)

theorem Widens.given (h : m.Widens ds) : ds ≠ [] := by
  rintro rfl
  have limits := h.minItems
  unfold Widest at limits
  split at limits
  · cases limits
  · cases limits.2.1

theorem Widens.congr (same : ∀ d, d ∈ ds ↔ d ∈ rs) (h : m.Widens ds) : m.Widens rs := by
  have mapped {α : Type} (f : Rule → α) (x : α) : x ∈ ds.map f ↔ x ∈ rs.map f := by
    simp only [List.mem_map, same]
  exact
    { name := fun d mem => h.name d ((same d).mpr mem)
      kind := fun d mem => h.kind d ((same d).mpr mem)
      code := fun d mem => h.code d ((same d).mpr mem)
      minimum := h.minimum.congr (mapped _)
      maximum := h.maximum.congr (mapped _)
      maxLength := h.maxLength.congr (mapped _)
      minItems := h.minItems.congr (mapped _)
      decimalPlaces := h.decimalPlaces.congr (mapped _)
      choices := h.choices.congr (mapped _)
      pattern := h.pattern.congr (mapped _) }

theorem Widens.concat (h : m.Widens ds) (name : r.name = m.name) (kind : r.kind = m.kind)
    (code : r.code = m.code) (calm : m.clashes r = false) : (m.merge r).Widens (ds ++ [r]) := by
  obtain ⟨sameName, sameKind, sameCode⟩ := merge_identity m r
  obtain ⟨minimum, maximum, maxLength, minItems, decimalPlaces, pattern⟩ := merge_limits m r
  obtain ⟨lower, upper⟩ := numbers_of_calm calm
  have given : ds.map Rule.pattern ≠ [] := fun none => h.given (List.map_eq_nil_iff.mp none)
  have members {P : Rule → Prop} (old : ∀ d ∈ ds, P d) (new : P r) : ∀ d ∈ ds ++ [r], P d :=
    List.forall_mem_append.mpr ⟨old, by simpa using new⟩
  refine
    { name := ?_, kind := ?_, code := ?_, minimum := ?_, maximum := ?_, maxLength := ?_,
      minItems := ?_, decimalPlaces := ?_, choices := ?_, pattern := ?_ }
  · rw [sameName]
    exact members h.name name
  · rw [sameKind]
    exact members h.kind kind
  · rw [sameCode]
    exact members h.code code
  · rw [minimum, List.map_append]
    exact h.minimum.concat (fun _ _ _ => .trans) fun a ha b hb =>
      Bound.min_picks (lower a ha b hb).1 (lower a ha b hb).2
  · rw [maximum, List.map_append]
    exact h.maximum.concat (fun _ _ _ first second => second.trans first) fun a ha b hb =>
      Bound.max_picks (upper a ha b hb).1 (upper a ha b hb).2
  · rw [maxLength, List.map_append]
    exact h.maxLength.concat (fun _ _ _ first second => Nat.le_trans second first) fun a _ b _ =>
      ⟨max_choice a b, Nat.le_max_left a b, Nat.le_max_right a b⟩
  · rw [minItems, List.map_append]
    exact h.minItems.concat (fun _ _ _ => Nat.le_trans) fun a _ b _ =>
      ⟨min_choice a b, Nat.min_le_left a b, Nat.min_le_right a b⟩
  · rw [decimalPlaces, List.map_append]
    exact h.decimalPlaces.concat (fun _ _ _ first second => Nat.le_trans second first)
      fun a _ b _ => ⟨max_choice a b, Nat.le_max_left a b, Nat.le_max_right a b⟩
  · rw [List.map_append]
    exact h.choices.concat (merge_choices m r)
  · rw [pattern, List.map_append]
    exact h.pattern.concat given

/-- No merge of further rules into a rule clashes. -/
def calm : Rule → List Rule → Bool
  | _, [] => true
  | m, r :: rest => !m.clashes r && calm (m.merge r) rest

theorem widens_foldl (h : m.Widens ds) (name : ∀ r ∈ rs, r.name = m.name)
    (kind : ∀ r ∈ rs, r.kind = m.kind) (code : ∀ r ∈ rs, r.code = m.code)
    (calm : m.calm rs = true) : (rs.foldl merge m).Widens (ds ++ rs) := by
  induction rs generalizing m ds with
  | nil => simpa using h
  | cons r rest ih =>
    rw [Rule.calm, Bool.and_eq_true, Bool.not_eq_true'] at calm
    obtain ⟨sameName, sameKind, sameCode⟩ := merge_identity m r
    have first := h.concat (name r List.mem_cons_self) (kind r List.mem_cons_self)
      (code r List.mem_cons_self) calm.1
    rw [List.append_cons]
    refine ih first (fun x mem => ?_) (fun x mem => ?_) (fun x mem => ?_) calm.2
    · rw [sameName]
      exact name x (List.mem_cons_of_mem _ mem)
    · rw [sameKind]
      exact kind x (List.mem_cons_of_mem _ mem)
    · rw [sameCode]
      exact code x (List.mem_cons_of_mem _ mem)

theorem condition_foldl (d : Rule) (ds : List Rule) :
    (ds.foldl merge d).condition = if ds.all d.agrees then d.condition else none := by
  induction ds using List.reverseRecOn with
  | nil => rfl
  | append_singleton ds r ih =>
    rw [List.foldl_append, List.foldl_cons, List.foldl_nil, merge_condition, List.all_append]
    cases all : ds.all d.agrees with
    | true =>
      rw [all, if_pos rfl] at ih
      simp [agrees, sameCondition?, ih]
    | false =>
      rw [all] at ih
      simp [ih]

theorem agrees_foldl (d r : Rule) (ds : List Rule) (all : ds.all d.agrees = true) :
    (ds.foldl merge d).agrees r = d.agrees r := by
  rw [agrees, sameCondition?, condition_foldl, all]
  rfl

theorem all_foldl {p : Rule → Bool}
    (merged : ∀ a b, p (a.merge b) = (a.agrees b && (p a && p b))) (d : Rule) (ds : List Rule) :
    p (ds.foldl merge d) = (ds.all d.agrees && (d :: ds).all p) := by
  induction ds using List.reverseRecOn with
  | nil => simp
  | append_singleton ds r ih =>
    rw [List.foldl_append, List.foldl_cons, List.foldl_nil, merged, ih]
    cases all : ds.all d.agrees with
    | true => simp [agrees_foldl d r ds all, all, Bool.and_assoc]
    | false => simp [all]

/-- The rule that declarations of a field are merged into. -/
def joined? : List Rule → Option Rule
  | [] => none
  | d :: ds => some (ds.foldl merge d)

theorem condition_of_joined (joined : joined? ds = some m) :
    m.condition = none ∨ ∃ d ∈ ds, m.condition = d.condition := by
  cases ds with
  | nil => cases joined
  | cons d rest =>
    cases joined
    rw [condition_foldl]
    split
    · exact .inr ⟨d, List.mem_cons_self, rfl⟩
    · exact .inl rfl

theorem condition_of_unconditional (joined : joined? ds = some m) (mem : d ∈ ds)
    (none : d.condition = none) : m.condition = Option.none := by
  cases ds with
  | nil => cases joined
  | cons first rest =>
    cases joined
    rw [condition_foldl]
    split
    · next all =>
      rcases List.mem_cons.mp mem with rfl | mem
      · exact none
      · have agrees := agrees_iff.mp (List.all_eq_true.mp all d mem)
        rw [none] at agrees
        rcases rel_cases agrees with ⟨own, -⟩ | ⟨_, _, -, other, -⟩
        · exact own
        · cases other
    · rfl

/-- No merge of declarations of a field clashes, where a rule for it may be there already. -/
def calmAfter : Option Rule → List Rule → Bool
  | some m, ds => m.calm ds
  | none, [] => true
  | none, d :: ds => d.calm ds

theorem calmAfter_cons (o : Option Rule) (r : Rule) (ds : List Rule) :
    calmAfter o (r :: ds) = (o.all (fun m => !m.clashes r) &&
      calmAfter (some (o.elim r fun m => m.merge r)) ds) := by
  cases o with
  | none => exact (Bool.true_and _).symm
  | some m => rfl

/-- The conditions of two rules agree, whichever comes first. -/
def Agree (a b : Rule) : Prop := a.agrees b = true ∧ b.agrees a = true

instance : Std.Symm Agree := ⟨fun _ _ => And.symm⟩

/-- The conditions of all rules agree, two by two. -/
def Unanimous (ds : List Rule) : Prop := ds.Pairwise Agree

theorem Agree.alike (h : a.Agree b) : Option.Rel Condition.Alike a.condition b.condition := by
  have back := agrees_iff.mp h.2
  rcases rel_cases (agrees_iff.mp h.1) with ⟨own, other⟩ | ⟨c, d, own, other, there⟩
  · rw [own, other]
    exact .none
  · rw [own, other] at back ⊢
    cases back with
    | some back => exact .some (.inr ⟨there, back⟩)

theorem Unanimous.alike (h : Unanimous ds) (ha : a ∈ ds) (hb : b ∈ ds) :
    Option.Rel Condition.Alike a.condition b.condition := by
  by_cases same : a = b
  · rw [same]
    cases b.condition with
    | none => exact .none
    | some c => exact .some (.inl rfl)
  · exact Agree.alike (List.Pairwise.forall h ha hb same)

theorem isActive_of_alike {payload : Fields}
    (h : Option.Rel Condition.Alike a.condition b.condition) (calm : a.signals payload = false)
    (calm' : b.signals payload = false) : a.isActive payload = b.isActive payload := by
  unfold signals at calm calm'
  unfold isActive
  rcases rel_cases h with ⟨own, other⟩ | ⟨c, d, own, other, alike⟩
  · rw [own, other]
  · rw [own] at calm ⊢
    rw [other] at calm' ⊢
    exact alike.holds calm calm'

/-- A rule is what is left of declarations in whatever order: their limits widened, their condition
if there is but one, and what all of them ask for or keep out. -/
structure Combines (m : Rule) (ds : List Rule) : Prop extends Widens m ds where
  condition : (Unanimous ds ∧ ∃ d ∈ ds, m.condition = d.condition) ∨
    (¬ Unanimous ds ∧ m.condition = none)
  required : m.required = true ↔ Unanimous ds ∧ ∀ d ∈ ds, d.required = true
  forbidden : m.forbiddenOtherwise = true ↔ Unanimous ds ∧ ∀ d ∈ ds, d.forbiddenOtherwise = true

theorem Unanimous.perm (same : ds.Perm rs) (h : Unanimous ds) : Unanimous rs :=
  (same.pairwise_iff fun both => both.symm).mp h

theorem Combines.perm (same : ds.Perm rs) (h : m.Combines ds) : m.Combines rs where
  toWidens := h.toWidens.congr fun _ => same.mem_iff
  condition := by
    rcases h.condition with ⟨all, d, mem, condition⟩ | ⟨differ, none⟩
    · exact .inl ⟨all.perm same, d, same.mem_iff.mp mem, condition⟩
    · exact .inr ⟨fun all => differ (all.perm same.symm), none⟩
  required := by
    rw [h.required]
    exact and_congr ⟨fun all => all.perm same, fun all => all.perm same.symm⟩
      (by simp only [same.mem_iff])
  forbidden := by
    rw [h.forbidden]
    exact and_congr ⟨fun all => all.perm same, fun all => all.perm same.symm⟩
      (by simp only [same.mem_iff])

theorem Combines.condition_of_unanimous (h : m.Combines ds) (all : Unanimous ds) :
    ∃ d ∈ ds, m.condition = d.condition := by
  rcases h.condition with ⟨-, found⟩ | ⟨differ, -⟩
  · exact found
  · exact absurd all differ

theorem combines_of_joined (joined : joined? ds = some m)
    (alike : ∀ a ∈ ds, ∀ b ∈ ds, a.name = b.name ∧ a.kind = b.kind ∧ a.code = b.code)
    (calm : calmAfter none ds = true)
    (all : ∀ d rest, ds = d :: rest → rest.all d.agrees = true → Unanimous ds) :
    m.Combines ds := by
  cases ds with
  | nil => cases joined
  | cons d rest =>
    cases joined
    have first (x : Rule) (mem : x ∈ rest) := alike x (List.mem_cons_of_mem _ mem) d
      List.mem_cons_self
    have unanimous : Unanimous (d :: rest) ↔ rest.all d.agrees = true :=
      ⟨fun h => List.all_eq_true.mpr fun x mem => ((List.pairwise_cons.mp h).1 x mem).1,
        all d rest rfl⟩
    have widens := widens_foldl (widens_singleton d) (fun x mem => (first x mem).1)
      (fun x mem => (first x mem).2.1) (fun x mem => (first x mem).2.2) calm
    refine { toWidens := widens, condition := ?_, required := ?_, forbidden := ?_ }
    · rw [condition_foldl, unanimous]
      cases rest.all d.agrees with
      | true => exact .inl ⟨rfl, d, List.mem_cons_self, rfl⟩
      | false => exact .inr ⟨nofun, rfl⟩
    · rw [all_foldl merge_required, Bool.and_eq_true, unanimous, List.all_eq_true, List.all_eq_true]
    · rw [all_foldl merge_forbidden, Bool.and_eq_true, unanimous, List.all_eq_true, List.all_eq_true]

end Rule
end FloodScheme
