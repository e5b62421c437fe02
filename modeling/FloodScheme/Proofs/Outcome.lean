import FloodScheme.Store.Operation

/-! Inversion of computations that may stop: a sequence returns only if each of its steps returned.
-/
namespace FloodScheme.Outcome

variable {ε ε' α β : Type}

theorem bind_eq_ok {x : Except ε α} {f : α → Except ε β} {b : β} :
    (x >>= f) = .ok b ↔ ∃ a, x = .ok a ∧ f a = .ok b := by
  cases x with
  | error e => simp [bind, Except.bind]
  | ok a => simp [bind, Except.bind]

theorem bind_succeeds {x : Except ε α} {f : α → Except ε β} {a : α} (first : x = .ok a)
    (rest : ∃ b, f a = .ok b) : ∃ b, (x >>= f) = .ok b := by
  rw [first]
  exact rest

theorem bind_eq_error {x : Except ε α} {f : α → Except ε β} {e : ε} :
    (x >>= f) = .error e ↔ x = .error e ∨ ∃ a, x = .ok a ∧ f a = .error e := by
  cases x with
  | error e => simp [bind, Except.bind]
  | ok a => simp [bind, Except.bind]

theorem pure_eq_ok {a b : α} : (pure a : Except ε α) = .ok b ↔ a = b := by
  simp [pure, Except.pure]

theorem map_eq_ok {x : Except ε α} {f : α → β} {b : β} :
    x.map f = .ok b ↔ ∃ a, x = .ok a ∧ f a = b := by
  cases x with
  | error e => simp [Except.map]
  | ok a => simp [Except.map]

theorem mapError_eq_ok {x : Except ε α} {g : ε → ε'} {a : α} :
    x.mapError g = .ok a ↔ x = .ok a := by
  cases x with
  | error e =>
    constructor
    · intro h
      cases h
    · intro h
      cases h
  | ok b =>
    constructor
    · intro h
      exact congrArg _ (Except.ok.inj h)
    · intro h
      exact congrArg _ (Except.ok.inj h)

theorem mapError_eq_error {x : Except ε α} {g : ε → ε'} {e : ε'} :
    x.mapError g = .error e ↔ ∃ e', x = .error e' ∧ g e' = e := by
  cases x with
  | error e₀ =>
    constructor
    · intro h
      exact ⟨e₀, rfl, Except.error.inj h⟩
    · rintro ⟨e', same, rfl⟩
      rw [Except.error.inj same]
      rfl
  | ok b =>
    constructor
    · intro h
      cases h
    · rintro ⟨e', same, -⟩
      cases same

theorem mem_of_mapM {f : α → Except ε β} {xs : List α} {ys : List β} (h : xs.mapM f = .ok ys) :
    ∀ y ∈ ys, ∃ x ∈ xs, f x = .ok y := by
  induction xs generalizing ys with
  | nil =>
    cases h
    exact nofun
  | cons x rest ih =>
    rw [List.mapM_cons] at h
    obtain ⟨y, first, h⟩ := bind_eq_ok.mp h
    obtain ⟨others, collected, h⟩ := bind_eq_ok.mp h
    obtain rfl := pure_eq_ok.mp h
    refine List.forall_mem_cons.mpr ⟨⟨x, List.mem_cons_self, first⟩, fun z mem => ?_⟩
    obtain ⟨w, inside, found⟩ := ih collected z mem
    exact ⟨w, List.mem_cons_of_mem _ inside, found⟩

theorem mapM_succeeds {f : α → Except ε β} {xs : List α} (each : ∀ x ∈ xs, ∃ y, f x = .ok y) :
    ∃ ys, xs.mapM f = .ok ys := by
  induction xs with
  | nil => exact ⟨[], rfl⟩
  | cons x rest ih =>
    obtain ⟨⟨y, first⟩, each⟩ := List.forall_mem_cons.mp each
    obtain ⟨ys, collected⟩ := ih each
    rw [List.mapM_cons]
    exact bind_succeeds first (bind_succeeds collected ⟨_, rfl⟩)

theorem attempt_eq_ok {faults : Faults} {op : Operation} :
    faults.attempt op = .ok () ↔ faults op = none := by
  unfold Faults.attempt
  split
  · next f hf => simp [hf]
  · next hf => simp [hf]

theorem bind_ne_error {x : Except ε α} {f : α → Except ε β} {e : ε} (first : x ≠ .error e)
    (rest : ∀ a, x = .ok a → f a ≠ .error e) : (x >>= f) ≠ .error e := by
  intro h
  rcases bind_eq_error.mp h with stopped | ⟨a, reached, stopped⟩
  · exact first stopped
  · exact rest a reached stopped

theorem map_ne_error {x : Except ε α} {f : α → β} {e : ε} (h : x ≠ .error e) :
    x.map f ≠ .error e := by
  cases x with
  | error e' => exact fun same => h (congrArg Except.error (Except.error.inj same))
  | ok a => exact nofun

theorem mapM_ne_error {f : α → Except ε β} {xs : List α} {e : ε}
    (each : ∀ x ∈ xs, f x ≠ .error e) : xs.mapM f ≠ .error e := by
  induction xs with
  | nil => exact nofun
  | cons x rest ih =>
    obtain ⟨first, each⟩ := List.forall_mem_cons.mp each
    rw [List.mapM_cons]
    exact bind_ne_error first fun _ _ => bind_ne_error (ih each) fun _ _ => nofun

theorem attempt_ne_error {faults : Faults} {op : Operation} {f : StoreFault}
    (quiet : faults op ≠ some f) : faults.attempt op ≠ .error (.store f) := by
  unfold Faults.attempt
  split
  · next g found =>
    intro h
    cases h
    exact quiet found
  · exact nofun

/-- A computation has this result unless it stops, and where it is calm it does not stop. -/
def Gives (calm : Prop) (x : Except ε α) (a : α) : Prop :=
  x = .ok a ∨ ¬ calm ∧ ∃ e, x = .error e

namespace Gives

variable {calm : Prop} {x : Except ε α} {a : α}

theorem pure (a : α) : Gives calm (Pure.pure a : Except ε α) a := .inl rfl

theorem bind {f : α → Except ε β} {b : β} (h : Gives calm x a) (then_ : Gives calm (f a) b) :
    Gives calm (x >>= f) b := by
  rcases h with rfl | ⟨wild, e, rfl⟩
  · exact then_
  · exact .inr ⟨wild, e, rfl⟩

theorem guard {x : Except ε Unit} {y : Except ε β} {b : β} (h : calm → x = .ok ())
    (then_ : Gives calm y b) : Gives calm (x >>= fun _ => y) b := by
  refine bind (a := ()) ?_ then_
  cases x with
  | ok _ => exact .inl rfl
  | error e =>
    have wild : ¬ calm := fun quiet => by cases h quiet
    exact .inr ⟨wild, e, rfl⟩

end Gives

end FloodScheme.Outcome
