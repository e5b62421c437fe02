import FloodScheme.Proofs.Saving.Regular
import FloodScheme.Proofs.Service.History

/-! Runs from tables without schemes in which anything may fail. The tables stay consistent about
every scheme, and no scheme is removed or gets another number, version or creator. -/
namespace FloodScheme

/-- A save in which any operation of the database may fail, or a request to a service in any state.
-/
inductive Attempt
  | save (q : Proposal) (p : Principal) (faults : Faults) (now : String)
  | answer (s : Service) (r : Request) (now : String)

namespace Tables

/-- The tables that an attempt leaves. -/
def attempt (t : Tables) : Attempt → Tables
  | .save q p faults now => (q.save ⟨t, faults⟩ p now).2
  | .answer s r now => (Service.answer { s with tables := t } r now).2.tables

def afterAttempts (t : Tables) (attempts : List Attempt) : Tables := attempts.foldl attempt t

/-- The tables before any scheme was made. -/
def unused (t : Tables) : Tables := { t with projects := [], states := [], links := [] }

variable {t : Tables}

theorem attempt_regular (before : t.Regular) (a : Attempt) :
    (t.attempt a).Regular ∧ t.Extends (t.attempt a) := by
  cases a with
  | save q p faults now => exact @Proposal.save_regular q ⟨t, faults⟩ p now before
  | answer s r now =>
    rcases Service.answer_tables { s with tables := t } r now with
      same | ⟨-, p, q, -, -, -, ⟨x, new⟩ | ⟨x, x', again⟩⟩
    · rw [attempt, same]
      exact ⟨before, .refl t⟩
    · exact new.regular before
    · exact again.regular before

theorem attempt_keeps {P : Project → Prop} (owned : t.Owned) (a : Attempt)
    (made : ∀ q p x t', Proposal.SavesNew q t p x t' → P x)
    (changed : ∀ q p x x' t', Proposal.SavesAgain q t p x x' t' → P x → P x')
    (before : ∀ p ∈ t.projects, P p) : ∀ p ∈ (t.attempt a).projects, P p := by
  cases a with
  | save q p faults now =>
    rcases Proposal.save_tables q ⟨t, faults⟩ p now with same | ⟨x, new⟩ | ⟨x, x', again⟩
    · rw [attempt, same]
      exact before
    · exact new.forall_projects (made q p x _ new) before
    · exact again.forall_projects owned (changed q p x x' _ again) before
  | answer s r now =>
    rcases Service.answer_tables { s with tables := t } r now with
      same | ⟨-, p, q, -, -, -, ⟨x, new⟩ | ⟨x, x', again⟩⟩
    · rw [attempt, same]
      exact before
    · exact new.forall_projects (made q p x _ new) before
    · exact again.forall_projects owned (changed q p x x' _ again) before

theorem afterAttempts_regular (before : t.Regular) (attempts : List Attempt) :
    (t.afterAttempts attempts).Regular ∧ t.Extends (t.afterAttempts attempts) := by
  induction attempts generalizing t with
  | nil => exact ⟨before, .refl t⟩
  | cons a rest ih =>
    obtain ⟨after, first⟩ := attempt_regular before a
    obtain ⟨last, later⟩ := ih after
    exact ⟨last, first.trans later⟩

theorem unused_regular (t : Tables) : t.unused.Regular where
  owned := ⟨List.nodup_nil, rfl, fun _ mem => absurd mem List.not_mem_nil⟩
  sound := ⟨fun _ mem => absurd mem List.not_mem_nil, fun _ mem => absurd mem List.not_mem_nil,
    fun _ mem => absurd mem List.not_mem_nil⟩
  slugs _ mem := absurd mem List.not_mem_nil
  states := rfl
  named _ mem := absurd mem List.not_mem_nil

/-- After any attempts on tables without schemes: every scheme has version 1, the slug of its
reference number, one state, `draft`, and one link, which is its owner link and leads to an area
with its `rma_name`. `Database.project` and `projectRow` return that same area, and they return the
scheme when no operation fails. Further attempts remove no scheme and keep its identity. -/
theorem schemes_kept (t : Tables) (attempts : List Attempt) :
    let t' := t.unused.afterAttempts attempts
    t'.areas = t.areas ∧ (t'.projects.map Project.id).Nodup ∧
      (∀ p ∈ t'.projects, ∃ a, t'.Keeps p a) ∧
      (∀ (db db' : Database) (reference : Value) (record : ProjectRecord) (row : Fields),
        db.tables = t' → db'.tables = t' → db.project reference = .ok (some record) →
          db'.projectRow reference = .ok (some row) →
            ∃ p ∈ t'.projects, ∃ a, t'.Keeps p a ∧ record.id = p.id ∧
              record.areaId = some a.id ∧
              Field.sideRow row Field.linkTable =
                .object [("area_id", .int a.id), ("owner", .bool true)] ∧
              ∀ wire, Field.toWire row = .ok wire → wire.get? "areaId" = some (.int a.id)) ∧
      (∀ p ∈ t'.projects, ∃ record row,
        Database.project { tables := t' } (.text p.reference) = .ok (some record) ∧
        Database.projectRow { tables := t' } (.text p.reference) = .ok (some row)) ∧
      ∀ later, t'.Extends (t'.afterAttempts later) := by
  intro t'
  obtain ⟨regular, extends_⟩ := afterAttempts_regular t.unused_regular attempts
  exact ⟨extends_.areas, regular.owned.ids, fun p mem => regular.keeps mem,
    fun db db' reference record row tables tables' read shown =>
      regular.reads tables tables' read shown,
    fun p mem => regular.readable mem,
    fun later => (afterAttempts_regular regular later).2⟩

end Tables
end FloodScheme
