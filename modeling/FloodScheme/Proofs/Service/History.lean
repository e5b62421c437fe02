import FloodScheme.Proofs.Saving.Rights
import FloodScheme.Proofs.Service.Saving
import Mathlib.Data.List.Induction

/-! Runs of the service from tables without schemes on: requests of any kind, by anybody, one
after another. -/
namespace FloodScheme.Service

/-- The service after requests one after another, each at its time. -/
def after (s : Service) (visits : List (Request × String)) : Service :=
  visits.foldl (fun s v => (s.answer v.1 v.2).2) s

/-- The service before any scheme was made. -/
def unused (s : Service) : Service :=
  { s with tables := { s.tables with projects := [], states := [], links := [] } }

def requester? (s : Service) (r : Request) : Option UserRow :=
  (r.user.filter (· != "")).bind fun id => s.tables.user? (.text id)

def MadeBy (s : Service) (r : Request) (now : String) (p : Project) : Prop :=
  ∃ u, s.requester? r = some u ∧ s.tables.Made u p (s.answer r now).2.tables

/-- The requester has the right to every change between `p` and `p'`. -/
structure Rightful (s : Service) (r : Request) (p p' : Project) (t' : Tables) : Prop where
  same : p'.id = p.id ∧ p'.reference = p.reference ∧ p'.creatorId = p.creatorId
  owner : t'.ownerLink? p.id ≠ s.tables.ownerLink? p.id →
    ∃ u, s.requester? r = some u ∧ u.admin = true
  columns : p' ≠ p → ∃ u l, s.requester? r = some u ∧ s.tables.ownerLink? p.id = some l ∧
    s.tables.MayChange u l.areaId

theorem entitles_of_caller {s : Service} {r : Request} {p : Principal}
    (h : s.caller r = .ok p) : ∃ u, s.requester? r = some u ∧ s.tables.Entitles u p := by
  obtain ⟨id, named, found⟩ := caller_eq_ok h
  obtain ⟨u, user, rights⟩ := principal_eq_ok found
  refine ⟨u, ?_, rights⟩
  rw [requester?, named, Option.bind_some]
  exact user

theorem answer_tables (s : Service) (r : Request) (now : String) :
    (s.answer r now).2.tables = s.tables ∨
      ∃ u p q, s.requester? r = some u ∧ s.tables.Entitles u p ∧ r.Proposes q ∧
        ((∃ x, Proposal.SavesNew q s.tables p x (s.answer r now).2.tables) ∨
          ∃ x x', Proposal.SavesAgain q s.tables p x x' (s.answer r now).2.tables) := by
  cases found : Endpoint.find r.method r.path with
  | error response =>
    rw [answer, found]
    exact .inl rfl
  | ok e =>
    rw [answer_eq found]
    cases e with
    | upsert =>
      rcases answerUpsert_cases s r now with
        ⟨-, same⟩ | ⟨p, q, saved, called, sent, saves, answered⟩
      · exact .inl (congrArg tables same)
      · obtain ⟨u, user, rights⟩ := entitles_of_caller called
        refine .inr ⟨u, p, q, user, rights, sent, ?_⟩
        dsimp only [answerAt]
        rw [answered]
        rcases Proposal.save_cases saves with ⟨-, new⟩ | ⟨-, x, again⟩
        · exact .inl ⟨saved.project, new⟩
        · exact .inr ⟨x, saved.project, again⟩
    | areas =>
      refine .inl ?_
      dsimp only [answerAt]
      unfold answerAreas
      split
      · rfl
      · split
        · rfl
        · rfl
    | root => exact .inl rfl
    | health => exact .inl rfl
    | ready => exact .inl rfl
    | live => exact .inl rfl
    | validate => exact .inl rfl
    | checkName => exact .inl rfl
    | project reference => exact .inl rfl
    | area id => exact .inl rfl

theorem answer_owned {s : Service} (r : Request) (now : String) (before : s.tables.Owned) :
    (s.answer r now).2.tables.Owned := by
  rcases answer_tables s r now with same | ⟨u, p, q, -, -, -, ⟨x, new⟩ | ⟨x, x', again⟩⟩
  · rw [same]
    exact before
  · exact new.owned before
  · exact again.owned before

theorem answer_others (s : Service) (r : Request) (now : String) :
    (s.answer r now).2.tables.areas = s.tables.areas ∧
      (s.answer r now).2.tables.users = s.tables.users ∧
      (s.answer r now).2.tables.memberships = s.tables.memberships := by
  rcases answer_tables s r now with same | ⟨u, p, q, -, -, -, ⟨x, new⟩ | ⟨x, x', again⟩⟩
  · rw [same]
    exact ⟨rfl, rfl, rfl⟩
  · exact new.others
  · exact again.changes.others

theorem rightful_of_same {s : Service} {r : Request} {p : Project} {t' : Tables}
    (link : t'.ownerLink? p.id = s.tables.ownerLink? p.id) : Rightful s r p p t' where
  same := ⟨rfl, rfl, rfl⟩
  owner differs := absurd link differs
  columns differs := absurd rfl differs

theorem answer_rightful {s : Service} (r : Request) (now : String) (before : s.tables.Owned)
    {p : Project} (mem : p ∈ s.tables.projects) :
    ∃ p' ∈ (s.answer r now).2.tables.projects,
      Rightful s r p p' (s.answer r now).2.tables := by
  rcases answer_tables s r now with same | ⟨u, c, q, user, rights, -, ⟨x, new⟩ | ⟨x, x', again⟩⟩
  · rw [same]
    exact ⟨p, mem, rightful_of_same rfl⟩
  · refine ⟨p, ?_, rightful_of_same (new.ownerLink before mem)⟩
    rw [new.projects]
    exact List.mem_append_left _ mem
  · have admin (differs : (s.answer r now).2.tables.ownerLink? p.id ≠ s.tables.ownerLink? p.id) :
        ∃ u, s.requester? r = some u ∧ u.admin = true :=
      ⟨u, user, rights.isAdmin ▸ again.admin_of_link differs⟩
    have row : (if p.id = x.id then x' else p) ∈ (s.answer r now).2.tables.projects := by
      rw [again.projects before]
      exact List.mem_map_of_mem mem
    by_cases own : p.id = x.id
    · rw [if_pos own] at row
      have identity := again.changes.identity
      have found : p = x := Upsert.eq_of_id_eq before.ids again.changes.mem mem own
      subst found
      obtain ⟨l, link, may⟩ := again.mayChange before rights
      exact ⟨x', row, ⟨identity.1, identity.2.1, identity.2.2.2.2.1⟩, admin,
        fun _ => ⟨u, l, user, link, may⟩⟩
    · rw [if_neg own] at row
      exact ⟨p, row, ⟨rfl, rfl, rfl⟩, admin, fun differs => absurd rfl differs⟩

theorem answer_made {s : Service} (r : Request) (now : String) (before : s.tables.Owned)
    {p : Project} (mem : p ∈ (s.answer r now).2.tables.projects) :
    (∃ y ∈ s.tables.projects, p.id = y.id ∧ p.reference = y.reference ∧
        p.creatorId = y.creatorId) ∨ MadeBy s r now p := by
  rcases answer_tables s r now with same | ⟨u, c, q, user, rights, -, ⟨x, new⟩ | ⟨x, x', again⟩⟩
  · rw [same] at mem
    exact .inl ⟨p, mem, rfl, rfl, rfl⟩
  · rw [new.projects, List.mem_append, List.mem_singleton] at mem
    rcases mem with old | rfl
    · exact .inl ⟨p, old, rfl, rfl, rfl⟩
    · exact .inr ⟨u, user, new.made before rights⟩
  · rw [again.projects before] at mem
    obtain ⟨y, old, changed⟩ := List.mem_map.mp mem
    refine .inl ?_
    split at changed
    · subst changed
      have identity := again.changes.identity
      exact ⟨x, again.changes.mem, identity.1, identity.2.1, identity.2.2.2.2.1⟩
    · subst changed
      exact ⟨y, old, rfl, rfl, rfl⟩

theorem answer_keeps {s : Service} {r : Request} {now : String} {P : Project → Prop}
    (owned : s.tables.Owned)
    (made : ∀ q p x t', r.Proposes q → Proposal.SavesNew q s.tables p x t' → P x)
    (changed : ∀ q p x x' t', r.Proposes q → Proposal.SavesAgain q s.tables p x x' t' → P x → P x')
    (before : ∀ p ∈ s.tables.projects, P p) :
    ∀ p ∈ (s.answer r now).2.tables.projects, P p := by
  rcases answer_tables s r now with same | ⟨u, c, q, -, -, sent, ⟨x, new⟩ | ⟨x, x', again⟩⟩
  · rw [same]
    exact before
  · exact new.forall_projects (made q c x _ sent new) before
  · exact again.forall_projects owned (changed q c x x' _ sent again) before

theorem after_concat (s : Service) (visits : List (Request × String)) (v : Request × String) :
    s.after (visits ++ [v]) = ((s.after visits).answer v.1 v.2).2 := by
  rw [after, List.foldl_append]
  rfl

theorem unused_owned (s : Service) : s.unused.tables.Owned where
  ids := List.nodup_nil
  links := rfl
  leads _ h := absurd h List.not_mem_nil

theorem after_owned {s : Service} (visits : List (Request × String)) (start : s.tables.Owned) :
    (s.after visits).tables.Owned := by
  induction visits using List.reverseRecOn with
  | nil => exact start
  | append_singleton visits v ih =>
    rw [after_concat]
    exact answer_owned v.1 v.2 ih

theorem after_others (s : Service) (visits : List (Request × String)) :
    (s.after visits).tables.areas = s.tables.areas ∧
      (s.after visits).tables.users = s.tables.users ∧
      (s.after visits).tables.memberships = s.tables.memberships := by
  induction visits using List.reverseRecOn with
  | nil => exact ⟨rfl, rfl, rfl⟩
  | append_singleton visits v ih =>
    have step := answer_others (s.after visits) v.1 v.2
    rw [after_concat, step.1, step.2.1, step.2.2]
    exact ih

theorem after_made {s : Service} (visits : List (Request × String)) (start : s.tables.Owned)
    (none : s.tables.projects = []) :
    ∀ p ∈ (s.after visits).tables.projects, ∃ before r now later,
      visits = before ++ (r, now) :: later ∧ MadeBy (s.after before) r now p := by
  induction visits using List.reverseRecOn with
  | nil =>
    intro p mem
    rw [after, List.foldl_nil, none] at mem
    cases mem
  | append_singleton visits v ih =>
    intro p mem
    rw [after_concat] at mem
    rcases answer_made v.1 v.2 (after_owned visits start) mem with
      ⟨y, old, id, reference, creator⟩ | made
    · obtain ⟨before, r, now, later, split, u, user, made⟩ := ih y old
      refine ⟨before, r, now, later ++ [v], ?_, u, user, made.of_same id reference creator⟩
      rw [split, List.append_assoc]
      rfl
    · exact ⟨visits, v.1, v.2, [], rfl, made⟩

/-- After any requests to a service without schemes: every scheme has an owner link to an RMA whose
PSO Area has a coordination code, and was created by a user with an RMA membership who is a member
of the area of creation, whose code starts the reference number. A further request changes the owner
link only if its user is an admin, and any column only if its user is an admin or a member of the
owner area or its parent. -/
theorem ownership_lawful (s : Service) (visits : List (Request × String)) :
    let s' := s.unused.after visits
    (s'.tables.areas = s.tables.areas ∧ s'.tables.users = s.tables.users ∧
        s'.tables.memberships = s.tables.memberships) ∧
      (s'.tables.projects.map Project.id).Nodup ∧
      (∀ p ∈ s'.tables.projects,
        (∃ l, s'.tables.ownerLink? p.id = some l ∧ s'.tables.Leads l.areaId) ∧
          ∃ before r now later, visits = before ++ (r, now) :: later ∧
            MadeBy (s.unused.after before) r now p) ∧
      ∀ r now, ∀ p ∈ s'.tables.projects, ∃ p' ∈ (s'.answer r now).2.tables.projects,
        Rightful s' r p p' (s'.answer r now).2.tables := by
  intro s'
  have owned : s'.tables.Owned := after_owned visits s.unused_owned
  refine ⟨after_others s.unused visits, owned.ids, fun p mem => ⟨?_, ?_⟩, fun r now p mem => ?_⟩
  · obtain ⟨l, link, stored⟩ := owned.ownerLink mem
    exact ⟨l, link, owned.leads l stored⟩
  · exact after_made visits s.unused_owned rfl p mem
  · exact answer_rightful r now owned mem

end FloodScheme.Service
