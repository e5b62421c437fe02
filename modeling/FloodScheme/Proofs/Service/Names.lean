import FloodScheme.Proofs.Saving.Success
import FloodScheme.Proofs.Service.Regular
import FloodScheme.Proofs.Service.Years
import FloodScheme.Proofs.Store.Names

/-! Names over runs from tables without schemes on. A name is searched for without the white space
around it, and it is stored and indexed with it; where there is none, the search guards the
index. -/
namespace FloodScheme
open StoreFault (nameRefused)

def Project.NameChecked (p : Project) : Prop :=
  ∃ s, p.name = .text s ∧ Catalogue.name.check (.text s) = none

namespace Proposal

variable {q : Proposal} {t t' : Tables} {p : Principal} {x x' : Project}

theorem SavesNew.nameChecked (h : q.SavesNew t p x t') : x.NameChecked := by
  obtain ⟨a, u, code, -, -, -, -, sends, creates⟩ := h.creates
  obtain ⟨v, written⟩ := sends.named h.level
  rcases sends.name_cases (creates.column "name") with ⟨missing, -⟩ | ⟨s, name, -, -, checked⟩
  · rw [missing] at written
    cases written
  · exact ⟨s, name, checked⟩

theorem SavesAgain.nameChecked (h : q.SavesAgain t p x x' t') (before : x.NameChecked) :
    x'.NameChecked := by
  obtain ⟨u, -, sends, updates⟩ := h.updates
  rcases sends.name_cases (updates.change.column "name") with ⟨-, same⟩ | ⟨s, name, -, -, checked⟩
  · obtain ⟨s, name, checked⟩ := before
    exact ⟨s, same.trans name, checked⟩
  · exact ⟨s, name, checked⟩

end Proposal

namespace Tables

variable {t : Tables}

theorem afterAttempts_nameChecked (regular : t.Regular)
    (before : ∀ p ∈ t.projects, p.NameChecked) (attempts : List Attempt) :
    ∀ p ∈ (t.afterAttempts attempts).projects, p.NameChecked := by
  induction attempts generalizing t with
  | nil => exact before
  | cons a rest ih =>
    refine ih (attempt_regular regular a).1 (attempt_keeps regular.owned a ?_ ?_ before)
    · exact fun _ _ _ _ new => new.nameChecked
    · exact fun _ _ _ _ _ again => again.nameChecked

theorem Sound.eq_of_searchedName (h : t.Sound) (ids : (t.projects.map Project.id).Nodup)
    (checked : ∀ p ∈ t.projects, p.NameChecked) {p q : Project} {a b : String}
    (mem : p ∈ t.projects) (mem' : q ∈ t.projects) (named : p.name = .text a)
    (named' : q.name = .text b) (bare : Text.trimSpace a = a) (bare' : Text.trimSpace b = b)
    (same : Database.searchedName a = Database.searchedName b) : q = p := by
  have key : ∀ x ∈ t.projects, ∀ s, x.name = .text s → Text.trimSpace s = s →
      x.nameKey? = some (Database.searchedName s) := by
    intro x mem s name bare
    obtain ⟨s', name', passed⟩ := checked x mem
    obtain rfl := Value.text.inj (name.symm.trans name')
    rw [Project.nameKey?, name, (searchedName_of_check passed bare).2]
  obtain ⟨own, keyed, others⟩ := Upsert.checkIndexes_eq_ok.mp (h.indexed p mem)
  by_contra differs
  have other : q.id ≠ p.id := fun id => differs (Upsert.eq_of_id_eq ids mem mem' id)
  refine (others q mem' other).1 ?_
  rw [← keyed, key p mem a named bare, key q mem' b named' bare', same]

/-- After any attempts on tables without schemes: if a name passes its check, has no outer white
space and `nameTaken` returns false for it, the unique index on names does not refuse the write. Two
schemes whose names have no outer white space have different names, compared without letter case. -/
theorem names_guarded (t : Tables) (attempts : List Attempt) :
    let t' := t.unused.afterAttempts attempts
    (∀ (db : Database) (u : Upsert) (s : String), db.tables = t' →
      (∀ op, db.faults op ≠ some nameRefused) → Catalogue.name.check (.text s) = none →
        Text.trimSpace s = s → u.payload.get? "name" = some (.text s) →
          db.nameTaken (.text s) (u.payload.get "referenceNumber") = .ok false →
            (u.run db).1 ≠ .error (.store nameRefused)) ∧
      ∀ p ∈ t'.projects, ∀ q ∈ t'.projects, ∀ a b, p.name = .text a → q.name = .text b →
        Text.trimSpace a = a → Text.trimSpace b = b →
          Database.searchedName a = Database.searchedName b → q = p := by
  intro t'
  obtain ⟨regular, -⟩ := afterAttempts_regular t.unused_regular attempts
  have checked := afterAttempts_nameChecked t.unused_regular
    (fun _ mem => absurd mem List.not_mem_nil) attempts
  refine ⟨fun db u s tables quiet passed bare named free => ?_,
    fun p mem q mem' a b named named' bare bare' same =>
      regular.sound.eq_of_searchedName regular.owned.ids checked mem mem' named named' bare bare'
        same⟩
  have sound : db.tables.Sound := tables ▸ regular.sound
  exact Upsert.run_ne sound quiet named (searchedName_of_check passed bare).2 free

def schemeNamed (name : String) : Attempt :=
  .answer Service.norfolk (.toSave "1" ⟨"INITIAL_SAVE", [("name", .text name), ("areaId", .int 2),
    ("projectType", .text "HCR"), ("financialStartYear", .int 2024),
    ("financialEndYear", .int 2025)]⟩) ""

def onlyNamed (name : String) : Upsert where
  payload := [("name", .text name)]
  userId := .int 1
  code := some "AN"
  now := ""

theorem names_guarded_weir :
    let db : Database :=
      { tables := Service.norfolk.tables.unused.afterAttempts [schemeNamed "Dyke"] }
    db.tables.projects.map Project.nameKey? = [some "dyke"] ∧
      (∀ op, db.faults op ≠ some nameRefused) ∧ Catalogue.name.check (.text "Weir") = none ∧
      Text.trimSpace "Weir" = "Weir" ∧ db.nameTaken (.text "Weir") .null = .ok false ∧
      ((onlyNamed "Weir").run db).1 ≠ .error (.store nameRefused) := by
  intro db
  have stored : db.tables.projects.map Project.nameKey? = [some "dyke"] := by decide
  have quiet : ∀ op, db.faults op ≠ some nameRefused := fun _ => nofun
  have free : db.nameTaken (.text "Weir") .null = .ok false := rfl
  exact ⟨stored, quiet, by decide, by decide, free,
    (names_guarded Service.norfolk.tables [schemeNamed "Dyke"]).1 db (onlyNamed "Weir") "Weir" rfl
      quiet (by decide) (by decide) rfl free⟩

theorem names_unguarded :
    let db : Database :=
      { tables := Service.norfolk.tables.unused.afterAttempts [schemeNamed " Dyke"] }
    let t := Service.norfolk.tables.unused.afterAttempts [schemeNamed " Dyke", schemeNamed "Dyke"]
    (Catalogue.name.check (.text " Dyke") = none ∧
        db.nameTaken (.text " Dyke") .null = .ok false ∧
        ((onlyNamed " Dyke").run db).1 = .error (.store nameRefused)) ∧
      ∃ p ∈ t.projects, ∃ q ∈ t.projects, p.id ≠ q.id ∧ p.name = .text " Dyke" ∧
        q.name = .text "Dyke" ∧
        Database.searchedName " Dyke" = Database.searchedName "Dyke" := by
  intro db t
  have blank : (t.projects.any fun p => p.id == 1 && p.name.equal (.text " Dyke")) = true := by
    decide
  have bare : (t.projects.any fun p => p.id == 2 && p.name.equal (.text "Dyke")) = true := by
    decide
  obtain ⟨p, mem, first⟩ := List.any_eq_true.mp blank
  obtain ⟨q, mem', second⟩ := List.any_eq_true.mp bare
  rw [Bool.and_eq_true, beq_iff_eq] at first second
  refine ⟨⟨by decide, rfl, rfl⟩, p, mem, q, mem', ?_, Value.eq_text_of_equal first.2,
    Value.eq_text_of_equal second.2, by decide⟩
  rw [first.1, second.1]
  decide

end Tables
end FloodScheme
