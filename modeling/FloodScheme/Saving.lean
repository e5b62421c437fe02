import FloodScheme.Decision
import FloodScheme.Level.Catalogue
import FloodScheme.Level.Validation
import FloodScheme.Store.Upsert

/-! Saving one step of a proposal: the rules of its level first, then the decision, then the
write of the active fields. -/
namespace FloodScheme

structure Proposal where
  level : String
  payload : Fields

inductive Rejection
  /-- The payload fails the rules of its level. -/
  | rules (failures : List Failure)
  | failure (f : Failure)
  | fault (f : Fault)

def Halt.rejection : Halt → Rejection
  | .failure f => .failure f
  | .fault f => .fault f

structure Saved where
  project : Project
  created : Bool

namespace Proposal

/-- Rules and decision, without a write. -/
def vet (q : Proposal) (db : Database) (p : Principal) : Except Rejection Acceptance :=
  match Catalogue.registry.validate (.text q.level) q.payload with
  | .error f => .error (.fault f)
  | .ok [] => (decideProposal db.reads q.payload p (.text q.level)).mapError Halt.rejection
  | .ok failures => .error (.rules failures)

/-- The write that an acceptance leads to. -/
def upsert (q : Proposal) (p : Principal) (a : Acceptance) (now : String) :
    Except Fault Upsert := do
  pure
    { payload := ← Catalogue.registry.strip (.text q.level) q.payload
      userId := p.userId
      code := a.code
      area := a.area.map AreaWithParents.area
      now }

/-- The saved project or why there is none, and the tables as they are left. -/
def save (q : Proposal) (db : Database) (p : Principal) (now : String) :
    Except Rejection Saved × Tables :=
  match q.vet db p with
  | .error r => (.error r, db.tables)
  | .ok a =>
    match q.upsert p a now with
    | .error f => (.error (.fault f), db.tables)
    | .ok u =>
      match u.run db with
      | (.error f, tables) => (.error (.fault f), tables)
      | (.ok project, tables) => (.ok ⟨project, a.existing.isNone⟩, tables)

end Proposal
end FloodScheme
