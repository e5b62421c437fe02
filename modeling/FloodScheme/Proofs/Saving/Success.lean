import FloodScheme.Proofs.Level.Name
import FloodScheme.Proofs.Store.Fit
import FloodScheme.Proofs.Store.Sound

/-! Success of saves. What a level and the decision accept is written if the values fit their
columns and the name is no other project's. -/
namespace FloodScheme
open Outcome Decision

namespace Catalogue

theorem rules_suit : ∀ l ∈ levels, ∀ r ∈ l.rules, ∀ f ∈ Field.writable, f.wire = r.name →
    r.kind.suits f.kind (.ofColumn f.column) = true := by decide +kernel

set_option maxRecDepth 4000 in
theorem levels_name : (levels.map fun l => l.rules.find? (·.name == "name")) =
    [some name, some name] ++ List.replicate (levels.length - 2) none := rfl

theorem eq_name {l : Level} {r : Rule} (mem : l ∈ levels)
    (found : l.rules.find? (·.name == "name") = some r) : r = name := by
  have listed : l.rules.find? (·.name == "name") ∈
      levels.map fun l => l.rules.find? (·.name == "name") := List.mem_map_of_mem mem
  rw [levels_name, found] at listed
  rcases List.mem_append.mp listed with asked | other
  · simpa using asked
  · cases List.eq_of_mem_replicate other

end Catalogue

theorem Level.Accepts.name {l : Level} {payload kept : Fields} {v : Value}
    (h : l.Accepts payload kept) (mem : l ∈ Catalogue.levels)
    (found : kept.get? "name" = some v) :
    ∃ s, v = .text s ∧ Catalogue.name.check (.text s) = none := by
  obtain ⟨r, rule, named, -, takes⟩ := h.rule_of_kept found
  have own := Registry.find?_of_mem h.apart rule
  rw [named] at own
  obtain rfl := Catalogue.eq_name mem own
  rcases takes with ⟨optional, -⟩ | checked
  · cases optional
  · obtain ⟨s, rfl⟩ := Rule.text_of_check rfl checked
    exact ⟨s, rfl, checked⟩

theorem Field.type_declared : ∀ f ∈ writable,
    (Declaration.ofColumn f.column).type = ColumnType.ofColumn f.column := by decide

theorem Decision.row_of_accepted {db : Database} {payload : Fields} {p : Principal}
    {level : Value} {a : Acceptance} {w : AreaWithParents}
    (accepted : decideProposal db.reads payload p level = .ok a) (named : a.area = some w) :
    db.tables.area? (payload.get "areaId") = some w.area := by
  have found : db.tables.withParents (payload.get "areaId") = some w := by
    rcases expected_eq_ok (expected_of_accepted accepted) with ⟨-, -, place⟩ | ⟨-, x, -, -, place⟩
    · rw [place, acceptance_area] at named
      exact named
    · rw [place, acceptance_area] at named
      by_cases moves : movesArea payload (db.tables.record x) = true
      · rw [if_pos moves] at named
        exact named
      · rw [if_neg moves] at named
        cases named
  obtain ⟨b, area, rfl⟩ := Option.map_eq_some_iff.mp found
  exact area

namespace Proposal

variable {q : Proposal} {u : Upsert} {t : Tables} {db : Database} {p : Principal}
  {a : Acceptance} {now s : String}

/-- No other project has this name, letter by letter, upper or lower case. -/
def NamesAlone (q : Proposal) (t : Tables) (s : String) : Prop :=
  ∀ x ∈ t.projects, x.nameKey? = some (Text.foldAscii s) →
    q.payload.get "referenceNumber" = .text x.reference

/-- The columns that are written fit their declarations, and so do the name of an area, the next
number of every code and the users who may ask for it. A name without white space around it is not
required to be new. -/
structure Fits (q : Proposal) (t : Tables) : Prop where
  columns : ∀ f ∈ Field.writable, ∀ v ∈ q.kept.get? f.wire,
    (Declaration.ofColumn f.column).limits (f.kind.toStorage v) = true
  name : ∀ s, q.kept.get? "name" = some (.text s) → Text.trimSpace s = s ∨ q.NamesAlone t s
  area : ∀ a, t.area? (q.payload.get "areaId") = some a →
    (Declaration.ofColumn "rma_name").fits (.text a.name) = true
  number : q.level = "INITIAL_SAVE" → ∀ w ∈ t.users, ∀ a ∈ t.areas, ∀ code ∈ a.subType,
    Upsert.Fitting (Upsert.ownColumns t code w.id)

theorem Sends.fitting (h : q.Sends u) (fits : q.Fits t)
    (area : ∀ a ∈ u.area, t.area? (q.payload.get "areaId") = some a) : Upsert.Fitting u.data := by
  obtain ⟨l, level, -, accepts⟩ := h.level
  refine Upsert.fitting_data (fun f known v sent => ?_) fun a moved => fits.area a (area a moved)
  obtain ⟨r, rule, named, -, takes⟩ := accepts.rule_of_kept sent
  refine takes.fits ?_ (fits.columns f known v (by rw [h.kept_eq]; exact sent))
  rw [Field.type_declared f known]
  exact Catalogue.rules_suit l level r rule f known named.symm

theorem Sends.name_cases (h : q.Sends u) {before after : Value}
    (leaves : Upsert.Leaves "name" before after (u.data.get? "name")) :
    u.payload.get? "name" = none ∧ after = before ∨
      ∃ s, after = .text s ∧ u.payload.get? "name" = some (.text s) ∧
        q.payload.get? "name" = some (.text s) ∧ Catalogue.name.check (.text s) = none := by
  obtain ⟨l, level, -, accepts⟩ := h.level
  rw [u.data_name] at leaves
  cases found : u.payload.get? "name" with
  | none =>
    rw [found] at leaves
    exact .inl ⟨rfl, leaves⟩
  | some v =>
    obtain ⟨s, rfl, checked⟩ := accepts.name level found
    rw [found] at leaves
    exact .inr ⟨s, leaves.text (by decide), rfl, accepts.sent_of_kept found, checked⟩

theorem Sends.named (h : q.Sends u) (level : q.level = "INITIAL_SAVE") :
    ∃ v, u.payload.get? "name" = some v := by
  obtain ⟨l, mem, named, accepts⟩ := h.level
  obtain rfl := Catalogue.eq_initialSave mem (named.trans level)
  obtain ⟨v, found, -⟩ := accepts.kept_of_required (r := Catalogue.name)
    (by simp [Catalogue.initialSave]) rfl rfl
  exact ⟨v, found⟩

theorem Fits.free (fits : q.Fits t) (h : q.Sends u) {counts : Project → Bool}
    (written : u.payload.get? "name" = some (.text s))
    (sent : q.payload.get? "name" = some (.text s))
    (checked : Catalogue.name.check (.text s) = none)
    (free : nameIsFree t (q.payload.get "name") counts = true) {x : Project}
    (mem : x ∈ t.projects) (counted : counts x = true)
    (other : q.payload.get "referenceNumber" ≠ .text x.reference) :
    x.nameKey? ≠ some (Text.foldAscii s) := by
  rcases fits.name s (by rw [h.kept_eq]; exact written) with bare | alone
  · obtain ⟨said, searched⟩ := searchedName_of_check checked bare
    rw [Fields.get, sent] at free
    simp only [nameIsFree, Option.getD_some, said, Bool.false_or, Bool.not_eq_true',
      searched] at free
    intro taken
    have hit := List.any_eq_false.mp free x mem
    simp [counted, taken] at hit
  · exact fun taken => other (alone x mem taken)

section
variable (faithful : db.faults.Faithful) (fits : q.Fits db.tables) (sends : q.Sends u)
  (area : ∀ a ∈ u.area, db.tables.area? (q.payload.get "areaId") = some a)
include faithful fits sends area

theorem create_succeeds (ahead : db.tables.Ahead)
    (level : q.level = "INITIAL_SAVE") (unnamed : q.payload.get "referenceNumber" = .null)
    (allowed : ∀ r ∈ createRequirements db.tables q.payload p, r.holds = true) (code : String)
    (coded : u.code = some code) (above : ∃ b ∈ db.tables.areas, b.subType = some code)
    (user : ∃ w ∈ db.tables.users, u.userId.key? = some w.id) :
    ∃ r, Upsert.create db u = .ok r := by
  obtain ⟨b, stored, subType⟩ := above
  obtain ⟨w, known, key⟩ := user
  have own : Upsert.Fitting (Upsert.ownColumns db.tables code u.userId.key?) := by
    rw [key]
    exact fits.number level w known b stored code subType
  have named := sends.named level
  have free := allowed ⟨nameIsFree db.tables (q.payload.get "name") fun _ => true, nameDuplicate⟩
    (by simp [createRequirements])
  refine Upsert.create_succeeds faithful coded own (sends.fitting fits area)
    fun x id reference version leaves => ?_
  rcases sends.name_cases leaves with ⟨missing, -⟩ | ⟨s, name, written, sent, checked⟩
  · obtain ⟨v, found⟩ := named
    rw [missing] at found
    cases found
  · refine Upsert.checkIndexes_eq_ok.mpr
      ⟨Text.foldAscii s, by rw [Project.nameKey?, name], fun y mem _ => ⟨?_, ?_⟩⟩
    · refine fits.free sends written sent checked free mem rfl ?_
      rw [unnamed]
      exact fun same => by cases same
    · exact fun same => absurd (same.trans reference) (ahead code y mem)

theorem update_succeeds (sound : db.tables.Sound)
    {reference : String} {x : Project}
    (named : q.payload.get "referenceNumber" = .text reference)
    (found : db.tables.project? reference = some x)
    (allowed : ∀ r ∈ updateRequirements db.tables q.payload p (.text q.level)
      (db.tables.record x), r.holds = true) :
    ∃ r, Upsert.update db u (.text reference) = .ok r := by
  have stored := Upsert.mem_of_project? found
  obtain ⟨own, -⟩ := Upsert.own_of_project? found
  have free := allowed ⟨nameIsFree db.tables (q.payload.get "name") fun y =>
    y.reference != (db.tables.record x).reference, nameDuplicate⟩ (by simp [updateRequirements])
  obtain ⟨key, keyed, others⟩ := Upsert.checkIndexes_eq_ok.mp (sound.indexed x stored)
  -- all projects are first versions, so other projects have other reference numbers
  have apart : ∀ y ∈ db.tables.projects, y.id ≠ x.id → y.reference ≠ x.reference :=
    fun y mem other same => (others y mem other).2 same
      ((sound.first y mem).trans (sound.first x stored).symm)
  refine Upsert.update_succeeds faithful found (sends.fitting fits area) (sound.single x stored)
    fun x' id reference' version leaves => ?_
  rcases sends.name_cases leaves with ⟨-, same⟩ | ⟨s, name, written, sent, checked⟩
  · refine Upsert.checkIndexes_eq_ok.mpr ⟨key, ?_, fun y mem other => ?_⟩
    · rw [Project.nameKey?, same]
      exact keyed
    · rw [id] at other
      rw [reference', version]
      exact others y mem other
  · refine Upsert.checkIndexes_eq_ok.mpr
      ⟨Text.foldAscii s, by rw [Project.nameKey?, name], fun y mem other => ?_⟩
    rw [id] at other
    have differs := apart y mem other
    constructor
    · refine fits.free sends written sent checked free mem (bne_iff_ne.mpr differs) ?_
      rw [named, ← own]
      exact fun same => differs (Value.text.inj same).symm
    · rw [reference']
      exact fun same => absurd same differs

end

theorem save_succeeds (faithful : db.faults.Faithful) (sound : db.tables.Sound)
    (ahead : db.tables.Ahead) (fits : q.Fits db.tables)
    (user : ∃ w ∈ db.tables.users, p.userId.key? = some w.id) (vetted : q.vet db p = .ok a) :
    ∃ saved, (q.save db p now).1 = .ok saved := by
  obtain ⟨clean, accepted⟩ := vet_eq_ok vetted
  obtain ⟨kept, strip⟩ := Registry.strip_of_validate clean
  obtain ⟨u, upserted⟩ : ∃ u, q.upsert p a now = .ok u := bind_succeeds strip ⟨_, rfl⟩
  obtain ⟨stripped, userId, code, area⟩ := upsert_eq_ok upserted
  have sends : q.Sends u := ⟨clean, stripped⟩
  have placed : ∀ b ∈ u.area, db.tables.area? (q.payload.get "areaId") = some b := by
    intro b moved
    obtain ⟨w, named, rfl⟩ := Option.map_eq_some_iff.mp (area.symm.trans moved)
    exact row_of_accepted accepted named
  have write : ∃ r, Upsert.write db u = .ok r := by
    unfold Upsert.write
    dsimp only
    rcases reference_cases clean stripped with ⟨level, unnamed, none⟩ | ⟨-, s, some, named, same⟩
    · obtain ⟨allowed, rfl⟩ := accepted_new unnamed accepted
      obtain ⟨b, found, row, rma, pso, c, -, parent, subType, -, coded⟩ :=
        area_of_requirements fun r hr => allowed r (List.mem_append_right _ hr)
      have above : pso ∈ db.tables.areas := Tables.mem_of_pso? (Tables.mem_of_area? row)
        ((db.tables.pso?_of_isRma rma).trans parent)
      rw [none]
      refine create_succeeds faithful fits sends placed ahead level unnamed allowed c ?_
        ⟨pso, above, subType⟩ (by rw [userId]; exact user)
      rw [code, acceptance, found, ← coded]
      rfl
    · obtain ⟨x, found, allowed, -⟩ := accepted_again some named accepted
      rw [same, if_pos (by simpa [Value.truthy] using some)]
      exact update_succeeds faithful fits sends placed sound named found allowed
  obtain ⟨⟨t, x⟩, written⟩ := write
  refine ⟨⟨x, a.existing.isNone⟩, ?_⟩
  unfold save
  simp only [vetted, upserted, Upsert.run_succeeds faithful written]

end Proposal
end FloodScheme
