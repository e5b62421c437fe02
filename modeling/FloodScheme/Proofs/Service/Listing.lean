import FloodScheme.Proofs.Json.RoundTrip
import FloodScheme.Proofs.Service.Success

/-! Listings of areas from the cache. Every type has a key of its own, and what the cache holds
under it is the listing of that type, as long as the areas stay and nobody else writes there. So
it makes no difference to a listing whether it comes from the cache or from the store. -/
namespace FloodScheme
open Outcome

theorem textJoin_nil (separator : String) : textJoin separator [] = "" := rfl

theorem textJoin_singleton (separator s : String) : textJoin separator [s] = s := by
  simp [textJoin, Value.joined]

theorem listingKey_none : listingKey none = "api:areas:_cached_area_listing::" := by
  simp [listingKey, cacheKey, textJoin_nil, Value.isNull]

theorem listingKey_some (type : String) :
    listingKey (some type) = "api:areas:_cached_area_listing::" ++ ("area_type=" ++ type) := by
  simp [listingKey, cacheKey, textJoin_nil, textJoin_singleton, Value.isNull, Value.shown]

theorem listingKey_injective : Function.Injective listingKey := by
  have named (type : String) : listingKey (some type) ≠ listingKey none := by
    intro same
    rw [listingKey_none, listingKey_some] at same
    simpa using congrArg String.length same
  intro a b same
  cases a with
  | none => cases b with
    | none => rfl
    | some type => exact absurd same.symm (named type)
  | some type => cases b with
    | none => exact absurd same (named type)
    | some type' =>
      rw [listingKey_some, listingKey_some] at same
      have texts := congrArg String.toList same
      simp only [String.toList_append, List.append_cancel_left_eq] at texts
      rw [String.toList_inj.mp texts]

namespace Area
open Json Number

theorem plain_elim {α : Type} {n : Nat} (o : Option α) {f : α → Value}
    (each : ∀ a ∈ o, Plain n (f a)) : Plain n (o.elim .null f) := by
  cases o with
  | none => exact .null n
  | some a => exact each a rfl

theorem plain_view {a : Area} (legible : isLegible (.object a.view) = true) :
    Plain 1 (.object a.view) := by
  have own : isWritable a.id = true ∧ isLegible (a.parentId.elim .null .int) = true := by
    simp only [view, isLegible, legibleMembers, Bool.and_eq_true] at legible
    exact ⟨legible.1, legible.2.2.2.1⟩
  have parent : ∀ i ∈ a.parentId, isWritable i = true := by
    intro i mem
    rw [Option.mem_def.mp mem] at own
    exact own.2
  refine .object (by simp [Fields.names, view]) ?_
  simp only [view, List.forall_mem_cons]
  refine ⟨.int 0 own.1, .text 0 _, .text 0 _, ?_, ?_, ?_, ?_, by simp⟩
  · exact plain_elim _ fun i mem => .int 0 (parent i mem)
  · exact plain_elim _ fun s _ => .text 0 s
  · exact plain_elim _ fun s _ => .text 0 s
  · exact plain_elim _ fun s _ => .text 0 s

end Area

theorem plain_listing {areas : List Area} (legible : Json.isLegible (listing areas) = true) :
    Json.Plain 2 (listing areas) := by
  refine .list ?_
  rw [listing, Json.isLegible] at legible
  induction areas with
  | nil => simp
  | cons a rest ih =>
    rw [List.map_cons, Json.legibleItems, Bool.and_eq_true] at legible
    exact List.forall_mem_cons.mpr ⟨Area.plain_view legible.1, ih legible.2⟩

theorem read_listing {areas : List Area} {text : String}
    (written : Json.write? (listing areas) = some text) : Json.read text = .ok (listing areas) := by
  unfold Json.write? at written
  split at written
  · next legible =>
    obtain rfl := Option.some.inj written
    exact Json.read_written (plain_listing legible) (by decide)
  · cases written

theorem writable_elim {α : Type} (o : Option α) {f : α → Value}
    (each : ∀ a, (f a).isWritable = true) : (o.elim .null f).isWritable = true := by
  cases o with
  | none => rfl
  | some a => exact each a

theorem writable_listing (areas : List Area) : (listing areas).isWritable = true := by
  rw [listing, Value.isWritable]
  induction areas with
  | nil => rfl
  | cons a rest ih =>
    rw [List.map_cons, writableItems, ih]
    simp only [Area.view, Value.isWritable, writableMembers, Bool.and_eq_true, and_true, true_and]
    exact ⟨writable_elim _ fun _ => rfl, writable_elim _ fun _ => rfl,
      writable_elim _ fun _ => rfl, writable_elim _ fun _ => rfl⟩

namespace Cache

def held? (c : Cache) (key : String) : Option CacheEntry := c.entries.find? (·.key == key)

theorem find?_put (entries : List CacheEntry) (e : CacheEntry) (key : String) :
    (put e entries).find? (·.key == key) =
      if e.key = key then some e else entries.find? (·.key == key) := by
  induction entries with
  | nil =>
    by_cases own : e.key = key
    · simp [put, own]
    · simp [put, own]
  | cons first rest ih =>
    unfold put
    by_cases replaced : first.key = e.key
    · rw [if_pos replaced]
      by_cases own : e.key = key
      · simp [own]
      · simp [replaced, own]
    · rw [if_neg replaced]
      by_cases own : first.key = key
      · have other : ¬ e.key = key := fun same => replaced (own.trans same.symm)
        simp [own, other]
      · simp [own, ih]

theorem held?_set (c : Cache) (key : String) (v : Value) (seconds : Int) (other : String) :
    (c.set key v seconds).held? other = c.held? other ∨
      key = other ∧ ∃ text, Json.write? v = some text ∧
        (c.set key v seconds).held? other = some ⟨key, seconds, (Json.read text).toOption⟩ := by
  unfold set
  split
  · cases written : Json.write? v with
    | none => exact .inl rfl
    | some text =>
      by_cases same : key = other
      · exact .inr ⟨same, text, rfl, by simp [setText, held?, find?_put, same]⟩
      · exact .inl (by simp [setText, held?, find?_put, same])
  · exact .inl rfl

theorem held?_of_get {c : Cache} {key : String} {v : Value} (h : c.get key = some v) :
    ∃ e, c.held? key = some e ∧ e.value = some v := by
  unfold get at h
  split at h
  · exact Option.bind_eq_some_iff.mp (Option.filter_eq_some_iff.mp h).1
  · cases h

end Cache

/-- Areas of a type by name, as the store lists them. -/
def Tables.areasOfType (t : Tables) (type : Option String) : List Area :=
  (t.areas.filter fun a => (type.filter (· != "")).all (a.type == ·)).mergeSort
    fun a b => !decide (b.name < a.name)

theorem Tables.areasOfType_congr {t t' : Tables} (same : t'.areas = t.areas)
    (type : Option String) : t'.areasOfType type = t.areasOfType type := by
  rw [areasOfType, areasOfType, same]

theorem Database.areasOfType_eq_ok {db : Database} {type : Option String} {found : List Area} :
    db.areasOfType type = .ok found ↔
      db.faults .listAreas = none ∧ db.tables.areasOfType type = found := by
  rw [areasOfType, bind_eq_ok]
  constructor
  · rintro ⟨_, quiet, listed⟩
    exact ⟨attempt_eq_ok.mp quiet, pure_eq_ok.mp listed⟩
  · rintro ⟨quiet, rfl⟩
    exact ⟨(), attempt_eq_ok.mpr quiet, rfl⟩

/-- Every readable entry for a type is the listing of the type. -/
def Cache.Holds (c : Cache) (t : Tables) : Prop :=
  ∀ type e v, c.held? (listingKey type) = some e → e.value = some v →
    v = listing (t.areasOfType type)

namespace Cache.Holds

variable {c c' : Cache} {t t' : Tables}

theorem congr (h : c.Holds t) (same : t'.areas = t.areas) : c.Holds t' := by
  intro type e v found value
  rw [Tables.areasOfType_congr same]
  exact h type e v found value

theorem mono (h : c.Holds t) (entries : ∀ type, c'.held? (listingKey type) =
    c.held? (listingKey type) ∨ c'.held? (listingKey type) = none) : c'.Holds t := by
  intro type e v found value
  rcases entries type with stays | gone
  · exact h type e v (stays ▸ found) value
  · cases gone.symm.trans found

theorem get (h : c.Holds t) {type : Option String} {v : Value}
    (hit : c.get (listingKey type) = some v) : v = listing (t.areasOfType type) := by
  obtain ⟨e, found, value⟩ := held?_of_get hit
  exact h type e v found value

theorem set (h : c.Holds t) (type : Option String) (seconds : Int) :
    (c.set (listingKey type) (listing (t.areasOfType type)) seconds).Holds t := by
  intro other e v found value
  rcases c.held?_set (listingKey type) (listing (t.areasOfType type)) seconds
    (listingKey other) with same | ⟨key, text, written, own⟩
  · exact h other e v (same ▸ found) value
  · obtain rfl := listingKey_injective key
    obtain rfl := Option.some.inj (own.symm.trans found)
    rw [read_listing written] at value
    exact (Option.some.inj value).symm

end Cache.Holds

theorem cachedListing_holds {db : Database} {c : Cache} (h : c.Holds db.tables)
    (type : Option String) :
    ((cachedListing db c type).1 = .ok (listing (db.tables.areasOfType type)) ∨
        ∃ f, (cachedListing db c type).1 = .error f ∧ db.faults .listAreas ≠ none) ∧
      (cachedListing db c type).2.Holds db.tables := by
  unfold cachedListing
  cases hit : c.get (listingKey type) with
  | some v =>
    obtain rfl := h.get hit
    exact ⟨.inl rfl, h⟩
  | none =>
    cases listed : db.areasOfType type with
    | error f =>
      have loud : db.faults .listAreas ≠ none := by
        intro quiet
        rw [Database.areasOfType_eq_ok.mpr ⟨quiet, rfl⟩] at listed
        cases listed
      exact ⟨.inr ⟨f, rfl, loud⟩, h⟩
    | ok areas =>
      obtain ⟨-, rfl⟩ := Database.areasOfType_eq_ok.mp listed
      exact ⟨.inl rfl, h.set type listingSeconds⟩

namespace Service
open Response

variable {s s' : Service}

theorem find_areas : Endpoint.find "GET" "/api/v1/areas" = .ok .areas := rfl

theorem count?_listing (areas : List Area) : count? (listing areas) = some areas.length := by
  rw [listing, count?, List.length_map]

/-- The answer with a listing and the number of its entries. -/
def listed (areas : List Area) : Response :=
  .ok (.object [("areas", listing areas), ("count", .int areas.length)])

theorem written_listed (areas : List Area) : (listed areas).written = listed areas := by
  have writable : (listed areas).body.all Value.isWritable = true := by
    simp [listed, Response.ok, Value.isWritable, writableMembers, writable_listing]
  rw [Response.written, if_pos writable]

theorem answerAreas_holds (h : s.cache.Holds s.tables) (r : Request) :
    ((s.answerAreas r).1 = listed (s.tables.areasOfType (r.parameter "type")) ∨
        (s.answerAreas r).1.Refuses ∧
          (s.faults .ping ≠ none ∨ s.faults .listAreas ≠ none)) ∧
      (s.answerAreas r).2.cache.Holds s.tables := by
  unfold answerAreas
  cases reached : s.reach with
  | error response =>
    have loud : s.faults .ping ≠ none := by
      intro quiet
      simp [reach, quiet] at reached
    exact ⟨.inr ⟨refuses_reach reached, .inl loud⟩, h⟩
  | ok _ =>
    have stored : s.cache.Holds s.database.tables := h
    obtain ⟨outcome, kept⟩ := cachedListing_holds stored (r.parameter "type")
    rcases hit : cachedListing s.database s.cache (r.parameter "type") with ⟨result, cache⟩
    rw [hit] at outcome kept
    rcases outcome with rfl | ⟨f, rfl, loud⟩
    · refine ⟨.inl ?_, kept⟩
      dsimp only
      rw [count?_listing]
      rfl
    · exact ⟨.inr ⟨refuses_ofFault f, .inr loud⟩, kept⟩

theorem answer_holds (h : s.cache.Holds s.tables) (r : Request) (now : String) :
    (s.answer r now).2.cache.Holds s.tables := by
  cases found : Endpoint.find r.method r.path with
  | error response =>
    rw [answer, found]
    exact h
  | ok e =>
    rw [answer_eq found]
    cases e with
    | areas => exact (answerAreas_holds h r).2
    | upsert =>
      rcases answerUpsert_cases s r now with ⟨-, same⟩ | ⟨p, q, saved, -, -, -, answered⟩
      · dsimp only [answerAt]
        rw [same]
        exact h
      · dsimp only [answerAt]
        rw [answered]
        exact h
    | root => exact h
    | health => exact h
    | ready => exact h
    | live => exact h
    | validate => exact h
    | checkName => exact h
    | project reference => exact h
    | area id => exact h

/-- Changes between requests that keep the areas: an entry for a type of areas stays or is dropped.
Everything else may change, the cache server and the database included. -/
structure Drifts (s s' : Service) : Prop where
  areas : s'.tables.areas = s.tables.areas
  entries : ∀ type, s'.cache.held? (listingKey type) = s.cache.held? (listingKey type) ∨
    s'.cache.held? (listingKey type) = none

/-- A service with these areas that has answered any requests and drifted in between, since its
cache held no listing. -/
inductive Lasting (areas : List Area) : Service → Prop
  | start {s : Service} (same : s.tables.areas = areas)
    (empty : ∀ type, s.cache.held? (listingKey type) = none) : Lasting areas s
  | answered {s : Service} (before : Lasting areas s) (r : Request) (now : String) :
    Lasting areas (s.answer r now).2
  | drifted {s s' : Service} (before : Lasting areas s) (drifts : s.Drifts s') : Lasting areas s'

theorem Lasting.holds {areas : List Area} (h : Lasting areas s) :
    s.tables.areas = areas ∧ s.cache.Holds s.tables := by
  induction h with
  | start same empty =>
    refine ⟨same, fun type e v found _ => ?_⟩
    rw [empty type] at found
    cases found
  | @answered s before r now ih =>
    obtain ⟨same, holds⟩ := ih
    have kept := (answer_others s r now).1
    exact ⟨kept.trans same, (answer_holds holds r now).congr kept⟩
  | drifted before drifts ih =>
    obtain ⟨same, holds⟩ := ih
    exact ⟨drifts.areas.trans same, (holds.mono drifts.entries).congr drifts.areas⟩

/-- If the areas have not changed since the cache was empty, `GET /api/v1/areas` answers with the
areas that `areasOfType` returns for the requested type, in that order, and with their number,
whatever requests came before and whichever cache operations failed. It refuses only if the ping or
the listing fails in the database. -/
theorem listing_transparent {areas : List Area} {r : Request} (lasting : Lasting areas s)
    (get : r.method = "GET") (path : r.path = "/api/v1/areas") (now : String) {found : List Area}
    (returns : (Database.mk { areas } Faults.none).areasOfType (r.parameter "type") = .ok found) :
    (s.answer r now).1 = .ok (.object [("areas", listing found), ("count", .int found.length)]) ∨
      (s.answer r now).1.Refuses ∧ (s.faults .ping ≠ none ∨ s.faults .listAreas ≠ none) := by
  obtain ⟨same, holds⟩ := lasting.holds
  obtain ⟨-, rfl⟩ := Database.areasOfType_eq_ok.mp returns
  have route : Endpoint.find r.method r.path = .ok .areas := by rw [get, path, find_areas]
  have plain (response : Response) : response.sentFor r.method = response := by
    rw [get]
    rfl
  have store : s.tables.areasOfType (r.parameter "type") =
      ({ areas } : Tables).areasOfType (r.parameter "type") := Tables.areasOfType_congr same _
  rw [answer_eq route, plain]
  rcases (answerAreas_holds holds r).1 with answered | ⟨refused, loud⟩
  · refine .inl ?_
    dsimp only [answerAt]
    rw [answered, written_listed, store, listed]
  · exact .inr ⟨refuses_written refused, loud⟩

theorem listing_transparent_norfolk :
    let s := { norfolk with cache := { connected := true } }
    let r : Request := { method := "GET", path := "/api/v1/areas", query := [("type", "RMA")] }
    let council : Area :=
      { id := 2, name := "Norfolk County Council", type := "RMA", parentId := some 1 }
    Lasting s.tables.areas (s.answer r "").2 ∧
      (Database.mk { areas := s.tables.areas } Faults.none).areasOfType (r.parameter "type") =
        .ok [council] ∧
      ((s.answer r "").2.cache.get (listingKey (r.parameter "type"))).isSome ∧
      ((s.answer r "").2.answer r "").1 =
        .ok (.object [("areas", listing [council]), ("count", .int 1)]) := by
  intro s r council
  have lasting : Lasting s.tables.areas (s.answer r "").2 :=
    .answered (.start rfl fun _ => rfl) r ""
  have returns : (Database.mk { areas := s.tables.areas } Faults.none).areasOfType
      (r.parameter "type") = .ok [council] :=
    Database.areasOfType_eq_ok.mpr ⟨rfl, List.mergeSort_singleton council⟩
  have hit : ((s.answer r "").2.cache.get (listingKey (r.parameter "type"))).isSome := by
    decide +kernel
  have words : (s.answer r "").2.faults = Engine.words.faults :=
    (answer_faults s r "").trans (faults_of_ok rfl rfl)
  refine ⟨lasting, returns, hit, ?_⟩
  refine (listing_transparent lasting rfl rfl "" returns).resolve_right ?_
  rintro ⟨-, loud | loud⟩
  · exact loud (congrFun words _)
  · exact loud (congrFun words _)

end Service
end FloodScheme
