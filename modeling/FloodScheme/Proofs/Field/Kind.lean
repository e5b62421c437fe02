import FloodScheme.Field.Mapping
import FloodScheme.Proofs.Number.Plain

/-! Round trips of single values: a value in wire form comes back from storage as it was sent, and a
value in storage form comes back from the wire as it was stored. -/
namespace FloodScheme
open Number

theorem joined_eq_intercalate (separator : List Char) (items : List (List Char)) :
    Value.joined separator items = separator.intercalate items := by
  induction items with
  | nil => rfl
  | cons item rest ih =>
    cases rest with
    | nil => simp [Value.joined]
    | cons next rest =>
      have step : Value.joined separator (item :: next :: rest) =
          item ++ separator ++ Value.joined separator (next :: rest) := rfl
      rw [step, ih, List.intercalate_cons_cons]

theorem splitCommas_eq_splitOn (cs : List Char) : splitCommas cs = cs.splitOn ',' := by
  induction cs with
  | nil => rfl
  | cons c rest ih =>
    obtain ⟨item, items, split⟩ := List.exists_cons_of_ne_nil (List.splitOnP_ne_nil (· == ',') rest)
    change rest.splitOn ',' = item :: items at split
    rw [List.splitOn, List.splitOnP_cons_eq_if_modifyHead]
    change _ = if _ then [] :: rest.splitOn ',' else (rest.splitOn ',').modifyHead (List.cons c)
    by_cases comma : c = ','
    · subst comma
      rw [splitCommas, ih, if_pos (beq_self_eq_true _)]
    · rw [splitCommas, ih, if_neg (by simpa using comma), split]
      · rfl
      · exact comma

namespace FieldKind

/-- The form in which a kind of field stands on the wire: a list of trimmed items, a whole number,
a decimal in full. -/
def WireForm : FieldKind → Value → Prop
  | copied, _ => True
  | array, v => ∃ items : List String, v = .list (items.map .text) ∧ items ≠ [""] ∧
      ∀ s ∈ items, ',' ∉ s.toList ∧ Text.trim s = s
  | number, v => v = .null ∨ ∃ i, v = .int i
  | percentage, v => v = .null ∨ ∃ s, v = .text s ∧ IsPlain s

/-- The form in which a kind of field is stored: trimmed items between commas, a whole number, a
decimal with its places. -/
def StoredForm : FieldKind → Value → Prop
  | copied, _ => True
  | array, v => ∃ s, v = .text s ∧
      ∀ item ∈ splitCommas s.toList, Text.trimBy Text.isBlank item = item
  | number, v => v = .null ∨ ∃ i, v = .int i
  | percentage, v => v = .null ∨ ∃ negative c e, v = .decimal (.finite negative c e) ∧ e ≤ 0 ∧
      (Decimal.finite negative c e).Valid

theorem joinItems_texts (items : List String) :
    joinItems (items.map .text) = String.ofList ([','].intercalate (items.map String.toList)) := by
  rw [joinItems, joined_eq_intercalate, List.map_map]
  rfl

theorem toWire_toStorage_array {items : List String} (some : items ≠ [""])
    (own : ∀ s ∈ items, ',' ∉ s.toList ∧ Text.trim s = s) :
    array.toWire (array.toStorage (.list (items.map .text))) = .ok (.list (items.map .text)) := by
  by_cases none : items = []
  · subst none
    rfl
  · have split : splitCommas ([','].intercalate (items.map String.toList)) =
        items.map String.toList := by
      rw [splitCommas_eq_splitOn]
      refine List.splitOn_intercalate ',' (fun cs mem => ?_) (by simpa using none)
      obtain ⟨s, hs, rfl⟩ := List.mem_map.mp mem
      exact (own s hs).1
    -- nothing but the empty item alone is joined to an empty text
    have filled : String.ofList ([','].intercalate (items.map String.toList)) ≠ "" := by
      intro empty
      have chars : [','].intercalate (items.map String.toList) = [] := by
        simpa using congrArg String.toList empty
      rw [chars] at split
      have single : items.length = 1 := by
        simpa [splitCommas] using (congrArg List.length split).symm
      obtain ⟨s, rfl⟩ := List.length_eq_one_iff.mp single
      have bare : s = "" := by simpa [splitCommas] using split.symm
      exact some (congrArg ([·]) bare)
    rw [toStorage, joinItems_texts, toWire, if_neg filled, String.toList_ofList, split,
      List.map_map]
    congr 2
    exact List.map_congr_left fun s hs => congrArg Value.text (own s hs).2

theorem toStorage_toWire_array {s : String}
    (own : ∀ item ∈ splitCommas s.toList, Text.trimBy Text.isBlank item = item) :
    ∃ w, array.toWire (.text s) = .ok w ∧ array.toStorage w = .text s := by
  by_cases none : s = ""
  · subst none
    exact ⟨.list [], rfl, rfl⟩
  · refine ⟨.list (((splitCommas s.toList).map String.ofList).map .text), ?_, ?_⟩
    · rw [toWire, if_neg none, List.map_map]
      congr 2
      exact List.map_congr_left fun item mem =>
        congrArg (fun cs => Value.text (String.ofList cs)) (own item mem)
    · have chars : ((splitCommas s.toList).map String.ofList).map String.toList =
          splitCommas s.toList := by
        rw [List.map_map]
        exact (List.map_congr_left fun cs _ => String.toList_ofList).trans (List.map_id _)
      rw [toStorage, joinItems_texts, chars, splitCommas_eq_splitOn, List.intercalate_splitOn,
        String.ofList_toList]

theorem toWire_toStorage_percentage {s : String} (plain : IsPlain s) :
    percentage.toWire (percentage.toStorage (.text s)) = .ok (.text s) := by
  have some : s ≠ "" := by
    rintro rfl
    obtain ⟨negative, whole, fraction, text, first, -⟩ := plain
    have parts : [] = plainChars negative whole fraction := text
    rcases first with rfl | ⟨c, cs, rfl, -⟩
    · simp [plainChars] at parts
    · simp [plainChars] at parts
  rw [toStorage, if_neg some]
  cases read : Decimal.read? s with
  | none => rfl
  | some d =>
    have written := Decimal.plainText_of_read? plain read
    exact congrArg (fun s => Except.ok (Value.text s)) written

theorem toStorage_toWire_percentage {negative : Bool} {c : Nat} {e : Int} (fine : e ≤ 0)
    (valid : (Decimal.finite negative c e).Valid) :
    percentage.toStorage (.text (Decimal.finite negative c e).plainText) =
      .decimal (.finite negative c e) := by
  have read := Decimal.read?_plainText fine valid
  have some : (Decimal.finite negative c e).plainText ≠ "" := by
    intro empty
    rw [empty] at read
    cases read
  rw [toStorage, if_neg some, read]

theorem toWire_toStorage {kind : FieldKind} {v : Value} (h : kind.WireForm v) :
    kind.toWire (kind.toStorage v) = .ok v := by
  cases kind with
  | copied => rfl
  | array =>
    obtain ⟨items, rfl, some, own⟩ := h
    exact toWire_toStorage_array some own
  | number =>
    rcases h with rfl | ⟨i, rfl⟩
    · rfl
    · rfl
  | percentage =>
    rcases h with rfl | ⟨s, rfl, plain⟩
    · rfl
    · exact toWire_toStorage_percentage plain

theorem toStorage_toWire {kind : FieldKind} {v : Value} (h : kind.StoredForm v) :
    ∃ w, kind.toWire v = .ok w ∧ kind.toStorage w = v := by
  cases kind with
  | copied => exact ⟨v, rfl, rfl⟩
  | array =>
    obtain ⟨s, rfl, own⟩ := h
    exact toStorage_toWire_array own
  | number =>
    rcases h with rfl | ⟨i, rfl⟩
    · exact ⟨.null, rfl, rfl⟩
    · exact ⟨.int i, rfl, rfl⟩
  | percentage =>
    rcases h with rfl | ⟨negative, c, e, rfl, fine, valid⟩
    · exact ⟨.null, rfl, rfl⟩
    · exact ⟨_, rfl, toStorage_toWire_percentage fine valid⟩

end FieldKind
end FloodScheme
