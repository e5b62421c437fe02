import FloodScheme.Text.Case

/-! Letter case of plain texts, whose characters are among the first 128. Lower case goes by single
characters there, and a capital is got back from its small letter. -/
namespace FloodScheme.Text

theorem lowerFrom_plain {before cs : List Char} (plain : ∀ c ∈ cs, c.toNat < 128) :
    lowerFrom before cs = cs.map asciiLower := by
  induction cs generalizing before with
  | nil => rfl
  | cons c rest ih =>
    obtain ⟨first, others⟩ := List.forall_mem_cons.mp plain
    have sigma : ¬ (c.toNat == 0x3A3) = true := by
      rw [beq_iff_eq]
      omega
    rw [lowerFrom, if_neg sigma, lowerChar, if_pos first, ih others]
    rfl

theorem lower_eq_foldAscii {s : String} (plain : ∀ c ∈ s.toList, c.toNat < 128) :
    lower s = foldAscii s := congrArg String.ofList (lowerFrom_plain plain)

theorem isUpper_iff {c : Char} : c.isUpper = true ↔ 65 ≤ c.toNat ∧ c.toNat ≤ 90 := by
  have bounds : c.isUpper = true ↔ c.val ≥ 'A'.val ∧ c.val ≤ 'Z'.val := decide_eq_true_iff
  exact bounds

theorem asciiLower_of_lt {c : Char} (h : c.toNat < 65) : asciiLower c = c := by
  have outside : ¬ (65 ≤ c.toNat ∧ c.toNat ≤ 90) := by omega
  rw [asciiLower, if_neg outside]

theorem toNat_asciiLower {c : Char} (h : c.isUpper = true) :
    (asciiLower c).toNat = c.toNat + 32 := by
  have bounds := isUpper_iff.mp h
  have valid : (c.toNat + 32).isValidChar := Or.inl (by omega)
  rw [asciiLower, if_pos bounds, Char.ofNat, dif_pos valid]
  rfl

theorem asciiUpper_asciiLower {c : Char} (h : c.isUpper = true) :
    asciiUpper (asciiLower c) = c := by
  have bounds := isUpper_iff.mp h
  have code := toNat_asciiLower h
  have small : 97 ≤ (asciiLower c).toNat ∧ (asciiLower c).toNat ≤ 122 := by omega
  rw [asciiUpper, if_pos small, code, Nat.add_sub_cancel, Char.ofNat_toNat]

theorem map_asciiLower_injective {cs ds : List Char} (hc : ∀ c ∈ cs, c.isUpper = true)
    (hd : ∀ d ∈ ds, d.isUpper = true) (h : cs.map asciiLower = ds.map asciiLower) : cs = ds := by
  have back : ∀ es : List Char, (∀ e ∈ es, e.isUpper = true) →
      (es.map asciiLower).map asciiUpper = es := by
    intro es capitals
    rw [List.map_map]
    exact (List.map_congr_left fun e mem => asciiUpper_asciiLower (capitals e mem)).trans
      (List.map_id es)
  rw [← back cs hc, h, back ds hd]

end FloodScheme.Text
