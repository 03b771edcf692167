import LocationRelay.Proofs.Trimming
import Mathlib

/-! # Lower case

Making capital letters small leaves no capital, so that doing it again changes nothing. A character that is
not blank does not become blank, nor the other way round.
-/
namespace LocationRelay.Text

theorem isUpper_iff {c : Char} : c.isUpper = true ↔ 65 ≤ c.toNat ∧ c.toNat ≤ 90 :=
  ⟨fun h => of_decide_eq_true h, fun h => decide_eq_true h⟩

theorem isLower_iff {c : Char} : c.isLower = true ↔ 97 ≤ c.toNat ∧ c.toNat ≤ 122 := by
  have hlower : c.isLower = (decide (97 ≤ c.toNat) && decide (c.toNat ≤ 122)) := rfl
  rw [hlower, Bool.and_eq_true, decide_eq_true_iff, decide_eq_true_iff]

theorem toNat_toLower {c : Char} (h : c.isUpper = true) : c.toLower.toNat = c.toNat + 32 := by
  have hbounds := isUpper_iff.mp h
  have hvalid : (c.toNat + 32).isValidChar := .inl (by omega)
  rw [Char.toLower_eq_of_isUpper h, Char.toNat_ofNat, if_pos hvalid]

theorem isBlank_toLower (c : Char) : isBlank c.toLower = isBlank c := by
  cases h : c.isUpper with
  | false => rw [Char.toLower_eq_of_not_isUpper (Bool.eq_false_iff.mp h)]
  | true =>
    have hbounds := isUpper_iff.mp h
    have hlower := toNat_toLower h
    have hsmall : isBlank c.toLower = false := isBlank_of_visible (by omega)
    rw [hsmall, isBlank_of_visible (by omega)]

theorem toList_lowerAscii (s : String) : (lowerAscii s).toList = s.toList.map Char.toLower :=
  String.toList_map

theorem isUpper_lowerAscii (s : String) : ∀ c ∈ (lowerAscii s).toList, c.isUpper = false := by
  intro c hc
  rw [toList_lowerAscii] at hc
  obtain ⟨d, -, rfl⟩ := List.mem_map.mp hc
  exact Char.isUpper_toLower_eq_false d

theorem lowerAscii_lowerAscii (s : String) : lowerAscii (lowerAscii s) = lowerAscii s := by
  have hsmall : ∀ c ∈ (lowerAscii s).toList, c.toLower = id c :=
    fun c hc => Char.toLower_eq_of_not_isUpper (Bool.eq_false_iff.mp (isUpper_lowerAscii s c hc))
  refine String.toList_inj.mp ?_
  rw [toList_lowerAscii (lowerAscii s), List.map_congr_left hsmall, List.map_id]

theorem Tidy.lowerAscii {s : String} (h : Tidy s.toList) : Tidy (lowerAscii s).toList := by
  rw [toList_lowerAscii]
  refine ⟨fun hnil => h.ne_nil (List.map_eq_nil_iff.mp hnil), fun c hc => ?_, fun c hc => ?_⟩
  · rw [List.head?_map] at hc
    obtain ⟨d, hd, rfl⟩ := Option.map_eq_some_iff.mp hc
    rw [isBlank_toLower]
    exact h.head d hd
  · rw [List.getLast?_map] at hc
    obtain ⟨d, hd, rfl⟩ := Option.map_eq_some_iff.mp hc
    rw [isBlank_toLower]
    exact h.last d hd

end LocationRelay.Text
