import Mathlib.Data.List.DropRight
import LocationRelay.Text.Split

/-! # Cutting and trimming

A text is cut at its first or at its last separator, or behind a given opening, in exactly one way. Trimming
takes off blanks at the two ends only, so what stands between two characters that are not blank stays.
-/
namespace LocationRelay.Text

/-! ## Openings -/

theorem dropPrefix?_eq_some {opening : String} {cs rest : List Char} :
    dropPrefix? opening cs = some rest ↔ cs = opening.toList ++ rest := by
  rw [dropPrefix?, List.isPrefixOf?_eq_some_iff_append_eq, eq_comm]

/-! ## Separators -/

section

variable {α : Type} [DecidableEq α] {sep : α}

theorem splitFirst?_append {before : List α} (h : sep ∉ before) (after : List α) :
    splitFirst? sep (before ++ sep :: after) = some (before, after) := by
  induction before with
  | nil => exact if_pos rfl
  | cons c before ih =>
    rw [List.mem_cons, not_or] at h
    rw [List.cons_append, splitFirst?, if_neg (Ne.symm h.1), ih h.2]
    rfl

theorem splitFirst?_eq_none {cs : List α} : splitFirst? sep cs = none ↔ sep ∉ cs := by
  induction cs with
  | nil => simp [splitFirst?]
  | cons c cs ih =>
    rw [splitFirst?, List.mem_cons, not_or]
    split
    · next hc => simp [hc]
    · next hc => rw [Option.map_eq_none_iff, ih, and_iff_right (Ne.symm hc)]

theorem splitLast?_eq_none {cs : List α} : splitLast? sep cs = none ↔ sep ∉ cs := by
  induction cs with
  | nil => simp [splitLast?]
  | cons c cs ih =>
    rw [splitLast?, List.mem_cons, not_or]
    cases hcut : splitLast? sep cs with
    | some parts =>
      have hmem : ¬ sep ∉ cs := fun h => by cases hcut.symm.trans (ih.mpr h)
      simp [hmem]
    | none => simp [ih.mp hcut, eq_comm]

theorem splitLast?_append (before : List α) {after : List α} (h : sep ∉ after) :
    splitLast? sep (before ++ sep :: after) = some (before, after) := by
  induction before with
  | nil =>
    rw [List.nil_append, splitLast?, splitLast?_eq_none.mpr h]
    exact if_pos rfl
  | cons c before ih => rw [List.cons_append, splitLast?, ih]

/-- No separator is left after the one at which a text is cut. -/
theorem not_mem_of_splitLast? {cs before after : List α}
    (h : splitLast? sep cs = some (before, after)) : sep ∉ after := by
  induction cs generalizing before with
  | nil => cases h
  | cons c cs ih =>
    rw [splitLast?] at h
    cases hcut : splitLast? sep cs with
    | some parts =>
      rw [hcut] at h
      cases h
      exact ih hcut
    | none =>
      rw [hcut] at h
      obtain ⟨-, h⟩ := Option.ite_none_right_eq_some.mp h
      cases h
      exact splitLast?_eq_none.mp hcut

end

/-! ## Blanks -/

theorem trimmed_eq {s t : String} : trimmed s = t ↔ trim s.toList = t.toList := by
  rw [← String.toList_inj, trimmed, String.toList_ofList]

/-- No visible ASCII character is blank. -/
theorem isBlank_of_visible {c : Char} (h : 32 < c.toNat ∧ c.toNat < 127) : isBlank c = false := by
  simp only [isBlank, Bool.or_eq_false_iff, Bool.and_eq_false_imp, decide_eq_true_eq,
    decide_eq_false_iff_not, Nat.not_le, beq_eq_false_iff_ne, ne_eq]
  omega

theorem dropWhile_isBlank {cs : List Char} (h : ∀ c ∈ cs, isBlank c = false) :
    cs.dropWhile isBlank = cs := by
  cases cs with
  | nil => rfl
  | cons c cs => exact List.dropWhile_cons_of_neg (by rw [h c List.mem_cons_self]; decide)

theorem trim_of_not_blank {cs : List Char} (h : ∀ c ∈ cs, isBlank c = false) : trim cs = cs := by
  rw [trim, trimEnd, trimStart, dropWhile_isBlank h,
    dropWhile_isBlank fun c hc => h c (List.mem_reverse.mp hc), List.reverse_reverse]

theorem nonBlank?_eq_some {s t : String} : nonBlank? s = some t ↔ t = trimmed s ∧ t ≠ "" := by
  unfold nonBlank?
  dsimp only
  split
  · next hempty =>
    rw [String.isEmpty_iff] at hempty
    exact ⟨nofun, fun h => absurd (h.1.trans hempty) h.2⟩
  · next hfull =>
    rw [String.isEmpty_iff] at hfull
    constructor
    · intro h
      cases h
      exact ⟨rfl, hfull⟩
    · rintro ⟨rfl, -⟩
      rfl

theorem nonBlank?_of_not_blank {s : String} (hne : s ≠ "")
    (h : ∀ c ∈ s.toList, isBlank c = false) : nonBlank? s = some s :=
  nonBlank?_eq_some.mpr ⟨(trimmed_eq.mpr (trim_of_not_blank h)).symm, hne⟩

/-- Nothing is trimmed off in front of a character that is not blank. -/
theorem trimStart_of_not_blank {c : Char} (h : isBlank c = false) (cs : List Char) :
    trimStart (c :: cs) = c :: cs :=
  List.dropWhile_cons_of_neg (by rw [h]; decide)

theorem trimEnd_eq_rdropWhile (cs : List Char) : trimEnd cs = cs.rdropWhile isBlank := rfl

/-- Trimming at the end does not go beyond a part that is not blank. -/
theorem trimEnd_append (cs : List Char) {ds : List Char} (h : ¬ ∀ c ∈ ds, isBlank c = true) :
    trimEnd (cs ++ ds) = cs ++ trimEnd ds := by
  have hfull : (ds.reverse.dropWhile isBlank).isEmpty = false := by
    rw [← Bool.not_eq_true, List.isEmpty_iff, List.dropWhile_eq_nil_iff]
    intro hblank
    exact h fun c hc => hblank c (List.mem_reverse.mpr hc)
  rw [trimEnd, List.reverse_append, List.dropWhile_append, hfull]
  simp [trimEnd]

theorem trimEnd_subset (cs : List Char) : trimEnd cs ⊆ cs :=
  (List.rdropWhile_prefix isBlank cs).subset

/-- Where something is not blank, trimming at the end leaves it. -/
theorem trimEnd_not_blank {cs : List Char} (h : ¬ ∀ c ∈ cs, isBlank c = true) :
    ¬ ∀ c ∈ trimEnd cs, isBlank c = true := by
  have hne : cs.rdropWhile isBlank ≠ [] := fun hnil => h (List.rdropWhile_eq_nil_iff.mp hnil)
  intro hblank
  exact List.rdropWhile_last_not isBlank cs hne (hblank _ (List.getLast_mem hne))

theorem trimEnd_eq_self {cs : List Char} :
    trimEnd cs = cs ↔ ∀ c ∈ cs.getLast?, isBlank c = false := by
  rw [trimEnd_eq_rdropWhile, List.rdropWhile_eq_self_iff]
  constructor
  · intro h c hc
    obtain ⟨hne, rfl⟩ := List.mem_getLast?_eq_getLast hc
    exact Bool.eq_false_iff.mpr (h hne)
  · intro h hne hblank
    rw [h _ (List.getLast?_eq_some_getLast hne)] at hblank
    cases hblank

end LocationRelay.Text
