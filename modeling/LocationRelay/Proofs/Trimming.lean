import LocationRelay.Proofs.Cutting

/-! # What trimming leaves

A text that has been trimmed is empty or begins and ends with characters that are not blank, and then more
blanks around it make no difference. Trimming loses blanks only.
-/
namespace LocationRelay.Text

/-- Not empty and not blank at either end. -/
structure Tidy (cs : List Char) : Prop where
  ne_nil : cs ≠ []
  head : ∀ c ∈ cs.head?, isBlank c = false
  last : ∀ c ∈ cs.getLast?, isBlank c = false

theorem tidy_iff {cs : List Char} : Tidy cs ↔
    cs ≠ [] ∧ cs.head?.all (fun c => !isBlank c) ∧ cs.getLast?.all (fun c => !isBlank c) := by
  simp only [Option.all_eq_true, Bool.not_eq_true']
  exact ⟨fun h => ⟨h.ne_nil, h.head, h.last⟩, fun ⟨hne, hhead, hlast⟩ => ⟨hne, hhead, hlast⟩⟩

instance (cs : List Char) : Decidable (Tidy cs) := decidable_of_iff _ tidy_iff.symm

theorem tidy_of_not_blank {cs : List Char} (hne : cs ≠ []) (h : ∀ c ∈ cs, isBlank c = false) :
    Tidy cs :=
  ⟨hne, fun c hc => h c (List.mem_of_head? hc), fun c hc => h c (List.mem_of_getLast? hc)⟩

/-- What stands between two tidy texts is not at an end. -/
theorem Tidy.append {cs ds : List Char} (hcs : Tidy cs) (hds : Tidy ds) (es : List Char) :
    Tidy (cs ++ es ++ ds) where
  ne_nil h := hcs.ne_nil (List.append_eq_nil_iff.mp (List.append_eq_nil_iff.mp h).1).1
  head c hc := by
    rw [List.append_assoc, List.head?_append_of_ne_nil _ hcs.ne_nil] at hc
    exact hcs.head c hc
  last c hc := by
    rw [List.getLast?_append_of_ne_nil _ hds.ne_nil] at hc
    exact hds.last c hc

theorem Tidy.append_text {s t : String} (hs : Tidy s.toList) (ht : Tidy t.toList) : Tidy (s ++ t).toList := by
  have happend := hs.append ht []
  rwa [List.append_nil, ← String.toList_append] at happend

theorem Tidy.trimStart {cs : List Char} (h : Tidy cs) (ds : List Char) :
    Text.trimStart (cs ++ ds) = cs ++ ds := by
  cases cs with
  | nil => exact absurd rfl h.ne_nil
  | cons c cs => exact trimStart_of_not_blank (h.head c rfl) (cs ++ ds)

/-- Blanks around a tidy text are all that is trimmed off. -/
theorem Tidy.trim_padded {cs before after : List Char} (h : Tidy cs)
    (hbefore : ∀ c ∈ before, isBlank c = true) (hafter : ∀ c ∈ after, isBlank c = true) :
    trim (before ++ cs ++ after) = cs := by
  have hstart : Text.trimStart (before ++ cs ++ after) = cs ++ after := by
    rw [List.append_assoc, Text.trimStart, List.dropWhile_append_of_pos hbefore]
    exact h.trimStart after
  have hend : trimEnd (cs ++ after) = trimEnd cs := by
    rw [trimEnd, List.reverse_append,
      List.dropWhile_append_of_pos fun c hc => hafter c (List.mem_reverse.mp hc)]
    rfl
  rw [trim, hstart, hend]
  exact trimEnd_eq_self.mpr h.last

theorem Tidy.trim_self {cs : List Char} (h : Tidy cs) : trim cs = cs := by
  have hnone : ∀ c ∈ ([] : List Char), isBlank c = true := fun _ hc => nomatch hc
  have hpadded := h.trim_padded hnone hnone
  rwa [List.nil_append, List.append_nil] at hpadded

theorem not_blank_head_trimStart (cs : List Char) :
    ∀ c ∈ (trimStart cs).head?, isBlank c = false := by
  intro c hc
  have hnot := List.head?_dropWhile_not isBlank cs
  rw [show (cs.dropWhile isBlank).head? = some c from hc] at hnot
  exact hnot

theorem tidy_trim {cs : List Char} (h : trim cs ≠ []) : Tidy (trim cs) where
  ne_nil := h
  head c hc := by
    obtain ⟨rest, hrest⟩ : trim cs <+: trimStart cs := List.rdropWhile_prefix isBlank _
    refine not_blank_head_trimStart cs c ?_
    rwa [← hrest, List.head?_append_of_ne_nil _ h]
  last c hc := by
    obtain ⟨hne, rfl⟩ := List.mem_getLast?_eq_getLast hc
    exact Bool.eq_false_iff.mpr (List.rdropWhile_last_not isBlank (trimStart cs) hne)

/-! ## What is lost -/

theorem filter_dropWhile (cs : List Char) :
    (cs.dropWhile isBlank).filter (fun c => !isBlank c) = cs.filter fun c => !isBlank c := by
  have hlost : (cs.takeWhile isBlank).filter (fun c => !isBlank c) = [] := by
    refine List.filter_eq_nil_iff.mpr fun c hc => ?_
    rw [List.mem_takeWhile_imp hc]
    decide
  conv => rhs; rw [← List.takeWhile_append_dropWhile (p := isBlank) (l := cs), List.filter_append, hlost]
  rfl

theorem filter_trim (cs : List Char) :
    (trim cs).filter (fun c => !isBlank c) = cs.filter fun c => !isBlank c := by
  rw [trim, trimEnd, List.filter_reverse, filter_dropWhile, ← List.filter_reverse, List.reverse_reverse,
    trimStart, filter_dropWhile]

theorem trim_eq_nil {cs : List Char} : trim cs = [] ↔ ∀ c ∈ cs, isBlank c = true := by
  rw [trim, trimEnd_eq_rdropWhile, List.rdropWhile_eq_nil_iff]
  constructor
  · intro h
    by_contra hfull
    have hne : trimStart cs ≠ [] := fun hnil => hfull (List.dropWhile_eq_nil_iff.mp hnil)
    have hhead := not_blank_head_trimStart cs _ (List.head?_eq_some_head hne)
    rw [h _ (List.head_mem hne)] at hhead
    cases hhead
  · exact fun h c hc => h c ((List.dropWhile_suffix isBlank).subset hc)

/-! ## Texts that are not blank -/

theorem nonBlank?_eq_none {s : String} : nonBlank? s = none ↔ Blank s := by
  have hempty : trimmed s = "" ↔ Blank s := trimmed_eq.trans trim_eq_nil
  rw [← hempty, ← String.isEmpty_iff]
  simp [nonBlank?]

theorem tidy_of_nonBlank? {s t : String} (h : nonBlank? s = some t) : Tidy t.toList := by
  obtain ⟨rfl, hne⟩ := nonBlank?_eq_some.mp h
  rw [trimmed, String.toList_ofList]
  refine tidy_trim fun hnil => hne ?_
  rw [trimmed, hnil]

end LocationRelay.Text
