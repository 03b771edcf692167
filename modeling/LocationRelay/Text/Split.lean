/-! # Trimming and splitting

A character is blank when it has the Unicode property White_Space. Names, settings, endpoints and
keys are all trimmed of blank characters at their ends, and a text made of blanks alone counts as
absent. Case is changed for ASCII letters only.

A text is cut at the first or the last occurrence of a separator. The separator belongs to neither
part, and a text without it cannot be cut.
-/
namespace LocationRelay.Text

/-- The twenty-five characters with the property White_Space. -/
def isBlank (c : Char) : Bool :=
  let n := c.toNat
  (0x9 ≤ n && n ≤ 0xD) || n == 0x20 || n == 0x85 || n == 0xA0 || n == 0x1680 ||
    (0x2000 ≤ n && n ≤ 0x200A) || n == 0x2028 || n == 0x2029 || n == 0x202F || n == 0x205F ||
    n == 0x3000

def trimStart (cs : List Char) : List Char := cs.dropWhile isBlank

def trimEnd (cs : List Char) : List Char := (cs.reverse.dropWhile isBlank).reverse

def trim (cs : List Char) : List Char := trimEnd (trimStart cs)

def trimmed (s : String) : String := String.ofList (trim s.toList)

/-- A text is blank when nothing but blank characters is in it; the empty text is blank. -/
def Blank (s : String) : Prop := ∀ c ∈ s.toList, isBlank c = true

instance (s : String) : Decidable (Blank s) := List.decidableBAll _ s.toList

def nonBlank? (s : String) : Option String :=
  let t := trimmed s
  if t.isEmpty then none else some t

def lowerAscii (s : String) : String := s.map Char.toLower

def upperAscii (s : String) : String := s.map Char.toUpper

/-! ## Splitting -/

def splitFirst? {α : Type} [DecidableEq α] (sep : α) : List α → Option (List α × List α)
  | [] => none
  | c :: cs =>
    if c = sep then some ([], cs) else (splitFirst? sep cs).map fun parts => (c :: parts.1, parts.2)

def splitLast? {α : Type} [DecidableEq α] (sep : α) : List α → Option (List α × List α)
  | [] => none
  | c :: cs =>
    match splitLast? sep cs with
    | some (before, after) => some (c :: before, after)
    | none => if c = sep then some ([], cs) else none

def dropPrefix? (opening : String) (cs : List Char) : Option (List Char) :=
  opening.toList.isPrefixOf? cs

theorem splitFirst?_eq_some {α : Type} [DecidableEq α] {sep : α} {cs before after : List α}
    (h : splitFirst? sep cs = some (before, after)) :
    cs = before ++ sep :: after ∧ sep ∉ before := by
  induction cs generalizing before with
  | nil => simp [splitFirst?] at h
  | cons c cs ih =>
    by_cases hc : c = sep
    · simp [splitFirst?, hc] at h
      obtain ⟨rfl, rfl⟩ := h
      simp [hc]
    · simp only [splitFirst?, hc, if_false, Option.map_eq_some_iff, Prod.exists, Prod.mk.injEq] at h
      obtain ⟨u, v, huv, rfl, rfl⟩ := h
      obtain ⟨rfl, hu⟩ := ih huv
      exact ⟨rfl, by simp [hu, Ne.symm hc]⟩

theorem splitLast?_eq_some {α : Type} [DecidableEq α] {sep : α} {cs before after : List α}
    (h : splitLast? sep cs = some (before, after)) :
    cs = before ++ sep :: after := by
  induction cs generalizing before with
  | nil => simp [splitLast?] at h
  | cons c cs ih =>
    simp only [splitLast?] at h
    split at h
    · next u v huv =>
      cases h
      rw [ih huv, List.cons_append]
    · split at h
      · next hc =>
        cases h
        simp [hc]
      · cases h

end LocationRelay.Text
