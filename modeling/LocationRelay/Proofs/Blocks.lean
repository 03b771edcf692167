import LocationRelay.Topic.Pattern
import Mathlib.Data.List.Infix
import Mathlib.Data.List.Forall2

/-! # The language of a topic pattern

A pattern describes the keys whose words can be cut into consecutive blocks, one for each of its words: a
star takes any one word, a hash any number of words and every other word takes itself. Matching keeps only
what may be left of the key, and since what is left is always a tail of the longest remainder, a hash needs
to look at that one only.
-/
namespace LocationRelay.Topic

/-- Whether a pattern word describes a block of the words of a key. -/
inductive Takes : Word → List Word → Prop
  | star (w : Word) : Takes ['*'] [w]
  | hash (block : List Word) : Takes ['#'] block
  | plain {word : Word} (hstar : word ≠ ['*']) (hhash : word ≠ ['#']) : Takes word [word]

theorem takes_hash (block : List Word) : Takes ['#'] block ↔ True :=
  ⟨fun _ => trivial, fun _ => .hash block⟩

theorem takes_of_ne_hash {word : Word} (hhash : word ≠ ['#']) (block : List Word) :
    Takes word block ↔ ∃ w, block = [w] ∧ (word = ['*'] ∨ word = w) := by
  constructor
  · intro h
    cases h with
    | star w => exact ⟨w, rfl, .inl rfl⟩
    | hash block => exact absurd rfl hhash
    | plain _ _ => exact ⟨word, rfl, .inr rfl⟩
  · rintro ⟨w, rfl, hw⟩
    by_cases hstar : word = ['*']
    · exact hstar ▸ .star w
    · cases hw.resolve_left hstar
      exact .plain hstar hhash

theorem remainders_eq_tails (key : List Word) : remainders key = key.tails := by
  induction key with
  | nil => rfl
  | cons w key ih => rw [remainders, ih, List.tails_cons]

def Nested (rests : List (List Word)) : Prop := rests.Pairwise fun longer rest => rest <:+ longer

theorem nested_remainders (key : List Word) : Nested (remainders key) := by
  induction key with
  | nil => exact List.pairwise_singleton _ _
  | cons w key ih =>
    refine List.pairwise_cons.mpr ⟨fun rest hrest => ?_, ih⟩
    rw [remainders_eq_tails, List.mem_tails] at hrest
    exact hrest.trans (List.suffix_cons w key)

theorem mem_leave_of_ne_hash {rests : List (List Word)} {word : Word} (hhash : word ≠ ['#'])
    (rest : List Word) :
    rest ∈ leave rests word ↔ ∃ w, w :: rest ∈ rests ∧ (word = ['*'] ∨ word = w) := by
  unfold leave
  rw [if_neg hhash, List.mem_filterMap]
  constructor
  · rintro ⟨key, hkey, hrest⟩
    cases key with
    | nil => cases hrest
    | cons w key =>
      obtain ⟨hw, he⟩ := Option.ite_none_right_eq_some.mp hrest
      cases he
      exact ⟨w, hkey, hw⟩
  · rintro ⟨w, hkey, hw⟩
    exact ⟨w :: rest, hkey, if_pos hw⟩

theorem Nested.leave {rests : List (List Word)} (h : Nested rests) (word : Word) :
    Nested (leave rests word) := by
  unfold Topic.leave
  split
  · cases rests with
    | nil => exact List.Pairwise.nil
    | cons longest _ => exact nested_remainders longest
  · refine List.Pairwise.filterMap _ (fun longer key hsuffix rest hrest rest' hrest' => ?_) h
    cases longer with
    | nil => cases hrest
    | cons w longer =>
      cases key with
      | nil => cases hrest'
      | cons w' key =>
        cases (Option.ite_none_right_eq_some.mp hrest).2
        cases (Option.ite_none_right_eq_some.mp hrest').2
        rcases List.suffix_cons_iff.mp hsuffix with he | hlater
        · cases he
          exact List.suffix_rfl
        · exact (List.suffix_cons w' _).trans hlater

/-- A pattern word leaves what follows a block that it takes. -/
theorem Nested.mem_leave {rests : List (List Word)} (h : Nested rests) (word : Word)
    (rest : List Word) :
    rest ∈ Topic.leave rests word ↔ ∃ block, Takes word block ∧ block ++ rest ∈ rests := by
  by_cases hhash : word = ['#']
  · subst hhash
    simp only [takes_hash, true_and]
    cases rests with
    | nil => simp [Topic.leave]
    | cons longest others =>
      rw [Topic.leave, if_pos rfl, remainders_eq_tails, List.mem_tails]
      constructor
      · rintro ⟨block, hblock⟩
        exact ⟨block, hblock ▸ List.mem_cons_self⟩
      · rintro ⟨block, hblock⟩
        rcases List.mem_cons.mp hblock with he | hother
        · exact ⟨block, he⟩
        · exact (List.suffix_append block rest).trans ((List.pairwise_cons.mp h).1 _ hother)
  · rw [mem_leave_of_ne_hash hhash]
    constructor
    · rintro ⟨w, hkey, hw⟩
      exact ⟨[w], (takes_of_ne_hash hhash _).mpr ⟨w, rfl, hw⟩, hkey⟩
    · rintro ⟨block, hblock, hkey⟩
      obtain ⟨w, rfl, hw⟩ := (takes_of_ne_hash hhash _).mp hblock
      exact ⟨w, hkey, hw⟩

/-- The words of a pattern, one after the other, leave what follows the blocks that they take. -/
theorem Nested.mem_foldl_leave {rests : List (List Word)} (h : Nested rests) (pattern : List Word)
    (rest : List Word) : rest ∈ pattern.foldl Topic.leave rests ↔
      ∃ blocks, List.Forall₂ Takes pattern blocks ∧ blocks.flatten ++ rest ∈ rests := by
  induction pattern generalizing rests with
  | nil => simp
  | cons word pattern ih =>
    rw [List.foldl_cons, ih (h.leave word)]
    constructor
    · rintro ⟨blocks, hblocks, hrest⟩
      obtain ⟨block, hblock, hkey⟩ := (h.mem_leave word _).mp hrest
      refine ⟨block :: blocks, .cons hblock hblocks, ?_⟩
      rwa [List.flatten_cons, List.append_assoc]
    · rintro ⟨_, hblocks, hkey⟩
      cases hblocks with
      | @cons _ block _ blocks hblock hblocks =>
        rw [List.flatten_cons, List.append_assoc] at hkey
        exact ⟨blocks, hblocks, (h.mem_leave word _).mpr ⟨block, hblock, hkey⟩⟩

/-- A key belongs to a pattern exactly when its words can be cut into blocks which the words of the pattern
take one by one. -/
theorem accepts_iff_cut (pattern key : String) : accepts pattern key = true ↔
    ∃ blocks : List (List Word), blocks.flatten = words key ∧
      List.Forall₂ Takes (words pattern) blocks := by
  have hnested : Nested [words key] := List.pairwise_singleton _ _
  rw [accepts, matchesWords, List.any_eq_true]
  constructor
  · rintro ⟨rest, hrest, hempty⟩
    cases List.isEmpty_iff.mp hempty
    obtain ⟨blocks, hblocks, hkey⟩ := (hnested.mem_foldl_leave _ _).mp hrest
    rw [List.append_nil, List.mem_singleton] at hkey
    exact ⟨blocks, hkey, hblocks⟩
  · rintro ⟨blocks, hkey, hblocks⟩
    refine ⟨[], (hnested.mem_foldl_leave _ _).mpr ⟨blocks, hblocks, ?_⟩, rfl⟩
    rw [List.append_nil, hkey]
    exact List.mem_singleton_self _

/-- A word that merely contains a wildcard stands for itself, and a hash may take no word at all. -/
example : accepts "#.a*.#" "a*" = true ∧ accepts "a*" "ab" = false := by decide

end LocationRelay.Topic
