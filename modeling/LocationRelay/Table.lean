/-! # Tables

Finite maps as lists of entries with distinct keys. The order of the entries is not part of what a
table means: look-up, insertion and removal are described by the three equations on `get?`.
-/
namespace LocationRelay

structure Table (K V : Type) [DecidableEq K] where
  entries : List (K × V)
  nodup : (entries.map Prod.fst).Nodup

namespace Table

variable {K V : Type} [DecidableEq K]

def empty : Table K V := ⟨[], List.nodup_nil⟩

instance : EmptyCollection (Table K V) := ⟨empty⟩
instance : Inhabited (Table K V) := ⟨empty⟩

def keys (t : Table K V) : List K := t.entries.map Prod.fst

def size (t : Table K V) : Nat := t.entries.length

def get? (t : Table K V) (k : K) : Option V := t.entries.lookup k

def contains (t : Table K V) (k : K) : Bool := (t.get? k).isSome

def erase (t : Table K V) (k : K) : Table K V where
  entries := t.entries.filter fun e => e.1 ≠ k
  nodup := t.nodup.sublist (List.filter_sublist.map _)

theorem not_mem_keys_erase (t : Table K V) (k : K) : k ∉ (t.erase k).entries.map Prod.fst := by
  simp [erase]

/-- Adds an entry, replacing the one of the same key. -/
def insert (t : Table K V) (k : K) (v : V) : Table K V where
  entries := (k, v) :: (t.erase k).entries
  nodup := List.nodup_cons.mpr ⟨t.not_mem_keys_erase k, (t.erase k).nodup⟩

def adjust (t : Table K V) (k : K) (f : V → V) : Table K V where
  entries := t.entries.map fun e => if e.1 = k then (e.1, f e.2) else e
  nodup := by
    have h : (t.entries.map fun e => if e.1 = k then (e.1, f e.2) else e).map Prod.fst =
        t.entries.map Prod.fst := by
      rw [List.map_map]
      apply List.map_congr_left
      intro e _
      simp only [Function.comp]
      split <;> rfl
    rw [h]
    exact t.nodup

def filter (t : Table K V) (p : K → V → Bool) : Table K V where
  entries := t.entries.filter fun e => p e.1 e.2
  nodup := t.nodup.sublist (List.filter_sublist.map _)

@[simp] theorem get?_empty (k : K) : (∅ : Table K V).get? k = none := rfl

theorem lookup_filter_ne (es : List (K × V)) (k l : K) :
    (es.filter fun e => e.1 ≠ k).lookup l = if l = k then none else es.lookup l := by
  induction es with
  | nil => simp
  | cons e es ih =>
    obtain ⟨a, v⟩ := e
    by_cases h : a = k
    · subst h
      rw [List.filter_cons_of_neg (by simp), ih, List.lookup_cons]
      by_cases hl : l = a
      · simp [hl]
      · have hb : (l == a) = false := by simp [hl]
        simp [hb]
    · rw [List.filter_cons_of_pos (by simp [h]), List.lookup_cons, List.lookup_cons, ih]
      by_cases hl : l = a
      · subst hl
        simp [h]
      · have hb : (l == a) = false := by simp [hl]
        simp [hb]

@[simp] theorem get?_erase (t : Table K V) (k l : K) :
    (t.erase k).get? l = if l = k then none else t.get? l := lookup_filter_ne t.entries k l

@[simp] theorem get?_insert (t : Table K V) (k l : K) (v : V) :
    (t.insert k v).get? l = if l = k then some v else t.get? l := by
  have h : (t.insert k v).get? l = ((k, v) :: (t.erase k).entries).lookup l := rfl
  rw [h, List.lookup_cons]
  by_cases hl : l = k
  · simp [hl]
  · have hb : (l == k) = false := by simp [hl]
    rw [hb]
    have := get?_erase t k l
    simp only [hl, if_false] at this ⊢
    exact this

theorem lookup_map_adjust (es : List (K × V)) (k l : K) (f : V → V) :
    (es.map fun e => if e.1 = k then (e.1, f e.2) else e).lookup l =
      if l = k then (es.lookup l).map f else es.lookup l := by
  induction es with
  | nil => simp
  | cons e es ih =>
    obtain ⟨a, v⟩ := e
    have hc : ((if a = k then (a, f v) else (a, v)) : K × V) = (a, if a = k then f v else v) := by
      split <;> rfl
    rw [List.map_cons, hc, List.lookup_cons, List.lookup_cons, ih]
    by_cases hl : l = a
    · subst hl
      by_cases hk : l = k <;> simp [hk]
    · have hb : (l == a) = false := by simp [hl]
      simp [hb]

@[simp] theorem get?_adjust (t : Table K V) (k l : K) (f : V → V) :
    (t.adjust k f).get? l = if l = k then (t.get? l).map f else t.get? l :=
  lookup_map_adjust t.entries k l f

theorem mem_of_lookup {es : List (K × V)} {k : K} {v : V} (h : es.lookup k = some v) :
    (k, v) ∈ es := by
  induction es with
  | nil => cases h
  | cons e es ih =>
    obtain ⟨a, w⟩ := e
    rw [List.lookup_cons] at h
    by_cases hk : k = a
    · subst hk
      rw [beq_self_eq_true] at h
      cases h
      exact List.mem_cons_self
    · rw [beq_eq_false_iff_ne.mpr hk] at h
      exact List.mem_cons_of_mem _ (ih h)

theorem lookup_of_mem {es : List (K × V)} (hn : (es.map Prod.fst).Nodup) {k : K} {v : V}
    (h : (k, v) ∈ es) : es.lookup k = some v := by
  induction es with
  | nil => cases h
  | cons e es ih =>
    obtain ⟨a, w⟩ := e
    obtain ⟨ha, hn⟩ := List.nodup_cons.mp hn
    rw [List.lookup_cons]
    rcases List.mem_cons.mp h with he | he
    · cases he
      rw [beq_self_eq_true]
    · have hk : k ≠ a := by
        rintro rfl
        exact ha (List.mem_map.mpr ⟨(k, v), he, rfl⟩)
      rw [beq_eq_false_iff_ne.mpr hk]
      exact ih hn he

/-- The entries are the pairs that look-up finds. -/
theorem mem_entries_iff (t : Table K V) {k : K} {v : V} :
    (k, v) ∈ t.entries ↔ t.get? k = some v :=
  ⟨lookup_of_mem t.nodup, mem_of_lookup⟩

theorem filterMap_lookup {B : Type} {es : List (K × V)} (hn : (es.map Prod.fst).Nodup) {k : K}
    {f : K × V → Option B} (hf : ∀ e ∈ es, e.1 ≠ k → f e = none) :
    es.filterMap f = ((es.lookup k).bind fun v => f (k, v)).toList := by
  induction es with
  | nil => rfl
  | cons e es ih =>
    obtain ⟨a, v⟩ := e
    obtain ⟨ha, hn⟩ := List.nodup_cons.mp hn
    rw [List.filterMap_cons, List.lookup_cons]
    by_cases hk : k = a
    · subst hk
      have hrest : es.filterMap f = [] := by
        refine List.filterMap_eq_nil_iff.mpr fun e he => hf e (List.mem_cons_of_mem _ he) ?_
        rintro rfl
        exact ha (List.mem_map.mpr ⟨e, he, rfl⟩)
      rw [hrest, beq_self_eq_true, Option.bind_some]
      cases f (k, v) <;> rfl
    · rw [hf (a, v) List.mem_cons_self (Ne.symm hk), beq_eq_false_iff_ne.mpr hk]
      exact ih hn fun e he => hf e (List.mem_cons_of_mem _ he)

/-- What is collected from the entry of one key only. -/
theorem filterMap_entries {B : Type} (t : Table K V) {k : K} {f : K × V → Option B}
    (hf : ∀ e ∈ t.entries, e.1 ≠ k → f e = none) :
    t.entries.filterMap f = ((t.get? k).bind fun v => f (k, v)).toList :=
  filterMap_lookup t.nodup hf

theorem mem_keys_iff (t : Table K V) {k : K} : k ∈ t.keys ↔ ∃ v, t.get? k = some v := by
  simp only [keys, List.mem_map, Prod.exists, exists_and_right, exists_eq_right,
    mem_entries_iff]

theorem contains_iff (t : Table K V) {k : K} : t.contains k = true ↔ ∃ v, t.get? k = some v :=
  Option.isSome_iff_exists

@[simp] theorem get?_filter (t : Table K V) (p : K → V → Bool) (k : K) :
    (t.filter p).get? k = (t.get? k).filter (p k) := by
  apply Option.ext
  intro v
  rw [Option.filter_eq_some_iff, ← mem_entries_iff, ← mem_entries_iff]
  exact List.mem_filter

theorem size_insert_of_absent {t : Table K V} {k : K} {v : V}
    (h : t.get? k = none) : (t.insert k v).size = t.size + 1 := by
  have herase : (t.erase k).entries = t.entries := by
    refine List.filter_eq_self.mpr fun e he => ?_
    have hne : e.1 ≠ k := by
      rintro rfl
      rw [t.mem_entries_iff.mp he] at h
      cases h
    simpa using hne
  simp only [size, insert, herase, List.length_cons]

end Table
end LocationRelay
