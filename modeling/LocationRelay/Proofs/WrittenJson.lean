import LocationRelay.Json.Scan
import LocationRelay.Proofs.TextBytes
import Mathlib.Tactic.SplitIfs

/-! # JSON that was written here is read back

A quoted text is read back whatever characters it is made of, a number with all its digits, and an object
of such values member by member.
-/
namespace LocationRelay.Json

open Text (Bytes)

/-! ## Quoted texts -/

def pieceOf (b : UInt8) : Piece :=
  if b < 32 ∧ b ≠ 8 ∧ b ≠ 9 ∧ b ≠ 10 ∧ b ≠ 12 ∧ b ≠ 13 then .unit b.toNat else .byte b

theorem unitOf?_hexLetters :
    ∀ n < 32, unitOf? 48 48 (hexLetter (n / 16)) (hexLetter (n % 16)) = some n := by decide

/-- A byte is written as a letter after a backslash, as a unit of four digits, or as it is. -/
theorem escape_cases (b : UInt8) :
    (∃ e, escape b = [92, e] ∧ e ≠ 117 ∧ shortEscape? e = some b ∧ pieceOf b = .byte b) ∨
    (∃ c d, escape b = [92, 117, 48, 48, c, d] ∧ unitOf? 48 48 c d = some b.toNat ∧
      pieceOf b = .unit b.toNat) ∨
    (escape b = [b] ∧ b ≠ 34 ∧ b ≠ 92 ∧ ¬ b < 32 ∧ pieceOf b = .byte b) := by
  unfold escape
  split_ifs with hquote hback hfeed hline hreturn htab hcontrol
  · refine .inl ⟨b, rfl, ?_⟩
    rcases hquote with rfl | rfl <;> decide
  · exact .inl ⟨98, rfl, by subst hback; decide⟩
  · exact .inl ⟨102, rfl, by subst hfeed; decide⟩
  · exact .inl ⟨110, rfl, by subst hline; decide⟩
  · exact .inl ⟨114, rfl, by subst hreturn; decide⟩
  · exact .inl ⟨116, rfl, by subst htab; decide⟩
  · exact .inr (.inl ⟨_, _, rfl, unitOf?_hexLetters _ hcontrol,
      if_pos ⟨hcontrol, hback, htab, hline, hfeed, hreturn⟩⟩)
  · rw [not_or] at hquote
    exact .inr (.inr ⟨rfl, hquote.1, hquote.2, hcontrol, if_neg fun h => hcontrol h.1⟩)

theorem pieces?_escape (b : UInt8) (rest : Bytes) :
    pieces? (escape b ++ rest) = (pieces? rest).map fun p => (pieceOf b :: p.1, p.2) := by
  obtain ⟨e, he, hletter, hshort, hpiece⟩ | ⟨c, d, he, hunit, hpiece⟩ |
    ⟨he, hquote, hback, hcontrol, hpiece⟩ := escape_cases b <;> rw [he, hpiece]
  · change pieces? (92 :: e :: rest) = _
    rw [pieces?.eq_3 92 e rest (fun _ _ _ _ _ h _ => hletter h), if_neg (by decide), if_pos rfl,
      hshort]
    cases pieces? rest <;> rfl
  · change pieces? (92 :: 117 :: 48 :: 48 :: c :: d :: rest) = _
    rw [pieces?, if_neg (by decide), if_pos rfl, hunit]
    cases pieces? rest <;> rfl
  · change pieces? (b :: rest) = _
    rw [pieces?.eq_def]
    simp only [if_neg hquote, if_neg hback, if_neg hcontrol]
    cases pieces? rest <;> rfl

theorem pieces?_written (bs rest : Bytes) :
    pieces? (bs.flatMap escape ++ 34 :: rest) = some (bs.map pieceOf, rest) := by
  induction bs with
  | nil =>
    change pieces? (34 :: rest) = _
    rw [pieces?.eq_def]
    rfl
  | cons b bs ih =>
    rw [List.flatMap_cons, List.append_assoc, pieces?_escape, ih]
    rfl

theorem codeBytes_control {b : UInt8} (h : b.toNat < 32) : codeBytes b.toNat = [b] := by
  have hchar : (Char.ofNat b.toNat).toNat = b.toNat := by
    rw [Char.ofNat, dif_pos (Or.inl (by omega))]
    rfl
  rw [codeBytes, Text.utf8EncodeChar_of_ascii (by omega), hchar, UInt8.ofNat_toNat]

theorem join_map_pieceOf (bs : Bytes) : join (bs.map pieceOf) = .ok bs := by
  induction bs with
  | nil => rfl
  | cons b bs ih =>
    rw [List.map_cons, pieceOf]
    split
    · next hcontrol =>
      have hlow : b.toNat < 32 := hcontrol.1
      have hnotLow : isLowHalf b.toNat = false := by
        simp only [isLowHalf, Bool.and_eq_false_iff, decide_eq_false_iff_not]
        omega
      have hnotHigh : isHighHalf b.toNat = false := by
        simp only [isHighHalf, Bool.and_eq_false_iff, decide_eq_false_iff_not]
        omega
      rw [join.eq_def]
      simp only [hnotLow, hnotHigh, Bool.false_eq_true, if_false, ih, codeBytes_control hlow]
      rfl
    · rw [join, ih]
      rfl

theorem textOf_map_pieceOf (s : String) : textOf ((Text.encode s).map pieceOf) = .ok s := by
  simp only [textOf, join_map_pieceOf, bind, Except.bind, Text.decode_encode]
  rfl

/-- Every text is read back from its quoted form. -/
theorem string?_quoted (s : String) : string? (quoted s) = some s := by
  have hquoted : quoted s = 34 :: ((Text.encode s).flatMap escape ++ [34]) := rfl
  simp only [hquoted, string?, pieces?_written, textOf_map_pieceOf]
  rfl

/-! ## Numbers -/

def digitBytes (n : Nat) : Bytes := (Nat.toDigits 10 n).map fun c => UInt8.ofNat c.toNat

theorem encode_decimal (n : Nat) : Text.encode (Text.decimal n) = digitBytes n := by
  refine Text.encode_of_ascii fun c hc => ?_
  have hbounds := Text.isDigit_bounds (Nat.isDigit_of_mem_toDigits (by decide) (by decide) hc)
  omega

theorem digitBytes_ne_nil (n : Nat) : digitBytes n ≠ [] := by
  rw [digitBytes, Ne, List.map_eq_nil_iff]
  exact Nat.toDigits_ne_nil

theorem isDigit_of_mem_digitBytes {n : Nat} {b : UInt8} (h : b ∈ digitBytes n) :
    isDigit b = true := by
  obtain ⟨c, hc, rfl⟩ := List.mem_map.mp h
  have hbounds := Text.isDigit_bounds (Nat.isDigit_of_mem_toDigits (by decide) (by decide) hc)
  have hbyte : (UInt8.ofNat c.toNat).toNat = c.toNat := UInt8.toNat_ofNat_of_lt' (show c.toNat < 256 by omega)
  rw [isDigit, Bool.and_eq_true, decide_eq_true_eq, decide_eq_true_eq, UInt8.le_iff_toNat_le,
    UInt8.le_iff_toNat_le, hbyte]
  exact hbounds

theorem digit_ne_zero : ∀ n < 10, 0 < n → UInt8.ofNat n.digitChar.toNat ≠ 48 := by decide

/-- No number but zero begins with a zero. -/
theorem head?_digitBytes {n : Nat} (h : 0 < n) : (digitBytes n).head? ≠ some 48 := by
  induction n using Nat.strongRecOn with
  | ind n ih =>
    rw [digitBytes]
    by_cases hsmall : n < 10
    · rw [Nat.toDigits_of_lt_base hsmall]
      exact fun hhead => digit_ne_zero n hsmall h (Option.some.inj hhead)
    · have hhead := ih (n / 10) (by omega) (by omega)
      obtain ⟨b, bs, hbs⟩ := List.exists_cons_of_ne_nil (digitBytes_ne_nil (n / 10))
      rw [hbs] at hhead
      rw [Nat.toDigits_of_base_le (by decide) (Nat.le_of_not_lt hsmall), List.map_append]
      change (digitBytes (n / 10) ++ _).head? ≠ _
      rw [hbs]
      exact hhead

theorem map_digitBytes (n : Nat) :
    ((digitBytes n).map fun b => Char.ofNat b.toNat) = Nat.toDigits 10 n := by
  refine Text.map_ofNat_bytes fun c hc => ?_
  have hbounds := Text.isDigit_bounds (Nat.isDigit_of_mem_toDigits (by decide) (by decide) hc)
  omega

/-- A number of 64 bits is read back from its digits. -/
theorem natural?_digitBytes {n : Nat} (h : n ≤ Text.maxU64) : natural? (digitBytes n) = some n := by
  have hall : (digitBytes n).all isDigit = true :=
    List.all_eq_true.mpr fun _ => isDigit_of_mem_digitBytes
  have hplain : ((digitBytes n).head? != some 48 || (digitBytes n).length == 1) = true := by
    rcases Nat.eq_zero_or_pos n with rfl | hpos
    · rfl
    · rw [bne_iff_ne.mpr (head?_digitBytes hpos), Bool.true_or]
  rw [natural?, hall, hplain, map_digitBytes]
  exact Text.unsigned?_toDigits h

/-! ## Values in an object -/

/-- Bytes that are a value of their own, whether another member or the end of the object follows. -/
structure Stands (v : Bytes) : Prop where
  head : ∃ b bs, v = b :: bs ∧ isBlank b = false
  passed : ∀ n b rest, b = 44 ∨ b = 125 → skipValueWithin? (n + 1) (v ++ b :: rest) = some (b :: rest)

theorem skipBlanks_of_head {b : UInt8} (h : isBlank b = false) (bs : Bytes) :
    skipBlanks (b :: bs) = b :: bs := List.dropWhile_cons_of_neg (by rw [h]; decide)

theorem Stands.skipBlanks {v : Bytes} (h : Stands v) (rest : Bytes) :
    skipBlanks (v ++ rest) = v ++ rest := by
  obtain ⟨b, bs, rfl, hb⟩ := h.head
  exact skipBlanks_of_head hb _

theorem Stands.value? {v : Bytes} (h : Stands v) {b : UInt8} (hb : b = 44 ∨ b = 125) (rest : Bytes) :
    value? (v ++ b :: rest) = some (v, b :: rest) := by
  have hpassed : skipValueWithin? (2 * (v ++ b :: rest).length + 2) (v ++ b :: rest) =
      some (b :: rest) := h.passed _ b rest hb
  have hlength : (v ++ b :: rest).length - (b :: rest).length = v.length := by
    rw [List.length_append, Nat.add_sub_cancel]
  rw [Json.value?, h.skipBlanks]
  simp only [hpassed, Option.bind_eq_bind, Option.bind_some, hlength, List.take_left]
  rfl

theorem quoted_append (s : String) (rest : Bytes) :
    quoted s ++ rest = 34 :: ((Text.encode s).flatMap escape ++ 34 :: rest) := by
  rw [quoted, List.append_assoc]
  rfl

theorem stands_quoted (s : String) : Stands (quoted s) := by
  refine ⟨⟨34, _, rfl, by decide⟩, fun n b rest _ => ?_⟩
  rw [quoted_append, skipValueWithin?.eq_2, skipBlanks_of_head (by decide)]
  change Option.map _ _ = _
  rw [pieces?_written]
  rfl

theorem dropWhile_isDigit {v : Bytes} (h : ∀ b ∈ v, isDigit b = true) {b : UInt8}
    (hb : isDigit b = false) (rest : Bytes) : (v ++ b :: rest).dropWhile isDigit = b :: rest := by
  rw [List.dropWhile_append_of_pos h, List.dropWhile_cons_of_neg (by rw [hb]; decide)]

theorem skipWhole?_digitBytes (n : Nat) {b : UInt8} (hb : isDigit b = false) (rest : Bytes) :
    skipWhole? (digitBytes n ++ b :: rest) = some (b :: rest) := by
  rcases Nat.eq_zero_or_pos n with rfl | hpos
  · change (if ((b :: rest).head?.map isDigit).getD false then none else some (b :: rest)) = _
    exact if_neg (by simp [hb])
  · obtain ⟨d, ds, hds⟩ := List.exists_cons_of_ne_nil (digitBytes_ne_nil n)
    have hzero : d ≠ 48 := fun h => head?_digitBytes hpos (by rw [hds, h]; rfl)
    have hdigit : ∀ c ∈ d :: ds, isDigit c = true :=
      fun c hc => isDigit_of_mem_digitBytes (hds ▸ hc)
    have hdrop := dropWhile_isDigit hdigit hb rest
    rw [hds]
    rw [List.cons_append] at hdrop ⊢
    rw [skipWhole?.eq_2 _ (fun _ h => hzero (List.cons.inj h).1), skipDigits?, hdrop]
    exact if_pos (hdigit d List.mem_cons_self)

theorem skipNumber?_digitBytes (n : Nat) {b : UInt8} (hb : b = 44 ∨ b = 125) (rest : Bytes) :
    skipNumber? (digitBytes n ++ b :: rest) = some (b :: rest) := by
  have hstop : isDigit b = false := by rcases hb with rfl | rfl <;> decide
  have hfraction : skipFraction? (b :: rest) = some (b :: rest) := by rcases hb with rfl | rfl <;> rfl
  have hexponent : skipExponent? (b :: rest) = some (b :: rest) := by
    rw [skipExponent?.eq_def]
    exact if_neg (by rcases hb with rfl | rfl <;> decide)
  have hwhole := skipWhole?_digitBytes n hstop rest
  unfold skipNumber?
  split
  · next digits hminus =>
    obtain ⟨d, ds, hds⟩ := List.exists_cons_of_ne_nil (digitBytes_ne_nil n)
    have hdigit : isDigit d = true := isDigit_of_mem_digitBytes (hds ▸ List.mem_cons_self)
    rw [hds] at hminus
    rw [(List.cons.inj hminus).1] at hdigit
    cases hdigit
  · simp only [hwhole, hfraction, hexponent, Option.bind_eq_bind, Option.bind_some]

theorem stands_digitBytes (n : Nat) : Stands (digitBytes n) := by
  obtain ⟨d, ds, hds⟩ := List.exists_cons_of_ne_nil (digitBytes_ne_nil n)
  have hother : ∀ c : UInt8, isDigit c = false → d ≠ c := by
    rintro c hc rfl
    rw [isDigit_of_mem_digitBytes (hds ▸ List.mem_cons_self)] at hc
    cases hc
  have hblank : isBlank d = false := by
    simp [isBlank, hother 32 (by decide), hother 10 (by decide), hother 13 (by decide),
      hother 9 (by decide)]
  refine ⟨⟨d, ds, hds, hblank⟩, fun m b rest hb => ?_⟩
  have hnumber := skipNumber?_digitBytes n hb rest
  rw [hds, List.cons_append] at hnumber ⊢
  rw [skipValueWithin?.eq_2, skipBlanks_of_head hblank]
  -- a digit opens neither a text, a list, an object nor a word
  split
  · next h => exact absurd (List.cons.inj h).1 (hother 34 (by decide))
  · next h => exact absurd (List.cons.inj h).1 (hother 91 (by decide))
  · next h => exact absurd (List.cons.inj h).1 (hother 123 (by decide))
  · next h => exact absurd (List.cons.inj h).1 (hother 110 (by decide))
  · next h => exact absurd (List.cons.inj h).1 (hother 116 (by decide))
  · next h => exact absurd (List.cons.inj h).1 (hother 102 (by decide))
  · exact hnumber

/-! ## Objects -/

def memberBytes (m : String × Bytes) : Bytes := quoted m.1 ++ 58 :: m.2

def objectBytes (m : String × Bytes) (ms : List (String × Bytes)) : Bytes :=
  123 :: (memberBytes m ++ (ms.flatMap fun m => 44 :: memberBytes m) ++ [125])

theorem membersWithin?_memberBytes {m : String × Bytes} (hm : Stands m.2) (n : Nat) {b : UInt8}
    (hb : b = 44 ∨ b = 125) (rest : Bytes) :
    membersWithin? (n + 1) (memberBytes m ++ b :: rest) =
      if b = 44 then (membersWithin? n rest).map fun p => (m :: p.1, p.2) else some ([m], rest) := by
  have hvalue : value? (m.2 ++ b :: rest) = some (m.2, b :: rest) := hm.value? hb rest
  have hbytes : memberBytes m ++ b :: rest =
      34 :: ((Text.encode m.1).flatMap escape ++ 34 :: 58 :: (m.2 ++ b :: rest)) := by
    rw [memberBytes, List.append_assoc, quoted_append, List.cons_append]
  rw [membersWithin?, hbytes, skipBlanks_of_head (by decide)]
  simp only [pieces?_written, textOf_map_pieceOf, Except.toOption, Option.bind_eq_bind,
    Option.bind_some, skipBlanks_of_head (show isBlank 58 = false by decide), hvalue]
  rcases hb with rfl | rfl
  · rw [skipBlanks_of_head (by decide), if_pos rfl]
    change (membersWithin? n rest).bind _ = _
    cases membersWithin? n rest <;> rfl
  · rw [skipBlanks_of_head (by decide)]
    rfl

theorem membersWithin?_objectBytes {m : String × Bytes} {ms : List (String × Bytes)}
    (h : ∀ e ∈ m :: ms, Stands e.2) {n : Nat} (hn : ms.length < n) :
    membersWithin? n (memberBytes m ++ (ms.flatMap fun m => 44 :: memberBytes m) ++ [125]) =
      some (m :: ms, []) := by
  induction ms generalizing m n with
  | nil =>
    obtain ⟨n, rfl⟩ : ∃ k, n = k + 1 := ⟨n - 1, by omega⟩
    rw [List.flatMap_nil, List.append_nil]
    exact membersWithin?_memberBytes (h m List.mem_cons_self) _ (.inr rfl) []
  | cons next ms ih =>
    obtain ⟨n, rfl⟩ : ∃ k, n = k + 1 := ⟨n - 1, by omega⟩
    have hrest := ih (fun e he => h e (List.mem_cons_of_mem _ he))
      (Nat.lt_of_succ_lt_succ (List.length_cons ▸ hn))
    rw [List.flatMap_cons, List.append_assoc, List.append_assoc, List.cons_append,
      membersWithin?_memberBytes (h m List.mem_cons_self) _ (.inl rfl), if_pos rfl,
      ← List.append_assoc, hrest]
    rfl

theorem length_le_flatMap_memberBytes (ms : List (String × Bytes)) :
    ms.length ≤ (ms.flatMap fun m => 44 :: memberBytes m).length := by
  induction ms with
  | nil => exact Nat.le_refl 0
  | cons m ms ih =>
    rw [List.flatMap_cons, List.length_append, List.length_cons, List.length_cons]
    omega

/-- An object of values that stand is read back member by member. -/
theorem object?_objectBytes {m : String × Bytes} {ms : List (String × Bytes)}
    (h : ∀ e ∈ m :: ms, Stands e.2) : object? (objectBytes m ms) = some (m :: ms) := by
  have hlength := length_le_flatMap_memberBytes ms
  have hmembers := membersWithin?_objectBytes h (n := (memberBytes m ++
      (ms.flatMap fun m => 44 :: memberBytes m) ++ [125]).length) (by
    rw [List.length_append, List.length_append, List.length_singleton]
    omega)
  have hopen : memberBytes m ++ (ms.flatMap fun m => 44 :: memberBytes m) ++ [125] =
      34 :: ((Text.encode m.1).flatMap escape ++
        34 :: 58 :: (m.2 ++ (ms.flatMap fun m => 44 :: memberBytes m) ++ [125])) := by
    rw [memberBytes, List.append_assoc, List.append_assoc, quoted_append, List.append_assoc]
    rfl
  rw [object?, objectBytes, skipBlanks_of_head (by decide)]
  rw [hopen] at hmembers ⊢
  simp only [Option.bind_eq_bind, Option.bind_some,
    skipBlanks_of_head (show isBlank 34 = false by decide)]
  change (membersWithin? _ _).bind _ = _
  rw [hmembers]
  rfl

end LocationRelay.Json
