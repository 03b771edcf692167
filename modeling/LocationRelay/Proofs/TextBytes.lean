import LocationRelay.Text.Decimal
import LocationRelay.Text.Hex

/-! # Texts and their bytes

A text is read back from its bytes, a text of ASCII characters has one byte a character, and a number is
read back from its decimal digits.
-/
namespace LocationRelay.Text

theorem toList_eq_data (b : ByteArray) : b.toList = b.data.toList := by
  have hloop : ∀ (n i : Nat) (r : List UInt8), b.size - i = n →
      ByteArray.toList.loop b i r = r.reverse ++ b.data.toList.drop i := by
    intro n
    induction n with
    | zero =>
      intro i r hn
      have hnil : b.data.toList.drop i = [] :=
        List.drop_of_length_le (Nat.le_of_sub_eq_zero hn)
      rw [ByteArray.toList.loop, if_neg (by omega), hnil, List.append_nil]
    | succ n ih =>
      intro i r hn
      have hi : i < b.size := by omega
      have hlength : i < b.data.toList.length := hi
      have hget : b.get! i = b.data.toList[i] := by
        simp only [ByteArray.get!]
        exact getElem!_pos b.data i hi
      rw [ByteArray.toList.loop, if_pos hi, ih (i + 1) _ (by omega), hget,
        List.drop_eq_getElem_cons hlength, List.reverse_cons, List.append_assoc,
        List.singleton_append]
  exact (hloop _ 0 [] rfl).trans (List.nil_append _)

theorem encode_eq_flatMap (s : String) : encode s = s.toList.flatMap String.utf8EncodeChar := by
  rw [encode, toList_eq_data, String.toUTF8_eq_toByteArray, ← String.utf8Encode_toList,
    List.utf8Encode, List.toList_data_toByteArray]

theorem encode_ofList (cs : List Char) :
    encode (String.ofList cs) = cs.flatMap String.utf8EncodeChar := by
  rw [encode_eq_flatMap, String.toList_ofList]

/-- Every text is read back from its bytes. -/
theorem decode_encode (s : String) : decode? (encode s) = some s := by
  have hbytes : (encode s).toByteArray = s.toByteArray := by
    rw [encode_eq_flatMap, ← String.utf8Encode_toList]
    rfl
  rw [decode?, hbytes, String.fromUTF8?, dif_pos s.isValidUTF8]
  rfl

theorem utf8EncodeChar_of_ascii {c : Char} (h : c.toNat < 128) :
    String.utf8EncodeChar c = [UInt8.ofNat c.toNat] := by
  have hval : c.val.toNat ≤ 127 := Nat.le_of_lt_succ h
  rw [String.utf8EncodeChar.eq_1, if_pos hval]
  rfl

/-- A text of ASCII characters has one byte a character. -/
theorem encode_of_ascii {cs : List Char} (h : ∀ c ∈ cs, c.toNat < 128) :
    encode (String.ofList cs) = cs.map fun c => UInt8.ofNat c.toNat := by
  rw [encode_ofList]
  induction cs with
  | nil => rfl
  | cons c cs ih =>
    rw [List.flatMap_cons, utf8EncodeChar_of_ascii (h c List.mem_cons_self),
      ih fun d hd => h d (List.mem_cons_of_mem _ hd)]
    rfl

/-- ASCII characters are told by their bytes. -/
theorem map_ofNat_bytes {cs : List Char} (h : ∀ c ∈ cs, c.toNat < 128) :
    ((cs.map fun c => UInt8.ofNat c.toNat).map fun b => Char.ofNat b.toNat) = cs := by
  rw [List.map_map]
  conv => rhs; rw [← List.map_id cs]
  refine List.map_congr_left fun c hc => ?_
  have hc := h c hc
  change Char.ofNat (UInt8.ofNat c.toNat).toNat = c
  rw [UInt8.toNat_ofNat_of_lt' (show c.toNat < 256 by omega), Char.ofNat_toNat]

/-! ## Decimal digits -/

theorem isDigit_bounds {c : Char} (h : c.isDigit = true) : 48 ≤ c.toNat ∧ c.toNat ≤ 57 := by
  simp only [Char.isDigit, Bool.and_eq_true, decide_eq_true_eq] at h
  exact h

theorem digitsFrom?_of_isDigit {cs : List Char} (h : ∀ c ∈ cs, c.isDigit = true) (n : Nat) :
    digitsFrom? n cs = some (Nat.ofDigitChars 10 cs n) := by
  induction cs generalizing n with
  | nil => rw [digitsFrom?, Nat.ofDigitChars_nil]
  | cons c cs ih =>
    have hc : digit? c = some (c.toNat - '0'.toNat) := if_pos (isDigit_bounds (h c List.mem_cons_self))
    rw [digitsFrom?, hc, Nat.ofDigitChars_cons]
    exact ih (fun d hd => h d (List.mem_cons_of_mem _ hd)) _

/-- A number within the limit is read back from its digits. -/
theorem unsigned?_toDigits {limit n : Nat} (h : n ≤ limit) :
    unsigned? limit (Nat.toDigits 10 n) = some n := by
  have hdigit : ∀ c ∈ Nat.toDigits 10 n, c.isDigit = true :=
    fun c hc => Nat.isDigit_of_mem_toDigits (by decide) (by decide) hc
  have hread : digits? (Nat.toDigits 10 n) = some n := by
    have hfrom := digitsFrom?_of_isDigit hdigit 0
    rw [Nat.ofDigitChars_ten_toDigits] at hfrom
    unfold digits?
    split
    · next hnil => exact absurd hnil Nat.toDigits_ne_nil
    · exact hfrom
  unfold unsigned?
  split
  · next rest hplus =>
    have hsign := hdigit '+' (hplus ▸ List.mem_cons_self)
    cases hsign
  · rw [hread]
    exact if_pos h

end LocationRelay.Text
