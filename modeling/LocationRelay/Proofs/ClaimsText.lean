import LocationRelay.Proofs.WrittenToken

/-! # Device claims as JSON text

Escaping touches ASCII characters only and leaves ASCII characters, so what is written is text whatever characters
are in the names. Main statement: claims are read back from their text, whose members are those that the claims
have.
-/
namespace LocationRelay

open Text (Bytes)

/-! ## Escaped texts -/

namespace Text

/-- The bytes of a character beyond ASCII are all beyond ASCII. -/
theorem high_of_mem_utf8EncodeChar {c : Char} (h : 128 ≤ c.toNat) {b : UInt8} (hb : b ∈ String.utf8EncodeChar c) :
    128 ≤ b.toNat := by
  have hval : 128 ≤ c.val.toNat := h
  rw [String.utf8EncodeChar.eq_1] at hb
  split_ifs at hb with h₁ h₂ h₃
  · omega
  all_goals
    simp only [List.mem_cons, List.not_mem_nil, or_false] at hb
    rcases hb with rfl | rfl | rfl | rfl <;> rw [UInt8.toNat_ofNat_of_lt' (by rw [UInt8.size]; omega)] <;> omega

def IsText (bs : Bytes) : Prop := ∃ t : String, encode t = bs

theorem isText_nil : IsText [] := ⟨"", by decide +kernel⟩

theorem isText_encode (t : String) : IsText (encode t) := ⟨t, rfl⟩

theorem isText_char (c : Char) : IsText (String.utf8EncodeChar c) :=
  ⟨String.ofList [c], by rw [encode_ofList, List.flatMap_singleton]⟩

theorem IsText.append {bs bs' : Bytes} (h : IsText bs) (h' : IsText bs') : IsText (bs ++ bs') := by
  obtain ⟨t, rfl⟩ := h
  obtain ⟨t', rfl⟩ := h'
  refine ⟨t ++ t', ?_⟩
  simp only [encode_eq_flatMap, String.toList_append, List.flatMap_append]

theorem isText_flatMap {α : Type} {f : α → Bytes} {as : List α} (h : ∀ a ∈ as, IsText (f a)) :
    IsText (as.flatMap f) := by
  induction as with
  | nil => exact isText_nil
  | cons a as ih =>
    rw [List.flatMap_cons]
    exact (h a List.mem_cons_self).append (ih fun b hb => h b (List.mem_cons_of_mem _ hb))

theorem isText_of_ascii {bs : Bytes} (h : ∀ b ∈ bs, b.toNat < 128) : IsText bs := by
  have hchar : ∀ b ∈ bs, (Char.ofNat b.toNat).toNat = b.toNat := fun b hb => by
    have hb := h b hb
    rw [Char.ofNat, dif_pos (Or.inl (by omega))]
    rfl
  refine ⟨String.ofList (bs.map fun b => Char.ofNat b.toNat), ?_⟩
  rw [encode_of_ascii, List.map_map]
  · conv => rhs; rw [← List.map_id bs]
    refine List.map_congr_left fun b hb => ?_
    change UInt8.ofNat (Char.ofNat b.toNat).toNat = b
    rw [hchar b hb, UInt8.ofNat_toNat]
  · intro c hc
    obtain ⟨b, hb, rfl⟩ := List.mem_map.mp hc
    rw [hchar b hb]
    exact h b hb

end Text

namespace Json

theorem ascii_hexLetter : ∀ n < 16, (hexLetter n).toNat < 128 := by decide

theorem ascii_escape {b : UInt8} (h : b.toNat < 128) : ∀ e ∈ escape b, e.toNat < 128 := by
  have hlow : b < 32 → ∀ n, n = b.toNat / 16 ∨ n = b.toNat % 16 → (hexLetter n).toNat < 128 := by
    intro hcontrol n hn
    have hval : b.toNat < 32 := hcontrol
    exact ascii_hexLetter n (by omega)
  unfold escape
  split_ifs with hquote hback hfeed hline hreturn htab hcontrol
  all_goals
    simp only [List.forall_mem_cons, List.not_mem_nil, false_implies, implies_true, and_true]
  · exact ⟨by decide, h⟩
  · decide
  · decide
  · decide
  · decide
  · decide
  · exact ⟨by decide, by decide, by decide, by decide, hlow hcontrol _ (.inl rfl), hlow hcontrol _ (.inr rfl)⟩
  · exact h

theorem escape_of_high {b : UInt8} (h : 128 ≤ b.toNat) : escape b = [b] := by
  have hne : ∀ c : UInt8, c.toNat < 128 → b ≠ c := by
    rintro c hc rfl
    omega
  have hcontrol : ¬ b < 32 := fun hlow => absurd (show b.toNat < 32 from hlow) (by omega)
  simp [escape, hne 34 (by decide), hne 92 (by decide), hne 8 (by decide), hne 12 (by decide),
    hne 10 (by decide), hne 13 (by decide), hne 9 (by decide), hcontrol]

/-- A character beyond ASCII is written as it is, and any other in ASCII characters. -/
theorem isText_flatMap_escape (c : Char) : Text.IsText ((String.utf8EncodeChar c).flatMap escape) := by
  by_cases hc : c.toNat < 128
  · rw [Text.utf8EncodeChar_of_ascii hc, List.flatMap_singleton]
    refine Text.isText_of_ascii (ascii_escape ?_)
    rwa [UInt8.toNat_ofNat_of_lt' (show c.toNat < 256 by omega)]
  · have hsame : (String.utf8EncodeChar c).flatMap escape = (String.utf8EncodeChar c).flatMap fun b => [b] :=
      List.flatMap_congr fun b hb =>
        escape_of_high (Text.high_of_mem_utf8EncodeChar (Nat.le_of_not_lt hc) hb)
    rw [hsame, List.flatMap_singleton']
    exact Text.isText_char c

theorem isText_quoted (s : String) : Text.IsText (quoted s) := by
  have hquote : Text.IsText [34] := Text.isText_of_ascii (by simp)
  rw [quoted, Text.encode_eq_flatMap, List.flatMap_assoc]
  exact (hquote.append (Text.isText_flatMap fun c _ => isText_flatMap_escape c)).append hquote

end Json

/-! ## Claims -/

namespace Token.Claims

open Json (object?)

theorem isText_toJson (c : Claims) : Text.IsText c.toJson := by
  obtain ⟨username, deviceId, expires, issued⟩ := c
  have hall := (((((Text.isText_encode "\x7b\"username\":").append (Json.isText_quoted username)).append
    (Text.isText_encode ",\"deviceId\":")).append (Json.isText_quoted deviceId)).append
      (Text.isText_encode ",\"exp\":")).append (Text.isText_encode (Text.decimal expires))
  cases issued with
  | none => exact (hall.append Text.isText_nil).append (Text.isText_encode "\x7d")
  | some t =>
    exact (hall.append ((Text.isText_encode ",\"iat\":").append (Text.isText_encode (Text.decimal t)))).append
      (Text.isText_encode "\x7d")

/-- Claims whose times are numbers of 64 bits are written as a text from which they are read back, whatever is in
the names. The text is an object whose members are the user, the device, the expiry and, exactly when the claims
have one, the time of issue. -/
theorem text_reads_back {c : Claims} (h : c.Fits) : ∃ t : String, c.toJson = Text.encode t ∧
    ofJson? (Text.encode t) = some c ∧ ∃ ms, object? (Text.encode t) = some ms ∧
      ms.map Prod.fst = ["username", "deviceId", "exp"] ++ if c.issued.isSome then ["iat"] else [] := by
  obtain ⟨t, ht⟩ := c.isText_toJson
  refine ⟨t, ht.symm, ht ▸ ofJson?_toJson h, _, ht ▸ c.object?_toJson, ?_⟩
  obtain ⟨username, deviceId, expires, issued⟩ := c
  cases issued <;> rfl

/-- A quote, a backslash, control characters and a character outside the basic plane in the names, the largest
expiry, and a time of issue that no double represents. -/
theorem text_reads_back_escaped :
    let c : Claims := ⟨"a\"b\\c\n\x01\x7f", "😀é", 18446744073709551615, some 9007199254740993⟩
    c.Fits ∧ ∃ t : String, c.toJson = Text.encode t ∧ ofJson? (Text.encode t) = some c ∧
      ∃ ms, object? (Text.encode t) = some ms ∧ ms.map Prod.fst = ["username", "deviceId", "exp", "iat"] := by
  intro c
  have hfits : c.Fits := ⟨by decide, by decide⟩
  exact ⟨hfits, text_reads_back hfits⟩

end Token.Claims
end LocationRelay
