import LocationRelay.Http
import LocationRelay.Proofs.Segments
import LocationRelay.Proofs.WrittenJson

/-! # Tokens that were minted here are read back

The header and the claims of a minted token are read back as they were written, and the token falls apart
into the segments that it was made of. Both readings of the claims find the same expiry.
-/
namespace LocationRelay.Token

open Json
open Text (Bytes)

/-! ## Claims -/

namespace Claims

/-- Claims that a token can hold: their times are numbers of 64 bits. -/
structure Fits (c : Claims) : Prop where
  expires : c.expires ≤ Text.maxU64
  issued : ∀ t ∈ c.issued, t ≤ Text.maxU64

def laterMembers (c : Claims) : List (String × Bytes) :=
  ("deviceId", quoted c.deviceId) :: ("exp", digitBytes c.expires) ::
    match c.issued with
    | none => []
    | some n => [("iat", digitBytes n)]

theorem toJson_eq (c : Claims) :
    c.toJson = objectBytes ("username", quoted c.username) c.laterMembers := by
  have husername : Text.encode "\x7b\"username\":" = 123 :: (quoted "username" ++ [58]) := by
    decide +kernel
  have hdevice : Text.encode ",\"deviceId\":" = 44 :: (quoted "deviceId" ++ [58]) := by
    decide +kernel
  have hexpires : Text.encode ",\"exp\":" = 44 :: (quoted "exp" ++ [58]) := by decide +kernel
  have hissued : Text.encode ",\"iat\":" = 44 :: (quoted "iat" ++ [58]) := by decide +kernel
  have hclose : Text.encode "\x7d" = [125] := by decide +kernel
  obtain ⟨username, deviceId, expires, issued⟩ := c
  cases issued <;>
    simp [toJson, objectBytes, laterMembers, memberBytes, husername, hdevice, hexpires, hissued, hclose,
      encode_decimal]

theorem object?_toJson (c : Claims) :
    object? c.toJson = some (("username", quoted c.username) :: c.laterMembers) := by
  rw [toJson_eq]
  refine object?_objectBytes fun e he => ?_
  obtain ⟨username, deviceId, expires, issued⟩ := c
  cases issued <;> simp only [laterMembers, List.mem_cons, List.not_mem_nil, or_false] at he
  · rcases he with rfl | rfl | rfl
    · exact stands_quoted _
    · exact stands_quoted _
    · exact stands_digitBytes _
  · rcases he with rfl | rfl | rfl | rfl
    · exact stands_quoted _
    · exact stands_quoted _
    · exact stands_digitBytes _
    · exact stands_digitBytes _

theorem isNull_digitBytes (n : Nat) : isNull (digitBytes n) = false := by
  have hnull : Text.encode "null" = [110, 117, 108, 108] := by decide +kernel
  rw [isNull, hnull, beq_eq_false_iff_ne]
  intro h
  have hdigit : isDigit 110 = true := isDigit_of_mem_digitBytes (h ▸ List.mem_cons_self)
  cases hdigit

/-- Claims that fit are read back from a token as they were written into it. -/
theorem ofJson?_toJson {c : Claims} (h : c.Fits) : ofJson? c.toJson = some c := by
  rw [ofJson?, object?_toJson]
  obtain ⟨username, deviceId, expires, issued⟩ := c
  have hexpires := natural?_digitBytes h.expires
  cases issued with
  | none =>
    simp [ofMembers?, required?, member?, laterMembers, ofValues?, string?_quoted, hexpires, optional?]
  | some t =>
    have ht := natural?_digitBytes (h.issued t rfl)
    simp [ofMembers?, required?, member?, laterMembers, ofValues?, string?_quoted, hexpires, optional?,
      ht, isNull_digitBytes]

theorem registeredExpiry?_toJson {c : Claims} (h : c.Fits) :
    registeredExpiry? c.toJson = some c.expires := by
  obtain ⟨username, deviceId, expires, issued⟩ := c
  have hexpires := natural?_digitBytes h.expires
  rw [registeredExpiry?, object?_toJson]
  cases issued <;> simp [member?, laterMembers, hexpires]

end Claims

theorem headerAlgorithm?_headerJson (alg : SigningAlgorithm) :
    headerAlgorithm? (Text.encode (headerJson alg)) = some (Algorithm.ofSigning alg) := by
  cases alg <;> decide +kernel

/-! ## Tokens -/

def compact (header claims signature : Bytes) : List Char :=
  segment header ++ '.' :: segment claims ++ '.' :: segment signature

/-- A token is made of visible characters, none of them blank. -/
theorem ascii_of_mem_compact {header claims signature : Bytes} {c : Char}
    (h : c ∈ compact header claims signature) : 32 < c.toNat ∧ c.toNat < 127 := by
  have hsegment : ∀ {bs : Bytes}, c ∈ segment bs → 32 < c.toNat ∧ c.toNat < 127 :=
    fun hc => (Base64.isTokenDigit_of_mem hc).ascii
  have hdot : c = '.' → 32 < c.toNat ∧ c.toNat < 127 := by
    rintro rfl
    decide
  simp only [compact, List.mem_append, List.mem_cons] at h
  rcases h with (h | h | h) | h | h
  · exact hsegment h
  · exact hdot h
  · exact hsegment h
  · exact hdot h
  · exact hsegment h

theorem visibleText?_encode {cs : List Char} (h : ∀ c ∈ cs, 32 < c.toNat ∧ c.toNat < 127) :
    Http.visibleText? (Text.encode (String.ofList cs)) = some (String.ofList cs) := by
  have hascii : ∀ c ∈ cs, c.toNat < 128 := fun c hc => Nat.lt_succ_of_lt (h c hc).2
  have hvisible : (cs.map fun c => UInt8.ofNat c.toNat).all Http.isVisibleByte = true := by
    rw [List.all_map, List.all_eq_true]
    intro c hc
    obtain ⟨hlow, hhigh⟩ := h c hc
    have hbyte : (UInt8.ofNat c.toNat).toNat = c.toNat := UInt8.toNat_ofNat_of_lt' (show c.toNat < 256 by omega)
    simp only [Function.comp_apply, Http.isVisibleByte, UInt8.le_iff_toNat_le, UInt8.lt_iff_toNat_lt,
      UInt8.reduceToNat, hbyte, Bool.or_eq_true, Bool.and_eq_true, decide_eq_true_eq]
    omega
  rw [Http.visibleText?, Text.encode_of_ascii hascii, if_pos hvisible, Text.map_ofNat_bytes hascii]

end LocationRelay.Token
