import LocationRelay.Proofs.Cutting
import LocationRelay.Proofs.TextBytes
import LocationRelay.Token.Compact

/-! # Segments of a token

The segments of a token are read back as the bytes that they were written for. They are made of letters,
digits, hyphens and low lines, so that a token falls apart at its last two dots into what it was put
together from.
-/
namespace LocationRelay

open Text (Bytes)

/-! ## Base64 -/

namespace Base64

def IsTokenDigit (c : Char) : Prop := ∃ n < 64, digit token n = c

theorem value?_digit : ∀ n < 64, value? token (digit token n) = some n := by decide

theorem IsTokenDigit.ne_pad {c : Char} (h : IsTokenDigit c) : c ≠ '=' := by
  obtain ⟨n, hn, rfl⟩ := h
  revert n
  decide

theorem IsTokenDigit.ne_dot {c : Char} (h : IsTokenDigit c) : c ≠ '.' := by
  obtain ⟨n, hn, rfl⟩ := h
  revert n
  decide

theorem IsTokenDigit.ascii {c : Char} (h : IsTokenDigit c) : 32 < c.toNat ∧ c.toNat < 127 := by
  obtain ⟨n, hn, rfl⟩ := h
  revert n
  decide

theorem tailOf?_three (c d e : Char) : tailOf? token [c, d, e] = some [c, d, e] := by
  unfold tailOf?
  split
  · next h => cases h
  · next h => cases h
  · rfl

/-- The digits of a token are read back as the bytes that they were written for. -/
theorem decode_encode (bs : Bytes) : decode? token (encode token bs) = some bs := by
  fun_induction encode token bs with
  | case1 => rfl
  | case2 a n =>
    have ha : a.toNat < 256 := a.toNat_lt
    have hsum : 64 * (n / 64) + n % 64 = n := by omega
    have hbyte : n / 16 = a.toNat := by omega
    have hzero : n % 16 = 0 := by omega
    change decodeTail? token [digit token (n / 64), digit token (n % 64)] = some [a]
    simp only [decodeTail?, value?_digit _ (show n / 64 < 64 by omega),
      value?_digit _ (show n % 64 < 64 by omega), Option.bind_eq_bind, Option.bind_some, hsum, hzero,
      hbyte, if_true, UInt8.ofNat_toNat]
  | case3 a b n =>
    have ha : a.toNat < 256 := a.toNat_lt
    have hb : b.toNat < 256 := b.toNat_lt
    have hsum : 4096 * (n / 4096) + 64 * (n / 64 % 64) + n % 64 = n := by omega
    have hfirst : n / 1024 = a.toNat := by omega
    have hsecond : n / 4 % 256 = b.toNat := by omega
    have hzero : n % 4 = 0 := by omega
    change (tailOf? token
      [digit token (n / 4096), digit token (n / 64 % 64), digit token (n % 64)]).bind
      (decodeTail? token) = some [a, b]
    rw [tailOf?_three]
    simp only [decodeTail?, value?_digit _ (show n / 4096 < 64 by omega),
      value?_digit _ (show n / 64 % 64 < 64 by omega), value?_digit _ (show n % 64 < 64 by omega),
      Option.bind_eq_bind, Option.bind_some, hsum, hzero, hfirst, hsecond, if_true,
      UInt8.ofNat_toNat]
  | case4 a b c rest n ih =>
    have ha : a.toNat < 256 := a.toNat_lt
    have hb : b.toNat < 256 := b.toNat_lt
    have hc : c.toNat < 256 := c.toNat_lt
    have hsum : 262144 * (n / 262144) + 4096 * (n / 4096 % 64) + 64 * (n / 64 % 64) + n % 64 = n := by
      omega
    have hfirst : n / 65536 = a.toNat := by omega
    have hsecond : n / 256 % 256 = b.toNat := by omega
    have hthird : n % 256 = c.toNat := by omega
    have hpad : ¬ (encode token rest = [] ∧ digit token (n % 64) = '=') :=
      fun h => IsTokenDigit.ne_pad ⟨_, by omega, rfl⟩ h.2
    rw [decode?, if_neg hpad, value?_digit _ (show n / 262144 < 64 by omega),
      value?_digit _ (show n / 4096 % 64 < 64 by omega),
      value?_digit _ (show n / 64 % 64 < 64 by omega), value?_digit _ (show n % 64 < 64 by omega), ih]
    simp only [Option.bind_eq_bind, Option.bind_some, hsum, hfirst, hsecond, hthird,
      UInt8.ofNat_toNat]
    rfl

theorem isTokenDigit_of_mem {bs : Bytes} {c : Char} (h : c ∈ encode token bs) :
    IsTokenDigit c := by
  fun_induction encode token bs with
  | case1 => cases h
  | case2 a n =>
    have ha : a.toNat < 256 := a.toNat_lt
    change c ∈ [_, _] at h
    simp only [List.mem_cons, List.not_mem_nil, or_false] at h
    rcases h with rfl | rfl <;> exact ⟨_, by omega, rfl⟩
  | case3 a b n =>
    have ha : a.toNat < 256 := a.toNat_lt
    have hb : b.toNat < 256 := b.toNat_lt
    change c ∈ [_, _, _] at h
    simp only [List.mem_cons, List.not_mem_nil, or_false] at h
    rcases h with rfl | rfl | rfl <;> exact ⟨_, by omega, rfl⟩
  | case4 a b d rest n ih =>
    have ha : a.toNat < 256 := a.toNat_lt
    have hb : b.toNat < 256 := b.toNat_lt
    have hd : d.toNat < 256 := d.toNat_lt
    simp only [List.mem_cons] at h
    rcases h with rfl | rfl | rfl | rfl | h
    · exact ⟨_, by omega, rfl⟩
    · exact ⟨_, by omega, rfl⟩
    · exact ⟨_, by omega, rfl⟩
    · exact ⟨_, by omega, rfl⟩
    · exact ih h

end Base64

namespace Token

theorem segment?_segment (bs : Bytes) : segment? (segment bs) = some bs := Base64.decode_encode bs

theorem dot_not_mem_segment (bs : Bytes) : '.' ∉ segment bs :=
  fun h => (Base64.isTokenDigit_of_mem h).ne_dot rfl

/-- The parts of a token: it is cut at its last two dots. -/
theorem parse?_eq_some {token : String} {t : Compact} : Compact.parse? token = some t ↔
    token.toList = t.message ++ '.' :: t.signature ∧ t.message = t.header ++ '.' :: t.claims ∧
      '.' ∉ t.claims ∧ '.' ∉ t.signature := by
  constructor
  · intro h
    unfold Compact.parse? at h
    simp only [Option.bind_eq_bind, Option.bind_eq_some_iff, Option.pure_def, Option.some.injEq] at h
    obtain ⟨⟨message, signature⟩, hlast, ⟨header, claims⟩, hfirst, rfl⟩ := h
    exact ⟨Text.splitLast?_eq_some hlast, Text.splitLast?_eq_some hfirst,
      Text.not_mem_of_splitLast? hfirst, Text.not_mem_of_splitLast? hlast⟩
  · obtain ⟨message, header, claims, signature⟩ := t
    rintro ⟨hlast, hfirst, hclaims, hsignature⟩
    dsimp only at hlast hfirst hclaims hsignature
    subst hfirst
    rw [Compact.parse?, hlast, Text.splitLast?_append _ hsignature]
    simp only [Option.bind_eq_bind, Option.bind_some, Text.splitLast?_append _ hclaims]
    rfl

end Token
end LocationRelay
