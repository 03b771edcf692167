import LocationRelay.Authentication
import LocationRelay.Proofs.Identities
import LocationRelay.Proofs.LowerCase
import LocationRelay.Proofs.Verification

/-! # Whom authentication lets in

A request is let in as a principal when it shows one token, the token is signed with the key that the store
has for the principal's user, and the claims under that signature are the principal. What a request shows
and whose key it is checked with do not depend on the time.
-/
namespace LocationRelay

open Key (PublicKey)
open Text (Bytes)
open Token (Claims Signed accept)

/-- The fields have a single value under the name, in visible characters and tabs, and this is its text
without the blanks at its ends. -/
structure Shown (headerName : String) (fields : List Http.Field) (token : String) : Prop where
  once : ∃ value, Http.valuesOf headerName fields = [value] ∧
    (∀ b ∈ value, 32 ≤ b ∧ b < 127 ∨ b = 9) ∧
    token = Text.trimmed (String.ofList (value.map fun b => Char.ofNat b.toNat))
  nonEmpty : token ≠ ""

theorem Shown.unique {headerName : String} {fields : List Http.Field} {token token' : String}
    (h : Shown headerName fields token) (h' : Shown headerName fields token') : token = token' := by
  obtain ⟨value, hvalue, -, rfl⟩ := h.once
  obtain ⟨value', hvalue', -, rfl⟩ := h'.once
  cases hvalue.symm.trans hvalue'
  rfl

def KeyStore.Holds (store : KeyStore) (username : String) (key : PublicKey) : Prop :=
  ∃ stored, store.lookup username = .ok (some stored) ∧ PublicKey.ofStored stored = .ok key

theorem Http.visibleText?_eq_some {value : Bytes} {s : String} : visibleText? value = some s ↔
    (∀ b ∈ value, 32 ≤ b ∧ b < 127 ∨ b = 9) ∧
      s = String.ofList (value.map fun b => Char.ofNat b.toNat) := by
  have hvisible : value.all isVisibleByte = true ↔ ∀ b ∈ value, 32 ≤ b ∧ b < 127 ∨ b = 9 := by
    simp [isVisibleByte]
  rw [← hvisible, visibleText?, Option.ite_none_right_eq_some, Option.some.injEq, eq_comm (a := s)]

namespace Authenticator

variable {a : Authenticator} {fields : List Http.Field} {now : Nat} {token : String}

/-- The case in which the name was configured does not matter. -/
theorem shown_new {store : KeyStore} {headerName : String} {alg : SigningAlgorithm} :
    Shown (new store headerName alg).headerName fields token ↔ Shown headerName fields token := by
  have hvalues : Http.valuesOf (new store headerName alg).headerName fields =
      Http.valuesOf headerName fields := by
    rw [Http.valuesOf, Http.valuesOf, new, Text.lowerAscii_lowerAscii]
  constructor
  · rintro ⟨⟨value, hvalue, h⟩, hne⟩
    exact ⟨⟨value, hvalues ▸ hvalue, h⟩, hne⟩
  · rintro ⟨⟨value, hvalue, h⟩, hne⟩
    exact ⟨⟨value, hvalues ▸ hvalue, h⟩, hne⟩

/-- The token of a request is what its fields show under the name. -/
theorem token?_eq_some : a.token? fields = some token ↔ Shown a.headerName fields token := by
  unfold token?
  constructor
  · intro h
    split at h
    · next value hvalue =>
      obtain ⟨s, hs, htoken⟩ := Option.bind_eq_some_iff.mp h
      obtain ⟨hbytes, rfl⟩ := Http.visibleText?_eq_some.mp hs
      obtain ⟨htrimmed, hne⟩ := Text.nonBlank?_eq_some.mp htoken
      exact ⟨⟨value, hvalue, hbytes, htrimmed⟩, hne⟩
    · cases h
  · rintro ⟨⟨value, hvalue, hbytes, htrimmed⟩, hne⟩
    rw [hvalue]
    exact Option.bind_eq_some_iff.mpr
      ⟨_, Http.visibleText?_eq_some.mpr ⟨hbytes, rfl⟩, Text.nonBlank?_eq_some.mpr ⟨htrimmed, hne⟩⟩

structure Credentials where
  token : String
  claimed : Claims
  key : PublicKey

def credentials (a : Authenticator) (fields : List Http.Field) : Except AuthError Credentials :=
  (need .missingToken (a.token? fields)).bind fun token =>
  (Token.unverifiedClaims token).bind fun claimed =>
  if Text.Blank claimed.username then .error .invalidClaims
  else
    ((a.store.lookup claimed.username).mapError .store).bind fun found =>
    (need .unknownUser found).bind fun stored =>
    ((PublicKey.ofStored stored).mapError fun e => .invalidKey e.text).bind fun key =>
    .ok ⟨token, claimed, key⟩

def principalOf (claimed : Claims) (c : Claims) : Except AuthError Principal :=
  if c.username ≠ claimed.username then .error .badSignature
  else c.principal?.mapError fun _ => .invalidClaims

theorem authenticate_eq (a : Authenticator) (fields : List Http.Field) (now : Nat) :
    a.authenticate fields now = (a.credentials fields).bind fun shown =>
      (Token.verify shown.token shown.key a.algorithm now).bind (principalOf shown.claimed) := by
  unfold authenticate credentials
  cases a.token? fields with
  | none => rfl
  | some token =>
    simp only [need, Except.bind]
    cases Token.unverifiedClaims token with
    | error e => rfl
    | ok claimed =>
      dsimp only [Bind.bind, Except.bind]
      split
      · rfl
      · cases a.store.lookup claimed.username with
        | error e => rfl
        | ok found =>
          rw [Except.mapError]
          cases found with
          | none => rfl
          | some stored =>
            dsimp only
            cases PublicKey.ofStored stored with
            | error e => rfl
            | ok key =>
              rw [Except.mapError]
              cases Token.verify token key a.algorithm now with
              | error e => rfl
              | ok c =>
                dsimp only [principalOf]
                split
                · rfl
                · rfl

/-- Once it is known what a request shows, everything depends on the verification. -/
theorem authenticate_of_credentials {a : Authenticator} {fields : List Http.Field} {shown : Credentials}
    (h : a.credentials fields = .ok shown) (now : Nat) : a.authenticate fields now =
      (Token.verify shown.token shown.key a.algorithm now).bind (principalOf shown.claimed) := by
  have hok : ∀ f : Credentials → Except AuthError Principal, (Except.ok shown).bind f = f shown :=
    fun _ => rfl
  rw [authenticate_eq, h, hok]

theorem credentials_eq_ok {shown : Credentials} : a.credentials fields = .ok shown ↔
    Shown a.headerName fields shown.token ∧ Token.unverifiedClaims shown.token = .ok shown.claimed ∧
      ¬ Text.Blank shown.claimed.username ∧ a.store.Holds shown.claimed.username shown.key := by
  obtain ⟨token, claimed, key⟩ := shown
  simp only [credentials, Except.bind_eq_ok, need_eq_ok, token?_eq_some]
  constructor
  · rintro ⟨token', htoken, claimed', hclaimed, h⟩
    split at h
    · cases h
    · next hnamed =>
      simp only [Except.bind_eq_ok, need_eq_ok, Except.mapError_eq_ok] at h
      obtain ⟨found, hfound, stored, rfl, key', hkey, h⟩ := h
      cases h
      exact ⟨htoken, hclaimed, hnamed, stored, hfound, hkey⟩
  · rintro ⟨htoken, hclaimed, hnamed, stored, hfound, hkey⟩
    refine ⟨token, htoken, claimed, hclaimed, ?_⟩
    rw [if_neg hnamed]
    simp only [Except.bind_eq_ok, need_eq_ok, Except.mapError_eq_ok]
    exact ⟨some stored, hfound, stored, rfl, key, hkey, rfl⟩

/-- Before anything is verified, a request is refused for invalid claims only when the user name that it
claims is blank. -/
theorem refusal_of_credentials {e : AuthError} (h : a.credentials fields = .error e) :
    e ≠ .expired ∧ (e = .invalidClaims → ∃ token claimed, Shown a.headerName fields token ∧
      Token.unverifiedClaims token = .ok claimed ∧ Text.Blank claimed.username) := by
  unfold credentials at h
  rcases Except.bind_eq_error.mp h with h | ⟨token, htoken, h⟩
  · cases (need_eq_error.mp h).2
    exact ⟨nofun, nofun⟩
  rcases Except.bind_eq_error.mp h with h | ⟨claimed, hclaimed, h⟩
  · obtain ⟨part, rfl⟩ := Token.refusal_of_unverifiedClaims h
    exact ⟨nofun, nofun⟩
  split at h
  · next hblank =>
    cases h
    exact ⟨nofun, fun _ => ⟨token, claimed, token?_eq_some.mp (need_eq_ok.mp htoken), hclaimed, hblank⟩⟩
  rcases Except.bind_eq_error.mp h with h | ⟨found, -, h⟩
  · obtain ⟨fault, -, rfl⟩ := Except.mapError_eq_error.mp h
    exact ⟨nofun, nofun⟩
  rcases Except.bind_eq_error.mp h with h | ⟨stored, -, h⟩
  · cases (need_eq_error.mp h).2
    exact ⟨nofun, nofun⟩
  rcases Except.bind_eq_error.mp h with h | ⟨key, -, h⟩
  · obtain ⟨fault, -, rfl⟩ := Except.mapError_eq_error.mp h
    exact ⟨nofun, nofun⟩
  cases h

/-! ## Verdicts -/

variable {p : Principal} {claimed c : Claims}

theorem principalOf_eq_ok : principalOf claimed c = .ok p ↔
    c.username = claimed.username ∧ p.username.text = c.username ∧ p.deviceId.text = c.deviceId := by
  unfold principalOf
  split
  · next hother => exact ⟨nofun, fun h => absurd h.1 hother⟩
  · next hsame =>
    rw [Except.mapError_eq_ok, Claims.principal?, Principal.of?_eq_ok, Decidable.not_not.mp hsame]
    exact ⟨fun h => ⟨rfl, h⟩, And.right⟩

/-- What has been found out about a request when it is let in. -/
theorem authenticate_eq_ok :
    a.authenticate fields now = .ok p ↔ ∃ shown c, a.credentials fields = .ok shown ∧
      Token.verify shown.token shown.key a.algorithm now = .ok c ∧
      c.username = shown.claimed.username ∧ p.username.text = c.username ∧
      p.deviceId.text = c.deviceId := by
  simp only [authenticate_eq, Except.bind_eq_ok, principalOf_eq_ok]
  constructor
  · rintro ⟨shown, hshown, c, hverify, hprincipal⟩
    exact ⟨shown, c, hshown, hverify, hprincipal⟩
  · rintro ⟨shown, c, hshown, hverify, hprincipal⟩
    exact ⟨shown, hshown, c, hverify, hprincipal⟩

/-- A request is called expired only for a token that is signed by the user whom it claims. -/
theorem vouched_of_refusal {e : AuthError} (h : a.authenticate fields now = .error e)
    (he : e = .expired ∨ e = .invalidClaims) :
    (e = .invalidClaims ∧ ∃ token claimed, Shown a.headerName fields token ∧
      Token.unverifiedClaims token = .ok claimed ∧ Text.Blank claimed.username) ∨
    ∃ shown header claims signature, a.credentials fields = .ok shown ∧
      Signed shown.token shown.key a.algorithm header claims signature := by
  rw [authenticate_eq] at h
  rcases Except.bind_eq_error.mp h with h | ⟨shown, hshown, h⟩
  · obtain ⟨hexpired, hblank⟩ := refusal_of_credentials h
    rcases he with rfl | rfl
    · exact absurd rfl hexpired
    · exact .inl ⟨rfl, hblank rfl⟩
  refine .inr ?_
  rcases Except.bind_eq_error.mp h with h | ⟨c, hverify, -⟩
  · obtain ⟨header, claims, signature, hsigned⟩ := Token.signed_of_refusal he h
    exact ⟨shown, header, claims, signature, hshown, hsigned⟩
  · obtain ⟨header, claims, signature, -, hsigned, -⟩ := Token.signed_of_verify_eq_ok hverify
    exact ⟨shown, header, claims, signature, hshown, hsigned⟩

end Authenticator
end LocationRelay
