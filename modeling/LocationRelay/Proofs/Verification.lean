import LocationRelay.Authentication
import LocationRelay.Proofs.Checks
import LocationRelay.Proofs.Segments

/-! # What verification comes to

Nothing in a token counts before its signature: until the signature verifies, a token is refused for a
reason that has nothing to do with its claims, whatever the time. Afterwards the claims alone decide, and
the time only as far as the expiry that they state.
-/
namespace LocationRelay

open Text (Bytes)

def need {α : Type} (e : AuthError) : Option α → Except AuthError α
  | some a => .ok a
  | none => .error e

section
variable {α : Type} {e e' : AuthError} {o : Option α} {a : α}

theorem need_eq_ok : need e o = .ok a ↔ o = some a := by cases o <;> simp [need]

theorem need_eq_error : need e o = .error e' ↔ o = none ∧ e = e' := by cases o <;> simp [need]

end

namespace Token

open Key (PublicKey)

variable {token : String} {key : PublicKey} {alg : SigningAlgorithm} {now : Nat}
  {header claims signature : List Char}

/-! ## Signatures -/

/-- The token falls apart into these parts, its header names the algorithm, and the signature verifies over
header and claims as they were received. -/
structure Signed (token : String) (key : PublicKey) (alg : SigningAlgorithm)
    (header claims signature : List Char) : Prop where
  split : token.toList = header ++ '.' :: claims ++ '.' :: signature
  dotless : '.' ∉ claims ∧ '.' ∉ signature
  algorithm : (segment? header).bind headerAlgorithm? = some (.ofSigning alg)
  verifies : ∃ bytes, segment? signature = some bytes ∧
    key.verify alg (Text.encode (String.ofList (header ++ '.' :: claims))) bytes = true

def signedClaims (token : String) (key : PublicKey) (alg : SigningAlgorithm) :
    Except AuthError (List Char) :=
  (need (.malformed .header) (Compact.parse? token)).bind fun t =>
  (need (.malformed .header) ((segment? t.header).bind headerAlgorithm?)).bind fun found =>
  if found ≠ .ofSigning alg then .error (.algorithmMismatch alg found)
  else
    (need (.malformed .encoding) (segment? t.signature)).bind fun signature =>
    if key.verify alg t.signed signature then .ok t.claims else .error .badSignature

theorem signed_of_signedClaims (h : signedClaims token key alg = .ok claims) :
    ∃ header signature, Signed token key alg header claims signature := by
  unfold signedClaims at h
  obtain ⟨⟨message, header, claims, signature⟩, hparse, h⟩ := Except.bind_eq_ok.mp h
  obtain ⟨hlast, hfirst, hclaims, hsignature⟩ := parse?_eq_some.mp (need_eq_ok.mp hparse)
  obtain ⟨found, hfound, h⟩ := Except.bind_eq_ok.mp h
  dsimp only at *
  split at h
  · cases h
  · next halg =>
    obtain ⟨bytes, hbytes, h⟩ := Except.bind_eq_ok.mp h
    split at h
    · next hverify =>
      cases h
      subst hfirst
      rw [Decidable.not_not.mp halg] at hfound
      exact ⟨header, signature, hlast, ⟨hclaims, hsignature⟩, need_eq_ok.mp hfound, bytes,
        need_eq_ok.mp hbytes, hverify⟩
    · cases h

theorem Signed.parse? (h : Signed token key alg header claims signature) :
    Compact.parse? token = some ⟨header ++ '.' :: claims, header, claims, signature⟩ :=
  parse?_eq_some.mpr ⟨h.split, rfl, h.dotless⟩

theorem Signed.signedClaims (h : Signed token key alg header claims signature) :
    signedClaims token key alg = .ok claims := by
  obtain ⟨bytes, hbytes, hverify⟩ := h.verifies
  have hsigned : key.verify alg
      (Compact.signed ⟨header ++ '.' :: claims, header, claims, signature⟩) bytes = true := hverify
  simp only [Token.signedClaims, h.parse?, h.algorithm, hbytes, need, Except.bind, hsigned, ne_eq,
    not_true_eq_false, if_false, if_true]

/-- Until the signature verifies, the claims are not judged. -/
theorem refusal_of_signedClaims {e : AuthError} (h : signedClaims token key alg = .error e) :
    e ≠ .expired ∧ e ≠ .invalidClaims := by
  unfold Token.signedClaims at h
  rcases Except.bind_eq_error.mp h with h | ⟨t, -, h⟩
  · rw [← (need_eq_error.mp h).2]
    decide
  rcases Except.bind_eq_error.mp h with h | ⟨found, -, h⟩
  · rw [← (need_eq_error.mp h).2]
    decide
  split at h
  · cases h
    exact ⟨nofun, nofun⟩
  rcases Except.bind_eq_error.mp h with h | ⟨bytes, -, h⟩
  · rw [← (need_eq_error.mp h).2]
    decide
  split at h
  · cases h
  · cases h
    decide

/-! ## Claims -/

def accept (now : Nat) (read : Claims × Nat) : Except AuthError Claims :=
  if read.2 < now then .error .expired
  else if Text.Blank read.1.username ∨ Text.Blank read.1.deviceId then .error .invalidClaims
  else .ok read.1

theorem verify_eq (token : String) (key : PublicKey) (alg : SigningAlgorithm) (now : Nat) :
    verify token key alg now = (signedClaims token key alg).bind fun claims =>
      (readClaims .invalidClaims claims).bind (accept now) := by
  unfold verify Token.signedClaims
  cases Compact.parse? token with
  | none => rfl
  | some t =>
    simp only [need, Except.bind]
    cases segment? t.header with
    | none => rfl
    | some header =>
      simp only [Option.bind_some]
      cases headerAlgorithm? header with
      | none => rfl
      | some found =>
        dsimp only
        split
        · rfl
        · cases segment? t.signature with
          | none => rfl
          | some signature =>
            dsimp only
            split
            · rfl
            · rfl

theorem readClaims_eq (e : AuthError) (claims : List Char) : readClaims e claims =
    (need (.malformed .encoding) (segment? claims)).bind fun json =>
    (need e (Claims.ofJson? json)).bind fun c =>
    (need e (registeredExpiry? json)).bind fun expires => .ok (c, expires) := by
  unfold readClaims
  cases segment? claims with
  | none => rfl
  | some json =>
    simp only [need, Except.bind]
    cases Claims.ofJson? json with
    | none => rfl
    | some c =>
      dsimp only
      cases registeredExpiry? json <;> rfl

theorem readClaims_eq_ok {e : AuthError} {c : Claims} {expires : Nat} :
    readClaims e claims = .ok (c, expires) ↔ ∃ json, segment? claims = some json ∧
      Claims.ofJson? json = some c ∧ registeredExpiry? json = some expires := by
  simp only [readClaims_eq, Except.bind_eq_ok, need_eq_ok, Except.ok.injEq, Prod.mk.injEq]
  constructor
  · rintro ⟨json, hjson, _, hclaims, _, hexpires, rfl, rfl⟩
    exact ⟨json, hjson, hclaims, hexpires⟩
  · rintro ⟨json, hjson, hclaims, hexpires⟩
    exact ⟨json, hjson, c, hclaims, expires, hexpires, rfl, rfl⟩

theorem refusal_of_readClaims {e e' : AuthError} (h : readClaims e claims = .error e') :
    e' = .malformed .encoding ∨ e' = e := by
  rw [readClaims_eq] at h
  rcases Except.bind_eq_error.mp h with h | ⟨json, -, h⟩
  · exact .inl (need_eq_error.mp h).2.symm
  rcases Except.bind_eq_error.mp h with h | ⟨c, -, h⟩
  · exact .inr (need_eq_error.mp h).2.symm
  rcases Except.bind_eq_error.mp h with h | ⟨expires, -, h⟩
  · exact .inr (need_eq_error.mp h).2.symm
  cases h

/-- Of a signed token, the claims that are read without verification are those that are signed. -/
theorem Signed.unverifiedClaims (h : Signed token key alg header claims signature) :
    unverifiedClaims token = (readClaims (.malformed .claims) claims).map Prod.fst := by
  obtain ⟨json, hjson, halg⟩ := Option.bind_eq_some_iff.mp h.algorithm
  unfold Token.unverifiedClaims
  simp only [h.parse?, hjson, halg, Option.isNone_some, Bool.false_eq_true, if_false]
  cases readClaims (.malformed .claims) claims <;> rfl

/-- Claims that are only read are refused for their form alone. -/
theorem refusal_of_unverifiedClaims {e : AuthError} (h : unverifiedClaims token = .error e) :
    ∃ part, e = .malformed part := by
  unfold unverifiedClaims at h
  cases hparse : Compact.parse? token with
  | none =>
    rw [hparse] at h
    cases h
    exact ⟨_, rfl⟩
  | some t =>
    rw [hparse] at h
    dsimp only at h
    cases hheader : segment? t.header with
    | none =>
      rw [hheader] at h
      cases h
      exact ⟨_, rfl⟩
    | some header =>
      rw [hheader] at h
      dsimp only at h
      split at h
      · cases h
        exact ⟨_, rfl⟩
      · rcases Except.bind_eq_error.mp h with h | ⟨read, -, h⟩
        · rcases refusal_of_readClaims h with rfl | rfl <;> exact ⟨_, rfl⟩
        · cases h

/-- The registered claims are read from an object, and their expiry is the one that the device claims
state: neither reading lets a member of that name be repeated. -/
theorem registeredExpiry?_eq {json : Bytes} {c : Claims} {expires : Nat}
    (hclaims : Claims.ofJson? json = some c) (hexpires : registeredExpiry? json = some expires) :
    expires = c.expires := by
  unfold registeredExpiry? at hexpires
  simp only [Option.bind_eq_bind, Option.bind_eq_some_iff] at hexpires
  obtain ⟨ms, hms, v, hv, hexpires⟩ := hexpires
  rw [Claims.ofJson?, hms] at hclaims
  simp only [Claims.ofMembers?, Option.bind_eq_bind, Option.bind_eq_some_iff] at hclaims
  obtain ⟨username, -, deviceId, -, w, hw, issued, -, hclaims⟩ := hclaims
  simp only [Claims.ofValues?, Option.bind_eq_bind, Option.bind_eq_some_iff, Option.pure_def,
    Option.some.injEq] at hclaims
  obtain ⟨_, -, _, -, n, hn, _, -, rfl⟩ := hclaims
  obtain ⟨_, -, _, -, _, -, _, -, w', rfl, hexpires⟩ := hexpires
  rw [Json.required?, hv] at hw
  cases hw
  exact Option.some.inj (hexpires.symm.trans hn)

/-! ## Verdicts -/

/-- The claims of a token that is read are judged by the expiry that they state. -/
theorem readClaims_cases (claims : List Char) :
    (∃ e, e ≠ .expired ∧ readClaims .invalidClaims claims = .error e) ∨
    ∃ json c, segment? claims = some json ∧ Claims.ofJson? json = some c ∧
      registeredExpiry? json = some c.expires ∧
      readClaims .invalidClaims claims = .ok (c, c.expires) := by
  cases hread : readClaims .invalidClaims claims with
  | error e =>
    refine .inl ⟨e, ?_, rfl⟩
    rcases refusal_of_readClaims hread with rfl | rfl <;> decide
  | ok read =>
    obtain ⟨c, expires⟩ := read
    obtain ⟨json, hjson, hclaims, hexpires⟩ := readClaims_eq_ok.mp hread
    cases registeredExpiry?_eq hclaims hexpires
    exact .inr ⟨json, c, hjson, hclaims, hexpires, rfl⟩

/-- Whatever is said of a token, it is refused without a look at its claims, or it is signed and its claims
cannot be read, or it is signed and its claims are judged by their expiry. -/
theorem verify_cases (token : String) (key : PublicKey) (alg : SigningAlgorithm) :
    (∃ e, e ≠ .expired ∧ e ≠ .invalidClaims ∧ ∀ now, verify token key alg now = .error e) ∨
    ∃ header claims signature, Signed token key alg header claims signature ∧
      ((∃ e, e ≠ .expired ∧ ∀ now, verify token key alg now = .error e) ∨
        ∃ json c, segment? claims = some json ∧ Claims.ofJson? json = some c ∧
          registeredExpiry? json = some c.expires ∧
          ∀ now, verify token key alg now = accept now (c, c.expires)) := by
  cases hsigned : signedClaims token key alg with
  | error e =>
    obtain ⟨hexpired, hinvalid⟩ := refusal_of_signedClaims hsigned
    exact .inl ⟨e, hexpired, hinvalid, fun now => by rw [verify_eq, hsigned]; rfl⟩
  | ok claims =>
    obtain ⟨header, signature, hparts⟩ := signed_of_signedClaims hsigned
    refine .inr ⟨header, claims, signature, hparts, ?_⟩
    rcases readClaims_cases claims with ⟨e, he, hread⟩ | ⟨json, c, hjson, hclaims, hexpires, hread⟩
    · exact .inl ⟨e, he, fun now => by rw [verify_eq, hsigned]; exact congrArg (Except.bind · _) hread⟩
    · refine .inr ⟨json, c, hjson, hclaims, hexpires, fun now => ?_⟩
      rw [verify_eq, hsigned]
      exact congrArg (Except.bind · (accept now)) hread

theorem accept_eq_ok {read : Claims × Nat} {c : Claims} : accept now read = .ok c ↔
    now ≤ read.2 ∧ ¬ Text.Blank read.1.username ∧ ¬ Text.Blank read.1.deviceId ∧ read.1 = c := by
  unfold accept
  split
  · next hlate => exact ⟨nofun, fun h => absurd h.1 (Nat.not_le_of_lt hlate)⟩
  · next htime =>
    split
    · next hblank => exact ⟨nofun, fun h => absurd hblank (not_or.mpr ⟨h.2.1, h.2.2.1⟩)⟩
    · next hfull =>
      rw [not_or] at hfull
      constructor
      · intro h
        cases h
        exact ⟨Nat.le_of_not_lt htime, hfull.1, hfull.2, rfl⟩
      · rintro ⟨-, -, -, rfl⟩
        rfl

variable {c : Claims}

/-- The claims that verification gives out are read from a signed text and have not expired. -/
theorem signed_of_verify_eq_ok (h : verify token key alg now = .ok c) :
    ∃ header claims signature json, Signed token key alg header claims signature ∧
      segment? claims = some json ∧ Claims.ofJson? json = some c ∧
      registeredExpiry? json = some c.expires ∧ now ≤ c.expires := by
  rcases verify_cases token key alg with ⟨e, -, -, hrefused⟩ | ⟨header, claims, signature, hsigned, hread⟩
  · cases (hrefused now).symm.trans h
  rcases hread with ⟨e, -, hrefused⟩ | ⟨json, d, hjson, hclaims, hexpires, haccept⟩
  · cases (hrefused now).symm.trans h
  obtain ⟨htime, -, -, rfl⟩ := accept_eq_ok.mp ((haccept now).symm.trans h)
  exact ⟨header, claims, signature, json, hsigned, hjson, hclaims, hexpires, htime⟩

/-- What verification gives out is what is read of the token without it, and the expiry that it goes by is the
one that these claims state. -/
theorem readings_of_verify_eq_ok (h : verify token key alg now = .ok c) :
    unverifiedClaims token = .ok c ∧ ∃ t, Compact.parse? token = some t ∧
      readClaims .invalidClaims t.claims = .ok (c, c.expires) := by
  obtain ⟨header, claims, signature, json, hsigned, hjson, hclaims, hexpires, -⟩ :=
    signed_of_verify_eq_ok h
  have hread : ∀ e, readClaims e claims = .ok (c, c.expires) :=
    fun e => readClaims_eq_ok.mpr ⟨json, hjson, hclaims, hexpires⟩
  refine ⟨?_, _, hsigned.parse?, hread _⟩
  rw [hsigned.unverifiedClaims, hread]
  rfl

/-- A token is called expired, or its claims invalid, only after its signature has been found good. -/
theorem signed_of_refusal {e : AuthError} (he : e = .expired ∨ e = .invalidClaims)
    (h : verify token key alg now = .error e) :
    ∃ header claims signature, Signed token key alg header claims signature := by
  rcases verify_cases token key alg with ⟨d, hexpired, hinvalid, hrefused⟩ |
    ⟨header, claims, signature, hsigned, -⟩
  · cases (hrefused now).symm.trans h
    rcases he with rfl | rfl
    · exact absurd rfl hexpired
    · exact absurd rfl hinvalid
  · exact ⟨header, claims, signature, hsigned⟩

/-- A token that is good once is good up to the second of its expiry, and expired from the next one on. -/
theorem verify_later (h : verify token key alg now = .ok c) (later : Nat) :
    verify token key alg later = if c.expires < later then .error .expired else .ok c := by
  rcases verify_cases token key alg with ⟨e, -, -, hrefused⟩ | ⟨header, claims, signature, hsigned, hread⟩
  · cases (hrefused now).symm.trans h
  rcases hread with ⟨e, -, hrefused⟩ | ⟨json, d, hjson, hclaims, hexpires, haccept⟩
  · cases (hrefused now).symm.trans h
  obtain ⟨-, husername, hdevice, rfl⟩ := accept_eq_ok.mp ((haccept now).symm.trans h)
  rw [haccept, accept, if_neg (not_or.mpr ⟨husername, hdevice⟩)]

end Token
end LocationRelay
