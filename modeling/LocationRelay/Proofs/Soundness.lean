import LocationRelay.Proofs.Minting

/-! # Soundness of authentication

No request is let in, and none is told that its token has expired, unless the key of the user that it names
verifies the signature. How long a token is good depends on the expiry that it states and on nothing else. And
what is read of a token before its signature is checked is what the signature vouches for.
-/
namespace LocationRelay.Authenticator

open Token (Claims Signed)

/-! ## Requests of one device -/

namespace Sample

open Key.Sample Token.Sample

def store : KeyStore := KeyStore.ofEntries [("alice", publicText)]

theorem holds_store : store.Holds "alice" publicKey :=
  ⟨publicText, by rw [store, KeyStore.ofEntries]; simp [KeyStore.lookup], ofStored_publicText⟩

/-- A request that shows a token under a name in another case than the configured one. -/
def fieldsOf (token : String) : List Http.Field := [⟨"Authorization", Text.encode token⟩]

theorem valuesOf_fieldsOf (token : String) :
    Http.valuesOf "authorization" (fieldsOf token) = [Text.encode token] := by
  have hname : Text.lowerAscii "Authorization" = Text.lowerAscii "authorization" := by decide +kernel
  simp [Http.valuesOf, fieldsOf, hname]

def nameless : Claims := ⟨"alice", "", 1800000000, none⟩

def namelessSignature : List UInt8 :=
  [134, 128, 88, 213, 203, 91, 217, 5, 216, 63, 245, 6, 210, 39, 104, 170, 149, 137, 245, 53, 92,
    135, 121, 71, 150, 226, 143, 225, 113, 77, 236, 203, 142, 103, 69, 21, 192, 70, 209, 124,
    237, 196, 133, 192, 117, 145, 65, 79, 180, 113, 160, 134, 168, 8, 84, 137, 213, 193, 3,
    238, 84, 140, 31, 106, 93, 165, 156, 14, 121, 97, 38, 211, 56, 144, 87, 124, 39, 0, 138,
    37, 202, 55, 254, 150, 26, 152, 49, 147, 29, 116, 167, 249, 228, 154, 119, 14, 160, 234,
    129, 169, 164, 115, 28, 196, 240, 213, 8, 56, 237, 230, 108, 44, 62, 157, 128, 126, 54,
    189, 156, 227, 179, 78, 13, 195, 26, 163, 122, 181, 133, 99, 35, 34, 188, 164, 127, 107,
    15, 118, 99, 188, 146, 235, 209, 2, 109, 147, 48, 119, 137, 135, 34, 135, 54, 44, 96, 132,
    47, 161, 45, 102, 252, 187, 56, 15, 80, 237, 73, 140, 220, 17, 228, 23, 36, 104, 63, 164,
    214, 128, 131, 114, 230, 96, 174, 119, 200, 224, 47, 170, 113, 166, 57, 74, 181, 4, 1,
    206, 170, 13, 184, 58, 118, 68, 163, 253, 192, 193, 184, 112, 185, 53, 33, 89, 78, 169,
    81, 22, 39, 247, 139, 143, 116, 68, 64, 169, 40, 194, 179, 119, 151, 208, 121, 32, 172, 6,
    43, 38, 104, 152, 186, 60, 231, 179, 100, 241, 106, 77, 96, 2, 182, 21, 218, 16, 8, 37,
    163, 114]

def namelessHash : List UInt8 :=
  [173, 150, 144, 223, 198, 232, 150, 146, 36, 84, 224, 76, 97, 250, 123, 175, 168, 242, 139,
    120, 149, 197, 159, 216, 40, 42, 24, 146, 184, 110, 13, 81]

theorem hash_nameless : Crypto.sha256 (Token.signedBytes .rs256 nameless) = namelessHash := by
  decide +kernel

set_option maxRecDepth 20000 in
theorem powMod_namelessSignature : Crypto.powMod (Crypto.natOfBytes namelessSignature)
    numbers.publicExponent numbers.modulus = Crypto.natOfBytes
      ([0, 1] ++ List.replicate 202 0xFF ++ [0] ++ (Crypto.hashPrefix .rs256 ++ namelessHash)) := by
  cbv

theorem verify_nameless :
    publicKey.verify .rs256 (Token.signedBytes .rs256 nameless) namelessSignature = true := by
  have hsize : Crypto.byteLength numbers.modulus = 256 := by decide +kernel
  have hlt : Crypto.natOfBytes namelessSignature < numbers.modulus := by decide +kernel
  have hpadded : Crypto.padded .rs256 256 (Token.signedBytes .rs256 nameless) =
      [0, 1] ++ List.replicate 202 0xFF ++ [0] ++ (Crypto.hashPrefix .rs256 ++ namelessHash) := by
    rw [Crypto.padded, Crypto.hashOf, hash_nameless]
    rfl
  rw [Key.PublicKey.verify, readPublic?_publicKey]
  change Crypto.RsaPublic.verify _ _ _ _ = true
  rw [Crypto.RsaPublic.verify, isUsable_numbers]
  simp only [Crypto.RsaPrivate.toPublic, hsize, hlt, hpadded, powMod_namelessSignature,
    beq_self_eq_true, decide_true, Bool.and_true, Bool.true_and]
  decide +kernel

def gateway : Authenticator := new store "authorization" .rs512

def phoneToken : String := Token.tokenOf .rs512 claims signatureBytes

def namelessToken : String := Token.tokenOf .rs256 nameless namelessSignature

theorem fits_claims : claims.Fits := ⟨by decide, by decide⟩

theorem fits_nameless : nameless.Fits := ⟨by decide, by decide⟩

theorem verify_claims :
    publicKey.verify .rs512 (Token.signedBytes .rs512 claims) signatureBytes = true :=
  publicKey_answers _ _ _ sign_claims

theorem principal_claims : claims.principal? = .ok phone := Principal.of?_eq_ok.mpr ⟨rfl, rfl⟩

theorem authenticate_phone :
    gateway.authenticate (fieldsOf phoneToken) 1799999999 = .ok phone :=
  Token.authenticate_tokenOf fits_claims principal_claims verify_claims (by decide)
    (valuesOf_fieldsOf _) holds_store

theorem verify_phone {now : Nat} (h : now ≤ 1800000000) :
    Token.verify phoneToken publicKey .rs512 now = .ok claims :=
  Token.verify_tokenOf fits_claims principal_claims verify_claims h

theorem credentials_phone :
    gateway.credentials (fieldsOf phoneToken) = .ok ⟨phoneToken, claims, publicKey⟩ :=
  Token.credentials_tokenOf fits_claims (by decide) verify_claims (valuesOf_fieldsOf _) holds_store

theorem authenticate_phone_late :
    gateway.authenticate (fieldsOf phoneToken) 1800000001 = .error .expired := by
  have hexpired : Token.verify phoneToken publicKey .rs512 1800000001 = .error .expired := by
    rw [Token.verify_later (verify_phone (Nat.le_refl _)), if_pos (by decide)]
  rw [authenticate_of_credentials credentials_phone]
  exact Except.bind_eq_error.mpr (.inl hexpired)

theorem credentials_nameless :
    (new store "authorization" .rs256).credentials (fieldsOf namelessToken) =
      .ok ⟨namelessToken, nameless, publicKey⟩ :=
  Token.credentials_tokenOf fits_nameless (by decide) verify_nameless (valuesOf_fieldsOf _)
    holds_store

theorem authenticate_nameless :
    (new store "authorization" .rs256).authenticate (fieldsOf namelessToken) 1799999999 =
      .error .invalidClaims := by
  have hinvalid : Token.verify namelessToken publicKey .rs256 1799999999 = .error .invalidClaims := by
    rw [namelessToken, Token.verify_tokenOf_eq fits_nameless verify_nameless, Token.accept,
      if_neg (by decide), if_pos (by decide)]
  rw [authenticate_of_credentials credentials_nameless]
  exact Except.bind_eq_error.mpr (.inl hinvalid)

end Sample

/-! ## Verdicts -/

/-- Who is let in has shown a single token of visible characters, whose header names the configured
algorithm, whose claims are the principal, and whose signature verifies over the received bytes with the key
that the store has for that very user. A token is called expired, or the claims of a named user invalid, only
after such a verification. -/
theorem authenticate_sound (store : KeyStore) (headerName : String) (alg : SigningAlgorithm)
    (fields : List Http.Field) (now : Nat) :
    (∀ p, (new store headerName alg).authenticate fields now = .ok p →
      ∃ token key header claims signature json c,
        Shown headerName fields token ∧ store.Holds p.username.text key ∧
        Signed token key alg header claims signature ∧
        Token.segment? claims = some json ∧ Claims.ofJson? json = some c ∧
        c.username = p.username.text ∧ c.deviceId = p.deviceId.text ∧
        IsName p.username.text ∧ IsName p.deviceId.text) ∧
    ((new store headerName alg).authenticate fields now = .error .expired →
      ∃ token claimed key header claims signature,
        Shown headerName fields token ∧ Token.unverifiedClaims token = .ok claimed ∧
        store.Holds claimed.username key ∧ Signed token key alg header claims signature) ∧
    (∀ token claimed, (new store headerName alg).authenticate fields now = .error .invalidClaims →
      Shown headerName fields token → Token.unverifiedClaims token = .ok claimed →
      ¬ Text.Blank claimed.username →
      ∃ key header claims signature,
        store.Holds claimed.username key ∧ Signed token key alg header claims signature) := by
  refine ⟨fun p h => ?_, fun h => ?_, fun token claimed h hshown hclaimed hnamed => ?_⟩
  · obtain ⟨⟨token, claimed, key⟩, c, hcredentials, hverify, hsame, husername, hdevice⟩ :=
      authenticate_eq_ok.mp h
    obtain ⟨hshown, -, -, hholds⟩ := credentials_eq_ok.mp hcredentials
    obtain ⟨header, claims, signature, json, hsigned, hjson, hclaims, -⟩ :=
      Token.signed_of_verify_eq_ok hverify
    refine ⟨token, key, header, claims, signature, json, c, shown_new.mp hshown, ?_, hsigned, hjson,
      hclaims, husername.symm, hdevice.symm, p.username.isName, p.deviceId.isName⟩
    rw [husername, hsame]
    exact hholds
  · rcases vouched_of_refusal h (.inl rfl) with ⟨hfalse, -⟩ |
      ⟨⟨token, claimed, key⟩, header, claims, signature, hcredentials, hsigned⟩
    · cases hfalse
    · obtain ⟨hshown, hclaimed, -, hholds⟩ := credentials_eq_ok.mp hcredentials
      exact ⟨token, claimed, key, header, claims, signature, shown_new.mp hshown, hclaimed, hholds,
        hsigned⟩
  · rcases vouched_of_refusal h (.inr rfl) with ⟨-, token', claimed', hshown', hclaimed', hblank⟩ |
      ⟨⟨token', claimed', key⟩, header, claims, signature, hcredentials, hsigned⟩
    · obtain rfl := hshown.unique (shown_new.mp hshown')
      cases hclaimed.symm.trans hclaimed'
      exact absurd hblank hnamed
    · obtain ⟨hshown', hclaimed', -, hholds⟩ := credentials_eq_ok.mp hcredentials
      obtain rfl := hshown.unique (shown_new.mp hshown')
      cases hclaimed.symm.trans hclaimed'
      exact ⟨key, header, claims, signature, hholds, hsigned⟩

theorem authenticate_sound_phone :
    (Sample.gateway.authenticate (Sample.fieldsOf Sample.phoneToken) 1799999999 =
        .ok Token.Sample.phone ∧
      ∃ token key header claims signature, Sample.store.Holds "alice" key ∧
        Signed token key .rs512 header claims signature) ∧
    (Sample.gateway.authenticate (Sample.fieldsOf Sample.phoneToken) 1800000001 = .error .expired ∧
      ∃ token claimed key header claims signature, Sample.store.Holds claimed.username key ∧
        Token.unverifiedClaims token = .ok claimed ∧
        Signed token key .rs512 header claims signature) ∧
    ((new Sample.store "authorization" .rs256).authenticate (Sample.fieldsOf Sample.namelessToken)
        1799999999 = .error .invalidClaims ∧
      ∃ key header claims signature, Sample.store.Holds "alice" key ∧
        Signed Sample.namelessToken key .rs256 header claims signature) := by
  have haccepted := Sample.authenticate_phone
  have hexpired := Sample.authenticate_phone_late
  have hinvalid := Sample.authenticate_nameless
  obtain ⟨hshown, hclaims, hnamed, -⟩ := credentials_eq_ok.mp Sample.credentials_nameless
  obtain ⟨token, key, header, claims, signature, _, _, -, hholds, hsigned, -⟩ :=
    (authenticate_sound _ _ _ _ _).1 _ haccepted
  obtain ⟨token', claimed, key', header', claims', signature', -, hclaimed, hholds', hsigned'⟩ :=
    (authenticate_sound _ _ _ _ _).2.1 hexpired
  exact ⟨⟨haccepted, token, key, header, claims, signature, hholds, hsigned⟩,
    ⟨hexpired, token', claimed, key', header', claims', signature', hholds', hclaimed, hsigned'⟩,
    hinvalid, (authenticate_sound _ _ _ _ _).2.2 _ _ hinvalid (shown_new.mp hshown) hclaims hnamed⟩

/-! ## Expiry -/

/-- What is accepted at one time is accepted up to the second in which it expires, that second included, and
is expired from the next one on. So what is accepted has yet to expire, except in that very second. -/
theorem accepted_until_expiry (token : String) (key : Key.PublicKey) (alg : SigningAlgorithm)
    (a : Authenticator) (fields : List Http.Field) (now : Nat) :
    ((∀ c, Token.verify token key alg now = .ok c → now < c.expires) ↔
      ∀ c, Token.verify token key alg now = .ok c → now ≠ c.expires) ∧
    (∀ c, Token.verify token key alg now = .ok c → now ≤ c.expires ∧
      ∀ later, Token.verify token key alg later =
        if c.expires < later then .error .expired else .ok c) ∧
    (∀ p, a.authenticate fields now = .ok p →
      ∃ token key c, Shown a.headerName fields token ∧ a.store.Holds p.username.text key ∧
        Token.verify token key a.algorithm now = .ok c ∧ c.principal? = .ok p ∧ now ≤ c.expires ∧
        ∀ later, a.authenticate fields later =
          if c.expires < later then .error .expired else .ok p) := by
  have hverify : ∀ token key alg c, Token.verify token key alg now = .ok c → now ≤ c.expires := by
    intro token key alg c h
    obtain ⟨_, _, _, _, -, -, -, -, hnow⟩ := Token.signed_of_verify_eq_ok h
    exact hnow
  refine ⟨⟨fun h c hc => Nat.ne_of_lt (h c hc),
      fun h c hc => Nat.lt_of_le_of_ne (hverify _ _ _ _ hc) (h c hc)⟩,
    fun c h => ⟨hverify _ _ _ _ h, Token.verify_later h⟩, fun p h => ?_⟩
  obtain ⟨⟨token, claimed, key⟩, c, hcredentials, hc, hsame, husername, hdevice⟩ :=
    authenticate_eq_ok.mp h
  obtain ⟨hshown, -, -, hholds⟩ := credentials_eq_ok.mp hcredentials
  have hprincipal : principalOf claimed c = .ok p := principalOf_eq_ok.mpr ⟨hsame, husername, hdevice⟩
  refine ⟨token, key, c, hshown, ?_, hc, Principal.of?_eq_ok.mpr ⟨husername, hdevice⟩,
    hverify _ _ _ _ hc, fun later => ?_⟩
  · rw [husername, hsame]
    exact hholds
  · rw [authenticate_of_credentials hcredentials, Token.verify_later hc]
    split
    · rfl
    · exact hprincipal

theorem accepted_until_expiry_phone :
    (Token.verify Sample.phoneToken Key.Sample.publicKey .rs512 1799999999 =
        .ok Token.Sample.claims ∧
      Token.verify Sample.phoneToken Key.Sample.publicKey .rs512 1800000001 = .error .expired) ∧
    (Sample.gateway.authenticate (Sample.fieldsOf Sample.phoneToken) 1799999999 =
        .ok Token.Sample.phone ∧
      ∃ c : Claims, c.principal? = .ok Token.Sample.phone ∧ 1799999999 ≤ c.expires ∧
        ∀ later, Sample.gateway.authenticate (Sample.fieldsOf Sample.phoneToken) later =
          if c.expires < later then .error .expired else .ok Token.Sample.phone) := by
  have hverify := Sample.verify_phone (show 1799999999 ≤ 1800000000 by decide)
  have haccepted := Sample.authenticate_phone
  obtain ⟨-, huntil, hadmitted⟩ := accepted_until_expiry Sample.phoneToken Key.Sample.publicKey .rs512
    Sample.gateway (Sample.fieldsOf Sample.phoneToken) 1799999999
  obtain ⟨_, _, c, -, -, -, hc, hnow, hlater⟩ := hadmitted _ haccepted
  have hexpired := ((huntil _ hverify).2 1800000001).trans (if_pos (by decide))
  exact ⟨⟨hverify, hexpired⟩, haccepted, c, hc, hnow, hlater⟩

/-- A token is still accepted in the second in which it expires. -/
theorem accepted_in_last_second :
    Token.claimsFor "alice" "phoneA" ⟨0⟩ 1800000000 = Token.Sample.claims ∧
    Token.verify Sample.phoneToken Key.Sample.publicKey .rs512 1800000000 =
      .ok Token.Sample.claims ∧
    ¬ Token.Sample.claims.expires > 1800000000 :=
  ⟨rfl, Sample.verify_phone (Nat.le_refl _), by decide⟩

/-! ## Readings -/

/-- What a token is verified to say is what was read of it before, when the key was looked up, and the expiry
that is compared with the time is the one that the claims state. So in a request whose token verifies the two
readings are the same, nothing would be let in or refused otherwise if they were not compared, and who is let
in is the user whose key the store gave out. -/
theorem readings_agree (a : Authenticator) (fields : List Http.Field) (now : Nat) :
    (∀ token key alg c, Token.verify token key alg now = .ok c →
      Token.unverifiedClaims token = .ok c ∧ ∃ t, Token.Compact.parse? token = some t ∧
        Token.readClaims .invalidClaims t.claims = .ok (c, c.expires)) ∧
    (∀ shown c, a.credentials fields = .ok shown →
      Token.verify shown.token shown.key a.algorithm now = .ok c → c = shown.claimed) ∧
    a.authenticate fields now = ((a.credentials fields).bind fun shown =>
      (Token.verify shown.token shown.key a.algorithm now).bind fun c =>
        c.principal?.mapError fun _ => .invalidClaims) ∧
    ∀ p, a.authenticate fields now = .ok p → ∃ token key c, Shown a.headerName fields token ∧
      a.store.Holds p.username.text key ∧ Token.verify token key a.algorithm now = .ok c ∧
      c.principal? = .ok p := by
  have hsame : ∀ shown c, a.credentials fields = .ok shown →
      Token.verify shown.token shown.key a.algorithm now = .ok c → c = shown.claimed := by
    intro shown c hshown hverify
    obtain ⟨-, hclaimed, -, -⟩ := credentials_eq_ok.mp hshown
    exact Except.ok.inj ((Token.readings_of_verify_eq_ok hverify).1.symm.trans hclaimed)
  refine ⟨fun token key alg c h => Token.readings_of_verify_eq_ok h, hsame, ?_, fun p h => ?_⟩
  · rw [authenticate_eq]
    cases hshown : a.credentials fields with
    | error e => rfl
    | ok shown =>
      change (Token.verify _ _ _ _).bind _ = (Token.verify _ _ _ _).bind _
      cases hverify : Token.verify shown.token shown.key a.algorithm now with
      | error e => rfl
      | ok c =>
        cases hsame shown c hshown hverify
        exact if_neg (not_not_intro rfl)
  · obtain ⟨shown, c, hshown, hverify, -, husername, hdevice⟩ := authenticate_eq_ok.mp h
    obtain ⟨htoken, -, -, hholds⟩ := credentials_eq_ok.mp hshown
    refine ⟨shown.token, shown.key, c, htoken, ?_, hverify,
      Principal.of?_eq_ok.mpr ⟨husername, hdevice⟩⟩
    rw [husername, hsame shown c hshown hverify]
    exact hholds

theorem readings_agree_phone :
    (Token.verify Sample.phoneToken Key.Sample.publicKey .rs512 1799999999 =
        .ok Token.Sample.claims ∧
      Token.unverifiedClaims Sample.phoneToken = .ok Token.Sample.claims) ∧
    (Sample.gateway.credentials (Sample.fieldsOf Sample.phoneToken) =
        .ok ⟨Sample.phoneToken, Token.Sample.claims, Key.Sample.publicKey⟩ ∧
      ∀ c, Token.verify Sample.phoneToken Key.Sample.publicKey .rs512 1799999999 = .ok c →
        c = Token.Sample.claims) ∧
    (Sample.gateway.authenticate (Sample.fieldsOf Sample.phoneToken) 1799999999 =
        .ok Token.Sample.phone ∧
      ∃ token key c, Sample.store.Holds "alice" key ∧
        Token.verify token key .rs512 1799999999 = .ok c ∧
        c.principal? = .ok Token.Sample.phone) := by
  obtain ⟨hreadings, hsame, -, hadmitted⟩ :=
    readings_agree Sample.gateway (Sample.fieldsOf Sample.phoneToken) 1799999999
  have hverify := Sample.verify_phone (show 1799999999 ≤ 1800000000 by decide)
  have haccepted := Sample.authenticate_phone
  obtain ⟨token, key, c, -, hholds, hc, hprincipal⟩ := hadmitted _ haccepted
  exact ⟨⟨hverify, (hreadings _ _ _ _ hverify).1⟩,
    ⟨Sample.credentials_phone, fun c => hsame _ c Sample.credentials_phone⟩,
    haccepted, token, key, c, hholds, hc, hprincipal⟩

end LocationRelay.Authenticator
