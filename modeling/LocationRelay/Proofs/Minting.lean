import LocationRelay.Proofs.Admission
import LocationRelay.Proofs.Signatures
import LocationRelay.Proofs.WrittenToken

/-! # Minted tokens are accepted

A token that was minted with one key of a pair is accepted with the other until it expires: verification
gives back the claims that were minted, and authentication the principal that they name.
-/
namespace LocationRelay.Token

open Key (PrivateKey PublicKey)
open Text (Bytes)

variable {keyText stored : String} {sk : PrivateKey} {pk : PublicKey} {alg : SigningAlgorithm}
  {c : Claims} {p : Principal} {token : String} {now : Nat} {signature : Bytes}

def signedBytes (alg : SigningAlgorithm) (c : Claims) : Bytes :=
  Text.encode (String.ofList (message alg c))

def tokenOf (alg : SigningAlgorithm) (c : Claims) (signature : Bytes) : String :=
  String.ofList (compact (Text.encode (headerJson alg)) c.toJson signature)

theorem mint_eq (hkey : PrivateKey.ofText keyText = .ok sk) (alg : SigningAlgorithm) (c : Claims) :
    mint keyText alg c = match sk.sign alg (signedBytes alg c) with
      | .ok signature => .ok (tokenOf alg c signature)
      | .error e => .error ("signing failed: " ++ e.text) := by
  unfold mint
  rw [hkey]
  change ((sk.sign alg (signedBytes alg c)).mapError _).bind _ = _
  cases sk.sign alg (signedBytes alg c) <;> rfl

theorem mint_eq_ok (hkey : PrivateKey.ofText keyText = .ok sk) : mint keyText alg c = .ok token ↔
    ∃ signature, sk.sign alg (signedBytes alg c) = .ok signature ∧ token = tokenOf alg c signature := by
  rw [mint_eq hkey]
  cases sk.sign alg (signedBytes alg c) with
  | error e => exact ⟨nofun, nofun⟩
  | ok signature =>
    constructor
    · intro h
      cases h
      exact ⟨signature, rfl, rfl⟩
    · rintro ⟨_, ⟨⟩, rfl⟩
      rfl

theorem signed_tokenOf (h : pk.verify alg (signedBytes alg c) signature = true) :
    Signed (tokenOf alg c signature) pk alg (segment (Text.encode (headerJson alg)))
      (segment c.toJson) (segment signature) where
  split := String.toList_ofList
  dotless := ⟨dot_not_mem_segment _, dot_not_mem_segment _⟩
  algorithm := by
    rw [segment?_segment, Option.bind_some, headerAlgorithm?_headerJson]
  verifies := ⟨signature, segment?_segment signature, h⟩

theorem readClaims_segment (hfits : c.Fits) (e : AuthError) :
    readClaims e (segment c.toJson) = .ok (c, c.expires) :=
  readClaims_eq_ok.mpr ⟨_, segment?_segment _, Claims.ofJson?_toJson hfits,
    Claims.registeredExpiry?_toJson hfits⟩

/-- A token over claims that fit is judged by them, under any key that verifies its signature. -/
theorem verify_tokenOf_eq (hfits : c.Fits) (h : pk.verify alg (signedBytes alg c) signature = true)
    (now : Nat) : verify (tokenOf alg c signature) pk alg now = accept now (c, c.expires) := by
  rw [verify_eq, (signed_tokenOf h).signedClaims]
  change (readClaims .invalidClaims (segment c.toJson)).bind (accept now) = _
  rw [readClaims_segment hfits]
  rfl

theorem verify_tokenOf (hfits : c.Fits) (hp : c.principal? = .ok p)
    (h : pk.verify alg (signedBytes alg c) signature = true) (hnow : now ≤ c.expires) :
    verify (tokenOf alg c signature) pk alg now = .ok c := by
  obtain ⟨husername, hdevice⟩ := Principal.of?_eq_ok.mp hp
  rw [verify_tokenOf_eq hfits h]
  exact accept_eq_ok.mpr ⟨hnow, husername ▸ p.username.isName.1, hdevice ▸ p.deviceId.isName.1, rfl⟩

theorem unverifiedClaims_tokenOf (hfits : c.Fits)
    (h : pk.verify alg (signedBytes alg c) signature = true) :
    unverifiedClaims (tokenOf alg c signature) = .ok c := by
  rw [(signed_tokenOf h).unverifiedClaims, readClaims_segment hfits]
  rfl

/-- A text of visible characters is shown by a field that has it for its value. -/
theorem shown_of_visible {headerName : String} {fields : List Http.Field} {cs : List Char}
    (hne : cs ≠ []) (hvisible : ∀ d ∈ cs, 32 < d.toNat ∧ d.toNat < 127)
    (h : Http.valuesOf headerName fields = [Text.encode (String.ofList cs)]) :
    Shown headerName fields (String.ofList cs) := by
  obtain ⟨hbytes, htext⟩ := Http.visibleText?_eq_some.mp (visibleText?_encode hvisible)
  have hfull : String.ofList cs ≠ "" := fun hempty => hne (by
    rw [← String.toList_ofList (l := cs), hempty]
    rfl)
  have hblank : ∀ d ∈ (String.ofList cs).toList, Text.isBlank d = false := by
    rw [String.toList_ofList]
    exact fun d hd => Text.isBlank_of_visible (hvisible d hd)
  obtain ⟨htrimmed, -⟩ := Text.nonBlank?_eq_some.mp (Text.nonBlank?_of_not_blank hfull hblank)
  exact ⟨⟨_, h, hbytes, htext ▸ htrimmed⟩, hfull⟩

section
variable {store : KeyStore} {headerName : String} {fields : List Http.Field}

/-- What a request shows with a token over claims that fit. -/
theorem credentials_tokenOf (hfits : c.Fits) (hnamed : ¬ Text.Blank c.username)
    (h : pk.verify alg (signedBytes alg c) signature = true)
    (hfields : Http.valuesOf headerName fields = [Text.encode (tokenOf alg c signature)])
    (hstore : store.Holds c.username pk) :
    (Authenticator.new store headerName alg).credentials fields =
      .ok ⟨tokenOf alg c signature, c, pk⟩ := by
  have hshown : Shown headerName fields (tokenOf alg c signature) :=
    shown_of_visible (List.append_ne_nil_of_right_ne_nil _ (List.cons_ne_nil _ _))
      (fun _ => ascii_of_mem_compact) hfields
  exact Authenticator.credentials_eq_ok.mpr ⟨Authenticator.shown_new.mpr hshown,
    unverifiedClaims_tokenOf hfits h, hnamed, hstore⟩

/-- A request that shows a token over claims that fit is let in as the principal of the claims. -/
theorem authenticate_tokenOf (hfits : c.Fits) (hp : c.principal? = .ok p)
    (h : pk.verify alg (signedBytes alg c) signature = true) (hnow : now ≤ c.expires)
    (hfields : Http.valuesOf headerName fields = [Text.encode (tokenOf alg c signature)])
    (hstore : store.Holds c.username pk) :
    (Authenticator.new store headerName alg).authenticate fields now = .ok p := by
  obtain ⟨husername, hdevice⟩ := Principal.of?_eq_ok.mp hp
  have hnamed : ¬ Text.Blank c.username := husername ▸ p.username.isName.1
  exact Authenticator.authenticate_eq_ok.mpr ⟨_, c, credentials_tokenOf hfits hnamed h hfields hstore,
    verify_tokenOf hfits hp h hnow, rfl, husername, hdevice⟩

end

/-- At the given time the token is verified as the claims, and a request that shows it is let in as the
principal. -/
structure Accepted (stored : String) (pk : PublicKey) (alg : SigningAlgorithm) (token : String)
    (c : Claims) (p : Principal) (now : Nat) : Prop where
  verified : verify token pk alg now = .ok c
  admitted : ∀ (store : KeyStore) (headerName : String) (fields : List Http.Field),
    Http.valuesOf headerName fields = [Text.encode token] →
    store.lookup p.username.text = .ok (some stored) →
    (Authenticator.new store headerName alg).authenticate fields now = .ok p

theorem accepted_of_mint (hprivate : PrivateKey.ofText keyText = .ok sk)
    (hpublic : PublicKey.ofStored stored = .ok pk) (hpair : pk.Answers sk) (hfits : c.Fits)
    (hp : c.principal? = .ok p) (hmint : mint keyText alg c = .ok token) (hnow : now ≤ c.expires) :
    Accepted stored pk alg token c p now := by
  obtain ⟨signature, hsign, rfl⟩ := (mint_eq_ok hprivate).mp hmint
  have hverify := hpair alg _ signature hsign
  refine ⟨verify_tokenOf hfits hp hverify hnow, fun store headerName fields hfields hstore => ?_⟩
  have husername := (Principal.of?_eq_ok.mp hp).1
  exact authenticate_tokenOf hfits hp hverify hnow hfields ⟨stored, husername ▸ hstore, hpublic⟩

/-! ## A token of one device -/

namespace Sample

open Key.Sample

def claims : Claims := ⟨"alice", "phoneA", 1800000000, some 1800000000⟩

def phone : Principal := ⟨⟨"alice", by decide⟩, ⟨"phoneA", by decide⟩⟩

def signatureBytes : Bytes :=
  [118, 92, 175, 217, 148, 222, 21, 200, 183, 202, 251, 182, 88, 82, 76, 18, 0, 179, 132, 113,
    218, 57, 46, 81, 121, 54, 131, 96, 11, 224, 183, 167, 21, 44, 42, 179, 172, 67, 245, 167,
    205, 162, 161, 230, 114, 139, 67, 166, 171, 212, 207, 13, 204, 82, 202, 3, 85, 226, 107,
    150, 58, 27, 27, 237, 59, 67, 126, 153, 200, 91, 188, 89, 66, 46, 166, 128, 24, 142, 177,
    167, 251, 174, 187, 193, 227, 118, 61, 8, 220, 49, 59, 195, 185, 135, 75, 243, 68, 46, 43,
    125, 140, 1, 136, 169, 212, 65, 94, 216, 228, 249, 209, 18, 254, 114, 238, 197, 163, 70,
    123, 84, 17, 156, 136, 52, 143, 118, 207, 196, 183, 163, 230, 249, 153, 209, 161, 56, 55,
    215, 208, 168, 178, 17, 7, 133, 145, 5, 209, 62, 119, 114, 142, 40, 9, 54, 78, 94, 129,
    101, 100, 68, 24, 115, 251, 214, 27, 193, 124, 169, 98, 62, 124, 199, 238, 172, 103, 105,
    28, 39, 84, 138, 167, 163, 134, 212, 38, 136, 5, 45, 54, 134, 36, 191, 150, 12, 109, 86,
    235, 91, 243, 75, 176, 196, 2, 239, 121, 194, 26, 175, 233, 196, 129, 125, 122, 0, 6, 108,
    45, 211, 244, 70, 121, 249, 107, 222, 154, 39, 111, 162, 149, 182, 117, 62, 244, 147, 57,
    94, 214, 227, 226, 30, 99, 0, 50, 188, 101, 158, 156, 190, 181, 15, 159, 218, 113, 122,
    156, 179]

def hashBytes : Bytes :=
  [252, 65, 43, 8, 32, 5, 94, 11, 72, 85, 2, 150, 106, 180, 67, 196, 71, 237, 181, 158, 156, 20,
    110, 182, 186, 144, 152, 172, 55, 192, 239, 123, 71, 44, 110, 30, 53, 170, 243, 86, 107,
    86, 221, 230, 188, 123, 53, 95, 204, 124, 11, 129, 83, 12, 223, 131, 110, 201, 252, 56,
    69, 43, 225, 228]

theorem hash_claims : Crypto.sha512 (signedBytes .rs512 claims) = hashBytes := by decide +kernel

def paddedNumber : Nat :=
  Crypto.natOfBytes ([0, 1] ++ List.replicate 170 0xFF ++ [0] ++ (Crypto.hashPrefix .rs512 ++ hashBytes))

set_option maxRecDepth 20000 in
theorem power_paddedNumber : numbers.power paddedNumber = Crypto.natOfBytes signatureBytes := by
  cbv

set_option maxRecDepth 20000 in
theorem powMod_signatureBytes : Crypto.powMod (Crypto.natOfBytes signatureBytes)
    numbers.publicExponent numbers.modulus = paddedNumber := by
  cbv

theorem sign_claims : privateKey.sign .rs512 (signedBytes .rs512 claims) = .ok signatureBytes := by
  have hsize : Crypto.byteLength numbers.modulus = 256 := by decide +kernel
  have hpadded : Crypto.natOfBytes (Crypto.padded .rs512 256 (signedBytes .rs512 claims)) =
      paddedNumber := by
    rw [Crypto.padded, Crypto.hashOf, hash_claims]
    rfl
  have hbytes : Crypto.bytesOfNat 256 (Crypto.natOfBytes signatureBytes) = signatureBytes := by
    decide +kernel
  rw [PrivateKey.sign, readPrivate_privateKey]
  change numbers.sign _ _ = _
  simp only [Crypto.RsaPrivate.sign, hsize, hpadded, power_paddedNumber, powMod_signatureBytes, if_true,
    hbytes]
  rfl

theorem mint_claims : mint privateText .rs512 claims =
    .ok (tokenOf .rs512 claims signatureBytes) :=
  (mint_eq_ok ofText_privateText).mpr ⟨_, sign_claims, rfl⟩

end Sample

/-! ## Acceptance -/

/-- What is minted with one key of a pair is accepted with the other, unchanged: whatever the names that make
a principal, up to the expiry and whatever the time of issue. Nothing is minted only when signing fails. A
token for a while is accepted from its making on, and its expiry is the last second at the most. -/
theorem mint_accepted (hprivate : PrivateKey.ofText keyText = .ok sk)
    (hpublic : PublicKey.ofStored stored = .ok pk) (hpair : pk.Answers sk)
    {username deviceId : String} (hp : Principal.of? username deviceId = .ok p)
    (alg : SigningAlgorithm) :
    (∀ c, (∃ token, mint keyText alg c = .ok token) ↔
      ∃ signature, sk.sign alg (signedBytes alg c) = .ok signature) ∧
    (∀ expires issued token, expires ≤ Text.maxU64 → (∀ t ∈ issued, t ≤ Text.maxU64) →
      mint keyText alg ⟨username, deviceId, expires, issued⟩ = .ok token →
      ∀ now < expires, Accepted stored pk alg token ⟨username, deviceId, expires, issued⟩ p now) ∧
    (∀ ttl made token, made ≤ Text.maxU64 →
      mint keyText alg (claimsFor username deviceId ttl made) = .ok token →
      made ≤ (claimsFor username deviceId ttl made).expires ∧
      ∀ now, made ≤ now → now < min (made + ttl.seconds) Text.maxU64 →
        Accepted stored pk alg token (claimsFor username deviceId ttl made) p now) := by
  refine ⟨fun c => ?_, fun expires issued token hexpires hissued hmint now hnow => ?_,
    fun ttl made token hmade hmint => ⟨?_, fun now _ hnow => ?_⟩⟩
  · simp only [mint_eq_ok hprivate]
    constructor
    · rintro ⟨_, signature, hsign, -⟩
      exact ⟨signature, hsign⟩
    · rintro ⟨signature, hsign⟩
      exact ⟨_, signature, hsign, rfl⟩
  · exact accepted_of_mint hprivate hpublic hpair ⟨hexpires, hissued⟩ hp hmint (Nat.le_of_lt hnow)
  · exact Nat.le_min.mpr ⟨Nat.le_add_right _ _, hmade⟩
  · have hissued : ∀ t ∈ some made, t ≤ Text.maxU64 := by
      rintro t ⟨⟩
      exact hmade
    exact accepted_of_mint hprivate hpublic hpair ⟨Nat.min_le_right _ _, hissued⟩ hp hmint
      (Nat.le_of_lt hnow)

theorem mint_accepted_phone :
    mint Key.Sample.privateText .rs512 Sample.claims =
      .ok (tokenOf .rs512 Sample.claims Sample.signatureBytes) ∧
    Accepted Key.Sample.publicText Key.Sample.publicKey .rs512
      (tokenOf .rs512 Sample.claims Sample.signatureBytes) Sample.claims Sample.phone 1799999999 :=
  ⟨Sample.mint_claims,
    (mint_accepted Key.Sample.ofText_privateText Key.Sample.ofStored_publicText
      Key.Sample.publicKey_answers (show Principal.of? "alice" "phoneA" = .ok Sample.phone from
        Principal.of?_eq_ok.mpr ⟨rfl, rfl⟩) .rs512).2.1 1800000000 (some 1800000000) _
      (by decide) (by decide) Sample.mint_claims 1799999999 (by decide)⟩

end LocationRelay.Token
