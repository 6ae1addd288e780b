import TlsHandshake.Key.Pkcs8
import TlsHandshake.Proofs.ChainEncoding

set_option autoImplicit false

/-! # The curve of a leaf's key

An elliptic-curve key says in the parameters of its algorithm which curve it is on. The certificate
reader passes over them: what it keeps of a key are the algorithm and the bits, and a key of 65 bytes
is then taken for one of P-256 (`PublicKey.ofCertificate`). `X509.Certificate.subjectKey?` reads the
parameters too, and finds the key that the certificate reader finds (`subjectKey?_of_parse`), so that
it can be said which curve a certificate names. Main statement:
`PublicKey.ecdsaP256_only_if_named`; in `Rehearsal` a certificate that names another curve passes for
one of P-256. -/

namespace TlsHandshake

namespace X509

/-! ## Readers of elements -/

namespace Tlv

variable {α β : Type} {bytes rest : Bytes}

theorem bind_eq_some_iff {read : Tlv α} {next : α → Tlv β} {b : β} :
    (read >>= next) bytes = some (b, rest)
      ↔ ∃ a mid, read bytes = some (a, mid) ∧ next a mid = some (b, rest) := by
  simp only [Bind.bind, StateT.bind, Option.bind_eq_some_iff, Prod.exists]

theorem pure_eq_some_iff {a b : α} :
    (pure a : Tlv α) bytes = some (b, rest) ↔ a = b ∧ bytes = rest := by
  show some (a, bytes) = some (b, rest) ↔ _
  simp only [Option.some.injEq, Prod.mk.injEq]

theorem sequence_eq_some_iff {read : Tlv α} {a : α} :
    sequence read bytes = some (a, rest)
      ↔ ∃ e, numbered 16 bytes = some (e, rest) ∧ ∃ after, read e.content = some (a, after) := by
  have hwithin : ∀ e : Element, ∀ mid,
      (liftM (within e.content read) : Tlv α) mid = some (a, rest)
        ↔ mid = rest ∧ ∃ after, read e.content = some (a, after) := by
    intro e mid
    rw [within]
    rcases read e.content with _ | ⟨a', after⟩
    · constructor
      · intro h
        cases h
      · rintro ⟨_, _, h⟩
        cases h
    · show some (a', mid) = some (a, rest) ↔ _
      simp [and_comm]
  rw [sequence, bind_eq_some_iff]
  simp only [hwithin]
  constructor
  · rintro ⟨e, _, hnumbered, rfl, hread⟩
    exact ⟨e, hnumbered, hread⟩
  · rintro ⟨e, hnumbered, hread⟩
    exact ⟨e, rest, hnumbered, rfl, hread⟩

end Tlv

/-! ## Keys with their parameters -/

/-- The key of a certificate, with the parameters of its algorithm if there are any. -/
structure SubjectKey where
  algorithm : Bytes
  parameters : Option Element
  bits : Bytes
  deriving DecidableEq, Repr

namespace Certificate

open Tlv

variable {bytes rest : Bytes}

/-- The parameters at the end of an algorithm, if there are any. -/
def parameters : Tlv (Option Element) := do
  if (← get) != [] then return some (← element) else return none

/-- An algorithm's object identifier and its parameters. -/
def algorithmParameters : Tlv (Bytes × Option Element) := sequence do
  return (← objectId, ← parameters)

/-- The key, its algorithm and the parameters of that. -/
def subjectKey : Tlv SubjectKey := sequence do
  let (algorithm, parameters) ← algorithmParameters
  return ⟨algorithm, parameters, ← bitString⟩

/-- What stands before the key in the body of a certificate. -/
def beforeKey : Tlv Unit := do
  version
  skipNumbered 2
  let _ ← algorithm
  let _ ← numbered 16
  validity
  let _ ← numbered 16

/-- The key of the certificate that the bytes start with. -/
def subjectKey? (der : Bytes) : Option SubjectKey :=
  (sequence (sequence (do beforeKey; subjectKey)) der).map Prod.fst

theorem exists_algorithmParameters {id : Bytes} (h : algorithm bytes = some (id, rest)) :
    ∃ parameters, algorithmParameters bytes = some ((id, parameters), rest) := by
  obtain ⟨e, hnumbered, after, hread⟩ := sequence_eq_some_iff.1 h
  obtain ⟨id', mid, hid, hread⟩ := bind_eq_some_iff.1 hread
  obtain ⟨_, _, hget, hread⟩ := bind_eq_some_iff.1 hread
  obtain ⟨rfl, rfl⟩ := Prod.mk.inj (Option.some.inj hget)
  -- what follows the identifier is passed over by the one and kept by the other
  obtain ⟨found, after', rfl, hfound⟩ : ∃ found after', id' = id
      ∧ parameters mid = some (found, after') := by
    by_cases hmore : (mid != []) = true
    · rw [if_pos hmore] at hread
      obtain ⟨found, after', helement, hread⟩ := bind_eq_some_iff.1 hread
      refine ⟨some found, after', (pure_eq_some_iff.1 hread).1, ?_⟩
      refine bind_eq_some_iff.2 ⟨mid, mid, rfl, ?_⟩
      rw [if_pos hmore]
      exact bind_eq_some_iff.2 ⟨found, after', helement, rfl⟩
    · rw [if_neg hmore] at hread
      refine ⟨none, mid, (pure_eq_some_iff.1 hread).1, ?_⟩
      refine bind_eq_some_iff.2 ⟨mid, mid, rfl, ?_⟩
      rw [if_neg hmore]
      rfl
  exact ⟨found, sequence_eq_some_iff.2 ⟨e, hnumbered, _, bind_eq_some_iff.2 ⟨id', mid, hid,
    bind_eq_some_iff.2 ⟨found, after', hfound, rfl⟩⟩⟩⟩

theorem exists_subjectKey {algorithm bits : Bytes}
    (h : keyInfo bytes = some ((algorithm, bits), rest)) :
    ∃ parameters, subjectKey bytes = some (⟨algorithm, parameters, bits⟩, rest) := by
  obtain ⟨e, hnumbered, after, hread⟩ := sequence_eq_some_iff.1 h
  obtain ⟨_, mid, halgorithm, hread⟩ := bind_eq_some_iff.1 hread
  obtain ⟨_, _, hbits, hread⟩ := bind_eq_some_iff.1 hread
  obtain ⟨hpair, _⟩ := pure_eq_some_iff.1 hread
  obtain ⟨rfl, rfl⟩ := Prod.mk.inj hpair
  obtain ⟨parameters, hparameters⟩ := exists_algorithmParameters halgorithm
  exact ⟨parameters, sequence_eq_some_iff.2 ⟨e, hnumbered, _, bind_eq_some_iff.2
    ⟨_, mid, hparameters, bind_eq_some_iff.2 ⟨_, _, hbits, rfl⟩⟩⟩⟩

/-- In the body of a certificate the key comes after what stands before it. -/
theorem exists_keyInfo {c : Certificate} (h : body bytes = some (c, rest)) :
    ∃ e mid after, numbered 16 bytes = some (e, rest) ∧ beforeKey e.content = some ((), mid)
      ∧ keyInfo mid = some ((c.keyAlgorithm, c.keyBits), after) := by
  obtain ⟨e, hnumbered, after, hread⟩ := sequence_eq_some_iff.1 h
  obtain ⟨_, _, hversion, hread⟩ := bind_eq_some_iff.1 hread
  obtain ⟨_, _, hserial, hread⟩ := bind_eq_some_iff.1 hread
  obtain ⟨_, _, halgorithm, hread⟩ := bind_eq_some_iff.1 hread
  obtain ⟨_, _, hissuer, hread⟩ := bind_eq_some_iff.1 hread
  obtain ⟨_, _, hvalidity, hread⟩ := bind_eq_some_iff.1 hread
  obtain ⟨_, mid, hsubject, hread⟩ := bind_eq_some_iff.1 hread
  obtain ⟨⟨keyAlgorithm, keyBits⟩, after, hkey, hread⟩ := bind_eq_some_iff.1 hread
  obtain ⟨_, _, _, hread⟩ := bind_eq_some_iff.1 hread
  obtain ⟨_, _, _, hread⟩ := bind_eq_some_iff.1 hread
  obtain ⟨_, _, _, hread⟩ := bind_eq_some_iff.1 hread
  obtain ⟨rfl, _⟩ := pure_eq_some_iff.1 hread
  refine ⟨e, mid, after, hnumbered, ?_, hkey⟩
  exact bind_eq_some_iff.2 ⟨_, _, hversion, bind_eq_some_iff.2 ⟨_, _, hserial,
    bind_eq_some_iff.2 ⟨_, _, halgorithm, bind_eq_some_iff.2 ⟨_, _, hissuer,
      bind_eq_some_iff.2 ⟨_, _, hvalidity, bind_eq_some_iff.2 ⟨_, _, hsubject, rfl⟩⟩⟩⟩⟩⟩

/-- The key that is read of a certificate is the one that is read with its parameters. -/
theorem subjectKey?_of_parse {der : Bytes} {c : Certificate} (h : parse? der = some (c, rest)) :
    ∃ parameters, subjectKey? der = some ⟨c.keyAlgorithm, parameters, c.keyBits⟩ := by
  obtain ⟨e, hnumbered, _, hread⟩ := sequence_eq_some_iff.1 h
  obtain ⟨_, _, hbody, hread⟩ := bind_eq_some_iff.1 hread
  obtain ⟨_, _, _, hread⟩ := bind_eq_some_iff.1 hread
  obtain ⟨_, _, _, hread⟩ := bind_eq_some_iff.1 hread
  obtain ⟨rfl, _⟩ := pure_eq_some_iff.1 hread
  obtain ⟨e', mid, after, hnumbered', hbefore, hkey⟩ := exists_keyInfo hbody
  obtain ⟨parameters, hparameters⟩ := exists_subjectKey hkey
  refine ⟨parameters, Option.map_eq_some_iff.2 ⟨(_, rest), ?_, rfl⟩⟩
  exact sequence_eq_some_iff.2 ⟨e, hnumbered, _, sequence_eq_some_iff.2 ⟨e', hnumbered', _,
    bind_eq_some_iff.2 ⟨_, mid, hbefore, hparameters⟩⟩⟩

end Certificate

/-! ## What a key says of itself -/

namespace SubjectKey

/-- The curve that the parameters name: they are an OBJECT IDENTIFIER. -/
def curve? (k : SubjectKey) : Option Bytes :=
  match k.parameters with
  | some ⟨0, false, 6, curve⟩ => some curve
  | _ => none

/-- An elliptic-curve key on the curve that is named P-256. -/
structure NamesP256 (k : SubjectKey) : Prop where
  algorithm : k.algorithm = PublicKey.ecId
  curve : k.curve? = some Pkcs8.prime256v1

/-- An elliptic-curve key that is the encoding of a point of P-256 in 65 bytes. -/
structure IsPoint (k : SubjectKey) : Prop where
  algorithm : k.algorithm = PublicKey.ecId
  length : k.bits.length = 65
  valid : (P256.Point.decode? k.bits).isSome = true

/-- If the key is an elliptic-curve key of 65 bytes, it is on the curve that is named P-256. -/
def LengthTellsCurve (k : SubjectKey) : Prop :=
  k.algorithm = PublicKey.ecId → k.bits.length = 65 → k.NamesP256

end SubjectKey

end X509

/-! ## The kind of a key -/

namespace PublicKey

variable {c : X509.Certificate}

/-- A key is taken for one of P-256 whatever its parameters are. -/
theorem ofCertificate_eq_ecdsaP256_iff (parameters : Option X509.Element) {point : Bytes} :
    ofCertificate c = .ok (.ecdsaP256 point)
      ↔ X509.SubjectKey.IsPoint ⟨c.keyAlgorithm, parameters, c.keyBits⟩ ∧ point = c.keyBits := by
  have hec : (c.keyAlgorithm = ecId && c.keyBits.length = 65) = true
      ↔ c.keyAlgorithm = ecId ∧ c.keyBits.length = 65 := by
    rw [Bool.and_eq_true, decide_eq_true_iff, decide_eq_true_iff]
  unfold ofCertificate
  split
  · rename_i hed25519
    have hne : c.keyAlgorithm ≠ ecId := by
      rw [hed25519]
      decide
    refine ⟨fun h => ?_, fun ⟨hpoint, _⟩ => absurd hpoint.algorithm hne⟩
    split at h <;> cases h
  · split
    · rename_i hsized
      obtain ⟨hid, hlength⟩ := hec.1 hsized
      constructor
      · intro h
        split at h
        · rename_i hvalid
          cases h
          exact ⟨⟨hid, hlength, hvalid⟩, rfl⟩
        · cases h
      · rintro ⟨hpoint, rfl⟩
        rw [if_pos hpoint.valid]
    · rename_i hsized
      refine ⟨fun h => ?_, fun ⟨hpoint, _⟩ => absurd (hec.2 ⟨hpoint.algorithm, hpoint.length⟩) hsized⟩
      split at h <;> cases h

/-- A key that is taken neither for one of Ed25519 nor for one of P-256 is kept as it is. -/
theorem ofCertificate_eq_other (hed25519 : c.keyAlgorithm ≠ ed25519Id)
    (hec : c.keyAlgorithm = ecId → c.keyBits.length ≠ 65) (hbits : c.keyBits ≠ []) :
    ofCertificate c = .ok (.other c.keyBits) := by
  have hec : ¬(c.keyAlgorithm = ecId && c.keyBits.length = 65) = true := by simpa using hec
  rw [ofCertificate, if_neg hed25519, if_neg hec, if_neg (by simpa using hbits)]

/-- Only a key of P-256 verifies under its scheme. -/
theorem exists_point_of_verify {key : PublicKey} {message signature : Bytes}
    (h : key.verify .ecdsaP256Sha256 message signature = .ok true) :
    ∃ point, key = .ecdsaP256 point
      ∧ EcdsaP256.verify? point message signature = some true := by
  have hverifiable : SignatureScheme.verifiable.contains .ecdsaP256Sha256 = true := by decide
  cases key with
  | ed25519 bytes =>
      rw [verify, if_neg (by decide), verify.mismatch, if_pos hverifiable] at h
      cases h
  | other bits =>
      rw [verify, verify.mismatch, if_pos hverifiable] at h
      cases h
  | ecdsaP256 point =>
      refine ⟨point, rfl, ?_⟩
      rw [verify, if_pos rfl] at h
      cases hverify : EcdsaP256.verify? point message signature with
      | none =>
          rw [hverify] at h
          cases h
      | some answer =>
          rw [hverify] at h
          obtain rfl : answer = true := Except.ok.inj h
          rfl

end PublicKey

/-! ## Leaves -/

/-- A leaf has the key that its certificate holds. -/
theorem CertificateChain.certificateKey_of_decode {rules : CertificateRules} {body leaf : Bytes}
    {issuers : List Bytes} {chain : CertificateChain} (hdecode : decode rules body = .ok chain)
    (hleaf : chain.certificates = leaf :: issuers) :
    ∃ certificate key, PublicKey.readCertificate leaf = .ok certificate
      ∧ PublicKey.ofCertificate certificate = .ok key ∧ chain.leafKey = some key := by
  obtain ⟨entries, _, _, hsays⟩ := (decode_eq_ok_iff rules body chain).1 hdecode
  cases hsays with
  | nil => cases hleaf
  | cons hcertificate hkey _ _ =>
      obtain ⟨rfl, _⟩ := List.cons.inj hleaf
      exact ⟨_, _, hcertificate, hkey, rfl⟩

namespace Engine

variable {ε : Type} [Environment ε] {p q : Endpoint ε} {leaf : Bytes}

/-- A CertificateVerify that is dealt with has been decoded, and its scheme is noted; the key that is
    in the session verifies it unless verification is off. -/
theorem verified_of_processCertificateVerify (h : processCertificateVerify p = .ok () q)
    (hsecure : p.context.config.insecureFuzzing = false) :
    ∃ key verify, p.context.session.peerKey = some key
      ∧ CertificateVerify.decode p.context.messageBody = .ok verify
      ∧ q.context.session.peerScheme = some verify.scheme
      ∧ key.verify verify.scheme (p.context.signatureInput p.context.role.peer) verify.signature
        = .ok true := by
  cases hkey : p.context.session.peerKey with
  | none =>
      simp only [processCertificateVerify, context, Bind.bind, EStateM.bind, hkey] at h
      cases h
  | some key =>
      cases hdecode : CertificateVerify.decode p.context.messageBody with
      | error e =>
          simp only [processCertificateVerify, context, Bind.bind, EStateM.bind, hkey, hdecode,
            orFatal] at h
          cases h
      | ok verify =>
          cases hpolicy : p.context.config.signaturePolicy.refusal? verify.scheme with
          | some description =>
              simp only [processCertificateVerify, context, Bind.bind, EStateM.bind, hkey, hdecode,
                orFatal, Pure.pure, EStateM.pure, hpolicy] at h
              cases h
          | none =>
              rw [AuthFlow.processCertificateVerify_judged hkey hdecode hpolicy,
                AuthFlow.judgeSignature] at h
              split at h
              · cases h
              · rename_i hverified
                cases h
                refine ⟨key, verify, rfl, rfl, rfl, AuthFlow.isVerified_iff.1 ?_⟩
                simpa [hsecure] using hverified

/-- A CertificateVerify of the P-256 scheme is dealt with, at an end that verifies signatures and has
    in its session the key of the chain it has read, of which the first certificate is `leaf`. -/
structure AcceptsP256 (leaf : Bytes) (p q : Endpoint ε) : Prop where
  secure : p.context.config.insecureFuzzing = false
  leafKey : ∃ rules body chain issuers, CertificateChain.decode rules body = .ok chain
    ∧ chain.certificates = leaf :: issuers ∧ p.context.session.peerKey = chain.leafKey
  accepted : processCertificateVerify p = .ok () q
  scheme : q.context.session.peerScheme = some .ecdsaP256Sha256

/-- The scheme that is accepted is that of the leaf's key, and the key has verified the signature. -/
theorem AcceptsP256.exists_point (haccepts : AcceptsP256 leaf p q) :
    ∃ certificate point verify, PublicKey.readCertificate leaf = .ok certificate
      ∧ PublicKey.ofCertificate certificate = .ok (.ecdsaP256 point)
      ∧ CertificateVerify.decode p.context.messageBody = .ok verify
      ∧ EcdsaP256.verify? point (p.context.signatureInput p.context.role.peer) verify.signature
        = some true := by
  obtain ⟨rules, body, chain, issuers, hchain, hleaf, hsession⟩ := haccepts.leafKey
  obtain ⟨certificate, key, hcertificate, hkey, hleafKey⟩ :=
    CertificateChain.certificateKey_of_decode hchain hleaf
  obtain ⟨key', verify, hkey', hdecode, hscheme, hverify⟩ :=
    verified_of_processCertificateVerify haccepts.accepted haccepts.secure
  obtain rfl : key = key' := Option.some.inj ((hsession.trans hleafKey).symm.trans hkey')
  rw [Option.some.inj (hscheme.symm.trans haccepts.scheme)] at hverify
  obtain ⟨point, rfl, hverified⟩ := PublicKey.exists_point_of_verify hverify
  exact ⟨certificate, point, verify, hcertificate, hkey, hdecode, hverified⟩

end Engine

/-- The key of a certificate is taken for one of P-256 if it is an elliptic-curve key that is a point
    of P-256 in 65 bytes, and only the signature of such a key is accepted under the scheme of P-256.
    If an elliptic-curve key of 65 bytes always names P-256, then only a key that names P-256 is taken
    for one or has its signature accepted, and every other, those of Ed25519 apart, is kept as it is
    unless it is empty. -/
theorem PublicKey.ecdsaP256_only_if_named {ε : Type} [Environment ε] {leaf rest : Bytes}
    {c : X509.Certificate} (hparse : X509.Certificate.parse? leaf = some (c, rest)) :
    ∃ k, X509.Certificate.subjectKey? leaf = some k
      ∧ (∀ point, ofCertificate c = .ok (.ecdsaP256 point) ↔ k.IsPoint ∧ point = k.bits)
      ∧ (∀ p q : Endpoint ε, Engine.AcceptsP256 leaf p q → k.IsPoint ∧ ∃ verify,
          CertificateVerify.decode p.context.messageBody = .ok verify
          ∧ EcdsaP256.verify? k.bits (p.context.signatureInput p.context.role.peer)
            verify.signature = some true)
      ∧ (k.LengthTellsCurve →
          (∀ point, ofCertificate c = .ok (.ecdsaP256 point) → k.NamesP256)
          ∧ (k.algorithm ≠ ed25519Id → ¬k.NamesP256 → k.bits ≠ [] →
            ofCertificate c = .ok (.other k.bits))
          ∧ ∀ p q : Endpoint ε, Engine.AcceptsP256 leaf p q → k.NamesP256) := by
  obtain ⟨parameters, hkey⟩ := X509.Certificate.subjectKey?_of_parse hparse
  have hread : readCertificate leaf = .ok c := by
    rw [readCertificate, hparse]
  have hpoint : ∀ point, ofCertificate c = .ok (.ecdsaP256 point)
      ↔ X509.SubjectKey.IsPoint ⟨c.keyAlgorithm, parameters, c.keyBits⟩ ∧ point = c.keyBits :=
    fun _ => ofCertificate_eq_ecdsaP256_iff parameters
  have haccepted : ∀ p q : Endpoint ε, Engine.AcceptsP256 leaf p q →
      X509.SubjectKey.IsPoint ⟨c.keyAlgorithm, parameters, c.keyBits⟩ ∧ ∃ verify,
        CertificateVerify.decode p.context.messageBody = .ok verify
        ∧ EcdsaP256.verify? c.keyBits (p.context.signatureInput p.context.role.peer)
          verify.signature = some true := by
    intro p q haccepts
    obtain ⟨certificate, point, verify, hcertificate, hofCertificate, hdecode, hverified⟩ :=
      haccepts.exists_point
    obtain rfl : c = certificate := Except.ok.inj (hread.symm.trans hcertificate)
    obtain ⟨hispoint, rfl⟩ := (hpoint point).1 hofCertificate
    exact ⟨hispoint, verify, hdecode, hverified⟩
  refine ⟨_, hkey, hpoint, haccepted, fun htells => ⟨fun point h => ?_,
    fun hed25519 hnamed hbits => ?_, fun p q haccepts => ?_⟩⟩
  · have hispoint := ((hpoint point).1 h).1
    exact htells hispoint.algorithm hispoint.length
  · exact ofCertificate_eq_other hed25519 (fun hid hlength => hnamed (htells hid hlength)) hbits
  · have hispoint := (haccepted p q haccepts).1
    exact htells hispoint.algorithm hispoint.length

/-! ## A leaf that names another curve -/

namespace Rehearsal

/-- The object identifier of the curve secp256k1, `1.3.132.0.10`. -/
def secp256k1 : Bytes := [0x2b, 0x81, 0x04, 0x00, 0x0a]

/-- A DER element with a content of 128 to 255 bytes. -/
def longElement (tag : UInt8) (content : Bytes) : Bytes :=
  tag :: 0x81 :: UInt8.ofNat content.length :: content

/-- A certificate with an elliptic-curve key that names `curve` and is the base point of P-256. -/
def curveCertificate (curve : Bytes) : Bytes :=
  let algorithm := element 0x30 (element 0x06 PublicKey.ecId ++ element 0x06 curve)
  let name := element 0x30 []
  let time := element 0x17
    [0x32, 0x36, 0x30, 0x31, 0x30, 0x31, 0x30, 0x30, 0x30, 0x30, 0x30, 0x30, 0x5a]
  let body := element 0x02 [1] ++ algorithm ++ name ++ element 0x30 (time ++ time) ++ name
    ++ element 0x30 (algorithm ++ element 0x03 (0 :: P256.Point.base.encode))
  longElement 0x30 (longElement 0x30 body ++ algorithm ++ element 0x03 [0])

/-- The chain of that certificate alone. -/
def curveChain (curve : Bytes) : CertificateChain where
  certificates := [curveCertificate curve]
  leafKey := some (.ecdsaP256 P256.Point.base.encode)

/-- The body of the Certificate message with that chain. -/
def curveChainBody (curve : Bytes) : Bytes :=
  0 :: field 3 (field 3 (curveCertificate curve) ++ field 2 [])

/-- The signature of the key, whose secret is one, over the transcript of the client. -/
def baseSignature : Bytes :=
  EcdsaP256.Pair.encode
    ⟨0xd3051ee564c8bcf863f4c2f72b49595279733c5d3ea4ec5b9b4f0761d4884835,
      0x576624ecb8d95a5e3b0944d213dcd6734de12ec78299634c30c898ab4ca3ab99⟩

/-- The client when it has read the chain and is to deal with the signature. -/
def verifyingClient : Endpoint (Station FinishedKeys Signer TicketStore) :=
  let start := (connection .client []).endpoint
  let body := Bytes.ofNat 2 SignatureScheme.ecdsaP256Sha256.code.toNat ++ field 2 baseSignature
  let message : Message :=
    ⟨.certificateVerify, body, MessageType.certificateVerify.code :: field 3 body⟩
  { start with
    context := { start.context with
      message := some message
      session := { start.context.session with
        peerKey := some (.ecdsaP256 P256.Point.base.encode) } } }

/-- The client when it has dealt with the signature. -/
def verifiedClient : Endpoint (Station FinishedKeys Signer TicketStore) :=
  (answerOf Engine.processCertificateVerify verifyingClient).2

set_option maxRecDepth 100000 in
theorem accepts_curveCertificate {curve : Bytes}
    (hchain : CertificateChain.decode clientRules (curveChainBody curve) = .ok (curveChain curve)) :
    Engine.AcceptsP256 (curveCertificate curve) verifyingClient verifiedClient where
  secure := rfl
  leafKey := ⟨_, _, _, [], hchain, rfl, rfl⟩
  accepted := by
    have hok : (answerOf Engine.processCertificateVerify verifyingClient).1 = .ok () := by
      decide +kernel
    exact answerOf_eq_ok_iff.1 (Prod.ext hok rfl)
  scheme := by decide +kernel

set_option maxRecDepth 100000 in
theorem namedLeaf_accepted :
    let leaf := curveCertificate Pkcs8.prime256v1
    Engine.AcceptsP256 leaf verifyingClient verifiedClient
      ∧ ∃ k, X509.Certificate.subjectKey? leaf = some k ∧ k.LengthTellsCurve ∧ k.NamesP256 := by
  intro leaf
  have haccepts : Engine.AcceptsP256 leaf verifyingClient verifiedClient :=
    accepts_curveCertificate (by decide +kernel)
  have hparse : X509.Certificate.parse? leaf
      = some (⟨PublicKey.ecId, P256.Point.base.encode, []⟩, []) := by decide +kernel
  obtain ⟨k, hkey, _, _, hnamed⟩ := PublicKey.ecdsaP256_only_if_named
    (ε := Station FinishedKeys Signer TicketStore) hparse
  have hk : X509.Certificate.subjectKey? leaf = some
      ⟨PublicKey.ecId, some ⟨0, false, 6, Pkcs8.prime256v1⟩, P256.Point.base.encode⟩ := by
    decide +kernel
  have htells : k.LengthTellsCurve := by
    obtain rfl := Option.some.inj (hk.symm.trans hkey)
    exact fun _ _ => ⟨rfl, rfl⟩
  exact ⟨haccepts, k, hkey, htells, (hnamed htells).2.2 _ _ haccepts⟩

set_option maxRecDepth 100000 in
/-- A leaf that names secp256k1 is taken for one of P-256, and its signature under the scheme of P-256
    is accepted. -/
theorem foreignLeaf_accepted :
    let leaf := curveCertificate secp256k1
    Engine.AcceptsP256 leaf verifyingClient verifiedClient
      ∧ ∃ c k, X509.Certificate.parse? leaf = some (c, [])
        ∧ PublicKey.ofCertificate c = .ok (.ecdsaP256 c.keyBits)
        ∧ X509.Certificate.subjectKey? leaf = some k
        ∧ k.algorithm = PublicKey.ecId ∧ k.curve? = some secp256k1 ∧ ¬k.NamesP256 := by
  refine ⟨accepts_curveCertificate (by decide +kernel),
    ⟨PublicKey.ecId, P256.Point.base.encode, []⟩,
    ⟨PublicKey.ecId, some ⟨0, false, 6, secp256k1⟩, P256.Point.base.encode⟩,
    by decide +kernel, by decide +kernel, by decide +kernel, rfl, rfl, fun hnamed => ?_⟩
  exact absurd hnamed.curve (by decide)

end Rehearsal

end TlsHandshake
