import TlsHandshake.Proofs.Delimiting
import TlsHandshake.Proofs.Grammar

set_option autoImplicit false

/-! # Reading a CertificateVerify undoes writing it

`CertificateVerify.bytes` is the one body that stands for a scheme and a signature. The reader takes
this body and no other for them (`read_iff`), and the writer frames it (`encode_eq_ok_iff`), so both
go by the same relation and are inverse to each other: `decode_inverts_encode`. A signature that has
no length in two bytes has no body. -/

namespace TlsHandshake

namespace CertificateVerify

variable {verify : CertificateVerify} {body rest m : Bytes} {e : Error}

/-- The body of a scheme and a signature. -/
def bytes (verify : CertificateVerify) : Bytes :=
  Bytes.ofNat 2 verify.scheme.code.toNat ++ field 2 verify.signature

@[simp] theorem length_bytes_eq (verify : CertificateVerify) :
    verify.bytes.length = 4 + verify.signature.length := by
  simp only [bytes, List.length_append, Bytes.length_ofNat, length_field]
  omega

/-! ## Reading -/

theorem run_fields_eq_iff :
    fields.run body = (some verify, rest)
      ↔ verify.signature.length < Bytes.capacity 2 ∧ body = verify.bytes ++ rest := by
  rw [fields, run_bind_eq_iff]
  constructor
  · rintro ⟨code, mid, huint, hrest⟩
    obtain ⟨signature, mid', hvector, hpure⟩ := run_bind_eq_iff.1 hrest
    obtain ⟨rfl, rfl⟩ := run_pure_eq_iff.1 hpure
    obtain ⟨hcode, rfl⟩ := run_uint_eq_iff.1 huint
    obtain ⟨hlength, rfl⟩ := run_vector_eq_iff.1 hvector
    refine ⟨hlength, ?_⟩
    rw [bytes, UInt16.toNat_ofNat_of_lt' hcode, List.append_assoc]
  · rintro ⟨hlength, rfl⟩
    refine ⟨verify.scheme.code.toNat, field 2 verify.signature ++ rest, ?_, ?_⟩
    · refine run_uint_eq_iff.2 ⟨verify.scheme.code.toNat_lt, ?_⟩
      rw [bytes, List.append_assoc]
    · refine run_bind_eq_iff.2 ⟨verify.signature, rest, run_vector_eq_iff.2 ⟨hlength, rfl⟩, ?_⟩
      rw [UInt16.ofNat_toNat]
      rfl

/-- A body is read as the scheme and the signature that it stands for. -/
theorem read_iff :
    decode body = .ok verify
      ↔ verify.signature.length < Bytes.capacity 2 ∧ body = verify.bytes := by
  have hrun : fields.run body = (some verify, [])
      ↔ verify.signature.length < Bytes.capacity 2 ∧ body = verify.bytes ++ [] := run_fields_eq_iff
  rw [List.append_nil] at hrun
  rw [← hrun, decode]
  constructor
  · intro h
    split at h
    · rename_i hread
      rw [hread, Except.ok.inj h]
    · cases h
  · intro h
    rw [h]

/-- A body that stands for nothing is a decoding error, and there is no other error. -/
theorem refused_iff :
    decode body = .error e
      ↔ (∀ verify, decode body ≠ .ok verify) ∧ e = .decode .certificateVerify := by
  cases hread : decode body with
  | ok verify => exact ⟨nofun, fun h => absurd rfl (h.1 verify)⟩
  | error e' =>
      rw [eq_of_decode_error hread, Except.error.injEq, eq_comm]
      exact ⟨fun h => ⟨nofun, h⟩, And.right⟩

/-! ## Writing -/

theorem encode_eq_ok_iff :
    encode verify = .ok m
      ↔ verify.signature.length < Bytes.capacity 2
        ∧ frame .certificateVerify verify.bytes = .ok m :=
  bind_writeVector_eq_ok_iff

/-- A signature whose length can be written always fits its frame. -/
theorem encode_of_length_le (hlength : verify.signature.length ≤ 0xffff) :
    ∃ m, encode verify = .ok m := by
  have hbytes : verify.bytes.length < Bytes.capacity 3 := by
    have hthree : Bytes.capacity 3 = 0xffffff + 1 := rfl
    rw [length_bytes_eq]
    omega
  exact ⟨_, encode_eq_ok_iff.2 ⟨lt_capacity_two_iff.2 hlength, frame_eq_ok_iff.2 ⟨hbytes, rfl⟩⟩⟩

/-- Only the signature can be too long. -/
theorem encode_eq_error_iff :
    encode verify = .error e
      ↔ 0xffff < verify.signature.length
        ∧ e = .internal (.fieldOverflow 16 verify.signature.length) := by
  by_cases hlength : verify.signature.length ≤ 0xffff
  · obtain ⟨m, hm⟩ := encode_of_length_le hlength
    rw [hm]
    exact ⟨nofun, fun h => absurd hlength (Nat.not_le.2 h.1)⟩
  · have hlong : ¬ verify.signature.length < Bytes.capacity 2 := mt lt_capacity_two_iff.1 hlength
    have hvector : writeVector 2 verify.signature
        = .error (.internal (.fieldOverflow 16 verify.signature.length)) :=
      writeVector_eq_error_iff.2 ⟨Nat.not_lt.1 hlong, rfl⟩
    rw [encode, hvector]
    exact ⟨fun h => ⟨Nat.not_le.1 hlength, (Except.error.inj h).symm⟩, fun h => h.2 ▸ rfl⟩

/-! ## Both together -/

/-- A scheme and a signature are written if the signature has a length in two bytes, and are an
    internal error otherwise. The message is one frame, with nothing left over, and its body is read
    as the same scheme and signature. What a body is read as is written as a message with that body;
    a body that is not a scheme and a signature behind its length is a decoding error. -/
theorem decode_inverts_encode :
    (∀ verify,
      ((∃ m, encode verify = .ok m) ↔ verify.signature.length ≤ 0xffff)
      ∧ ∀ e, encode verify = .error e
        ↔ 0xffff < verify.signature.length
          ∧ e = .internal (.fieldOverflow 16 verify.signature.length))
    ∧ (∀ verify m, encode verify = .ok m →
      unframe? m = .ok (some ⟨.certificateVerify, m.drop 4, m.length⟩)
      ∧ decode (m.drop 4) = .ok verify)
    ∧ (∀ body verify, decode body = .ok verify → ∃ m, encode verify = .ok m ∧ m.drop 4 = body)
    ∧ ∀ body e, decode body = .error e
      ↔ e = .decode .certificateVerify
        ∧ ¬∃ verify : CertificateVerify, verify.signature.length ≤ 0xffff
          ∧ body = Bytes.ofNat 2 verify.scheme.code.toNat ++ field 2 verify.signature := by
  refine ⟨fun verify => ⟨⟨?_, encode_of_length_le⟩, fun e => encode_eq_error_iff⟩,
    fun verify m hencode => ?_, ?_, ?_⟩
  · rintro ⟨m, hencode⟩
    exact lt_capacity_two_iff.1 (encode_eq_ok_iff.1 hencode).1
  · obtain ⟨hlength, hframe⟩ := encode_eq_ok_iff.1 hencode
    have hbody : m.drop 4 = verify.bytes := drop_of_frame hframe
    have hfound := unframe?_of_frame hframe []
    rw [List.append_nil] at hfound
    rw [hbody]
    exact ⟨hfound, read_iff.2 ⟨hlength, rfl⟩⟩
  · intro body verify hread
    obtain ⟨hlength, rfl⟩ := read_iff.1 hread
    obtain ⟨m, hencode⟩ := encode_of_length_le (lt_capacity_two_iff.1 hlength)
    exact ⟨m, hencode, drop_of_frame (encode_eq_ok_iff.1 hencode).2⟩
  · intro body e
    rw [refused_iff, and_comm, ← not_exists]
    simp only [read_iff, lt_capacity_two_iff]
    rfl

end CertificateVerify

namespace Rehearsal

/-- A signature of two bytes, there and back. -/
theorem shortSignature_inverted :
    let verify : CertificateVerify := ⟨.ed25519, [7, 9]⟩
    let m : Bytes := [15, 0, 0, 6, 8, 7, 0, 2, 7, 9]
    CertificateVerify.encode verify = .ok m
    ∧ unframe? m = .ok (some ⟨.certificateVerify, m.drop 4, m.length⟩)
    ∧ CertificateVerify.decode (m.drop 4) = .ok verify
    ∧ ∃ m', CertificateVerify.encode verify = .ok m' ∧ m'.drop 4 = m.drop 4 := by
  intro verify m
  have hencode : CertificateVerify.encode verify = .ok m := by cbv
  obtain ⟨_, hread, hwritten, _⟩ := CertificateVerify.decode_inverts_encode
  obtain ⟨hfound, hdecode⟩ := hread verify m hencode
  exact ⟨hencode, hfound, hdecode, hwritten _ _ hdecode⟩

end Rehearsal

end TlsHandshake
