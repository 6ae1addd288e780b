import TlsHandshake.Proofs.Framing

set_option autoImplicit false

/-! # What is read of a message that was written

A message that an encoder wrote is read as what went into it. For a chain that is so only if the
reader accepts it at all, since it judges the leaf and the extensions; then the certificates are the
ones that were written (`certificates_of_encode`). -/

namespace TlsHandshake

/-- One reader after another. -/
theorem run_bind {α β : Type} (r : Reader α) (f : α → Reader β) (bytes : Bytes) :
    Reader.run (r >>= f) bytes = match r.run bytes with
      | (some a, rest) => (f a).run rest
      | (none, rest) => (none, rest) := by
  simp only [Reader.run, OptionT.run, Bind.bind, OptionT.bind, OptionT.mk, StateT.bind]
  rcases (r bytes : Option α × Bytes) with ⟨_ | a, rest⟩ <;> rfl

theorem run_pure {α : Type} (a : α) (bytes : Bytes) :
    Reader.run (pure a : Reader α) bytes = (some a, bytes) := rfl

/-! ## Signatures and MACs -/

theorem decode_verify_of_encode {verify : CertificateVerify} {body m : Bytes}
    (hencode : CertificateVerify.encode verify = .ok m)
    (hframe : frame .certificateVerify body = .ok m) :
    CertificateVerify.decode body = .ok verify := by
  obtain ⟨vector, hvector, hencode⟩ := bind_eq_ok_iff.1 hencode
  obtain ⟨_, rfl⟩ := frame_inj hframe hencode
  have hscheme : Bytes.toNat (Bytes.ofNat 2 verify.scheme.code.toNat)
      = verify.scheme.code.toNat := by
    rw [Bytes.toNat_ofNat]
    exact Nat.mod_eq_of_lt verify.scheme.code.toNat_lt
  have hread := run_vector_of_writeVector hvector []
  rw [List.append_nil] at hread
  simp only [CertificateVerify.decode, CertificateVerify.fields, run_bind, Reader.run_uint,
    List.length_append, Bytes.length_ofNat, Nat.le_add_right, if_true,
    List.take_left' (Bytes.length_ofNat _ _), List.drop_left' (Bytes.length_ofNat _ _), hscheme,
    hread, run_pure]
  rw [UInt16.ofNat_toNat]

/-- A body that cannot be read is a decoding error. -/
theorem CertificateVerify.eq_of_decode_error {body : Bytes} {e : Error}
    (hdecode : decode body = .error e) : e = .decode .certificateVerify := by
  unfold decode at hdecode
  split at hdecode <;> cases hdecode
  rfl

/-! ## Chains -/

namespace CertificateChain

variable {certificate entry : Bytes} {chain : List Bytes} {staples : Staples}

/-- An entry is read as its certificate, if it is accepted. -/
theorem readEntry_of_encodeEntry (hencode : encodeEntry certificate staples = .ok entry)
    {rest : Bytes} {answer : Bytes × Bytes × Bytes}
    (hread : readEntry (entry ++ rest) = .ok answer) :
    ∃ block, answer = (certificate, block, rest) := by
  obtain ⟨vector, hvector, hencode⟩ := bind_eq_ok_iff.1 hencode
  obtain ⟨extensions, _, hencode⟩ := bind_eq_ok_iff.1 hencode
  obtain ⟨block, _, hencode⟩ := bind_eq_ok_iff.1 hencode
  obtain ⟨blockVector, hblock, hencode⟩ := bind_eq_ok_iff.1 hencode
  obtain rfl : vector ++ blockVector = entry := Except.ok.inj hencode
  have hfields : entryFields.run (vector ++ blockVector ++ rest)
      = (some (certificate, block), rest) := by
    rw [entryFields, run_bind, List.append_assoc, run_vector_of_writeVector hvector]
    dsimp only
    rw [run_bind, run_vector_of_writeVector hblock]
    rfl
  rw [readEntry, hfields] at hread
  dsimp only at hread
  split at hread
  · cases hread
  · exact ⟨block, (Except.ok.inj hread).symm⟩

theorem ne_nil_of_encodeEntry (hencode : encodeEntry certificate staples = .ok entry) :
    entry ≠ [] := by
  obtain ⟨vector, hvector, hencode⟩ := bind_eq_ok_iff.1 hencode
  obtain ⟨extensions, _, hencode⟩ := bind_eq_ok_iff.1 hencode
  obtain ⟨block, _, hencode⟩ := bind_eq_ok_iff.1 hencode
  obtain ⟨blockVector, _, hencode⟩ := bind_eq_ok_iff.1 hencode
  obtain rfl : vector ++ blockVector = entry := Except.ok.inj hencode
  obtain ⟨_, rfl⟩ := writeVector_eq_ok_iff.1 hvector
  simp only [Bytes.ofNat, List.cons_append]
  exact List.cons_ne_nil _ _

theorem readIssuers_of_ne_nil {rules : CertificateRules} {fuel : Nat} {before : List Bytes}
    {list : Bytes} {certificates : List Bytes}
    (hread : readIssuers rules fuel before list = .ok certificates) (hne : list ≠ []) :
    ∃ fuel' certificate block rest, readEntry list = .ok (certificate, block, rest)
      ∧ readIssuers rules fuel' (certificate :: before) rest = .ok certificates := by
  unfold readIssuers at hread
  split at hread
  · exact absurd rfl hne
  · cases hread
  · split at hread
    · cases hread
    · split at hread
      · cases hread
      · exact ⟨_, _, _, _, ‹_›, hread⟩

/-- The entries after the leaf are read as the certificates in them. -/
theorem readIssuers_of_encode {rules : CertificateRules} {issuers entries before : List Bytes}
    {fuel : Nat} {certificates : List Bytes}
    (hencode : issuers.mapM (encodeEntry · {}) = .ok entries)
    (hread : readIssuers rules fuel before entries.flatten = .ok certificates) :
    certificates = before.reverse ++ issuers := by
  induction issuers generalizing entries before fuel with
  | nil =>
      obtain rfl : [] = entries := Except.ok.inj hencode
      rw [List.flatten_nil, readIssuers] at hread
      rw [List.append_nil]
      exact (Except.ok.inj hread).symm
  | cons issuer issuers ih =>
      rw [List.mapM_cons] at hencode
      obtain ⟨entry, hentry, hencode⟩ := bind_eq_ok_iff.1 hencode
      obtain ⟨others, hothers, hencode⟩ := bind_eq_ok_iff.1 hencode
      obtain rfl : entry :: others = entries := Except.ok.inj hencode
      rw [List.flatten_cons] at hread
      -- the fuel does not run out, since the entries are read
      have hread' := readIssuers_of_ne_nil hread
        (List.append_ne_nil_of_left_ne_nil (ne_nil_of_encodeEntry hentry) _)
      obtain ⟨fuel', certificate, block, rest, hfirst, hrest⟩ := hread'
      obtain ⟨_, hanswer⟩ := readEntry_of_encodeEntry hentry hfirst
      obtain ⟨rfl, rfl, rfl⟩ := hanswer
      rw [ih hothers hrest, List.reverse_cons, List.append_assoc, List.singleton_append]

theorem readList_of_ne_nil {rules : CertificateRules} {list : Bytes} {out : CertificateChain}
    (hread : readList rules list = .ok out) (hne : list ≠ []) :
    ∃ leaf block rest key, readEntry list = .ok (leaf, block, rest)
      ∧ readIssuers rules rest.length [leaf] rest = .ok out.certificates
      ∧ out.leafKey = some key := by
  unfold readList at hread
  split at hread
  · exact absurd rfl hne
  · obtain ⟨⟨leaf, block, rest⟩, hentry, hread⟩ := bind_eq_ok_iff.1 hread
    obtain ⟨key, _, hread⟩ := bind_eq_ok_iff.1 hread
    obtain ⟨staples, _, hread⟩ := bind_eq_ok_iff.1 hread
    obtain ⟨certificates, hissuers, hread⟩ := bind_eq_ok_iff.1 hread
    obtain rfl : CertificateChain.mk certificates (some key) staples = out := Except.ok.inj hread
    exact ⟨leaf, block, rest, key, hentry, hissuers, rfl⟩

/-- What is read of a chain that was written has the certificates of that chain. -/
theorem certificates_of_encode {rules : CertificateRules} {body m : Bytes} {out : CertificateChain}
    (hencode : encode chain staples = .ok m) (hframe : frame .certificate body = .ok m)
    (hdecode : decode rules body = .ok out) : out.certificates = chain := by
  obtain ⟨list, hlist, hencode⟩ := bind_eq_ok_iff.1 hencode
  obtain ⟨vector, hvector, hencode⟩ := bind_eq_ok_iff.1 hencode
  obtain ⟨_, rfl⟩ := frame_inj hframe hencode
  -- both the context and the list are read as they were written
  have hcontext : writeVector 1 [] = .ok [0] := rfl
  have hbody := run_vector_of_writeVector hvector []
  rw [List.append_nil] at hbody
  rw [decode, ← List.singleton_append, run_vector_of_writeVector hcontext] at hdecode
  simp only [List.isEmpty_nil, Bool.not_true, hbody] at hdecode
  cases chain with
  | nil =>
      obtain rfl : [] = list := Except.ok.inj hlist
      obtain rfl : ({} : CertificateChain) = out := Except.ok.inj hdecode
      rfl
  | cons leaf issuers =>
      obtain ⟨entry, hentry, hlist⟩ := bind_eq_ok_iff.1 hlist
      obtain ⟨others, hothers, hlist⟩ := bind_eq_ok_iff.1 hlist
      obtain rfl : entry ++ others.flatten = list := Except.ok.inj hlist
      obtain ⟨certificate, block, rest, key, hfirst, hrest, _⟩ := readList_of_ne_nil hdecode
        (List.append_ne_nil_of_left_ne_nil (ne_nil_of_encodeEntry hentry) _)
      obtain ⟨_, hanswer⟩ := readEntry_of_encodeEntry hentry hfirst
      obtain ⟨rfl, rfl, rfl⟩ := hanswer
      rw [readIssuers_of_encode hothers hrest, List.reverse_singleton, List.singleton_append]

/-- The leaf of a chain that was read has a key. -/
theorem leafKey_of_decode {rules : CertificateRules} {body : Bytes} {out : CertificateChain}
    (hdecode : decode rules body = .ok out) (hne : out.certificates ≠ []) :
    ∃ key, out.leafKey = some key := by
  unfold decode at hdecode
  split at hdecode
  · cases hdecode
  · split at hdecode
    · cases hdecode
    · split at hdecode
      · cases hdecode
      · rename_i list _
        by_cases hlist : list = []
        · subst hlist
          obtain rfl : ({} : CertificateChain) = out := Except.ok.inj hdecode
          exact absurd rfl hne
        · obtain ⟨_, _, _, key, _, _, hkey⟩ := readList_of_ne_nil hdecode hlist
          exact ⟨key, hkey⟩
      · cases hdecode

end CertificateChain

end TlsHandshake
