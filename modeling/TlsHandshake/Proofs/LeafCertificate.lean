import TlsHandshake.Proofs.LeafKeys

set_option autoImplicit false

/-! # What follows the certificate in a leaf

A certificate says where it ends (`Tlv.SelfDelimiting`), so a leaf that is read is a certificate and
what follows it. The key and its usage are those of the certificate, and whatever follows makes no
difference to them, nor to whether the chain is read. The hash that is retained is that of the
leaf, though, and the hook that reads the stored chain refuses a leaf in which anything follows.
Main statement: `CertificateChain.leaf_of_decode`; in `Rehearsal` a chain is read that the hook then
refuses. -/

namespace TlsHandshake

namespace X509

/-! ## Readers that find their end -/

namespace Tlv

/-- A reader that finds the end of what it reads without looking behind it. -/
def SelfDelimiting {α : Type} (read : Tlv α) : Prop :=
  ∀ (bytes rest : Bytes) (a : α), read bytes = some (a, rest) →
    ∃ front, bytes = front ++ rest ∧ ∀ behind, read (front ++ behind) = some (a, behind)

variable {α β : Type}

theorem selfDelimiting_pure (a : α) : SelfDelimiting (pure a : Tlv α) := by
  intro bytes rest b h
  obtain ⟨rfl, rfl⟩ := pure_eq_some_iff.1 h
  exact ⟨[], rfl, fun _ => rfl⟩

theorem selfDelimiting_failure : SelfDelimiting (failure : Tlv α) := by
  intro bytes rest a h
  cases h

theorem selfDelimiting_failure_bind (next : α → Tlv β) :
    SelfDelimiting ((failure : Tlv α) >>= next) := by
  intro bytes rest b h
  cases h

theorem selfDelimiting_lift (result : Option α) : SelfDelimiting (liftM result : Tlv α) := by
  cases result with
  | none => exact selfDelimiting_failure
  | some a => exact selfDelimiting_pure a

theorem SelfDelimiting.bind {read : Tlv α} {next : α → Tlv β} (hread : SelfDelimiting read)
    (hnext : ∀ a, SelfDelimiting (next a)) : SelfDelimiting (read >>= next) := by
  intro bytes rest b h
  obtain ⟨a, mid, ha, hb⟩ := bind_eq_some_iff.1 h
  obtain ⟨front, rfl, hfront⟩ := hread _ _ _ ha
  obtain ⟨front', rfl, hfront'⟩ := hnext a _ _ _ hb
  refine ⟨front ++ front', (List.append_assoc ..).symm, fun behind => ?_⟩
  rw [List.append_assoc]
  exact bind_eq_some_iff.2 ⟨a, front' ++ behind, hfront _, hfront' behind⟩

theorem selfDelimiting_byte : SelfDelimiting byte := by
  intro bytes rest b h
  cases bytes with
  | nil => cases h
  | cons first others =>
      cases h
      exact ⟨[b], rfl, fun _ => rfl⟩

theorem selfDelimiting_take (n : Nat) : SelfDelimiting (take n) := by
  intro bytes rest taken h
  rw [take, Bytes.cut?_eq] at h
  split at h
  · rename_i hle
    cases h
    refine ⟨bytes.take n, (List.take_append_drop n bytes).symm, fun behind => ?_⟩
    have hlength : (bytes.take n).length = n := List.length_take_of_le hle
    rw [take, Bytes.cut?_eq, if_pos (by rw [List.length_append, hlength]; exact Nat.le_add_right ..)]
    rw [List.take_left' hlength, List.drop_left' hlength]
  · cases h

theorem selfDelimiting_tagNumber (count : Nat) :
    ∀ high, SelfDelimiting (tagNumber count high) := by
  induction count with
  | zero => exact fun _ => selfDelimiting_failure
  | succ count ih =>
      intro high
      refine selfDelimiting_byte.bind fun b => ?_
      dsimp only
      split
      · exact selfDelimiting_pure _
      · exact ih _

theorem selfDelimiting_length : SelfDelimiting length := by
  refine selfDelimiting_byte.bind fun first => ?_
  dsimp only
  split
  · exact selfDelimiting_pure _
  split
  · exact selfDelimiting_pure _
  split
  · exact selfDelimiting_failure_bind _
  · refine (selfDelimiting_take _).bind fun digits => ?_
    split
    · exact selfDelimiting_failure_bind _
    · exact selfDelimiting_pure _

theorem selfDelimiting_tag : SelfDelimiting tag := by
  refine selfDelimiting_byte.bind fun first => ?_
  dsimp only
  split
  · exact (selfDelimiting_tagNumber 5 0).bind fun _ => selfDelimiting_pure _
  · exact (selfDelimiting_pure _).bind fun _ => selfDelimiting_pure _

theorem selfDelimiting_header : SelfDelimiting header := by
  refine selfDelimiting_tag.bind fun e => selfDelimiting_length.bind fun length? => ?_
  cases length? with
  | none => exact selfDelimiting_failure
  | some n => exact selfDelimiting_pure _

theorem selfDelimiting_element : SelfDelimiting element :=
  selfDelimiting_header.bind fun (n, _) => (selfDelimiting_take n).bind fun _ =>
    selfDelimiting_pure _

theorem selfDelimiting_numbered (number : Nat) : SelfDelimiting (numbered number) := by
  refine selfDelimiting_element.bind fun e => ?_
  split
  · exact selfDelimiting_failure_bind _
  · exact selfDelimiting_pure _

/-- What is read in the content of a sequence is not what follows the sequence. -/
theorem selfDelimiting_sequence (read : Tlv α) : SelfDelimiting (sequence read) :=
  (selfDelimiting_numbered 16).bind fun e => selfDelimiting_lift (within e.content read)

end Tlv

namespace Certificate

variable {der front behind rest : Bytes} {c : Certificate}

theorem parse?_append (h : parse? front = some (c, [])) (behind : Bytes) :
    parse? (front ++ behind) = some (c, behind) := by
  obtain ⟨front', hfront, hread⟩ := Tlv.selfDelimiting_sequence _ _ _ _ h
  rw [List.append_nil] at hfront
  rw [hfront]
  exact hread behind

/-- Bytes that start with a certificate are split by it, in one way. -/
theorem parse?_eq_some_iff :
    parse? der = some (c, rest) ↔ ∃ front, der = front ++ rest ∧ parse? front = some (c, []) := by
  constructor
  · intro h
    obtain ⟨front, hder, hread⟩ := Tlv.selfDelimiting_sequence _ _ _ _ h
    refine ⟨front, hder, ?_⟩
    have hwhole := hread []
    rw [List.append_nil] at hwhole
    exact hwhole
  · rintro ⟨front, rfl, hfront⟩
    exact parse?_append hfront rest

end Certificate

end X509

/-! ## The hook on a stored chain -/

namespace ChainHook

variable {index : Nat} {leaf : Bytes} {chain : List Bytes} {e : Error}

/-- The hook complains of one of the places that it looks at. -/
theorem exists_place_of_checkChain (h : checkChain index chain = .error e) :
    ∃ place, index ≤ place
      ∧ (e = .decode (.chainCertificate place) ∨ e = .decode (.chainTrailingData place)) := by
  induction chain generalizing index with
  | nil => cases h
  | cons der rest ih =>
      unfold checkChain at h
      cases hcheck : checkCertificate index der with
      | ok =>
          rw [hcheck] at h
          obtain ⟨place, hle, hplace⟩ := ih h
          exact ⟨place, Nat.le_of_succ_le hle, hplace⟩
      | error e' =>
          rw [hcheck] at h
          obtain rfl : e' = e := Except.error.inj h
          refine ⟨index, Nat.le_refl _, ?_⟩
          unfold checkCertificate at hcheck
          split at hcheck
          · exact .inl (Except.error.inj hcheck).symm
          · cases hcheck
          · exact .inr (Except.error.inj hcheck).symm

/-- A certificate with something behind it is refused for what is behind it. -/
theorem checkCertificate_append {front behind : Bytes} {c : X509.Certificate}
    (h : X509.Certificate.parse? front = some (c, [])) :
    checkCertificate index (front ++ behind)
      = if behind = [] then .ok () else .error (.decode (.chainTrailingData index)) := by
  rw [checkCertificate, X509.Certificate.parse?_append h]
  cases behind <;> rfl

/-- Of the first certificate of a chain the hook complains if something is behind it. -/
theorem checkChain_append {front behind : Bytes} {c : X509.Certificate}
    (h : X509.Certificate.parse? front = some (c, [])) :
    checkChain 0 ((front ++ behind) :: chain) ≠ .error (.decode (.chainCertificate 0))
    ∧ (checkChain 0 ((front ++ behind) :: chain) = .error (.decode (.chainTrailingData 0))
      ↔ behind ≠ []) := by
  rw [checkChain, checkCertificate_append h]
  by_cases hbehind : behind = []
  · rw [if_pos hbehind]
    show checkChain 1 chain ≠ _ ∧ (checkChain 1 chain = _ ↔ _)
    -- the places that are left come after the first one
    have hother : ∀ {e : Error}, checkChain 1 chain = .error e →
        e ≠ .decode (.chainCertificate 0) ∧ e ≠ .decode (.chainTrailingData 0) := by
      intro e he
      obtain ⟨place, hle, hplace⟩ := exists_place_of_checkChain he
      rcases hplace with rfl | rfl <;> simp <;> omega
    exact ⟨fun he => (hother he).1 rfl, fun he => absurd rfl (hother he).2,
      fun hne => absurd hbehind hne⟩
  · rw [if_neg hbehind]
    exact ⟨nofun, fun _ => hbehind, fun _ => rfl⟩

end ChainHook

/-! ## Leaves -/

theorem PublicKey.readCertificate_eq_ok_iff {der : Bytes} {c : X509.Certificate} :
    readCertificate der = .ok c ↔ ∃ rest, X509.Certificate.parse? der = some (c, rest) := by
  unfold readCertificate
  cases X509.Certificate.parse? der with
  | none => simp
  | some read => simp [Prod.ext_iff]

namespace CertificateChain

theorem Entry.length_certificate_le (entry : Entry) :
    entry.certificate.length ≤ entry.bytes.length := by
  rw [bytes, List.length_append, length_field]
  omega

variable {rules : CertificateRules} {body front behind front' behind' : Bytes}
  {chain : CertificateChain} {certificate certificate' : X509.Certificate}

/-- The leaf of the chain is a certificate and what is behind it; the key of the chain is that of the
    certificate, which lets it sign. -/
structure LeafHolds (chain : CertificateChain) (certificate : X509.Certificate)
    (front behind : Bytes) : Prop where
  leaf : chain.certificates.head? = some (front ++ behind)
  whole : X509.Certificate.parse? front = some (certificate, [])
  key : ∃ key, PublicKey.ofCertificate certificate = .ok key ∧ chain.leafKey = some key
  sign : certificate.maySign = .ok true

namespace LeafHolds

/-- Where the certificate ends is not open to choice. -/
theorem unique (h : chain.LeafHolds certificate front behind)
    (h' : chain.LeafHolds certificate' front' behind') : front' = front ∧ behind' = behind := by
  have hsame : front ++ behind = front' ++ behind' := Option.some.inj (h.leaf.symm.trans h'.leaf)
  have hread := X509.Certificate.parse?_append h.whole behind
  rw [hsame, X509.Certificate.parse?_append h'.whole behind'] at hread
  obtain ⟨-, rfl⟩ := Prod.mk.inj (Option.some.inj hread)
  exact ⟨(List.append_cancel_right hsame).symm, rfl⟩

theorem front_ne_nil (h : chain.LeafHolds certificate front behind) : front ≠ [] := by
  rintro rfl
  cases h.whole

/-- Whatever is behind the certificate is not looked at when its key is read. -/
theorem readCertificate (h : chain.LeafHolds certificate front behind) (behind' : Bytes) :
    PublicKey.readCertificate (front ++ behind') = .ok certificate :=
  PublicKey.readCertificate_eq_ok_iff.2 ⟨behind', X509.Certificate.parse?_append h.whole behind'⟩

/-- With something else behind the certificate of its leaf the chain is read too. -/
theorem decode_with (h : chain.LeafHolds certificate front behind)
    (hdecode : decode rules body = .ok chain)
    (hlength : body.length + behind'.length ≤ Bytes.capacity 3) :
    ∃ body', decode rules body'
      = .ok { chain with certificates := (front ++ behind') :: chain.certificates.tail } := by
  obtain ⟨entries, hbody, hallowed, hsays⟩ := (decode_eq_ok_iff rules body chain).1 hdecode
  cases hsays with
  | nil => cases h.leaf
  | @cons leaf issuers c key staples hcertificate hkey hsign hcarried =>
      obtain ⟨hleaf, hissuers⟩ := List.forall_mem_cons.1 hallowed
      let leaf' : Entry := ⟨front ++ behind', leaf.extensions⟩
      have hsplit : leaf.certificate = front ++ behind := Option.some.inj h.leaf
      have hread : PublicKey.readCertificate leaf'.certificate = .ok c := by
        rw [hsplit, h.readCertificate] at hcertificate
        rw [h.readCertificate, hcertificate]
      -- the body has become longer by what is behind the certificate now, at most
      have hbytes : leaf'.bytes.length ≤ leaf.bytes.length + behind'.length := by
        simp only [Entry.bytes, leaf', hsplit, List.length_append, length_field]
        omega
      have hbody : body.length = 4 + (leaf.bytes.length + (issuers.flatMap Entry.bytes).length) := by
        rw [hbody.eq_bytes, List.length_cons, length_field, List.flatMap_cons, List.length_append]
        omega
      have hle := leaf'.length_certificate_le
      refine ⟨0 :: field 3 ((leaf' :: issuers).flatMap Entry.bytes),
        (decode_eq_ok_iff ..).2 ⟨leaf' :: issuers, ⟨?_, rfl⟩, List.forall_mem_cons.2
          ⟨⟨?_, by omega, hleaf.length_block, hleaf.lawful⟩, hissuers⟩,
          .cons hread hkey hsign hcarried⟩⟩
      · rw [List.flatMap_cons, List.length_append]
        omega
      · exact List.append_ne_nil_of_left_ne_nil h.front_ne_nil behind'

end LeafHolds

/-- Every leaf that is read is a certificate and what is behind it. -/
theorem exists_leafHolds (hdecode : decode rules body = .ok chain)
    (hne : chain.certificates ≠ []) :
    ∃ certificate front behind, chain.LeafHolds certificate front behind := by
  obtain ⟨entries, _, _, hsays⟩ := (decode_eq_ok_iff rules body chain).1 hdecode
  cases hsays with
  | nil => exact absurd rfl hne
  | @cons leaf _ certificate key _ hcertificate hkey hsign _ =>
      obtain ⟨behind, hread⟩ := PublicKey.readCertificate_eq_ok_iff.1 hcertificate
      obtain ⟨front, hsplit, hwhole⟩ := X509.Certificate.parse?_eq_some_iff.1 hread
      exact ⟨certificate, front, behind, congrArg some hsplit, hwhole, ⟨key, hkey, rfl⟩, hsign⟩

/-- The leaf of a chain that is read is a certificate, which gives the key and lets it sign, and
    what is behind it, and it is so in one way. Whatever is put there instead, the chain is read with
    the same key. In the session the hash is that of all of the leaf, and the hook that reads the
    chain complains of the leaf if something is behind its certificate, and of nothing else in it. -/
theorem leaf_of_decode (hdecode : decode rules body = .ok chain) (hne : chain.certificates ≠ []) :
    ∃ certificate front behind, chain.LeafHolds certificate front behind
      ∧ (∀ certificate' front' behind', chain.LeafHolds certificate' front' behind' →
        front' = front ∧ behind' = behind)
      ∧ (∀ behind' : Bytes, body.length + behind'.length ≤ Bytes.capacity 3 →
        ∃ body', decode rules body'
          = .ok { chain with certificates := (front ++ behind') :: chain.certificates.tail })
      ∧ ∀ (s : Session) (retain : Bool), let stored := s.storeChain retain chain
        (retain = true → stored.peerLeafHash = some (sha256 (front ++ behind)))
        ∧ (ChainHook.x509 stored).1 ≠ .error (.decode (.chainCertificate 0))
        ∧ ((ChainHook.x509 stored).1 = .error (.decode (.chainTrailingData 0))
          ↔ behind ≠ []) := by
  obtain ⟨certificate, front, behind, h⟩ := exists_leafHolds hdecode hne
  refine ⟨certificate, front, behind, h, fun _ _ _ => h.unique, fun _ => h.decode_with hdecode, ?_⟩
  intro s retain stored
  obtain ⟨issuers, hchain⟩ : ∃ issuers, chain.certificates = (front ++ behind) :: issuers :=
    List.head?_eq_some_iff.1 h.leaf
  have hhook : (ChainHook.x509 stored).1
      = ChainHook.checkChain 0 ((front ++ behind) :: issuers) := by
    simp only [ChainHook.x509, stored, Session.storeChain, hchain, List.isEmpty_cons,
      Bool.false_eq_true, if_false, Option.getD_some]
  rw [hhook]
  refine ⟨?_, ChainHook.checkChain_append h.whole⟩
  rintro rfl
  simp only [stored, Session.storeChain, if_true, hchain, List.head?_cons, Option.map_some]

end CertificateChain

/-! ## A leaf with a byte too many -/

namespace Rehearsal

/-- The body of the Certificate message with this leaf and nothing else. -/
def leafBody (leaf : Bytes) : Bytes := 0 :: field 3 (field 3 leaf ++ field 2 [])

/-- The chain of this leaf, which has the server's key. -/
def leafChain (leaf : Bytes) : CertificateChain where
  certificates := [leaf]
  leafKey := some (.ed25519 (key .server))

set_option maxRecDepth 100000 in
/-- With nothing behind the certificate the hook has no complaint. -/
theorem wholeLeaf_stored :
    let leaf := certificate (key .server)
    let stored := ({} : Session).storeChain true (leafChain leaf)
    CertificateChain.decode clientRules (leafBody leaf) = .ok (leafChain leaf)
      ∧ stored.peerLeafHash = some (sha256 leaf)
      ∧ (ChainHook.x509 stored).1 ≠ .error (.decode (.chainTrailingData 0)) := by
  intro leaf stored
  have hdecode : CertificateChain.decode clientRules (leafBody leaf) = .ok (leafChain leaf) := by
    decide +kernel
  have hholds : (leafChain leaf).LeafHolds ⟨PublicKey.ed25519Id, key .server, []⟩ leaf [] := by
    refine ⟨congrArg some (List.append_nil leaf).symm, by decide +kernel, ⟨_, ?_, rfl⟩, rfl⟩
    decide +kernel
  have hne : (leafChain leaf).certificates ≠ [] := List.cons_ne_nil _ _
  obtain ⟨_, front, behind, _, hunique, -, hstored⟩ := CertificateChain.leaf_of_decode hdecode hne
  obtain ⟨rfl, rfl⟩ := hunique _ _ _ hholds
  obtain ⟨hhash, -, htrailing⟩ := hstored {} true
  rw [List.append_nil] at hhash
  exact ⟨hdecode, hhash rfl, fun hrefused => htrailing.1 hrefused rfl⟩

set_option maxRecDepth 100000 in
/-- A chain is read, and has the key of its leaf, though the leaf is a certificate and another byte;
    the hook that reads the stored chain refuses it. -/
theorem trailedLeaf_refused :
    let leaf := certificate (key .server) ++ [0]
    CertificateChain.decode clientRules (leafBody leaf) = .ok (leafChain leaf)
      ∧ (X509.Certificate.parse? leaf).map Prod.snd = some [0]
      ∧ (ChainHook.x509 (({} : Session).storeChain true (leafChain leaf))).1
        = .error (.decode (.chainTrailingData 0)) := by
  decide +kernel

end Rehearsal

end TlsHandshake
