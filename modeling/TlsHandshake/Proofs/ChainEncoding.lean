import Mathlib.Data.List.Infix
import TlsHandshake.Proofs.Authentication
import TlsHandshake.Proofs.Grammar

set_option autoImplicit false

/-! # Which chains can be written, and how they are read back

`CertificateChain.encode` writes entries of the grammar of a certificate body: `writtenEntries` are
the ones it writes, and `Fits` says which lengths leave room for them. A chain that does not fit is
refused for a length and for nothing else.

Main statements: `encode_fits`, a chain is written if it fits, and a client reads it back with all
that is stapled to it; and `decode_encode_decode`, what any body was read as can be written in no
more bytes, and is read from them again. -/

namespace TlsHandshake

/-! ## Failing for a length -/

/-- If a result is an error, a length did not fit its field. -/
def FailsByLength {α : Type} (result : Except Error α) : Prop :=
  ∀ e, result = .error e → ∃ bits length, e = .internal (.fieldOverflow bits length)

namespace FailsByLength

variable {α β : Type}

theorem ok (a : α) : FailsByLength (.ok a) := nofun

theorem bind {result : Except Error α} {f : α → Except Error β} (hresult : FailsByLength result)
    (hf : ∀ a, FailsByLength (f a)) : FailsByLength (result >>= f) := by
  intro e he
  cases result with
  | ok a => exact hf a e he
  | error e' =>
      obtain rfl : e' = e := Except.error.inj he
      exact hresult e' rfl

theorem mapM {f : α → Except Error β} (hf : ∀ a, FailsByLength (f a)) (xs : List α) :
    FailsByLength (xs.mapM f) := by
  induction xs with
  | nil => exact .ok []
  | cons x xs ih =>
      rw [List.mapM_cons]
      exact (hf x).bind fun _ => ih.bind fun _ => .ok _

end FailsByLength

theorem writeVector_failsByLength (width : Nat) (body : Bytes) :
    FailsByLength (writeVector width body) := by
  intro e he
  simp only [writeVector] at he
  split at he
  · cases he
  · exact ⟨_, _, (Except.error.inj he).symm⟩

theorem frame_failsByLength (type : MessageType) (body : Bytes) : FailsByLength (frame type body) :=
  (writeVector_failsByLength 3 body).bind fun _ => .ok _

/-! ## Lists -/

theorem ok_eq_ok_iff {α : Type} {a b : α} : (.ok a : Except Error α) = .ok b ↔ b = a :=
  ⟨fun h => (Except.ok.inj h).symm, fun h => h ▸ rfl⟩

/-- A list is written if each of its elements is. -/
theorem mapM_eq_ok_iff {α β : Type} {f : α → Except Error β} {Fits : α → Prop} {g : α → β}
    (hf : ∀ a b, f a = .ok b ↔ Fits a ∧ b = g a) {as : List α} {bs : List β} :
    as.mapM f = .ok bs ↔ (∀ a ∈ as, Fits a) ∧ bs = as.map g := by
  induction as generalizing bs with
  | nil =>
      constructor
      · intro h
        exact ⟨nofun, (Except.ok.inj h).symm⟩
      · rintro ⟨_, rfl⟩
        rfl
  | cons a as ih =>
      rw [List.mapM_cons, List.forall_mem_cons]
      constructor
      · intro h
        obtain ⟨first, hfirst, h⟩ := bind_eq_ok_iff.1 h
        obtain ⟨others, hothers, h⟩ := bind_eq_ok_iff.1 h
        obtain ⟨hfits, rfl⟩ := (hf a first).1 hfirst
        obtain ⟨hall, rfl⟩ := ih.1 hothers
        exact ⟨⟨hfits, hall⟩, (Except.ok.inj h).symm⟩
      · rintro ⟨⟨hfits, hall⟩, rfl⟩
        exact bind_eq_ok_iff.2 ⟨_, (hf a _).2 ⟨hfits, rfl⟩,
          bind_eq_ok_iff.2 ⟨_, ih.2 ⟨hall, rfl⟩, rfl⟩⟩

/-! ## Extensions -/

namespace Extension

theorem encode_failsByLength (e : Extension) : FailsByLength e.encode :=
  (writeVector_failsByLength 2 e.data).bind fun _ => .ok _

theorem encodeAll_failsByLength (es : List Extension) : FailsByLength (encodeAll es) := by
  induction es with
  | nil => exact .ok []
  | cons e es ih => exact e.encode_failsByLength.bind fun _ => ih.bind fun _ => .ok _

theorem encode_eq_ok_iff {e : Extension} {written : Bytes} :
    e.encode = .ok written ↔ e.data.length < Bytes.capacity 2 ∧ written = e.bytes :=
  bind_writeVector_eq_ok_iff.trans (and_congr_right fun _ => ok_eq_ok_iff)

/-- A block is its extensions, written one after the other. -/
theorem encodeAll_eq_mapM (es : List Extension) :
    encodeAll es = (es.mapM encode >>= fun written => .ok written.flatten) := by
  induction es with
  | nil => rfl
  | cons e es ih =>
      rw [encodeAll, List.mapM_cons, ih]
      simp only [bind_assoc, pure_bind]
      rfl

/-- A block is written if the data of each extension fits its length. -/
theorem encodeAll_eq_ok_iff {es : List Extension} {written : Bytes} :
    encodeAll es = .ok written
      ↔ (∀ e ∈ es, e.data.length < Bytes.capacity 2) ∧ written = block es := by
  rw [encodeAll_eq_mapM, bind_eq_ok_iff]
  simp only [mapM_eq_ok_iff fun e _ => encode_eq_ok_iff]
  constructor
  · rintro ⟨_, ⟨hlengths, rfl⟩, h⟩
    exact ⟨hlengths, (Except.ok.inj h).symm⟩
  · rintro ⟨hlengths, rfl⟩
    exact ⟨_, ⟨hlengths, rfl⟩, rfl⟩

/-- Extensions that all stand in a block take no more than the block. -/
theorem length_block_le {es es' : List Extension} (hnodup : es'.Nodup)
    (hmem : ∀ e ∈ es', e ∈ es) : (block es').length ≤ (block es).length := by
  induction es' generalizing es with
  | nil => exact Nat.zero_le _
  | cons e es' ih =>
      rw [List.nodup_cons] at hnodup
      obtain ⟨before, after, rfl⟩ := List.append_of_mem (hmem e List.mem_cons_self)
      have hrest : ∀ x ∈ es', x ∈ before ++ after := by
        intro x hx
        have hne : x ≠ e := fun heq => hnodup.1 (heq ▸ hx)
        have hx := hmem x (List.mem_cons_of_mem _ hx)
        simpa [hne] using hx
      have hle := ih hnodup.2 hrest
      simp only [block, List.flatMap_append, List.flatMap_cons, List.length_append] at hle ⊢
      omega

end Extension

/-! ## What is stapled -/

namespace Staples

variable {rules : CertificateRules} {staples : Staples} {carrying : List Extension}

/-- The extensions that are written for what is stapled. -/
def extensions (staples : Staples) : List Extension :=
  (staples.sctList.map (Extension.mk .signedCertificateTimestamp)).toList
    ++ (staples.ocspResponse.map fun response => ⟨.statusRequest, statusData response⟩).toList

/-- How many bytes these extensions take: four each and their data, which for a response is its type
    and its length before the response itself. -/
def blockLength (staples : Staples) : Nat :=
  (staples.sctList.elim 0 fun list => 4 + list.length)
    + staples.ocspResponse.elim 0 fun response => 4 + (4 + response.length)

@[simp] theorem length_statusData (response : Bytes) :
    (statusData response).length = 4 + response.length := by
  simp only [statusData, List.length_cons, length_field]
  omega

theorem length_block_extensions (staples : Staples) :
    (Extension.block staples.extensions).length = staples.blockLength := by
  obtain ⟨ocspResponse, sctList⟩ := staples
  cases sctList <;> cases ocspResponse <;> simp [extensions, blockLength, Extension.block]

theorem mem_extensions_iff {e : Extension} :
    e ∈ staples.extensions
      ↔ (∃ list, staples.sctList = some list ∧ e = ⟨.signedCertificateTimestamp, list⟩)
        ∨ ∃ response, staples.ocspResponse = some response
          ∧ e = ⟨.statusRequest, statusData response⟩ := by
  obtain ⟨ocspResponse, sctList⟩ := staples
  cases sctList <;> cases ocspResponse <;> simp [extensions]

theorem nodup_types_extensions (staples : Staples) :
    (staples.extensions.map Extension.type).Nodup := by
  obtain ⟨ocspResponse, sctList⟩ := staples
  cases sctList <;> cases ocspResponse <;>
    simp [extensions, ExtensionType.statusRequest, ExtensionType.signedCertificateTimestamp]

/-- What is written carries the staples. -/
theorem carriedBy_extensions (staples : Staples) : CarriedBy staples.extensions staples where
  status response := by
    rw [mem_extensions_iff]
    constructor
    · intro h
      exact Or.inr ⟨response, h, rfl⟩
    · rintro (⟨list, _, heq⟩ | ⟨response', h, heq⟩)
      · cases (Extension.mk.inj heq).1
      · rw [h, statusData_inj (Extension.mk.inj heq).2]
  timestamps list := by
    rw [mem_extensions_iff]
    constructor
    · intro h
      exact Or.inl ⟨list, h, rfl⟩
    · rintro (⟨list', h, heq⟩ | ⟨response, _, heq⟩)
      · rw [h, (Extension.mk.inj heq).2]
      · cases (Extension.mk.inj heq).1

/-- Of what carries the staples only a part is written again. -/
theorem CarriedBy.mem (hcarried : CarriedBy carrying staples) {e : Extension}
    (he : e ∈ staples.extensions) : e ∈ carrying := by
  rcases mem_extensions_iff.1 he with ⟨list, hlist, rfl⟩ | ⟨response, hresponse, rfl⟩
  · exact (hcarried.timestamps list).1 hlist
  · exact (hcarried.status response).1 hresponse

theorem CarriedBy.blockLength_le (hcarried : CarriedBy carrying staples) :
    staples.blockLength ≤ (Extension.block carrying).length := by
  rw [← length_block_extensions]
  exact Extension.length_block_le (List.Pairwise.of_map Extension.type
    (fun _ _ hne heq => hne (congrArg _ heq)) staples.nodup_types_extensions)
    fun _ => hcarried.mem

/-- What may be carried may be written again. -/
theorem Lawful.extensions (hlawful : Lawful rules carrying)
    (hcarried : CarriedBy carrying staples) : Lawful rules staples.extensions where
  recognized e he := hlawful.recognized e (hcarried.mem he)
  distinct := staples.nodup_types_extensions
  status data hdata := hlawful.status data (hcarried.mem hdata)
  timestamps data hdata := hlawful.timestamps data (hcarried.mem hdata)

theorem lawful_nil : Lawful rules [] := ⟨nofun, List.nodup_nil, nofun, nofun⟩

/-! ### Writing -/

theorem encodeStatus_failsByLength (response : Bytes) : FailsByLength (encodeStatus response) :=
  (writeVector_failsByLength 3 response).bind fun _ => .ok _

theorem toExtensions_failsByLength (staples : Staples) : FailsByLength staples.toExtensions := by
  obtain ⟨ocspResponse, sctList⟩ := staples
  cases ocspResponse with
  | none => exact .ok _
  | some response =>
      exact ((encodeStatus_failsByLength response).bind fun _ => .ok _).bind fun _ => .ok _

theorem encodeStatus_eq_ok_iff {response data : Bytes} :
    encodeStatus response = .ok data
      ↔ response.length < Bytes.capacity 3 ∧ data = statusData response :=
  bind_writeVector_eq_ok_iff.trans (and_congr_right fun _ => ok_eq_ok_iff)

theorem toExtensions_eq_ok_iff {written : List Extension} :
    staples.toExtensions = .ok written
      ↔ (∀ response, staples.ocspResponse = some response → response.length < Bytes.capacity 3)
        ∧ written = staples.extensions := by
  obtain ⟨ocspResponse, sctList⟩ := staples
  cases ocspResponse with
  | none =>
      constructor
      · intro h
        exact ⟨nofun, (Except.ok.inj h).symm⟩
      · rintro ⟨_, rfl⟩
        rfl
  | some response =>
      constructor
      · intro h
        obtain ⟨status, hstatus, h⟩ := bind_eq_ok_iff.1 h
        obtain ⟨data, hdata, hstatus⟩ := bind_eq_ok_iff.1 hstatus
        obtain rfl := Except.ok.inj hstatus
        obtain ⟨hlength, rfl⟩ := encodeStatus_eq_ok_iff.1 hdata
        refine ⟨?_, (Except.ok.inj h).symm⟩
        rintro _ ⟨⟩
        exact hlength
      · rintro ⟨hlength, rfl⟩
        exact bind_eq_ok_iff.2 ⟨some (statusData response),
          bind_eq_ok_iff.2 ⟨_, encodeStatus_eq_ok_iff.2 ⟨hlength response rfl, rfl⟩, rfl⟩, rfl⟩

end Staples

/-! ## Chains -/

namespace CertificateChain

variable {rules : CertificateRules} {chain : List Bytes} {staples : Staples} {certificate : Bytes}

/-- The entries that are written for a chain: the staples go with the leaf. -/
def writtenEntries (staples : Staples) : List Bytes → List Entry
  | [] => []
  | leaf :: issuers => ⟨leaf, staples.extensions⟩ :: issuers.map (Entry.mk · [])

/-- How many bytes certificates take, each with the two lengths in its entry. -/
def certificatesLength : List Bytes → Nat
  | [] => 0
  | certificate :: rest => 3 + certificate.length + 2 + certificatesLength rest

/-- How many bytes the list of entries takes: the certificates, and what is stapled. -/
def listLength (staples : Staples) (chain : List Bytes) : Nat :=
  certificatesLength chain + staples.blockLength

/-- The lengths that a chain with its staples must keep to: 24 bits for each certificate, 16 for the
    timestamps, for the data of the status around the response and for the extensions of the leaf,
    and 24 bits for the body around the list. -/
structure Fits (staples : Staples) (chain : List Bytes) : Prop where
  certificates : ∀ certificate ∈ chain, certificate.length ≤ 0xffffff
  timestamps : ∀ list, staples.sctList = some list → list.length ≤ 0xffff
  response : ∀ response, staples.ocspResponse = some response → response.length ≤ 0xffff - 4
  block : staples.blockLength ≤ 0xffff
  list : listLength staples chain ≤ 0xffffff - 4

@[simp] theorem certificates_writtenEntries (staples : Staples) (chain : List Bytes) :
    (writtenEntries staples chain).map Entry.certificate = chain := by
  cases chain <;> simp [writtenEntries, Function.comp_def]

@[simp] theorem Entry.length_bytes (entry : Entry) :
    entry.bytes.length
      = 3 + entry.certificate.length + 2 + (Extension.block entry.extensions).length := by
  simp only [Entry.bytes, List.length_append, length_field]
  omega

theorem length_writtenIssuers (issuers : List Bytes) :
    ((issuers.map (Entry.mk · [])).flatMap Entry.bytes).length = certificatesLength issuers := by
  induction issuers with
  | nil => rfl
  | cons issuer issuers ih =>
      rw [List.map_cons, List.flatMap_cons, List.length_append, Entry.length_bytes, ih]
      rfl

theorem length_writtenEntries (hne : chain ≠ []) :
    ((writtenEntries staples chain).flatMap Entry.bytes).length = listLength staples chain := by
  cases chain with
  | nil => exact absurd rfl hne
  | cons leaf issuers =>
      rw [writtenEntries, List.flatMap_cons, List.length_append, Entry.length_bytes,
        Staples.length_block_extensions, length_writtenIssuers, listLength, certificatesLength]
      dsimp only
      omega

/-! ### Writing -/

theorem encodeEntry_failsByLength (certificate : Bytes) (staples : Staples) :
    FailsByLength (encodeEntry certificate staples) :=
  (writeVector_failsByLength 3 certificate).bind fun _ =>
    staples.toExtensions_failsByLength.bind fun extensions =>
      (Extension.encodeAll_failsByLength extensions).bind fun block =>
        (writeVector_failsByLength 2 block).bind fun _ => .ok _

theorem encodeList_failsByLength (staples : Staples) (chain : List Bytes) :
    FailsByLength (encodeList staples chain) := by
  cases chain with
  | nil => exact .ok []
  | cons leaf issuers =>
      exact (encodeEntry_failsByLength leaf staples).bind fun _ =>
        (FailsByLength.mapM (fun issuer => encodeEntry_failsByLength issuer {}) issuers).bind
          fun _ => .ok _

theorem encode_failsByLength (chain : List Bytes) (staples : Staples) :
    FailsByLength (encode chain staples) :=
  (encodeList_failsByLength staples chain).bind fun list =>
    (writeVector_failsByLength 3 list).bind fun _ => frame_failsByLength _ _

/-- An entry is written if its certificate and its block fit their lengths; then so does all that is
    in the block. -/
theorem encodeEntry_eq_ok_iff {written : Bytes} :
    encodeEntry certificate staples = .ok written
      ↔ certificate.length < Bytes.capacity 3 ∧ staples.blockLength < Bytes.capacity 2
        ∧ written = Entry.bytes ⟨certificate, staples.extensions⟩ := by
  constructor
  · intro h
    obtain ⟨first, hfirst, h⟩ := bind_eq_ok_iff.1 h
    obtain ⟨extensions, hextensions, h⟩ := bind_eq_ok_iff.1 h
    obtain ⟨block, hblock, h⟩ := bind_eq_ok_iff.1 h
    obtain ⟨second, hsecond, h⟩ := bind_eq_ok_iff.1 h
    obtain ⟨_, rfl⟩ := Staples.toExtensions_eq_ok_iff.1 hextensions
    obtain ⟨_, rfl⟩ := Extension.encodeAll_eq_ok_iff.1 hblock
    obtain ⟨hcertificate, rfl⟩ := writeVector_eq_ok_iff.1 hfirst
    obtain ⟨hlength, rfl⟩ := writeVector_eq_ok_iff.1 hsecond
    rw [staples.length_block_extensions] at hlength
    exact ⟨hcertificate, hlength, (Except.ok.inj h).symm⟩
  · rintro ⟨hcertificate, hlength, rfl⟩
    rw [← staples.length_block_extensions] at hlength
    have hdata : ∀ e ∈ staples.extensions, e.data.length < Bytes.capacity 2 := fun e he =>
      Nat.lt_of_le_of_lt (Extension.length_data_le_block he) hlength
    have hresponse : ∀ response, staples.ocspResponse = some response →
        response.length < Bytes.capacity 3 := by
      intro response hresponse
      have hstatus := hdata _ (Staples.mem_extensions_iff.2 (Or.inr ⟨response, hresponse, rfl⟩))
      rw [Staples.length_statusData] at hstatus
      have hcapacity : Bytes.capacity 2 ≤ Bytes.capacity 3 := by decide
      omega
    exact bind_eq_ok_iff.2 ⟨_, writeVector_eq_ok_iff.2 ⟨hcertificate, rfl⟩,
      bind_eq_ok_iff.2 ⟨_, Staples.toExtensions_eq_ok_iff.2 ⟨hresponse, rfl⟩,
        bind_eq_ok_iff.2 ⟨_, Extension.encodeAll_eq_ok_iff.2 ⟨hdata, rfl⟩,
          bind_eq_ok_iff.2 ⟨_, writeVector_eq_ok_iff.2 ⟨hlength, rfl⟩, rfl⟩⟩⟩⟩

theorem encodeIssuers_eq_ok_iff {issuers written : List Bytes} :
    issuers.mapM (encodeEntry · {}) = .ok written
      ↔ (∀ issuer ∈ issuers, issuer.length < Bytes.capacity 3)
        ∧ written = (issuers.map (Entry.mk · [])).map Entry.bytes := by
  have hentry : ∀ issuer written, encodeEntry issuer {} = .ok written
      ↔ issuer.length < Bytes.capacity 3 ∧ written = Entry.bytes ⟨issuer, []⟩ := by
    intro issuer written
    rw [encodeEntry_eq_ok_iff]
    exact and_congr_right fun _ => and_iff_right (by decide)
  rw [mapM_eq_ok_iff hentry, List.map_map]
  rfl

theorem encodeList_eq_ok_iff {written : Bytes} :
    encodeList staples chain = .ok written
      ↔ (∀ certificate ∈ chain, certificate.length < Bytes.capacity 3)
        ∧ (chain ≠ [] → staples.blockLength < Bytes.capacity 2)
        ∧ written = (writtenEntries staples chain).flatMap Entry.bytes := by
  cases chain with
  | nil =>
      constructor
      · intro h
        exact ⟨nofun, fun hne => absurd rfl hne, (Except.ok.inj h).symm⟩
      · rintro ⟨_, _, rfl⟩
        rfl
  | cons leaf issuers =>
      rw [List.forall_mem_cons]
      constructor
      · intro h
        obtain ⟨first, hfirst, h⟩ := bind_eq_ok_iff.1 h
        obtain ⟨others, hothers, h⟩ := bind_eq_ok_iff.1 h
        obtain ⟨hleaf, hblock, rfl⟩ := encodeEntry_eq_ok_iff.1 hfirst
        obtain ⟨hissuers, rfl⟩ := encodeIssuers_eq_ok_iff.1 hothers
        exact ⟨⟨hleaf, hissuers⟩, fun _ => hblock, (Except.ok.inj h).symm⟩
      · rintro ⟨⟨hleaf, hissuers⟩, hblock, rfl⟩
        exact bind_eq_ok_iff.2 ⟨_,
          encodeEntry_eq_ok_iff.2 ⟨hleaf, hblock (List.cons_ne_nil _ _), rfl⟩,
          bind_eq_ok_iff.2 ⟨_, encodeIssuers_eq_ok_iff.2 ⟨hissuers, rfl⟩, rfl⟩⟩

/-- The body that is written for a chain. -/
def writtenBody (staples : Staples) (chain : List Bytes) : Bytes :=
  0 :: field 3 ((writtenEntries staples chain).flatMap Entry.bytes)

theorem length_writtenBody (hne : chain ≠ []) :
    (writtenBody staples chain).length = 4 + listLength staples chain := by
  simp only [writtenBody, List.length_cons, length_field, length_writtenEntries hne]
  omega

/-- A body that can be framed holds the entries it is written for. -/
theorem isBody_writtenBody (hlength : (writtenBody staples chain).length < Bytes.capacity 3) :
    IsBody (writtenEntries staples chain) (writtenBody staples chain) where
  length_list := by
    simp only [writtenBody, List.length_cons, length_field] at hlength
    omega
  eq_bytes := rfl

theorem encode_eq_frame_iff {m : Bytes} :
    encode chain staples = .ok m
      ↔ (∀ certificate ∈ chain, certificate.length < Bytes.capacity 3)
        ∧ (chain ≠ [] → staples.blockLength < Bytes.capacity 2)
        ∧ frame .certificate (writtenBody staples chain) = .ok m := by
  constructor
  · intro h
    obtain ⟨list, hlist, h⟩ := bind_eq_ok_iff.1 h
    obtain ⟨vector, hvector, hframe⟩ := bind_eq_ok_iff.1 h
    obtain ⟨hcertificates, hblock, rfl⟩ := encodeList_eq_ok_iff.1 hlist
    obtain ⟨_, rfl⟩ := writeVector_eq_ok_iff.1 hvector
    exact ⟨hcertificates, hblock, hframe⟩
  · rintro ⟨hcertificates, hblock, hframe⟩
    have hlist := (isBody_writtenBody (frame_eq_ok_iff.1 hframe).1).length_list
    exact bind_eq_ok_iff.2 ⟨_, encodeList_eq_ok_iff.2 ⟨hcertificates, hblock, rfl⟩,
      bind_eq_ok_iff.2 ⟨_, writeVector_eq_ok_iff.2 ⟨hlist, rfl⟩, hframe⟩⟩

/-- The three lengths that are left to keep to once the message is a frame; the others are inside
    these. -/
theorem fits_iff (hne : chain ≠ []) :
    Fits staples chain
      ↔ (∀ certificate ∈ chain, certificate.length < Bytes.capacity 3)
        ∧ staples.blockLength < Bytes.capacity 2
        ∧ (writtenBody staples chain).length < Bytes.capacity 3 := by
  have h2 : Bytes.capacity 2 = 0xffff + 1 := rfl
  have h3 : Bytes.capacity 3 = 0xffffff + 1 := rfl
  rw [length_writtenBody hne, h2, h3]
  constructor
  · intro hfits
    have hlist := hfits.list
    exact ⟨fun certificate hmem => Nat.lt_succ_of_le (hfits.certificates certificate hmem),
      Nat.lt_succ_of_le hfits.block, by omega⟩
  · rintro ⟨hcertificates, hblock, hbody⟩
    refine ⟨fun certificate hmem => Nat.le_of_lt_succ (hcertificates certificate hmem), ?_, ?_,
      Nat.le_of_lt_succ hblock, by omega⟩
    · intro list hlist
      simp only [Staples.blockLength, hlist, Option.elim_some] at hblock
      omega
    · intro response hresponse
      simp only [Staples.blockLength, hresponse, Option.elim_some] at hblock
      omega

theorem exists_encode_iff (chain : List Bytes) (staples : Staples) :
    (∃ m, encode chain staples = .ok m) ↔ chain = [] ∨ Fits staples chain := by
  by_cases hne : chain = []
  · subst hne
    exact ⟨fun _ => Or.inl rfl, fun _ => ⟨_, rfl⟩⟩
  · rw [or_iff_right hne, fits_iff hne]
    constructor
    · rintro ⟨m, h⟩
      obtain ⟨hcertificates, hblock, hframe⟩ := encode_eq_frame_iff.1 h
      exact ⟨hcertificates, hblock hne, (frame_eq_ok_iff.1 hframe).1⟩
    · rintro ⟨hcertificates, hblock, hlength⟩
      exact ⟨_, encode_eq_frame_iff.2
        ⟨hcertificates, fun _ => hblock, frame_eq_ok_iff.2 ⟨hlength, rfl⟩⟩⟩

/-! ### Reading back -/

/-- A client's rules under which all that can be stapled may be. -/
structure AllowsStaples (rules : CertificateRules) : Prop where
  client : rules.isServer = false
  ocspStapling : rules.ocspStapling = true
  signedCertTimestamps : rules.signedCertTimestamps = true
  recognizesStatus : rules.extensions.recognizes .statusRequest = true
  recognizesTimestamps : rules.extensions.recognizes .signedCertificateTimestamp = true

/-- What a chain and its staples must be like to be accepted, lengths apart: no certificate is
    empty, the leaf has a key and may sign, a response is not empty and timestamps are well
    formed. -/
structure Acceptable (rules : CertificateRules) (leaf : Bytes) (issuers : List Bytes)
    (staples : Staples) (key : PublicKey) : Prop where
  ne_nil : ∀ certificate ∈ leaf :: issuers, certificate ≠ []
  leafKey : ∃ certificate, PublicKey.readCertificate leaf = .ok certificate
    ∧ PublicKey.ofCertificate certificate = .ok key ∧ certificate.maySign = .ok true
  response : ∀ response, staples.ocspResponse = some response → response ≠ []
  timestamps : ∀ list, staples.sctList = some list → rules.sctListValid list = true

variable {leaf : Bytes} {issuers : List Bytes} {key : PublicKey}

theorem Acceptable.lawful (hallows : AllowsStaples rules)
    (hacceptable : Acceptable rules leaf issuers staples key)
    (hfits : Fits staples (leaf :: issuers)) : Staples.Lawful rules staples.extensions where
  recognized e he := by
    rcases Staples.mem_extensions_iff.1 he with ⟨list, _, rfl⟩ | ⟨response, _, rfl⟩
    · exact hallows.recognizesTimestamps
    · exact hallows.recognizesStatus
  distinct := staples.nodup_types_extensions
  status data hdata := by
    rcases Staples.mem_extensions_iff.1 hdata with ⟨_, _, heq⟩ | ⟨response, hresponse, heq⟩
    · cases (Extension.mk.inj heq).1
    · have hlength : response.length < Bytes.capacity 3 := by
        have h3 : Bytes.capacity 3 = 0xffffff + 1 := rfl
        have := hfits.response response hresponse
        omega
      exact ⟨hallows.client, hallows.ocspStapling, response,
        hacceptable.response response hresponse, hlength, (Extension.mk.inj heq).2⟩
  timestamps data hdata := by
    rcases Staples.mem_extensions_iff.1 hdata with ⟨list, hlist, heq⟩ | ⟨_, _, heq⟩
    · obtain rfl := (Extension.mk.inj heq).2
      exact ⟨hallows.client, hallows.signedCertTimestamps, hacceptable.timestamps _ hlist⟩
    · cases (Extension.mk.inj heq).1

/-- Every entry that is written for a chain is allowed, if what is stapled to the leaf is lawful. -/
theorem allowed_writtenEntries (hlawful : Staples.Lawful rules staples.extensions)
    (hne : ∀ certificate ∈ leaf :: issuers, certificate ≠ [])
    (hfits : Fits staples (leaf :: issuers)) :
    ∀ entry ∈ writtenEntries staples (leaf :: issuers), entry.Allowed rules := by
  obtain ⟨hcertificates, hblock, _⟩ := (fits_iff (List.cons_ne_nil _ _)).1 hfits
  rw [List.forall_mem_cons] at hne hcertificates
  refine List.forall_mem_cons.2 ⟨⟨hne.1, hcertificates.1, ?_, hlawful⟩, ?_⟩
  · rw [Staples.length_block_extensions]
    exact hblock
  · intro entry hentry
    obtain ⟨issuer, hissuer, rfl⟩ := List.mem_map.1 hentry
    exact ⟨hne.2 issuer hissuer, hcertificates.2 issuer hissuer, Bytes.capacity_pos 2,
      Staples.lawful_nil⟩

/-- What was written for a chain is read back, if what is stapled to the leaf is lawful. -/
theorem decode_writtenBody (hlawful : Staples.Lawful rules staples.extensions)
    (hne : ∀ certificate ∈ leaf :: issuers, certificate ≠ [])
    (hkey : ∃ certificate, PublicKey.readCertificate leaf = .ok certificate
      ∧ PublicKey.ofCertificate certificate = .ok key ∧ certificate.maySign = .ok true)
    (hfits : Fits staples (leaf :: issuers)) :
    decode rules (writtenBody staples (leaf :: issuers))
      = .ok ⟨leaf :: issuers, some key, staples⟩ := by
  have hlength := ((fits_iff (List.cons_ne_nil _ _)).1 hfits).2.2
  obtain ⟨certificate, hcertificate, hkey, hsign⟩ := hkey
  refine (decode_eq_ok_iff ..).2 ⟨_, isBody_writtenBody hlength,
    allowed_writtenEntries hlawful hne hfits, ?_⟩
  have hsays : Says (⟨leaf, staples.extensions⟩ :: issuers.map (Entry.mk · [])) _ :=
    .cons hcertificate hkey hsign staples.carriedBy_extensions
  have hchain : (⟨leaf, staples.extensions⟩ :: issuers.map (Entry.mk · [])).map Entry.certificate
      = leaf :: issuers := certificates_writtenEntries staples (leaf :: issuers)
  rw [hchain] at hsays
  exact hsays

/-- A message that was written is a frame of the body that is written for the chain. -/
theorem unframe?_of_encode {m : Bytes} (h : encode chain staples = .ok m) :
    m.length = headerLength + (writtenBody staples chain).length
    ∧ m.drop headerLength = writtenBody staples chain
    ∧ unframe? m = .ok (some ⟨.certificate, m.drop headerLength, m.length⟩) := by
  obtain ⟨_, _, hframe⟩ := encode_eq_frame_iff.1 h
  have hunframe := unframe?_of_frame hframe []
  rw [List.append_nil] at hunframe
  refine ⟨length_of_frame hframe, drop_of_frame hframe, ?_⟩
  rw [hunframe, drop_of_frame hframe]

/-- A chain is written if and only if it is empty or fits, and is refused for a length otherwise. A
    client that allows all staples reads the chain back with what is stapled to it, if it is
    acceptable to begin with. -/
theorem encode_fits (chain : List Bytes) (staples : Staples) :
    ((∃ m, encode chain staples = .ok m) ↔ chain = [] ∨ Fits staples chain)
    ∧ (¬(chain = [] ∨ Fits staples chain) →
      ∃ bits length, encode chain staples = .error (.internal (.fieldOverflow bits length)))
    ∧ ∀ m, encode chain staples = .ok m →
      unframe? m = .ok (some ⟨.certificate, m.drop headerLength, m.length⟩)
      ∧ (chain = [] → ∀ rules, decode rules (m.drop headerLength) = .ok {})
      ∧ ∀ rules leaf issuers key, AllowsStaples rules → chain = leaf :: issuers →
        Acceptable rules leaf issuers staples key →
        decode rules (m.drop headerLength) = .ok ⟨chain, some key, staples⟩ := by
  refine ⟨exists_encode_iff chain staples, ?_, ?_⟩
  · intro hnot
    cases hencode : encode chain staples with
    | ok m => exact absurd ((exists_encode_iff chain staples).1 ⟨m, hencode⟩) hnot
    | error e =>
        obtain ⟨bits, length, rfl⟩ := encode_failsByLength chain staples e hencode
        exact ⟨bits, length, rfl⟩
  · intro m hencode
    obtain ⟨_, hdrop, hunframe⟩ := unframe?_of_encode hencode
    refine ⟨hunframe, ?_, ?_⟩
    · rintro rfl rules
      rw [hdrop]
      exact (decode_eq_ok_iff ..).2 ⟨[], ⟨Bytes.capacity_pos 3, rfl⟩, nofun, .nil⟩
    · rintro rules leaf issuers key hallows rfl hacceptable
      have hfits : Fits staples (leaf :: issuers) :=
        ((exists_encode_iff _ _).1 ⟨m, hencode⟩).resolve_left (List.cons_ne_nil _ _)
      rw [hdrop]
      exact decode_writtenBody (hacceptable.lawful hallows hfits) hacceptable.ne_nil
        hacceptable.leafKey hfits

end CertificateChain

namespace Rehearsal

/-- The rules of a client that takes all staples, and extensions of one more type. -/
def clientRules : CertificateRules where
  isServer := false
  ocspStapling := true
  signedCertTimestamps := true
  extensions := ({} : ExtensionPolicy).allow ⟨42⟩
  sctListValid := SctList.isValid

/-- The leaf of the server with an issuer. -/
def issuedChain : List Bytes := [certificate (key .server), [7]]

/-- A response and one timestamp. -/
def staples : Staples := ⟨some [1, 2], some [0, 3, 0, 1, 9]⟩

set_option maxRecDepth 100000 in
/-- A chain that is read back with its staples, and a response one byte too long to be written. -/
theorem issuedChain_read_back :
    (∃ bits length, CertificateChain.encode issuedChain ⟨some (List.replicate 0xfffc 0), none⟩
      = .error (.internal (.fieldOverflow bits length)))
    ∧ ∃ m, CertificateChain.encode issuedChain staples = .ok m
      ∧ CertificateChain.decode clientRules (m.drop headerLength)
        = .ok ⟨issuedChain, some (.ed25519 (key .server)), staples⟩ := by
  constructor
  · refine (CertificateChain.encode_fits issuedChain ⟨some (List.replicate 0xfffc 0), none⟩).2.1 ?_
    rintro (hempty | hfits)
    · cases hempty
    · have hresponse := hfits.response _ rfl
      rw [List.length_replicate] at hresponse
      omega
  · obtain ⟨hwritten, _, hback⟩ := CertificateChain.encode_fits issuedChain staples
    have hfits : CertificateChain.Fits staples issuedChain := by
      refine ⟨by decide +kernel, ?_, ?_, by decide, by decide +kernel⟩ <;>
      · rintro _ ⟨⟩
        decide
    obtain ⟨m, hencode⟩ := hwritten.2 (Or.inr hfits)
    refine ⟨m, hencode, (hback m hencode).2.2 clientRules _ _ _ ⟨rfl, rfl, rfl, rfl, rfl⟩ rfl
      ⟨by decide +kernel, CertificateChain.readLeafKey_eq_ok_iff.1 (by decide +kernel), ?_, ?_⟩⟩
    · rintro _ ⟨⟩
      decide
    · rintro _ ⟨⟩
      decide +kernel

end Rehearsal

/-! ## Writing what was read -/

namespace CertificateChain

variable {staples : Staples}

/-- Each entry takes at least its certificate and the two lengths. -/
theorem certificatesLength_le (entries : List Entry) :
    certificatesLength (entries.map Entry.certificate) ≤ (entries.flatMap Entry.bytes).length := by
  induction entries with
  | nil => exact Nat.le_refl 0
  | cons entry entries ih =>
      rw [List.map_cons, certificatesLength, List.flatMap_cons, List.length_append,
        Entry.length_bytes]
      omega

/-- What is written of what some entries say takes no more than the entries do: all other extensions
    are left out. -/
theorem listLength_le {leaf : Entry} (issuers : List Entry)
    (hcarried : Staples.CarriedBy leaf.extensions staples) :
    listLength staples ((leaf :: issuers).map Entry.certificate)
      ≤ ((leaf :: issuers).flatMap Entry.bytes).length := by
  have hblock := hcarried.blockLength_le
  have hissuers := certificatesLength_le issuers
  rw [listLength, List.map_cons, certificatesLength, List.flatMap_cons, List.length_append,
    Entry.length_bytes]
  omega

/-- What was read of a body can be written in no more bytes, and is read of them again. -/
theorem written_of_decode {rules : CertificateRules} {body : Bytes} {d : CertificateChain}
    (hlength : body.length < Bytes.capacity 3) (hdecode : decode rules body = .ok d) :
    (∃ m, encode d.certificates d.staples = .ok m)
    ∧ (writtenBody d.staples d.certificates).length ≤ body.length
    ∧ decode rules (writtenBody d.staples d.certificates) = .ok d := by
  obtain ⟨entries, hbody, hallowed, hsays⟩ := (decode_eq_ok_iff ..).1 hdecode
  obtain rfl := hbody.eq_bytes
  cases hsays with
  | nil => exact ⟨⟨_, rfl⟩, Nat.le_refl _, hdecode⟩
  | @cons leaf issuers certificate key staples hcertificate hkey hsign hcarried =>
      have hne : (leaf :: issuers).map Entry.certificate ≠ [] := List.cons_ne_nil _ _
      have hleaf := hallowed leaf List.mem_cons_self
      have hle : (writtenBody staples ((leaf :: issuers).map Entry.certificate)).length
          ≤ (0 :: field 3 ((leaf :: issuers).flatMap Entry.bytes)).length := by
        have hlist := listLength_le issuers hcarried
        rw [length_writtenBody hne, List.length_cons, length_field]
        omega
      have hfits : Fits staples ((leaf :: issuers).map Entry.certificate) := by
        refine (fits_iff hne).2 ⟨?_, ?_, Nat.lt_of_le_of_lt hle hlength⟩
        · intro certificate hmem
          obtain ⟨entry, hentry, rfl⟩ := List.mem_map.1 hmem
          exact (hallowed entry hentry).length_certificate
        · exact Nat.lt_of_le_of_lt hcarried.blockLength_le hleaf.length_block
      refine ⟨(exists_encode_iff _ _).2 (Or.inr hfits), hle, ?_⟩
      refine decode_writtenBody (hleaf.lawful.extensions hcarried) ?_
        ⟨certificate, hcertificate, hkey, hsign⟩ hfits
      rw [← List.map_cons]
      intro certificate hmem
      obtain ⟨entry, hentry, rfl⟩ := List.mem_map.1 hmem
      exact (hallowed entry hentry).ne_nil

/-- What was read of a body can be written, in a message no longer than the body and a header, and
    is read of the body of that message again. -/
theorem decode_encode_decode {rules : CertificateRules} {body : Bytes} {d : CertificateChain}
    (hlength : body.length ≤ 0xffffff) (hdecode : decode rules body = .ok d) :
    ∃ m, encode d.certificates d.staples = .ok m
      ∧ m.length ≤ body.length + headerLength
      ∧ unframe? m = .ok (some ⟨.certificate, m.drop headerLength, m.length⟩)
      ∧ decode rules (m.drop headerLength) = .ok d := by
  have hcapacity : body.length < Bytes.capacity 3 := Nat.lt_succ_of_le hlength
  obtain ⟨⟨m, hencode⟩, hle, hread⟩ := written_of_decode hcapacity hdecode
  obtain ⟨hsize, hdrop, hunframe⟩ := unframe?_of_encode hencode
  refine ⟨m, hencode, by omega, hunframe, ?_⟩
  rw [hdrop, hread]

end CertificateChain

namespace Rehearsal

/-- A body with more in it than is kept: an extension of another type before the staples of the
    leaf, and a status that is stapled to the issuer. -/
def crowdedBody : Bytes :=
  0 :: field 3 (CertificateChain.Entry.bytes ⟨certificate (key .server), [⟨⟨42⟩, [8, 8]⟩,
      ⟨.statusRequest, Staples.statusData [1, 2]⟩, ⟨.signedCertificateTimestamp, [0, 3, 0, 1, 9]⟩]⟩
    ++ CertificateChain.Entry.bytes ⟨[7], [⟨.statusRequest, Staples.statusData [3]⟩]⟩)

set_option maxRecDepth 100000 in
theorem crowdedBody_written_again :
    let d : CertificateChain := ⟨issuedChain, some (.ed25519 (key .server)), staples⟩
    CertificateChain.decode clientRules crowdedBody = .ok d
    ∧ ∃ m, CertificateChain.encode issuedChain staples = .ok m
      ∧ m.length ≤ crowdedBody.length + headerLength
      ∧ unframe? m = .ok (some ⟨.certificate, m.drop headerLength, m.length⟩)
      ∧ CertificateChain.decode clientRules (m.drop headerLength) = .ok d := by
  intro d
  have hdecode : CertificateChain.decode clientRules crowdedBody = .ok d := by decide +kernel
  exact ⟨hdecode, CertificateChain.decode_encode_decode (by decide +kernel) hdecode⟩

end Rehearsal

end TlsHandshake
