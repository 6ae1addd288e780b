import TlsHandshake.Proofs.ExtensionBlocks

set_option autoImplicit false

/-! # The order of the extensions of an entry

The extensions of an entry are looked up by their type, always the stapled status first, and no type
stands in a block twice. So it does not matter in which order they stand there: not for what is
kept of them, and not for which of two faults is complained of (`Staples.read_reordered`).

A body is taken apart around one entry. `CertificateChain.EntryPlace` is what stands around the
entry: entries before it that may be of any kind, and any bytes behind it. Two entries that are
`Alike` to the reader of blocks can stand there for each other (`EntryPlace.decode_alike`). Main
statement: `CertificateChain.decode_of_reordered`. -/

namespace TlsHandshake

/-! ## Blocks -/

namespace Extension

variable {policy : ExtensionPolicy} {seen : List ExtensionType} {block : Bytes}
  {extensions reordered : List Extension}

theorem Admitted.of_perm (h : Admitted policy seen extensions)
    (horder : reordered.Perm extensions) : Admitted policy seen reordered where
  recognized e he := h.recognized e (horder.mem_iff.1 he)
  distinct := (horder.map Extension.type).nodup_iff.2 h.distinct
  unseen e he := h.unseen e (horder.mem_iff.1 he)

theorem length_block_of_perm (horder : reordered.Perm extensions) :
    (Extension.block reordered).length = (Extension.block extensions).length :=
  (horder.flatMap_right bytes).length_eq

/-- The extensions of a block can be written in any order, in as many bytes, and are read in that
    order then. -/
theorem exists_reordered (hread : parse policy block = .ok extensions)
    (horder : reordered.Perm extensions) :
    ∃ block', encodeAll reordered = .ok block' ∧ block'.length = block.length
      ∧ parse policy block' = .ok reordered := by
  obtain ⟨hencode, hadmitted⟩ := readAll_eq_ok_iff.1 hread
  obtain ⟨hdata, rfl⟩ := encodeAll_eq_ok_iff.1 hencode
  have hwritten : encodeAll reordered = .ok (Extension.block reordered) := by
    refine encodeAll_eq_ok_iff.2 ⟨?_, rfl⟩
    intro e he
    exact hdata e (horder.mem_iff.1 he)
  exact ⟨_, hwritten, length_block_of_perm horder,
    readAll_eq_ok_iff.2 ⟨hwritten, hadmitted.of_perm horder⟩⟩

end Extension

/-! ## What is stapled -/

namespace Staples

variable {rules : CertificateRules} {extensions reordered : List Extension} {block block' : Bytes}

/-- Of extensions of distinct types the same ones are found in every order. -/
theorem find?_of_perm (hdistinct : (extensions.map Extension.type).Nodup)
    (horder : reordered.Perm extensions) (type : ExtensionType) :
    find? reordered type = find? extensions type := by
  have hdistinct' : (reordered.map Extension.type).Nodup :=
    (horder.map Extension.type).nodup_iff.2 hdistinct
  ext data
  rw [find?_eq_some_iff hdistinct, find?_eq_some_iff hdistinct', horder.mem_iff]

/-- The order of the extensions makes no difference to what is read of a block, a fault included. -/
theorem read_reordered (hread : Extension.parse rules.extensions block = .ok extensions)
    (hread' : Extension.parse rules.extensions block' = .ok reordered)
    (horder : reordered.Perm extensions) : read rules block' = read rules block := by
  have hdistinct := (Extension.readAll_eq_ok_iff.1 hread).2.distinct
  have hfind := find?_of_perm hdistinct horder
  have hstatus : readStatus rules reordered = readStatus rules extensions := by
    simp only [readStatus, hfind]
  have hsctList : readSctList rules reordered = readSctList rules extensions := by
    simp only [readSctList, hfind]
  unfold read
  rw [hread, hread']
  show (do
    let ocspResponse ← readStatus rules reordered
    let sctList ← readSctList rules reordered
    return (⟨ocspResponse, sctList⟩ : Staples)) = _
  rw [hstatus, hsctList]
  rfl

end Staples

/-! ## Entries -/

namespace CertificateChain

variable {rules : CertificateRules} {rest : Bytes}

/-- An entry as it stands in a list, whatever its certificate and its block are. -/
structure RawEntry where
  certificate : Bytes
  block : Bytes
  length_certificate : certificate.length < Bytes.capacity 3
  length_block : block.length < Bytes.capacity 2

namespace RawEntry

/-- The certificate and the block, each behind its length. -/
def bytes (entry : RawEntry) : Bytes := field 3 entry.certificate ++ field 2 entry.block

theorem length_bytes (entry : RawEntry) :
    entry.bytes.length = 5 + entry.certificate.length + entry.block.length := by
  simp only [bytes, List.length_append, length_field]
  omega

/-- There is always something of an entry to read. -/
theorem append_eq_cons (entry : RawEntry) (rest : Bytes) :
    ∃ first others, entry.bytes ++ rest = first :: others := by
  apply List.exists_cons_of_length_pos
  rw [List.length_append, length_bytes]
  omega

/-- The reader of chains cannot tell one entry from the other: they have the same certificate, and
    of their blocks, which are of the same length, the same is read. -/
structure Alike (rules : CertificateRules) (entry entry' : RawEntry) : Prop where
  certificate : entry'.certificate = entry.certificate
  length_block : entry'.block.length = entry.block.length
  read : Staples.read rules entry'.block = Staples.read rules entry.block

theorem Alike.length_bytes {entry entry' : RawEntry} (h : Alike rules entry entry') :
    entry'.bytes.length = entry.bytes.length := by
  rw [RawEntry.length_bytes, RawEntry.length_bytes, h.certificate, h.length_block]

end RawEntry

/-- What comes of an entry at the front of a list. -/
theorem readEntry_append (entry : RawEntry) (rest : Bytes) :
    readEntry (entry.bytes ++ rest)
      = if entry.certificate.isEmpty then .error .certificateLength
        else .ok (entry.certificate, entry.block, rest) := by
  have hfields : entryFields.run (entry.bytes ++ rest)
      = (some (entry.certificate, entry.block), rest) :=
    run_entryFields_eq_iff.2 ⟨entry.length_certificate, entry.length_block, rfl⟩
  rw [readEntry, hfields]

theorem readIssuers_append (entry : RawEntry) (rest : Bytes) (fuel : Nat) (read : List Bytes) :
    readIssuers rules (fuel + 1) read (entry.bytes ++ rest)
      = if entry.certificate.isEmpty then .error .certificateLength
        else match Staples.read rules entry.block with
          | .error e => .error e
          | .ok _ => readIssuers rules fuel (entry.certificate :: read) rest := by
  have hentry := readEntry_append entry rest
  obtain ⟨first, others, hcons⟩ := entry.append_eq_cons rest
  rw [hcons] at hentry ⊢
  rw [readIssuers, hentry]
  · cases entry.certificate.isEmpty <;> rfl
  · exact List.cons_ne_nil first others

theorem readList_append (entry : RawEntry) (rest : Bytes) :
    readList rules (entry.bytes ++ rest)
      = if entry.certificate.isEmpty then .error .certificateLength
        else do
          let key ← readLeafKey entry.certificate
          let staples ← Staples.read rules entry.block
          let certificates ← readIssuers rules rest.length [entry.certificate] rest
          return ⟨certificates, some key, staples⟩ := by
  have hentry := readEntry_append entry rest
  obtain ⟨first, others, hcons⟩ := entry.append_eq_cons rest
  rw [hcons] at hentry ⊢
  simp only [readList, hentry]
  cases entry.certificate.isEmpty <;> rfl

section Alike

variable {entry entry' : RawEntry}

/-- After the leaf, an entry can stand for one that is alike, at any place. -/
theorem readIssuers_alike (halike : entry.Alike rules entry') (before : List RawEntry)
    (after : Bytes) (fuel : Nat) (read : List Bytes) :
    readIssuers rules fuel read (before.flatMap RawEntry.bytes ++ (entry'.bytes ++ after))
      = readIssuers rules fuel read (before.flatMap RawEntry.bytes ++ (entry.bytes ++ after)) := by
  induction before generalizing fuel read with
  | nil =>
      rw [List.flatMap_nil, List.nil_append, List.nil_append]
      cases fuel with
      | zero =>
          obtain ⟨_, _, hcons⟩ := entry.append_eq_cons after
          obtain ⟨_, _, hcons'⟩ := entry'.append_eq_cons after
          rw [hcons, hcons']
          rfl
      | succ fuel =>
          rw [readIssuers_append, readIssuers_append, halike.certificate, halike.read]
  | cons first before ih =>
      rw [List.flatMap_cons, List.append_assoc, List.append_assoc]
      cases fuel with
      | zero =>
          obtain ⟨_, _, hcons⟩ := first.append_eq_cons
            (before.flatMap RawEntry.bytes ++ (entry.bytes ++ after))
          obtain ⟨_, _, hcons'⟩ := first.append_eq_cons
            (before.flatMap RawEntry.bytes ++ (entry'.bytes ++ after))
          rw [hcons, hcons']
          rfl
      | succ fuel =>
          rw [readIssuers_append, readIssuers_append]
          simp only [ih]

/-- In a list, an entry can stand for one that is alike, at any place. -/
theorem readList_alike (halike : entry.Alike rules entry') (before : List RawEntry)
    (after : Bytes) :
    readList rules (before.flatMap RawEntry.bytes ++ (entry'.bytes ++ after))
      = readList rules (before.flatMap RawEntry.bytes ++ (entry.bytes ++ after)) := by
  cases before with
  | nil =>
      rw [List.flatMap_nil, List.nil_append, List.nil_append, readList_append, readList_append,
        halike.certificate, halike.read]
  | cons leaf before =>
      have hlength : (before.flatMap RawEntry.bytes ++ (entry'.bytes ++ after)).length
          = (before.flatMap RawEntry.bytes ++ (entry.bytes ++ after)).length := by
        simp only [List.length_append, halike.length_bytes]
      rw [List.flatMap_cons, List.append_assoc, List.append_assoc, readList_append,
        readList_append, hlength]
      simp only [readIssuers_alike halike]

end Alike

/-! ## Bodies -/

/-- What comes of a body with a context and a list in it. -/
theorem decode_framed {context list : Bytes} (hcontext : context.length < Bytes.capacity 1)
    (hlist : list.length < Bytes.capacity 3) (trailing : Bytes) :
    decode rules (field 1 context ++ (field 3 list ++ trailing))
      = if !context.isEmpty then .error (.decode .requestContext)
        else if trailing.isEmpty then readList rules list
        else .error (.decode .trailingData) := by
  have hfirst : (Reader.vector 1).run (field 1 context ++ (field 3 list ++ trailing))
      = (some context, field 3 list ++ trailing) := run_vector_eq_iff.2 ⟨hcontext, rfl⟩
  have hsecond : (Reader.vector 3).run (field 3 list ++ trailing) = (some list, trailing) :=
    run_vector_eq_iff.2 ⟨hlist, rfl⟩
  rw [decode, hfirst]
  simp only [hsecond]
  cases trailing <;> rfl

/-- The place of an entry in a body: all that stands around it. The entries before it and the bytes
    after it may be of any kind, and so may the context and what follows the list. -/
structure EntryPlace where
  context : Bytes
  before : List RawEntry
  after : Bytes
  trailing : Bytes

namespace EntryPlace

/-- The list with an entry at its place. -/
def list (place : EntryPlace) (entry : RawEntry) : Bytes :=
  place.before.flatMap RawEntry.bytes ++ (entry.bytes ++ place.after)

/-- The body with an entry at its place. -/
def body (place : EntryPlace) (entry : RawEntry) : Bytes :=
  field 1 place.context ++ (field 3 (place.list entry) ++ place.trailing)

/-- The context and the list with the entry have a length. -/
structure Fits (place : EntryPlace) (entry : RawEntry) : Prop where
  context : place.context.length < Bytes.capacity 1
  list : (place.list entry).length < Bytes.capacity 3

variable {place : EntryPlace} {entry entry' : RawEntry}

theorem Fits.of_alike (hfits : place.Fits entry) (halike : entry.Alike rules entry') :
    place.Fits entry' := by
  refine ⟨hfits.context, ?_⟩
  have hlist := hfits.list
  simp only [EntryPlace.list, List.length_append, halike.length_bytes] at hlist ⊢
  exact hlist

/-- In a body, an entry can stand for one that is alike, at any place. -/
theorem decode_alike (hfits : place.Fits entry) (halike : entry.Alike rules entry') :
    decode rules (place.body entry') = decode rules (place.body entry) := by
  unfold body
  rw [decode_framed hfits.context hfits.list,
    decode_framed hfits.context (hfits.of_alike halike).list]
  unfold EntryPlace.list
  rw [readList_alike halike]

end EntryPlace

/-- The extensions of an entry can be put in any order: what a body is read as stays the same chain
    or the same error, at whatever place in it the entry stands. -/
theorem decode_of_reordered (place : EntryPlace) (entry : RawEntry)
    {extensions reordered : List Extension} (hfits : place.Fits entry)
    (hread : Extension.parse rules.extensions entry.block = .ok extensions)
    (horder : reordered.Perm extensions) :
    ∃ entry' : RawEntry, entry'.certificate = entry.certificate
      ∧ Extension.encodeAll reordered = .ok entry'.block
      ∧ place.Fits entry'
      ∧ decode rules (place.body entry') = decode rules (place.body entry) := by
  obtain ⟨block', hencode, hlength, hread'⟩ := Extension.exists_reordered hread horder
  let entry' : RawEntry :=
    ⟨entry.certificate, block', entry.length_certificate, hlength ▸ entry.length_block⟩
  have halike : entry.Alike rules entry' :=
    ⟨rfl, hlength, Staples.read_reordered hread hread' horder⟩
  exact ⟨entry', rfl, hencode, hfits.of_alike halike, EntryPlace.decode_alike hfits halike⟩

end CertificateChain

namespace Rehearsal

open CertificateChain

/-- The server's leaf, and nothing stapled to it. -/
def bareLeaf : RawEntry :=
  ⟨certificate (key .server), [], by decide +kernel, by decide +kernel⟩

/-- Timestamps that are not framed, an extension of another type, and a status without a
    response. -/
def faultyExtensions : List Extension :=
  [⟨.signedCertificateTimestamp, [0]⟩, ⟨⟨42⟩, [8]⟩, ⟨.statusRequest, [1]⟩]

/-- An issuer with these extensions. -/
def faultyIssuer : RawEntry :=
  ⟨[7], Extension.block faultyExtensions, by decide, by decide⟩

/-- Its place, after the leaf and before bytes that are no entry. -/
def issuerPlace : EntryPlace := ⟨[], [bareLeaf], [0, 9], []⟩

set_option maxRecDepth 100000 in
/-- Of the two faults it is the status that is complained of, also if it comes first. -/
theorem faultyIssuer_reordered :
    let decoded := fun entry => decode clientRules (issuerPlace.body entry)
    decoded faultyIssuer = .error (.decode .statusRequest)
    ∧ ∃ entry' : RawEntry, entry'.certificate = [7]
      ∧ Extension.encodeAll faultyExtensions.reverse = .ok entry'.block
      ∧ issuerPlace.Fits entry' ∧ decoded entry' = decoded faultyIssuer := by
  intro decoded
  have hfits : issuerPlace.Fits faultyIssuer := ⟨by decide, by decide +kernel⟩
  have hread : Extension.parse clientRules.extensions faultyIssuer.block = .ok faultyExtensions := by
    decide +kernel
  exact ⟨by decide +kernel,
    decode_of_reordered issuerPlace faultyIssuer hfits hread (List.reverse_perm faultyExtensions)⟩

end Rehearsal

end TlsHandshake
