import TlsHandshake.Proofs.Codec

set_option autoImplicit false

/-! # The grammar of a certificate body

A body is an empty context and a list of entries behind its length; an entry is a certificate and a
block of extensions, each behind its length, and an extension is a type and its data behind a
length. `CertificateChain.IsBody` says so from the outside, by what would be written for given
entries, and `Entry.Allowed` says what is demanded of each entry. Main statement:
`CertificateChain.decode_eq_ok_iff`, the reader accepts the bodies of allowed entries whose leaf has
a key that may sign, and no others, and what it returns is read off the entries.

Each level of the reader is described by one equivalence, from the length-prefixed field
(`run_vector_eq_iff`) over the extensions of a block (`Extension.parse_eq_ok_iff`), what is stapled
(`Staples.read_eq_ok_iff`) and the entries (`CertificateChain.readEntry_eq_ok_iff`,
`CertificateChain.readIssuers_eq_ok_iff`) up to the body. -/

namespace TlsHandshake

/-! ## Fields behind their length -/

/-- A body behind its length in `width` bytes. -/
def field (width : Nat) (body : Bytes) : Bytes := Bytes.ofNat width body.length ++ body

@[simp] theorem length_field (width : Nat) (body : Bytes) :
    (field width body).length = width + body.length := by
  simp [field]

theorem field_inj {width : Nat} {body body' : Bytes} (h : field width body = field width body') :
    body = body' :=
  (List.append_inj h (by simp)).2

/-- The lengths that can be written in two bytes. -/
theorem lt_capacity_two_iff {length : Nat} : length < Bytes.capacity 2 ↔ length ≤ 0xffff :=
  Nat.lt_succ_iff

/-! ## What a reader takes -/

section Readers

variable {bytes rest : Bytes}

theorem run_bind_eq_iff {α β : Type} {r : Reader α} {f : α → Reader β} {b : β} :
    Reader.run (r >>= f) bytes = (some b, rest)
      ↔ ∃ a mid, r.run bytes = (some a, mid) ∧ (f a).run mid = (some b, rest) := by
  rw [run_bind]
  rcases r.run bytes with ⟨_ | a, mid⟩
  · simp
  · constructor
    · intro h
      exact ⟨a, mid, rfl, h⟩
    · rintro ⟨a', mid', hrun, h⟩
      obtain ⟨ha, rfl⟩ := Prod.mk.inj hrun
      obtain rfl := Option.some.inj ha
      exact h

theorem run_pure_eq_iff {α : Type} {a b : α} :
    Reader.run (pure a) bytes = (some b, rest) ↔ a = b ∧ bytes = rest := by
  simp [run_pure]

theorem run_take_eq_iff {n : Nat} {taken : Bytes} :
    (Reader.take n).run bytes = (some taken, rest) ↔ taken.length = n ∧ bytes = taken ++ rest := by
  rw [Reader.run_take]
  constructor
  · intro h
    split at h
    · rename_i hn
      obtain ⟨htaken, rfl⟩ := Prod.mk.inj h
      obtain rfl := Option.some.inj htaken
      exact ⟨List.length_take_of_le hn, (List.take_append_drop n bytes).symm⟩
    · simp at h
  · rintro ⟨rfl, rfl⟩
    simp

theorem run_uint_eq_iff {width n : Nat} :
    (Reader.uint width).run bytes = (some n, rest)
      ↔ n < Bytes.capacity width ∧ bytes = Bytes.ofNat width n ++ rest := by
  rw [Reader.uint, run_bind_eq_iff]
  constructor
  · rintro ⟨digits, mid, htake, hpure⟩
    obtain ⟨rfl, rfl⟩ := run_take_eq_iff.1 htake
    obtain ⟨rfl, rfl⟩ := run_pure_eq_iff.1 hpure
    exact ⟨Bytes.toNat_lt digits, by rw [Bytes.ofNat_toNat]⟩
  · rintro ⟨hn, rfl⟩
    refine ⟨Bytes.ofNat width n, rest, run_take_eq_iff.2 ⟨by simp, rfl⟩, ?_⟩
    refine run_pure_eq_iff.2 ⟨?_, rfl⟩
    rw [Bytes.toNat_ofNat, Nat.mod_eq_of_lt hn]

/-- A length-prefixed field is read off such a field and off nothing else. -/
theorem run_vector_eq_iff {width : Nat} {body : Bytes} :
    (Reader.vector width).run bytes = (some body, rest)
      ↔ body.length < Bytes.capacity width ∧ bytes = field width body ++ rest := by
  rw [Reader.vector, run_bind_eq_iff]
  constructor
  · rintro ⟨length, mid, huint, htake⟩
    obtain ⟨rfl, rfl⟩ := run_take_eq_iff.1 htake
    obtain ⟨hlength, rfl⟩ := run_uint_eq_iff.1 huint
    exact ⟨hlength, by rw [field, List.append_assoc]⟩
  · rintro ⟨hlength, rfl⟩
    refine ⟨body.length, body ++ rest, run_uint_eq_iff.2 ⟨hlength, ?_⟩,
      run_take_eq_iff.2 ⟨rfl, rfl⟩⟩
    rw [field, List.append_assoc]

end Readers

/-! ## Extension blocks -/

namespace Extension

variable {policy : ExtensionPolicy} {seen : List ExtensionType} {body : Bytes}
  {extensions : List Extension}

/-- An extension as it stands in a block. -/
def bytes (e : Extension) : Bytes := Bytes.ofNat 2 e.type.code.toNat ++ field 2 e.data

/-- A block of extensions. -/
def block (extensions : List Extension) : Bytes := extensions.flatMap bytes

@[simp] theorem length_bytes (e : Extension) : e.bytes.length = 4 + e.data.length := by
  simp [bytes]
  omega

@[simp] theorem block_nil : block [] = [] := rfl

@[simp] theorem block_cons (e : Extension) (es : List Extension) :
    block (e :: es) = e.bytes ++ block es := rfl

/-- The data of an extension is not longer than the block it stands in. -/
theorem length_data_le_block {e : Extension} (he : e ∈ extensions) :
    e.data.length ≤ (block extensions).length := by
  induction extensions with
  | nil => cases he
  | cons first others ih =>
      rw [block_cons, List.length_append, length_bytes]
      rcases List.mem_cons.1 he with rfl | he
      · omega
      · have := ih he
        omega

/-- What is demanded of the extensions that follow those of the types in `seen`. -/
structure Admitted (policy : ExtensionPolicy) (seen : List ExtensionType)
    (extensions : List Extension) : Prop where
  recognized : ∀ e ∈ extensions, policy.recognizes e.type = true
  distinct : (extensions.map Extension.type).Nodup
  unseen : ∀ e ∈ extensions, e.type ∉ seen

theorem admitted_nil : Admitted policy seen [] := ⟨nofun, List.nodup_nil, nofun⟩

theorem admitted_cons_iff {e : Extension} :
    Admitted policy seen (e :: extensions)
      ↔ policy.recognizes e.type = true ∧ e.type ∉ seen
        ∧ Admitted policy (e.type :: seen) extensions := by
  constructor
  · rintro ⟨hrecognized, hdistinct, hunseen⟩
    rw [List.map_cons, List.nodup_cons] at hdistinct
    rw [List.forall_mem_cons] at hrecognized hunseen
    refine ⟨hrecognized.1, hunseen.1, hrecognized.2, hdistinct.2, ?_⟩
    intro e' he' hseen
    rcases List.mem_cons.1 hseen with heq | hseen
    · exact hdistinct.1 (heq ▸ List.mem_map_of_mem he')
    · exact hunseen.2 e' he' hseen
  · rintro ⟨hrecognized, hunseen, hrest⟩
    refine ⟨List.forall_mem_cons.2 ⟨hrecognized, hrest.recognized⟩, ?_,
      List.forall_mem_cons.2 ⟨hunseen, fun e' he' hseen =>
        hrest.unseen e' he' (List.mem_cons_of_mem _ hseen)⟩⟩
    rw [List.map_cons, List.nodup_cons]
    refine ⟨?_, hrest.distinct⟩
    intro hmem
    obtain ⟨e', he', htype⟩ := List.mem_map.1 hmem
    exact hrest.unseen e' he' (htype ▸ List.mem_cons_self ..)

theorem check_eq_ok_iff {type : ExtensionType} {length : Nat} {rest : Bytes} :
    check policy seen type length rest = .ok ()
      ↔ length ≤ rest.length ∧ policy.recognizes type = true ∧ type ∉ seen := by
  rw [check, Bytes.spans_eq_decide]
  by_cases hlength : length ≤ rest.length
  · by_cases hknown : policy.recognizes type = true
    · by_cases hseen : type ∈ seen <;> simp [hlength, hknown, hseen]
    · simp [hlength, hknown]
  · simp [hlength]

/-- The four bytes before the data of an extension, as numbers. -/
theorem bytes_eq_cons (e : Extension) (hdata : e.data.length < Bytes.capacity 2) :
    ∃ t1 t0 l1 l0, e.bytes = t1 :: t0 :: l1 :: l0 :: e.data
      ∧ e.type = ⟨UInt16.ofNat (Bytes.toNat [t1, t0])⟩ ∧ e.data.length = Bytes.toNat [l1, l0] := by
  refine ⟨_, _, _, _, rfl, ?_, ?_⟩
  · have htype := Bytes.toNat_ofNat 2 e.type.code.toNat
    rw [Nat.mod_eq_of_lt (show _ < Bytes.capacity 2 from e.type.code.toNat_lt)] at htype
    simp only [Bytes.ofNat] at htype
    rw [htype, UInt16.ofNat_toNat]
  · have hlength := Bytes.toNat_ofNat 2 e.data.length
    rw [Nat.mod_eq_of_lt hdata] at hlength
    exact hlength.symm

theorem readAll_block (h : Admitted policy seen extensions)
    (hdata : ∀ e ∈ extensions, e.data.length < Bytes.capacity 2) :
    readAll policy seen (block extensions) = .ok extensions := by
  induction extensions generalizing seen with
  | nil => rw [block_nil, readAll]
  | cons e es ih =>
      obtain ⟨hrecognized, hunseen, hrest⟩ := admitted_cons_iff.1 h
      rw [List.forall_mem_cons] at hdata
      obtain ⟨t1, t0, l1, l0, hbytes, htype, hlength⟩ := bytes_eq_cons e hdata.1
      have hcheck : check policy seen e.type e.data.length (e.data ++ block es)
          = .ok () :=
        check_eq_ok_iff.2 ⟨by simp, hrecognized, hunseen⟩
      rw [block_cons, hbytes, List.cons_append, List.cons_append, List.cons_append,
        List.cons_append, readAll]
      simp only [← htype, ← hlength, hcheck, List.take_left', List.drop_left', ih hrest hdata.2]
      rfl

theorem block_of_readAll (h : readAll policy seen body = .ok extensions) :
    body = block extensions ∧ Admitted policy seen extensions := by
  fun_induction readAll policy seen body generalizing extensions with
  | case1 seen =>
      obtain rfl : [] = extensions := Except.ok.inj h
      exact ⟨rfl, admitted_nil⟩
  | case2 seen t1 t0 l1 l0 rest type length =>
      rename_i ih
      obtain ⟨_, hcheck, h⟩ := bind_eq_ok_iff.1 h
      obtain ⟨others, hothers, h⟩ := bind_eq_ok_iff.1 h
      obtain rfl : ⟨type, rest.take length⟩ :: others = extensions := Except.ok.inj h
      obtain ⟨hlength, hrecognized, hunseen⟩ := check_eq_ok_iff.1 hcheck
      obtain ⟨hrest, hadmitted⟩ := ih hothers
      refine ⟨?_, admitted_cons_iff.2 ⟨hrecognized, hunseen, hadmitted⟩⟩
      -- both numbers of the header are written as they were read
      have htype : Bytes.ofNat 2 type.code.toNat = [t1, t0] := by
        have hlt := Bytes.toNat_lt [t1, t0]
        rw [UInt16.toNat_ofNat_of_lt' hlt]
        exact Bytes.ofNat_toNat [t1, t0]
      have hnumber : Bytes.ofNat 2 (rest.take length).length = [l1, l0] := by
        rw [List.length_take_of_le hlength]
        exact Bytes.ofNat_toNat [l1, l0]
      rw [block_cons, bytes, field, htype, hnumber, ← hrest]
      simp
  | case3 => cases h

/-- A block is read as the extensions it is made of, if the policy admits them. -/
theorem parse_eq_ok_iff (hlength : body.length < Bytes.capacity 2) :
    parse policy body = .ok extensions
      ↔ body = block extensions ∧ Admitted policy [] extensions := by
  constructor
  · exact block_of_readAll
  · rintro ⟨rfl, hadmitted⟩
    refine readAll_block hadmitted ?_
    intro e he
    exact Nat.lt_of_le_of_lt (length_data_le_block he) hlength

end Extension

/-! ## What is stapled -/

namespace Staples

variable {rules : CertificateRules} {extensions : List Extension} {data : Bytes}

/-- The data of the extension that carries a certificate status. -/
def statusData (response : Bytes) : Bytes := 1 :: field 3 response

theorem statusData_inj {response response' : Bytes}
    (h : statusData response = statusData response') : response = response' :=
  field_inj (List.cons.inj h).2

theorem run_statusFields_eq_iff {type : Nat} {response rest : Bytes} :
    statusFields.run data = (some (type, response), rest)
      ↔ type = 1 ∧ response.length < Bytes.capacity 3 ∧ data = statusData response ++ rest := by
  rw [statusFields, run_bind_eq_iff]
  constructor
  · rintro ⟨code, mid, huint, hrest⟩
    obtain ⟨_, rfl⟩ := run_uint_eq_iff.1 huint
    by_cases hcode : code = 1
    · subst hcode
      obtain ⟨body, mid', hvector, hpure⟩ := run_bind_eq_iff.1 hrest
      obtain ⟨hpair, rfl⟩ := run_pure_eq_iff.1 hpure
      obtain ⟨rfl, rfl⟩ := Prod.mk.inj hpair
      obtain ⟨hlength, rfl⟩ := run_vector_eq_iff.1 hvector
      exact ⟨rfl, hlength, rfl⟩
    · have hcode' : (code != 1) = true := by simpa using hcode
      rw [if_pos hcode'] at hrest
      cases hrest
  · rintro ⟨rfl, hlength, rfl⟩
    refine ⟨1, field 3 response ++ rest, run_uint_eq_iff.2 ⟨by decide, rfl⟩, ?_⟩
    exact run_bind_eq_iff.2 ⟨response, rest, run_vector_eq_iff.2 ⟨hlength, rfl⟩, rfl⟩

/-- A certificate status is read as the response that it was made of, which is not empty. -/
theorem statusResponse?_eq_some_iff {response : Bytes} :
    statusResponse? data = some response
      ↔ response ≠ [] ∧ response.length < Bytes.capacity 3 ∧ data = statusData response := by
  unfold statusResponse?
  constructor
  · intro h
    split at h
    · rename_i type read hrun
      obtain ⟨_, hlength, hdata⟩ := run_statusFields_eq_iff.1 hrun
      rw [List.append_nil] at hdata
      cases read with
      | nil => cases h
      | cons b bs =>
          obtain rfl := Option.some.inj h
          exact ⟨List.cons_ne_nil _ _, hlength, hdata⟩
    · cases h
  · rintro ⟨hne, hlength, rfl⟩
    have hrun : statusFields.run (statusData response) = (some (1, response), []) :=
      run_statusFields_eq_iff.2 ⟨rfl, hlength, (List.append_nil _).symm⟩
    rw [hrun]
    simp [hne]

theorem find?_eq_some_iff (hdistinct : (extensions.map Extension.type).Nodup)
    {type : ExtensionType} :
    find? extensions type = some data ↔ ⟨type, data⟩ ∈ extensions := by
  induction extensions with
  | nil => simp [find?]
  | cons e es ih =>
      rw [List.map_cons, List.nodup_cons] at hdistinct
      have ih := ih hdistinct.2
      obtain ⟨etype, edata⟩ := e
      by_cases htype : etype = type
      · subst htype
        have habsent : ⟨etype, data⟩ ∉ es := fun hmem =>
          hdistinct.1 (List.mem_map.2 ⟨_, hmem, rfl⟩)
        simp [find?, habsent, eq_comm]
      · simp only [find?] at ih
        simp [find?, htype, ih, Ne.symm htype]

/-- What is demanded of a stapled status: that a client asked for it, and that it holds a
    response. -/
def StatusAllowed (rules : CertificateRules) (data : Bytes) : Prop :=
  rules.isServer = false ∧ rules.ocspStapling = true
    ∧ ∃ response, response ≠ [] ∧ response.length < Bytes.capacity 3 ∧ data = statusData response

/-- What is demanded of stapled timestamps: that a client asked for them, and that they are well
    formed. -/
def TimestampsAllowed (rules : CertificateRules) (data : Bytes) : Prop :=
  rules.isServer = false ∧ rules.signedCertTimestamps = true ∧ rules.sctListValid data = true

theorem readStatus_eq_ok_iff {answer : Option Bytes} :
    readStatus rules extensions = .ok answer
      ↔ (∀ data, find? extensions .statusRequest = some data → StatusAllowed rules data)
        ∧ ∀ response, answer = some response
          ↔ find? extensions .statusRequest = some (statusData response) := by
  unfold readStatus
  cases hfind : find? extensions .statusRequest with
  | none =>
      cases answer with
      | none => simp
      | some response => simp
  | some data =>
      dsimp only
      constructor
      · intro h
        split at h
        · cases h
        · rename_i hasked
          split at h
          · cases h
          · rename_i response hresponse
            obtain rfl := Except.ok.inj h
            obtain ⟨hne, hlength, rfl⟩ := statusResponse?_eq_some_iff.1 hresponse
            refine ⟨?_, fun response' => ⟨fun h => ?_, fun h => ?_⟩⟩
            · rintro _ ⟨⟩
              rw [Bool.or_eq_true, Bool.not_eq_true', not_or] at hasked
              exact ⟨by simpa using hasked.1, by simpa using hasked.2, response, hne, hlength, rfl⟩
            · rw [Option.some.inj h]
            · rw [statusData_inj (Option.some.inj h)]
      · rintro ⟨hallowed, hanswer⟩
        obtain ⟨hclient, hasked, response, hne, hlength, rfl⟩ := hallowed data rfl
        rw [statusResponse?_eq_some_iff.2 ⟨hne, hlength, rfl⟩, (hanswer response).2 rfl]
        simp [hclient, hasked]

theorem readSctList_eq_ok_iff {answer : Option Bytes} :
    readSctList rules extensions = .ok answer
      ↔ (∀ data, find? extensions .signedCertificateTimestamp = some data →
          TimestampsAllowed rules data)
        ∧ ∀ list, answer = some list
          ↔ find? extensions .signedCertificateTimestamp = some list := by
  unfold readSctList
  cases hfind : find? extensions .signedCertificateTimestamp with
  | none =>
      cases answer with
      | none => simp
      | some list => simp
  | some data =>
      dsimp only
      constructor
      · intro h
        split at h
        · cases h
        · rename_i hasked
          split at h
          · cases h
          · rename_i hvalid
            obtain rfl := Except.ok.inj h
            refine ⟨?_, fun list => Iff.rfl⟩
            rintro _ ⟨⟩
            rw [Bool.or_eq_true, Bool.not_eq_true', not_or] at hasked
            exact ⟨by simpa using hasked.1, by simpa using hasked.2, by simpa using hvalid⟩
      · rintro ⟨hallowed, hanswer⟩
        obtain ⟨hclient, hasked, hvalid⟩ := hallowed data rfl
        rw [(hanswer data).2 rfl]
        simp [hclient, hasked, hvalid]

/-- What is demanded of the extensions of an entry. -/
structure Lawful (rules : CertificateRules) (extensions : List Extension) : Prop where
  recognized : ∀ e ∈ extensions, rules.extensions.recognizes e.type = true
  distinct : (extensions.map Extension.type).Nodup
  status : ∀ data, ⟨.statusRequest, data⟩ ∈ extensions → StatusAllowed rules data
  timestamps : ∀ data, ⟨.signedCertificateTimestamp, data⟩ ∈ extensions →
    TimestampsAllowed rules data

/-- What the extensions of an entry carry: the response in a certificate status, and a list of
    timestamps. -/
structure CarriedBy (extensions : List Extension) (staples : Staples) : Prop where
  status : ∀ response, staples.ocspResponse = some response
    ↔ ⟨.statusRequest, statusData response⟩ ∈ extensions
  timestamps : ∀ list, staples.sctList = some list
    ↔ ⟨.signedCertificateTimestamp, list⟩ ∈ extensions

/-- Lawful extensions carry something that can be kept. -/
theorem Lawful.exists_carriedBy (h : Lawful rules extensions) :
    ∃ staples, CarriedBy extensions staples := by
  have hstatus : ∃ answer : Option Bytes, ∀ response, answer = some response
      ↔ find? extensions .statusRequest = some (statusData response) := by
    cases hfind : find? extensions .statusRequest with
    | none => exact ⟨none, by simp⟩
    | some data =>
        obtain ⟨_, _, response, _, _, rfl⟩ := h.status data ((find?_eq_some_iff h.distinct).1 hfind)
        refine ⟨some response, fun response' => ?_⟩
        rw [Option.some.injEq, Option.some.injEq]
        exact ⟨congrArg statusData, statusData_inj⟩
  obtain ⟨ocspResponse, hstatus⟩ := hstatus
  simp only [find?_eq_some_iff h.distinct] at hstatus
  exact ⟨⟨ocspResponse, find? extensions .signedCertificateTimestamp⟩, hstatus,
    fun _ => find?_eq_some_iff h.distinct⟩

/-- An extension block is accepted if its extensions are lawful, and read as what they carry. -/
theorem read_eq_ok_iff {block : Bytes} {staples : Staples}
    (hlength : block.length < Bytes.capacity 2) :
    read rules block = .ok staples
      ↔ ∃ extensions, block = Extension.block extensions ∧ Lawful rules extensions
        ∧ CarriedBy extensions staples := by
  constructor
  · intro h
    obtain ⟨extensions, hparse, h⟩ := bind_eq_ok_iff.1 h
    obtain ⟨ocspResponse, hstatus, h⟩ := bind_eq_ok_iff.1 h
    obtain ⟨sctList, hsct, h⟩ := bind_eq_ok_iff.1 h
    obtain rfl := Except.ok.inj h
    obtain ⟨hblock, hrecognized, hdistinct, _⟩ := (Extension.parse_eq_ok_iff hlength).1 hparse
    rw [readStatus_eq_ok_iff] at hstatus
    rw [readSctList_eq_ok_iff] at hsct
    simp only [find?_eq_some_iff hdistinct] at hstatus hsct
    exact ⟨extensions, hblock, ⟨hrecognized, hdistinct, hstatus.1, hsct.1⟩, ⟨hstatus.2, hsct.2⟩⟩
  · rintro ⟨extensions, hblock, ⟨hrecognized, hdistinct, hstatus, hsct⟩, hcarried⟩
    refine bind_eq_ok_iff.2 ⟨extensions, ?_, bind_eq_ok_iff.2 ⟨staples.ocspResponse, ?_,
      bind_eq_ok_iff.2 ⟨staples.sctList, ?_, rfl⟩⟩⟩
    · exact (Extension.parse_eq_ok_iff hlength).2 ⟨hblock, hrecognized, hdistinct, nofun⟩
    · rw [readStatus_eq_ok_iff]
      simp only [find?_eq_some_iff hdistinct]
      exact ⟨hstatus, hcarried.status⟩
    · rw [readSctList_eq_ok_iff]
      simp only [find?_eq_some_iff hdistinct]
      exact ⟨hsct, hcarried.timestamps⟩

end Staples

/-! ## Entries -/

namespace CertificateChain

variable {rules : CertificateRules} {list : Bytes}

/-- An entry of a certificate list, taken apart. -/
structure Entry where
  certificate : Bytes
  extensions : List Extension

namespace Entry

/-- An entry as it stands in a list. -/
def bytes (entry : Entry) : Bytes :=
  field 3 entry.certificate ++ field 2 (Extension.block entry.extensions)

/-- What is demanded of each entry. -/
structure Allowed (rules : CertificateRules) (entry : Entry) : Prop where
  ne_nil : entry.certificate ≠ []
  length_certificate : entry.certificate.length < Bytes.capacity 3
  length_block : (Extension.block entry.extensions).length < Bytes.capacity 2
  lawful : Staples.Lawful rules entry.extensions

theorem length_bytes_pos (entry : Entry) : 0 < entry.bytes.length := by
  rw [bytes, List.length_append, length_field]
  omega

theorem bytes_append_ne_nil (entry : Entry) (rest : Bytes) : entry.bytes ++ rest ≠ [] := by
  intro h
  have hpos := entry.length_bytes_pos
  rw [(List.append_eq_nil_iff.1 h).1] at hpos
  exact absurd hpos (Nat.lt_irrefl 0)

end Entry

/-- The fields of an entry are read off its certificate and its block, each behind its length. -/
theorem run_entryFields_eq_iff {certificate block rest : Bytes} :
    entryFields.run list = (some (certificate, block), rest)
      ↔ certificate.length < Bytes.capacity 3 ∧ block.length < Bytes.capacity 2
        ∧ list = field 3 certificate ++ field 2 block ++ rest := by
  rw [entryFields, run_bind_eq_iff]
  constructor
  · rintro ⟨certificate', mid, hfirst, hrest⟩
    obtain ⟨block', mid', hsecond, hpure⟩ := run_bind_eq_iff.1 hrest
    obtain ⟨hpair, rfl⟩ := run_pure_eq_iff.1 hpure
    obtain ⟨rfl, rfl⟩ := Prod.mk.inj hpair
    obtain ⟨hcertificate, rfl⟩ := run_vector_eq_iff.1 hfirst
    obtain ⟨hblock, rfl⟩ := run_vector_eq_iff.1 hsecond
    exact ⟨hcertificate, hblock, (List.append_assoc ..).symm⟩
  · rintro ⟨hcertificate, hblock, rfl⟩
    rw [List.append_assoc]
    exact ⟨_, _, run_vector_eq_iff.2 ⟨hcertificate, rfl⟩,
      run_bind_eq_iff.2 ⟨_, _, run_vector_eq_iff.2 ⟨hblock, rfl⟩, rfl⟩⟩

theorem readEntry_eq_ok_iff {certificate block rest : Bytes} :
    readEntry list = .ok (certificate, block, rest)
      ↔ certificate ≠ [] ∧ certificate.length < Bytes.capacity 3
        ∧ block.length < Bytes.capacity 2
        ∧ list = field 3 certificate ++ field 2 block ++ rest := by
  rw [readEntry]
  constructor
  · intro h
    split at h
    · rename_i certificate' block' rest' hrun
      split at h
      · cases h
      · rename_i hne
        obtain ⟨rfl, rfl, rfl⟩ : certificate' = certificate ∧ block' = block ∧ rest' = rest := by
          simpa using h
        exact ⟨by simpa using hne, run_entryFields_eq_iff.1 hrun⟩
    · cases h
  · rintro ⟨hne, hread⟩
    rw [run_entryFields_eq_iff.2 hread]
    simp [hne]

/-- One entry is read off the front of a list if it is allowed. -/
theorem readEntry_read_iff {certificate rest : Bytes} {staples : Staples} :
    (∃ block, readEntry list = .ok (certificate, block, rest)
        ∧ Staples.read rules block = .ok staples)
      ↔ ∃ entry : Entry, entry.certificate = certificate ∧ entry.Allowed rules
        ∧ Staples.CarriedBy entry.extensions staples ∧ list = entry.bytes ++ rest := by
  constructor
  · rintro ⟨block, hentry, hstaples⟩
    obtain ⟨hne, hcertificate, hblock, rfl⟩ := readEntry_eq_ok_iff.1 hentry
    obtain ⟨extensions, rfl, hlawful, hcarried⟩ := (Staples.read_eq_ok_iff hblock).1 hstaples
    exact ⟨⟨certificate, extensions⟩, rfl, ⟨hne, hcertificate, hblock, hlawful⟩, hcarried, rfl⟩
  · rintro ⟨entry, rfl, hallowed, hcarried, rfl⟩
    refine ⟨Extension.block entry.extensions, ?_, ?_⟩
    · exact readEntry_eq_ok_iff.2
        ⟨hallowed.ne_nil, hallowed.length_certificate, hallowed.length_block, rfl⟩
    · exact (Staples.read_eq_ok_iff hallowed.length_block).2
        ⟨_, rfl, hallowed.lawful, hcarried⟩

/-- An allowed entry is taken off the list, whatever follows it. -/
theorem readIssuers_bytes_append {entry : Entry} (hallowed : entry.Allowed rules) {fuel : Nat}
    {before : List Bytes} {rest : Bytes} :
    readIssuers rules (fuel + 1) before (entry.bytes ++ rest)
      = readIssuers rules fuel (entry.certificate :: before) rest := by
  obtain ⟨staples, hcarried⟩ := hallowed.lawful.exists_carriedBy
  obtain ⟨block, hentry, hstaples⟩ := readEntry_read_iff.2
    ⟨entry, rfl, hallowed, hcarried, Eq.refl (entry.bytes ++ rest)⟩
  rw [readIssuers, hentry]
  · simp only [hstaples]
  · exact entry.bytes_append_ne_nil rest

/-- The entries after the leaf as they are read, given fuel enough. -/
theorem readIssuers_eq_ok_iff {fuel : Nat} {before certificates : List Bytes}
    (hfuel : list.length ≤ fuel) :
    readIssuers rules fuel before list = .ok certificates
      ↔ ∃ entries : List Entry, list = entries.flatMap Entry.bytes
        ∧ (∀ entry ∈ entries, entry.Allowed rules)
        ∧ certificates = before.reverse ++ entries.map Entry.certificate := by
  constructor
  · clear hfuel
    intro h
    fun_induction readIssuers rules fuel before list with
    | case1 fuel before =>
        refine ⟨[], rfl, nofun, ?_⟩
        rw [List.map_nil, List.append_nil]
        exact (Except.ok.inj h).symm
    | case2 => cases h
    | case3 => cases h
    | case4 => cases h
    | case5 before list hne fuel certificate block rest hentry staples hstaples ih =>
        obtain ⟨entry, rfl, hallowed, _, rfl⟩ := readEntry_read_iff.1 ⟨block, hentry, hstaples⟩
        obtain ⟨entries, rfl, hentries, rfl⟩ := ih h
        refine ⟨entry :: entries, rfl, List.forall_mem_cons.2 ⟨hallowed, hentries⟩, ?_⟩
        simp
  · rintro ⟨entries, rfl, hentries, rfl⟩
    induction entries generalizing fuel before with
    | nil => simp [readIssuers]
    | cons entry entries ih =>
        obtain ⟨hallowed, hentries⟩ := List.forall_mem_cons.1 hentries
        have hpos := entry.length_bytes_pos
        rw [List.flatMap_cons, List.length_append] at hfuel
        obtain ⟨fuel, rfl⟩ := Nat.exists_eq_add_one.2 (show 0 < fuel by omega)
        rw [List.flatMap_cons, readIssuers_bytes_append hallowed, ih (by omega) hentries]
        simp

/-! ## Bodies -/

/-- The body that holds a list of entries: an empty context, and the entries behind their length. -/
structure IsBody (entries : List Entry) (body : Bytes) : Prop where
  length_list : (entries.flatMap Entry.bytes).length < Bytes.capacity 3
  eq_bytes : body = 0 :: field 3 (entries.flatMap Entry.bytes)

/-- What a list of entries says: nothing if there are none; else its certificates, of the first
    certificate the key, which may sign, and of the first entry what its extensions carry. -/
inductive Says : List Entry → CertificateChain → Prop
  | nil : Says [] {}
  | cons {leaf : Entry} {issuers : List Entry} {certificate : X509.Certificate} {key : PublicKey}
      {staples : Staples}
      (hcertificate : PublicKey.readCertificate leaf.certificate = .ok certificate)
      (hkey : PublicKey.ofCertificate certificate = .ok key)
      (hsign : certificate.maySign = .ok true)
      (hcarried : Staples.CarriedBy leaf.extensions staples) :
      Says (leaf :: issuers) ⟨(leaf :: issuers).map Entry.certificate, some key, staples⟩

theorem readLeafKey_eq_ok_iff {der : Bytes} {key : PublicKey} :
    readLeafKey der = .ok key
      ↔ ∃ leaf, PublicKey.readCertificate der = .ok leaf ∧ PublicKey.ofCertificate leaf = .ok key
        ∧ leaf.maySign = .ok true := by
  have hmap : ∀ {α : Type} {x : Except CertificateFault α} {a : α},
      x.mapError (fun fault => Error.decode (.leafPublicKey fault)) = .ok a ↔ x = .ok a := by
    intro α x a
    cases x with
    | ok b =>
        exact ⟨fun h => congrArg Except.ok (Except.ok.inj h),
          fun h => congrArg Except.ok (Except.ok.inj h)⟩
    | error fault => constructor <;> intro h <;> cases h
  constructor
  · intro h
    obtain ⟨leaf, hleaf, h⟩ := bind_eq_ok_iff.1 h
    obtain ⟨key', hkey, h⟩ := bind_eq_ok_iff.1 h
    split at h
    · cases h
    · cases h
    · rename_i hsign
      obtain rfl := Except.ok.inj h
      exact ⟨leaf, hmap.1 hleaf, hmap.1 hkey, hsign⟩
  · rintro ⟨leaf, hleaf, hkey, hsign⟩
    refine bind_eq_ok_iff.2 ⟨leaf, hmap.2 hleaf, bind_eq_ok_iff.2 ⟨key, hmap.2 hkey, ?_⟩⟩
    rw [hsign]
    rfl

theorem readList_eq_ok_iff {out : CertificateChain} :
    readList rules list = .ok out
      ↔ ∃ entries : List Entry, list = entries.flatMap Entry.bytes
        ∧ (∀ entry ∈ entries, entry.Allowed rules) ∧ Says entries out := by
  constructor
  · intro h
    unfold readList at h
    split at h
    · obtain rfl := Except.ok.inj h
      exact ⟨[], rfl, nofun, .nil⟩
    · obtain ⟨⟨certificate, block, rest⟩, hentry, h⟩ := bind_eq_ok_iff.1 h
      obtain ⟨key, hkey, h⟩ := bind_eq_ok_iff.1 h
      obtain ⟨staples, hstaples, h⟩ := bind_eq_ok_iff.1 h
      obtain ⟨certificates, hissuers, h⟩ := bind_eq_ok_iff.1 h
      obtain rfl := Except.ok.inj h
      obtain ⟨leaf, rfl, hallowed, hcarried, rfl⟩ :=
        readEntry_read_iff.1 ⟨block, hentry, hstaples⟩
      obtain ⟨issuers, rfl, hothers, rfl⟩ := (readIssuers_eq_ok_iff (Nat.le_refl _)).1 hissuers
      obtain ⟨x509, hx509, hkey, hsign⟩ := readLeafKey_eq_ok_iff.1 hkey
      exact ⟨leaf :: issuers, rfl, List.forall_mem_cons.2 ⟨hallowed, hothers⟩,
        .cons hx509 hkey hsign hcarried⟩
  · rintro ⟨entries, rfl, hentries, hsays⟩
    cases hsays with
    | nil => rfl
    | @cons leaf issuers certificate key staples hcertificate hkey hsign hcarried =>
        obtain ⟨hallowed, hissuers⟩ := List.forall_mem_cons.1 hentries
        obtain ⟨block, hentry, hstaples⟩ := readEntry_read_iff.2
          ⟨leaf, rfl, hallowed, hcarried, List.flatMap_cons⟩
        unfold readList
        split
        · exact absurd ‹_› (leaf.bytes_append_ne_nil _)
        · exact bind_eq_ok_iff.2 ⟨_, hentry, bind_eq_ok_iff.2 ⟨key,
            readLeafKey_eq_ok_iff.2 ⟨certificate, hcertificate, hkey, hsign⟩,
            bind_eq_ok_iff.2 ⟨staples, hstaples, bind_eq_ok_iff.2 ⟨_,
              (readIssuers_eq_ok_iff (Nat.le_refl _)).2 ⟨issuers, rfl, hissuers, rfl⟩, rfl⟩⟩⟩⟩

/-- A body is accepted if it holds entries each of which is allowed and of which the leaf has a key
    that may sign, and is read as what the entries say. -/
theorem decode_eq_ok_iff (rules : CertificateRules) (body : Bytes) (out : CertificateChain) :
    decode rules body = .ok out
      ↔ ∃ entries : List Entry, IsBody entries body ∧ (∀ entry ∈ entries, entry.Allowed rules)
        ∧ Says entries out := by
  constructor
  · intro h
    unfold decode at h
    split at h
    · cases h
    · rename_i context rest hcontext
      split at h
      · cases h
      · rename_i hempty
        obtain rfl : context = [] := by simpa using hempty
        obtain ⟨_, rfl⟩ := run_vector_eq_iff.1 hcontext
        split at h
        · cases h
        · rename_i list hlist
          obtain ⟨hlength, rfl⟩ := run_vector_eq_iff.1 hlist
          obtain ⟨entries, rfl, hallowed, hsays⟩ := readList_eq_ok_iff.1 h
          exact ⟨entries, ⟨hlength, by rw [List.append_nil]; rfl⟩, hallowed, hsays⟩
        · cases h
  · rintro ⟨entries, ⟨hlength, rfl⟩, hallowed, hsays⟩
    have hcontext : (Reader.vector 1).run (0 :: field 3 (entries.flatMap Entry.bytes))
        = (some [], field 3 (entries.flatMap Entry.bytes)) :=
      run_vector_eq_iff.2 ⟨by decide, rfl⟩
    have hlist : (Reader.vector 3).run (field 3 (entries.flatMap Entry.bytes))
        = (some (entries.flatMap Entry.bytes), []) :=
      run_vector_eq_iff.2 ⟨hlength, (List.append_nil _).symm⟩
    rw [decode, hcontext]
    simp only [List.isEmpty_nil, Bool.not_true, hlist]
    exact readList_eq_ok_iff.2 ⟨entries, rfl, hallowed, hsays⟩

end CertificateChain

end TlsHandshake
