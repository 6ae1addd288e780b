import TlsHandshake.Proofs.Framing

set_option autoImplicit false

/-! # Where a message ends

`unframe?` is shown the bytes that have come in so far. It answers that a message is there, that it
is not there yet, or that no message can come of them. The first and the last of these are described
from the outside: a message is there if the bytes start with its frame (`unframe?_eq_message_iff`),
and none can come of them if they start with a whole header of a type that does not exist
(`unframe?_eq_error_iff`). Neither answer changes when more bytes come in (`unframe?_append`), and
from this alone it follows that a part of a frame is not taken for a message
(`unframe?_of_part`).

Main statement: `frames_delimited`. What is taken off a stream is what `unframe?` finds
(`take?_unframes`). -/

namespace TlsHandshake

variable {type : MessageType} {body raw stream : Bytes} {e : Error}

/-! ## Frames -/

theorem writeVector_eq_error_iff {width : Nat} :
    writeVector width body = .error e
      ↔ Bytes.capacity width ≤ body.length
        ∧ e = .internal (.fieldOverflow (8 * width) body.length) := by
  rw [writeVector]
  by_cases hlength : body.length < Bytes.capacity width
  · rw [if_pos hlength]
    refine ⟨fun h => ?_, fun h => absurd hlength (Nat.not_lt.2 h.1)⟩
    cases h
  · rw [if_neg hlength, Except.error.injEq, eq_comm]
    exact ⟨fun h => ⟨Nat.not_lt.1 hlength, h⟩, And.right⟩

/-- A body that cannot be framed has no length in three bytes. -/
theorem frame_eq_error_iff :
    frame type body = .error e
      ↔ Bytes.capacity 3 ≤ body.length ∧ e = .internal (.fieldOverflow 24 body.length) := by
  have hvector : writeVector 3 body = .error e
      ↔ Bytes.capacity 3 ≤ body.length ∧ e = .internal (.fieldOverflow 24 body.length) :=
    writeVector_eq_error_iff
  rw [← hvector, frame]
  cases writeVector 3 body with
  | ok vector => exact ⟨nofun, nofun⟩
  | error e' => exact Iff.rfl

/-! ## Headers -/

theorem readHeader?_eq_some_iff {length : Nat} :
    readHeader? stream = .ok (some (type, length))
      ↔ length < Bytes.capacity 3
        ∧ ∃ rest, stream = type.code :: (Bytes.ofNat 3 length ++ rest) := by
  constructor
  · intro h
    unfold readHeader? at h
    split at h
    · rename_i code l2 l1 l0 rest
      split at h
      · cases h
      · rename_i type' htype
        obtain ⟨rfl, rfl⟩ := Prod.mk.inj (Option.some.inj (Except.ok.inj h))
        have hlength : Bytes.ofNat 3 (Bytes.toNat [l2, l1, l0]) = [l2, l1, l0] :=
          Bytes.ofNat_toNat [l2, l1, l0]
        refine ⟨Bytes.toNat_lt [l2, l1, l0], rest, ?_⟩
        rw [hlength, MessageType.ofCode?_eq_some_iff.1 htype]
        rfl
    · cases h
  · rintro ⟨hlength, rest, rfl⟩
    have hnumber : Bytes.toNat (Bytes.ofNat 3 length) = length := by
      rw [Bytes.toNat_ofNat, Nat.mod_eq_of_lt hlength]
    simp only [Bytes.ofNat] at hnumber
    simp only [Bytes.ofNat, List.cons_append, List.nil_append, readHeader?,
      MessageType.ofCode?_code, hnumber]

/-- A header is refused once all of it is there, if its first byte is no type. -/
theorem readHeader?_eq_error_iff :
    readHeader? stream = .error e
      ↔ ∃ code rest, stream = code :: rest ∧ headerLength ≤ stream.length
        ∧ (∀ type : MessageType, type.code ≠ code)
        ∧ e = .unexpectedMessage (.unknownType code) := by
  have hunknown (code : UInt8) :
      MessageType.ofCode? code = none ↔ ∀ type : MessageType, type.code ≠ code := by
    simp only [Option.eq_none_iff_forall_ne_some, ne_eq, MessageType.ofCode?_eq_some_iff]
  constructor
  · intro h
    unfold readHeader? at h
    split at h
    · rename_i code l2 l1 l0 rest
      split at h
      · rename_i hnone
        refine ⟨code, _, rfl, ?_, (hunknown code).1 hnone, (Except.error.inj h).symm⟩
        simp only [headerLength, List.length_cons]
        omega
      · cases h
    · cases h
  · rintro ⟨code, rest, rfl, hlength, hcode, rfl⟩
    rcases rest with _ | ⟨l2, _ | ⟨l1, _ | ⟨l0, rest⟩⟩⟩
    · simp [headerLength] at hlength
    · simp [headerLength] at hlength
    · simp [headerLength] at hlength
    · simp only [readHeader?, (hunknown code).2 hcode]

/-! ## What is found at the start of a byte string -/

theorem unframe?_eq :
    unframe? stream = (readHeader? stream).map fun header? => header?.bind fun (type, length) =>
      if length ≤ (stream.drop headerLength).length then
        some ⟨type, (stream.drop headerLength).take length, headerLength + length⟩
      else none := by
  rw [unframe?]
  rcases readHeader? stream with e | _ | ⟨type, length⟩
  · rfl
  · rfl
  · simp only [← Bytes.spans_iff]
    rfl

/-- A message is found exactly in the byte strings that start with its frame. -/
theorem unframe?_eq_message_iff {framed : Framed} :
    unframe? stream = .ok (some framed)
      ↔ ∃ raw rest, frame framed.type framed.body = .ok raw ∧ raw.length = framed.size
        ∧ stream = raw ++ rest := by
  constructor
  · intro h
    rw [unframe?_eq] at h
    rcases hheader : readHeader? stream with e | _ | ⟨type, length⟩ <;> rw [hheader] at h
    · cases h
    · cases h
    · obtain ⟨hlength, rest, rfl⟩ := readHeader?_eq_some_iff.1 hheader
      have hdrop : (type.code :: (Bytes.ofNat 3 length ++ rest)).drop headerLength = rest :=
        List.drop_left' (Bytes.length_ofNat 3 length)
      have h := Except.ok.inj h
      simp only [Option.bind_some, hdrop] at h
      split at h
      · rename_i hle
        obtain rfl := Option.some.inj h
        have hbody : (rest.take length).length = length := List.length_take_of_le hle
        have hframe : frame type (rest.take length)
            = .ok (type.code :: Bytes.ofNat 3 length ++ rest.take length) := by
          rw [frame_eq_ok_iff, hbody]
          exact ⟨hlength, rfl⟩
        refine ⟨_, rest.drop length, hframe, ?_, ?_⟩
        · rw [length_of_frame hframe, hbody]
        · rw [List.append_assoc, List.take_append_drop]
          rfl
      · cases h
  · rintro ⟨raw, rest, hframe, hsize, rfl⟩
    rw [unframe?_of_frame hframe rest, hsize]

/-- No message is found exactly where there is a whole header of a type that does not exist. -/
theorem unframe?_eq_error_iff :
    unframe? stream = .error e
      ↔ ∃ code rest, stream = code :: rest ∧ headerLength ≤ stream.length
        ∧ (∀ type : MessageType, type.code ≠ code)
        ∧ e = .unexpectedMessage (.unknownType code) := by
  rw [← readHeader?_eq_error_iff, unframe?_eq]
  cases readHeader? stream with
  | error e' => simp only [Except.map, Except.error.injEq]
  | ok header? => exact ⟨nofun, nofun⟩

/-- What has been found, or refused, stays so when more bytes come in. -/
theorem unframe?_append (hfound : unframe? stream ≠ .ok none) (later : Bytes) :
    unframe? (stream ++ later) = unframe? stream := by
  rcases hstream : unframe? stream with e | _ | framed
  · obtain ⟨code, rest, rfl, hlength, hcode, rfl⟩ := unframe?_eq_error_iff.1 hstream
    refine unframe?_eq_error_iff.2 ⟨code, rest ++ later, rfl, ?_, hcode, rfl⟩
    rw [List.length_append]
    exact Nat.le_add_right_of_le hlength
  · exact absurd hstream hfound
  · obtain ⟨raw, rest, hframe, hsize, rfl⟩ := unframe?_eq_message_iff.1 hstream
    exact unframe?_eq_message_iff.2 ⟨raw, rest ++ later, hframe, hsize, List.append_assoc ..⟩

/-- In a part of a frame nothing is found yet: it would be found in the frame as well, and be too
    short. -/
theorem unframe?_of_part {part : Bytes} (hframe : frame type body = .ok raw) (hpart : part <+: raw)
    (hne : part ≠ raw) : unframe? part = .ok none := by
  obtain ⟨later, rfl⟩ := hpart
  refine Classical.byContradiction fun hfound => ?_
  have hwhole := unframe?_of_frame hframe []
  rw [List.append_nil, unframe?_append hfound later] at hwhole
  obtain ⟨raw, rest, _, hsize, rfl⟩ := unframe?_eq_message_iff.1 hwhole
  have hnil : rest = [] ∧ later = [] := by
    simp only [List.length_append] at hsize
    exact ⟨List.length_eq_zero_iff.1 (by omega), List.length_eq_zero_iff.1 (by omega)⟩
  rw [hnil.2, List.append_nil] at hne
  exact hne rfl

/-- What `unframe?` finds at the start of a stream is what is taken off it, and nothing is taken if
    it finds nothing. -/
theorem take?_unframes (queue : ByteQueue) :
    ∃ queue', match unframe? queue.toBytes with
      | .error e =>
          Message.take? queue = .error e queue' ∧ queue'.toBytes = queue.toBytes
      | .ok none => Message.take? queue = .ok none queue' ∧ queue'.toBytes = queue.toBytes
      | .ok (some framed) =>
          Message.take? queue
            = .ok (some ⟨framed.type, framed.body, queue.toBytes.take framed.size⟩) queue'
          ∧ queue'.toBytes = queue.toBytes.drop framed.size := by
  have hgather := ByteQueue.toBytes_gather headerLength queue
  rw [take?_eq, unframe?_eq]
  rcases hheader : readHeader? queue.toBytes with e | _ | ⟨type, length⟩
  · exact ⟨_, rfl, hgather⟩
  · exact ⟨_, rfl, hgather⟩
  obtain ⟨_, rest, hbytes⟩ := readHeader?_eq_some_iff.1 hheader
  have hlength : queue.toBytes.length
      = headerLength + (queue.toBytes.drop headerLength).length := by
    rw [hbytes, List.length_drop, List.length_cons, List.length_append, Bytes.length_ofNat,
      headerLength]
    omega
  have hsize : (queue.gather headerLength).size = queue.toBytes.length := by
    rw [ByteQueue.size_gather, ByteQueue.size_eq_length]
  simp only [Except.map, Option.bind_some]
  cases htake : (queue.gather headerLength).take? (headerLength + length) with
  | none =>
      have hshort := ByteQueue.take?_eq_none_iff.1 htake
      have hle : ¬ length ≤ (queue.toBytes.drop headerLength).length := by omega
      rw [if_neg hle]
      exact ⟨_, rfl, hgather⟩
  | some taken =>
      obtain ⟨raw, queue'⟩ := taken
      obtain ⟨hraw, hrest⟩ := ByteQueue.toBytes_of_take? htake
      rw [hgather] at hraw hrest
      have hlong : ¬ (queue.gather headerLength).size < headerLength + length := by
        rw [← ByteQueue.take?_eq_none_iff, htake]
        exact Option.some_ne_none _
      have hle : length ≤ (queue.toBytes.drop headerLength).length := by omega
      have hbody : raw.drop headerLength = (queue.toBytes.drop headerLength).take length := by
        rw [hraw, List.drop_take, Nat.add_sub_cancel_left]
      rw [if_pos hle]
      exact ⟨queue', by dsimp only; rw [hbody, hraw], hrest⟩

/-! ## Both together -/

/-- A body is framed if its length can be written in three bytes, and is an internal error
    otherwise. A frame is found as soon as all of it is there, whatever follows it, and not before.
    What is found in any bytes is a frame that they start with; an error is found exactly where four
    bytes are there of which the first is no type; and whatever is found stays when more bytes come
    in. -/
theorem frames_delimited :
    (∀ type body,
      ((∃ raw, frame type body = .ok raw) ↔ body.length ≤ 0xffffff)
      ∧ ∀ e, frame type body = .error e
        ↔ 0xffffff < body.length ∧ e = .internal (.fieldOverflow 24 body.length))
    ∧ (∀ type body raw, frame type body = .ok raw →
      (∀ rest, unframe? (raw ++ rest) = .ok (some ⟨type, body, 4 + body.length⟩))
      ∧ ∀ part, part <+: raw → part ≠ raw → unframe? part = .ok none)
    ∧ (∀ stream type body size, unframe? stream = .ok (some ⟨type, body, size⟩) →
      frame type body = .ok (stream.take size) ∧ size ≤ stream.length)
    ∧ (∀ stream e, unframe? stream = .error e
      ↔ ∃ code rest, stream = code :: rest ∧ 4 ≤ stream.length
        ∧ (∀ type : MessageType, type.code ≠ code)
        ∧ e = .unexpectedMessage (.unknownType code))
    ∧ ∀ stream later, unframe? stream ≠ .ok none →
      unframe? (stream ++ later) = unframe? stream := by
  have hcapacity : Bytes.capacity 3 = 0xffffff + 1 := rfl
  refine ⟨fun type body => ⟨?_, fun e => ?_⟩, fun type body raw hframe => ⟨fun rest => ?_, ?_⟩,
    ?_, fun _ _ => unframe?_eq_error_iff, fun _ later hfound => unframe?_append hfound later⟩
  · simp only [frame_eq_ok_iff, exists_and_left, exists_eq, and_true, hcapacity, Nat.lt_succ_iff]
  · rw [frame_eq_error_iff, hcapacity, Nat.succ_le_iff]
  · rw [unframe?_of_frame hframe rest, length_of_frame hframe]
    rfl
  · intro part hpart hne
    exact unframe?_of_part hframe hpart hne
  · intro stream type body size hfound
    obtain ⟨raw, rest, hframe, rfl, rfl⟩ := unframe?_eq_message_iff.1 hfound
    rw [List.take_left' rfl, List.length_append]
    exact ⟨hframe, Nat.le_add_right _ _⟩

namespace Rehearsal

/-- A KeyUpdate that is followed by the start of another message, and a header that is refused. -/
theorem keyUpdate_delimited :
    let raw : Bytes := [24, 0, 0, 1, 1]
    frame .keyUpdate [1] = .ok raw
    ∧ unframe? (raw ++ [20, 0]) = .ok (some ⟨.keyUpdate, [1], 5⟩)
    ∧ unframe? [24, 0, 0, 1] = .ok none
    ∧ frame .keyUpdate [1] = .ok ((raw ++ [20, 0]).take 5)
    ∧ unframe? ([3, 0, 0, 0] ++ raw) = .error (.unexpectedMessage (.unknownType 3)) := by
  intro raw
  obtain ⟨_, hframes, hfound, _, hstays⟩ := frames_delimited
  have hframe : frame .keyUpdate [1] = .ok raw := rfl
  obtain ⟨hwhole, hpart⟩ := hframes _ _ _ hframe
  have hrefused : unframe? [3, 0, 0, 0] = .error (.unexpectedMessage (.unknownType 3)) := rfl
  refine ⟨hframe, hwhole _, hpart _ (by decide) (by decide), (hfound _ _ _ _ (hwhole _)).1, ?_⟩
  rw [hstays _ raw (by rw [hrefused]; exact nofun), hrefused]

end Rehearsal

end TlsHandshake
