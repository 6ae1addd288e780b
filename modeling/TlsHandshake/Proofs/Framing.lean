import TlsHandshake.Message.Certificate
import TlsHandshake.Message.CertificateVerify
import TlsHandshake.Message.Finished

set_option autoImplicit false

/-! # Framed messages

What the encoders write and what is taken off a stream again. Main statement: `take?_of_frame`, a
stream that starts with a framed message gives that message as soon as all of it is there. -/

namespace TlsHandshake

/-! ## Sequences -/

/-- A sequence succeeds if both of its parts do. -/
theorem bind_eq_ok_iff {α β : Type} {x : Except Error α} {f : α → Except Error β} {b : β} :
    (x >>= f) = .ok b ↔ ∃ a, x = .ok a ∧ f a = .ok b := by
  cases x with
  | error e => exact ⟨nofun, nofun⟩
  | ok a => exact ⟨fun h => ⟨a, rfl, h⟩, fun ⟨_, ha, hb⟩ => by cases ha; exact hb⟩

/-! ## Vectors -/

theorem writeVector_eq_ok_iff {width : Nat} {body vector : Bytes} :
    writeVector width body = .ok vector
      ↔ body.length < Bytes.capacity width ∧ vector = Bytes.ofNat width body.length ++ body := by
  simp only [writeVector]
  constructor
  · intro h
    split at h
    · exact ⟨‹_›, (Except.ok.inj h).symm⟩
    · cases h
  · rintro ⟨hlength, rfl⟩
    exact if_pos hlength

/-- A vector is written if its length can be, and what comes next goes on with it. -/
theorem bind_writeVector_eq_ok_iff {α : Type} {width : Nat} {body : Bytes}
    {f : Bytes → Except Error α} {a : α} :
    (writeVector width body >>= f) = .ok a
      ↔ body.length < Bytes.capacity width ∧ f (Bytes.ofNat width body.length ++ body) = .ok a := by
  constructor
  · intro h
    obtain ⟨vector, hvector, hrest⟩ := bind_eq_ok_iff.1 h
    obtain ⟨hlength, rfl⟩ := writeVector_eq_ok_iff.1 hvector
    exact ⟨hlength, hrest⟩
  · rintro ⟨hlength, hrest⟩
    exact bind_eq_ok_iff.2 ⟨_, writeVector_eq_ok_iff.2 ⟨hlength, rfl⟩, hrest⟩

/-- A vector is read back as it was written. -/
theorem run_vector_of_writeVector {width : Nat} {body vector : Bytes}
    (h : writeVector width body = .ok vector) (rest : Bytes) :
    (Reader.vector width).run (vector ++ rest) = (some body, rest) := by
  obtain ⟨hlength, rfl⟩ := writeVector_eq_ok_iff.1 h
  have htake : (Bytes.ofNat width body.length ++ body ++ rest).take width
      = Bytes.ofNat width body.length := by
    rw [List.append_assoc]
    exact List.take_left' (Bytes.length_ofNat _ _)
  have hdrop : (Bytes.ofNat width body.length ++ body ++ rest).drop width = body ++ rest := by
    rw [List.append_assoc]
    exact List.drop_left' (Bytes.length_ofNat _ _)
  rw [Reader.run_vector, if_pos (by simp only [List.length_append, Bytes.length_ofNat]; omega), htake,
    hdrop, Bytes.toNat_ofNat, Nat.mod_eq_of_lt hlength, Reader.run_take,
    if_pos (by simp only [List.length_append]; omega), List.take_left' rfl, List.drop_left' rfl]

/-! ## Frames -/

theorem frame_eq_ok_iff {type : MessageType} {body raw : Bytes} :
    frame type body = .ok raw
      ↔ body.length < Bytes.capacity 3 ∧ raw = type.code :: Bytes.ofNat 3 body.length ++ body := by
  unfold frame
  cases hvector : writeVector 3 body with
  | error e =>
      have hlength : ¬ body.length < Bytes.capacity 3 := fun h => by
        rw [writeVector_eq_ok_iff.2 ⟨h, rfl⟩] at hvector
        cases hvector
      exact ⟨nofun, fun h => absurd h.1 hlength⟩
  | ok vector =>
      obtain ⟨hlength, rfl⟩ := writeVector_eq_ok_iff.1 hvector
      exact ⟨fun h => ⟨hlength, (Except.ok.inj h).symm⟩, fun h => h.2 ▸ rfl⟩

/-- The bytes of a frame tell its type and its body. -/
theorem frame_inj {type type' : MessageType} {body body' raw : Bytes}
    (h : frame type body = .ok raw) (h' : frame type' body' = .ok raw) :
    type = type' ∧ body = body' := by
  obtain ⟨_, rfl⟩ := frame_eq_ok_iff.1 h
  obtain ⟨_, hraw⟩ := frame_eq_ok_iff.1 h'
  obtain ⟨hcode, hrest⟩ := List.cons.inj hraw
  refine ⟨Option.some.inj
    ((MessageType.ofCode?_code type).symm.trans (hcode ▸ MessageType.ofCode?_code type')), ?_⟩
  exact (List.append_inj hrest (by rw [Bytes.length_ofNat, Bytes.length_ofNat])).2

/-! ## Messages by their type -/

/-- The bytes of a message of a type. -/
def IsMessage (type : MessageType) (bytes : Bytes) : Prop := ∃ body, frame type body = .ok bytes

/-- A message of one type is not of another. -/
theorem IsMessage.type_eq {type type' : MessageType} {bytes : Bytes} (h : IsMessage type bytes)
    (h' : IsMessage type' bytes) : type = type' :=
  (frame_inj h.choose_spec h'.choose_spec).1

theorem isMessage_chain {chain : List Bytes} {staples : Staples} {m : Bytes}
    (h : CertificateChain.encode chain staples = .ok m) : IsMessage .certificate m := by
  obtain ⟨list, _, h⟩ := bind_eq_ok_iff.1 h
  obtain ⟨vector, _, h⟩ := bind_eq_ok_iff.1 h
  exact ⟨_, h⟩

theorem isMessage_verify {verify : CertificateVerify} {m : Bytes}
    (h : CertificateVerify.encode verify = .ok m) : IsMessage .certificateVerify m := by
  obtain ⟨vector, _, h⟩ := bind_eq_ok_iff.1 h
  exact ⟨_, h⟩

theorem isMessage_finished {mac m : Bytes} (h : Finished.encode mac = .ok m) :
    IsMessage .finished m := ⟨mac, h⟩

/-! ## Messages on a stream -/

/-- The header is in the first four bytes. -/
theorem readHeader?_congr {a b : Bytes} (h : a.take headerLength = b.take headerLength) :
    readHeader? a = readHeader? b := by
  have hshort : ∀ bytes : Bytes, readHeader? bytes = readHeader? (bytes.take headerLength)
    | [] | [_] | [_, _] | [_, _, _] | _ :: _ :: _ :: _ :: _ => rfl
  rw [hshort a, hshort b, h]

theorem readHeader?_of_short {bytes : Bytes} (h : bytes.length < headerLength) :
    readHeader? bytes = .ok none := by
  match bytes, h with
  | [], _ | [_], _ | [_, _], _ | [_, _, _], _ => rfl

theorem readHeader?_of_frame {type : MessageType} {body raw : Bytes}
    (h : frame type body = .ok raw) (rest : Bytes) :
    readHeader? (raw ++ rest) = .ok (some (type, body.length)) := by
  obtain ⟨hlength, rfl⟩ := frame_eq_ok_iff.1 h
  have hnumber : Bytes.toNat (Bytes.ofNat 3 body.length) = body.length := by
    rw [Bytes.toNat_ofNat, Nat.mod_eq_of_lt hlength]
  simp only [Bytes.ofNat] at hnumber
  simp only [Bytes.ofNat, List.cons_append, List.nil_append, readHeader?, MessageType.ofCode?_code,
    hnumber]

theorem length_of_frame {type : MessageType} {body raw : Bytes} (h : frame type body = .ok raw) :
    raw.length = headerLength + body.length := by
  obtain ⟨_, rfl⟩ := frame_eq_ok_iff.1 h
  simp only [List.length_append, List.length_cons, Bytes.length_ofNat, headerLength]

theorem drop_of_frame {type : MessageType} {body raw : Bytes} (h : frame type body = .ok raw) :
    raw.drop headerLength = body := by
  obtain ⟨_, rfl⟩ := frame_eq_ok_iff.1 h
  exact List.drop_left' (by simp only [List.length_cons, Bytes.length_ofNat, headerLength])

/-- A framed message is found at the start of a byte string, whatever follows it. -/
theorem unframe?_of_frame {type : MessageType} {body raw : Bytes} (h : frame type body = .ok raw)
    (rest : Bytes) : unframe? (raw ++ rest) = .ok (some ⟨type, body, raw.length⟩) := by
  have hdrop : (raw ++ rest).drop headerLength = body ++ rest := by
    rw [List.drop_append_of_le_length (by rw [length_of_frame h]; omega), drop_of_frame h]
  have hspans : Bytes.spans body.length (body ++ rest) = true := by simp
  rw [unframe?, readHeader?_of_frame h rest]
  simp only [Bind.bind, Except.bind, hdrop, hspans, if_true, List.take_left', length_of_frame h]
  rfl

/-- Gathering brings the header to the front. -/
theorem take_front_gather (n : Nat) (q : ByteQueue) :
    (q.gather n).front.take n = q.toBytes.take n := by
  by_cases hsize : n ≤ q.size
  · rw [← ByteQueue.toBytes_gather n q, ByteQueue.toBytes_eq,
      List.take_append_of_le_length (ByteQueue.le_length_front_gather hsize)]
  · have hfront : (q.gather n).front.length ≤ q.size := by
      rw [← ByteQueue.size_gather n q, ByteQueue.size_eq_length, ByteQueue.toBytes_eq,
        List.length_append]
      exact Nat.le_add_right _ _
    unfold ByteQueue.gather at hfront ⊢
    split
    · rename_i hkept
      rcases Bool.or_eq_true_iff.1 hkept with hspans | hback
      · rw [if_pos hkept] at hfront
        have := (Bytes.spans_iff _ _).1 hspans
        omega
      · rw [ByteQueue.toBytes_eq, List.isEmpty_iff.1 hback, List.reverse_nil, List.flatten_nil,
          List.append_nil]
    · rfl

/-- What is taken off a stream goes by the bytes in it. -/
theorem take?_eq (stream : ByteQueue) :
    Message.take? stream = match readHeader? stream.toBytes with
      | .error e => .error e (stream.gather headerLength)
      | .ok none => .ok none (stream.gather headerLength)
      | .ok (some (type, length)) =>
          match (stream.gather headerLength).take? (headerLength + length) with
          | none => .ok none (stream.gather headerLength)
          | some (raw, rest) => .ok (some ⟨type, raw.drop headerLength, raw⟩) rest := by
  have hheader := readHeader?_congr (take_front_gather headerLength stream)
  exact hheader ▸ rfl

/-- A message whose bytes are a frame of its type and its body. -/
def Message.Framed (m : Message) : Prop := frame m.type m.body = .ok m.raw

/-- Of a stream that, with `later`, starts with a framed message, either the message is taken, or
    some of it is not there yet and nothing is. -/
theorem take?_of_frame {m : Message} (hframed : m.Framed) {stream : ByteQueue} {later rest : Bytes}
    (hstream : stream.toBytes ++ later = m.raw ++ rest) :
    (∃ stream', Message.take? stream = .ok (some m) stream' ∧ stream'.toBytes ++ later = rest)
    ∨ ∃ stream', Message.take? stream = .ok none stream' ∧ stream'.toBytes = stream.toBytes
      ∧ stream.toBytes.length < m.raw.length := by
  have hlength := length_of_frame hframed
  rw [take?_eq]
  -- either the header is not whole, or it is that of the message
  by_cases hshort : stream.toBytes.length < headerLength
  · rw [readHeader?_of_short hshort]
    exact Or.inr ⟨_, rfl, ByteQueue.toBytes_gather _ _, by omega⟩
  have hheader : readHeader? stream.toBytes = .ok (some (m.type, m.body.length)) := by
    rw [← readHeader?_of_frame hframed rest]
    refine readHeader?_congr ?_
    rw [← hstream, List.take_append_of_le_length (by omega)]
  rw [hheader]
  dsimp only
  rw [← hlength]
  -- then the body decides, by its length alone
  cases htake : (stream.gather headerLength).take? m.raw.length with
  | none =>
      have hsize := ByteQueue.take?_eq_none_iff.1 htake
      rw [ByteQueue.size_gather, ByteQueue.size_eq_length] at hsize
      exact Or.inr ⟨_, rfl, ByteQueue.toBytes_gather _ _, hsize⟩
  | some taken =>
      obtain ⟨raw, stream'⟩ := taken
      obtain ⟨hraw, hrest⟩ := ByteQueue.toBytes_of_take? htake
      rw [ByteQueue.toBytes_gather] at hraw hrest
      have hle : m.raw.length ≤ stream.toBytes.length := by
        rw [← ByteQueue.size_eq_length, ← ByteQueue.size_gather headerLength, ← Nat.not_lt,
          ← ByteQueue.take?_eq_none_iff, htake]
        exact Option.some_ne_none _
      obtain rfl : raw = m.raw := by
        have htaken : (stream.toBytes ++ later).take m.raw.length
            = stream.toBytes.take m.raw.length := List.take_append_of_le_length hle
        rw [hraw, ← htaken, hstream, List.take_left' rfl]
      refine Or.inl ⟨stream', by simp only [drop_of_frame hframed], ?_⟩
      rw [hrest, ← List.drop_append_of_le_length hle, hstream, List.drop_left' rfl]

/-- Nothing is taken off an empty stream. -/
theorem take?_of_empty {stream : ByteQueue} (hempty : stream.toBytes = []) :
    ∃ stream', Message.take? stream = .ok none stream' ∧ stream'.toBytes = [] := by
  rw [take?_eq, hempty]
  exact ⟨_, rfl, by rw [ByteQueue.toBytes_gather, hempty]⟩

end TlsHandshake
