import GroundLink.Message.Basic
import GroundLink.Proofs.Bytes
import GroundLink.Proofs.Except

/-!
# Messages are read back

The payload of a message is read back as the message (`Message.decode_of_encode`): the words of its
header have a fixed width, and its body runs to the end. Nothing else is read. Each part of the
message layer takes every byte string that is long enough for its header, and gives what writes
these bytes again; what is too short is refused as such. The type byte chooses the part
(`Message.forms`). `codecs_are_exact` puts this together for messages and for the header of a
scheduled response.
-/

namespace GroundLink

/-- A timestamp is read back from its bytes. -/
theorem Timestamp.ofBytes_bytes (t : Timestamp) : ofBytes t.bytes = t :=
  congrArg Timestamp.mk (Bytes.toUInt32_ofUInt32 t.seconds)

/-- Four bytes are those of the timestamp that is read from them. -/
theorem Timestamp.bytes_ofBytes {bytes : Bytes} (h : bytes.length = 4) :
    (ofBytes bytes).bytes = bytes :=
  Bytes.ofUInt32_toUInt32 h

/-! ## The three kinds of messages -/

/-- A command takes its header and the bytes of its arguments. -/
theorem Command.length_encode (c : Command) : c.encode.length = headerSize + c.args.length := by
  simp only [encode, headerSize, Timestamp.bytes, Bytes.ofUInt16, Bytes.ofUInt32, List.length_cons,
    List.length_append, Bytes.length_ofNat]
  omega

/-- A command is read back. -/
theorem Command.decode_of_encode (c : Command) : Command.decode c.encode = .ok c := by
  have hid := Bytes.toUInt16_ofUInt16 c.id
  have htime := c.time.ofBytes_bytes
  have hread : Command.decode c.encode =
      .ok ⟨c.seq, Bytes.toUInt16 (Bytes.ofUInt16 c.id), Timestamp.ofBytes c.time.bytes, c.args⟩ :=
    rfl
  rw [hread, hid, htime]

/-- A payload that is long enough is read as a command, and but for its type byte the command
writes it again. -/
theorem Command.decode_of_le {payload : Bytes} (h : headerSize ≤ payload.length) :
    ∃ c, Command.decode payload = .ok c ∧ c.encode = 1 :: payload.tail := by
  obtain ⟨front, args, rfl, hfront⟩ := Bytes.exists_front h
  match front, hfront with
  | [_, seq, id1, id0, t3, t2, t1, t0], _ =>
      have hid : Bytes.ofUInt16 (Bytes.toUInt16 [id1, id0]) = [id1, id0] :=
        Bytes.ofUInt16_toUInt16 rfl
      have htime : (Timestamp.ofBytes [t3, t2, t1, t0]).bytes = [t3, t2, t1, t0] :=
        Timestamp.bytes_ofBytes rfl
      refine ⟨_, rfl, ?_⟩
      simp only [encode, hid, htime]
      rfl

/-- A payload without room for the header is no command. -/
theorem Command.decode_of_lt {payload : Bytes} (h : payload.length < headerSize) :
    Command.decode payload = .error (.tooShort .command headerSize payload.length) := by
  unfold decode
  split
  case h_1 =>
    simp only [List.length_cons, headerSize] at h
    omega
  case h_2 => rfl

/-- A payload that is long enough is read as a response, which writes it again but for its type
byte. -/
theorem ResponseMessage.decode_of_le {payload : Bytes} (h : headerSize ≤ payload.length) :
    ∃ r, ResponseMessage.decode payload = .ok r ∧ r.encode = 2 :: payload.tail := by
  obtain ⟨front, body, rfl, hfront⟩ := Bytes.exists_front h
  match front, hfront with
  | [_, seq], _ => exact ⟨_, rfl, rfl⟩

/-- A payload without room for the header is no response. -/
theorem ResponseMessage.decode_of_lt {payload : Bytes} (h : payload.length < headerSize) :
    ResponseMessage.decode payload = .error (.tooShort .response headerSize payload.length) := by
  unfold decode
  split
  case h_1 =>
    simp only [List.length_cons, headerSize] at h
    omega
  case h_2 => rfl

/-- A byte stands for the result that is written as it. -/
theorem ResultCode.ofByte?_eq_some_iff {byte : UInt8} {code : ResultCode} :
    ofByte? byte = some code ↔ byte = code.byte := by
  constructor
  · intro h
    have hbyte := List.find?_some h
    exact (of_decide_eq_true hbyte).symm
  · rintro rfl
    cases code <;> rfl

/-- A log entry is read back. -/
theorem LogEntry.decode_of_encode (e : LogEntry) : LogEntry.decode e.encode = .ok e := by
  have hread : LogEntry.decode e.encode =
      .ok ⟨e.group, e.signal, Timestamp.ofBytes e.timestamp.bytes, e.data⟩ := rfl
  rw [hread, e.timestamp.ofBytes_bytes]

/-- A payload that is long enough is read as a log entry, which writes it again but for its type
byte. -/
theorem LogEntry.decode_of_le {payload : Bytes} (h : headerSize ≤ payload.length) :
    ∃ e, LogEntry.decode payload = .ok e ∧ e.encode = 3 :: payload.tail := by
  obtain ⟨front, data, rfl, hfront⟩ := Bytes.exists_front h
  match front, hfront with
  | [_, group, signal, t3, t2, t1, t0], _ =>
      have htime : (Timestamp.ofBytes [t3, t2, t1, t0]).bytes = [t3, t2, t1, t0] :=
        Timestamp.bytes_ofBytes rfl
      refine ⟨_, rfl, ?_⟩
      simp only [encode, htime]
      rfl

/-- A payload without room for the header is no log entry. -/
theorem LogEntry.decode_of_lt {payload : Bytes} (h : payload.length < headerSize) :
    LogEntry.decode payload = .error (.tooShort .logEntry headerSize payload.length) := by
  unfold decode
  split
  case h_1 =>
    simp only [List.length_cons, headerSize] at h
    omega
  case h_2 => rfl

/-! ## Any message -/

namespace Message

/-- A message is read back from its payload. -/
theorem decode_of_encode (m : Message) : Message.decode m.encode = .ok m := by
  cases m with
  | command c =>
      show (Command.decode c.encode).map command = _
      rw [c.decode_of_encode]
      rfl
  | response r => rfl
  | log e =>
      show (LogEntry.decode e.encode).map log = _
      rw [e.decode_of_encode]
      rfl

/-- Messages are read back one by one. -/
theorem decode_map_encode (messages : List Message) :
    (messages.map encode).map decode = messages.map .ok := by
  rw [List.map_map]
  exact List.map_congr_left fun m _ => m.decode_of_encode

/-- What a type byte announces, and the least number of bytes of such a payload. -/
structure Form where
  tag : UInt8
  part : WirePart
  least : Nat
deriving DecidableEq

/-- The forms of a payload. -/
def forms : List Form :=
  [⟨1, .command, 8⟩, ⟨2, .response, 2⟩, ⟨3, .logEntry, 7⟩]

/-- The type byte is known, and the payload is long enough for what it announces. -/
def Accepted (payload : Bytes) : Prop :=
  ∃ form ∈ forms, payload.head? = some form.tag ∧ form.least ≤ payload.length

/-- Why a payload is no message. -/
inductive Refused : Bytes → WireError → Prop where
  | empty : Refused [] .emptyPayload
  | unknown {tag : UInt8} {rest : Bytes} (h : ∀ form ∈ forms, form.tag ≠ tag) :
      Refused (tag :: rest) (.unknownType tag)
  | short {form : Form} {rest : Bytes} (hform : form ∈ forms)
      (hshort : rest.length + 1 < form.least) :
      Refused (form.tag :: rest) (.tooShort form.part form.least (rest.length + 1))

/-- Every payload is accepted or refused. -/
theorem accepted_or_refused (payload : Bytes) :
    Accepted payload ∨ ∃ e, Refused payload e := by
  cases payload with
  | nil => exact .inr ⟨_, .empty⟩
  | cons tag rest =>
      by_cases hknown : ∀ form ∈ forms, form.tag ≠ tag
      · exact .inr ⟨_, .unknown hknown⟩
      · push Not at hknown
        obtain ⟨form, hform, rfl⟩ := hknown
        by_cases hshort : rest.length + 1 < form.least
        · exact .inr ⟨_, .short hform hshort⟩
        · exact .inl ⟨form, hform, rfl, Nat.not_lt.mp hshort⟩

/-- A part of the message layer reads a payload that it writes again. -/
theorem exists_read {part : Type} {payload : Bytes} {message : part → Message}
    {read : Except WireError part} (hread : decode payload = read.map message)
    (h : ∃ a, read = .ok a ∧ (message a).encode = payload) :
    ∃ m, decode payload = .ok m ∧ m.encode = payload := by
  obtain ⟨a, rfl, hencode⟩ := h
  exact ⟨message a, hread, hencode⟩

/-- A payload in one of the forms is read, and what is read writes it again. -/
theorem decode_of_accepted {payload : Bytes} (h : Accepted payload) :
    ∃ m, decode payload = .ok m ∧ m.encode = payload := by
  obtain ⟨form, hform, hhead, hleast⟩ := h
  obtain ⟨rest, rfl⟩ := List.head?_eq_some_iff.mp hhead
  simp only [forms, List.mem_cons, List.not_mem_nil, or_false] at hform
  rcases hform with rfl | rfl | rfl
  · exact exists_read rfl (Command.decode_of_le hleast)
  · exact exists_read rfl (ResponseMessage.decode_of_le hleast)
  · exact exists_read rfl (LogEntry.decode_of_le hleast)

/-- What is refused is told as it is refused. -/
theorem decode_of_refused {payload : Bytes} {e : WireError} (h : Refused payload e) :
    decode payload = .error e := by
  cases h with
  | empty => rfl
  | @unknown tag rest hknown =>
      simp only [forms, List.forall_mem_cons] at hknown
      obtain ⟨hcommand, hresponse, hlog, -⟩ := hknown
      rw [decode, if_neg (Ne.symm hcommand), if_neg (Ne.symm hresponse), if_neg (Ne.symm hlog)]
  | @short form rest hform hshort =>
      simp only [forms, List.mem_cons, List.not_mem_nil, or_false] at hform
      rcases hform with rfl | rfl | rfl
      · have hread : Command.decode (1 :: rest) = .error _ := Command.decode_of_lt hshort
        exact congrArg (Except.map command) hread
      · have hread : ResponseMessage.decode (2 :: rest) = .error _ :=
          ResponseMessage.decode_of_lt hshort
        exact congrArg (Except.map response) hread
      · have hread : LogEntry.decode (3 :: rest) = .error _ := LogEntry.decode_of_lt hshort
        exact congrArg (Except.map log) hread

/-- A payload is read as a message exactly when the message writes it. -/
theorem decode_eq_ok_iff {payload : Bytes} {m : Message} :
    decode payload = .ok m ↔ payload = m.encode := by
  constructor
  · intro h
    rcases accepted_or_refused payload with haccepted | ⟨e, hrefused⟩
    · obtain ⟨read, hread, hencode⟩ := decode_of_accepted haccepted
      obtain rfl := Except.ok.inj (h.symm.trans hread)
      exact hencode.symm
    · exact absurd (h.symm.trans (decode_of_refused hrefused)) nofun
  · rintro rfl
    exact m.decode_of_encode

/-- Nothing else is told. -/
theorem decode_eq_error_iff {payload : Bytes} {e : WireError} :
    decode payload = .error e ↔ Refused payload e := by
  refine eq_error_iff_of_cases ?_ (fun _ => decode_of_refused) e
  refine (accepted_or_refused payload).imp_left fun haccepted => ?_
  obtain ⟨m, hread, -⟩ := decode_of_accepted haccepted
  exact ⟨m, hread⟩

/-- Exactly the payloads that are accepted can be read. -/
theorem exists_decode_iff {payload : Bytes} : (∃ m, decode payload = .ok m) ↔ Accepted payload := by
  constructor
  · rintro ⟨m, hread⟩
    refine (accepted_or_refused payload).resolve_right fun ⟨e, hrefused⟩ => ?_
    exact absurd (hread.symm.trans (decode_of_refused hrefused)) nofun
  · intro haccepted
    obtain ⟨m, hread, -⟩ := decode_of_accepted haccepted
    exact ⟨m, hread⟩

end Message

/-! ## The header of a scheduled response -/

namespace ScheduledHeader

/-- All headers of reports are written in the same number of bytes. -/
theorem length_encode (h : ScheduledHeader) : h.encode.length = size := by
  simp only [encode, size, Timestamp.bytes, Bytes.ofUInt32, Bytes.ofUInt16, List.length_append,
    List.length_singleton, Bytes.length_ofNat]

/-- A header is read back, and what stands behind it is left. -/
theorem decode_of_encode (h : ScheduledHeader) (rest : Bytes) :
    decode (h.encode ++ rest) = .ok (h, rest) := by
  have huuid := Bytes.toUInt32_ofUInt32 h.uuid
  have hid := Bytes.toUInt16_ofUInt16 h.commandId
  have htime := h.time.ofBytes_bytes
  have hread : decode (h.encode ++ rest) =
      .ok (⟨Bytes.toUInt32 (Bytes.ofUInt32 h.uuid), Bytes.toUInt16 (Bytes.ofUInt16 h.commandId),
        Timestamp.ofBytes h.time.bytes, h.flags⟩, rest) := rfl
  rw [hread, huuid, hid, htime]

/-- Where there is room for a header one is read, and the bytes are those that it is written in. -/
theorem decode_of_le {data : Bytes} (h : size ≤ data.length) :
    ∃ header rest, decode data = .ok (header, rest) ∧ data = header.encode ++ rest := by
  obtain ⟨front, rest, rfl, hfront⟩ := Bytes.exists_front h
  match front, hfront with
  | [u3, u2, u1, u0, id1, id0, t3, t2, t1, t0, flags], _ =>
      have huuid : Bytes.ofUInt32 (Bytes.toUInt32 [u3, u2, u1, u0]) = [u3, u2, u1, u0] :=
        Bytes.ofUInt32_toUInt32 rfl
      have hid : Bytes.ofUInt16 (Bytes.toUInt16 [id1, id0]) = [id1, id0] :=
        Bytes.ofUInt16_toUInt16 rfl
      have htime : (Timestamp.ofBytes [t3, t2, t1, t0]).bytes = [t3, t2, t1, t0] :=
        Timestamp.bytes_ofBytes rfl
      refine ⟨_, _, rfl, ?_⟩
      simp only [encode, huuid, hid, htime]
      rfl

/-- Where there is none the bytes are too few. -/
theorem decode_of_lt {data : Bytes} (h : data.length < size) :
    decode data = .error (.tooShort .scheduledHeader size data.length) := by
  unfold decode
  split
  case h_1 =>
    simp only [List.length_cons, size] at h
    omega
  case h_2 => rfl

/-- Data is split into a header and the rest exactly when it is long enough and they write it. -/
theorem decode_eq_ok_iff {data rest : Bytes} {header : ScheduledHeader} :
    decode data = .ok (header, rest) ↔
      size ≤ data.length ∧ header.encode = data.take size ∧ rest = data.drop size := by
  constructor
  · intro h
    by_cases hsize : size ≤ data.length
    · obtain ⟨read, others, hread, rfl⟩ := decode_of_le hsize
      obtain ⟨rfl, rfl⟩ := Prod.mk.inj (Except.ok.inj (h.symm.trans hread))
      rw [List.take_left' header.length_encode, List.drop_left' header.length_encode]
      exact ⟨hsize, rfl, rfl⟩
    · rw [decode_of_lt (Nat.not_le.mp hsize)] at h
      cases h
  · rintro ⟨-, hencode, rfl⟩
    have hread := header.decode_of_encode (data.drop size)
    rwa [hencode, List.take_append_drop] at hread

/-- Nothing else is wrong with a header. -/
theorem decode_eq_error_iff {data : Bytes} {e : WireError} :
    decode data = .error e ↔
      data.length < size ∧ e = .tooShort .scheduledHeader size data.length := by
  constructor
  · intro h
    by_cases hsize : size ≤ data.length
    · obtain ⟨read, others, hread, -⟩ := decode_of_le hsize
      exact absurd (h.symm.trans hread) nofun
    · have hshort := Nat.not_le.mp hsize
      exact ⟨hshort, Except.error.inj (h.symm.trans (decode_of_lt hshort))⟩
  · rintro ⟨hshort, rfl⟩
    exact decode_of_lt hshort

end ScheduledHeader

/-- Reading and writing are inverse to each other. A payload is read as a message exactly when the
message writes it; read are the payloads that begin with 1, 2 or 3 and have at least 8, 2 or 7
bytes, and every other one is refused for being empty, for its type byte or for its length. Data of
eleven bytes and more is split into a header, which writes the first eleven again, and the rest;
nothing shorter is. -/
theorem codecs_are_exact :
    (∀ payload m, Message.decode payload = .ok m ↔ payload = m.encode) ∧
    (∀ payload, (∃ m, Message.decode payload = .ok m) ↔
      (payload.head? = some 1 ∧ 8 ≤ payload.length) ∨
      (payload.head? = some 2 ∧ 2 ≤ payload.length) ∨
      (payload.head? = some 3 ∧ 7 ≤ payload.length)) ∧
    (∀ payload e, Message.decode payload = .error e ↔ Message.Refused payload e) ∧
    (∀ header rest, ScheduledHeader.decode (header.encode ++ rest) = .ok (header, rest)) ∧
    (∀ data header rest, ScheduledHeader.decode data = .ok (header, rest) ↔
      11 ≤ data.length ∧ header.encode = data.take 11 ∧ rest = data.drop 11) ∧
    (∀ data e, ScheduledHeader.decode data = .error e ↔
      data.length < 11 ∧ e = .tooShort .scheduledHeader 11 data.length) := by
  refine ⟨fun payload m => Message.decode_eq_ok_iff, fun payload => ?_,
    fun payload e => Message.decode_eq_error_iff, ScheduledHeader.decode_of_encode,
    fun data header rest => ScheduledHeader.decode_eq_ok_iff,
    fun data e => ScheduledHeader.decode_eq_error_iff⟩
  rw [Message.exists_decode_iff]
  simp [Message.Accepted, Message.forms]

end GroundLink
