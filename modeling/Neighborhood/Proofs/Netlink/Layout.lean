import Neighborhood.Netlink.Message
import Neighborhood.Proofs.Word

/-!
# How netlink messages are laid out

What the kernel may write is said here without the parser: a header names any flags and any sender, a kind has two bits
that mean nothing, and padding may hold anything.

* `Row` — parts one behind the other, padded
* `Attribute.Laid`, `RouteMessage.Laid`, `Message.Laid` — the bytes of an attribute, of a route message, and of a
  message with a given payload
* `Attribute.parseAll?_of_row`, `RouteMessage.parse?_of_laid`, `Message.parse?_of_laid` — what is laid out is read back
* `Deserializer.ReadsLayout` — a way to read messages follows this layout, as far as answers to dumps go; which
  attributes it takes besides those that tell a route is its own affair
* `RouteMessage.laid_toBytes`, `Message.laid_frame` — what a client writes is laid out so
-/

namespace Neighborhood

namespace Netlink

/-! ## Parts in a row -/

/-- Parts one behind the other, each padded to a multiple of four bytes; the padding of the last may be missing. -/
inductive Row {α : Type} (IsPart : α → List UInt8 → Prop) : List α → List UInt8 → Prop
  | nil : Row IsPart [] []
  | last {a : α} {part : List UInt8} : IsPart a part → Row IsPart [a] part
  | cons {a : α} {part pad : List UInt8} {l : List α} {rest : List UInt8} : IsPart a part →
      pad.length = aligned part.length - part.length → Row IsPart l rest → Row IsPart (a :: l) (part ++ pad ++ rest)

variable {α : Type} {IsPart : α → List UInt8 → Prop}

theorem Row.eq_nil {bytes : List UInt8} (h : Row IsPart [] bytes) : bytes = [] := by
  cases h
  rfl

/-- The next part starts at a multiple of four bytes. -/
theorem Row.uncons {a : α} {l : List α} {bytes : List UInt8} (h : Row IsPart (a :: l) bytes) :
    ∃ part more, IsPart a part ∧ bytes = part ++ more ∧
      Row IsPart l (more.drop (aligned part.length - part.length)) := by
  cases h with
  | last hp =>
    refine ⟨_, [], hp, (List.append_nil _).symm, ?_⟩
    rw [List.drop_nil]
    exact .nil
  | cons hp hpad hrest =>
    refine ⟨_, _, hp, List.append_assoc _ _ _, ?_⟩
    rw [← hpad, List.drop_left]
    exact hrest

/-! ## Attributes -/

/-- Length, kind with any two flags, and value. -/
def Attribute.Laid (a : Attribute) (bytes : List UInt8) : Prop :=
  4 + a.value.length < UInt16.size ∧ ∃ kind : UInt16, kind.toNat % 0x4000 = a.kind ∧
    bytes = halfBytesLE (UInt16.ofNat (4 + a.value.length)) ++ halfBytesLE kind ++ a.value

theorem Attribute.Laid.length_eq {a : Attribute} {bytes : List UInt8} (h : a.Laid bytes) :
    bytes.length = 4 + a.value.length := by
  obtain ⟨-, kind, -, rfl⟩ := h
  simp only [halfBytesLE, List.length_append, List.length_cons, List.length_nil]

/-- Attributes are read as they are laid out. -/
theorem Attribute.parseAll?_of_row {family : UInt8} : ∀ {l : List Attribute} {bytes : List UInt8},
    Row Attribute.Laid l bytes → (∀ a ∈ l, a.isSound family = true) → parseAll? family bytes = some l
  | [], bytes, h, _ => by
    rw [h.eq_nil, parseAll?]
  | a :: l, bytes, h, hs => by
    obtain ⟨part, more, hl, rfl, hrest⟩ := h.uncons
    have hlen := hl.length_eq
    have ih := parseAll?_of_row hrest fun b hb => hs b (List.mem_cons_of_mem _ hb)
    obtain ⟨hlt, kind, hk, rfl⟩ := hl
    rw [hlen] at ih
    have hnum : (UInt16.ofNat (4 + a.value.length)).toNat = 4 + a.value.length :=
      UInt16.toNat_ofNat_of_lt' hlt
    have hle := le_aligned (4 + a.value.length)
    simp only [halfBytesLE, List.cons_append, List.nil_append]
    rw [parseAll?]
    simp only [halfLE_halfBytesLE, kindOf, hk, hnum, Nat.add_sub_cancel_left, List.take_left]
    rw [if_pos (by rw [List.length_append]; omega), if_pos (hs a List.mem_cons_self)]
    have hdrop : (a.value ++ more).drop (aligned (4 + a.value.length) - 4) =
        more.drop (aligned (4 + a.value.length) - (4 + a.value.length)) := by
      rw [List.drop_append, List.drop_of_length_le (by omega), List.nil_append]
      congr 1
      omega
    rw [hdrop, ih]
    rfl

/-! ## Messages -/

/-- A message of a type with a number and a payload: its header names any flags and any sender. -/
def Message.Laid (type : UInt16) (sequence : UInt32) (payload bytes : List UInt8) : Prop :=
  headerLength + payload.length < UInt32.size ∧ ∃ (flags : UInt16) (port : UInt32),
    bytes = bytesLE (UInt32.ofNat (headerLength + payload.length)) ++ halfBytesLE type ++ halfBytesLE flags ++
      bytesLE sequence ++ bytesLE port ++ payload

theorem Message.Laid.length_eq {type : UInt16} {sequence : UInt32} {payload bytes : List UInt8}
    (h : Message.Laid type sequence payload bytes) : bytes.length = headerLength + payload.length := by
  obtain ⟨-, flags, port, rfl⟩ := h
  simp only [bytesLE, halfBytesLE, headerLength, List.length_append, List.length_cons, List.length_nil]

/-- A message is read as it is laid out, whatever is behind it. -/
theorem Message.parse?_of_laid {type : UInt16} {sequence : UInt32} {payload bytes : List UInt8}
    (h : Message.Laid type sequence payload bytes) (more : List UInt8) :
    parse? (bytes ++ more) =
      (Payload.parse? type.toNat payload).map (⟨bytes.length, sequence, ·⟩) := by
  have hlen := h.length_eq
  obtain ⟨hlt, flags, port, rfl⟩ := h
  have hnum : (UInt32.ofNat (headerLength + payload.length)).toNat = headerLength + payload.length :=
    UInt32.toNat_ofNat_of_lt' hlt
  rw [hlen]
  simp only [bytesLE, halfBytesLE, List.cons_append, List.nil_append, parse?, wordLE_bytesLE, halfLE_halfBytesLE, hnum]
  rw [if_pos (by rw [List.length_append]; omega), Nat.add_sub_cancel_left, List.take_left]
  cases Payload.parse? type.toNat payload <;> rfl

/-- Families and lengths, the table of the header, four bytes about the route and its flags, and the attributes. -/
def RouteMessage.Laid (m : RouteMessage) (bytes : List UInt8) : Prop :=
  (∀ a ∈ m.attributes, a.isSound m.family = true) ∧ ∃ attributes, Row Attribute.Laid m.attributes attributes ∧
    bytes = [m.family, m.dstLength, m.srcLength, m.tos, m.table, m.protocol, m.scope, m.type] ++ bytesLE m.flags ++
      attributes

theorem RouteMessage.parse?_of_laid {m : RouteMessage} {bytes : List UInt8} (h : m.Laid bytes) :
    parse? bytes = some m := by
  obtain ⟨hs, attributes, hrow, rfl⟩ := h
  simp only [bytesLE, List.cons_append, List.nil_append, parse?, wordLE_bytesLE, Attribute.parseAll?_of_row hrow hs]
  rfl

/-- The attributes besides those that tell a route and its table. -/
def RouteMessage.others (m : RouteMessage) : List Attribute :=
  m.attributes.filter fun a => a.kind ≠ Attribute.destination ∧ a.kind ≠ Attribute.gateway ∧ a.kind ≠ Attribute.table

/-- Reports of routes and the end of an answer are read as they are laid out, whatever is behind them, where the other
attributes of a report are well-formed among those of its family. -/
structure Deserializer.ReadsLayout (d : Deserializer) (WellFormed : UInt8 → List Attribute → Prop) : Prop where
  newRoute : ∀ {sequence : UInt32} {m : RouteMessage} {payload bytes : List UInt8}, m.Laid payload →
    WellFormed m.family m.others → Message.Laid (UInt16.ofNat newRouteType) sequence payload bytes →
      ∀ more, d.read (bytes ++ more) = some ⟨bytes.length, sequence, .newRoute m⟩
  done : ∀ {sequence : UInt32} {payload bytes : List UInt8}, payload = [] ∨ 4 ≤ payload.length →
    Message.Laid (UInt16.ofNat doneType) sequence payload bytes →
      ∃ status, ∀ more, d.read (bytes ++ more) = some ⟨bytes.length, sequence, .done status⟩

/-- Whatever other attributes there are. -/
def AnyOthers (_ : UInt8) (_ : List Attribute) : Prop := True

theorem Message.deserializer_readsLayout : Message.deserializer.ReadsLayout AnyOthers where
  newRoute {sequence m payload bytes} hm _ hl more := by
    have hp : Payload.parse? (UInt16.ofNat newRouteType).toNat payload = (RouteMessage.parse? payload).map .newRoute :=
      rfl
    exact (Message.parse?_of_laid hl more).trans (by rw [hp, RouteMessage.parse?_of_laid hm]; rfl)
  done {sequence payload bytes} he hl := by
    have hp : Payload.parse? (UInt16.ofNat doneType).toNat payload = some (.done (statusOf payload)) :=
      if_pos (he.imp_left fun h => by rw [h]; rfl)
    exact ⟨statusOf payload, fun more => (Message.parse?_of_laid hl more).trans (by rw [hp]; rfl)⟩

/-! ## What a client writes -/

/-- Attributes are written as they are laid out, with zeros for padding. -/
theorem Attribute.row_toBytes : ∀ {l : List Attribute},
    (∀ a ∈ l, a.kind < 0x4000 ∧ 4 + a.value.length < UInt16.size) → Row Attribute.Laid l (l.flatMap toBytes)
  | [], _ => .nil
  | a :: l, h => by
    obtain ⟨hk, hlt⟩ := h a List.mem_cons_self
    have hkind : (UInt16.ofNat a.kind).toNat = a.kind :=
      UInt16.toNat_ofNat_of_lt' (Nat.lt_trans hk (by decide))
    have ha : a.Laid
        (halfBytesLE (UInt16.ofNat (4 + a.value.length)) ++ halfBytesLE (UInt16.ofNat a.kind) ++ a.value) :=
      ⟨hlt, UInt16.ofNat a.kind, by rw [hkind, Nat.mod_eq_of_lt hk], rfl⟩
    refine .cons ha ?_ (row_toBytes fun b hb => h b (List.mem_cons_of_mem _ hb))
    rw [ha.length_eq, padding, List.length_replicate]

theorem RouteMessage.laid_toBytes {m : RouteMessage} (hs : ∀ a ∈ m.attributes, a.isSound m.family = true)
    (h : ∀ a ∈ m.attributes, a.kind < 0x4000 ∧ 4 + a.value.length < UInt16.size) : m.Laid m.toBytes :=
  ⟨hs, _, Attribute.row_toBytes h, rfl⟩

theorem Message.laid_frame (type : Nat) (flags : UInt16) (sequence : UInt32) {payload : List UInt8}
    (hlt : headerLength + payload.length < UInt32.size) :
    Message.Laid (UInt16.ofNat type) sequence payload (frame type flags sequence payload) :=
  ⟨hlt, flags, 0, rfl⟩

end Netlink

end Neighborhood
