import Neighborhood.Packet.Reader
import Neighborhood.Proofs.Word

/-!
# What a reading reads

`Reads reading bytes a` says that a reading consumes exactly `bytes`, whatever follows them, and gives `a`;
`Refuses reading bytes e` says that it gives the error `e` once it has seen `bytes`.

* `Reads.bind`, `Reads.ensure_bind` — readings one after another
* `Reads.byte`, `Reads.int32`, `Reads.identifier`, `Reads.hwaddr` — the parts that frames are made of
* `Reads.times` — a reading repeated over a list
* `Refuses.bind`, `Reads.bind_refuses` — the first refusal stands
* `IsLength` — the lengths that addresses have
-/

namespace Neighborhood

namespace Reader

variable {α β : Type}

/-- Readings one after another; the first that fails is the last. -/
theorem run_bind (reading : Reading α) (f : α → Reading β) (r : Reader) : (reading >>= f).run r =
    match reading.run r with
    | (.ok a, r') => (f a).run r'
    | (.error e, r') => (.error e, r') := by
  simp only [Bind.bind, ExceptT.bind, ExceptT.run, ExceptT.mk, StateT.bind]
  rcases reading r with ⟨_ | _, _⟩ <;> rfl

/-- A demand is met by as many bytes as it asks for, whatever follows them. -/
theorem run_ensure_bind {needed : Nat} {bytes rest : List UInt8} {f : Unit → Reading α}
    (hn : needed ≤ bytes.length) : (ensure needed >>= f).run ⟨bytes ++ rest⟩ = (f ()).run ⟨bytes ++ rest⟩ := by
  have he : (ensure needed).run ⟨bytes ++ rest⟩ = (.ok (), ⟨bytes ++ rest⟩) := by
    refine if_pos ?_
    rw [remaining, List.length_append]
    omega
  rw [run_bind, he]

/-- The reading consumes `bytes`, whatever follows them, and gives `a`. -/
def Reads (reading : Reading α) (bytes : List UInt8) (a : α) : Prop :=
  ∀ rest, reading.run ⟨bytes ++ rest⟩ = (.ok a, ⟨rest⟩)

/-- The reading gives the error as soon as it has `bytes`, whatever follows them. -/
def Refuses (reading : Reading α) (bytes : List UInt8) (e : DecodeError) : Prop :=
  ∀ rest, (reading.run ⟨bytes ++ rest⟩).1 = .error e

namespace Reads

variable {reading : Reading α} {bytes : List UInt8} {a : α}

theorem pure (a : α) : Reads (Pure.pure a) [] a := fun _ => rfl

theorem bind {f : α → Reading β} {bytes' : List UInt8} {b : β} (h : Reads reading bytes a)
    (h' : Reads (f a) bytes' b) : Reads (reading >>= f) (bytes ++ bytes') b := by
  intro rest
  rw [run_bind, List.append_assoc, h]
  exact h' rest

theorem map (h : Reads reading bytes a) (f : α → β) : Reads (f <$> reading) bytes (f a) := by
  have hb : Reads (reading >>= fun a => Pure.pure (f a)) (bytes ++ []) (f a) := h.bind (pure (f a))
  rw [List.append_nil] at hb
  exact hb

/-- A demand for bytes is met by what is read next. -/
theorem ensure_bind {needed : Nat} {f : Unit → Reading α} (hn : needed ≤ bytes.length)
    (h : Reads (f ()) bytes a) : Reads (ensure needed >>= f) bytes a := by
  intro rest
  rw [run_ensure_bind hn]
  exact h rest

theorem byte (b : UInt8) : Reads Reader.byte [b] b := fun _ => rfl

theorem take (bytes : List UInt8) : Reads (Reader.take bytes.length) bytes bytes := by
  intro rest
  have hn : bytes.length ≤ (⟨bytes ++ rest⟩ : Reader).remaining := by
    rw [remaining, List.length_append]
    omega
  refine (if_pos hn).trans ?_
  rw [List.take_left, List.drop_left]

theorem int32 (clock : Int32) : Reads Reader.int32 (bytesBE clock.toUInt32) clock := by
  intro rest
  have hw := wordBE_bytesBE clock.toUInt32
  simp only [bytesBE, List.cons_append, List.nil_append]
  refine Eq.trans (b := (.ok (wordBE _ _ _ _).toInt32, ⟨rest⟩)) rfl ?_
  rw [hw, Int32.toInt32_toUInt32]

theorem identifier (id : Identifier) : Reads Reader.identifier id.bytes id := by
  intro rest
  have hid : Identifier.ofBytes? ((id.bytes ++ rest).take 20) = some id := by
    rw [← id.length_eq, List.take_left]
    exact dif_pos id.length_eq
  have hrest : (id.bytes ++ rest).drop 20 = rest := by
    rw [← id.length_eq, List.drop_left]
  simp only [ExceptT.run, Reader.identifier, hid, hrest]

theorem hwaddr (addr : HwAddr) {length : UInt8} (hl : length.toNat = addr.length) :
    Reads (Reader.hwaddr length) addr.bytes addr := by
  have hof : HwAddr.ofBytes? addr.bytes = some addr := dif_pos ⟨addr.length_pos, addr.length_le⟩
  have ht := take addr.bytes
  rw [← HwAddr.length, ← hl] at ht
  have hb : Reads (Reader.hwaddr length) (addr.bytes ++ []) addr := by
    refine ht.bind ?_
    rw [hof]
    exact pure addr
  rw [List.append_nil] at hb
  exact hb

/-- A list is read back from its members, one after another. -/
theorem times {write : α → List UInt8} : ∀ (l : List α), (∀ a ∈ l, Reads reading (write a) a) →
    Reads (Reader.times l.length reading) (l.flatMap write) l
  | [], _ => pure []
  | a :: l, h => by
    have ih := times l fun b hb => h b (List.mem_cons_of_mem _ hb)
    have hb : Reads (reading >>= fun a => Reader.times l.length reading >>= fun l => Pure.pure (a :: l))
        (write a ++ (l.flatMap write ++ [])) (a :: l) := (h a List.mem_cons_self).bind (ih.bind (pure (a :: l)))
    rw [List.append_nil] at hb
    exact hb

end Reads

namespace Refuses

variable {reading : Reading α} {bytes : List UInt8} {e : DecodeError}

theorem bind (h : Refuses reading bytes e) (f : α → Reading β) : Refuses (reading >>= f) bytes e := by
  intro rest
  have hr := h rest
  rw [run_bind]
  generalize reading.run ⟨bytes ++ rest⟩ = out at hr
  rcases out with ⟨_ | _, r⟩
  · cases hr
    rfl
  · cases hr

theorem map (h : Refuses reading bytes e) (f : α → β) : Refuses (f <$> reading) bytes e :=
  h.bind fun a => pure (f a)

theorem ensure_bind {needed : Nat} {f : Unit → Reading α} (hn : needed ≤ bytes.length)
    (h : Refuses (f ()) bytes e) : Refuses (ensure needed >>= f) bytes e := by
  intro rest
  rw [run_ensure_bind hn]
  exact h rest

end Refuses

/-- What is read before the refusal does not matter. -/
theorem Reads.bind_refuses {reading : Reading α} {f : α → Reading β} {bytes bytes' : List UInt8} {a : α}
    {e : DecodeError} (h : Reads reading bytes a) (h' : Refuses (f a) bytes' e) :
    Refuses (reading >>= f) (bytes ++ bytes') e := by
  intro rest
  rw [run_bind, List.append_assoc, h]
  exact h' rest

/-! ## Lengths of addresses -/

/-- A length that some address has. -/
def IsLength (length : UInt8) : Prop := 1 ≤ length.toNat ∧ length.toNat ≤ 8

instance (length : UInt8) : Decidable (IsLength length) := inferInstanceAs (Decidable (_ ∧ _))

theorem isLength_iff {length : UInt8} : IsLength length ↔ ¬ (length = 0 ∨ 8 < length) := by
  rw [IsLength, ← UInt8.toNat_inj, UInt8.lt_iff_toNat_lt, show (0 : UInt8).toNat = 0 from rfl,
    show (8 : UInt8).toNat = 8 from rfl]
  omega

end Reader

end Neighborhood
