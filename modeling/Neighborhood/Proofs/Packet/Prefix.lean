import Neighborhood.Proofs.Packet.Inversion

/-!
# Frames cut short and frames with more behind them

`Steady reading` says that bytes behind a frame change nothing for a reading, unless it has run out of bytes.

* `Steady.bind`, `Steady.times` — readings one after another, and repeated
* `Reader.content_steady` — the content of every frame is read steadily
* `Packet.decode_prefix_free` — a part of an accepted frame is refused as truncated, and an extension of one for its
  trailing bytes
-/

namespace Neighborhood

/-- The frame was too short for what was read next. -/
def DecodeError.IsShortage : DecodeError → Prop
  | truncated needed remaining => remaining < needed
  | _ => False

namespace Reader

variable {α β : Type}

/-- Bytes behind a frame change nothing for the reading, unless it has run out of bytes. -/
structure Steady (reading : Reading α) : Prop where
  ok : ∀ {r r' : Reader} {a : α}, reading.run r = (.ok a, r') →
    ∀ more, reading.run ⟨r.rest ++ more⟩ = (.ok a, ⟨r'.rest ++ more⟩)
  error : ∀ {r r' : Reader} {e : DecodeError}, reading.run r = (.error e, r') →
    e.IsShortage ∨ Refuses reading r.rest e

theorem run_bind_eq_error {reading : Reading α} {f : α → Reading β} {r r' : Reader} {e : DecodeError}
    (h : (reading >>= f).run r = (.error e, r')) :
    reading.run r = (.error e, r') ∨ ∃ a r₁, reading.run r = (.ok a, r₁) ∧ (f a).run r₁ = (.error e, r') := by
  rw [run_bind] at h
  generalize reading.run r = out at h
  rcases out with ⟨_ | a, r₁⟩
  · cases h
    exact .inl rfl
  · exact .inr ⟨a, r₁, rfl, h⟩

namespace Steady

variable {reading : Reading α}

theorem pure (a : α) : Steady (Pure.pure a) where
  ok h more := by cases h; rfl
  error h := by cases h

theorem throw (e : DecodeError) : Steady (MonadExcept.throw e : Reading α) where
  ok h := by cases h
  error h := by cases h; exact .inr fun _ => rfl

theorem bind {f : α → Reading β} (h : Steady reading) (hf : ∀ a, Steady (f a)) : Steady (reading >>= f) where
  ok hr more := by
    obtain ⟨a, r₁, ha, hb⟩ := run_bind_eq_ok hr
    rw [run_bind, h.ok ha more]
    exact (hf a).ok hb more
  error hr := by
    rcases run_bind_eq_error hr with ha | ⟨a, r₁, ha, hb⟩
    · exact (h.error ha).imp_right fun he => he.bind f
    · refine ((hf a).error hb).imp_right fun he more => ?_
      rw [run_bind, h.ok ha more]
      exact he more

theorem map (h : Steady reading) (f : α → β) : Steady (f <$> reading) :=
  h.bind fun a => pure (f a)

theorem times (h : Steady reading) : ∀ n, Steady (Reader.times n reading)
  | 0 => pure []
  | n + 1 => h.bind fun _ => (times h n).bind fun _ => pure _

/-! ## Parts -/

theorem ensure (needed : Nat) : Steady (Reader.ensure needed) where
  ok h more := by
    simp only [Reader.ensure, ExceptT.run] at h
    split at h <;> cases h
    rename_i hn
    refine if_pos ?_
    rw [remaining, List.length_append]
    exact Nat.le_add_right_of_le hn
  error h := by
    simp only [Reader.ensure, ExceptT.run] at h
    split at h <;> cases h
    rename_i hn
    exact .inl (Nat.lt_of_not_le hn)

theorem take (n : Nat) : Steady (Reader.take n) where
  ok {r r' bytes} h more := by
    obtain ⟨rfl, hr⟩ := run_take_eq_ok h
    rw [hr, List.append_assoc]
    exact Reads.take bytes _
  error h := by
    simp only [Reader.take, ExceptT.run] at h
    split at h <;> cases h
    rename_i hn
    exact .inl (Nat.lt_of_not_le hn)

theorem byte : Steady Reader.byte where
  ok h more := by
    rw [run_byte_eq_ok h]
    rfl
  error {r r' e} h := by
    obtain ⟨_ | ⟨b, rest⟩⟩ := r
    · cases h
      exact .inl Nat.zero_lt_one
    · cases h

theorem int32 : Steady Reader.int32 where
  ok {r r' clock} h more := by
    rw [run_int32_eq_ok h, List.append_assoc]
    exact Reads.int32 clock _
  error {r r' e} h := by
    simp only [Reader.int32, ExceptT.run] at h
    split at h
    · cases h
    · rename_i hne
      cases h
      refine .inl ?_
      obtain ⟨- | ⟨b₀, - | ⟨b₁, - | ⟨b₂, - | ⟨b₃, rest⟩⟩⟩⟩⟩ := r
      case h_2.refl.cons.cons.cons.cons => exact absurd rfl (hne b₀ b₁ b₂ b₃ rest)
      all_goals simp [DecodeError.IsShortage, remaining]

theorem identifier : Steady Reader.identifier where
  ok {r r' id} h more := by
    rw [run_identifier_eq_ok h, List.append_assoc]
    exact Reads.identifier id _
  error {r r' e} h := by
    simp only [Reader.identifier, ExceptT.run, Identifier.ofBytes?] at h
    split at h
    · cases h
    · rename_i hnone
      cases h
      refine .inl ?_
      split at hnone
      · cases hnone
      · rename_i hne
        rw [List.length_take] at hne
        show r.rest.length < 20
        omega

theorem hwaddr (length : UInt8) : Steady (Reader.hwaddr length) :=
  (take _).bind fun bytes => by
    split
    · exact pure _
    · exact throw _

theorem haddrLen : Steady Reader.haddrLen :=
  byte.bind fun length => by
    split
    · exact (throw _).bind fun _ => pure _
    · exact pure _

/-! ## Bodies -/

theorem announce : Steady Reader.announce :=
  (ensure 2).bind fun _ => byte.bind fun _ => haddrLen.bind fun _ => (ensure _).bind fun _ => (hwaddr _).bind fun _ =>
    (identifier.times _).bind fun _ => pure _

theorem neighborRecord (length : UInt8) : Steady (Reader.neighborRecord length) :=
  (ensure 21).bind fun _ => identifier.bind fun _ => byte.bind fun _ => (ensure _).bind fun _ =>
    ((hwaddr length).times _).bind fun _ => pure _

theorem neighborList : Steady Reader.neighborList :=
  (ensure 2).bind fun _ => byte.bind fun _ => haddrLen.bind fun length => ((neighborRecord length).times _).bind fun _ =>
    pure _

theorem probe (suspects : Nat) : Steady (Reader.probe suspects) :=
  (ensure 6).bind fun _ => haddrLen.bind fun _ => byte.bind fun _ => int32.bind fun _ => (ensure _).bind fun _ =>
    (hwaddr _).bind fun _ => (hwaddr _).bind fun _ => pure _

theorem monitor (role : Monitor.Role) : Steady (Reader.monitor role) :=
  (probe 0).bind fun _ => pure _

theorem investigation (role : Investigation.Role) : Steady (Reader.investigation role) :=
  (probe 1).bind fun _ => (hwaddr _).bind fun _ => pure _

theorem header : Steady Reader.header :=
  (ensure _).bind fun _ => byte.bind fun _ => byte.bind fun _ => by
    split
    · exact throw _
    · split
      · exact pure _
      · exact throw _

theorem body : ∀ kind, Steady (Reader.body kind)
  | .announce => announce.map _
  | .neighborList => neighborList.map _
  | .ping | .ack => (monitor _).map _
  | .pingRequest | .investigatePing => (investigation _).map _

end Steady

/-- All of a packet but the end of its frame. -/
theorem content_steady : Steady (header >>= body) :=
  Steady.header.bind Steady.body

end Reader

namespace Packet

variable {f g : List UInt8} {p : Packet}

theorem decode_append (h : decode f = .ok p) {more : List UInt8} (hm : more ≠ []) :
    decode (f ++ more) = .error (.trailingBytes more.length) := by
  have hrun := Reader.content_steady.ok (run_content h) more
  rw [decode, Reader.packet_eq, Reader.run_bind, hrun]
  obtain ⟨b, rest, rfl⟩ := List.exists_cons_of_ne_nil hm
  rfl

theorem decode_of_append {more : List UInt8} (h : decode (f ++ more) = .ok p) (hm : more ≠ []) :
    ∃ needed remaining, decode f = .error (.truncated needed remaining) ∧ remaining < needed := by
  have hall := run_content h
  rcases hrun : (Reader.header >>= Reader.body).run ⟨f⟩ with ⟨e | q, r⟩
  · have hdecode : decode f = .error e := by
      rw [decode, Reader.packet_eq, Reader.run_bind, hrun]
    rcases Reader.content_steady.error hrun with hshort | hrefuse
    · cases e with
      | truncated needed remaining => exact ⟨needed, remaining, hdecode, hshort⟩
      | unknownKind | unsupportedVersion | invalidHaddrLen | trailingBytes => exact hshort.elim
    · have hcontra := hrefuse more
      rw [hall] at hcontra
      cases hcontra
  · -- what is left of the part would be left of the whole frame, with the rest of it behind
    rw [Reader.content_steady.ok hrun more] at hall
    have hnil : r.rest ++ more = [] := congrArg (fun out => out.2.rest) hall
    exact absurd (List.append_eq_nil_iff.1 hnil).2 hm

/-- Every proper part of an accepted frame that begins where the frame does is refused as truncated, and every extension
of one is refused for as many trailing bytes as it has; so no accepted frame is a part or an extension of another. -/
theorem decode_prefix_free (h : decode f = .ok p) :
    (∀ g, g <+: f → g ≠ f → ∃ needed remaining, decode g = .error (.truncated needed remaining) ∧ remaining < needed) ∧
    (∀ more, more ≠ [] → decode (f ++ more) = .error (.trailingBytes more.length)) ∧
    ∀ g q, decode g = .ok q → g <+: f ∨ f <+: g → g = f := by
  have hpart : ∀ g, g <+: f → g ≠ f →
      ∃ needed remaining, decode g = .error (.truncated needed remaining) ∧ remaining < needed := by
    rintro g ⟨more, rfl⟩ hne
    refine decode_of_append h ?_
    rintro rfl
    exact hne (List.append_nil g).symm
  refine ⟨hpart, fun more hm => decode_append h hm, fun g q hg hor => ?_⟩
  refine Decidable.byContradiction fun hne => ?_
  rcases hor with hpre | ⟨more, rfl⟩
  · obtain ⟨needed, remaining, he, -⟩ := hpart g hpre hne
    rw [hg] at he
    cases he
  · have hm : more ≠ [] := by
      rintro rfl
      exact hne (List.append_nil f)
    rw [decode_append h hm] at hg
    cases hg

/-- A list with one record, cut between the number of hosts and the host, and with one byte too many. -/
theorem decode_prefix_free_of_list : ∃ p,
    decode ([1, 2, 1, 1] ++ List.replicate 20 7 ++ [1, 5]) = .ok p ∧
    decode ([1, 2, 1, 1] ++ List.replicate 20 7 ++ [1, 5] ++ [0]) = .error (.trailingBytes 1) ∧
    ∃ needed remaining, decode ([1, 2, 1, 1] ++ List.replicate 20 7 ++ [1]) = .error (.truncated needed remaining) ∧
      remaining < needed := by
  have h : decode ([1, 2, 1, 1] ++ List.replicate 20 7 ++ [1, 5]) =
      .ok (neighborList ⟨1, [⟨.replicate 7, [⟨[5], by decide, by decide⟩]⟩]⟩) := rfl
  obtain ⟨hpart, hmore, -⟩ := decode_prefix_free h
  exact ⟨_, h, hmore [0] (by decide), hpart _ ⟨[5], rfl⟩ (by decide)⟩

end Packet

end Neighborhood
