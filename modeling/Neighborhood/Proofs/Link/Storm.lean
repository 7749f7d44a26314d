import Mathlib.Data.Fintype.Basic
import Mathlib.Data.Multiset.Bind
import Mathlib.Data.Multiset.DershowitzManna
import Mathlib.Order.WellFounded
import Neighborhood.Proofs.Daemon.Speech

/-!
# Frames that set off frames

* `Packet.Kind.rank` — what a frame sets off ranks below it (`Daemon.emitted_rank_lt`)
* `Traffic`, `Delivery` — hosts on a link with copies of frames in flight between them, one of which is delivered
* `Delivery.measure_lt` — a delivery replaces one copy by copies of frames that rank below it
* `deliveries_end` — so hosts that only react to each other fall silent
-/

namespace Neighborhood

/-! ## Ranks -/

/-- How far a frame is from those that set off nothing. -/
def Packet.Kind.rank : Kind → Nat
  | pingRequest => 3
  | investigatePing => 2
  | announce | ping => 1
  | ack | neighborList => 0

/-- The rank of what a frame is read as. A frame at fault sets off nothing. -/
def frameRank (frame : List UInt8) : Nat :=
  match Packet.decode frame with
  | .ok p => p.kind.rank
  | .error _ => 0

namespace Daemon

variable {σ : Type} [RouteTable σ]

theorem listingTo_rank (d : Daemon σ) {dest : HwAddr} {u : Utterance} (hu : u ∈ d.listingTo dest) :
    u.2.kind.rank = 0 := by
  obtain ⟨list, -, rfl⟩ := List.mem_map.1 hu
  rfl

theorem announces_rank {d : Daemon σ} {p : Packet} (hp : p ∈ d.announces) : p.kind.rank = 1 := by
  obtain ⟨xids, -, rfl⟩ := exists_of_mem_announces hp
  rfl

/-- What a packet moves a host to say ranks below the packet. -/
theorem Reply.rank_lt {d : Daemon σ} {sender : HwAddr} {p : Packet} {u : Utterance} (h : d.Reply sender p u) :
    u.2.kind.rank < p.kind.rank := by
  have hinvestigation : ∀ p : Investigation, 1 < (Packet.investigation p).kind.rank := by
    intro p
    rw [Packet.kind]
    cases p.role <;> decide
  cases h with
  | list _ hu =>
    rw [listingTo_rank _ hu]
    exact Nat.zero_lt_one
  | ack hrole =>
    rw [Packet.kind, hrole]
    exact Nat.zero_lt_one
  | answer p => exact Nat.lt_trans Nat.zero_lt_one (hinvestigation p)
  | announce p hq =>
    rw [announces_rank hq]
    exact hinvestigation p
  | probe hrole =>
    rw [Packet.kind, hrole]
    exact Nat.lt_succ_self 2

/-- Every frame that a frame sets off is read as a packet that ranks below the packet of that frame. -/
theorem emitted_rank_lt (d : Daemon σ) (sender : HwAddr) (bytes : List UInt8) {f : Departure}
    (hf : f ∈ d.emitted (d.handleFrame sender bytes).2) :
    ∃ p q, Packet.decode bytes = .ok p ∧ f.packet = .ok q ∧ q.kind.rank < p.kind.rank := by
  obtain ⟨q, hq, he⟩ := (handleFrame_tries d sender bytes).mem_emitted hf
  have hs := answers_speech d sender bytes hq
  obtain ⟨p, hp, hreply⟩ := Reply.of_mem_answers hq
  exact ⟨p, q, hp, hs.decode_eq he, hreply.rank_lt⟩

theorem emitted_frameRank_lt (d : Daemon σ) (sender : HwAddr) (bytes : List UInt8) {f : Departure}
    (hf : f ∈ d.emitted (d.handleFrame sender bytes).2) : frameRank f.frame < frameRank bytes := by
  obtain ⟨p, q, hp, hq, hlt⟩ := emitted_rank_lt d sender bytes hf
  rw [Departure.packet] at hq
  rwa [frameRank, frameRank, hp, hq]

end Daemon

/-! ## Deliveries -/

/-- A frame on its way to the host at one place. -/
structure Copy (ι : Type) where
  sender : HwAddr
  receiver : ι
  frame : List UInt8

/-- Hosts at places of a link, and the copies of frames that are in flight between them. -/
structure Traffic (ι σ : Type) where
  hosts : ι → Daemon σ
  inFlight : Multiset (Copy ι)

section
variable {ι σ : Type} [Fintype ι] [DecidableEq ι] [RouteTable σ]

omit [RouteTable σ] in
/-- One copy of a frame for every other host that hears it: for all of them if it is broadcast. -/
def copies (hosts : ι → Daemon σ) (source : ι) (f : Departure) : Multiset (Copy ι) :=
  (Finset.univ.filter fun i => i ≠ source ∧ ({ daemon := hosts i } : Station σ).hears f).val.map
    (⟨(hosts source).link.hwaddr, ·, f.frame⟩)

/-- One copy reaches its receiver, whose sink and whose draws are whatever they are by then, and copies of the frames
that it sets off are in flight instead. -/
inductive Delivery : Traffic ι σ → Traffic ι σ → Prop
  | deliver (hosts : ι → Daemon σ) (c : Copy ι) (rest : Multiset (Copy ι)) (sink : Sink) (draws : Draws UInt64)
      {after : Daemon σ} :
      after = ({ hosts c.receiver with sink := sink, draws := draws }.handleFrame c.sender c.frame).2 →
      Delivery ⟨hosts, c ::ₘ rest⟩
        ⟨Function.update hosts c.receiver after,
          rest + Multiset.bind ↑((hosts c.receiver).emitted after) (copies hosts c.receiver)⟩

/-- The ranks of all that is in flight. -/
def Traffic.measure (g : Traffic ι σ) : Multiset Nat :=
  g.inFlight.map fun c => frameRank c.frame

/-- A delivery replaces a rank by lower ones. -/
theorem Delivery.measure_lt {g g' : Traffic ι σ} (h : Delivery g g') :
    Multiset.IsDershowitzMannaLT g'.measure g.measure := by
  obtain ⟨hosts, c, rest, sink, draws, hafter⟩ := h
  simp only [Traffic.measure, Multiset.map_add, Multiset.map_cons]
  refine ⟨_, _, {frameRank c.frame}, Multiset.singleton_ne_zero _, rfl, ?_, ?_⟩
  · rw [← Multiset.singleton_add, add_comm]
  · intro rank hr
    refine ⟨_, Multiset.mem_singleton_self _, ?_⟩
    obtain ⟨c', hc', rfl⟩ := Multiset.mem_map.1 hr
    obtain ⟨f, hf, hc'⟩ := Multiset.mem_bind.1 hc'
    obtain ⟨i, -, rfl⟩ := Multiset.mem_map.1 hc'
    rw [hafter] at hf
    exact Daemon.emitted_frameRank_lt { hosts c.receiver with sink := sink, draws := draws } c.sender c.frame hf

theorem Delivery.wellFounded : WellFounded fun g' g : Traffic ι σ => Delivery g g' :=
  Subrelation.wf Delivery.measure_lt (InvImage.wf Traffic.measure Multiset.wellFounded_isDershowitzMannaLT)

/-- Hosts that only react to the frames of each other fall silent: as long as a copy is in flight it can be delivered,
but no deliveries go on for ever, in whatever states the hosts are. For every frame sets off only frames of lower rank,
and so acks and lists set off none, and no frame sets off one of its own kind. -/
theorem deliveries_end :
    (∀ g : Traffic ι σ, (∃ g', Delivery g g') ↔ g.inFlight ≠ 0) ∧
    (¬ ∃ run : Nat → Traffic ι σ, ∀ n, Delivery (run n) (run (n + 1))) ∧
    ∀ (d : Daemon σ) (sender : HwAddr) (bytes : List UInt8), ∀ f ∈ d.emitted (d.handleFrame sender bytes).2,
      ∃ p q, Packet.decode bytes = .ok p ∧ f.packet = .ok q ∧ q.kind.rank < p.kind.rank ∧
        p.kind ≠ .ack ∧ p.kind ≠ .neighborList ∧ q.kind ≠ p.kind := by
  refine ⟨fun g => ⟨?_, fun hg => ?_⟩, ?_, fun d sender bytes f hf => ?_⟩
  · rintro ⟨g', hosts, c, rest, -⟩
    exact Multiset.cons_ne_zero
  · obtain ⟨hosts, inFlight⟩ := g
    obtain ⟨c, hc⟩ := Multiset.exists_mem_of_ne_zero hg
    obtain ⟨rest, rfl⟩ := Multiset.exists_cons_of_mem hc
    exact ⟨_, .deliver hosts c rest (hosts c.receiver).sink (hosts c.receiver).draws rfl⟩
  · rintro ⟨run, hrun⟩
    exact (wellFounded_iff_isEmpty_descending_chain.1 Delivery.wellFounded).false ⟨run, hrun⟩
  · obtain ⟨p, q, hp, hq, hlt⟩ := Daemon.emitted_rank_lt d sender bytes hf
    refine ⟨p, q, hp, hq, hlt, ?_, ?_, ?_⟩
    all_goals
      intro hk
      rw [hk] at hlt
    · exact Nat.not_lt_zero _ hlt
    · exact Nat.not_lt_zero _ hlt
    · exact Nat.lt_irrefl _ hlt

end

end Neighborhood
