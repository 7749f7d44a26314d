import Neighborhood.Proofs.Daemon.Replies
import Neighborhood.Proofs.Packet.Writing

/-!
# What is handed to the sink

A sink decides on every frame for itself: what became of the frames before makes no difference.

* `Sink.sendAll`, `Sink.passed` — the sink after several frames, and those of them that it keeps (`Sink.frames_sendAll`)
* `Daemon.Hands` — an act has handed the frames of given packets to the sink, in order, and no others
* `Daemon.transmit_of_fits`, `Daemon.transmit_of_not_fits` — a packet that has a frame, and one that has none
-/

namespace Neighborhood

namespace Sink

variable (s : Sink)

/-- The sink after these frames, first to last. -/
def sendAll (frames : List SentFrame) : Sink :=
  frames.foldl (fun s f => (s.send f.dest f.frame).2) s

/-- Whether the frame is taken that comes after `i` others. -/
def takesAfter (i : Nat) : Bool := !(s.failing || s.refusals.getD i false)

/-- Of these frames those that are taken. -/
def passed (frames : List SentFrame) : List SentFrame :=
  (frames.zipIdx.filter fun f => s.takesAfter f.2).map (·.1)

theorem sendAll_append (l₁ l₂ : List SentFrame) : s.sendAll (l₁ ++ l₂) = (s.sendAll l₁).sendAll l₂ :=
  List.foldl_append

theorem takesAfter_zero : s.takesAfter 0 = !s.refuses := by
  rw [takesAfter, refuses]
  cases s.refusals <;> rfl

theorem takesAfter_send (dest : Option HwAddr) (frame : List UInt8) (i : Nat) :
    (s.send dest frame).2.takesAfter i = s.takesAfter (i + 1) := by
  have hnext : ∀ s' : Sink, s'.failing = s.failing → s'.refusals = s.refusals.tail →
      s'.takesAfter i = s.takesAfter (i + 1) := by
    intro s' hf hr
    rw [takesAfter, takesAfter, hf, hr]
    cases s.refusals <;> rfl
  unfold send
  split <;> exact hnext _ rfl rfl

theorem frames_send (dest : Option HwAddr) (frame : List UInt8) :
    (s.send dest frame).2.frames = s.frames ++ if s.takesAfter 0 then [⟨dest, frame⟩] else [] := by
  rw [takesAfter_zero, send]
  cases s.refuses <;> simp

theorem passed_cons (f : SentFrame) (frames : List SentFrame) :
    s.passed (f :: frames) = (if s.takesAfter 0 then [f] else []) ++ (s.send f.dest f.frame).2.passed frames := by
  simp only [passed, takesAfter_send, List.zipIdx_cons, List.zipIdx_succ, List.filter_cons, List.filter_map,
    Function.comp_def]
  split <;> simp

/-- A sink keeps the frames that it takes, whatever becomes of the others. -/
theorem frames_sendAll : ∀ (frames : List SentFrame) (s : Sink), (s.sendAll frames).frames = s.frames ++ s.passed frames
  | [], s => (List.append_nil _).symm
  | f :: frames, s => by
    rw [passed_cons, ← List.append_assoc, ← frames_send]
    exact frames_sendAll frames _

end Sink

namespace Daemon

variable {σ : Type}

/-! ## One packet -/

theorem noteTransmission_sink (d : Daemon σ) (dest : Option HwAddr) (packet : Packet)
    (outcome : Except Error (List UInt8)) : (d.noteTransmission dest packet outcome).2.sink = d.sink := by
  unfold noteTransmission
  cases outcome <;> rfl

theorem noteTransmission_fst (d : Daemon σ) (dest : Option HwAddr) (packet : Packet)
    (outcome : Except Error (List UInt8)) : (d.noteTransmission dest packet outcome).1 = outcome.isOk := by
  unfold noteTransmission
  cases outcome <;> rfl

/-- Every attempt is noted, whatever comes of it. -/
theorem exists_transmissions_transmit (d : Daemon σ) (dest : Option HwAddr) (packet : Packet) : ∃ outcome,
    (d.transmit dest packet).2.transmissions = ⟨d.timers.now, dest, packet, outcome⟩ :: d.transmissions := by
  have hnote : ∀ (d : Daemon σ) outcome, (d.noteTransmission dest packet outcome).2.transmissions =
      ⟨d.timers.now, dest, packet, outcome⟩ :: d.transmissions := by
    intro d outcome
    unfold noteTransmission
    cases outcome <;> rfl
  unfold transmit
  split
  · exact ⟨_, hnote d _⟩
  · split <;> exact ⟨_, hnote _ _⟩

/-- A packet that has a frame is handed over, and it is noted and counted what the sink says. -/
theorem transmit_of_fits (d : Daemon σ) (dest : Option HwAddr) {packet : Packet} (h : packet.Fits) :
    d.transmit dest packet = { d with sink := (d.sink.send dest packet.frame).2 }.noteTransmission dest packet
      ((d.sink.send dest packet.frame).1.map fun _ => packet.frame) := by
  unfold transmit
  rw [Packet.encode_eq_ok_iff.2 ⟨h, rfl⟩]
  dsimp only
  cases d.sink.send dest packet.frame with
  | mk answer sink => cases answer <;> rfl

/-- A packet that has no frame is not handed over. -/
theorem transmit_of_not_fits (d : Daemon σ) (dest : Option HwAddr) {packet : Packet} (h : ¬packet.Fits) :
    ∃ e, d.transmit dest packet = d.noteTransmission dest packet (.error (.encode e)) := by
  unfold transmit
  cases he : packet.encode with
  | error e => exact ⟨e, rfl⟩
  | ok frame => exact absurd (Packet.encode_eq_ok_iff.1 he).1 h

/-! ## Several packets -/

/-- The frames of these packets have been handed over, as far as they have frames, and no others. -/
def Hands (d : Daemon σ) (said : List Utterance) (d' : Daemon σ) : Prop :=
  d'.sink = d.sink.sendAll (said.filterMap Utterance.frame?)

theorem Hands.refl (d : Daemon σ) : Hands d [] d := rfl

theorem Hands.trans {d₁ d₂ d₃ : Daemon σ} {said said' : List Utterance} (h₁ : Hands d₁ said d₂)
    (h₂ : Hands d₂ said' d₃) : Hands d₁ (said ++ said') d₃ := by
  unfold Hands at *
  rw [h₂, h₁, List.filterMap_append, Sink.sendAll_append]

theorem transmit_hands (d : Daemon σ) (dest : Option HwAddr) (packet : Packet) :
    Hands d [(dest, packet)] (d.transmit dest packet).2 := by
  unfold Hands Utterance.frame?
  by_cases h : packet.Fits
  · rw [transmit_of_fits d dest h, noteTransmission_sink]
    simp only [List.filterMap_cons, Packet.encode_eq_ok_iff.2 ⟨h, rfl⟩]
    rfl
  · obtain ⟨e, he⟩ := transmit_of_not_fits d dest h
    rw [he, noteTransmission_sink]
    cases hp : packet.encode with
    | ok frame => exact absurd (Packet.encode_eq_ok_iff.1 hp).1 h
    | error _ =>
      simp only [List.filterMap_cons, hp]
      rfl

theorem askRelays_hands (suspect : HwAddr) : ∀ (relays : List Neighbor) (d : Daemon σ),
    Hands d (d.requests suspect relays) (d.askRelays suspect relays)
  | [], d => .refl d
  | relay :: relays, d => by
    have hs := (transmit_sends d (some relay.hwaddr) (d.requestTo suspect relay.hwaddr)).requestTo
    have ih := askRelays_hands suspect relays (d.send relay.hwaddr (d.requestTo suspect relay.hwaddr)).2
    rw [requests, send, hs] at ih
    exact (transmit_hands d _ _).trans ih

end Daemon

end Neighborhood
