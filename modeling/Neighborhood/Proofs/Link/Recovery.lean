import Neighborhood.Proofs.Daemon.Eviction
import Neighborhood.Proofs.Daemon.Speech
import Neighborhood.Proofs.Daemon.Spent

/-!
# A silent neighbor that others can reach

Three hosts take part: the investigator has asked the relay to probe the suspect, and awaits the answer.

* `Daemon.relays_of_request` — the relay sends the suspect one probe, and no more
* `Daemon.answers_of_probe` — the suspect sends the investigator one ack, and announces itself again
* `Daemon.recovers_of_ack` — the ack ends the investigation for good
* `Daemon.Run.recovery` — the three of them, one after another
-/

namespace Neighborhood

namespace Daemon

/-! ## Frames that hosts on one link say to each other -/

section
variable {σ : Type} [RouteTable σ] {d : Daemon σ} {sender : HwAddr} {bytes : List UInt8}

/-- What a frame moves a host to say leaves while the sink accepts it. -/
theorem emitted_of_replies {p : Packet} (hp : Packet.decode bytes = .ok p) {said : List Utterance}
    (hs : (d.counted p).replies sender p = said) (hf : ∀ v ∈ said, v.2.Fits) (ha : d.sink.Accepts said.length) :
    (d.emitted (d.handleFrame sender bytes).2).map (·.saying) = said.map fun v => (v.1, .ok v.2) := by
  have hd : d.answers sender bytes = said := by
    rw [answers, hp]
    exact hs
  have ht := handleFrame_tries d sender bytes
  rw [hd] at ht
  have hspeech : ∀ v ∈ said, Speech d.link v := by
    rw [← hd]
    exact fun v hv => answers_speech d sender bytes hv
  exact ht.emitted_saying ha hspeech hf

/-- An investigation changes no entry of whoever hears of it. -/
theorem neighbors_handleFrame_investigation {p : Investigation}
    (hp : Packet.decode bytes = .ok (.investigation p)) :
    (d.handleFrame sender bytes).2.neighbors = d.neighbors := by
  rw [(handleFrame_aside d sender bytes).neighbors, News.ofFrame, hp]
  rfl

end

/-! ## The relay -/

section
variable {σ : Type} [RouteTable σ]

/-- The request makes the relay send one frame, to the suspect, and changes no entry. -/
structure Relays (r : Daemon σ) (investigator : HwAddr) (request : List UInt8) (suspect : HwAddr) (probe : Departure) :
    Prop where
  answer : (r.handleFrame investigator request).1 = .ok ()
  emitted : r.emitted (r.handleFrame investigator request).2 = [probe]
  dest : probe.dest = some suspect
  neighbors : (r.handleFrame investigator request).2.neighbors = r.neighbors

/-- A relay that has the suspect among its neighbors probes it for the investigator. -/
theorem relays_of_request {r : Daemon σ} {link : LocalLink} {p : Investigation}
    (hs : Speech link (some r.link.hwaddr, .investigation p)) (hrole : p.role = .request) {request : List UInt8}
    (hp : Packet.decode request = .ok (.investigation p)) (hne : r.link.hwaddr ≠ link.hwaddr)
    (hsr : r.link.hwaddr ≠ p.investigate) (hn : r.neighbors.get? p.investigate ≠ none) (ha : r.sink.Accepts 1) :
    ∃ probe, Relays r link.hwaddr request p.investigate probe ∧ probe.packet = .ok (r.probeFor p) := by
  have hfit := (Packet.cleared_of_decode hp).1.fits
  obtain ⟨hdest, hsrc⟩ := hs.src_of_request hrole
  have hd : p.dest = r.link.hwaddr := (Option.some.inj hdest).symm
  have hreplies : r.replies link.hwaddr (.investigation p) = [(some p.investigate, r.probeFor p)] := by
    simp only [replies]
    rw [if_pos ⟨congrArg HwAddr.length hsrc, hd⟩, if_neg hsr.symm, if_pos ⟨hrole, hn⟩]
  have hprobe : (r.probeFor p).Fits := ⟨hfit.2, hfit.2⟩
  have hem := emitted_of_replies hp hreplies (List.forall_mem_singleton.2 hprobe) ha
  obtain ⟨probe, hone, hsay⟩ := List.map_eq_singleton_iff.1 hem
  have hlen : r.link.hwaddr.length = link.hwaddr.length := by rw [← hd, hfit.1, hsrc]
  refine ⟨probe, ⟨handleFrame_of_speech hs hp hlen hne, hone, congrArg Prod.fst hsay, ?_⟩, congrArg Prod.snd hsay⟩
  exact neighbors_handleFrame_investigation hp

/-! ## The suspect -/

/-- The probe makes the suspect send one frame to the investigator, its ack, and its announces to all, and no more. -/
structure Answers (s : Daemon σ) (relay : HwAddr) (probe : List UInt8) (investigator : HwAddr) (ack : Departure)
    (announces : List Departure) : Prop where
  answer : (s.handleFrame relay probe).1 = .ok ()
  emitted : s.emitted (s.handleFrame relay probe).2 = ack :: announces
  dest : ack.dest = some investigator
  packet : ack.packet = .ok (s.ackTo investigator)
  broadcasts : announces.map (·.saying) = s.announces.map fun p => (none, .ok p)

/-- The suspect answers the investigator, whether it knows it or the relay or neither. -/
theorem answers_of_probe {s : Daemon σ} {link : LocalLink} {p : Investigation}
    (hs : Speech link (some s.link.hwaddr, .investigation p)) {probe : List UInt8}
    (hp : Packet.decode probe = .ok (.investigation p)) (hdest : p.dest = s.link.hwaddr)
    (hsus : p.investigate = s.link.hwaddr) (hsrc : p.src.length = link.hwaddr.length)
    (hne : s.link.hwaddr ≠ link.hwaddr) (ha : s.sink.Accepts (s.announces.length + 1)) :
    ∃ ack announces, Answers s link.hwaddr probe p.src ack announces := by
  have hfit := (Packet.cleared_of_decode hp).1.fits
  have hlen : s.link.hwaddr.length = link.hwaddr.length := by rw [← hdest, hfit.1, hsrc]
  have hreplies : s.replies link.hwaddr (.investigation p) =
      (some p.src, s.ackTo p.src) :: s.announces.map (none, ·) := by
    simp only [replies]
    rw [if_pos ⟨hsrc, hdest⟩, if_pos hsus]
  have hack : (s.ackTo p.src).Fits := hsrc.trans hlen.symm
  have hem := emitted_of_replies hp hreplies
    (List.forall_mem_cons.2 ⟨hack, fun u hu => ?_⟩) (by simpa using ha)
  · rw [List.map_cons, List.map_map] at hem
    obtain ⟨ack, announces, hemitted, hsay, hrest⟩ := List.map_eq_cons_iff.1 hem
    exact ⟨ack, announces, handleFrame_of_speech hs hp hlen hne, hemitted, congrArg Prod.fst hsay,
      congrArg Prod.snd hsay, hrest⟩
  · obtain ⟨q, -, rfl⟩ := List.mem_map.1 hu
    exact (announces_speech s hu).fits_of_broadcast

end

/-! ## The investigator -/

theorem noteAck_of_awaited {σ : Type} {d : Daemon σ} {a : HwAddr} {n : Neighbor} (hn : d.neighbors.get? a = some n)
    (hi : n.isIdle = false) (clock : Int32) : d.noteAck a clock =
      { d with
        timers := d.timers.release n.timer?
        neighbors := (d.neighbors.settle n.ref).setClock n.ref clock } := by
  unfold noteAck
  rw [hn]
  simp only [hi, settle_eq]
  rfl

section
variable {σ : Type} [RouteTable σ]

/-- The ack gives the suspect the entry `n`, leaves the others, and turns off the timer: no deadline has its number any
more, and should it pass late, at whatever time, it changes nothing. -/
structure Recovers (a : Daemon σ) (suspect : HwAddr) (ack : List UInt8) (n : Neighbor) (timer : TimerId) : Prop where
  answer : (a.handleFrame suspect ack).1 = .ok ()
  entry : (a.handleFrame suspect ack).2.neighbors.get? suspect = some n
  others : ∀ b, b ≠ suspect → (a.handleFrame suspect ack).2.neighbors.get? b = a.neighbors.get? b
  cancelled : ∀ t ∈ (a.handleFrame suspect ack).2.timers.pending, t.id ≠ timer
  harmless : ∀ {l a'}, Run (a.handleFrame suspect ack).2 l a' → ∀ ref, a'.onInvestigationTimeout ref timer = a'

/-- An ack of the suspect ends the investigation, and its deadline is over for good. -/
theorem recovers_of_ack {a : Daemon σ} (ha : a.Regular) {suspect : HwAddr} {n : Neighbor} {timer : TimerId}
    (hn : a.neighbors.get? suspect = some n) (hl : n.liveness = .awaitingInvestigativeAck) (ht : n.timer? = some timer)
    {p : Monitor} {ack : List UInt8} (hp : Packet.decode ack = .ok (.monitor p)) (hrole : p.role = .ack)
    (hsrc : p.src.length = suspect.length) (hdest : p.dest = a.link.hwaddr) :
    Recovers a suspect ack { n.settled with clock := p.clock } timer := by
  obtain ⟨hm, rfl⟩ := ha.neighbors.get?_eq_some_iff.1 hn
  have hi : n.isIdle = false := by rw [Neighbor.isIdle, hl]; rfl
  have hprocess : (a.counted (.monitor p)).process n.hwaddr (.monitor p) =
      (.ok (), (a.counted (.monitor p)).noteAck n.hwaddr p.clock) := by
    simp only [process, processMonitor]
    rw [if_neg (not_not_intro hsrc), hrole, if_neg]
    simp [LocalLink.accepts, hdest, counted]
  have he := handleFrame_of_decoded a n.hwaddr hp hprocess
  rw [noteAck_of_awaited (d := a.counted (.monitor p)) hn hi] at he
  have hreg := ha.handleFrame n.hwaddr ack
  obtain ⟨hentry, hothers⟩ := NeighborTable.get?_setClock_settle ha.neighbors hm p.clock
  have hcancelled : ∀ t ∈ (a.handleFrame n.hwaddr ack).2.timers.pending, t.id ≠ timer := by
    intro t hmem hid
    rw [he] at hmem
    exact (Timers.mem_pending_release.1 hmem).2 (ht.trans (congrArg some hid.symm))
  have hspent : (a.handleFrame n.hwaddr ack).2.Spent timer := by
    refine ⟨?_, fun t hmem _ => hcancelled t hmem⟩
    obtain ⟨t, hmem, hawaits⟩ := ha.paired.deadline n hm hi
    rw [hawaits.timer?, Option.some.injEq] at ht
    rw [he, ← ht]
    exact ha.timers.ids_lt t hmem
  refine ⟨by rw [he]; rfl, by rw [he]; exact hentry, fun b hb => by rw [he]; exact hothers b hb, hcancelled, ?_⟩
  intro l a' hrun ref
  obtain ⟨hreg', hspent'⟩ := hrun.spent hreg hspent
  exact hreg'.onInvestigationTimeout_of_spent hspent' ref

end

/-! ## The three of them -/

section
variable {σ τ υ : Type} [RouteTable σ] [RouteTable τ] [RouteTable υ] {a₀ a : Daemon σ} {l : List (Moment σ)}

/-- The host has asked a relay to probe a suspect, and awaits the answer by a deadline. -/
structure Investigates (a : Daemon σ) (relay suspect : HwAddr) (request : List UInt8) (n : Neighbor) (timer : TimerId) :
    Prop where
  asked : ∃ t ∈ a.transmissions, t.dest = some relay ∧ t.outcome = .ok request ∧
    ∃ p, t.packet = .investigation p ∧ p.role = .request ∧ p.investigate = suspect
  entry : a.neighbors.get? suspect = some n
  awaits : n.liveness = .awaitingInvestigativeAck
  bounded : n.timer? = some timer

/-- Three hosts with different addresses of one length bring a silent neighbor back: the relay probes the suspect, the
suspect sends its ack to the investigator, past the relay, and the ack ends the investigation. -/
theorem Run.recovery (h₀ : a₀.IsFresh) (h : Run a₀ l a) {r : Daemon τ} {s : Daemon υ}
    (hlr : r.link.hwaddr.length = a.link.hwaddr.length)
    (har : r.link.hwaddr ≠ a.link.hwaddr) (hrs : r.link.hwaddr ≠ s.link.hwaddr)
    {request : List UInt8} {n : Neighbor} {timer : TimerId}
    (hi : a.Investigates r.link.hwaddr s.link.hwaddr request n timer) (hknown : r.neighbors.get? s.link.hwaddr ≠ none)
    (hr : r.sink.Accepts 1) (hs : s.sink.Accepts (s.announces.length + 1)) :
    ∃ probe ack announces, Relays r a.link.hwaddr request s.link.hwaddr probe ∧
      Answers s r.link.hwaddr probe.frame a.link.hwaddr ack announces ∧
      Recovers a s.link.hwaddr ack.frame { n.settled with clock := s.clock } timer := by
  obtain ⟨t, ht, hdest, hout, p, hp, hrole, hsus⟩ := hi.asked
  obtain ⟨hsound, hspeech⟩ := h.speech h₀ t ht
  have hdecode := hspeech.decode_eq (hsound request hout)
  rw [Transmission.utterance, hdest, hp] at hspeech
  rw [Transmission.utterance, hp] at hdecode
  obtain ⟨-, hsrc⟩ := hspeech.src_of_request hrole
  rw [← hsus] at hknown hrs
  obtain ⟨probe, hrelays, hprobe⟩ := relays_of_request hspeech hrole hdecode har hrs hknown hr
  have hspoken : Speech r.link (some s.link.hwaddr, r.probeFor p) := by
    rw [← hsus]
    exact .probe r.clock (by rw [hsrc, hlr]) p.investigate
  have hlen : p.src.length = r.link.hwaddr.length := by rw [hsrc, hlr]
  rw [hsus] at hrs hrelays
  obtain ⟨ack, announces, hanswers⟩ := answers_of_probe hspoken hprobe hsus hsus hlen hrs.symm hs
  rw [hsrc] at hanswers
  have hsame : s.link.hwaddr.length = s.link.hwaddr.length := rfl
  exact ⟨probe, ack, announces, hrelays, hanswers,
    recovers_of_ack (h.regular h₀) hi.entry hi.awaits hi.bounded hanswers.packet rfl hsame rfl⟩

end

/-! ### A ping that the other host does not answer -/

/-- A host like the lone one at another address. -/
def neighborAt (hwaddr : HwAddr) : Daemon MemoryRoutes :=
  { lone 5 with link := { ifindex := 1, hwaddr := hwaddr } }

/-- The lone host has heard of both others, and has pinged the first. -/
def waiter : Daemon MemoryRoutes :=
  (((lone 5).handleFrame peer [1, 1, 0, 6, 2, 0, 0, 0, 0, 2]).2.handleFrame third [1, 1, 0, 6, 2, 0, 0, 0, 0, 3]).2.pingTick.2

/-- The ack has not come in time, and the third host is asked. -/
def investigator : Daemon MemoryRoutes :=
  { waiter with timers := waiter.timers.fire (ackDeadline 5) }.expire (ackDeadline 5)

/-- The third host has heard of the other. -/
def relay : Daemon MemoryRoutes :=
  ((neighborAt third).handleFrame peer [1, 1, 0, 6, 2, 0, 0, 0, 0, 2]).2

/-- The ping was lost: the third host reaches the other, whose ack brings it back. -/
theorem recovery_of_lost_ping : ∃ l request probe ack announces n, Run (lone 5) l investigator ∧
    Relays relay (lone 5).link.hwaddr request peer probe ∧
    Answers (neighborAt peer) third probe.frame (lone 5).link.hwaddr ack announces ∧ announces.length = 1 ∧
    n.isIdle ∧ Recovers investigator peer ack.frame n ⟨2⟩ := by
  have h : Run (lone 5) _ waiter := ((Run.nil.snoc (.frame _ _ _)).snoc (.frame _ _ _)).snoc (.pingTick _)
  have hdue : waiter.timers.soonest? = some (ackDeadline 5) := by decide
  have hi : investigator.Investigates third peer
      [1, 5, 6, 0, 0, 0, 0, 0, 2, 0, 0, 0, 0, 1, 2, 0, 0, 0, 0, 3, 2, 0, 0, 0, 0, 2]
      { ref := ⟨0⟩
        hwaddr := peer
        identity := (lone 5).etherXid peer
        liveness := .awaitingInvestigativeAck
        timer? := some ⟨2⟩ }
      ⟨2⟩ :=
    { asked := ⟨_, List.mem_cons_self, rfl, rfl, _, rfl, rfl, rfl⟩
      entry := by decide
      awaits := rfl
      bounded := rfl }
  have hrelay : relay.neighbors.get? peer ≠ none := by decide
  have hr : relay.sink.Accepts 1 := ⟨rfl, by decide⟩
  have hs : (neighborAt peer).sink.Accepts ((neighborAt peer).announces.length + 1) := ⟨rfl, by decide⟩
  have hrun : Run (lone 5) _ investigator := h.snoc (.expiry hdue)
  obtain ⟨probe, ack, announces, hrelays, hanswers, hrecovers⟩ :=
    Run.recovery (lone_isFresh 5) hrun (r := relay) (s := neighborAt peer) rfl (by decide) (by decide) hi hrelay hr hs
  refine ⟨_, _, probe, ack, announces, _, hrun, hrelays, hanswers, ?_, rfl, hrecovers⟩
  have hone : (neighborAt peer).announces.length = 1 := rfl
  simpa [hone] using congrArg List.length hanswers.broadcasts

end Daemon

end Neighborhood
