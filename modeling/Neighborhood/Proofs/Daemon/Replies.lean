import Neighborhood.Proofs.Daemon.Still
import Neighborhood.Segment

/-!
# What a host tries to say

* `Daemon.Tries` — an act has tried to send given packets, in order, and no others; one lemma for each function
* `Daemon.emitted` — the frames that have left in an act (`Tries.mem_emitted`, `Tries.emitted_eq`)
* `Daemon.announces`, `Daemon.listing?` — the announces of a host, and the list that it sends to others
* `Daemon.replies`, `Daemon.answers` — what a packet and what a frame move a host to say (`handleFrame_tries`);
  `Daemon.Reply` — each thing that may be said then
* `Daemon.Utters` — what a host says when something happens to it (`Step.utters`)
-/

namespace Neighborhood

/-- To whom a packet goes, to all without a destination, and the packet. -/
abbrev Utterance := Option HwAddr × Packet

namespace Transmission

def utterance (t : Transmission) : Utterance := (t.dest, t.packet)

/-- A frame that has left is the frame of the packet. -/
def Sound (t : Transmission) : Prop :=
  ∀ frame, t.outcome = .ok frame → t.packet.encode = .ok frame

/-- If the packet has a frame, it has left. -/
def Leaves (t : Transmission) : Prop :=
  ∀ frame, t.packet.encode = .ok frame → t.outcome = .ok frame

end Transmission

/-! ## Sinks that accept frames -/

namespace Sink

variable {s : Sink} {n : Nat}

/-- The next `n` sends succeed. -/
def Accepts (s : Sink) (n : Nat) : Prop :=
  s.failing = false ∧ ∀ refused ∈ s.refusals.take n, refused = false

theorem Accepts.mono {m : Nat} (h : s.Accepts n) (hm : m ≤ n) : s.Accepts m :=
  ⟨h.1, fun refused hr => h.2 refused ((List.take_sublist_take_left hm).subset hr)⟩

theorem Accepts.refuses (h : s.Accepts (n + 1)) : s.refuses = false := by
  obtain ⟨hf, hr⟩ := h
  unfold Sink.refuses
  rw [hf]
  cases he : s.refusals with
  | nil => rfl
  | cons refused rest => exact hr refused (by rw [he]; exact List.mem_cons_self)

theorem Accepts.send (h : s.Accepts (n + 1)) (dest : Option HwAddr) (frame : List UInt8) :
    (s.send dest frame).2.Accepts n := by
  unfold Sink.send
  rw [if_neg (by rw [h.refuses]; exact Bool.false_ne_true)]
  refine ⟨h.1, fun refused hr => h.2 refused ?_⟩
  cases he : s.refusals with
  | nil => simp [he] at hr
  | cons first rest =>
    simp only [he, List.tail_cons] at hr
    exact List.mem_cons_of_mem _ hr

end Sink

namespace Daemon

variable {σ : Type}

/-! ## Attempts -/

/-- The act has tried to send these packets, in this order, and no others; as many have left as the sink accepts. -/
def Tries (d : Daemon σ) (said : List Utterance) (d' : Daemon σ) : Prop :=
  ∃ new : List Transmission, d'.transmissions = new ++ d.transmissions ∧
    new.reverse.map Transmission.utterance = said ∧ (∀ t ∈ new, t.Sound) ∧
    ∀ n, d.sink.Accepts (said.length + n) → d'.sink.Accepts n ∧ ∀ t ∈ new, t.Leaves

namespace Tries

variable {d d₁ d₂ d₃ : Daemon σ} {said said' : List Utterance}

theorem of_eq (h : d₂.transmissions = d₁.transmissions) (hs : d₂.sink = d₁.sink) : Tries d₁ [] d₂ := by
  refine ⟨[], h, rfl, List.forall_mem_nil _, fun n hn => ⟨?_, List.forall_mem_nil _⟩⟩
  rw [hs]
  exact hn.mono (Nat.le_add_left _ _)

theorem refl (d : Daemon σ) : Tries d [] d := of_eq rfl rfl

theorem trans (h₁ : Tries d₁ said d₂) (h₂ : Tries d₂ said' d₃) : Tries d₁ (said ++ said') d₃ := by
  obtain ⟨new₁, he₁, rfl, hs₁, ha₁⟩ := h₁
  obtain ⟨new₂, he₂, rfl, hs₂, ha₂⟩ := h₂
  have hall : ∀ {P : Transmission → Prop}, (∀ t ∈ new₁, P t) → (∀ t ∈ new₂, P t) → ∀ t ∈ new₂ ++ new₁, P t :=
    fun h₁ h₂ t ht => (List.mem_append.1 ht).elim (h₂ t) (h₁ t)
  refine ⟨new₂ ++ new₁, by rw [he₂, he₁, List.append_assoc], by simp, hall hs₁ hs₂, fun n hn => ?_⟩
  rw [List.length_append, Nat.add_assoc] at hn
  obtain ⟨hn₂, hl₁⟩ := ha₁ _ hn
  obtain ⟨hn₃, hl₂⟩ := ha₂ _ hn₂
  exact ⟨hn₃, hall hl₁ hl₂⟩

/-- Nothing is said afterwards. -/
theorem still (h₁ : Tries d₁ said d₂) (h₂ : Tries d₂ [] d₃) : Tries d₁ said d₃ := by
  have h := h₁.trans h₂
  rwa [List.append_nil] at h

/-- What is on record was there before or has been said since. -/
theorem mem (h : Tries d said d₁) {t : Transmission} (ht : t ∈ d₁.transmissions) :
    t ∈ d.transmissions ∨ t.Sound ∧ t.utterance ∈ said := by
  obtain ⟨new, he, rfl, hs, -⟩ := h
  rw [he, List.mem_append] at ht
  exact ht.symm.imp_right fun ht => ⟨hs t ht, List.mem_map_of_mem (List.mem_reverse.2 ht)⟩

/-- One attempt, whatever becomes of it. -/
theorem one {t : Transmission} (he : d₂.transmissions = t :: d₁.transmissions) (hs : t.Sound)
    (ha : ∀ n, d₁.sink.Accepts (n + 1) → d₂.sink.Accepts n ∧ t.Leaves) : Tries d₁ [t.utterance] d₂ := by
  refine ⟨[t], he, rfl, List.forall_mem_singleton.2 hs, fun n hn => ?_⟩
  rw [List.length_singleton, Nat.add_comm] at hn
  exact ⟨(ha n hn).1, List.forall_mem_singleton.2 (ha n hn).2⟩

end Tries

theorem transmit_tries (d : Daemon σ) (dest : Option HwAddr) (packet : Packet) :
    Tries d [(dest, packet)] (d.transmit dest packet).2 := by
  unfold transmit
  cases he : packet.encode with
  | error e =>
    refine Tries.one (t := ⟨d.timers.now, dest, packet, .error (.encode e)⟩) rfl nofun fun n hn => ?_
    refine ⟨hn.mono (Nat.le_succ n), fun frame hf => ?_⟩
    cases he.symm.trans hf
  | ok frame =>
    have hsend : ∀ n, d.sink.Accepts (n + 1) →
        (d.sink.send dest frame).1 = .ok () ∧ (d.sink.send dest frame).2.Accepts n :=
      fun n hn => ⟨by unfold Sink.send; rw [hn.refuses]; rfl, hn.send dest frame⟩
    dsimp only
    split
    all_goals
      rename_i hr
      rw [hr] at hsend
    · refine Tries.one (t := ⟨d.timers.now, dest, packet, .ok frame⟩) rfl (fun frame' hf => ?_) fun n hn => ?_
      · cases hf
        exact he
      · refine ⟨(hsend n hn).2, fun frame' hf => ?_⟩
        cases he.symm.trans hf
        rfl
    · rename_i e sink
      refine Tries.one (t := ⟨d.timers.now, dest, packet, .error e⟩) rfl nofun fun n hn => ?_
      cases (hsend n hn).1

theorem broadcastAll_tries : ∀ (ps : List Packet) (d : Daemon σ),
    Tries d (ps.map (none, ·)) (d.broadcastAll ps).2
  | [], d => .refl d
  | p :: ps, d => (transmit_tries d none p).trans (broadcastAll_tries ps _)

/-! ### Frames that have left -/

/-- The frame of what is said, and to whom it goes. -/
def Utterance.frame? (u : Utterance) : Option SentFrame :=
  u.2.encode.toOption.map (⟨u.1, ·⟩)

/-- The frames that have left between two states of a host, in order. -/
def emitted (before after : Daemon σ) : List Departure :=
  (after.transmissions.take (after.transmissions.length - before.transmissions.length)).reverse.filterMap
    Departure.ofTransmission?

namespace Tries

variable {d d' : Daemon σ} {said : List Utterance}

theorem mem_emitted (h : Tries d said d') {f : Departure} (hf : f ∈ d.emitted d') :
    ∃ p, (f.dest, p) ∈ said ∧ p.encode = .ok f.frame := by
  obtain ⟨new, he, rfl, hs, -⟩ := h
  rw [emitted, he, List.length_append, Nat.add_sub_cancel, List.take_left] at hf
  obtain ⟨t, ht, ho⟩ := List.mem_filterMap.1 hf
  unfold Departure.ofTransmission? at ho
  split at ho
  · rename_i frame hframe
    cases ho
    exact ⟨t.packet, List.mem_map_of_mem ht, hs t (List.mem_reverse.1 ht) frame hframe⟩
  · cases ho

/-- While the sink accepts frames, all that is said has left that has a frame. -/
theorem emitted_eq (h : Tries d said d') (ha : d.sink.Accepts said.length) :
    (d.emitted d').map (·.toSentFrame) = said.filterMap Utterance.frame? := by
  obtain ⟨new, he, rfl, hs, hl⟩ := h
  have hleaves := (hl 0 ha).2
  rw [emitted, he, List.length_append, Nat.add_sub_cancel, List.take_left, List.map_filterMap, List.filterMap_map]
  refine List.filterMap_congr fun t ht => ?_
  rw [List.mem_reverse] at ht
  simp only [Function.comp, Departure.ofTransmission?, Utterance.frame?, Transmission.utterance]
  cases ho : t.outcome with
  | ok frame =>
    rw [hs t ht frame ho]
    rfl
  | error e =>
    cases hp : t.packet.encode with
    | ok frame => cases ho.symm.trans (hleaves t ht frame hp)
    | error _ => rfl

end Tries

/-! ### Probes -/

/-- The request to a relay to probe a suspect. -/
def requestTo (d : Daemon σ) (suspect relay : HwAddr) : Packet :=
  .investigation
    { role := .request, clock := d.clock, src := d.link.hwaddr, dest := relay, investigate := suspect }

/-- The acknowledgement that goes to a host. -/
def ackTo (d : Daemon σ) (dest : HwAddr) : Packet :=
  .monitor { role := .ack, clock := d.clock, src := d.link.hwaddr, dest := dest }

theorem Sends.requestTo {d d' : Daemon σ} (h : Sends d d') : d'.requestTo = d.requestTo := by
  obtain ⟨_, _, _, _, rfl⟩ := h
  rfl

/-- The requests about a suspect, one for each relay. -/
def requests (d : Daemon σ) (suspect : HwAddr) (relays : List Neighbor) : List Utterance :=
  relays.map fun relay => (some relay.hwaddr, d.requestTo suspect relay.hwaddr)

theorem askRelays_tries (suspect : HwAddr) : ∀ (relays : List Neighbor) (d : Daemon σ),
    Tries d (d.requests suspect relays) (d.askRelays suspect relays)
  | [], d => .refl d
  | relay :: relays, d => by
    have hs := (transmit_sends d (some relay.hwaddr) (d.requestTo suspect relay.hwaddr)).requestTo
    have ih := askRelays_tries suspect relays (d.send relay.hwaddr (d.requestTo suspect relay.hwaddr)).2
    rw [requests, send, hs] at ih
    exact (transmit_tries d _ _).trans ih

theorem settle_tries (d : Daemon σ) (n : Neighbor) : Tries d [] (d.settle n) := by
  rw [settle_eq]
  exact .refl d

theorem giveUp_tries (d : Daemon σ) (ref : NeighborRef) (timer : TimerId) : Tries d [] (d.giveUp ref timer) := by
  rcases giveUp_cases d ref timer with ⟨n, -, he⟩ | he <;> rw [he]
  · exact settle_tries d n
  · exact .refl d

theorem ping_tries (d : Daemon σ) (n : Neighbor) : Tries d [(some n.hwaddr, d.pingTo n.hwaddr)] (d.ping n).2 := by
  have ht : Tries d _ _ := transmit_tries (d.awaitAck n) (some n.hwaddr) (d.pingTo n.hwaddr)
  rw [ping_eq]
  split
  all_goals
    rename_i d' he
    rw [he] at ht
  · exact ht
  · exact ht.still (giveUp_tries d' _ _)

theorem pingTick_tries (d : Daemon σ) : Tries d
    ((d.neighbors.pick? d.lots).1.toList.map fun n => (some n.hwaddr, d.pingTo n.hwaddr)) d.pingTick.2 := by
  unfold pingTick
  split
  all_goals
    rename_i he
    rw [he]
  · exact .refl d
  · exact ping_tries _ _

/-- Some relays are asked once the answer has a deadline. -/
theorem escalate_tries (d : Daemon σ) (n : Neighbor) :
    ∃ relays, Tries d (d.requests n.hwaddr relays) (d.escalate n) := by
  rw [escalate_eq]
  exact ⟨_, askRelays_tries n.hwaddr _ { d.awaitAnswer n with metrics := _, lots := _ }⟩

theorem onAckTimeout_tries (d : Daemon σ) (ref : NeighborRef) (timer : TimerId) :
    ∃ suspect relays, Tries d (d.requests suspect relays) (d.onAckTimeout ref timer) := by
  unfold onAckTimeout
  split
  · rename_i n _
    split
    · exact ⟨n.hwaddr, escalate_tries d n⟩
    · exact ⟨n.hwaddr, [], .refl d⟩
  · exact ⟨d.link.hwaddr, [], .refl d⟩

theorem notePing_tries (d : Daemon σ) (sender : HwAddr) (clock : Int32) : Tries d [] (d.notePing sender clock) := by
  unfold notePing
  split
  · exact .refl d
  · rename_i n _
    have hc : Tries d [] { d with neighbors := d.neighbors.setClock n.ref clock } := .of_eq rfl rfl
    dsimp only
    split
    · exact hc.still (settle_tries _ n)
    · exact hc

theorem noteAck_tries (d : Daemon σ) (sender : HwAddr) (clock : Int32) : Tries d [] (d.noteAck sender clock) := by
  unfold noteAck
  split
  · exact .refl d
  · rename_i n _
    split
    · exact .refl d
    · exact (settle_tries d n).still (.of_eq rfl rfl)

theorem settleAll_tries : ∀ (ns : List Neighbor) (d : Daemon σ), Tries d [] (d.settleAll ns)
  | [], d => .refl d
  | n :: ns, d => (settle_tries d n).trans (settleAll_tries ns _)

theorem shutdown_tries (d : Daemon σ) : Tries d [] d.shutdown :=
  settleAll_tries d.neighbors.entries d.cancelPeriodic

theorem judge_tries (d : Daemon σ) (answer : Except Error Unit) : Tries d [] (d.judge answer).2 := by
  unfold judge
  split
  · exact .refl d
  · dsimp only
    split
    · exact .of_eq rfl rfl
    · exact .refl d

/-! ## Routes and neighbors -/

theorem noteRequest_tries {α : Type} (d : Daemon σ) (routes : σ) (answer : Except Error α) :
    Tries d [] ({ d with routes := routes }.noteRequest answer) := by
  unfold noteRequest
  cases answer <;> exact .of_eq rfl rfl

theorem register_tries (d : Daemon σ) (a : HwAddr) (identity : Xid) : Tries d [] (d.register a identity) := by
  unfold register
  split <;> exact .of_eq rfl rfl

section
variable [RouteTable σ]

theorem installRoute_tries (d : Daemon σ) (dst : Xid) (gateway : Option Xid) :
    Tries d [] (d.installRoute dst gateway).2 :=
  noteRequest_tries d _ _

theorem withdrawRoute_tries (d : Daemon σ) (dst : Xid) : Tries d [] (d.withdrawRoute dst).2 :=
  noteRequest_tries d _ _

theorem dumpRoutes_tries (d : Daemon σ) (table : TableId) (filter : RouteFilter) :
    Tries d [] (d.dumpRoutes table filter).2 :=
  noteRequest_tries d _ _

theorem installPrefixes_tries (gateway : Xid) : ∀ (ids : List Identifier) (d : Daemon σ),
    Tries d [] (d.installPrefixes gateway ids)
  | [], d => .refl d
  | _ :: ids, d => (installRoute_tries d _ _).trans (installPrefixes_tries gateway ids _)

theorem withdrawRoutes_tries : ∀ (dsts : List Xid) (d : Daemon σ), Tries d [] (d.withdrawRoutes dsts)
  | [], d => .refl d
  | dst :: dsts, d => (withdrawRoute_tries d dst).trans (withdrawRoutes_tries dsts _)

theorem withdrawNeighbor_tries (d : Daemon σ) (identity : Xid) : Tries d [] (d.withdrawNeighbor identity) := by
  unfold withdrawNeighbor
  have hd := dumpRoutes_tries d .main { dstType := some d.types.ad, gwType := some d.types.ether, gw := some identity }
  dsimp only
  split
  all_goals
    rename_i d' he
    rw [he] at hd
  · exact (hd.still (withdrawRoutes_tries _ d')).still (withdrawRoute_tries _ identity)
  · exact hd.still (withdrawRoute_tries d' identity)

theorem onInvestigationTimeout_tries (d : Daemon σ) (ref : NeighborRef) (timer : TimerId) :
    Tries d [] (d.onInvestigationTimeout ref timer) := by
  rw [onInvestigationTimeout_eq]
  split
  · rename_i n _
    have hn : Tries d [] { d with neighbors := d.neighbors.depart n } := .of_eq rfl rfl
    exact (hn.still (withdrawNeighbor_tries _ n.identity)).still (.of_eq rfl rfl)
  · exact .refl d

theorem learn_tries (d : Daemon σ) (sender : HwAddr) (a : Announce) : Tries d [] (d.learn sender a) :=
  ((installRoute_tries d _ _).still (register_tries _ sender _)).still (installPrefixes_tries _ a.xids _)

theorem acceptRecord_tries (d : Daemon σ) (r : NeighborRecord) : Tries d [] (d.acceptRecord r) := by
  unfold acceptRecord
  split
  · split
    · exact .refl d
    · exact ((installRoute_tries d _ _).still (installRoute_tries _ _ _)).still (register_tries _ _ _)
  · exact .refl d

theorem acceptRecords_tries : ∀ (rs : List NeighborRecord) (d : Daemon σ), Tries d [] (d.acceptRecords rs)
  | [], d => .refl d
  | r :: rs, d => (acceptRecord_tries d r).trans (acceptRecords_tries rs _)

/-! ## Announces and lists -/

omit [RouteTable σ] in
/-- An announce of this host. -/
def announcement (d : Daemon σ) (xids : List Identifier) : Packet :=
  .announce { hwaddr := d.link.hwaddr, xids := xids }

/-- The announces of a host: one for each of its own prefixes, or one without prefix, or none if it cannot read them. -/
def announces (d : Daemon σ) : List Packet :=
  match (d.dumpRoutes .own (.destinations d.types.ad)).1 with
  | none => []
  | some [] => [d.announcement []]
  | some own => own.map fun r => d.announcement [r.dst.id]

theorem exists_of_mem_announces {d : Daemon σ} {p : Packet} (hp : p ∈ d.announces) :
    ∃ xids : List Identifier, xids.length ≤ 1 ∧ d.announcement xids = p := by
  unfold announces at hp
  split at hp
  · cases hp
  · exact ⟨[], Nat.zero_le 1, (List.mem_singleton.1 hp).symm⟩
  · obtain ⟨r, -, rfl⟩ := List.mem_map.1 hp
    exact ⟨[r.dst.id], Nat.le_refl 1, rfl⟩

theorem announces_congr {d d' : Daemon σ} (h : SameHost d d') (hr : d'.routes = d.routes) :
    d'.announces = d.announces := by
  simp only [announces, announcement, dumpRoutes, h.types, h.link, hr]

theorem announce_tries (d : Daemon σ) : Tries d (d.announces.map (none, ·)) d.announce.2 := by
  have hd := dumpRoutes_tries d .own (.destinations d.types.ad)
  have ho := (dumpRoutes_outward d .own (.destinations d.types.ad)).aside
  unfold announce announces
  rcases hr : d.dumpRoutes .own (.destinations d.types.ad) with ⟨own, d'⟩
  rw [hr] at hd ho
  have hp : d.announcement = d'.announcement := by
    funext xids
    rw [announcement, announcement, ho.link]
  have hc : ∀ n, Tries d [] { d' with counters := d'.counters.setOwn n } := fun _ => hd.still (.of_eq rfl rfl)
  rw [hp]
  match own with
  | none => exact hd
  | some [] => exact (hc _).trans (transmit_tries _ none (d'.announcement []))
  | some (r :: rs) =>
    have hb := broadcastAll_tries ((r :: rs).map fun r => d'.announcement [r.dst.id])
      { d' with counters := d'.counters.setOwn (UInt32.ofNat (r :: rs).length) }
    exact (hc _).trans hb

theorem tryAnnounce_tries (d : Daemon σ) :
    Tries d [] d.tryAnnounce ∨ Tries d (d.announces.map (none, ·)) d.tryAnnounce := by
  have hs : Tries d [] d.shouldAnnounce.2 := .of_eq rfl rfl
  have ha : d.shouldAnnounce.2.announces = d.announces :=
    announces_congr (shouldAnnounce_outward d).aside.sameHost rfl
  unfold tryAnnounce
  split
  all_goals
    rename_i d' he
    rw [he] at hs ha
  · rw [← ha]
    exact .inr (hs.trans (announce_tries d'))
  · exact .inl hs

theorem start_tries (d : Daemon σ) : Tries d (d.announces.map (none, ·)) d.start :=
  (announce_tries d).still (.of_eq rfl rfl)

/-- The list of the prefixes behind the neighbors, if the routes can be read. -/
def listing? (d : Daemon σ) : Option NeighborList :=
  match d.dumpRoutes .main (.destinations d.types.ether) with
  | (none, _) => none
  | (some onLink, d') =>
    (d'.dumpRoutes .main { dstType := some d.types.ad, gwType := some d.types.ether }).1.map
      (listNeighbors d.link onLink)

/-- The list, as it is said to one host. -/
def listingTo (d : Daemon σ) (dest : HwAddr) : List Utterance :=
  d.listing?.toList.map fun list => (some dest, .neighborList list)

theorem listingTo_congr {d d' : Daemon σ} (h : SameHost d d') (hr : d'.routes = d.routes) (dest : HwAddr) :
    d'.listingTo dest = d.listingTo dest := by
  simp only [listingTo, listing?, dumpRoutes, h.types, h.link, hr]
  cases (RouteTable.dump d.routes .main (.destinations d.types.ether)).1 <;> rfl

theorem sendNeighborList_tries (d : Daemon σ) (dest : HwAddr) :
    Tries d (d.listingTo dest) (d.sendNeighborList dest).2 := by
  have h₁ := dumpRoutes_tries d .main (.destinations d.types.ether)
  have ho := (dumpRoutes_outward d .main (.destinations d.types.ether)).aside
  unfold sendNeighborList listingTo listing?
  rcases hr : d.dumpRoutes .main (.destinations d.types.ether) with ⟨onLink, d₁⟩
  rw [hr] at h₁ ho
  match onLink with
  | none => exact h₁
  | some onLink =>
    rw [← ho.types, ← ho.link]
    -- what is counted in between does not matter for the second dump
    generalize hc : d₁.counters.setDiscovered (UInt32.ofNat onLink.length) = counters
    have h₂ := dumpRoutes_tries { d₁ with counters := counters } .main
      { dstType := some d₁.types.ad, gwType := some d₁.types.ether }
    have ho₂ := (dumpRoutes_outward { d₁ with counters := counters } .main
      { dstType := some d₁.types.ad, gwType := some d₁.types.ether }).aside
    have hsame : (d₁.dumpRoutes .main { dstType := some d₁.types.ad, gwType := some d₁.types.ether }).1 =
        ({ d₁ with counters := counters }.dumpRoutes .main
          { dstType := some d₁.types.ad, gwType := some d₁.types.ether }).1 := rfl
    dsimp only
    rw [hsame, hc]
    rcases hr₂ : ({ d₁ with counters := counters } : Daemon σ).dumpRoutes .main
      { dstType := some d₁.types.ad, gwType := some d₁.types.ether } with ⟨prefixes, d₂⟩
    rw [hr₂] at h₂ ho₂
    have h : Tries d [] d₂ := h₁.still h₂
    cases prefixes with
    | none => exact h
    | some prefixes =>
      have hl : d₁.link = d₂.link := ho₂.link.symm
      rw [hl]
      exact h.trans (transmit_tries d₂ (some dest) (.neighborList (listNeighbors d₂.link onLink prefixes)))

/-! ## Replies -/

omit [RouteTable σ] in
/-- The probe that a request asks for. -/
def probeFor (d : Daemon σ) (p : Investigation) : Packet :=
  .investigation { role := .probe, clock := d.clock, src := p.src, dest := p.investigate, investigate := p.investigate }

/-- The host of an announce is answered with a list if it is this host's turn. -/
def turnListing (d : Daemon σ) (sender : HwAddr) : List Utterance :=
  if d.myTurn.1 then d.listingTo sender else []

/-- What a packet moves a host to say. -/
def replies (d : Daemon σ) (sender : HwAddr) : Packet → List Utterance
  | .announce a => if a.rejection? d.link sender = none then (d.learn sender a).turnListing sender else []
  | .neighborList _ => []
  | .monitor p =>
    if p.src.length = sender.length ∧ d.link.accepts p.dest ∧ p.role = .ping then [(some sender, d.ackTo sender)]
    else []
  | .investigation p =>
    if p.src.length = sender.length ∧ p.dest = d.link.hwaddr then
      if p.investigate = d.link.hwaddr then (some p.src, d.ackTo p.src) :: d.announces.map (none, ·)
      else if p.role = .request ∧ d.neighbors.get? p.investigate ≠ none then [(some p.investigate, d.probeFor p)]
      else []
    else []

theorem replyTo_tries (d : Daemon σ) (sender : HwAddr) : Tries d (d.turnListing sender) (d.replyTo sender) := by
  have ht : Tries d [] d.myTurn.2 := .of_eq rfl rfl
  have hl : d.myTurn.2.listingTo sender = d.listingTo sender :=
    listingTo_congr (myTurn_outward d).aside.sameHost rfl sender
  unfold turnListing replyTo
  rcases hm : d.myTurn with ⟨mine, d'⟩
  rw [hm] at ht hl
  cases mine with
  | true =>
    rw [if_pos rfl, ← hl]
    exact ht.trans (sendNeighborList_tries d' sender)
  | false => exact ht

theorem acceptAnnounce_tries (d : Daemon σ) (sender : HwAddr) (a : Announce) :
    Tries d ((d.learn sender a).turnListing sender) (d.acceptAnnounce sender a) := by
  rw [acceptAnnounce_eq]
  exact ((learn_tries d sender a).trans (replyTo_tries _ sender)).still (.of_eq rfl rfl)

omit [RouteTable σ] in
theorem Tends.ackTo {d d' : Daemon σ} (h : Tends d d') : d'.ackTo = d.ackTo := by
  obtain ⟨_, _, _, _, _, _, _, _, rfl, -, -⟩ := h
  rfl

theorem processMonitor_tries (d : Daemon σ) (sender : HwAddr) (p : Monitor) :
    Tries d (d.replies sender (.monitor p)) (d.processMonitor sender p).2 := by
  simp only [processMonitor, replies]
  by_cases hs : p.src.length = sender.length
  · rw [if_neg (not_not_intro hs)]
    cases ha : d.link.accepts p.dest with
    | true =>
      rw [if_neg (show ¬ (!true) = true by decide)]
      cases p.role with
      | ping =>
        rw [if_pos ⟨hs, rfl, rfl⟩, ← (notePing_tends d sender p.clock).ackTo]
        exact (notePing_tries d sender p.clock).trans (transmit_tries _ _ _)
      | ack =>
        rw [if_neg fun h => absurd h.2.2 (by decide)]
        exact noteAck_tries d sender p.clock
    | false =>
      rw [if_pos (show (!false) = true from rfl), if_neg fun h => Bool.false_ne_true h.2.1]
      exact .refl d
  · rw [if_pos hs, if_neg fun h => hs h.1]
    exact .refl d

theorem answerInvestigation_tries (d : Daemon σ) (investigator : HwAddr) :
    Tries d ((some investigator, d.ackTo investigator) :: d.announces.map (none, ·))
      (d.answerInvestigation investigator) := by
  have ha : Tries d _ (d.sendAck investigator) := transmit_tries d (some investigator) (d.ackTo investigator)
  have hs : (d.sendAck investigator).announces = d.announces :=
    announces_congr (sendAck_sends d investigator).aside.sameHost (sendAck_sends d investigator).routes
  rw [← hs]
  exact ha.trans (announce_tries _)

theorem processInvestigation_tries (d : Daemon σ) (sender : HwAddr) (p : Investigation) :
    Tries d (d.replies sender (.investigation p)) (d.processInvestigation sender p).2 := by
  simp only [processInvestigation, replies]
  by_cases hs : p.src.length = sender.length
  · rw [if_neg (not_not_intro hs)]
    by_cases hd : p.dest = d.link.hwaddr
    · rw [if_neg (not_not_intro hd), if_pos ⟨hs, hd⟩]
      by_cases hi : p.investigate = d.link.hwaddr
      · rw [if_pos hi, if_pos hi]
        exact answerInvestigation_tries d p.src
      · rw [if_neg hi, if_neg hi]
        cases p.role with
        | request =>
          unfold relayInvestigation
          cases d.neighbors.get? p.investigate with
          | none => exact .refl d
          | some n => exact transmit_tries d (some p.investigate) (d.probeFor p)
        | probe => exact .refl d
    · rw [if_pos hd, if_neg fun h => hd h.2]
      exact .refl d
  · rw [if_pos hs, if_neg fun h => hs h.1]
    exact .refl d

theorem process_tries (d : Daemon σ) (sender : HwAddr) :
    ∀ p, Tries d (d.replies sender p) (d.process sender p).2
  | .announce a => by
    simp only [replies, process, processAnnounce]
    cases a.rejection? d.link sender with
    | none => exact acceptAnnounce_tries d sender a
    | some cause => exact .refl d
  | .neighborList l => by
    simp only [replies, process, processNeighborList]
    split
    · exact .refl d
    · exact acceptRecords_tries l.neighbors d
  | .monitor p => processMonitor_tries d sender p
  | .investigation p => processInvestigation_tries d sender p

omit [RouteTable σ] in
/-- The packet has been counted. -/
def counted (d : Daemon σ) (p : Packet) : Daemon σ :=
  { d with metrics := d.metrics.recordReceived p.kind }

/-- What a frame moves a host to say. -/
def answers (d : Daemon σ) (sender : HwAddr) (bytes : List UInt8) : List Utterance :=
  match Packet.decode bytes with
  | .ok p => (d.counted p).replies sender p
  | .error _ => []

/-- The ways in which a packet moves a host to say something. -/
inductive Reply (d : Daemon σ) (sender : HwAddr) : Packet → Utterance → Prop
  | list {a : Announce} {u : Utterance} : a.rejection? d.link sender = none →
      u ∈ (d.learn sender a).listingTo sender → Reply d sender (.announce a) u
  | ack {p : Monitor} : p.role = .ping → Reply d sender (.monitor p) (some sender, d.ackTo sender)
  | answer (p : Investigation) : Reply d sender (.investigation p) (some p.src, d.ackTo p.src)
  | announce (p : Investigation) {q : Packet} : q ∈ d.announces → Reply d sender (.investigation p) (none, q)
  | probe {p : Investigation} : p.role = .request → p.dest = d.link.hwaddr →
      Reply d sender (.investigation p) (some p.investigate, d.probeFor p)

namespace Reply

variable {d : Daemon σ} {sender : HwAddr} {u : Utterance}

theorem of_mem : ∀ {p : Packet}, u ∈ d.replies sender p → d.Reply sender p u
  | .announce a, hu => by
    simp only [replies] at hu
    split at hu
    · rename_i hr
      unfold turnListing at hu
      split at hu
      · exact .list hr hu
      · cases hu
    · cases hu
  | .neighborList _, hu => by cases hu
  | .monitor p, hu => by
    simp only [replies] at hu
    split at hu
    · rename_i h
      rw [List.mem_singleton.1 hu]
      exact .ack h.2.2
    · cases hu
  | .investigation p, hu => by
    simp only [replies] at hu
    split at hu
    · rename_i h
      split at hu
      · rcases List.mem_cons.1 hu with rfl | hu
        · exact .answer p
        · obtain ⟨q, hq, rfl⟩ := List.mem_map.1 hu
          exact .announce p hq
      · split at hu
        · rename_i hr
          rw [List.mem_singleton.1 hu]
          exact .probe hr.1 h.2
        · cases hu
    · cases hu

theorem of_mem_answers {bytes : List UInt8} (hu : u ∈ d.answers sender bytes) :
    ∃ p, Packet.decode bytes = .ok p ∧ (d.counted p).Reply sender p u := by
  unfold answers at hu
  split at hu
  · rename_i p hp
    exact ⟨p, hp, of_mem hu⟩
  · cases hu

end Reply

theorem handleFrame_tries (d : Daemon σ) (sender : HwAddr) (bytes : List UInt8) :
    Tries d (d.answers sender bytes) (d.handleFrame sender bytes).2 := by
  unfold handleFrame answers
  cases Packet.decode bytes with
  | error e => exact judge_tries d _
  | ok p =>
    have hp : Tries d [] (d.counted p) := .of_eq rfl rfl
    exact (hp.trans (process_tries _ sender p)).still (judge_tries _ _)

/-! ## Steps -/

/-- What a host says when something happens to it. -/
inductive Utters (d : Daemon σ) : Event → List Utterance → Prop
  | nothing (e : Event) : Utters d e []
  | answers (sender : HwAddr) (bytes : List UInt8) : Utters d (.frame sender bytes) (d.answers sender bytes)
  | announces (e : Event) : Utters d e (d.announces.map (none, ·))
  | ping (e : Event) (host : HwAddr) : Utters d e [(some host, d.pingTo host)]
  | requests (e : Event) (suspect : HwAddr) (relays : List Neighbor) : Utters d e (d.requests suspect relays)

/-- What the timers show does not matter to what a host says when one fires. -/
theorem Utters.of_timers {d : Daemon σ} {timers : Timers Alarm} {t : Timer Alarm} {said : List Utterance}
    (h : Utters { d with timers := timers } (.expiry t) said) : d.Utters (.expiry t) said := by
  cases h with
  | nothing => exact .nothing _
  | announces => exact .announces _
  | ping _ host => exact .ping _ host
  | requests _ suspect relays => exact .requests _ suspect relays

theorem pingTick_utters (d : Daemon σ) (e : Event) : ∃ said, d.Utters e said ∧ Tries d said d.pingTick.2 := by
  have h := pingTick_tries d
  cases hp : (d.neighbors.pick? d.lots).1 with
  | none =>
    rw [hp] at h
    exact ⟨_, .nothing e, h⟩
  | some n =>
    rw [hp] at h
    exact ⟨_, .ping e n.hwaddr, h⟩

theorem tryAnnounce_utters (d : Daemon σ) (e : Event) : ∃ said, d.Utters e said ∧ Tries d said d.tryAnnounce := by
  rcases tryAnnounce_tries d with h | h
  · exact ⟨_, .nothing e, h⟩
  · exact ⟨_, .announces e, h⟩

theorem expire_utters (d : Daemon σ) (t : Timer Alarm) (e : Event) :
    ∃ said, d.Utters e said ∧ Tries d said (d.expire t) := by
  unfold expire
  split
  · exact tryAnnounce_utters d e
  · exact pingTick_utters d e
  · obtain ⟨suspect, relays, h⟩ := onAckTimeout_tries d _ t.id
    exact ⟨_, .requests e suspect relays, h⟩
  · exact ⟨_, .nothing e, onInvestigationTimeout_tries d _ t.id⟩
  · exact ⟨_, .nothing e, .refl d⟩

/-- Beyond what happens around it, a host does in a step what it says. -/
theorem Step.tries {d d' : Daemon σ} {e : Event} : Step d e d' →
    (∃ said, d.Utters e said ∧ Tries d said d') ∨ d'.transmissions = d.transmissions
  | .frame _ sender bytes => .inl ⟨_, .answers sender bytes, handleFrame_tries d sender bytes⟩
  | .pingTick _ => .inl (pingTick_utters d _)
  | .announce _ => .inl ⟨_, .announces _, announce_tries d⟩
  | .tryAnnounce _ => .inl (tryAnnounce_utters d _)
  | .start _ => .inl ⟨_, .announces _, start_tries d⟩
  | .shutdown _ => .inl ⟨_, .nothing _, shutdown_tries d⟩
  | .expiry (t := t) _ =>
    have ⟨said, hs, ht⟩ := expire_utters { d with timers := d.timers.fire t } t (.expiry t)
    .inl ⟨said, hs.of_timers, ht⟩
  | .pass _ => .inr rfl
  | .surroundings _ _ _ => .inr rfl

/-- What is on record was there before the step or has been said in it. -/
theorem Step.utters {d d' : Daemon σ} {e : Event} (hs : Step d e d') {t : Transmission} (ht : t ∈ d'.transmissions) :
    t ∈ d.transmissions ∨ t.Sound ∧ ∃ said, d.Utters e said ∧ t.utterance ∈ said := by
  rcases hs.tries with ⟨said, hsaid, htries⟩ | he
  · exact (htries.mem ht).imp_right fun h => ⟨h.1, said, hsaid, h.2⟩
  · exact .inl (he ▸ ht)

end

end Daemon

end Neighborhood
