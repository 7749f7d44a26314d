import Neighborhood.Proofs.Daemon.Receipt
import Neighborhood.Proofs.Daemon.Replies
import Neighborhood.Proofs.Packet.Layout

/-!
# What hosts say is understood

* `Speech` — what a host on a link says, whatever happens to it (`Daemon.Run.speech`)
* `Speech.decode_eq` — the frame of what is said is read as it was meant
* `Speech.accepted` — no rule of a host with another address of the same length refuses it
* `Daemon.Run.understood` — no frame of a host is at fault for another host, in whatever state both are
-/

namespace Neighborhood

/-! ## Speech -/

/-- What a host on the link says: announces of at most one prefix, lists of addresses of its length, probes and acks in
its own name, and probes of suspects for investigators with an address of its length. -/
inductive Speech (link : LocalLink) : Utterance → Prop
  | announce {xids : List Identifier} (hx : xids.length ≤ 1) :
      Speech link (none, .announce { hwaddr := link.hwaddr, xids := xids })
  | neighborList (dest : HwAddr) {list : NeighborList} (hl : list.haddrLen = UInt8.ofNat link.hwaddr.length) :
      Speech link (some dest, .neighborList list)
  | monitor (role : Monitor.Role) (clock : Int32) (dest : HwAddr) :
      Speech link (some dest, .monitor { role := role, clock := clock, src := link.hwaddr, dest := dest })
  | request (clock : Int32) (relay suspect : HwAddr) : Speech link (some relay,
      .investigation { role := .request, clock := clock, src := link.hwaddr, dest := relay, investigate := suspect })
  | probe (clock : Int32) {src : HwAddr} (hs : src.length = link.hwaddr.length) (suspect : HwAddr) :
      Speech link (some suspect,
        .investigation { role := .probe, clock := clock, src := src, dest := suspect, investigate := suspect })

/-- What a frame says, and to whom. -/
def Departure.saying (f : Departure) : Option HwAddr × Except DecodeError Packet :=
  (f.dest, f.packet)

namespace Speech

variable {link : LocalLink} {u : Utterance}

/-- The frame of what is said is read as it was meant. -/
theorem decode_eq (h : Speech link u) {frame : List UInt8} (he : u.2.encode = .ok frame) :
    Packet.decode frame = .ok u.2 := by
  obtain ⟨hfit, rfl⟩ := Packet.encode_eq_ok_iff.1 he
  refine Packet.decode_frame hfit fun l hl => ?_
  cases h with
  | neighborList dest hlen =>
    cases hl
    rw [hlen]
    exact Reader.isLength_length _
  | announce | monitor | request | probe => cases hl

/-- What is said to all has a frame. -/
theorem fits_of_broadcast {p : Packet} (h : Speech link (none, p)) : p.Fits := by
  cases h with
  | announce hx => exact Nat.le_trans hx (by decide)

theorem rejection?_eq_none {a : Announce} (h : Speech link (none, .announce a)) {other : LocalLink}
    (hne : other.hwaddr ≠ link.hwaddr) : a.rejection? other link.hwaddr = none := by
  cases h with
  | announce hx => simp [Announce.rejection?, Nat.not_lt.2 hx, hne.symm]

/-- A request names its own host as the investigator. -/
theorem src_of_request {dest : Option HwAddr} {p : Investigation} (h : Speech link (dest, .investigation p))
    (hr : p.role = .request) : dest = some p.dest ∧ p.src = link.hwaddr := by
  generalize hu : (dest, Packet.investigation p) = u at h
  cases h with
  | request => cases hu; exact ⟨rfl, rfl⟩
  | probe => cases hu; cases hr
  | announce | neighborList | monitor => cases hu

/-- The rules of another host let through what is said. -/
theorem accepted {σ : Type} [RouteTable σ] (h : Speech link u) {d : Daemon σ}
    (hl : d.link.hwaddr.length = link.hwaddr.length) (hne : d.link.hwaddr ≠ link.hwaddr) :
    (d.process link.hwaddr u.2).1 = .ok () := by
  cases h with
  | announce hx =>
    have hr := (announce hx).rejection?_eq_none hne
    simp only [Daemon.process, Daemon.processAnnounce]
    rw [hr]
  | neighborList dest hlen =>
    have hlen' := Reader.toNat_ofNat_length link.hwaddr
    rw [← hlen, ← hl] at hlen'
    simp only [Daemon.process, Daemon.processNeighborList]
    rw [if_neg (not_not_intro hlen')]
  | monitor role =>
    simp only [Daemon.process, Daemon.processMonitor]
    rw [if_neg (not_not_intro rfl)]
    split
    · rfl
    · cases role <;> rfl
  | request =>
    simp only [Daemon.process, Daemon.processInvestigation]
    rw [if_neg (not_not_intro rfl)]
    split
    · rfl
    · split <;> rfl
  | probe clock hs =>
    simp only [Daemon.process, Daemon.processInvestigation]
    rw [if_neg (not_not_intro hs)]
    split
    · rfl
    · split <;> rfl

end Speech

namespace Daemon

variable {σ : Type}

theorem pingTo_speech (d : Daemon σ) (host : HwAddr) : Speech d.link (some host, d.pingTo host) :=
  .monitor .ping d.clock host

theorem ackTo_speech (d : Daemon σ) (host : HwAddr) : Speech d.link (some host, d.ackTo host) :=
  .monitor .ack d.clock host

theorem requests_speech (d : Daemon σ) {suspect : HwAddr} {relays : List Neighbor} {u : Utterance}
    (hu : u ∈ d.requests suspect relays) : Speech d.link u := by
  obtain ⟨relay, -, rfl⟩ := List.mem_map.1 hu
  exact .request d.clock relay.hwaddr suspect

section
variable [RouteTable σ]

theorem announces_speech (d : Daemon σ) {u : Utterance} (hu : u ∈ d.announces.map (none, ·)) : Speech d.link u := by
  obtain ⟨p, hp, rfl⟩ := List.mem_map.1 hu
  obtain ⟨xids, hx, rfl⟩ := exists_of_mem_announces hp
  exact .announce hx

theorem listingTo_speech (d : Daemon σ) {dest : HwAddr} {u : Utterance} (hu : u ∈ d.listingTo dest) :
    Speech d.link u := by
  obtain ⟨list, hl, rfl⟩ := List.mem_map.1 hu
  rw [Option.mem_toList] at hl
  unfold listing? at hl
  split at hl
  · cases hl
  · obtain ⟨prefixes, -, rfl⟩ := Option.map_eq_some_iff.1 hl
    exact .neighborList dest rfl

/-- What a packet moves a host to say is speech of this host. -/
theorem Reply.speech {d : Daemon σ} {sender : HwAddr} {p : Packet} {u : Utterance} (h : d.Reply sender p u)
    (hp : p.Fits) : Speech d.link u := by
  cases h with
  | @list a _ _ hu =>
    rw [← (learn_sameHost d sender a).link]
    exact listingTo_speech _ hu
  | ack => exact ackTo_speech d sender
  | answer p => exact ackTo_speech d p.src
  | announce _ hq => exact announces_speech d (List.mem_map_of_mem hq)
  | @probe p _ hdest =>
    -- a request that is read has addresses of one length, and one of them is this host's
    exact .probe d.clock (by rw [← hdest, hp.1]) p.investigate

theorem answers_speech (d : Daemon σ) (sender : HwAddr) (bytes : List UInt8) {u : Utterance}
    (hu : u ∈ d.answers sender bytes) : Speech d.link u := by
  obtain ⟨p, hp, hreply⟩ := Reply.of_mem_answers hu
  exact hreply.speech (Packet.cleared_of_decode hp).1.fits

theorem Utters.speech {d : Daemon σ} {e : Event} {said : List Utterance} (h : d.Utters e said) {u : Utterance}
    (hu : u ∈ said) : Speech d.link u := by
  cases h with
  | nothing => cases hu
  | answers sender bytes => exact answers_speech d sender bytes hu
  | announces => exact announces_speech d hu
  | ping _ host =>
    rw [List.mem_singleton.1 hu]
    exact pingTo_speech d host
  | requests => exact requests_speech d hu

/-! ## Runs -/

variable {d₀ d : Daemon σ} {l : List (Moment σ)}

/-- Whatever happens to a host, all that it says is its speech, and the frames that leave are those of what it says. -/
theorem Run.speech (h₀ : d₀.IsFresh) (h : Run d₀ l d) :
    ∀ t ∈ d.transmissions, t.Sound ∧ Speech d.link t.utterance := by
  induction h with
  | nil =>
    rw [h₀.transmissions]
    exact fun _ ht => nomatch ht
  | snoc hr hs ih =>
    intro t ht
    rw [hs.sameHost.link]
    rcases hs.utters ht with ht | ⟨hsound, said, hu, ht⟩
    · exact ih t ht
    · exact ⟨hsound, hu.speech ht⟩

/-- A frame is not at fault for a host that has another address of the same length as the host that says it. -/
theorem handleFrame_of_speech {link : LocalLink} {u : Utterance} (h : Speech link u) {frame : List UInt8}
    (hd : Packet.decode frame = .ok u.2) (hl : d.link.hwaddr.length = link.hwaddr.length)
    (hne : d.link.hwaddr ≠ link.hwaddr) : (d.handleFrame link.hwaddr frame).1 = .ok () := by
  have hok : ((d.counted u.2).process link.hwaddr u.2).1 = .ok () := h.accepted hl hne
  rcases ha : (d.counted u.2).process link.hwaddr u.2 with ⟨answer, d'⟩
  rw [ha] at hok
  cases hok
  rw [handleFrame_of_decoded d link.hwaddr hd ha]
  rfl

omit [RouteTable σ] in
/-- While the sink accepts frames, what has left says what was meant. -/
theorem Tries.emitted_saying {d' : Daemon σ} {said : List Utterance} (h : Tries d said d')
    (ha : d.sink.Accepts said.length) {link : LocalLink} (hs : ∀ u ∈ said, Speech link u) (hf : ∀ u ∈ said, u.2.Fits) :
    (d.emitted d').map (·.saying) = said.map fun u => (u.1, .ok u.2) := by
  have hframe : said.filterMap Utterance.frame? = said.map fun u => ⟨u.1, u.2.frame⟩ := by
    rw [← List.filterMap_eq_map]
    refine List.filterMap_congr fun u hu => ?_
    rw [Utterance.frame?, Packet.encode_eq_ok_iff.2 ⟨hf u hu, rfl⟩]
    rfl
  have he := congrArg (List.map fun f : SentFrame => (f.dest, Packet.decode f.frame)) (h.emitted_eq ha)
  rw [hframe, List.map_map, List.map_map] at he
  refine he.trans (List.map_congr_left fun u hu => ?_)
  exact congrArg _ ((hs u hu).decode_eq (Packet.encode_eq_ok_iff.2 ⟨hf u hu, rfl⟩))

/-- At a start all announces leave that the sink accepts. -/
theorem exists_emitted_start (d : Daemon σ) (ha : d.sink.Accepts d.announces.length) {p : Packet}
    (hp : p ∈ d.announces) : ∃ f ∈ d.emitted d.start, f.packet = .ok p := by
  have hsaying := (start_tries d).emitted_saying (by rwa [List.length_map]) (fun u hu => announces_speech d hu)
    fun u hu => by
      obtain ⟨q, -, rfl⟩ := List.mem_map.1 hu
      exact (announces_speech d hu).fits_of_broadcast
  have hmem : (none, .ok p) ∈ (d.emitted d.start).map (·.saying) := by
    rw [hsaying, List.map_map]
    exact List.mem_map_of_mem hp
  obtain ⟨f, hf, he⟩ := List.mem_map.1 hmem
  exact ⟨f, hf, congrArg Prod.snd he⟩

/-- Whatever has happened to a host, each packet that it tries to send, to one host or to all, is read from its frame as
it was meant, and the frame is not at fault for any host with another address of the same length. -/
theorem Run.understood (h₀ : d₀.IsFresh) (h : Run d₀ l d) {t : Transmission} (ht : t ∈ d.transmissions) :
    (∀ frame, t.outcome = .ok frame → t.packet.encode = .ok frame) ∧
    ∀ frame, t.packet.encode = .ok frame → Packet.decode frame = .ok t.packet ∧
      ∀ {τ : Type} [RouteTable τ] (e : Daemon τ), e.link.hwaddr.length = d.link.hwaddr.length →
        e.link.hwaddr ≠ d.link.hwaddr → (e.handleFrame d.link.hwaddr frame).1 = .ok () ∧
          (e.handleFrame d.link.hwaddr frame).2.metrics.malformed = e.metrics.malformed := by
  obtain ⟨hsound, hspeech⟩ := h.speech h₀ t ht
  refine ⟨hsound, fun frame he => ⟨hspeech.decode_eq he, fun e hl hne => ?_⟩⟩
  have hok := handleFrame_of_speech hspeech (hspeech.decode_eq he) hl hne
  obtain ⟨-, -, -, hm⟩ := handleFrame_ok hok
  exact ⟨hok, hm⟩

/-- The other host is pinged, and whatever it is, the ping is not at fault. -/
theorem understood_of_pinged : ∃ l t frame, Run (lone 5) l (pinged 5) ∧ t ∈ (pinged 5).transmissions ∧
    t.packet = (lone 5).pingTo peer ∧ t.outcome = .ok frame ∧
      ∀ e : Daemon MemoryRoutes, e.link.hwaddr = peer →
        (e.handleFrame (lone 5).link.hwaddr frame).1 = .ok () := by
  obtain ⟨l, h⟩ := run_pinged 5
  have ht : (pinged 5).transmissions.head (by decide) ∈ (pinged 5).transmissions := List.head_mem _
  refine ⟨l, _, _, h, ht, rfl, rfl, fun e he => ?_⟩
  have hu := ((Run.understood (lone_isFresh 5) h ht).2 _ rfl).2 e
  rw [he] at hu
  exact (hu rfl (by decide)).1

end

end Daemon

end Neighborhood
