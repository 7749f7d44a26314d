import Neighborhood.Proofs.Daemon.MapRoutes
import Neighborhood.Proofs.Daemon.Receipt
import Neighborhood.Proofs.Daemon.Replies
import Neighborhood.Proofs.Daemon.Routed
import Neighborhood.Proofs.Route
import Neighborhood.Proofs.Turn
import Neighborhood.Route.DumpLog

/-!
# What announces and lists count

* `Dump.Tells`, `Dump.shown` — a dump that has succeeded, and how many routes the first dump of a table had to show
* `Daemon.SameTurns` — an act has left alone what turns are decided by
* `Daemon.mentions`, `Daemon.Plain` — what kinds of packets are among what is said
* `Daemon.announce_told`, `Daemon.sendNeighborList_told` — if the dumps succeed, an announce counts the own prefixes
  and a list counts the hosts, and both are sent
* `Daemon.replyTo_told` — an announce is answered with a list just if it is this host's turn
-/

namespace Neighborhood

/-! ## Dumps -/

section
variable {σ : Type} {holds : σ → List Route}

/-- The log answers as its table does. -/
theorem DumpLog.keeps_routes [RouteTable σ] : RouteTable.Keeps (DumpLog.routes (σ := σ)) :=
  ⟨fun _ _ _ => rfl, fun _ _ => rfl, fun _ _ _ => rfl⟩

namespace Dump

/-- The dump has succeeded and shows what the table held of what was asked for. -/
def Tells (holds : σ → List Route) (x : Dump σ) : Prop :=
  x.answer = .ok ((holds x.asked).filter fun r => r.table = x.table && x.filter.accepts r)

/-- How many routes to destinations of a type the table held. -/
def count (holds : σ → List Route) (type : XidType) (x : Dump σ) : Nat :=
  (holds x.asked).countP fun r => r.table = x.table && r.dst.type = type

/-- A dump of all destinations of a type shows as many routes as there are. -/
theorem Tells.length_eq {x : Dump σ} {type : XidType} {routes : List Route} (h : x.Tells holds)
    (hf : x.filter = .destinations type) (ha : x.answer = .ok routes) : routes.length = x.count holds type := by
  have haccepts : ∀ r : Route, x.filter.accepts r = decide (r.dst.type = type) := fun r => by
    rw [hf, Bool.eq_iff_iff, RouteFilter.accepts_destinations, decide_eq_true_eq]
  rw [Except.ok.inj (ha.symm.trans h), count, List.countP_eq_length_filter]
  simp only [haccepts]

/-- The routes to destinations of a type, counted at the first dump of a table. -/
def shown (holds : σ → List Route) (dumps : List (Dump σ)) (table : TableId) (type : XidType) : Nat :=
  (dumps.find? (·.table = table)).elim 0 (·.count holds type)

end Dump

end

namespace Daemon

/-! ## Acts that have nothing to do with turns -/

section
variable {σ : Type}

/-- The counters and the draws that decide turns are the same. -/
structure SameTurns (d d' : Daemon σ) : Prop where
  counters : d'.counters = d.counters
  draws : d'.draws = d.draws

namespace SameTurns

theorem refl (d : Daemon σ) : SameTurns d d := ⟨rfl, rfl⟩

theorem trans {d₁ d₂ d₃ : Daemon σ} (h₁ : SameTurns d₁ d₂) (h₂ : SameTurns d₂ d₃) : SameTurns d₁ d₃ where
  counters := h₂.counters.trans h₁.counters
  draws := h₂.draws.trans h₁.draws

end SameTurns

theorem Tends.sameTurns {d d' : Daemon σ} (h : Tends d d') : SameTurns d d' := by
  obtain ⟨_, _, _, _, _, _, _, _, rfl, -, -⟩ := h
  exact ⟨rfl, rfl⟩

theorem Sends.sameTurns {d d' : Daemon σ} (h : Sends d d') : SameTurns d d' := h.tends.sameTurns

theorem judge_sameTurns (d : Daemon σ) (answer : Except Error Unit) : SameTurns d (d.judge answer).2 := by
  unfold judge
  split
  · exact .refl d
  · dsimp only
    split <;> exact ⟨rfl, rfl⟩

theorem register_sameTurns (d : Daemon σ) (a : HwAddr) (identity : Xid) : SameTurns d (d.register a identity) := by
  unfold register
  split <;> exact ⟨rfl, rfl⟩

theorem shutdown_sameTurns (d : Daemon σ) : SameTurns d d.shutdown := by
  rw [shutdown_eq]
  exact ⟨rfl, rfl⟩

theorem noteRequest_sameTurns {α : Type} (d : Daemon σ) (routes : σ) (answer : Except Error α) :
    SameTurns d ({ d with routes := routes }.noteRequest answer) := by
  unfold noteRequest
  cases answer <;> exact ⟨rfl, rfl⟩

variable [RouteTable σ]

theorem installRoute_sameTurns (d : Daemon σ) (dst : Xid) (gateway : Option Xid) :
    SameTurns d (d.installRoute dst gateway).2 :=
  noteRequest_sameTurns d _ _

theorem withdrawRoute_sameTurns (d : Daemon σ) (dst : Xid) : SameTurns d (d.withdrawRoute dst).2 :=
  noteRequest_sameTurns d _ _

theorem dumpRoutes_sameTurns (d : Daemon σ) (table : TableId) (filter : RouteFilter) :
    SameTurns d (d.dumpRoutes table filter).2 :=
  noteRequest_sameTurns d _ _

theorem installPrefixes_sameTurns (gateway : Xid) : ∀ (ids : List Identifier) (d : Daemon σ),
    SameTurns d (d.installPrefixes gateway ids)
  | [], d => .refl d
  | _ :: ids, d => (installRoute_sameTurns d _ _).trans (installPrefixes_sameTurns gateway ids _)

theorem withdrawRoutes_sameTurns : ∀ (dsts : List Xid) (d : Daemon σ), SameTurns d (d.withdrawRoutes dsts)
  | [], d => .refl d
  | dst :: dsts, d => (withdrawRoute_sameTurns d dst).trans (withdrawRoutes_sameTurns dsts _)

theorem withdrawNeighbor_sameTurns (d : Daemon σ) (identity : Xid) : SameTurns d (d.withdrawNeighbor identity) := by
  unfold withdrawNeighbor
  have hd := dumpRoutes_sameTurns d .main
    { dstType := some d.types.ad, gwType := some d.types.ether, gw := some identity }
  dsimp only
  split
  all_goals
    rename_i d' he
    rw [he] at hd
  · exact (hd.trans (withdrawRoutes_sameTurns _ d')).trans (withdrawRoute_sameTurns _ identity)
  · exact hd.trans (withdrawRoute_sameTurns d' identity)

theorem onInvestigationTimeout_sameTurns (d : Daemon σ) (ref : NeighborRef) (timer : TimerId) :
    SameTurns d (d.onInvestigationTimeout ref timer) := by
  rw [onInvestigationTimeout_eq]
  split
  · rename_i n _
    have hn : SameTurns d { d with neighbors := d.neighbors.depart n } := ⟨rfl, rfl⟩
    exact (hn.trans (withdrawNeighbor_sameTurns _ n.identity)).trans ⟨rfl, rfl⟩
  · exact .refl d

theorem learn_sameTurns (d : Daemon σ) (sender : HwAddr) (a : Announce) : SameTurns d (d.learn sender a) :=
  ((installRoute_sameTurns d _ _).trans (register_sameTurns _ sender _)).trans (installPrefixes_sameTurns _ a.xids _)

theorem acceptRecord_sameTurns (d : Daemon σ) (r : NeighborRecord) : SameTurns d (d.acceptRecord r) := by
  unfold acceptRecord
  split
  · split
    · exact .refl d
    · exact ((installRoute_sameTurns d _ _).trans (installRoute_sameTurns _ _ _)).trans (register_sameTurns _ _ _)
  · exact .refl d

theorem acceptRecords_sameTurns : ∀ (rs : List NeighborRecord) (d : Daemon σ), SameTurns d (d.acceptRecords rs)
  | [], d => .refl d
  | r :: rs, d => (acceptRecord_sameTurns d r).trans (acceptRecords_sameTurns rs _)

end

/-! ## Kinds of what is said -/

/-- A packet of this kind is among what is said. -/
def mentions (said : List Utterance) (kind : Packet.Kind) : Bool :=
  said.any fun u => u.2.kind = kind

theorem mentions_eq_false_of_forall {said : List Utterance} {kind : Packet.Kind} (h : ∀ u ∈ said, u.2.kind ≠ kind) :
    mentions said kind = false :=
  List.any_eq_false.2 fun u hu => by simpa using h u hu

theorem mentions_eq_true_of_forall {said : List Utterance} {kind : Packet.Kind} (hne : said ≠ [])
    (h : ∀ u ∈ said, u.2.kind = kind) : mentions said kind = true := by
  obtain ⟨u, hu⟩ := List.exists_mem_of_ne_nil said hne
  exact List.any_eq_true.2 ⟨u, hu, decide_eq_true (h u hu)⟩

/-- A packet that tells nothing of prefixes. -/
def Plain (u : Utterance) : Prop := u.2.kind ≠ .announce ∧ u.2.kind ≠ .neighborList

theorem plain_of_kind {u : Utterance} (kind : Packet.Kind) (hu : u.2.kind = kind)
    (hk : kind ≠ .announce ∧ kind ≠ .neighborList) : Plain u := by
  rwa [Plain, hu]

theorem plain_monitor (dest : Option HwAddr) (p : Monitor) : Plain (dest, .monitor p) := by
  cases h : p.role with
  | ping => exact plain_of_kind .ping (by simp only [Packet.kind, h]) (by decide)
  | ack => exact plain_of_kind .ack (by simp only [Packet.kind, h]) (by decide)

theorem plain_investigation (dest : Option HwAddr) (p : Investigation) : Plain (dest, .investigation p) := by
  cases h : p.role with
  | request => exact plain_of_kind .pingRequest (by simp only [Packet.kind, h]) (by decide)
  | probe => exact plain_of_kind .investigatePing (by simp only [Packet.kind, h]) (by decide)

section
variable {σ : Type} [RouteTable σ] {d : Daemon σ} {u : Utterance}

theorem kind_of_mem_announces (hu : u ∈ d.announces.map ((none, ·) : Packet → Utterance)) :
    u.2.kind = .announce := by
  obtain ⟨p, hp, rfl⟩ := List.mem_map.1 hu
  obtain ⟨xids, -, rfl⟩ := exists_of_mem_announces hp
  rfl

theorem kind_of_mem_turnListing {sender : HwAddr} (hu : u ∈ d.turnListing sender) : u.2.kind = .neighborList := by
  unfold turnListing at hu
  split at hu
  · obtain ⟨list, -, rfl⟩ := List.mem_map.1 hu
    rfl
  · cases hu

end

/-! ## Announces and lists -/

section
variable {σ : Type} [RouteTable σ] (d : Daemon σ)

/-- An announce counts the own prefixes and then only sends, unless it cannot read them. -/
theorem announce_cases :
    ((d.dumpRoutes .own (.destinations d.types.ad)).1 = none ∧
      d.announce.2 = (d.dumpRoutes .own (.destinations d.types.ad)).2) ∨
    ∃ own d₁, d.dumpRoutes .own (.destinations d.types.ad) = (some own, d₁) ∧
      Sends { d₁ with counters := d₁.counters.setOwn (UInt32.ofNat own.length) } d.announce.2 := by
  unfold announce
  split
  · rename_i d₁ hr
    exact .inl ⟨by rw [hr], by rw [hr]⟩
  · rename_i own d₁ hr
    refine .inr ⟨own, d₁, hr, ?_⟩
    dsimp only
    split
    · exact transmit_sends _ _ _
    · exact broadcastAll_sends _ _

/-- A list counts the hosts, reads the prefixes, and then only sends, unless something cannot be read. -/
theorem sendNeighborList_cases (dest : HwAddr) :
    ((d.dumpRoutes .main (.destinations d.types.ether)).1 = none ∧
      (d.sendNeighborList dest).2 = (d.dumpRoutes .main (.destinations d.types.ether)).2) ∨
    ∃ onLink d₁ d₂, d.dumpRoutes .main (.destinations d.types.ether) = (some onLink, d₁) ∧
      d₂ = { d₁ with counters := d₁.counters.setDiscovered (UInt32.ofNat onLink.length) } ∧
      (((d₂.dumpRoutes .main { dstType := some d.types.ad, gwType := some d.types.ether }).1 = none ∧
        (d.sendNeighborList dest).2 =
          (d₂.dumpRoutes .main { dstType := some d.types.ad, gwType := some d.types.ether }).2) ∨
        (d.listing?.isSome ∧
          Sends (d₂.dumpRoutes .main { dstType := some d.types.ad, gwType := some d.types.ether }).2
            (d.sendNeighborList dest).2)) := by
  have htypes := (dumpRoutes_outward d .main (.destinations d.types.ether)).aside.types
  unfold sendNeighborList listing?
  rcases hr : d.dumpRoutes .main (.destinations d.types.ether) with ⟨_ | onLink, d₁⟩
  · exact .inl ⟨rfl, rfl⟩
  · rw [hr] at htypes
    refine .inr ⟨onLink, d₁, _, rfl, rfl, ?_⟩
    -- what is counted in between does not matter for the second dump
    have hsecond : (d₁.dumpRoutes .main { dstType := some d₁.types.ad, gwType := some d₁.types.ether }).1 =
        ({ d₁ with counters := d₁.counters.setDiscovered (UInt32.ofNat onLink.length) }.dumpRoutes .main
          { dstType := some d₁.types.ad, gwType := some d₁.types.ether }).1 := rfl
    dsimp only at htypes ⊢
    rw [← htypes, hsecond]
    generalize ({ d₁ with counters := d₁.counters.setDiscovered (UInt32.ofNat onLink.length) } : Daemon σ) = d₂
    rcases d₂.dumpRoutes .main { dstType := some d₁.types.ad, gwType := some d₁.types.ether } with ⟨_ | prefixes, d₃⟩
    · exact .inl ⟨rfl, rfl⟩
    · exact .inr ⟨rfl, transmit_sends _ _ _⟩

theorem tryAnnounce_eq :
    d.tryAnnounce = if d.shouldAnnounce.1 then d.shouldAnnounce.2.announce.2 else d.shouldAnnounce.2 := by
  unfold tryAnnounce
  rcases d.shouldAnnounce with ⟨_ | _, d'⟩ <;> rfl

/-! ## Frames -/

theorem answers_of_decoded (sender : HwAddr) {bytes : List UInt8} {p : Packet} (hp : Packet.decode bytes = .ok p) :
    d.answers sender bytes = (d.counted p).replies sender p := by
  simp only [answers, hp]

theorem process_of_accepted {sender : HwAddr} {a : Announce} (hr : a.rejection? d.link sender = none) :
    d.process sender (.announce a) = (.ok (), d.acceptAnnounce sender a) := by
  simp only [process, processAnnounce, hr]

theorem process_of_rejected {sender : HwAddr} {a : Announce} {cause : Rejection}
    (hr : a.rejection? d.link sender = some cause) :
    d.process sender (.announce a) = (.error (.rejected cause), d) := by
  simp only [process, processAnnounce, hr]

theorem handleFrame_of_accepted {sender : HwAddr} {bytes : List UInt8} {a : Announce}
    (hp : Packet.decode bytes = .ok (.announce a)) (hr : a.rejection? d.link sender = none) :
    d.handleFrame sender bytes = (.ok (), (d.counted (.announce a)).acceptAnnounce sender a) :=
  handleFrame_of_decoded d sender hp (process_of_accepted (d.counted (.announce a)) hr)

/-- A request about this host is answered with an ack and an announce; any other investigation is answered with one
packet at most. -/
theorem processInvestigation_cases (sender : HwAddr) (p : Investigation) :
    (d.processInvestigation sender p = (.ok (), d.answerInvestigation p.src) ∧
      d.replies sender (.investigation p) = (some p.src, d.ackTo p.src) :: d.announces.map (none, ·)) ∨
    Sends d (d.processInvestigation sender p).2 ∧
      ∀ u ∈ d.replies sender (.investigation p), Plain u := by
  by_cases hask : p.src.length = sender.length ∧ p.dest = d.link.hwaddr ∧ p.investigate = d.link.hwaddr
  · obtain ⟨hs, hd, hi⟩ := hask
    left
    rw [processInvestigation, replies, if_neg (not_not_intro hs), if_neg (not_not_intro hd), if_pos hi, if_pos ⟨hs, hd⟩,
      if_pos hi]
    exact ⟨rfl, rfl⟩
  · right
    constructor
    · unfold processInvestigation
      split
      · exact .refl d
      · rename_i hs
        split
        · exact .refl d
        · rename_i hd
          rw [if_neg fun hi => hask ⟨Classical.not_not.1 hs, Classical.not_not.1 hd, hi⟩]
          split
          · exact relayInvestigation_sends d p
          · exact .refl d
    · simp only [replies]
      split
      · rename_i hsd
        rw [if_neg fun hi => hask ⟨hsd.1, hsd.2, hi⟩]
        split
        · exact List.forall_mem_singleton.2 (plain_investigation _ _)
        · exact List.forall_mem_nil _
      · exact List.forall_mem_nil _

end

/-! ## The dumps of announces and lists -/

section
variable {σ : Type} [RouteTable σ] {holds : σ → List Route} (d : Daemon (DumpLog σ))

theorem dumps_installRoute (dst : Xid) (gateway : Option Xid) :
    (d.installRoute dst gateway).2.routes.dumps = d.routes.dumps := by
  rw [installRoute, noteRequest_routes]
  rfl

theorem dumps_installPrefixes (gateway : Xid) : ∀ (ids : List Identifier) (d : Daemon (DumpLog σ)),
    (d.installPrefixes gateway ids).routes.dumps = d.routes.dumps
  | [], _ => rfl
  | id :: ids, d => by rw [installPrefixes, dumps_installPrefixes gateway ids, dumps_installRoute]

/-- Adding routes reads none. -/
theorem dumps_learn (sender : HwAddr) (a : Announce) : (d.learn sender a).routes.dumps = d.routes.dumps := by
  rw [learn, dumps_installPrefixes, register_routes, dumps_installRoute]

theorem dumps_dumpRoutes (table : TableId) (filter : RouteFilter) : (d.dumpRoutes table filter).2.routes.dumps =
    d.routes.dumps ++ [⟨d.routes.routes, table, filter, (RouteTable.dump d.routes.routes table filter).1⟩] := by
  rw [dumpRoutes, noteRequest_routes]
  rfl

/-- If all dumps of a log have succeeded, so has the last of them. -/
theorem dumpRoutes_told (holds : σ → List Route) (d : Daemon (DumpLog σ)) (table : TableId) (filter : RouteFilter)
    (h : ∀ x ∈ (d.dumpRoutes table filter).2.routes.dumps, x.Tells holds) :
    ∃ (x : Dump σ) (routes : List Route), x.table = table ∧ x.filter = filter ∧ x.answer = .ok routes ∧ x.Tells holds ∧
      (d.dumpRoutes table filter).1 = some routes ∧
      (d.dumpRoutes table filter).2.routes.dumps = d.routes.dumps ++ [x] := by
  rw [dumps_dumpRoutes] at h ⊢
  have htells := h _ (List.mem_append_right _ (List.mem_singleton_self _))
  exact ⟨_, _, rfl, rfl, htells, htells, congrArg Except.toOption htells, rfl⟩

/-- An announce whose dump succeeds counts the own prefixes that there are. -/
theorem announce_told (hd : d.routes.dumps = []) (h : ∀ x ∈ d.announce.2.routes.dumps, x.Tells holds) :
    d.announce.2.counters =
      d.counters.setOwn (UInt32.ofNat (Dump.shown holds d.announce.2.routes.dumps .own d.types.ad)) ∧
    d.announce.2.draws = d.draws ∧ d.announces ≠ [] := by
  have hsame := dumpRoutes_sameTurns d .own (.destinations d.types.ad)
  have htold := dumpRoutes_told holds d .own (.destinations d.types.ad)
  rcases d.announce_cases with ⟨hnone, heq⟩ | ⟨own, d₁, hr, hsends⟩
  · rw [heq] at h
    obtain ⟨_, _, -, -, -, -, hsome, -⟩ := htold h
    cases hnone.symm.trans hsome
  · rw [hr] at htold hsame
    rw [hsends.routes] at h ⊢
    obtain ⟨x, routes, htable, hfilter, hanswer, htells, hsome, hdumps⟩ := htold h
    obtain rfl : own = routes := Option.some.inj hsome
    have hshown : Dump.shown holds d₁.routes.dumps .own d.types.ad = own.length := by
      rw [hdumps, hd, htells.length_eq hfilter hanswer, Dump.shown, List.nil_append, List.find?_cons_of_pos]
      · rfl
      · exact decide_eq_true htable
    refine ⟨?_, hsends.sameTurns.draws.trans hsame.draws, ?_⟩
    · rw [hsends.sameTurns.counters]
      show _ = d.counters.setOwn (UInt32.ofNat (Dump.shown holds d₁.routes.dumps .own d.types.ad))
      rw [hshown]
      exact congrArg (PrefixCounters.setOwn · _) hsame.counters
    · unfold announces
      rw [hr]
      cases own <;> simp

/-- A list whose dumps succeed counts the hosts that there are. -/
theorem sendNeighborList_told (dest : HwAddr) (hd : d.routes.dumps = [])
    (h : ∀ x ∈ (d.sendNeighborList dest).2.routes.dumps, x.Tells holds) :
    (d.sendNeighborList dest).2.counters = d.counters.setDiscovered
      (UInt32.ofNat (Dump.shown holds (d.sendNeighborList dest).2.routes.dumps .main d.types.ether)) ∧
    (d.sendNeighborList dest).2.draws = d.draws ∧ d.listing?.isSome := by
  have hsame := dumpRoutes_sameTurns d .main (.destinations d.types.ether)
  have hfirst := dumpRoutes_told holds d .main (.destinations d.types.ether)
  rcases d.sendNeighborList_cases dest with ⟨hnone, heq⟩ | ⟨onLink, d₁, d₂, hr, hd₂, hlast⟩
  · rw [heq] at h
    obtain ⟨_, _, -, -, -, -, hsome, -⟩ := hfirst h
    cases hnone.symm.trans hsome
  · rw [hr] at hfirst hsame
    have hsecond := dumpRoutes_told holds d₂ .main { dstType := some d.types.ad, gwType := some d.types.ether }
    have hsame₂ := dumpRoutes_sameTurns d₂ .main { dstType := some d.types.ad, gwType := some d.types.ether }
    rcases hlast with ⟨hnone, heq⟩ | ⟨hlisting, hsends⟩
    · rw [heq] at h
      obtain ⟨_, _, -, -, -, -, hsome, -⟩ := hsecond h
      cases hnone.symm.trans hsome
    · rw [hsends.routes] at h ⊢
      obtain ⟨y, _, -, -, -, -, -, hdumps₂⟩ := hsecond h
      have hroutes : d₂.routes.dumps = d₁.routes.dumps := by rw [hd₂]
      rw [hdumps₂, hroutes] at h ⊢
      obtain ⟨x, routes, htable, hfilter, hanswer, htells, hsome, hdumps⟩ :=
        hfirst fun x hx => h x (List.mem_append_left _ hx)
      obtain rfl : onLink = routes := Option.some.inj hsome
      rw [hd, List.nil_append] at hdumps
      have hshown : Dump.shown holds (d₁.routes.dumps ++ [y]) .main d.types.ether = onLink.length := by
        rw [show d₁.routes.dumps = [x] from hdumps, htells.length_eq hfilter hanswer, Dump.shown,
          List.singleton_append, List.find?_cons_of_pos]
        · rfl
        · exact decide_eq_true htable
      refine ⟨?_, ?_, hlisting⟩
      · rw [hshown, hsends.sameTurns.counters, hsame₂.counters, hd₂]
        exact congrArg (PrefixCounters.setDiscovered · _) hsame.counters
      · rw [hsends.sameTurns.draws, hsame₂.draws, hd₂]
        exact hsame.draws

/-- The answer to an announce takes the turn that the counters and the draws decide on. -/
theorem replyTo_told (sender : HwAddr) (hd : d.routes.dumps = [])
    (h : ∀ x ∈ (d.replyTo sender).routes.dumps, x.Tells holds) :
    (d.replyTo sender).counters = (if d.myTurn.1 then d.counters.setDiscovered
      (UInt32.ofNat (Dump.shown holds (d.replyTo sender).routes.dumps .main d.types.ether)) else d.counters) ∧
    (d.replyTo sender).draws = d.myTurn.2.draws ∧ mentions (d.turnListing sender) .neighborList = d.myTurn.1 := by
  have hlisting : d.myTurn.2.listing? = d.listing? := by
    simp only [listing?, dumpRoutes, myTurn]
    cases (RouteTable.dump d.routes .main (.destinations d.types.ether)).1 <;> rfl
  have hreply : d.replyTo sender = if d.myTurn.1 then (d.myTurn.2.sendNeighborList sender).2 else d.myTurn.2 := by
    unfold replyTo
    rcases d.myTurn with ⟨_ | _, d'⟩ <;> rfl
  cases hm : d.myTurn.1 with
  | false =>
    rw [hm] at hreply
    rw [turnListing, hm, hreply]
    exact ⟨rfl, rfl, rfl⟩
  | true =>
    rw [hm] at hreply
    rw [hreply] at h ⊢
    obtain ⟨hcounters, hdraws, hsome⟩ := d.myTurn.2.sendNeighborList_told sender hd h
    refine ⟨hcounters, hdraws, mentions_eq_true_of_forall ?_ fun u => kind_of_mem_turnListing⟩
    rw [hlisting] at hsome
    obtain ⟨list, hlist⟩ := Option.isSome_iff_exists.1 hsome
    simp [turnListing, hm, listingTo, hlist]

end

end Daemon

end Neighborhood
