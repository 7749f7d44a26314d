import Neighborhood.Proofs.Daemon.Aside
import Neighborhood.Proofs.Daemon.Run
import Neighborhood.Proofs.Neighbor
import Neighborhood.Proofs.Timer

/-!
# Acts on neighbors and timers

* `Daemon.await`, `Daemon.leave` — an entry gets a new deadline, or leaves the table
* `Daemon.heed` — what news from a frame does to the neighbors; a frame does no more to them (`handleFrame_aside`)
* `Daemon.ping_aside_of_takes`, `Daemon.ping_aside_of_not_takes` — a ping that leaves, and one that cannot
* `Daemon.expire_ackDue_aside`, `Daemon.expire_investigationDue_aside` — the two deadlines of a probe
-/

namespace Neighborhood

namespace Daemon

variable {σ : Type}

/-! ## Timers of entries -/

theorem cancelTimerOf_eq (d : Daemon σ) (n : Neighbor) :
    d.cancelTimerOf n = { d with timers := d.timers.release n.timer? } := by
  unfold cancelTimerOf
  split
  · rename_i timer ht
    rw [ht, Timers.release_some]
  · rename_i ht
    rw [ht, Timers.release_none]

theorem settle_eq (d : Daemon σ) (n : Neighbor) :
    d.settle n = { d with timers := d.timers.release n.timer?, neighbors := d.neighbors.settle n.ref } := by
  simp only [settle, cancelTimerOf_eq]

/-- A new deadline bounds a new waiting; the old deadline, if there was one, is off. -/
def await (d : Daemon σ) (n : Neighbor) (delay : Nat) (task : Alarm) (liveness : Liveness) : Daemon σ :=
  { d with
    timers := (d.timers.once delay task).2.release n.timer?
    neighbors := d.neighbors.arm n.ref liveness ⟨d.timers.fresh⟩ }

theorem arm_once_eq (d : Daemon σ) (n : Neighbor) (delay : Nat) (task : Alarm) (liveness : Liveness) :
    { d with timers := (d.timers.once delay task).2 }.arm n liveness ⟨d.timers.fresh⟩ =
      d.await n delay task liveness := by
  simp only [arm, cancelTimerOf_eq, await]

/-- A probe that is given up is settled if its timer still bounds it. -/
theorem giveUp_cases (d : Daemon σ) (ref : NeighborRef) (timer : TimerId) :
    (∃ n, d.neighbors.find? ref = some n ∧ d.giveUp ref timer = d.settle n) ∨ d.giveUp ref timer = d := by
  unfold giveUp
  split
  · rename_i n hf
    split
    · exact .inl ⟨n, hf, rfl⟩
    · exact .inr rfl
  · exact .inr rfl

/-- The entry leaves the table, and its deadline is off. -/
def leave (d : Daemon σ) (n : Neighbor) : Daemon σ :=
  { d with timers := d.timers.release n.timer?, neighbors := d.neighbors.depart n }

/-! ## Frames -/

/-- All hosts of a list have entries. -/
def meet (d : Daemon σ) (l : List HwAddr) : Daemon σ :=
  { d with neighbors := d.neighbors.introduce d.etherXid l }

theorem meet_append (d : Daemon σ) (l₁ l₂ : List HwAddr) : d.meet (l₁ ++ l₂) = (d.meet l₁).meet l₂ := by
  simp only [meet, NeighborTable.introduce_append]
  rfl

/-- What the news that a frame can bring does to the neighbors. -/
def heed (d : Daemon σ) : News → Daemon σ
  | .hosts l => d.meet l
  | .ping sender clock => d.notePing sender clock
  | .ack sender clock => d.noteAck sender clock
  | _ => d

/-- A frame sets no timer. -/
theorem pending_heed {d : Daemon σ} (news : News) {t : Timer Alarm} (ht : t ∈ (d.heed news).timers.pending) :
    t ∈ d.timers.pending := by
  have hs : ∀ {d : Daemon σ} {n : Neighbor}, t ∈ (d.settle n).timers.pending → t ∈ d.timers.pending := by
    intro d n ht
    rw [settle_eq] at ht
    exact (Timers.mem_pending_release.1 ht).1
  cases news with
  | ping sender clock =>
    simp only [heed, notePing] at ht
    split at ht
    · exact ht
    · split at ht
      · have hold := hs ht
        exact hold
      · exact ht
  | ack sender clock =>
    simp only [heed, noteAck] at ht
    split at ht
    · exact ht
    · split at ht
      · exact ht
      · exact hs ht
  | nothing | hosts | probe | expiry | shutdown => exact ht

namespace Aside

variable {d e : Daemon σ}

theorem settle (h : Aside d e) (n : Neighbor) : Aside (d.settle n) (e.settle n) := by
  simp only [settle_eq]
  refine ⟨h.config, h.link, h.types, ?_, ?_, h.periodic⟩
  · simp only [h.neighbors]
  · simp only [h.timers]

theorem giveUp (h : Aside d e) (ref : NeighborRef) (timer : TimerId) :
    Aside (d.giveUp ref timer) (e.giveUp ref timer) := by
  unfold Daemon.giveUp
  rw [h.neighbors]
  split
  · split
    · exact h.settle _
    · exact h
  · exact h

theorem setClock (h : Aside d e) (n : Neighbor) (clock : Int32) :
    Aside { d with neighbors := d.neighbors.setClock n.ref clock }
      { e with neighbors := e.neighbors.setClock n.ref clock } := by
  refine ⟨h.config, h.link, h.types, ?_, h.timers, h.periodic⟩
  simp only [h.neighbors]

theorem notePing (h : Aside d e) (sender : HwAddr) (clock : Int32) :
    Aside (d.notePing sender clock) (e.notePing sender clock) := by
  unfold Daemon.notePing
  rw [h.neighbors]
  split
  · exact h
  · rename_i n hn
    have hc := h.setClock n clock
    rw [h.neighbors] at hc
    dsimp only
    split
    · exact hc.settle n
    · exact hc

theorem noteAck (h : Aside d e) (sender : HwAddr) (clock : Int32) :
    Aside (d.noteAck sender clock) (e.noteAck sender clock) := by
  unfold Daemon.noteAck
  rw [h.neighbors]
  split
  · exact h
  · rename_i n hn
    split
    · exact h
    · exact (h.settle n).setClock n clock

theorem meet (h : Aside d e) (l : List HwAddr) : Aside (d.meet l) (e.meet l) := by
  refine ⟨h.config, h.link, h.types, ?_, h.timers, h.periodic⟩
  simp only [Daemon.meet, h.neighbors, h.etherXid]

theorem heed (h : Aside d e) : ∀ news, Aside (d.heed news) (e.heed news)
  | .hosts l => h.meet l
  | .ping sender clock => h.notePing sender clock
  | .ack sender clock => h.noteAck sender clock
  | .nothing | .probe .. | .expiry .. | .shutdown => h

end Aside

theorem register_aside (d : Daemon σ) (a : HwAddr) :
    Aside (d.meet [a]) (d.register a (d.etherXid a)) := by
  unfold register
  cases hg : d.neighbors.get? a with
  | some n =>
    simp only [meet, NeighborTable.introduce, NeighborTable.getOrCreate_of_some hg]
    exact .refl d
  | none =>
    simp only [meet, NeighborTable.introduce, NeighborTable.getOrCreate_of_none hg]
    exact ⟨rfl, rfl, rfl, rfl, rfl, rfl⟩

theorem processMonitor_aside (d : Daemon σ) (sender : HwAddr) (p : Monitor) :
    Aside (d.heed (.ofPacket d.link sender (.monitor p))) (d.processMonitor sender p).2 := by
  simp only [processMonitor, News.ofPacket]
  by_cases hs : p.src.length = sender.length
  · rw [if_neg (not_not_intro hs)]
    by_cases ha : d.link.accepts p.dest
    · rw [if_pos ⟨hs, ha⟩, if_neg (by simp [ha])]
      cases p.role with
      | ping => exact (sendAck_sends _ sender).aside
      | ack => exact .refl _
    · rw [if_neg fun h => ha h.2, if_pos (by simp [ha])]
      exact .refl d
  · rw [if_pos hs, if_neg fun h => hs h.1]
    exact .refl d

section
variable [RouteTable σ]

theorem acceptAnnounce_aside (d : Daemon σ) (sender : HwAddr) (a : Announce) :
    Aside (d.meet [sender]) (d.acceptAnnounce sender a) := by
  have hi := (installRoute_outward d (d.etherXid sender) none).aside
  have hr := (hi.meet [sender]).trans (register_aside _ sender)
  rw [hi.etherXid] at hr
  have hlearn : Aside (d.meet [sender]) (d.learn sender a) :=
    hr.trans (installPrefixes_outward (d.etherXid sender) a.xids _).aside
  rw [acceptAnnounce_eq]
  exact (hlearn.trans (replyTo_outward _ sender).aside).trans ⟨rfl, rfl, rfl, rfl, rfl, rfl⟩

theorem acceptRecord_aside (d : Daemon σ) (r : NeighborRecord) :
    Aside (d.meet (r.hosts d.link)) (d.acceptRecord r) := by
  obtain ⟨xid, hwaddrs⟩ := r
  match hwaddrs with
  | [a] =>
    simp only [acceptRecord, NeighborRecord.hosts]
    split
    · exact .refl d
    · have h₁ := (installRoute_outward d (d.etherXid a) none).aside
      have h₂ := h₁.trans (installRoute_outward _ (d.adXid xid) (some (d.etherXid a))).aside
      have hr := (h₂.meet [a]).trans (register_aside _ a)
      simp only [adXid, h₁.types]
      rw [h₂.etherXid] at hr
      exact hr
  | [] | _ :: _ :: _ => exact .refl d

theorem acceptRecords_aside : ∀ (rs : List NeighborRecord) (d : Daemon σ),
    Aside (d.meet (rs.flatMap (·.hosts d.link))) (d.acceptRecords rs)
  | [], d => .refl d
  | r :: rs, d => by
    have h₁ := acceptRecord_aside d r
    have ih := acceptRecords_aside rs (d.acceptRecord r)
    rw [h₁.link] at ih
    rw [List.flatMap_cons, meet_append]
    exact (h₁.meet _).trans ih

theorem processAnnounce_aside (d : Daemon σ) (sender : HwAddr) (a : Announce) :
    Aside (d.heed (.ofPacket d.link sender (.announce a))) (d.processAnnounce sender a).2 := by
  simp only [processAnnounce, News.ofPacket]
  cases he : a.rejection? d.link sender with
  | some cause =>
    rw [if_neg nofun]
    exact .refl d
  | none =>
    rw [if_pos rfl]
    exact acceptAnnounce_aside d sender a

theorem processNeighborList_aside (d : Daemon σ) (sender : HwAddr) (l : NeighborList) :
    Aside (d.heed (.ofPacket d.link sender (.neighborList l))) (d.processNeighborList l).2 := by
  simp only [processNeighborList, News.ofPacket]
  by_cases hl : l.haddrLen.toNat = d.link.hwaddr.length
  · rw [if_neg (not_not_intro hl), if_pos hl]
    exact acceptRecords_aside l.neighbors d
  · rw [if_pos hl, if_neg hl]
    exact .refl d

theorem process_aside (d : Daemon σ) (sender : HwAddr) :
    ∀ p, Aside (d.heed (.ofPacket d.link sender p)) (d.process sender p).2
  | .announce a => processAnnounce_aside d sender a
  | .neighborList l => processNeighborList_aside d sender l
  | .monitor p => processMonitor_aside d sender p
  | .investigation p => (processInvestigation_outward d sender p).aside

/-- A frame does to neighbors and timers what the news in it asks for, and no more. -/
theorem handleFrame_aside (d : Daemon σ) (sender : HwAddr) (bytes : List UInt8) :
    Aside (d.heed (.ofFrame d.link sender bytes)) (d.handleFrame sender bytes).2 := by
  unfold handleFrame News.ofFrame
  cases Packet.decode bytes with
  | error e => exact judge_aside d _
  | ok packet =>
    have hm : Aside d { d with metrics := d.metrics.recordReceived packet.kind } := ⟨rfl, rfl, rfl, rfl, rfl, rfl⟩
    exact ((hm.heed _).trans (process_aside _ sender packet)).trans (judge_aside _ _)

end

/-! ## Probes -/

/-- A packet leaves just if it has a frame and the sink takes it. -/
theorem transmit_fst (d : Daemon σ) (dest : Option HwAddr) (packet : Packet) :
    (d.transmit dest packet).1 = d.takes packet := by
  unfold transmit takes
  cases packet.encode with
  | error e => rfl
  | ok frame =>
    simp only [Sink.send]
    cases d.sink.refuses <;> rfl

/-- The frame of a packet that leaves is the last that the sink has. -/
theorem transmit_frames (d : Daemon σ) (dest : Option HwAddr) {packet : Packet} (h : d.takes packet = true) :
    ∃ frame, packet.encode = .ok frame ∧
      (d.transmit dest packet).2.sink.frames = d.sink.frames ++ [⟨dest, frame⟩] := by
  unfold takes at h
  unfold transmit
  cases he : packet.encode with
  | error e => simp [he, Except.isOk, Except.toBool] at h
  | ok frame =>
    have hr : d.sink.refuses = false := by simpa [he, Except.isOk, Except.toBool] using h
    refine ⟨frame, rfl, ?_⟩
    simp only [Sink.send, hr]
    rfl

/-- A deadline for the ack of a neighbor that is pinged. -/
def awaitAck (d : Daemon σ) (n : Neighbor) : Daemon σ :=
  d.await n (millis d.config.ackTimeout) (.ackDue n.ref) .awaitingAck

/-- A deadline for the answer of a neighbor that others are asked to probe. -/
def awaitAnswer (d : Daemon σ) (n : Neighbor) : Daemon σ :=
  d.await n (millis d.config.investigativeAckTimeout) (.investigationDue n.ref) .awaitingInvestigativeAck

theorem ping_eq (d : Daemon σ) (n : Neighbor) :
    d.ping n =
      match (d.awaitAck n).transmit (some n.hwaddr) (d.pingTo n.hwaddr) with
      | (true, d') => (some n.hwaddr, d')
      | (false, d') => (none, d'.giveUp n.ref ⟨d.timers.fresh⟩) := by
  have hp : d.pingTo n.hwaddr = (d.awaitAck n).pingTo n.hwaddr := rfl
  rw [hp, awaitAck, ← arm_once_eq]
  rfl

theorem ping_of_takes {d : Daemon σ} {n : Neighbor} (h : d.takes (d.pingTo n.hwaddr) = true) :
    d.ping n = (some n.hwaddr, ((d.awaitAck n).transmit (some n.hwaddr) (d.pingTo n.hwaddr)).2) := by
  have hs := transmit_fst (d.awaitAck n) (some n.hwaddr) (d.pingTo n.hwaddr)
  rw [show (d.awaitAck n).takes _ = d.takes _ from rfl, h] at hs
  rw [ping_eq]
  split
  · rename_i he
    rw [he]
  · rename_i he
    rw [he] at hs
    cases hs

theorem ping_aside_of_takes {d : Daemon σ} {n : Neighbor} (h : d.takes (d.pingTo n.hwaddr) = true) :
    Aside (d.awaitAck n) (d.ping n).2 := by
  rw [ping_of_takes h]
  exact (transmit_sends _ _ _).aside

/-- A ping that cannot leave passes over the number of a timer. -/
theorem ping_aside_of_not_takes {d : Daemon σ} {n : Neighbor} (hn : d.neighbors.WellFormed)
    (ht : d.timers.WellFormed) (hm : n ∈ d.neighbors.entries) (hi : n.isIdle = true)
    (h : d.takes (d.pingTo n.hwaddr) = false) :
    Aside { d with timers := { d.timers with fresh := d.timers.fresh + 1 } } (d.ping n).2 := by
  have hs := transmit_fst (d.awaitAck n) (some n.hwaddr) (d.pingTo n.hwaddr)
  have ha := (transmit_sends (d.awaitAck n) (some n.hwaddr) (d.pingTo n.hwaddr)).aside
  rw [show (d.awaitAck n).takes _ = d.takes _ from rfl, h] at hs
  rw [ping_eq]
  split
  · rename_i he
    rw [he] at hs
    cases hs
  · rename_i d' he
    rw [he] at ha
    refine .trans ?_ (ha.giveUp n.ref ⟨d.timers.fresh⟩)
    have hf : (d.awaitAck n).neighbors.find? n.ref = some (n.armed .awaitingAck ⟨d.timers.fresh⟩) :=
      NeighborTable.find?_arm hn hm (by decide) _
    rw [giveUp, hf]
    dsimp only
    rw [if_pos (Neighbor.ownsTimer_iff.2 rfl), settle_eq]
    refine ⟨rfl, rfl, rfl, ?_, ?_, rfl⟩
    · exact NeighborTable.settle_arm hn hm hi _ _
    · simp only [awaitAck, await, (hn.bounded_of_mem hm).timer?_of_idle hi, Timers.release_none]
      exact Timers.release_once ht _ _

/-- A ping tick probes an idle neighbor, or passes over the number of a timer at most. -/
theorem pingTick_cases {d : Daemon σ} (hn : d.neighbors.WellFormed) (ht : d.timers.WellFormed) :
    (∃ n ∈ d.neighbors.entries, n.isIdle = true ∧ d.tickNews = .probe n.hwaddr ⟨d.timers.fresh⟩ ∧
      Aside (d.awaitAck n) d.pingTick.2) ∨
    (d.tickNews = .nothing ∧
      ∃ k, Aside { d with timers := { d.timers with fresh := d.timers.fresh + k } } d.pingTick.2) := by
  unfold pingTick tickNews
  cases hp : d.neighbors.pick? d.lots with
  | mk picked lots =>
    cases picked with
    | none => exact .inr ⟨rfl, 0, ⟨rfl, rfl, rfl, rfl, rfl, rfl⟩⟩
    | some n =>
      obtain ⟨hm, hi⟩ := NeighborTable.pick?_mem (n := n) (by rw [hp])
      cases hs : d.takes (d.pingTo n.hwaddr) with
      | true =>
        have ha := ping_aside_of_takes (d := { d with lots := lots }) hs
        exact .inl ⟨n, hm, hi, if_pos hs, ha.config, ha.link, ha.types, ha.neighbors, ha.timers, ha.periodic⟩
      | false =>
        have ha := ping_aside_of_not_takes (d := { d with lots := lots }) hn ht hm hi hs
        refine .inr ⟨if_neg (by rw [hs]; nofun), 1, ?_⟩
        exact ⟨ha.config, ha.link, ha.types, ha.neighbors, ha.timers, ha.periodic⟩

/-- The ping of a probe is the last frame that the sink has. -/
theorem pingTick_frames {d : Daemon σ} {a : HwAddr} {timer : TimerId} (h : d.tickNews = .probe a timer) :
    ∃ frame, (d.pingTo a).encode = .ok frame ∧ d.pingTick.2.sink.frames = d.sink.frames ++ [⟨some a, frame⟩] := by
  unfold tickNews at h
  unfold pingTick
  cases hp : d.neighbors.pick? d.lots with
  | mk picked lots =>
    cases picked with
    | none => simp [hp] at h
    | some n =>
      simp only [hp] at h ⊢
      split at h
      · rename_i hs
        cases h
        rw [ping_of_takes (d := { d with lots := lots }) hs]
        exact transmit_frames ({ d with lots := lots }.awaitAck n) (some n.hwaddr) hs
      · cases h

/-! ## Deadlines -/

/-- The investigation is counted, and some idle neighbors are asked to probe the suspect. -/
def inquire (d : Daemon σ) (suspect : HwAddr) : Daemon σ :=
  let (relays, lots) := d.neighbors.pickExcept suspect d.config.investigativeCount d.lots
  { d with metrics := d.metrics.recordInvestigation, lots := lots }.askRelays suspect relays

theorem escalate_eq (d : Daemon σ) (n : Neighbor) : d.escalate n = (d.awaitAnswer n).inquire n.hwaddr := by
  rw [awaitAnswer, ← arm_once_eq]
  rfl

theorem escalate_aside (d : Daemon σ) (n : Neighbor) : Aside (d.awaitAnswer n) (d.escalate n) := by
  rw [escalate_eq]
  refine .trans ?_ (askRelays_sends _ _ _).aside
  exact ⟨rfl, rfl, rfl, rfl, rfl, rfl⟩

/-- The clock of the timers shows a later time. -/
def later (d : Daemon σ) (limit : Nat) : Daemon σ :=
  { d with timers := d.timers.passTo limit }

section
variable [RouteTable σ] {d : Daemon σ} {n : Neighbor} {t : Timer Alarm}

omit [RouteTable σ] in
/-- Nothing is left of a deadline that has fired but a later time. -/
theorem awaitAnswer_fire (ht : d.timers.WellFormed) (htm : t ∈ d.timers.pending) (hp : t.period = none)
    (hh : n.timer? = some t.id) :
    { d with timers := d.timers.fire t }.awaitAnswer n = (d.later t.due).awaitAnswer n := by
  simp only [awaitAnswer, await, later, hh, Timers.fire_eq_release ht htm hp, Timers.release_once_release]
  rfl

theorem expire_announce (htask : t.task = .announce) : d.expire t = d.tryAnnounce := by
  simp only [expire, htask]

theorem expire_ping (htask : t.task = .ping) : d.expire t = d.pingTick.2 := by
  simp only [expire, htask]

theorem expire_ackDue (hn : d.neighbors.WellFormed) (hm : n ∈ d.neighbors.entries)
    (hl : n.liveness = .awaitingAck) (hh : n.timer? = some t.id) (htask : t.task = .ackDue n.ref) :
    d.expire t = d.escalate n := by
  have hf : d.neighbors.find? n.ref = some n := hn.find?_eq_some_iff.2 ⟨List.mem_append_left _ hm, rfl⟩
  simp only [expire, htask, onAckTimeout, hf, hl, Neighbor.ownsTimer_iff.2 hh]
  rfl

theorem expire_investigationDue (htask : t.task = .investigationDue n.ref) :
    d.expire t = d.onInvestigationTimeout n.ref t.id := by
  simp only [expire, htask]

/-- The deadline of an ack passes: an answer is awaited. -/
theorem expire_ackDue_aside (hn : d.neighbors.WellFormed) (ht : d.timers.WellFormed) (hm : n ∈ d.neighbors.entries)
    (htm : t ∈ d.timers.pending) (hp : t.period = none) (hl : n.liveness = .awaitingAck) (hh : n.timer? = some t.id)
    (htask : t.task = .ackDue n.ref) :
    Aside ((d.later t.due).awaitAnswer n) ({ d with timers := d.timers.fire t }.expire t) := by
  rw [← awaitAnswer_fire ht htm hp hh, expire_ackDue (d := { d with timers := d.timers.fire t }) hn hm hl hh htask]
  exact escalate_aside _ n

/-- The route requests of an eviction do nothing to the neighbors. -/
theorem dismiss_aside (d : Daemon σ) (n : Neighbor) :
    Aside { d with neighbors := d.neighbors.depart n } (d.dismiss n) :=
  (withdrawNeighbor_outward _ n.identity).aside.trans ⟨rfl, rfl, rfl, rfl, rfl, rfl⟩

/-- The deadline of an answer passes: the entry leaves. -/
theorem expire_investigationDue_aside (hn : d.neighbors.WellFormed) (ht : d.timers.WellFormed)
    (hm : n ∈ d.neighbors.entries) (htm : t ∈ d.timers.pending) (hp : t.period = none)
    (hl : n.liveness = .awaitingInvestigativeAck) (hh : n.timer? = some t.id) (htask : t.task = .investigationDue n.ref) :
    Aside ((d.later t.due).leave n) ({ d with timers := d.timers.fire t }.expire t) := by
  have hx : d.neighbors.expired? n.ref t.id = some n := hn.expired?_eq_some_iff.2 ⟨hm, rfl, hl, hh⟩
  have he : (d.later t.due).leave n = { d with timers := d.timers.fire t, neighbors := d.neighbors.depart n } := by
    simp only [leave, later, hh, Timers.fire_eq_release ht htm hp]
  rw [he, expire_investigationDue htask, onInvestigationTimeout_of_expired (d := { d with timers := d.timers.fire t }) hx]
  exact dismiss_aside { d with timers := d.timers.fire t } n

end

/-! ## Shutdown -/

theorem pending_every {d : Daemon σ} {seconds : Nat} {task : Alarm} {t : Timer Alarm}
    (ht : t ∈ (d.every seconds task).timers.pending) (hp : t.period = none) : t ∈ d.timers.pending := by
  simp only [every, Timers.repeating] at ht
  split at ht
  · exact ht
  · simp only [Timers.set, List.mem_append, List.mem_singleton] at ht
    refine ht.resolve_right ?_
    rintro rfl
    cases hp

theorem settleAll_eq : ∀ (ns : List Neighbor) (d : Daemon σ), d.settleAll ns =
    { d with
      timers := ns.foldl (fun ts n => ts.release n.timer?) d.timers
      neighbors := ns.foldl (fun t n => t.settle n.ref) d.neighbors }
  | [], _ => rfl
  | n :: ns, d => by
    rw [settleAll, settleAll_eq ns, settle_eq]
    rfl

/-- The timers that shutdown leaves are neither periodic nor deadlines of entries. -/
theorem shutdown_eq (d : Daemon σ) : d.shutdown =
    { d with
      neighbors := d.neighbors.entries.foldl (fun t n => t.settle n.ref) d.neighbors
      timers := { d.timers with
        pending := (d.timers.pending.filter (·.id ∉ d.periodic)).filter fun t =>
          ∀ n ∈ d.neighbors.entries, n.timer? ≠ some t.id }
      periodic := [] } := by
  rw [shutdown, settleAll_eq, cancelPeriodic, Timers.foldl_cancel_eq, Timers.foldl_release_eq]

theorem mem_pending_shutdown {d : Daemon σ} {t : Timer Alarm} : t ∈ d.shutdown.timers.pending ↔
    (t ∈ d.timers.pending ∧ t.id ∉ d.periodic) ∧ ∀ n ∈ d.neighbors.entries, n.timer? ≠ some t.id := by
  simp only [shutdown_eq, List.mem_filter, decide_eq_true_eq]

end Daemon

end Neighborhood
