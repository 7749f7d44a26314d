import Neighborhood.Proofs.Daemon.Advance

/-!
# One host, watched

* `Watch`, `Daemon.watch` — what the table shows of one host
* `Signal`, `News.signal` — what an event means for one host
* `Signal.next` — the automaton that the entry of every host follows
* `Daemon.Step.watch_eq` — a step of a daemon is a step of the automaton, for every host at once
* `Daemon.Run.watch_follows` — and so is every moment of a run
-/

namespace Neighborhood

/-! ## The automaton -/

/-- What the table shows of a host that has an entry: the last clock it sent, what is awaited from it and the timer that
bounds the waiting. -/
structure Watch where
  clock : Int32
  liveness : Liveness
  timer? : Option TimerId
deriving DecidableEq

/-- What an event means for one host. -/
inductive Signal where
  | silence
  /-- The host is on the link. -/
  | introduction
  | ping (clock : Int32)
  | ack (clock : Int32)
  /-- A ping to the host has left, and the timer bounds the waiting for its ack. -/
  | probe (timer : TimerId)
  /-- A deadline has passed; the timer `next` bounds a waiting that may follow. -/
  | expiry (timer next : TimerId)
  | shutdown
deriving DecidableEq

/-- What the news means for the host `a`. -/
def News.signal (a : HwAddr) : News → Signal
  | nothing => .silence
  | hosts l => if a ∈ l then .introduction else .silence
  | ping sender clock => if sender = a then .ping clock else .silence
  | ack sender clock => if sender = a then .ack clock else .silence
  | probe host timer => if host = a then .probe timer else .silence
  | expiry timer next => .expiry timer next
  | shutdown => .shutdown

/-- The news in a frame is of hosts, or of the sender's clock. -/
theorem News.ofFrame_cases (link : LocalLink) (sender : HwAddr) (bytes : List UInt8) :
    ofFrame link sender bytes = .nothing ∨ (∃ l, ofFrame link sender bytes = .hosts l) ∨
      (∃ clock, ofFrame link sender bytes = .ping sender clock) ∨
      ∃ clock, ofFrame link sender bytes = .ack sender clock := by
  unfold ofFrame
  split
  · unfold ofPacket
    split
    all_goals try split
    all_goals try split
    all_goals simp
  · exact .inl rfl

theorem News.ofFrame_ne_probe (link : LocalLink) (sender : HwAddr) (bytes : List UInt8) {host : HwAddr}
    {timer : TimerId} : ofFrame link sender bytes ≠ .probe host timer := by
  rcases ofFrame_cases link sender bytes with he | ⟨l, he⟩ | ⟨clock, he⟩ | ⟨clock, he⟩ <;> simp [he]

theorem News.ofFrame_ne_expiry (link : LocalLink) (sender : HwAddr) (bytes : List UInt8) {timer next : TimerId} :
    ofFrame link sender bytes ≠ .expiry timer next := by
  rcases ofFrame_cases link sender bytes with he | ⟨l, he⟩ | ⟨clock, he⟩ | ⟨clock, he⟩ <;> simp [he]

theorem Daemon.tickNews_ne_expiry {σ : Type} (d : Daemon σ) {timer next : TimerId} :
    d.tickNews ≠ .expiry timer next := by
  unfold tickNews
  split
  · split <;> simp
  · simp

theorem News.eq_probe_of_signal {a : HwAddr} {news : News} {timer : TimerId} (h : news.signal a = .probe timer) :
    news = .probe a timer := by
  cases news <;> simp only [signal] at h
  all_goals try split at h
  all_goals simp_all

theorem News.eq_expiry_of_signal {a : HwAddr} {news : News} {timer next : TimerId}
    (h : news.signal a = .expiry timer next) : news = .expiry timer next := by
  cases news <;> simp only [signal] at h
  all_goals try split at h
  all_goals simp_all

theorem News.eq_ack_of_signal {a : HwAddr} {news : News} {clock : Int32} (h : news.signal a = .ack clock) :
    news = .ack a clock := by
  cases news <;> simp only [signal] at h
  all_goals try split at h
  all_goals simp_all

theorem News.eq_ping_of_signal {a : HwAddr} {news : News} {clock : Int32} (h : news.signal a = .ping clock) :
    news = .ping a clock := by
  cases news <;> simp only [signal] at h
  all_goals try split at h
  all_goals simp_all

theorem News.eq_shutdown_of_signal {a : HwAddr} {news : News} (h : news.signal a = .shutdown) : news = .shutdown := by
  cases news <;> simp only [signal] at h
  all_goals try split at h
  all_goals simp_all

namespace Signal

/-- The next state; without an entry it is `none`. All pairs that are not listed leave the state as it is. -/
def next : Signal → Option Watch → Option Watch
  | introduction, none => some ⟨0, .idle, none⟩
  | probe timer, some ⟨clock, .idle, _⟩ => some ⟨clock, .awaitingAck, some timer⟩
  | ack clock, some ⟨_, .awaitingAck, _⟩ => some ⟨clock, .idle, none⟩
  | ack clock, some ⟨_, .awaitingInvestigativeAck, _⟩ => some ⟨clock, .idle, none⟩
  | ping clock, some ⟨_, .awaitingInvestigativeAck, _⟩ => some ⟨clock, .idle, none⟩
  | ping clock, some ⟨_, liveness, own⟩ => some ⟨clock, liveness, own⟩
  | expiry timer next, some ⟨clock, .awaitingAck, own⟩ =>
    some (if own = some timer then ⟨clock, .awaitingInvestigativeAck, some next⟩ else ⟨clock, .awaitingAck, own⟩)
  | expiry timer _, some ⟨clock, .awaitingInvestigativeAck, own⟩ =>
    if own = some timer then none else some ⟨clock, .awaitingInvestigativeAck, own⟩
  | shutdown, some ⟨clock, _, _⟩ => some ⟨clock, .idle, none⟩
  | _, w => w

theorem next_silence : ∀ w, silence.next w = w
  | none | some ⟨_, .idle, _⟩ | some ⟨_, .awaitingAck, _⟩ | some ⟨_, .awaitingInvestigativeAck, _⟩ => rfl

theorem next_introduction : ∀ w, introduction.next (some w) = some w
  | ⟨_, .idle, _⟩ | ⟨_, .awaitingAck, _⟩ | ⟨_, .awaitingInvestigativeAck, _⟩ => rfl

/-- The deadline of another host means nothing. -/
theorem next_expiry_other {timer next : TimerId} : ∀ {w : Watch}, w.timer? ≠ some timer →
    (expiry timer next).next (some w) = some w
  | ⟨_, .idle, _⟩, _ => rfl
  | ⟨_, .awaitingAck, _⟩, h | ⟨_, .awaitingInvestigativeAck, _⟩, h => by simp only [Signal.next, if_neg h]

/-- An ack is awaited after a probe, or as before while none comes. -/
theorem next_eq_awaitingAck {s : Signal} {w : Option Watch} {clock : Int32} {timer : TimerId}
    (h : s.next w = some ⟨clock, .awaitingAck, some timer⟩) :
    s = .probe timer ∨ (∃ c, w = some ⟨c, .awaitingAck, some timer⟩) ∧ ∀ c, s ≠ .ack c := by
  rcases w with _ | ⟨c, _ | _ | _, own⟩ <;> cases s <;> simp only [next] at h
  all_goals try split at h
  all_goals simp_all

/-- An answer is awaited after the deadline of an ack, or as before while no sign of life comes. -/
theorem next_eq_awaitingInvestigativeAck {s : Signal} {w : Option Watch} {clock : Int32} {timer : TimerId}
    (h : s.next w = some ⟨clock, .awaitingInvestigativeAck, some timer⟩) :
    (∃ own c, s = .expiry own timer ∧ w = some ⟨c, .awaitingAck, some own⟩) ∨
      (∃ c, w = some ⟨c, .awaitingInvestigativeAck, some timer⟩) ∧ (∀ c, s ≠ .ack c) ∧ ∀ c, s ≠ .ping c := by
  rcases w with _ | ⟨c, _ | _ | _, own⟩ <;> cases s <;> simp only [next] at h
  all_goals try split at h
  all_goals simp_all

/-- An entry leaves when the deadline of an answer passes. -/
theorem next_eq_none {s : Signal} {w : Watch} (h : s.next (some w) = none) :
    ∃ own next, s = .expiry own next ∧ w.liveness = .awaitingInvestigativeAck ∧ w.timer? = some own := by
  rcases w with ⟨c, _ | _ | _, own⟩ <;> cases s <;> simp only [Signal.next] at h
  all_goals try split at h
  all_goals simp_all

/-- An investigation that does not go on and ends without an eviction is ended by a sign of life or by shutdown. -/
theorem next_of_awaitingInvestigativeAck {s : Signal} {clock : Int32} {own : Option TimerId} {w : Watch}
    (h : s.next (some ⟨clock, .awaitingInvestigativeAck, own⟩) = some w) :
    w.liveness = .awaitingInvestigativeAck ∧ w.timer? = own ∨
      (∃ c, s = .ack c) ∨ (∃ c, s = .ping c) ∨ s = .shutdown := by
  cases s <;> simp only [next] at h
  all_goals try split at h
  all_goals simp_all
  all_goals simp [← h]

end Signal

/-! ## Tables, as seen by one host -/

def Neighbor.watch (n : Neighbor) : Watch := ⟨n.clock, n.liveness, n.timer?⟩

namespace NeighborTable

variable {t : NeighborTable} {n : Neighbor}

def watch (t : NeighborTable) (a : HwAddr) : Option Watch := (t.get? a).map Neighbor.watch

theorem watch_introduce (t : NeighborTable) (identity : HwAddr → Xid) (l : List HwAddr) (a : HwAddr) :
    (t.introduce identity l).watch a = ((News.hosts l).signal a).next (t.watch a) := by
  simp only [watch, News.signal]
  cases hg : t.get? a with
  | some n =>
    rw [get?_introduce_of_some _ l hg, Option.map_some]
    split
    · exact (Signal.next_introduction _).symm
    · exact (Signal.next_silence _).symm
  | none =>
    split
    · rename_i ha
      obtain ⟨ref, he⟩ := get?_introduce_of_mem identity l hg ha
      rw [he]
      rfl
    · rename_i ha
      rw [get?_introduce_of_not_mem identity l hg ha]
      rfl

section
variable (h : t.WellFormed) (hn : n ∈ t.entries)
include h hn

theorem watch_self : t.watch n.hwaddr = some n.watch := by
  rw [watch, h.get?_eq_some_iff.2 ⟨hn, rfl⟩]
  rfl

/-- After a change of one entry the table shows the new entry, and all others as before. -/
theorem watch_update {f : Neighbor → Neighbor} (hf : ∀ m, (f m).hwaddr = m.hwaddr) (a : HwAddr) :
    (t.update n.ref f).watch a = if n.hwaddr = a then some (f n).watch else t.watch a := by
  rw [watch]
  split
  · rename_i ha
    rw [← ha, get?_update_self hf h hn]
    rfl
  · rename_i ha
    rw [get?_update_other hf h hn ha]
    rfl

theorem watch_arm (liveness : Liveness) (timer : TimerId) (a : HwAddr) :
    (t.arm n.ref liveness timer).watch a =
      if n.hwaddr = a then some ⟨n.clock, liveness, some timer⟩ else t.watch a :=
  watch_update h hn (f := (·.armed liveness timer)) (fun _ => rfl) a

theorem watch_settle (a : HwAddr) :
    (t.settle n.ref).watch a = if n.hwaddr = a then some ⟨n.clock, .idle, none⟩ else t.watch a :=
  watch_update h hn (f := Neighbor.settled) (fun _ => rfl) a

theorem watch_setClock (clock : Int32) (a : HwAddr) :
    (t.setClock n.ref clock).watch a = if n.hwaddr = a then some ⟨clock, n.liveness, n.timer?⟩ else t.watch a :=
  watch_update h hn (f := fun m => { m with clock := clock }) (fun _ => rfl) a

theorem watch_depart (a : HwAddr) : (t.depart n).watch a = if n.hwaddr = a then none else t.watch a := by
  rw [watch]
  split
  · rename_i ha
    rw [← ha, get?_depart_self h hn]
    rfl
  · rename_i ha
    rw [get?_depart_other h hn ha]
    rfl

end

end NeighborTable

namespace Daemon

variable {σ : Type} {d d' : Daemon σ} {n : Neighbor} {a : HwAddr}

def watch (d : Daemon σ) (a : HwAddr) : Option Watch := d.neighbors.watch a

theorem Aside.watch_eq (h : Aside d d') (a : HwAddr) : d'.watch a = d.watch a := by
  rw [watch, watch, h.neighbors]

/-! ## Acts, as seen by one host -/

namespace Regular

variable (h : d.Regular)
include h

theorem watch_notePing (sender : HwAddr) (clock : Int32) (a : HwAddr) :
    (d.notePing sender clock).watch a = ((News.ping sender clock).signal a).next (d.watch a) := by
  unfold Daemon.notePing
  cases hg : d.neighbors.get? sender with
  | none =>
    simp only [News.signal]
    split
    · rename_i ha
      rw [watch, NeighborTable.watch, ← ha, hg]
      rfl
    · exact (Signal.next_silence _).symm
  | some n =>
    obtain ⟨hm, rfl⟩ := h.neighbors.get?_eq_some_iff.1 hg
    have hw := NeighborTable.watch_self h.neighbors hm
    have hc := NeighborTable.watch_setClock h.neighbors hm clock a
    have hs := NeighborTable.watch_settle (NeighborTable.setClock_wellFormed h.neighbors hm clock)
      (NeighborTable.mem_entries_update_self h.neighbors hm) a
    simp only [News.signal, settle_eq, watch]
    by_cases ha : n.hwaddr = a
    · subst ha
      rw [if_pos rfl] at hc hs ⊢
      rw [hw, Neighbor.watch]
      cases hl : n.liveness with
      | awaitingInvestigativeAck => exact hs
      | idle | awaitingAck =>
        rw [hl] at hc
        exact hc
    · rw [if_neg ha] at hc hs ⊢
      rw [Signal.next_silence]
      split
      · exact hs.trans hc
      · exact hc

theorem watch_noteAck (sender : HwAddr) (clock : Int32) (a : HwAddr) :
    (d.noteAck sender clock).watch a = ((News.ack sender clock).signal a).next (d.watch a) := by
  unfold Daemon.noteAck
  cases hg : d.neighbors.get? sender with
  | none =>
    simp only [News.signal]
    split
    · rename_i ha
      rw [watch, NeighborTable.watch, ← ha, hg]
      rfl
    · exact (Signal.next_silence _).symm
  | some n =>
    obtain ⟨hm, rfl⟩ := h.neighbors.get?_eq_some_iff.1 hg
    have hw := NeighborTable.watch_self h.neighbors hm
    have hs := NeighborTable.watch_settle h.neighbors hm a
    have hc : ((d.neighbors.settle n.ref).setClock n.ref clock).watch a =
        if n.hwaddr = a then some ⟨clock, .idle, none⟩ else (d.neighbors.settle n.ref).watch a :=
      NeighborTable.watch_setClock (NeighborTable.settle_wellFormed h.neighbors hm)
        (NeighborTable.mem_entries_update_self h.neighbors hm) clock a
    simp only [News.signal, settle_eq, watch]
    by_cases ha : n.hwaddr = a
    · subst ha
      rw [if_pos rfl] at hc ⊢
      rw [hw, Neighbor.watch]
      cases hl : n.liveness with
      | idle =>
        rw [if_pos (Neighbor.isIdle_iff.2 hl), hw, Neighbor.watch, hl]
        rfl
      | awaitingAck | awaitingInvestigativeAck =>
        rw [if_neg (by simp [Neighbor.isIdle, hl])]
        exact hc
    · rw [if_neg ha] at hc hs ⊢
      rw [Signal.next_silence]
      split
      · rfl
      · exact hc.trans hs

/-- A frame means for a host what the news in it means. -/
theorem watch_handleFrame [RouteTable σ] (sender : HwAddr) (bytes : List UInt8) (a : HwAddr) :
    (d.handleFrame sender bytes).2.watch a = ((News.ofFrame d.link sender bytes).signal a).next (d.watch a) := by
  rw [(handleFrame_aside d sender bytes).watch_eq]
  rcases News.ofFrame_cases d.link sender bytes with he | ⟨l, he⟩ | ⟨clock, he⟩ | ⟨clock, he⟩ <;> rw [he]
  · exact (Signal.next_silence _).symm
  · exact NeighborTable.watch_introduce _ _ l a
  · exact h.watch_notePing sender clock a
  · exact h.watch_noteAck sender clock a

/-- The entry begins to wait, with a new deadline. -/
theorem watch_await (hm : n ∈ d.neighbors.entries) (delay : Nat) (task : Alarm) (liveness : Liveness)
    (a : HwAddr) : (d.await n delay task liveness).watch a =
      if n.hwaddr = a then some ⟨n.clock, liveness, some ⟨d.timers.fresh⟩⟩ else d.watch a :=
  NeighborTable.watch_arm h.neighbors hm _ _ a

theorem watch_pingTick (a : HwAddr) : d.pingTick.2.watch a = (d.tickNews.signal a).next (d.watch a) := by
  rcases pingTick_cases h.neighbors h.timers with ⟨n, hm, hi, he, ha⟩ | ⟨he, k, ha⟩
  · rw [ha.watch_eq, he, Daemon.awaitAck, h.watch_await hm]
    simp only [News.signal]
    by_cases hna : n.hwaddr = a
    · subst hna
      have hw : d.watch n.hwaddr = some n.watch := NeighborTable.watch_self h.neighbors hm
      rw [if_pos rfl, if_pos rfl, hw, Neighbor.watch, Neighbor.isIdle_iff.1 hi]
      rfl
    · rw [if_neg hna, if_neg hna, Signal.next_silence]
  · rw [ha.watch_eq, he]
    exact (Signal.next_silence _).symm

theorem watch_shutdown (a : HwAddr) : d.shutdown.watch a = Signal.shutdown.next (d.watch a) := by
  have hs : d.shutdown.neighbors.get? a = (d.neighbors.get? a).map Neighbor.settled := by
    rw [h.neighbors_shutdown]
    simp only [NeighborTable.get?, List.find?_map]
    rfl
  rw [watch, NeighborTable.watch, hs, watch, NeighborTable.watch]
  cases d.neighbors.get? a <;> rfl

/-- A deadline means nothing to hosts whose deadline it is not. -/
theorem watch_other_deadline (hm : n ∈ d.neighbors.entries) {t : Timer Alarm} (ht : t ∈ d.timers.pending)
    (hn : n.Awaits t) (next : TimerId) (ha : n.hwaddr ≠ a) :
    (Signal.expiry t.id next).next (d.watch a) = d.watch a := by
  rw [watch, NeighborTable.watch]
  cases hg : d.neighbors.get? a with
  | none => rfl
  | some m =>
    obtain ⟨hm', rfl⟩ := h.neighbors.get?_eq_some_iff.1 hg
    refine Signal.next_expiry_other fun he => ha ?_
    exact congrArg _ (h.neighbors.eq_of_entry_ref hm hm' (hn.ref_eq (h.awaits hm' ht he)))

variable [RouteTable σ]

theorem watch_expire {t : Timer Alarm} (ht : d.timers.soonest? = some t) (a : HwAddr) :
    ({ d with timers := d.timers.fire t }.expire t).watch a = ((d.news (.expiry t)).signal a).next (d.watch a) := by
  have htm := Timers.soonest?_mem ht
  cases h.fires ht with
  | ackDue n hm hn hlive _ hnews ha =>
    have hw : d.watch n.hwaddr = some n.watch := NeighborTable.watch_self h.neighbors hm
    rw [ha.watch_eq, hnews, Daemon.awaitAnswer, (h.later_soonest ht).watch_await hm]
    by_cases hna : n.hwaddr = a
    · subst hna
      rw [if_pos rfl, hw, Neighbor.watch, hlive, hn.timer?]
      simp only [News.signal, Signal.next, if_true]
      rfl
    · rw [if_neg hna]
      exact (h.watch_other_deadline hm htm hn ⟨d.timers.fresh⟩ hna).symm
  | answerDue n hm hn hlive _ hnews ha =>
    have hw : d.watch n.hwaddr = some n.watch := NeighborTable.watch_self h.neighbors hm
    rw [ha.watch_eq, hnews]
    refine Eq.trans (NeighborTable.watch_depart h.neighbors hm a) ?_
    by_cases hna : n.hwaddr = a
    · subst hna
      rw [if_pos rfl, hw, Neighbor.watch, hlive, hn.timer?]
      simp only [News.signal, Signal.next, if_true]
    · rw [if_neg hna]
      exact (h.watch_other_deadline hm htm hn ⟨d.timers.fresh⟩ hna).symm
  | announce _ _ hnews ha =>
    rw [ha.watch_eq, hnews]
    exact (Signal.next_silence _).symm
  | ping hp _ hnews he =>
    rw [he, hnews]
    exact (h.fire ht hp).watch_pingTick a

end Regular

/-- A step of a daemon is a step of the automaton for every host. -/
theorem Step.watch_eq [RouteTable σ] (h : d.Regular) {e : Event} (hs : Step d e d') (a : HwAddr) :
    d'.watch a = ((d.news e).signal a).next (d.watch a) := by
  cases hs with
  | frame sender bytes => exact h.watch_handleFrame sender bytes a
  | pingTick => exact h.watch_pingTick a
  | announce => exact ((announce_outward d).aside.watch_eq a).trans (Signal.next_silence _).symm
  | tryAnnounce => exact ((tryAnnounce_outward d).aside.watch_eq a).trans (Signal.next_silence _).symm
  | start => exact ((announce_outward d).aside.watch_eq a).trans (Signal.next_silence _).symm
  | shutdown => exact h.watch_shutdown a
  | expiry ht => exact h.watch_expire ht a
  | pass _ => exact (Signal.next_silence _).symm
  | surroundings sink clock => exact (Signal.next_silence _).symm

/-! ## Moments, as seen by one host -/

namespace Moment

/-- A ping to the host `a` is handed to the sink. -/
def hands (m : Moment σ) (a : HwAddr) : Prop :=
  ∃ frame, (m.before.pingTo a).encode = .ok frame ∧ m.after.sink.frames = m.before.sink.frames ++ [⟨some a, frame⟩]

/-- A timer with a new number is set that fires once, when a sleep of so many seconds is over. -/
def sets (m : Moment σ) (timer : TimerId) (seconds : Nat) : Prop :=
  (∀ t ∈ m.before.timers.pending, t.id ≠ timer) ∧
    ∃ t ∈ m.after.timers.pending, t.id = timer ∧ t.period = none ∧
      t.due = m.before.timers.sleep.ends m.time (millis seconds)

/-- The entry of the host `a` moves as the automaton says, and the timers of its signals are what they claim to be. -/
structure Follows (m : Moment σ) (a : HwAddr) : Prop where
  watch : m.after.watch a = (m.news.signal a).next (m.before.watch a)
  /-- A probe finds the host idle, hands a ping to the sink and sets the deadline of the ack. -/
  probe : ∀ timer, m.news = .probe a timer → (∃ clock, m.before.watch a = some ⟨clock, .idle, none⟩) ∧ m.hands a ∧
    m.sets timer m.before.config.ackTimeout
  /-- A deadline passes when its timer, which was pending, fires. -/
  expiry : ∀ timer next, m.news = .expiry timer next →
    ∃ t ∈ m.before.timers.pending, m.event = .expiry t ∧ t.id = timer ∧ t.period = none ∧ m.time = t.due
  /-- When the deadline of the ack passes, the deadline of the answer is set. -/
  escalation : ∀ clock timer next, m.before.watch a = some ⟨clock, .awaitingAck, some timer⟩ →
    m.news = .expiry timer next → m.sets next m.before.config.investigativeAckTimeout

end Moment

namespace Regular

variable (h : d.Regular)
include h

theorem exists_of_watch {w : Watch} (hw : d.watch a = some w) :
    ∃ n ∈ d.neighbors.entries, n.hwaddr = a ∧ n.watch = w := by
  rw [watch, NeighborTable.watch, Option.map_eq_some_iff] at hw
  obtain ⟨n, hg, hn⟩ := hw
  obtain ⟨hm, ha⟩ := h.neighbors.get?_eq_some_iff.1 hg
  exact ⟨n, hm, ha, hn⟩

/-- The deadline that is set for an entry. -/
theorem sets_await (hm : n ∈ d.neighbors.entries) {seconds : Nat} {task : Alarm} {liveness : Liveness} {m : Moment σ}
    (hs : m.before.timers.sleep = d.timers.sleep) (hb : ∀ t ∈ m.before.timers.pending, t.id ≠ ⟨d.timers.fresh⟩)
    (ha : Aside (d.await n (millis seconds) task liveness) m.after) : m.sets ⟨d.timers.fresh⟩ seconds := by
  refine ⟨hb, ⟨⟨d.timers.fresh⟩, d.timers.sleep.ends d.timers.now (millis seconds), none, task⟩, ?_, rfl, rfl, ?_⟩
  · rw [ha.timers]
    exact (h.mem_pending_await hm).2 (.inl rfl)
  · rw [Moment.time, ha.timers, hs]
    rfl

end Regular

/-- A tick that probes, after a timer may have fired. -/
theorem probe_pingTick {ts : Timers Alarm} (h : Regular { d with timers := ts }) (hs : d.timers.sleep = ts.sleep)
    (hb : ∀ t ∈ d.timers.pending, t.id ≠ ⟨ts.fresh⟩) {timer : TimerId}
    (hk : { d with timers := ts }.tickNews = .probe a timer) {m : Moment σ} (hd : m.before = d)
    (he : m.after = { d with timers := ts }.pingTick.2) :
    (∃ clock, m.before.watch a = some ⟨clock, .idle, none⟩) ∧ m.hands a ∧ m.sets timer m.before.config.ackTimeout := by
  subst hd
  rcases pingTick_cases h.neighbors h.timers with ⟨n, hm, hi, hn, ha⟩ | ⟨hn, -⟩
  · rw [hk] at hn
    cases hn
    refine ⟨⟨n.clock, ?_⟩, ?_, ?_⟩
    · have hw : m.before.watch n.hwaddr = some n.watch := NeighborTable.watch_self h.neighbors hm
      rw [hw, Neighbor.watch, Neighbor.isIdle_iff.1 hi, (h.neighbors.bounded_of_mem hm).timer?_of_idle hi]
    · rw [Moment.hands, he]
      exact pingTick_frames hk
    · rw [← he] at ha
      exact h.sets_await hm hs hb ha
  · rw [hk] at hn
    cases hn

variable [RouteTable σ]

/-- News of a passed deadline comes from a timer that fires once. -/
theorem Step.deadline (h : d.Regular) {e : Event} (hs : Step d e d') {timer next : TimerId}
    (hn : d.news e = .expiry timer next) : ∃ t, d.timers.soonest? = some t ∧ e = .expiry t ∧ t.period = none ∧
      timer = t.id ∧ next = ⟨d.timers.fresh⟩ ∧ d' = { d with timers := d.timers.fire t }.expire t := by
  cases hs with
  | frame sender bytes => exact absurd hn (News.ofFrame_ne_expiry _ _ _)
  | pingTick => exact absurd hn d.tickNews_ne_expiry
  | @expiry t ht =>
    cases h.fires ht with
    | ackDue _ _ ha _ _ hnews | answerDue _ _ ha _ _ hnews =>
      rw [hnews] at hn
      cases hn
      exact ⟨t, ht, rfl, ha.1, rfl, rfl, rfl⟩
    | announce _ _ hnews =>
      rw [hnews] at hn
      cases hn
    | ping _ _ hnews =>
      rw [hnews] at hn
      exact absurd hn d.tickNews_ne_expiry
  | announce | tryAnnounce | start | shutdown | pass | surroundings => cases hn

/-- The time of a moment at which a deadline passes is when it was due. -/
theorem Step.time_of_deadline (h : d.Regular) {t : Timer Alarm} (ht : d.timers.soonest? = some t)
    (hp : t.period = none) : ({ d with timers := d.timers.fire t }.expire t).timers.now = t.due := by
  have hnow : (d.later t.due).timers.now = t.due :=
    Nat.max_eq_right (h.timers.not_overdue t (Timers.soonest?_mem ht))
  cases h.fires ht with
  | ackDue n _ _ _ _ _ ha =>
    rw [ha.timers]
    exact hnow
  | answerDue n _ _ _ _ _ ha =>
    rw [ha.timers]
    exact hnow
  | announce hp' | ping hp' => exact absurd hp hp'

/-- Every step moves the entry of every host as it should. -/
theorem Step.follows (h : d.Regular) {e : Event} (hs : Step d e d') (a : HwAddr) : Moment.Follows ⟨d, e, d'⟩ a where
  watch := hs.watch_eq h a
  probe timer hk := by
    cases hs with
    | pingTick => exact probe_pingTick h rfl (fun _ ht => h.timers.id_ne_fresh ht) hk rfl rfl
    | @expiry t ht =>
      have hk' : d.news (.expiry t) = .probe a timer := hk
      cases h.fires ht with
      | ackDue _ _ _ _ _ hnews | answerDue _ _ _ _ _ hnews | announce _ _ hnews =>
        rw [hnews] at hk'
        cases hk'
      | ping hp _ hnews he =>
        rw [hnews] at hk'
        exact probe_pingTick (h.fire ht hp) rfl (fun _ hu => h.timers.id_ne_fresh hu) hk' rfl he
    | frame sender bytes => exact absurd hk (News.ofFrame_ne_probe _ _ _)
    | announce | tryAnnounce | start | shutdown | pass | surroundings => cases hk
  expiry timer next hn := by
    obtain ⟨t, ht, rfl, hp, rfl, -, rfl⟩ := hs.deadline h hn
    exact ⟨t, Timers.soonest?_mem ht, rfl, rfl, hp, Step.time_of_deadline h ht hp⟩
  escalation clock timer next hw hn := by
    obtain ⟨t, ht, rfl, hp, rfl, rfl, rfl⟩ := hs.deadline h hn
    have htm := Timers.soonest?_mem ht
    -- the host whose deadline passes is the one that is watched
    obtain ⟨n, hm, rfl, hn⟩ := h.exists_of_watch hw
    have hlive : n.liveness = .awaitingAck := congrArg Watch.liveness hn
    have hh : n.timer? = some t.id := congrArg Watch.timer? hn
    obtain ⟨-, -, ⟨-, htask⟩ | ⟨hl', -⟩⟩ := h.awaits hm htm hh
    · exact (h.later_soonest ht).sets_await hm rfl (fun _ hu => h.timers.id_ne_fresh hu)
        (expire_ackDue_aside h.neighbors h.timers hm htm hp hlive hh htask)
    · rw [hlive] at hl'
      cases hl'

/-! ## Runs, as seen by one host -/

variable {d₀ : Daemon σ} {l : List (Moment σ)}

/-- Every moment of a run is a step from a regular state. -/
theorem Run.step_of_mem (h₀ : d₀.IsFresh) (h : Run d₀ l d) {m : Moment σ} (hm : m ∈ l) :
    m.before.Regular ∧ Step m.before m.event m.after := by
  obtain ⟨l₁, l₂, rfl⟩ := List.append_of_mem hm
  obtain ⟨hr, hs⟩ := h.split
  exact ⟨hr.regular h₀, hs⟩

/-- The entry of a host is what its signals make of no entry. -/
theorem Run.watch_eq_foldl (h₀ : d₀.IsFresh) (h : Run d₀ l d) (a : HwAddr) :
    d.watch a = l.foldl (fun w m => (m.news.signal a).next w) none := by
  induction h with
  | nil => rw [watch, h₀.neighbors]; rfl
  | snoc hr hs ih => rw [List.foldl_append, ← ih]; exact hs.watch_eq (hr.regular h₀) a

/-- The entry of every host follows the automaton from no entry on, throughout every run, and letting time pass is more
of a run. -/
theorem Run.watch_follows (h₀ : d₀.IsFresh) (h : Run d₀ l d) (a : HwAddr) :
    d₀.watch a = none ∧ (∀ m ∈ l, m.Follows a) ∧ d.watch a = l.foldl (fun w m => (m.news.signal a).next w) none ∧
      ∀ ms, ∃ l', Run d₀ (l ++ l') (d.advance ms) := by
  refine ⟨?_, fun m hm => ?_, h.watch_eq_foldl h₀ a, fun ms => ?_⟩
  · rw [watch, h₀.neighbors]
    rfl
  · obtain ⟨hr, hs⟩ := h.step_of_mem h₀ hm
    exact hs.follows hr a
  · obtain ⟨l', hr, -⟩ := h.advance h₀ ms
    exact ⟨l', hr⟩

theorem watch_follows_of_pinged : ∃ l, Run (lone 5) l (pinged 5) ∧
    (pinged 5).watch peer = some ⟨0, .awaitingAck, some ⟨1⟩⟩ ∧ ∀ m ∈ l, m.Follows peer := by
  obtain ⟨l, h⟩ := run_pinged 5
  exact ⟨l, h, by decide, (Run.watch_follows (lone_isFresh 5) h peer).2.1⟩

end Daemon

end Neighborhood
