import Neighborhood.Proofs.Daemon.Still
import Neighborhood.Proofs.Daemon.Watch

/-!
# What comes before an eviction

* `Daemon.Probe` — the moments since a ping to a host left, with no ack from it
* `Daemon.Escalation` — the moments since the deadline of that ack passed, with no sign of life
* `Daemon.Run.exists_probe`, `Daemon.Run.exists_escalation` — whoever is awaited was probed, and has been silent since
* `Daemon.Run.eviction` — every eviction ends an escalated probe, when both timeouts have passed since its ping
-/

namespace Neighborhood

namespace Daemon

variable {σ : Type} [RouteTable σ] {d₀ d d' : Daemon σ} {a : HwAddr} {timer next : TimerId} {l : List (Moment σ)}

/-- A deadline stays pending as long as it is one. -/
theorem Step.mem_pending (h : d.Regular) {e : Event} (hs : Step d e d') {t : Timer Alarm} (ht : t ∈ d.timers.pending)
    {w : Watch} (hw : d'.watch a = some w) (hl : w.timer? = some t.id) : t ∈ d'.timers.pending := by
  have h' := hs.regular h
  obtain ⟨n, hm, -, rfl⟩ := h'.exists_of_watch hw
  have hl' : n.timer? = some t.id := hl
  obtain ⟨u, hu, ha⟩ := h'.paired.deadline n hm ((h'.neighbors.bounded_of_mem hm).1 (by rw [hl']; rfl))
  have hid : u.id = t.id := by
    rw [ha.timer?] at hl'
    exact Option.some.inj hl'
  rcases hs.pending_of_once h hu ha.1 with hold | hnew
  · rw [← h.timers.eq_of_id hold ht hid]
    exact hu
  · exact absurd (hid.symm.trans hnew) (h.timers.id_ne_fresh ht)

/-! ## Probes -/

/-- The moment `p` is a probe of the host `a`, which has stayed in the table in the moments `l` since and has sent no
ack. -/
structure Probe (a : HwAddr) (timer : TimerId) (p : Moment σ) (l : List (Moment σ)) : Prop where
  news : p.news = .probe a timer
  hands : p.hands a
  present : ∀ q ∈ p :: l, (q.after.watch a).isSome = true
  noAck : ∀ q ∈ l, ∀ clock, q.news ≠ .ack a clock

omit [RouteTable σ] in
/-- The probe holds on in one more moment. -/
theorem Probe.snoc {p m : Moment σ} (h : Probe a timer p l) (hm : (m.after.watch a).isSome = true)
    (hn : ∀ clock, (m.news.signal a) ≠ .ack clock) : Probe a timer p (l ++ [m]) where
  news := h.news
  hands := h.hands
  present q hq := by
    rw [← List.cons_append, List.mem_append, List.mem_singleton] at hq
    rcases hq with hq | rfl
    · exact h.present q hq
    · exact hm
  noAck q hq clock he := by
    rcases List.mem_append.1 hq with hq | hq
    · exact h.noAck q hq clock he
    · rw [← List.mem_singleton.1 hq, he] at hn
      exact hn clock (if_pos rfl)

/-- Whoever is to send an ack was probed, and its deadline is counted from then on. -/
theorem Run.exists_probe (h₀ : d₀.IsFresh) (h : Run d₀ l d) {clock : Int32}
    (hw : d.watch a = some ⟨clock, .awaitingAck, some timer⟩) : ∃ l₁ p l₂, l = l₁ ++ p :: l₂ ∧ Probe a timer p l₂ ∧
      ∃ t ∈ d.timers.pending, t.id = timer ∧ t.due = d₀.timers.sleep.ends p.time (millis d₀.config.ackTimeout) := by
  induction h generalizing clock with
  | nil =>
    rw [watch, h₀.neighbors] at hw
    cases hw
  | @snoc l d d' e hr hs ih =>
    have hreg := hr.regular h₀
    have hf := hs.follows hreg a
    have hnext := (hs.watch_eq hreg a).symm.trans hw
    rcases Signal.next_eq_awaitingAck hnext with hprobe | ⟨⟨c, hb⟩, hack⟩
    · have hnews : d.news e = .probe a timer := News.eq_probe_of_signal hprobe
      obtain ⟨-, hands, -, t, ht, hid, -, hdue⟩ := hf.probe timer hnews
      have hp : Probe a timer ⟨d, e, d'⟩ [] := by
        refine ⟨hnews, hands, fun q hq => ?_, by simp⟩
        rw [List.mem_singleton.1 hq, hw]
        rfl
      rw [hr.sameHost.config, hr.sameHost.sleep] at hdue
      exact ⟨l, ⟨d, e, d'⟩, [], rfl, hp, t, ht, hid, hdue⟩
    · obtain ⟨l₁, p, l₂, rfl, hp, t, ht, rfl, hdue⟩ := ih hb
      have hp' : Probe a t.id p (l₂ ++ [⟨d, e, d'⟩]) := hp.snoc (by rw [hw]; rfl) hack
      exact ⟨l₁, p, l₂ ++ [⟨d, e, d'⟩], by simp, hp', t, hs.mem_pending hreg ht hw rfl, rfl, hdue⟩

/-! ## Escalations -/

/-- In the moment `x` the deadline of the ack passes that the probe `p` has set, and others are asked to probe the host;
in the moments `l₃` since it has sent neither an ack nor a ping. -/
structure Escalation (a : HwAddr) (timer next : TimerId) (p : Moment σ) (l₂ : List (Moment σ)) (x : Moment σ)
    (l₃ : List (Moment σ)) : Prop where
  probe : Probe a timer p (l₂ ++ x :: l₃)
  news : x.news = .expiry timer next
  before : ∃ clock, x.before.watch a = some ⟨clock, .awaitingAck, some timer⟩
  after : ∃ clock, x.after.watch a = some ⟨clock, .awaitingInvestigativeAck, some next⟩
  noPing : ∀ q ∈ l₃, ∀ clock, q.news ≠ .ping a clock

omit [RouteTable σ] in
/-- The escalated probe holds on in one more moment. -/
theorem Escalation.snoc {p x m : Moment σ} {l₂ l₃ : List (Moment σ)} (h : Escalation a timer next p l₂ x l₃)
    (hm : (m.after.watch a).isSome = true) (hack : ∀ clock, m.news.signal a ≠ .ack clock)
    (hping : ∀ clock, m.news.signal a ≠ .ping clock) : Escalation a timer next p l₂ x (l₃ ++ [m]) where
  probe := by
    rw [← List.cons_append, ← List.append_assoc]
    exact h.probe.snoc hm hack
  news := h.news
  before := h.before
  after := h.after
  noPing q hq clock he := by
    rcases List.mem_append.1 hq with hq | hq
    · exact h.noPing q hq clock he
    · rw [← List.mem_singleton.1 hq, he] at hping
      exact hping clock (if_pos rfl)

/-- Whoever is to answer was probed and its ack was missed when it was due, and the deadline of the answer is counted
from then on. -/
theorem Run.exists_escalation (h₀ : d₀.IsFresh) (h : Run d₀ l d) {clock : Int32}
    (hw : d.watch a = some ⟨clock, .awaitingInvestigativeAck, some next⟩) :
    ∃ timer l₁ p l₂ x l₃, l = l₁ ++ p :: (l₂ ++ x :: l₃) ∧ Escalation a timer next p l₂ x l₃ ∧
      x.time = d₀.timers.sleep.ends p.time (millis d₀.config.ackTimeout) ∧ ∃ t ∈ d.timers.pending, t.id = next ∧
        t.due = d₀.timers.sleep.ends x.time (millis d₀.config.investigativeAckTimeout) := by
  induction h generalizing clock with
  | nil =>
    rw [watch, h₀.neighbors] at hw
    cases hw
  | @snoc l d d' e hr hs ih =>
    have hreg := hr.regular h₀
    have hf := hs.follows hreg a
    have hnext := (hs.watch_eq hreg a).symm.trans hw
    rcases Signal.next_eq_awaitingInvestigativeAck hnext with ⟨own, c, hexp, hb⟩ | ⟨⟨c, hb⟩, hack, hping⟩
    · have hnews : d.news e = .expiry own next := News.eq_expiry_of_signal hexp
      obtain ⟨l₁, p, l₂, rfl, hp, t, ht, rfl, hdue⟩ := hr.exists_probe h₀ hb
      obtain ⟨u, hu, -, hid, -, htime⟩ := hf.expiry t.id next hnews
      obtain ⟨-, v, hv, hvid, -, hvdue⟩ := hf.escalation c t.id next hb hnews
      have hack : ∀ clock, (d.news e).signal a ≠ .ack clock := by
        intro clock hack
        rw [hexp] at hack
        cases hack
      have hx : Escalation a t.id next p l₂ ⟨d, e, d'⟩ [] :=
        { probe := hp.snoc (by rw [hw]; rfl) hack
          news := hnews
          before := ⟨c, hb⟩
          after := ⟨clock, hw⟩
          noPing := by simp }
      -- the timer that fires is the one that the probe has set
      rw [hreg.timers.eq_of_id hu ht hid, hdue] at htime
      rw [hr.sameHost.config, hr.sameHost.sleep] at hvdue
      exact ⟨t.id, l₁, p, l₂, ⟨d, e, d'⟩, [], by simp, hx, htime, v, hv, hvid, hvdue⟩
    · obtain ⟨timer, l₁, p, l₂, x, l₃, rfl, hx, htime, t, ht, rfl, hdue⟩ := ih hb
      have hx' : Escalation a timer t.id p l₂ x (l₃ ++ [⟨d, e, d'⟩]) := hx.snoc (by rw [hw]; rfl) hack hping
      have hpend := hs.mem_pending hreg ht hw rfl
      exact ⟨timer, l₁, p, l₂, x, l₃ ++ [⟨d, e, d'⟩], by simp, hx', htime, t, hpend, rfl, hdue⟩

/-! ## Evictions -/

/-- Where timers fire when they are due, an entry leaves the table only when a probe of its host is escalated and both
timeouts have passed: the ping left so long ago, and neither an ack since the ping nor a ping since the escalation has
come from the host. -/
theorem Run.eviction (h₀ : d₀.IsFresh) {m : Moment σ} {l' : List (Moment σ)} (h : Run d₀ (l ++ m :: l') d)
    (hb : m.before.watch a ≠ none) (ha : m.after.watch a = none)
    (hack : d₀.timers.sleep.Punctual (millis d₀.config.ackTimeout) m.time)
    (hanswer : d₀.timers.sleep.Punctual (millis d₀.config.investigativeAckTimeout) m.time) :
    ∃ timer next after l₁ p l₂ x l₃, l = l₁ ++ p :: (l₂ ++ x :: l₃) ∧ Escalation a timer next p l₂ x l₃ ∧
      x.time = p.time + millis d₀.config.ackTimeout ∧
      m.time = x.time + millis d₀.config.investigativeAckTimeout ∧ m.news = .expiry next after := by
  obtain ⟨hr, hs⟩ := h.split
  have hreg := hr.regular h₀
  obtain ⟨⟨clock, liveness, own?⟩, hw⟩ := Option.ne_none_iff_exists'.1 hb
  have hnext := (hs.watch_eq hreg a).symm.trans ha
  rw [hw] at hnext
  obtain ⟨own, after, hexp, rfl, rfl⟩ := Signal.next_eq_none hnext
  have hnews : m.news = .expiry own after := News.eq_expiry_of_signal hexp
  obtain ⟨u, hu, -, hid, -, htime⟩ := (hs.follows hreg a).expiry own after hnews
  obtain ⟨timer, l₁, p, l₂, x, l₃, rfl, hx, hxt, t, ht, rfl, hdue⟩ := hr.exists_escalation h₀ hw
  -- the timer that fires is the one that the escalation has set
  rw [hreg.timers.eq_of_id hu ht hid, hdue] at htime
  -- neither sleep began after it was over
  have hxm : x.time ≤ m.time := htime ▸ d₀.timers.sleep.le_ends _ _
  have hpx : p.time ≤ x.time := hxt ▸ d₀.timers.sleep.le_ends _ _
  rw [hack p.time (Nat.le_trans hpx hxm)] at hxt
  rw [hanswer x.time hxm] at htime
  exact ⟨timer, t.id, after, l₁, p, l₂, x, l₃, rfl, hx, hxt, htime, hnews⟩

/-! ### A host that falls silent -/

/-- The timers of the probe of the other host. -/
def ackDeadline (ackTimeout : Nat) : Timer Alarm := ⟨⟨1⟩, millis ackTimeout, none, .ackDue ⟨0⟩⟩

def answerDeadline (ackTimeout : Nat) : Timer Alarm :=
  ⟨⟨2⟩, millis ackTimeout + millis 5, none, .investigationDue ⟨0⟩⟩

/-- The other host has missed the first deadline. -/
def missed (ackTimeout : Nat) : Daemon MemoryRoutes :=
  let t := ackDeadline ackTimeout
  { pinged ackTimeout with timers := (pinged ackTimeout).timers.fire t }.expire t

/-- And the second. -/
def abandoned (ackTimeout : Nat) : Daemon MemoryRoutes :=
  let t := answerDeadline ackTimeout
  { missed ackTimeout with timers := (missed ackTimeout).timers.fire t }.expire t

/-- With five seconds for each answer the silent host is evicted ten seconds after a ping to it. -/
theorem eviction_of_abandoned : ∃ l : List (Moment MemoryRoutes),
    Run (lone 5) (l ++ [⟨missed 5, .expiry (answerDeadline 5), abandoned 5⟩]) (abandoned 5) ∧
    (missed 5).watch peer ≠ none ∧ (abandoned 5).watch peer = none ∧ (abandoned 5).timers.now = 10000 ∧
    ∃ p ∈ l, p.hands peer ∧ p.time = 0 := by
  obtain ⟨l, hpinged⟩ := run_pinged 5
  have hmissed : Run (lone 5) _ (missed 5) := hpinged.snoc (.expiry (t := ackDeadline 5) (by decide))
  have h : Run (lone 5) _ (abandoned 5) := hmissed.snoc (.expiry (t := answerDeadline 5) (by decide))
  have hb : (missed 5).watch peer ≠ none := by decide
  have ha : (abandoned 5).watch peer = none := by decide
  have hnow : (abandoned 5).timers.now = 10000 := by decide
  refine ⟨_, h, hb, ha, hnow, ?_⟩
  have hexact : ∀ delay limit, (lone 5).timers.sleep.Punctual delay limit := Sleep.exact_punctual
  obtain ⟨timer, next, after, l₁, p, l₂, x, l₃, hl, hx, hxt, hmt, -⟩ :=
    Run.eviction (lone_isFresh 5) h hb ha (hexact _ _) (hexact _ _)
  have hw : millis (lone 5).config.ackTimeout = 5000 ∧ millis (lone 5).config.investigativeAckTimeout = 5000 := by
    decide
  rw [Moment.time, hnow] at hmt
  exact ⟨p, by rw [hl]; simp, hx.probe.hands, by omega⟩

end Daemon

end Neighborhood
