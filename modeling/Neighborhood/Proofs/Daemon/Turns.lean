import Neighborhood.Proofs.Daemon.Counting
import Neighborhood.Proofs.Daemon.Receipt

/-!
# Turns at every step

Every dump that a step asks for is known from the same step of a daemon with a log around its route table.

* `Daemon.Moment.dumps` — the dumps that are asked for at a moment
* `Daemon.Moment.announces`, `lists`, `attempts`, `accepts`, `decides`, `draws` — what happens at a moment, as can be
  seen from outside
* `Daemon.Moment.Turns` — what this does to the counters and the draws, and what they decide
* `Daemon.Step.turns` — it holds of every step whose dumps succeed
-/

namespace Neighborhood

namespace Daemon

/-! ## Moments -/

section
variable {σ : Type} [RouteTable σ]

/-- The daemon with a new log around its route table. -/
def logged (d : Daemon σ) : Daemon (DumpLog σ) :=
  d.mapRoutes fun routes => { routes := routes }

/-- The log changes nothing but itself. -/
theorem react_logged (d : Daemon σ) (e : Event) : (d.logged.react e).mapRoutes DumpLog.routes = d.react e :=
  (mapRoutes_react DumpLog.keeps_routes d.logged e).symm

namespace Moment

variable (m : Moment σ)

/-- The dumps that are asked for, in order. -/
def dumps : List (Dump σ) := (m.before.logged.react m.event).routes.dumps

omit [RouteTable σ] in
/-- A packet of the kind is tried to be sent. -/
def tries (kind : Packet.Kind) : Bool :=
  (m.after.transmissions.take (m.after.transmissions.length - m.before.transmissions.length)).any
    (·.packet.kind = kind)

omit [RouteTable σ] in
/-- The prefixes of this host are announced. -/
def announces : Bool := m.tries .announce

omit [RouteTable σ] in
/-- A neighbor list is tried to be sent. -/
def lists : Bool := m.tries .neighborList

omit [RouteTable σ] in
/-- A periodic attempt to announce. -/
def attempts : Bool :=
  match m.event with
  | .tryAnnounce => true
  | .expiry t => t.task = .announce
  | _ => false

/-- An announce of another host is accepted. -/
def accepts : Bool :=
  match m.event with
  | .frame sender bytes =>
    match Packet.decode bytes with
    | .ok (.announce _) => (m.before.handleFrame sender bytes).1.isOk
    | _ => false
  | _ => false

/-- There is a turn to decide on: at an attempt to announce only if the total has not changed. -/
def decides : Bool :=
  m.accepts || (m.attempts && m.before.counters.sum = m.before.counters.lastTotal.toNat)

/-- A draw decides. -/
def draws : Bool := m.decides && m.before.counters.bothPositive

omit [RouteTable σ] in
theorem tries_eq {τ : Type} {d d' : Daemon τ} {said : List Utterance} {m : Moment σ} {kind : Packet.Kind}
    (h : Tries d said d') (hb : m.before.transmissions = d.transmissions)
    (ha : m.after.transmissions = d'.transmissions) :
    m.tries kind = mentions said kind := by
  obtain ⟨new, he, rfl, -, -⟩ := h
  rw [tries, ha, hb, he, List.length_append, Nat.add_sub_cancel, List.take_left]
  simp only [mentions, List.any_map, List.any_reverse]
  rfl

/-- What a moment does to the counters and the draws, and what it decides. -/
structure Turns (holds : σ → List Route) (m : Moment σ) : Prop where
  own : m.after.counters.own =
    if m.announces then UInt32.ofNat (Dump.shown holds m.dumps .own m.before.types.ad) else m.before.counters.own
  /-- The list counts the hosts before the announce that it answers is counted. -/
  discovered : m.after.counters.discovered =
    (if m.lists then UInt32.ofNat (Dump.shown holds m.dumps .main m.before.types.ether)
      else m.before.counters.discovered) + if m.accepts then 1 else 0
  lastTotal : m.after.counters.lastTotal =
    if m.attempts then m.before.counters.total else m.before.counters.lastTotal
  draws : m.after.draws = if m.draws then m.before.draws.next.2 else m.before.draws
  accepts_of_lists : m.lists → m.accepts
  accepted : m.accepts → Decides m.before.counters m.before.draws m.lists
  changed : m.attempts → m.before.counters.sum ≠ m.before.counters.lastTotal.toNat →
    m.announces ∧ m.after.draws = m.before.draws
  unchanged : m.attempts → m.before.counters.sum = m.before.counters.lastTotal.toNat →
    Decides m.before.counters m.before.draws m.announces

namespace Turns

variable {m} {holds : σ → List Route}

/-- No turn is decided on, but the prefixes of this host may be announced. -/
theorem of_undecided (hattempts : m.attempts = false) (haccepts : m.accepts = false) (hlists : m.lists = false)
    (hcounters : m.after.counters = if m.announces then m.before.counters.setOwn
      (UInt32.ofNat (Dump.shown holds m.dumps .own m.before.types.ad)) else m.before.counters)
    (hdraws : m.after.draws = m.before.draws) : m.Turns holds where
  own := by
    rw [hcounters]
    cases m.announces <;> rfl
  discovered := by
    rw [hlists, haccepts, hcounters]
    cases m.announces <;> exact (UInt32.add_zero _).symm
  lastTotal := by
    rw [hattempts, hcounters]
    cases m.announces <;> rfl
  draws := by rw [Moment.draws, decides, haccepts, hattempts, hdraws]; rfl
  accepts_of_lists := by simp [hlists]
  accepted := by simp [haccepts]
  changed := by simp [hattempts]
  unchanged := by simp [hattempts]

theorem of_idle (hattempts : m.attempts = false) (haccepts : m.accepts = false) (hannounces : m.announces = false)
    (hlists : m.lists = false) (hsame : SameTurns m.before m.after) : m.Turns holds := by
  refine .of_undecided hattempts haccepts hlists ?_ hsame.draws
  rw [hannounces]
  exact hsame.counters

theorem of_accept (hattempts : m.attempts = false) (haccepts : m.accepts = true) (hannounces : m.announces = false)
    (hlists : m.lists = m.before.myTurn.1)
    (hcounters : m.after.counters = PrefixCounters.addDiscovered (if m.lists then m.before.counters.setDiscovered
      (UInt32.ofNat (Dump.shown holds m.dumps .main m.before.types.ether)) else m.before.counters) 1)
    (hdraws : m.after.draws = m.before.myTurn.2.draws) : m.Turns holds where
  own := by
    rw [hannounces, hcounters]
    cases m.lists <;> rfl
  discovered := by
    rw [haccepts, hcounters]
    cases m.lists <;> rfl
  lastTotal := by
    rw [hattempts, hcounters]
    cases m.lists <;> rfl
  draws := by rw [Moment.draws, decides, haccepts, hdraws]; exact isMyTurn_draws
  accepts_of_lists := fun _ => haccepts
  accepted := fun _ => by rw [hlists]; exact isMyTurn_decides
  changed := by simp [hattempts]
  unchanged := by simp [hattempts]

theorem of_attempt (hattempts : m.attempts = true) (haccepts : m.accepts = false) (hlists : m.lists = false)
    (hannounces : m.announces = m.before.shouldAnnounce.1)
    (hcounters : m.after.counters = if m.announces then m.before.shouldAnnounce.2.counters.setOwn
      (UInt32.ofNat (Dump.shown holds m.dumps .own m.before.types.ad)) else m.before.shouldAnnounce.2.counters)
    (hdraws : m.after.draws = m.before.shouldAnnounce.2.draws) : m.Turns holds := by
  have hnoted : m.before.shouldAnnounce.2.counters = { m.before.counters with lastTotal := m.before.counters.total } :=
    shouldAnnounce_counters
  rw [hnoted] at hcounters
  constructor
  · rw [hcounters]
    cases m.announces <;> rfl
  · rw [hlists, haccepts, hcounters]
    cases m.announces <;> exact (UInt32.add_zero _).symm
  · rw [hattempts, hcounters]
    cases m.announces <;> rfl
  · rw [Moment.draws, decides, haccepts, hattempts, hdraws]
    exact shouldAnnounce_draws
  · simp [hlists]
  · simp [haccepts]
  · intro _ hchanged
    rw [hannounces, hdraws]
    exact shouldAnnounce_of_changed hchanged
  · intro _ hsame
    rw [hannounces]
    exact shouldAnnounce_decides hsame

end Turns

end Moment

/-! ## Steps -/

/-- The event and what becomes of the daemon. -/
def moment (d : Daemon σ) (e : Event) : Moment σ := ⟨d, e, (d.logged.react e).mapRoutes DumpLog.routes⟩

variable {holds : σ → List Route} {d : Daemon σ}

theorem moment_tries {e : Event} {said : List Utterance} (h : Tries d.logged said (d.logged.react e))
    (kind : Packet.Kind) : (d.moment e).tries kind = mentions said kind :=
  Moment.tries_eq h rfl rfl

/-- Nothing is said of prefixes and nothing is counted. -/
theorem turns_of_idle {e : Event} {said : List Utterance} (hattempts : (d.moment e).attempts = false)
    (haccepts : (d.moment e).accepts = false) (hsaid : Tries d.logged said (d.logged.react e))
    (hkinds : ∀ u ∈ said, Plain u)
    (hsame : SameTurns d.logged (d.logged.react e)) : (d.moment e).Turns holds :=
  .of_idle hattempts haccepts
    ((moment_tries hsaid _).trans (mentions_eq_false_of_forall fun u hu => (hkinds u hu).1))
    ((moment_tries hsaid _).trans (mentions_eq_false_of_forall fun u hu => (hkinds u hu).2))
    ⟨hsame.counters, hsame.draws⟩

/-- What is said ends with announces, and no list is sent. -/
theorem moment_announces {e : Event} {first : List Utterance} {d₁ : Daemon (DumpLog σ)} (hne : d₁.announces ≠ [])
    (hkinds : ∀ u ∈ first, u.2.kind ≠ .neighborList)
    (hsaid : Tries d.logged (first ++ d₁.announces.map (none, ·)) (d.logged.react e)) :
    (d.moment e).announces = true ∧ (d.moment e).lists = false := by
  constructor
  · have hmap : d₁.announces.map ((none, ·) : Packet → Utterance) ≠ [] := fun h => hne (List.map_eq_nil_iff.1 h)
    refine (moment_tries hsaid _).trans ?_
    rw [mentions, List.any_append, ← mentions, ← mentions,
      mentions_eq_true_of_forall hmap fun u => kind_of_mem_announces, Bool.or_true]
  · refine (moment_tries hsaid _).trans (mentions_eq_false_of_forall fun u hu => ?_)
    rcases List.mem_append.1 hu with hu | hu
    · exact hkinds u hu
    · rw [kind_of_mem_announces hu]
      decide

/-- The prefixes of this host are announced, perhaps after something else has been said. -/
theorem turns_of_announce {e : Event} (first : List Utterance) {d₁ : Daemon (DumpLog σ)}
    (hattempts : (d.moment e).attempts = false) (haccepts : (d.moment e).accepts = false)
    (hbefore : SameTurns d.logged d₁) (hfresh : d₁.routes.dumps = []) (htypes : d₁.types = d.types)
    (hsaid : Tries d.logged (first ++ d₁.announces.map (none, ·)) (d.logged.react e))
    (hkinds : ∀ u ∈ first, u.2.kind ≠ .neighborList) (hafter : SameTurns d₁.announce.2 (d.logged.react e))
    (hdumps : (d.moment e).dumps = d₁.announce.2.routes.dumps) (h : ∀ x ∈ (d.moment e).dumps, x.Tells holds) :
    (d.moment e).Turns holds := by
  obtain ⟨hcounters, hdraws, hne⟩ := d₁.announce_told hfresh fun x hx => h x (hdumps ▸ hx)
  obtain ⟨hannounces, hlists⟩ := moment_announces hne hkinds hsaid
  refine .of_undecided hattempts haccepts hlists ?_ (hafter.draws.trans (hdraws.trans hbefore.draws))
  rw [hannounces, if_pos rfl, hdumps]
  refine hafter.counters.trans (hcounters.trans ?_)
  rw [hbefore.counters, htypes]
  rfl

/-- A turn is decided on, and the prefixes of this host are announced or not. -/
theorem turns_of_attempt {e : Event} (timers : Timers Alarm) (hattempts : (d.moment e).attempts = true)
    (haccepts : (d.moment e).accepts = false)
    (hreact : d.logged.react e = ({ d.logged with timers := timers } : Daemon (DumpLog σ)).tryAnnounce)
    (h : ∀ x ∈ (d.moment e).dumps, x.Tells holds) : (d.moment e).Turns holds := by
  generalize hd₁ : ({ d.logged with timers := timers } : Daemon (DumpLog σ)).shouldAnnounce.2 = d₁
  have hsaid : Tries d.logged [] d₁ := by
    rw [← hd₁]
    exact .of_eq rfl rfl
  have hshould : ({ d.logged with timers := timers } : Daemon (DumpLog σ)).shouldAnnounce.1 = d.shouldAnnounce.1 := rfl
  have hcounters : d₁.counters = d.shouldAnnounce.2.counters := by rw [← hd₁]; rfl
  have hdraws : d₁.draws = d.shouldAnnounce.2.draws := by rw [← hd₁]; rfl
  have htypes : d₁.types = d.types := by rw [← hd₁]; rfl
  have hfresh : d₁.routes.dumps = [] := by rw [← hd₁]; rfl
  rw [tryAnnounce_eq, hd₁, hshould] at hreact
  cases hs : d.shouldAnnounce.1 with
  | true =>
    rw [hs, if_pos rfl] at hreact
    have hdumps : (d.moment e).dumps = d₁.announce.2.routes.dumps := by rw [← hreact]; rfl
    obtain ⟨htold, hkept, hne⟩ := d₁.announce_told hfresh fun x hx => h x (hdumps ▸ hx)
    have hall := hsaid.trans (announce_tries d₁)
    rw [← hreact] at hall htold hkept
    obtain ⟨hannounces, hlists⟩ := moment_announces hne (List.forall_mem_nil _) hall
    refine .of_attempt hattempts haccepts hlists (hannounces.trans hs.symm) ?_ (hkept.trans hdraws)
    rw [hannounces, if_pos rfl]
    refine htold.trans ?_
    rw [hcounters, htypes]
    rfl
  | false =>
    rw [hs, if_neg Bool.false_ne_true] at hreact
    rw [← hreact] at hsaid hcounters hdraws
    have hannounces : (d.moment e).announces = false := moment_tries hsaid _
    refine .of_attempt hattempts haccepts (moment_tries hsaid _) (hannounces.trans hs.symm) ?_ hdraws
    rw [hannounces]
    exact hcounters

/-- An announce is accepted, and perhaps answered with a list. -/
theorem turns_of_accept {sender : HwAddr} {bytes : List UInt8} {a : Announce}
    (hp : Packet.decode bytes = .ok (.announce a)) (hr : a.rejection? d.link sender = none)
    (h : ∀ x ∈ (d.moment (.frame sender bytes)).dumps, x.Tells holds) :
    (d.moment (.frame sender bytes)).Turns holds := by
  have hsaid : Tries d.logged _ (d.logged.react (.frame sender bytes)) := handleFrame_tries d.logged sender bytes
  have hreact : d.logged.react (.frame sender bytes) = (d.logged.counted (.announce a)).acceptAnnounce sender a :=
    congrArg Prod.snd (handleFrame_of_accepted d.logged hp hr)
  have hlearn := learn_sameTurns (d.logged.counted (.announce a)) sender a
  have htypes := (learn_sameHost (d.logged.counted (.announce a)) sender a).types
  have hfresh := dumps_learn (d.logged.counted (.announce a)) sender a
  have hreplies : (d.logged.counted (.announce a)).replies sender (.announce a) =
      ((d.logged.counted (.announce a)).learn sender a).turnListing sender := if_pos hr
  rw [answers_of_decoded _ _ hp, hreplies] at hsaid
  rw [acceptAnnounce_eq] at hreact
  generalize (d.logged.counted (.announce a)).learn sender a = d₁ at hreact hlearn htypes hfresh hsaid
  have hdumps : (d.moment (.frame sender bytes)).dumps = (d₁.replyTo sender).routes.dumps := by
    show (d.logged.react (.frame sender bytes)).routes.dumps = _
    rw [hreact]
  obtain ⟨htold, hdrawn, hlisted⟩ := d₁.replyTo_told sender hfresh fun x hx => h x (hdumps ▸ hx)
  have hturn : isMyTurn d₁.counters.own d₁.counters.discovered d₁.draws =
      isMyTurn d.counters.own d.counters.discovered d.draws := by
    rw [hlearn.counters, hlearn.draws]
    rfl
  have hlists : (d.moment (.frame sender bytes)).lists = d.myTurn.1 :=
    (moment_tries hsaid _).trans (hlisted.trans (congrArg Prod.fst hturn))
  refine .of_accept rfl ?_ ?_ hlists ?_ ?_
  · simp only [Moment.accepts, moment, hp, handleFrame_of_accepted d hp hr]
    rfl
  · refine (moment_tries hsaid _).trans (mentions_eq_false_of_forall fun u hu => ?_)
    rw [kind_of_mem_turnListing hu]
    decide
  · have hmine : d₁.myTurn.1 = d.myTurn.1 := congrArg Prod.fst hturn
    rw [hlists, hdumps]
    show (d.logged.react (.frame sender bytes)).counters = _
    rw [hreact]
    refine (congrArg (PrefixCounters.addDiscovered · 1) htold).trans ?_
    rw [hmine, hlearn.counters, htypes]
    rfl
  · show (d.logged.react (.frame sender bytes)).draws = _
    rw [hreact]
    exact hdrawn.trans (congrArg Prod.snd hturn)

/-- A packet moves a host to say nothing of prefixes. -/
theorem turns_of_packet {sender : HwAddr} {bytes : List UInt8} {p : Packet} (hp : Packet.decode bytes = .ok p)
    (haccepts : (d.moment (.frame sender bytes)).accepts = false)
    (hsame : SameTurns (d.logged.counted p) ((d.logged.counted p).process sender p).2)
    (hkinds : ∀ u ∈ (d.logged.counted p).replies sender p, Plain u) :
    (d.moment (.frame sender bytes)).Turns holds := by
  have hsaid := handleFrame_tries d.logged sender bytes
  rw [answers_of_decoded _ _ hp] at hsaid
  refine turns_of_idle rfl haccepts hsaid hkinds ?_
  have hreact : d.logged.react (.frame sender bytes) =
      (((d.logged.counted p).process sender p).2.judge ((d.logged.counted p).process sender p).1).2 :=
    congrArg Prod.snd (handleFrame_of_decoded d.logged sender hp rfl)
  rw [hreact]
  have hcounted : SameTurns d.logged (d.logged.counted p) := ⟨rfl, rfl⟩
  exact hcounted.trans (hsame.trans (judge_sameTurns _ _))

theorem turns_of_rejection {sender : HwAddr} {bytes : List UInt8} {a : Announce} {cause : Rejection}
    (hp : Packet.decode bytes = .ok (.announce a)) (hr : a.rejection? d.link sender = some cause) :
    (d.moment (.frame sender bytes)).Turns holds := by
  refine turns_of_packet hp ?_ ?_ ?_
  · have hrefused : (d.handleFrame sender bytes).1 = .error (.rejected cause) :=
      congrArg Prod.fst (handleFrame_of_decoded d sender hp (process_of_rejected (d.counted (.announce a)) hr))
    simp only [Moment.accepts, moment, hp, hrefused]
    rfl
  · rw [process_of_rejected (d.logged.counted (.announce a)) hr]
    exact .refl _
  · have hsilent : (d.logged.counted (.announce a)).replies sender (.announce a) = [] :=
      if_neg (show ¬a.rejection? d.link sender = none by rw [hr]; exact Option.some_ne_none cause)
    rw [hsilent]
    exact List.forall_mem_nil _

theorem turns_of_investigation {sender : HwAddr} {bytes : List UInt8} {p : Investigation}
    (hp : Packet.decode bytes = .ok (.investigation p))
    (h : ∀ x ∈ (d.moment (.frame sender bytes)).dumps, x.Tells holds) :
    (d.moment (.frame sender bytes)).Turns holds := by
  have haccepts : (d.moment (.frame sender bytes)).accepts = false := by simp only [Moment.accepts, moment, hp]
  rcases (d.logged.counted (.investigation p)).processInvestigation_cases sender p with
    ⟨ha, hreplies⟩ | ⟨hsends, hkinds⟩
  · have hsends := sendAck_sends (d.logged.counted (.investigation p)) p.src
    have hsaid : Tries d.logged _ (d.logged.react (.frame sender bytes)) := handleFrame_tries d.logged sender bytes
    have hreact : d.logged.react (.frame sender bytes) =
        ((d.logged.counted (.investigation p)).sendAck p.src).announce.2 :=
      congrArg Prod.snd (handleFrame_of_decoded d.logged sender hp ha)
    rw [answers_of_decoded _ _ hp, hreplies, ← announces_congr hsends.aside.sameHost hsends.routes] at hsaid
    refine turns_of_announce [_] rfl haccepts (.trans ?_ hsends.sameTurns)
      (congrArg DumpLog.dumps hsends.routes) hsends.aside.types hsaid ?_ ?_ ?_ h
    · exact ⟨rfl, rfl⟩
    · exact List.forall_mem_singleton.2 (plain_monitor _ _).2
    · rw [hreact]
      exact .refl _
    · exact congrArg (fun d => d.routes.dumps) hreact
  · exact turns_of_packet hp haccepts hsends.sameTurns hkinds

theorem frame_turns {sender : HwAddr} {bytes : List UInt8}
    (h : ∀ x ∈ (d.moment (.frame sender bytes)).dumps, x.Tells holds) :
    (d.moment (.frame sender bytes)).Turns holds := by
  cases hp : Packet.decode bytes with
  | error e =>
    have hsaid := handleFrame_tries d.logged sender bytes
    have hsilent : d.logged.answers sender bytes = [] := by simp only [answers, hp]
    rw [hsilent] at hsaid
    refine turns_of_idle rfl (by simp only [Moment.accepts, moment, hp]) hsaid (List.forall_mem_nil _) ?_
    show SameTurns d.logged (d.logged.handleFrame sender bytes).2
    simp only [handleFrame, hp]
    exact judge_sameTurns _ _
  | ok p =>
    cases p with
    | announce a =>
      cases hr : a.rejection? d.link sender with
      | none => exact turns_of_accept hp hr h
      | some cause => exact turns_of_rejection hp hr
    | neighborList l =>
      refine turns_of_packet hp (by simp only [Moment.accepts, moment, hp]) ?_ (List.forall_mem_nil _)
      simp only [process, processNeighborList]
      split
      · exact .refl _
      · exact acceptRecords_sameTurns l.neighbors _
    | monitor p =>
      refine turns_of_packet hp (by simp only [Moment.accepts, moment, hp]) (processMonitor_tends _ sender p).sameTurns
        fun u hu => ?_
      cases Reply.of_mem hu
      exact plain_monitor _ _
    | investigation p => exact turns_of_investigation hp h

/-- A ping tick, a missing ack, or anything else that has to do with probes only. -/
theorem turns_of_probe {e : Event} (timers : Timers Alarm) {said : List Utterance} {d₁ : Daemon (DumpLog σ)}
    (hattempts : (d.moment e).attempts = false) (haccepts : (d.moment e).accepts = false)
    (hreact : d.logged.react e = d₁) (hsaid : Tries { d.logged with timers := timers } said d₁)
    (hkinds : ∀ u ∈ said, Plain u) (hsame : SameTurns { d.logged with timers := timers } d₁) :
    (d.moment e).Turns holds := by
  subst hreact
  exact turns_of_idle hattempts haccepts hsaid hkinds ⟨hsame.counters, hsame.draws⟩

theorem plain_of_mem_requests {τ : Type} {d : Daemon τ} {suspect : HwAddr} {relays : List Neighbor} {u : Utterance}
    (hu : u ∈ d.requests suspect relays) : Plain u := by
  obtain ⟨relay, -, rfl⟩ := List.mem_map.1 hu
  exact plain_investigation _ _

theorem pingTick_turns {e : Event} (timers : Timers Alarm) (hattempts : (d.moment e).attempts = false)
    (haccepts : (d.moment e).accepts = false)
    (hreact : d.logged.react e = ({ d.logged with timers := timers } : Daemon (DumpLog σ)).pingTick.2) :
    (d.moment e).Turns holds := by
  refine turns_of_probe _ hattempts haccepts hreact (pingTick_tries _) (fun u hu => ?_) (pingTick_tends _).sameTurns
  obtain ⟨n, -, rfl⟩ := List.mem_map.1 hu
  exact plain_monitor _ _

theorem expiry_turns {t : Timer Alarm} (h : ∀ x ∈ (d.moment (.expiry t)).dumps, x.Tells holds) :
    (d.moment (.expiry t)).Turns holds := by
  have hattempts : (d.moment (.expiry t)).attempts = decide (t.task = .announce) := rfl
  have hreact : d.logged.react (.expiry t) =
      ({ d.logged with timers := d.timers.fire t } : Daemon (DumpLog σ)).expire t := rfl
  cases htask : t.task with
  | announce => exact turns_of_attempt _ (hattempts.trans (decide_eq_true htask)) rfl (expire_announce htask) h
  | ping => exact pingTick_turns _ (hattempts.trans (by rw [htask]; rfl)) rfl (expire_ping htask)
  | ackDue ref =>
    rw [expire, htask] at hreact
    obtain ⟨suspect, relays, hsaid⟩ :=
      onAckTimeout_tries ({ d.logged with timers := d.timers.fire t } : Daemon (DumpLog σ)) ref t.id
    exact turns_of_probe _ (hattempts.trans (by rw [htask]; rfl)) rfl hreact hsaid (fun u => plain_of_mem_requests)
      (onAckTimeout_tends _ ref t.id).sameTurns
  | investigationDue ref =>
    rw [expire, htask] at hreact
    exact turns_of_probe _ (hattempts.trans (by rw [htask]; rfl)) rfl hreact
      (onInvestigationTimeout_tries _ ref t.id) (List.forall_mem_nil _) (onInvestigationTimeout_sameTurns _ ref t.id)
  | foreign =>
    rw [expire, htask] at hreact
    exact turns_of_probe _ (hattempts.trans (by rw [htask]; rfl)) rfl hreact (.refl _) (List.forall_mem_nil _) (.refl _)

theorem announce_turns {e : Event} {timers : Timers Alarm} {periodic : List TimerId}
    (hattempts : (d.moment e).attempts = false) (haccepts : (d.moment e).accepts = false)
    (hreact : d.logged.react e = { d.logged.announce.2 with timers := timers, periodic := periodic })
    (h : ∀ x ∈ (d.moment e).dumps, x.Tells holds) : (d.moment e).Turns holds := by
  have hsaid : Tries d.logged ([] ++ d.logged.announces.map (none, ·)) (d.logged.react e) :=
    hreact ▸ announce_tries d.logged
  have hafter : SameTurns d.logged.announce.2 (d.logged.react e) := by
    rw [hreact]
    exact ⟨rfl, rfl⟩
  exact turns_of_announce [] hattempts haccepts (.refl _) rfl rfl hsaid (List.forall_mem_nil _) hafter
    (congrArg (fun d => d.routes.dumps) hreact) h

/-- What every step does to the counters and the draws, and what it decides. -/
theorem Step.turns {d' : Daemon σ} {e : Event} (hs : Step d e d')
    (h : ∀ x ∈ (⟨d, e, d'⟩ : Moment σ).dumps, x.Tells holds) : Moment.Turns holds ⟨d, e, d'⟩ := by
  obtain rfl : (d.logged.react e).mapRoutes DumpLog.routes = d' := (react_logged d e).trans hs.eq_react.symm
  show (d.moment e).Turns holds
  cases e with
  | frame sender bytes => exact frame_turns h
  | pingTick => exact pingTick_turns d.timers rfl rfl rfl
  | announce => exact announce_turns rfl rfl rfl h
  | tryAnnounce => exact turns_of_attempt d.timers rfl rfl rfl h
  | start => exact announce_turns rfl rfl rfl h
  | shutdown =>
    exact turns_of_probe d.timers rfl rfl rfl (shutdown_tries d.logged) (List.forall_mem_nil _)
      (shutdown_sameTurns d.logged)
  | expiry t => exact expiry_turns h
  | pass limit =>
    exact turns_of_probe d.timers rfl rfl rfl (.of_eq rfl rfl) (List.forall_mem_nil _) ⟨rfl, rfl⟩
  | surroundings sink clock =>
    have hsilent : ∀ kind, (d.moment (.surroundings sink clock)).tries kind = false := fun kind => by
      show (d.transmissions.take (d.transmissions.length - d.transmissions.length)).any _ = false
      rw [Nat.sub_self, List.take_zero]
      rfl
    exact .of_idle rfl rfl (hsilent _) (hsilent _) ⟨rfl, rfl⟩

end

end Daemon

end Neighborhood
