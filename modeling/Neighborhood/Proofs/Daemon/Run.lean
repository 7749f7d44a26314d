import Neighborhood.Daemon.Run
import Neighborhood.Route.Memory

/-!
# Runs of a daemon

* `Event`, `Daemon.Step` — what can happen to a daemon, and what it is afterwards
* `Daemon.Run` — the moments of a run from its first state, in order
* `Daemon.IsFresh` — the states in which runs begin
* `Daemon.news` — what an event tells a daemon about other hosts

Timers fire one at a time, each when it is due: no time passes beyond a timer that is still set. A letting pass of time
that fires several timers is a run of several moments (`Run.advance`, in `Advance`).
-/

namespace Neighborhood

/-- What can happen to a daemon that has finished with all before. -/
inductive Event where
  | frame (sender : HwAddr) (bytes : List UInt8)
  | pingTick
  | announce
  | tryAnnounce
  | start
  | shutdown
  /-- The timer that is due first fires. -/
  | expiry (t : Timer Alarm)
  /-- Time passes, but not beyond a timer that is set. -/
  | pass (limit : Nat)
  /-- The sink begins or ceases to refuse frames, and the clock on the wall moves. -/
  | surroundings (sink : Sink) (clock : Int32)

namespace Daemon

variable {σ : Type}

/-! ## Steps and runs -/

section
variable [RouteTable σ]

inductive Step : Daemon σ → Event → Daemon σ → Prop
  | frame (d : Daemon σ) (sender : HwAddr) (bytes : List UInt8) :
      Step d (.frame sender bytes) (d.handleFrame sender bytes).2
  | pingTick (d : Daemon σ) : Step d .pingTick d.pingTick.2
  | announce (d : Daemon σ) : Step d .announce d.announce.2
  | tryAnnounce (d : Daemon σ) : Step d .tryAnnounce d.tryAnnounce
  | start (d : Daemon σ) : Step d .start d.start
  | shutdown (d : Daemon σ) : Step d .shutdown d.shutdown
  | expiry {d : Daemon σ} {t : Timer Alarm} : d.timers.soonest? = some t →
      Step d (.expiry t) ({ d with timers := d.timers.fire t }.expire t)
  | pass {d : Daemon σ} {limit : Nat} : (∀ t ∈ d.timers.pending, limit ≤ t.due) →
      Step d (.pass limit) { d with timers := d.timers.passTo limit }
  | surroundings (d : Daemon σ) (sink : Sink) (clock : Int32) :
      Step d (.surroundings sink clock) { d with sink := sink, clock := clock }

end

/-- An event of a run, with the daemon before and after it. -/
structure Moment (σ : Type) where
  before : Daemon σ
  event : Event
  after : Daemon σ

/-- The time that the clock of the timers shows after the event. -/
def Moment.time (m : Moment σ) : Nat := m.after.timers.now

/-- `Run d₀ l d`: the moments `l` lead from `d₀` to `d`. -/
inductive Run [RouteTable σ] (d₀ : Daemon σ) : List (Moment σ) → Daemon σ → Prop
  | nil : Run d₀ [] d₀
  | snoc {l : List (Moment σ)} {d d' : Daemon σ} {e : Event} :
      Run d₀ l d → Step d e d' → Run d₀ (l ++ [⟨d, e, d'⟩]) d'

/-- Nothing has happened to the daemon so far. -/
structure IsFresh (d : Daemon σ) : Prop where
  neighbors : d.neighbors = {}
  counters : d.counters = {}
  pending : d.timers.pending = []
  periodic : d.periodic = []
  transmissions : d.transmissions = []
  metrics : d.metrics = {}

/-- A host that has heard of no other, with the configuration of an empty file but for the time it waits for an ack. -/
def lone (ackTimeout : Nat) : Daemon MemoryRoutes where
  config := { ackTimeout := ackTimeout }
  link := { ifindex := 1, hwaddr := .ethernet 2 0 0 0 0 1 }
  types := { ad := ⟨16⟩, ether := ⟨18⟩ }
  routes := {}
  draws := { value := fun _ => 0 }
  lots := { value := fun _ => 0 }
  clock := 0

theorem lone_isFresh (ackTimeout : Nat) : (lone ackTimeout).IsFresh :=
  ⟨rfl, rfl, rfl, rfl, rfl, rfl⟩

/-- The address of another host. -/
def peer : HwAddr := .ethernet 2 0 0 0 0 2

/-- The address of a third host. -/
def third : HwAddr := .ethernet 2 0 0 0 0 3

/-- The lone host has heard an announce of the other and has pinged it. -/
def pinged (ackTimeout : Nat) : Daemon MemoryRoutes :=
  ((lone ackTimeout).handleFrame peer [1, 1, 0, 6, 2, 0, 0, 0, 0, 2]).2.pingTick.2

theorem run_pinged (ackTimeout : Nat) : ∃ l, Run (lone ackTimeout) l (pinged ackTimeout) :=
  ⟨_, (Run.nil.snoc (.frame _ _ _)).snoc (.pingTick _)⟩

/-- Every moment of a run ends the run before it. -/
theorem Run.split [RouteTable σ] {d₀ d : Daemon σ} {l l' : List (Moment σ)} {m : Moment σ}
    (h : Run d₀ (l ++ m :: l') d) : Run d₀ l m.before ∧ Step m.before m.event m.after := by
  generalize hl : l ++ m :: l' = all at h
  induction h generalizing l' with
  | nil => simp at hl
  | @snoc l₁ d₁ d₂ e hr hs ih =>
    rcases List.eq_nil_or_concat l' with rfl | ⟨l'', x, rfl⟩
    · obtain ⟨rfl, hm⟩ := List.append_inj' hl rfl
      cases hm
      exact ⟨hr, hs⟩
    · rw [List.concat_eq_append, ← List.cons_append, ← List.append_assoc] at hl
      exact ih (List.append_inj' hl rfl).1

end Daemon

/-! ## News of other hosts -/

/-- What an event tells a daemon about other hosts. -/
inductive News where
  | nothing
  /-- These hosts are on the link. -/
  | hosts (l : List HwAddr)
  | ping (sender : HwAddr) (clock : Int32)
  | ack (sender : HwAddr) (clock : Int32)
  /-- A ping to the host has left, and the timer bounds the waiting for its ack. -/
  | probe (host : HwAddr) (timer : TimerId)
  /-- A deadline has passed; the timer `next` bounds a waiting that may follow. -/
  | expiry (timer next : TimerId)
  | shutdown
deriving DecidableEq

/-- The host that a record makes known: its only one, unless it is this host. -/
def NeighborRecord.hosts (link : LocalLink) (r : NeighborRecord) : List HwAddr :=
  match r.hwaddrs with
  | [a] => if a = link.hwaddr then [] else [a]
  | _ => []

namespace News

/-- What a packet from `sender` tells, if the rules let it through. -/
def ofPacket (link : LocalLink) (sender : HwAddr) : Packet → News
  | .announce a => if a.rejection? link sender = none then .hosts [sender] else .nothing
  | .neighborList l =>
    if l.haddrLen.toNat = link.hwaddr.length then .hosts (l.neighbors.flatMap (·.hosts link)) else .nothing
  | .monitor p =>
    if p.src.length = sender.length ∧ link.accepts p.dest then
      match p.role with
      | .ping => .ping sender p.clock
      | .ack => .ack sender p.clock
    else .nothing
  | .investigation _ => .nothing

def ofFrame (link : LocalLink) (sender : HwAddr) (bytes : List UInt8) : News :=
  match Packet.decode bytes with
  | .ok packet => ofPacket link sender packet
  | .error _ => .nothing

end News

namespace Daemon

variable {σ : Type} (d : Daemon σ)

/-- The ping that a probe of the host sends. -/
def pingTo (host : HwAddr) : Packet :=
  .monitor { role := .ping, clock := d.clock, src := d.link.hwaddr, dest := host }

/-- The packet has a frame, and the sink takes it. -/
def takes (packet : Packet) : Bool :=
  packet.encode.isOk && !d.sink.refuses

/-- A ping tick tells nothing unless it picks a host and the ping to it leaves. -/
def tickNews : News :=
  match (d.neighbors.pick? d.lots).1 with
  | some n => if d.takes (d.pingTo n.hwaddr) then .probe n.hwaddr ⟨d.timers.fresh⟩ else .nothing
  | none => .nothing

def news : Event → News
  | .frame sender bytes => .ofFrame d.link sender bytes
  | .pingTick => d.tickNews
  | .expiry t =>
    match t.task with
    | .ping => d.tickNews
    | .ackDue _ | .investigationDue _ => .expiry t.id ⟨d.timers.fresh⟩
    | .announce | .foreign => .nothing
  | .shutdown => .shutdown
  | .announce | .tryAnnounce | .start | .pass _ | .surroundings _ _ => .nothing

def Moment.news (m : Moment σ) : News := m.before.news m.event

end Daemon

end Neighborhood
