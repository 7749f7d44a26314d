import Neighborhood.Daemon.Run

/-!
# What sending and asking for routes may change

* `Daemon.Sends` — an act that has tried to send packets, and no more: the sink, the record of attempts and their counts
* `Daemon.Outward` — an act that has also made requests to the route table and taken turns: beyond the sink, the route
  table, the prefix counters and the draws are changed at most

Every function of a daemon that does no more has a lemma here.
-/

namespace Neighborhood

namespace Daemon

variable {σ : Type}

/-- Packets have been tried to be sent, and no more. -/
def Sends (d d' : Daemon σ) : Prop :=
  ∃ sink transmissions sent sendErrors, d' = { d with
    sink := sink
    transmissions := transmissions
    metrics := { d.metrics with sent := sent, sendErrors := sendErrors } }

/-- Packets have been tried to be sent, requests been made to the route table and turns been taken, and no more. -/
def Outward (d d' : Daemon σ) : Prop :=
  ∃ routes sink transmissions counters draws sent sendErrors routeErrors routeLatency, d' = { d with
    routes := routes
    sink := sink
    transmissions := transmissions
    counters := counters
    draws := draws
    metrics := { d.metrics with
      sent := sent
      sendErrors := sendErrors
      routeErrors := routeErrors
      routeLatency := routeLatency } }

namespace Sends

theorem refl (d : Daemon σ) : Sends d d := ⟨_, _, _, _, rfl⟩

theorem trans {d₁ d₂ d₃ : Daemon σ} (h₁ : Sends d₁ d₂) (h₂ : Sends d₂ d₃) : Sends d₁ d₃ := by
  obtain ⟨_, _, _, _, rfl⟩ := h₁
  obtain ⟨_, _, _, _, rfl⟩ := h₂
  exact ⟨_, _, _, _, rfl⟩

theorem outward {d d' : Daemon σ} (h : Sends d d') : Outward d d' := by
  obtain ⟨_, _, _, _, rfl⟩ := h
  exact ⟨_, _, _, _, _, _, _, _, _, rfl⟩

theorem routes {d d' : Daemon σ} (h : Sends d d') : d'.routes = d.routes := by
  obtain ⟨_, _, _, _, rfl⟩ := h
  rfl

end Sends

namespace Outward

theorem refl (d : Daemon σ) : Outward d d := (Sends.refl d).outward

theorem trans {d₁ d₂ d₃ : Daemon σ} (h₁ : Outward d₁ d₂) (h₂ : Outward d₂ d₃) : Outward d₁ d₃ := by
  obtain ⟨_, _, _, _, _, _, _, _, _, rfl⟩ := h₁
  obtain ⟨_, _, _, _, _, _, _, _, _, rfl⟩ := h₂
  exact ⟨_, _, _, _, _, _, _, _, _, rfl⟩

end Outward

/-! ## Sending -/

theorem noteTransmission_sends (d : Daemon σ) (dest : Option HwAddr) (packet : Packet)
    (outcome : Except Error (List UInt8)) : Sends d (d.noteTransmission dest packet outcome).2 := by
  unfold noteTransmission
  cases outcome <;> exact ⟨_, _, _, _, rfl⟩

theorem transmit_sends (d : Daemon σ) (dest : Option HwAddr) (packet : Packet) :
    Sends d (d.transmit dest packet).2 := by
  unfold transmit
  split
  · exact noteTransmission_sends d dest packet _
  · split
    all_goals
      refine .trans ?_ (noteTransmission_sends _ dest packet _)
      exact ⟨_, _, _, _, rfl⟩

theorem broadcastAll_sends : ∀ (ps : List Packet) (d : Daemon σ), Sends d (d.broadcastAll ps).2
  | [], d => .refl d
  | p :: ps, d => (transmit_sends d none p).trans (broadcastAll_sends ps _)

theorem askRelays_sends (suspect : HwAddr) : ∀ (relays : List Neighbor) (d : Daemon σ),
    Sends d (d.askRelays suspect relays)
  | [], d => .refl d
  | _ :: relays, d => (transmit_sends d _ _).trans (askRelays_sends suspect relays _)

theorem sendAck_sends (d : Daemon σ) (dest : HwAddr) : Sends d (d.sendAck dest) :=
  transmit_sends d _ _

theorem relayInvestigation_sends (d : Daemon σ) (p : Investigation) : Sends d (d.relayInvestigation p) := by
  unfold relayInvestigation
  split
  · exact .refl d
  · exact transmit_sends d _ _

/-! ## Turns -/

theorem myTurn_outward (d : Daemon σ) : Outward d d.myTurn.2 := ⟨_, _, _, _, _, _, _, _, _, rfl⟩

theorem shouldAnnounce_outward (d : Daemon σ) : Outward d d.shouldAnnounce.2 := ⟨_, _, _, _, _, _, _, _, _, rfl⟩

/-! ## Routes -/

theorem noteRequest_outward {α : Type} (d : Daemon σ) (routes : σ) (answer : Except Error α) :
    Outward d ({ d with routes := routes }.noteRequest answer) := by
  unfold noteRequest
  cases answer <;> exact ⟨_, _, _, _, _, _, _, _, _, rfl⟩

variable [RouteTable σ]

theorem installRoute_outward (d : Daemon σ) (dst : Xid) (gateway : Option Xid) :
    Outward d (d.installRoute dst gateway).2 :=
  noteRequest_outward d _ _

theorem withdrawRoute_outward (d : Daemon σ) (dst : Xid) : Outward d (d.withdrawRoute dst).2 :=
  noteRequest_outward d _ _

theorem dumpRoutes_outward (d : Daemon σ) (table : TableId) (filter : RouteFilter) :
    Outward d (d.dumpRoutes table filter).2 :=
  noteRequest_outward d _ _

theorem withdrawRoutes_outward : ∀ (dsts : List Xid) (d : Daemon σ), Outward d (d.withdrawRoutes dsts)
  | [], d => .refl d
  | dst :: dsts, d => (withdrawRoute_outward d dst).trans (withdrawRoutes_outward dsts _)

theorem installPrefixes_outward (gateway : Xid) : ∀ (ids : List Identifier) (d : Daemon σ),
    Outward d (d.installPrefixes gateway ids)
  | [], d => .refl d
  | _ :: ids, d => (installRoute_outward d _ _).trans (installPrefixes_outward gateway ids _)

theorem withdrawNeighbor_outward (d : Daemon σ) (identity : Xid) : Outward d (d.withdrawNeighbor identity) := by
  unfold withdrawNeighbor
  have hd := dumpRoutes_outward d .main
    { dstType := some d.types.ad, gwType := some d.types.ether, gw := some identity }
  dsimp only
  split
  · rename_i routes d' he
    rw [he] at hd
    exact (hd.trans (withdrawRoutes_outward _ d')).trans (withdrawRoute_outward _ identity)
  · rename_i d' he
    rw [he] at hd
    exact hd.trans (withdrawRoute_outward d' identity)

/-! ## Withdrawals beside the neighbor table -/

omit [RouteTable σ] in
theorem noteRequest_neighbors {α : Type} (d : Daemon σ) (t : NeighborTable) (answer : Except Error α) :
    { d with neighbors := t }.noteRequest answer = { d.noteRequest answer with neighbors := t } := by
  cases answer <;> rfl

theorem withdrawRoute_neighbors (d : Daemon σ) (t : NeighborTable) (dst : Xid) :
    ({ d with neighbors := t }.withdrawRoute dst).2 = { (d.withdrawRoute dst).2 with neighbors := t } :=
  noteRequest_neighbors { d with routes := (RouteTable.del d.routes dst).2 } t _

theorem withdrawRoutes_neighbors (t : NeighborTable) : ∀ (dsts : List Xid) (d : Daemon σ),
    { d with neighbors := t }.withdrawRoutes dsts = { d.withdrawRoutes dsts with neighbors := t }
  | [], _ => rfl
  | dst :: dsts, d => by
    rw [withdrawRoutes, withdrawRoutes, withdrawRoute_neighbors, withdrawRoutes_neighbors t dsts]

theorem dumpRoutes_neighbors (d : Daemon σ) (t : NeighborTable) (table : TableId) (filter : RouteFilter) :
    { d with neighbors := t }.dumpRoutes table filter =
      ((d.dumpRoutes table filter).1, { (d.dumpRoutes table filter).2 with neighbors := t }) :=
  congrArg (Prod.mk _) (noteRequest_neighbors { d with routes := (RouteTable.dump d.routes table filter).2 } t _)

/-- A withdrawal does not ask who is in the neighbor table. -/
theorem withdrawNeighbor_neighbors (d : Daemon σ) (t : NeighborTable) (identity : Xid) :
    { d with neighbors := t }.withdrawNeighbor identity = { d.withdrawNeighbor identity with neighbors := t } := by
  unfold withdrawNeighbor
  simp only [dumpRoutes_neighbors]
  rcases d.dumpRoutes .main { dstType := some d.types.ad, gwType := some d.types.ether, gw := some identity } with
    ⟨_ | routes, d'⟩
  · exact withdrawRoute_neighbors d' t identity
  · dsimp only
    rw [withdrawRoutes_neighbors t, withdrawRoute_neighbors]

/-- The entry leaves the table, and the routes through its host are withdrawn. -/
def dismiss (d : Daemon σ) (n : Neighbor) : Daemon σ :=
  let d := { d with neighbors := d.neighbors.depart n }.withdrawNeighbor n.identity
  { d with metrics := d.metrics.recordEvicted }.reportNeighbors

/-- The deadline of an answer dismisses the entry that it bounds, if there still is one. -/
theorem onInvestigationTimeout_eq (d : Daemon σ) (ref : NeighborRef) (timer : TimerId) :
    d.onInvestigationTimeout ref timer =
      match d.neighbors.expired? ref timer with
      | some n => d.dismiss n
      | none => d := by
  unfold onInvestigationTimeout NeighborTable.evict
  cases d.neighbors.expired? ref timer with
  | none => rfl
  | some n =>
    simp only [dismiss, withdrawNeighbor_neighbors]
    rfl

theorem onInvestigationTimeout_of_expired {d : Daemon σ} {ref : NeighborRef} {timer : TimerId} {n : Neighbor}
    (h : d.neighbors.expired? ref timer = some n) : d.onInvestigationTimeout ref timer = d.dismiss n := by
  rw [onInvestigationTimeout_eq, h]

/-! ## Announces, lists and answers -/

theorem announce_outward (d : Daemon σ) : Outward d d.announce.2 := by
  unfold announce
  have hd := dumpRoutes_outward d .own (.destinations d.types.ad)
  split
  · rename_i d' he
    rw [he] at hd
    exact hd
  · rename_i own d' he
    rw [he] at hd
    have hc : Outward d { d' with counters := d'.counters.setOwn (UInt32.ofNat own.length) } :=
      hd.trans ⟨_, _, _, _, _, _, _, _, _, rfl⟩
    dsimp only
    split
    · exact hc.trans (transmit_sends _ _ _).outward
    · exact hc.trans (broadcastAll_sends _ _).outward

theorem tryAnnounce_outward (d : Daemon σ) : Outward d d.tryAnnounce := by
  unfold tryAnnounce
  have hs := shouldAnnounce_outward d
  split
  · rename_i d' he
    rw [he] at hs
    exact hs.trans (announce_outward d')
  · rename_i d' he
    rw [he] at hs
    exact hs

theorem sendNeighborList_outward (d : Daemon σ) (dest : HwAddr) : Outward d (d.sendNeighborList dest).2 := by
  unfold sendNeighborList
  have h₁ := dumpRoutes_outward d .main (.destinations d.types.ether)
  split
  · rename_i d₁ he
    rw [he] at h₁
    exact h₁
  · rename_i onLink d₁ he
    rw [he] at h₁
    have h₂ : Outward d { d₁ with counters := d₁.counters.setDiscovered (UInt32.ofNat onLink.length) } :=
      h₁.trans ⟨_, _, _, _, _, _, _, _, _, rfl⟩
    have h₃ := h₂.trans (dumpRoutes_outward _ .main { dstType := some d₁.types.ad, gwType := some d₁.types.ether })
    dsimp only
    split
    · rename_i d₂ he₂
      rw [he₂] at h₃
      exact h₃
    · rename_i prefixes d₂ he₂
      rw [he₂] at h₃
      exact h₃.trans (transmit_sends d₂ _ _).outward

/-- What an announce teaches: its sender has an entry, a route of its own and the routes to its prefix. -/
def learn (d : Daemon σ) (sender : HwAddr) (a : Announce) : Daemon σ :=
  ((d.installRoute (d.etherXid sender) none).2.register sender (d.etherXid sender)).installPrefixes
    (d.etherXid sender) a.xids

/-- The host of an announce is sent a list if it is this host's turn. -/
def replyTo (d : Daemon σ) (sender : HwAddr) : Daemon σ :=
  match d.myTurn with
  | (true, d) => (d.sendNeighborList sender).2
  | (false, d) => d

theorem acceptAnnounce_eq (d : Daemon σ) (sender : HwAddr) (a : Announce) : d.acceptAnnounce sender a =
    { (d.learn sender a).replyTo sender with
      counters := ((d.learn sender a).replyTo sender).counters.addDiscovered 1 } :=
  rfl

theorem replyTo_outward (d : Daemon σ) (sender : HwAddr) : Outward d (d.replyTo sender) := by
  have ht := myTurn_outward d
  unfold replyTo
  split
  all_goals
    rename_i d' he
    rw [he] at ht
  · exact ht.trans (sendNeighborList_outward d' sender)
  · exact ht

theorem answerInvestigation_outward (d : Daemon σ) (investigator : HwAddr) :
    Outward d (d.answerInvestigation investigator) :=
  (sendAck_sends d investigator).outward.trans (announce_outward _)

theorem processInvestigation_outward (d : Daemon σ) (sender : HwAddr) (p : Investigation) :
    Outward d (d.processInvestigation sender p).2 := by
  unfold processInvestigation
  split
  · exact .refl d
  · split
    · exact .refl d
    · split
      · exact answerInvestigation_outward d p.src
      · split
        · exact (relayInvestigation_sends d p).outward
        · exact .refl d

end Daemon

end Neighborhood
