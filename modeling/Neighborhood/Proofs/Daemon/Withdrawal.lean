import Neighborhood.Route.Journal
import Neighborhood.Proofs.Daemon.Eviction
import Neighborhood.Proofs.Daemon.MapRoutes
import Neighborhood.Proofs.Daemon.Routed

/-!
# What is withdrawn with a neighbor

* `Daemon.Run.identity_eq` — in every run neighbors are known by the identities of their addresses
* `Daemon.withdrawals` — what an eviction asks a route table to withdraw, last of all the route to the neighbor
* `Daemon.withdrawNeighbor_table`, `Daemon.requests_withdrawNeighbor` — all of this is asked for, whatever is refused
* `Daemon.Run.withdraws` — in a table that grants every request this removes what depends on the neighbor and no more
-/

namespace Neighborhood.Daemon

variable {σ : Type} {d d' : Daemon σ} {n : Neighbor} {timer : TimerId}

/-! ## Identities of neighbors -/

theorem directory_heed {news : News} {p : HwAddr × Xid} (hp : p ∈ (d.heed news).neighbors.directory) :
    p ∈ d.neighbors.directory ∨ p.2 = d.etherXid p.1 := by
  cases news with
  | hosts l => exact NeighborTable.mem_directory_introduce l hp
  | ping sender clock => exact .inl ((notePing_tends d sender clock).still.directory ▸ hp)
  | ack sender clock => exact .inl ((noteAck_tends d sender clock).still.directory ▸ hp)
  | nothing | probe | expiry | shutdown => exact .inl hp

section
variable [RouteTable σ]

theorem directory_expire {t : Timer Alarm} {p : HwAddr × Xid} (hp : p ∈ (d.expire t).neighbors.directory) :
    p ∈ d.neighbors.directory := by
  unfold expire at hp
  split at hp
  · rwa [(tryAnnounce_outward d).aside.neighbors] at hp
  · rwa [(pingTick_tends d).still.directory] at hp
  · rwa [(onAckTimeout_tends d _ t.id).still.directory] at hp
  · rw [onInvestigationTimeout_eq] at hp
    split at hp
    · rw [(dismiss_aside d _).neighbors] at hp
      obtain ⟨n, hn, rfl⟩ := List.mem_map.1 hp
      exact List.mem_map_of_mem (NeighborTable.mem_entries_depart.1 hn).1
    · exact hp
  · exact hp

/-- Whoever comes into the table is given the identity of the address. -/
theorem Step.directory {e : Event} {p : HwAddr × Xid} (hs : Step d e d') (hp : p ∈ d'.neighbors.directory) :
    p ∈ d.neighbors.directory ∨ p.2 = d.etherXid p.1 := by
  cases hs with
  | frame sender bytes =>
    rw [(handleFrame_aside d sender bytes).neighbors] at hp
    exact directory_heed hp
  | pingTick => exact .inl ((pingTick_tends d).still.directory ▸ hp)
  | announce => exact .inl ((announce_outward d).aside.neighbors ▸ hp)
  | tryAnnounce => exact .inl ((tryAnnounce_outward d).aside.neighbors ▸ hp)
  | start => exact .inl ((announce_outward d).aside.neighbors ▸ hp)
  | shutdown => exact .inl ((shutdown_still d).directory ▸ hp)
  | @expiry t _ => exact .inl (directory_expire (d := { d with timers := d.timers.fire t }) hp)
  | pass _ => exact .inl hp
  | surroundings _ _ => exact .inl hp

/-- Neighbors are known by the identities of their addresses. -/
theorem Run.identity_eq {d₀ : Daemon σ} (h₀ : d₀.IsFresh) {l : List (Moment σ)} (h : Run d₀ l d) :
    ∀ n ∈ d.neighbors.entries, n.identity = d.etherXid n.hwaddr := by
  suffices hall : ∀ p ∈ d.neighbors.directory, p.2 = d.etherXid p.1 from fun n hn => hall _ (List.mem_map_of_mem hn)
  induction h with
  | nil => simp [h₀.neighbors, NeighborTable.directory]
  | snoc _ hs ih =>
    intro p hp
    rw [hs.sameHost.etherXid]
    exact (hs.directory hp).elim (ih p) id

end

/-! ## Withdrawals -/

/-- The routes to prefixes through an identity. -/
def behind (types : PrincipalTypes) (x : Xid) : RouteFilter :=
  { dstType := some types.ad, gwType := some types.ether, gw := some x }

/-- The destinations that are withdrawn with an identity: those of the routes that a dump has shown, in order, and the
identity. -/
def withdrawals (answer : Except Error (List Route)) (x : Xid) : List Xid :=
  (answer.toOption.getD []).map (·.dst) ++ [x]

section
variable [RouteTable σ]

/-- The table once it was asked to withdraw these routes, each whatever it answered before. -/
def delAll (s : σ) (dsts : List Xid) : σ :=
  dsts.foldl (fun s dst => (RouteTable.del s dst).2) s

theorem withdrawRoute_table (d : Daemon σ) (dst : Xid) :
    (d.withdrawRoute dst).2.routes = (RouteTable.del d.routes dst).2 :=
  noteRequest_routes _ _

theorem withdrawRoutes_table : ∀ (dsts : List Xid) (d : Daemon σ), (d.withdrawRoutes dsts).routes = delAll d.routes dsts
  | [], _ => rfl
  | dst :: dsts, d => by
    rw [withdrawRoutes, withdrawRoutes_table dsts, withdrawRoute_table]
    rfl

theorem dumpRoutes_table (d : Daemon σ) (table : TableId) (filter : RouteFilter) :
    (d.dumpRoutes table filter).2.routes = (RouteTable.dump d.routes table filter).2 :=
  noteRequest_routes _ _

/-- No refusal keeps the other withdrawals from being asked for. -/
theorem withdrawNeighbor_table (d : Daemon σ) (x : Xid) : (d.withdrawNeighbor x).routes =
    delAll (RouteTable.dump d.routes .main (behind d.types x)).2
      (withdrawals (RouteTable.dump d.routes .main (behind d.types x)).1 x) := by
  have hanswer : (d.dumpRoutes .main (behind d.types x)).1 =
    (RouteTable.dump d.routes .main (behind d.types x)).1.toOption := rfl
  have hroutes := dumpRoutes_table d .main (behind d.types x)
  rw [delAll, withdrawals, ← hanswer, ← hroutes, List.foldl_append]
  unfold withdrawNeighbor
  dsimp only
  rw [← behind]
  cases d.dumpRoutes .main (behind d.types x) with
  | mk shown d₁ =>
    cases shown with
    | none => exact withdrawRoute_table d₁ x
    | some routes =>
      refine (withdrawRoute_table _ x).trans ?_
      rw [withdrawRoutes_table]
      rfl

/-! ### Requests on record -/

theorem requests_del (j : Journal σ) (dst : Xid) : (RouteTable.del j dst).2.requests = j.requests ++ [.del dst] := by
  simp only [RouteTable.del, Journal.ask]
  split <;> rfl

theorem requests_dump (j : Journal σ) (table : TableId) (filter : RouteFilter) :
    (RouteTable.dump j table filter).2.requests = j.requests ++ [.dump table filter] := by
  simp only [RouteTable.dump, Journal.ask]
  split <;> rfl

theorem requests_delAll : ∀ (dsts : List Xid) (j : Journal σ),
    (delAll j dsts).requests = j.requests ++ dsts.map .del
  | [], _ => (List.append_nil _).symm
  | dst :: dsts, j => by
    have ih := requests_delAll dsts (RouteTable.del j dst).2
    rw [requests_del, List.append_assoc] at ih
    exact ih

/-- One dump, and then one withdrawal for each destination that it has shown, in order, and one for the identity. -/
theorem requests_withdrawNeighbor (d : Daemon (Journal σ)) (x : Xid) : (d.withdrawNeighbor x).routes.requests =
    d.routes.requests ++ .dump .main (behind d.types x) ::
      (withdrawals (RouteTable.dump d.routes .main (behind d.types x)).1 x).map .del := by
  rw [withdrawNeighbor_table, requests_delAll, requests_dump, List.append_assoc]
  rfl

/-! ## Evictions -/

/-- The entry `n` has left and no other, and the routes behind it and the route to it were to be withdrawn, whatever the
table has answered. -/
structure Withdraws (d : Daemon σ) (n : Neighbor) (d' : Daemon σ) : Prop where
  neighbors : d'.neighbors = { d.neighbors with
    entries := d.neighbors.entries.erase n
    departed := n.settled :: d.neighbors.departed }
  routes : d'.routes = delAll (RouteTable.dump d.routes .main (behind d.types n.identity)).2
    (withdrawals (RouteTable.dump d.routes .main (behind d.types n.identity)).1 n.identity)

theorem dismiss_withdraws (hn : d.neighbors.WellFormed) (hm : n ∈ d.neighbors.entries) :
    Withdraws d n (d.dismiss n) where
  neighbors := by
    rw [(dismiss_aside d n).neighbors, ← NeighborTable.entries_depart hn hm]
    rfl
  routes := withdrawNeighbor_table { d with neighbors := d.neighbors.depart n } n.identity

/-- Whenever a neighbor is evicted, its entry leaves and no other. A route table in memory, however it has come about,
loses the main routes to the identity and those to prefixes through it, and keeps all others in order. Any other table
is asked for each withdrawal once and in order, whatever it answers. -/
theorem Run.withdraws {d₀ : Daemon σ} (h₀ : d₀.IsFresh) {l : List (Moment σ)} (h : Run d₀ l d)
    (hm : n ∈ d.neighbors.entries) (hl : n.liveness = .awaitingInvestigativeAck) (hh : n.timer? = some timer) :
    (∀ m : MemoryRoutes, m.Built →
      ((d.mapRoutes fun _ => m).onInvestigationTimeout n.ref timer).routes.routes =
        m.routes.filter fun r => !r.dependsOn d.types.ad n.identity) ∧
    (∀ {τ : Type} [RouteTable τ] (s : τ),
      Withdraws (d.mapRoutes fun _ => s) n ((d.mapRoutes fun _ => s).onInvestigationTimeout n.ref timer)) ∧
    ∀ {τ : Type} [RouteTable τ] (j : Journal τ),
      ((d.mapRoutes fun _ => j).onInvestigationTimeout n.ref timer).routes.requests =
        j.requests ++ .dump .main (behind d.types n.identity) ::
          (withdrawals (RouteTable.dump j .main (behind d.types n.identity)).1 n.identity).map .del := by
  have hn := (h.regular h₀).neighbors
  have hx : n.identity.type = d.types.ether := by
    rw [h.identity_eq h₀ n hm]
    rfl
  have hdismiss {τ : Type} [RouteTable τ] (s : τ) :
      (d.mapRoutes fun _ => s).onInvestigationTimeout n.ref timer = (d.mapRoutes fun _ => s).dismiss n :=
    onInvestigationTimeout_of_expired (hn.expired?_eq_some_iff.2 ⟨hm, rfl, hl, hh⟩)
  simp only [hdismiss]
  refine ⟨fun m hb => ?_, fun s => dismiss_withdraws hn hm, fun j => ?_⟩
  · exact withdrawNeighbor_routes (d := { d.mapRoutes fun _ => m with neighbors := d.neighbors.depart n }) hb.simple hx
  · exact requests_withdrawNeighbor { d.mapRoutes fun _ => j with neighbors := d.neighbors.depart n } n.identity

end

/-- One own prefix, two hosts, and a prefix behind each. -/
def crossroads : MemoryRoutes :=
  (({} : MemoryRoutes).addOwn ⟨⟨16⟩, .replicate 9⟩).addAll
    [(.ether ⟨18⟩ 1 peer, none), (.ether ⟨18⟩ 1 third, none), (⟨⟨16⟩, .replicate 7⟩, some (.ether ⟨18⟩ 1 peer)),
      (⟨⟨16⟩, .replicate 8⟩, some (.ether ⟨18⟩ 1 third))]

theorem crossroads_built : crossroads.Built :=
  (MemoryRoutes.Built.empty.addOwn _).addAll _

/-- The entry of the host that has missed the first deadline. -/
def suspect : Neighbor where
  ref := ⟨0⟩
  hwaddr := peer
  identity := .ether ⟨18⟩ 1 peer
  liveness := .awaitingInvestigativeAck
  timer? := some ⟨2⟩

/-- The silent host is evicted: the routes to it and to the prefix behind it go. A table that refuses all withdrawals is
asked for both. -/
theorem withdraws_of_missed : ∃ l, Run (lone 5) l (missed 5) ∧ suspect ∈ (missed 5).neighbors.entries ∧
    (((missed 5).mapRoutes fun _ => crossroads).onInvestigationTimeout suspect.ref ⟨2⟩).routes.routes =
      [⟨.own, ⟨⟨16⟩, .replicate 9⟩, none⟩, ⟨.main, .ether ⟨18⟩ 1 third, none⟩,
        ⟨.main, ⟨⟨16⟩, .replicate 8⟩, some (.ether ⟨18⟩ 1 third)⟩] ∧
    (((missed 5).mapRoutes fun _ => ({ table := crossroads, refusesDel := true } : Journal MemoryRoutes)
      ).onInvestigationTimeout suspect.ref ⟨2⟩).routes.requests =
      [.dump .main (behind (lone 5).types suspect.identity), .del ⟨⟨16⟩, .replicate 7⟩, .del suspect.identity] := by
  obtain ⟨l, h⟩ := run_pinged 5
  have hr : Run (lone 5) _ (missed 5) := h.snoc (.expiry (t := ackDeadline 5) (by decide))
  have hm : suspect ∈ (missed 5).neighbors.entries := by decide
  obtain ⟨hmemory, -, hjournal⟩ := Run.withdraws (lone_isFresh 5) hr hm rfl rfl
  exact ⟨_, hr, hm, (hmemory crossroads crossroads_built).trans (by decide),
    (hjournal { table := crossroads, refusesDel := true }).trans (by decide)⟩

end Neighborhood.Daemon
