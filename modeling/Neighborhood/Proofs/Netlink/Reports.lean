import Neighborhood.Proofs.Netlink.Receiver

/-!
# What a dumped route says of its report

A dump makes routes of the reports in an answer and passes over what is no route between XIDs in a known table. The
destination and the gateway of a route are read alike, from the last attribute of their kind. But a report without a
destination is passed over, while one without a gateway is of a host on the link; so is one whose gateway is no XID.

* `Passes` — what a report has to say to be taken for a route; `ofMessage?_eq_some_iff`
* `Attests` — a report says what a route says, its gateway included
* `attests_iff` — the difference is a gateway that is there and is no XID
* `NetlinkClient.dump_attests_iff` — which reports are dumped, as what, and when they attest it
-/

namespace Neighborhood

theorem TableId.ofIndex?_eq_some_iff {i : Nat} {table : TableId} : ofIndex? i = some table ↔ i = table.index := by
  constructor
  · intro h
    unfold ofIndex? at h
    split at h <;> cases h <;> rfl
  · rintro rfl
    cases table <;> rfl

namespace Netlink

variable {kind : Nat} {attributes : List Attribute} {m : RouteMessage} {r : Route}

/-! ## The last attribute of a kind -/

theorem kind_of_lastOf? {a : Attribute} (h : lastOf? kind attributes = some a) : a.kind = kind :=
  of_decide_eq_true (List.mem_filter.1 (List.mem_of_getLast? h)).2

theorem xidOf?_eq_some_iff {x : Xid} :
    xidOf? kind attributes = some x ↔ lastOf? kind attributes = some (xidAttribute kind x) := by
  rw [xidOf?, Option.bind_eq_some_iff]
  constructor
  · rintro ⟨⟨kind', value⟩, ha, hx⟩
    obtain rfl : value = x.toWire := Xid.ofWire?_eq_some_iff.1 hx
    obtain rfl : kind' = kind := kind_of_lastOf? ha
    exact ha
  · intro ha
    exact ⟨_, ha, Xid.ofWire?_toWire x⟩

theorem xidAttribute_inj {x y : Xid} : xidAttribute kind x = xidAttribute kind y ↔ x = y := by
  rw [xidAttribute, xidAttribute, Attribute.mk.injEq, Xid.toWire_inj, and_iff_right rfl]

/-! ## Reports that are taken for routes -/

/-- The report is about a destination in a table: the last attribute for each of them says so, or, for the table, the
header where there is no attribute. -/
structure Targets (m : RouteMessage) (r : Route) : Prop where
  family : m.family = Netlink.family
  dstLength : m.dstLength = 24
  table : tableIndex m = r.table.index
  dst : lastOf? Attribute.destination m.attributes = some (xidAttribute Attribute.destination r.dst)

/-- The report is taken for the route: the gateway of the route is what the last attribute for it says, as far as this
is an XID. -/
structure Passes (m : RouteMessage) (r : Route) : Prop extends Targets m r where
  gateway : ∀ x, r.gateway = some x ↔ lastOf? Attribute.gateway m.attributes = some (xidAttribute Attribute.gateway x)

/-- The report says what the route says: there is an attribute for a gateway just if the route has one, and the last one
is this gateway. -/
structure Attests (m : RouteMessage) (r : Route) : Prop extends Targets m r where
  gateway : lastOf? Attribute.gateway m.attributes = r.gateway.map (xidAttribute Attribute.gateway)

/-- The last attribute for a gateway is an XID, if there is one. -/
def GatewaySound (m : RouteMessage) : Prop :=
  ∀ a, lastOf? Attribute.gateway m.attributes = some a → ∃ x, a = xidAttribute Attribute.gateway x

theorem ofMessage?_eq_some_iff : Route.ofMessage? m = some r ↔ Passes m r := by
  have hgateway : xidOf? Attribute.gateway m.attributes = r.gateway ↔
      ∀ x, r.gateway = some x ↔ lastOf? Attribute.gateway m.attributes = some (xidAttribute Attribute.gateway x) := by
    rw [eq_comm, Option.ext_iff]
    exact forall_congr' fun x => by rw [xidOf?_eq_some_iff]
  constructor
  · intro h
    rw [Route.ofMessage?, Option.ite_none_right_eq_some] at h
    obtain ⟨⟨hfamily, hlength⟩, h⟩ := h
    obtain ⟨table, htable, h⟩ := Option.bind_eq_some_iff.1 h
    obtain ⟨dst, hdst, h⟩ := Option.bind_eq_some_iff.1 h
    obtain rfl := Option.some.inj h
    exact ⟨⟨hfamily, hlength, TableId.ofIndex?_eq_some_iff.1 htable, xidOf?_eq_some_iff.1 hdst⟩, hgateway.1 rfl⟩
  · intro h
    rw [Route.ofMessage?, if_pos ⟨h.family, h.dstLength⟩, TableId.ofIndex?_eq_some_iff.2 h.table,
      xidOf?_eq_some_iff.2 h.dst, hgateway.2 h.gateway]
    rfl

/-- What passes attests its route unless the gateway in it is no XID. -/
theorem attests_iff : Attests m r ↔ GatewaySound m ∧ Passes m r := by
  constructor
  · intro h
    refine ⟨fun a ha => ?_, h.toTargets, fun x => ?_⟩
    · obtain ⟨x, -, rfl⟩ := Option.map_eq_some_iff.1 (h.gateway.symm.trans ha)
      exact ⟨x, rfl⟩
    · rw [h.gateway, Option.map_eq_some_iff]
      constructor
      · intro hx
        exact ⟨x, hx, rfl⟩
      · rintro ⟨y, hy, hxy⟩
        rw [hy, xidAttribute_inj.1 hxy]
  · rintro ⟨hsound, h⟩
    refine ⟨h.toTargets, ?_⟩
    cases hg : r.gateway with
    | some x => exact (h.gateway x).1 hg
    | none =>
      refine Option.eq_none_iff_forall_ne_some.2 fun a ha => ?_
      obtain ⟨x, rfl⟩ := hsound a ha
      cases hg.symm.trans ((h.gateway x).2 ha)

/-! ## Reports in an answer -/

theorem Payload.eq_of_answer_eq_ok {p : Payload} {routes routes' : List RouteMessage}
    (h : p.answer routes = .ok routes') : routes' = routes := by
  cases p with
  | error code =>
    simp only [Payload.answer, answerOfCode] at h
    split at h <;> cases h
    rfl
  | done | newRoute | other =>
    cases h
    rfl

/-- If an event gives routes, they are those at hand. -/
theorem Event.eq_of_answer_eq_ok {event : Event} {routes routes' : List RouteMessage}
    (h : event.answer routes = .ok routes') : routes' = routes := by
  cases event with
  | message => exact Payload.eq_of_answer_eq_ok h
  | unreadable | failure => cases h

/-- The report is taken for a route that a dump is to show. -/
def Shows (table : TableId) (filter : RouteFilter) (m : RouteMessage) : Prop :=
  ∃ r, Passes m r ∧ r.table = table ∧ filter.accepts r

theorem Passes.shows_iff (h : Passes m r) (table : TableId) (filter : RouteFilter) :
    Shows table filter m ↔ r.table = table ∧ filter.accepts r := by
  constructor
  · rintro ⟨r', h', hshow⟩
    obtain rfl : r' = r := Option.some.inj ((ofMessage?_eq_some_iff.2 h').symm.trans
      (ofMessage?_eq_some_iff.2 h))
    exact hshow
  · exact fun hshow => ⟨r, h, hshow⟩

instance (table : TableId) (filter : RouteFilter) : DecidablePred (Shows table filter) := fun m =>
  decidable_of_iff (∃ r ∈ Route.ofMessage? m, r.table = table ∧ filter.accepts r) <| by
    simp only [Option.mem_def, ofMessage?_eq_some_iff, Shows]

/-- A dump shows the routes that reports are taken for, in the order of the reports. -/
theorem forall₂_passes_select (table : TableId) (filter : RouteFilter) : ∀ ms : List RouteMessage,
    List.Forall₂ Passes (ms.filter (Shows table filter)) ((RouteRequest.dump table filter).select ms)
  | [] => .nil
  | m :: ms => by
    have ih := forall₂_passes_select table filter ms
    simp only [RouteRequest.select] at ih ⊢
    cases hr : Route.ofMessage? m with
    | none =>
      have hm : ¬ Shows table filter m := by
        rintro ⟨r, hp, -⟩
        cases hr.symm.trans (ofMessage?_eq_some_iff.2 hp)
      rw [List.filterMap_cons_none hr, List.filter_cons_of_neg (by simpa using hm)]
      exact ih
    | some r =>
      have hp := ofMessage?_eq_some_iff.1 hr
      have hm := hp.shows_iff table filter
      rw [List.filterMap_cons_some hr]
      by_cases hs : Shows table filter m
      · rw [List.filter_cons_of_pos (by simpa using hs), List.filter_cons_of_pos (by simpa using hm.1 hs)]
        exact .cons hp ih
      · rw [List.filter_cons_of_neg (by simpa using hs), List.filter_cons_of_neg (by simpa using mt hm.2 hs)]
        exact ih

/-- Reports attest the routes that they are taken for if the gateways in them are XIDs. -/
theorem forall₂_attests_iff {ms : List RouteMessage} {L : List Route} (h : List.Forall₂ Passes ms L) :
    List.Forall₂ Attests ms L ↔ ∀ m ∈ ms, GatewaySound m := by
  have hattests : @Attests = fun m r => GatewaySound m ∧ Passes m r :=
    funext fun _ => funext fun _ => propext attests_iff
  rw [hattests, List.forall₂_and_left, and_iff_left h]

end Netlink

open Netlink

namespace NetlinkClient

variable (c : NetlinkClient)

/-- A dump returns the routes that the reports before the end of the answer are taken for, as far as it is to show them, in
the order of the reports. Each report names the table and the destination of its route, and the gateway if the route has
one. If the route has none, the report may still name a gateway, which is no XID, and just then it does not attest the
route. -/
theorem dump_attests_iff {table : TableId} {filter : RouteFilter} {L : List Route}
    (h : (c.dump table filter).1 = .ok L) :
    ∃ before event unread,
      FirstDecision c.sequence (c.deserializer.stream c.socket.incoming) before event unread ∧
      List.Forall₂ Passes ((routesIn c.sequence before).filter (Shows table filter)) L ∧
      (List.Forall₂ Attests ((routesIn c.sequence before).filter (Shows table filter)) L ↔
        ∀ m ∈ routesIn c.sequence before, Shows table filter m → GatewaySound m) := by
  have hcall : (c.call (.dump table filter)).1 = .ok L := h
  cases hsend : c.socket.sendFailure with
  | some errno => cases (c.call_of_sendFailure (.dump table filter) hsend).1.symm.trans hcall
  | none =>
    obtain ⟨before, event, unread, hfirst, hread⟩ := exists_readReplies_eq c.deserializer c.sequence c.socket.incoming
    rw [(c.call_of_sends (.dump table filter) hsend).1, hread] at hcall
    obtain rfl : (RouteRequest.dump table filter).select (routesIn c.sequence before) = L := by
      cases ha : event.answer (routesIn c.sequence before) with
      | error e =>
        rw [ha] at hcall
        cases hcall
      | ok routes =>
        rw [ha, Event.eq_of_answer_eq_ok ha] at hcall
        exact Except.ok.inj hcall
    have hpasses := forall₂_passes_select table filter (routesIn c.sequence before)
    refine ⟨before, event, unread, hfirst, hpasses, ?_⟩
    rw [forall₂_attests_iff hpasses]
    simp only [List.mem_filter, decide_eq_true_eq, and_imp]

theorem dump_attests_of_reports : ((receiving {} reports).dump .main {}).1 = .ok [farRoute] ∧
    ∃ before event unread, FirstDecision 1 (Message.deserializer.stream reports) before event unread ∧
      List.Forall₂ Passes ((routesIn 1 before).filter (Shows .main {})) [farRoute] := by
  have h : ((receiving {} reports).dump .main {}).1 = .ok [farRoute] := by decide +kernel
  obtain ⟨before, event, unread, hfirst, hpasses, -⟩ := dump_attests_iff _ h
  exact ⟨h, before, event, unread, hfirst, hpasses⟩

/-- A report whose gateway lacks its last byte. -/
def clippedReport : RouteMessage :=
  { requestMessage .main .link (some farRoute.dst) none with
    attributes := [xidAttribute Attribute.destination farRoute.dst,
      ⟨Attribute.gateway, (Xid.toWire ⟨⟨18⟩, .replicate 3⟩).take 23⟩] }

def clipped : List Incoming :=
  [.datagram (Message.frame newRouteType 2 1 clippedReport.toBytes ++ Message.frame doneType 2 1 (bytesLE 0))]

/-- It is dumped as a route to a host on the link, which it does not attest. -/
theorem not_attests_of_clipped :
    Carries Message.deserializer clipped [⟨84, 1, .newRoute clippedReport⟩, ⟨20, 1, .done 0⟩] ∧
    ((receiving {} clipped).dump .main {}).1 = .ok [⟨.main, farRoute.dst, none⟩] ∧
    (∃ a, lastOf? Attribute.gateway clippedReport.attributes = some a ∧ a.value.length = 23) ∧
    ¬ Attests clippedReport ⟨.main, farRoute.dst, none⟩ := by
  have hc : Carries Message.deserializer clipped ([⟨84, 1, .newRoute clippedReport⟩, ⟨20, 1, .done 0⟩] ++ []) :=
    .cons (by decide) (.cons (by decide +kernel) (.cons (by decide +kernel) .nil)) .nil
  refine ⟨hc, by decide +kernel, ⟨_, rfl, rfl⟩, fun h => ?_⟩
  cases h.gateway

end NetlinkClient

end Neighborhood
