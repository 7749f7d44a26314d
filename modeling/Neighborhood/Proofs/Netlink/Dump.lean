import Mathlib.Data.List.Forall2
import Neighborhood.Proofs.Netlink.Layout
import Neighborhood.Proofs.Netlink.Replies
import Neighborhood.Proofs.Xid
import Neighborhood.Route.Memory

/-!
# Dumps of the kernel's route tables

* `Describes` — a route message says what a route is, among whatever else it says
* `DumpPart.Laid` — the bytes of a route, or of the end, in the answer to a dump
* `Split` — parts of an answer in datagrams, however they are grouped
* `NetlinkClient.dump_eq_memory` — routes that the kernel reports are dumped like routes held in memory
-/

namespace Neighborhood

namespace Netlink

/-! ## Routes in messages -/

/-- The message is about this route: the table is in the header unless an attribute names it, the destination and the
gateway, if there is one, are in attributes of their own, and there may be attributes of other kinds anywhere. -/
structure Describes (m : RouteMessage) (r : Route) : Prop where
  family : m.family = Netlink.family
  dstLength : m.dstLength = 24
  table : m.attributes.filter (·.kind = Attribute.table) =
      [⟨Attribute.table, bytesLE (UInt32.ofNat r.table.index)⟩] ∨
    m.attributes.filter (·.kind = Attribute.table) = [] ∧ m.table = UInt8.ofNat r.table.index
  dst : m.attributes.filter (·.kind = Attribute.destination) = [xidAttribute Attribute.destination r.dst]
  gateway : m.attributes.filter (·.kind = Attribute.gateway) =
    (r.gateway.map (xidAttribute Attribute.gateway)).toList

theorem Describes.tableIndex_eq {m : RouteMessage} {r : Route} (h : Describes m r) :
    tableIndex m = r.table.index := by
  unfold tableIndex lastOf?
  rcases h.table with ht | ⟨ht, hh⟩
  · rw [ht]
    simp only [List.getLast?_singleton, bytesLE, tableValue, wordLE_bytesLE]
    cases r.table <;> rfl
  · rw [ht, hh]
    cases r.table <;> rfl

theorem Describes.ofMessage?_eq {m : RouteMessage} {r : Route} (h : Describes m r) : Route.ofMessage? m = some r := by
  have hdst : xidOf? Attribute.destination m.attributes = some r.dst := by
    rw [xidOf?, lastOf?, h.dst]
    exact Xid.ofWire?_toWire r.dst
  have hgateway : xidOf? Attribute.gateway m.attributes = r.gateway := by
    rw [xidOf?, lastOf?, h.gateway]
    cases r.gateway with
    | none => rfl
    | some gateway => exact Xid.ofWire?_toWire gateway
  have htable : TableId.ofIndex? r.table.index = some r.table := by cases r.table <;> rfl
  rw [Route.ofMessage?, if_pos ⟨h.family, h.dstLength⟩, h.tableIndex_eq, htable, hdst, hgateway]
  rfl

/-! ## Parts of an answer -/

/-- What the answer to a dump is made of. -/
inductive DumpPart where
  | route (r : Route)
  | done

/-- The bytes of a part of the answer to a request. Other attributes may stand among those of a route if they are
well-formed. -/
def DumpPart.Laid (WellFormed : UInt8 → List Attribute → Prop) (sequence : UInt32) : DumpPart → List UInt8 → Prop
  | .route r, bytes => ∃ m payload, Describes m r ∧ WellFormed m.family m.others ∧ m.Laid payload ∧
      Message.Laid (UInt16.ofNat newRouteType) sequence payload bytes
  | .done, bytes => ∃ payload : List UInt8, (payload = [] ∨ 4 ≤ payload.length) ∧
      Message.Laid (UInt16.ofNat doneType) sequence payload bytes

/-- Parts in datagrams that are not cut off, in order. -/
inductive Split {α : Type} (IsPart : α → List UInt8 → Prop) : List α → List Incoming → Prop
  | nil : Split IsPart [] []
  | cons {l l' : List α} {bytes : List UInt8} {rest : List Incoming} : bytes.length ≤ bufferSize →
      Row IsPart l bytes → Split IsPart l' rest → Split IsPart (l ++ l') (.datagram bytes :: rest)

/-- What the reader of replies takes a part for. -/
inductive DumpPart.Means : DumpPart → Reply → Prop
  | route {r : Route} {m : RouteMessage} : Describes m r → Means (.route r) (.route m)
  | done : Means .done .done

variable {d : Deserializer} {WellFormed : UInt8 → List Attribute → Prop} {sequence : UInt32}

theorem DumpPart.Laid.exists_reply (hd : d.ReadsLayout WellFormed) {p : DumpPart} {bytes : List UInt8}
    (h : p.Laid WellFormed sequence bytes) :
    ∃ m reply, p.Means reply ∧ m.reply? sequence = some reply ∧ m.length = bytes.length ∧
      ∀ more, d.read (bytes ++ more) = some m := by
  cases p with
  | route r =>
    obtain ⟨m, payload, hr, hw, hm, hl⟩ := h
    exact ⟨⟨bytes.length, sequence, .newRoute m⟩, .route m, .route hr, by simp [Message.reply?], rfl,
      hd.newRoute hm hw hl⟩
  | done =>
    obtain ⟨payload, he, hl⟩ := h
    obtain ⟨status, hread⟩ := hd.done he hl
    exact ⟨⟨bytes.length, sequence, .done status⟩, .done, .done, by simp [Message.reply?], rfl, hread⟩

theorem exists_fills_of_row (hd : d.ReadsLayout WellFormed) : ∀ {l : List DumpPart} {bytes : List UInt8},
    Row (DumpPart.Laid WellFormed sequence) l bytes →
      ∃ ms, Fills d bytes ms ∧ List.Forall₂ DumpPart.Means l (ms.filterMap (Message.reply? sequence))
  | [], bytes, h => ⟨[], h.eq_nil ▸ .nil, .nil⟩
  | p :: l, bytes, h => by
    obtain ⟨part, more, hp, rfl, hrest⟩ := h.uncons
    obtain ⟨m, reply, hmeans, hreply, hlen, hparse⟩ := hp.exists_reply hd
    obtain ⟨ms, hf, hall⟩ := exists_fills_of_row hd hrest
    refine ⟨m :: ms, .cons (hparse more) ?_, ?_⟩
    · rw [hlen, List.drop_append, List.drop_of_length_le (le_aligned _), List.nil_append]
      exact hf
    · rw [List.filterMap_cons_some hreply]
      exact .cons hmeans hall

theorem Split.exists_carries (hd : d.ReadsLayout WellFormed) {l : List DumpPart} {s : List Incoming}
    (h : Split (DumpPart.Laid WellFormed sequence) l s) :
    ∃ ms, Carries d s ms ∧ List.Forall₂ DumpPart.Means l (ms.filterMap (Message.reply? sequence)) := by
  induction h with
  | nil => exact ⟨[], .nil, .nil⟩
  | cons hl hrow _ ih =>
    obtain ⟨ms, hf, hm⟩ := exists_fills_of_row hd hrow
    obtain ⟨ms', hc, hm'⟩ := ih
    refine ⟨ms ++ ms', .cons hl hf hc, ?_⟩
    rw [List.filterMap_append]
    exact List.rel_append hm hm'

/-- Routes and the end decide a request, and the answer holds messages about these routes. -/
theorem verdictOn_of_means : ∀ {L : List Route} {replies : List Reply} (routes : List RouteMessage),
    List.Forall₂ DumpPart.Means (L.map .route ++ [.done]) replies →
      ∃ ms, verdictOn replies routes = .decided (.ok (routes ++ ms)) ∧ ms.filterMap Route.ofMessage? = L
  | [], replies, routes, h => by
    cases h with
    | cons hd ht =>
      cases hd
      exact ⟨[], by rw [List.append_nil]; rfl, rfl⟩
  | r :: L, replies, routes, h => by
    cases h with
    | cons hr ht =>
      cases hr with
      | @route _ m hd =>
        obtain ⟨ms, hv, hL⟩ := verdictOn_of_means (routes ++ [m]) ht
        refine ⟨m :: ms, ?_, ?_⟩
        · rw [verdictOn, hv, List.append_assoc]
          rfl
        · rw [List.filterMap_cons_some hd.ofMessage?_eq, hL]

end Netlink

open Netlink

namespace NetlinkClient

/-- Where messages are read as they are laid out, the routes that the kernel reports, in whatever messages and datagrams,
are dumped like the same routes held in memory, in the same order. -/
theorem dump_eq_memory (c : NetlinkClient) {WellFormed : UInt8 → List Attribute → Prop}
    (hd : c.deserializer.ReadsLayout WellFormed) (hsend : c.socket.sendFailure = none) {L : List Route}
    {s : List Incoming} (hs : Split (DumpPart.Laid WellFormed c.sequence) (L.map .route ++ [.done]) s)
    {rest : List Incoming} (hin : c.socket.incoming = s ++ rest) (table : TableId) (filter : RouteFilter) :
    (RouteTable.dump c table filter).1 = (RouteTable.dump (⟨L⟩ : MemoryRoutes) table filter).1 := by
  obtain ⟨ms, hc, hm⟩ := hs.exists_carries hd
  obtain ⟨routes, hv, hL⟩ := verdictOn_of_means [] hm
  have hread := hc.readReplies_of_decided rest hv
  have hanswer : (c.transact getRouteType dumpFlags (requestMessage table .anywhere none none)).1 = .ok routes := by
    simp only [transact, hsend, hin]
    exact hread
  show (c.dump table filter).1 = .ok ((⟨L⟩ : MemoryRoutes).dump table filter)
  simp only [dump, hanswer, MemoryRoutes.dump, ← hL]
  rfl

/-- A route to this host, and one that leads through another. -/
def nearRoute : Route := ⟨.own, ⟨⟨16⟩, .replicate 1⟩, none⟩
def farRoute : Route := ⟨.main, ⟨⟨16⟩, .replicate 2⟩, some ⟨⟨18⟩, .replicate 3⟩⟩

/-- The header names the table. -/
def nearReport : RouteMessage :=
  requestMessage nearRoute.table .anywhere (some nearRoute.dst) nearRoute.gateway

/-- An attribute names the table, which is not that of the header, and another names an interface. -/
def farReport : RouteMessage :=
  { requestMessage .own .anywhere none none with
    attributes := [xidAttribute Attribute.gateway ⟨⟨18⟩, .replicate 3⟩, ⟨Attribute.outInterface, [7, 0, 0, 0]⟩,
      ⟨Attribute.table, [1, 0, 0, 0]⟩, xidAttribute Attribute.destination farRoute.dst] }

/-- One report in a datagram, and the other in the next with the end behind it. -/
def reports : List Incoming :=
  [.datagram (Message.frame newRouteType 2 1 nearReport.toBytes),
    .datagram (Message.frame newRouteType 2 1 farReport.toBytes ++ Message.frame doneType 2 1 [])]

theorem dump_eq_memory_of_reports : (RouteTable.dump (receiving {} reports) .main {}).1 = .ok [farRoute] := by
  have hnear : (DumpPart.route nearRoute).Laid AnyOthers 1 (Message.frame newRouteType 2 1 nearReport.toBytes) :=
    ⟨nearReport, _, ⟨rfl, rfl, .inr ⟨rfl, rfl⟩, rfl, rfl⟩, trivial, RouteMessage.laid_toBytes (by decide) (by decide),
      Message.laid_frame _ 2 1 (by decide)⟩
  have hfar : (DumpPart.route farRoute).Laid AnyOthers 1 (Message.frame newRouteType 2 1 farReport.toBytes) :=
    ⟨farReport, _, ⟨rfl, rfl, .inl rfl, rfl, rfl⟩, trivial, RouteMessage.laid_toBytes (by decide) (by decide),
      Message.laid_frame _ 2 1 (by decide)⟩
  have hdone : DumpPart.done.Laid AnyOthers 1 (Message.frame doneType 2 1 []) :=
    ⟨[], .inl rfl, Message.laid_frame _ 2 1 (by decide)⟩
  have hlast : Row (DumpPart.Laid AnyOthers 1) [.route farRoute, .done]
      (Message.frame newRouteType 2 1 farReport.toBytes ++ [] ++ Message.frame doneType 2 1 []) :=
    .cons hfar (by decide) (.last hdone)
  have hs : Split (DumpPart.Laid AnyOthers 1) ([.route nearRoute] ++ ([.route farRoute, .done] ++ [])) reports :=
    .cons (by decide) (.last hnear) (.cons (by decide) hlast .nil)
  exact dump_eq_memory (receiving {} reports) Message.deserializer_readsLayout rfl (L := [nearRoute, farRoute]) hs
    (List.append_nil _).symm .main {}

end NetlinkClient

end Neighborhood
