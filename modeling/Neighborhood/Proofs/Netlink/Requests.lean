import Neighborhood.Proofs.Netlink.Dump

/-!
# What a client asks

Requests to the kernel are written by one table of headers and attributes, and replies are read by another. A change of a
route says the same to both: its body, read as a reply, is the route that is to be there or that is to go.

* `RouteRequest.type`, `RouteRequest.flags`, `RouteRequest.message`, `RouteRequest.toBytes` — a request as it is sent
* `RouteRequest.select` — what a call makes of the routes in its answer
* `NetlinkClient.call_fst`, `NetlinkClient.call_snd` — every call sends its request and makes its result of the answer
* `IsMessage` — bytes that are one message and no more
* `RouteRequest.parse?_toBytes`, `RouteRequest.routeIn?_toBytes` — requests are read back
* `NetlinkClient.change_says_route` — a change sends one message that holds its route, and no other change sends the same
-/

namespace Neighborhood

open Netlink

/-! ## Requests as they are sent -/

namespace RouteRequest

def type : RouteRequest → Nat
  | add _ _ => newRouteType
  | del _ => delRouteType
  | dump _ _ => getRouteType

def flags : RouteRequest → UInt16
  | add _ _ => addFlags
  | del _ => delFlags
  | dump _ _ => dumpFlags

def message : RouteRequest → RouteMessage
  | add dst gateway => requestMessage .main .link (some dst) gateway
  | del dst => requestMessage .main .nowhere (some dst) none
  | dump table _ => requestMessage table .anywhere none none

/-- The bytes of a request with its number. -/
def toBytes (q : RouteRequest) (sequence : UInt32) : List UInt8 :=
  Message.frame q.type q.flags sequence q.message.toBytes

/-- What a call makes of the routes in its answer. -/
def select : RouteRequest → List RouteMessage → List Route
  | add _ _, _ | del _, _ => []
  | dump table filter, routes =>
    (routes.filterMap Route.ofMessage?).filter fun r => r.table = table && filter.accepts r

/-- The route that a change is about. -/
def route? : RouteRequest → Option Route
  | add dst gateway => some ⟨.main, dst, gateway⟩
  | del dst => some ⟨.main, dst, none⟩
  | dump _ _ => none

/-- What a request is to a reader of replies: only additions look like reports. -/
def payload : RouteRequest → Payload
  | add dst gateway => .newRoute (add dst gateway).message
  | del _ | dump _ _ => .other

end RouteRequest

namespace NetlinkClient

theorem call_fst (c : NetlinkClient) : ∀ q : RouteRequest,
    (c.call q).1 = (c.transact q.type q.flags q.message).1.map q.select
  | .add dst gateway => by
    simp only [call, add, RouteRequest.type, RouteRequest.flags, RouteRequest.message]
    cases (c.transact newRouteType addFlags (requestMessage .main .link (some dst) gateway)).1 <;> rfl
  | .del dst => by
    simp only [call, del, RouteRequest.type, RouteRequest.flags, RouteRequest.message]
    cases (c.transact delRouteType delFlags (requestMessage .main .nowhere (some dst) none)).1 <;> rfl
  | .dump _ _ => rfl

theorem call_snd (c : NetlinkClient) : ∀ q : RouteRequest,
    (c.call q).2 = (c.transact q.type q.flags q.message).2
  | .add _ _ | .del _ | .dump _ _ => rfl

/-- A request is handed to the socket whether the socket takes it or not. -/
theorem call_sent (c : NetlinkClient) (q : RouteRequest) :
    (c.call q).2.socket.sent = c.socket.sent ++ [q.toBytes c.sequence] := by
  rw [call_snd, transact]
  dsimp only
  split <;> rfl

end NetlinkClient

/-! ## Bytes that are one message -/

namespace Netlink

/-- The length that a header names. -/
def lengthField : List UInt8 → Nat
  | l₀ :: l₁ :: l₂ :: l₃ :: _ => (wordLE l₀ l₁ l₂ l₃).toNat
  | _ => 0

/-- The bytes are one message with this number, and the header names the number of bytes. -/
structure IsMessage (sequence : UInt32) (bytes : List UInt8) : Prop where
  lengthField : lengthField bytes = bytes.length
  fills : ∃ m, Fills Message.deserializer bytes [m] ∧ m.sequence = sequence

/-- The route in the body of a message, which is read like the body of a report. -/
def routeIn? (bytes : List UInt8) : Option Route :=
  match Payload.parse? newRouteType (bytes.drop Message.headerLength) with
  | some (.newRoute m) => Route.ofMessage? m
  | _ => none

theorem Message.length_frame (type : Nat) (flags : UInt16) (sequence : UInt32) (payload : List UInt8) :
    (frame type flags sequence payload).length = headerLength + payload.length := by
  simp only [frame, bytesLE, halfBytesLE, headerLength, List.length_append, List.length_cons, List.length_nil]

theorem Message.drop_frame (type : Nat) (flags : UInt16) (sequence : UInt32) (payload : List UInt8) :
    (frame type flags sequence payload).drop headerLength = payload :=
  rfl

theorem Message.lengthField_frame (type : Nat) (flags : UInt16) (sequence : UInt32) {payload : List UInt8}
    (hlt : headerLength + payload.length < UInt32.size) :
    lengthField (frame type flags sequence payload) = headerLength + payload.length := by
  simp only [frame, bytesLE, List.cons_append, lengthField, wordLE_bytesLE]
  exact UInt32.toNat_ofNat_of_lt' hlt

/-! ## Requests are read back -/

theorem eq_xidAttribute_of_mem {table : TableId} {scope : Scope} {dst gateway : Option Xid} {a : Attribute}
    (h : a ∈ (requestMessage table scope dst gateway).attributes) :
    ∃ x, a = xidAttribute Attribute.destination x ∨ a = xidAttribute Attribute.gateway x := by
  rcases List.mem_append.1 h with h | h
  · obtain ⟨x, -, rfl⟩ := Option.map_eq_some_iff.1 (Option.mem_toList.1 h)
    exact ⟨x, .inl rfl⟩
  · obtain ⟨x, -, rfl⟩ := Option.map_eq_some_iff.1 (Option.mem_toList.1 h)
    exact ⟨x, .inr rfl⟩

theorem requestMessage_laid (table : TableId) (scope : Scope) (dst gateway : Option Xid) :
    (requestMessage table scope dst gateway).Laid (requestMessage table scope dst gateway).toBytes := by
  have hkinds : Attribute.destination < 0x4000 ∧ Attribute.gateway < 0x4000 := by decide
  have hroom : ∀ x : Xid, 4 + x.toWire.length < UInt16.size := fun x => by
    rw [x.length_toWire]
    decide
  refine RouteMessage.laid_toBytes (fun a ha => ?_) fun a ha => ?_
  · obtain ⟨x, rfl | rfl⟩ := eq_xidAttribute_of_mem ha <;> rfl
  · obtain ⟨x, rfl | rfl⟩ := eq_xidAttribute_of_mem ha
    · exact ⟨hkinds.1, hroom x⟩
    · exact ⟨hkinds.2, hroom x⟩

/-- Every XID takes the same room in a request. -/
theorem length_toBytes_xidAttribute (kind : Nat) (x : Xid) : (xidAttribute kind x).toBytes.length = 28 := by
  simp only [xidAttribute, Attribute.toBytes, halfBytesLE, padding, aligned, List.length_append, List.length_cons,
    List.length_nil, List.length_replicate, x.length_toWire, Xid.wireLength]

theorem length_toBytes_requestMessage_le (table : TableId) (scope : Scope) (dst gateway : Option Xid) :
    (requestMessage table scope dst gateway).toBytes.length ≤ 68 := by
  cases dst <;> cases gateway <;>
    simp [requestMessage, RouteMessage.toBytes, bytesLE, length_toBytes_xidAttribute]

/-- What a request says of a route is what a report of the route would say. -/
theorem requestMessage_describes (scope : Scope) (dst : Xid) (gateway : Option Xid) :
    Describes (requestMessage .main scope (some dst) gateway) ⟨.main, dst, gateway⟩ := by
  refine ⟨rfl, rfl, .inr ⟨?_, rfl⟩, ?_, ?_⟩ <;> cases gateway <;> rfl

end Netlink

namespace RouteRequest

theorem message_laid : ∀ q : RouteRequest, q.message.Laid q.message.toBytes
  | add _ _ | del _ | dump _ _ => requestMessage_laid _ _ _ _

theorem length_message_le : ∀ q : RouteRequest, q.message.toBytes.length ≤ 68
  | add _ _ | del _ | dump _ _ => length_toBytes_requestMessage_le _ _ _ _

theorem length_message_lt (q : RouteRequest) :
    Message.headerLength + q.message.toBytes.length < UInt32.size := by
  have h := q.length_message_le
  simp only [Message.headerLength, UInt32.size]
  omega

theorem parse?_payload : ∀ q : RouteRequest, Payload.parse? q.type q.message.toBytes = some q.payload
  | add dst gateway => congrArg (Option.map _) (RouteMessage.parse?_of_laid (message_laid (add dst gateway)))
  | del dst => congrArg (Option.map _) (RouteMessage.parse?_of_laid (message_laid (del dst)))
  | dump table filter => congrArg (Option.map _) (RouteMessage.parse?_of_laid (message_laid (dump table filter)))

theorem type_toNat : ∀ q : RouteRequest, (UInt16.ofNat q.type).toNat = q.type
  | add _ _ | del _ | dump _ _ => rfl

/-- A request is one message for whoever reads it. -/
theorem parse?_toBytes (q : RouteRequest) (sequence : UInt32) :
    Message.parse? (q.toBytes sequence) = some ⟨(q.toBytes sequence).length, sequence, q.payload⟩ := by
  have h := Message.parse?_of_laid (Message.laid_frame q.type q.flags sequence q.length_message_lt) []
  rw [List.append_nil, type_toNat, parse?_payload] at h
  exact h

theorem toBytes_isMessage (q : RouteRequest) (sequence : UInt32) : IsMessage sequence (q.toBytes sequence) where
  lengthField := by
    rw [toBytes, Message.lengthField_frame _ _ _ q.length_message_lt, Message.length_frame]
  fills := by
    refine ⟨_, .cons (q.parse?_toBytes sequence) ?_, rfl⟩
    rw [List.drop_of_length_le (le_aligned _)]
    exact .nil

theorem message_describes : ∀ {q : RouteRequest} {r : Route}, q.route? = some r → Describes q.message r
  | add _ _, _, rfl | del _, _, rfl => requestMessage_describes _ _ _

/-- The body of a change, read like a report, gives the route that the change is about. -/
theorem routeIn?_toBytes {q : RouteRequest} {r : Route} (sequence : UInt32) (h : q.route? = some r) :
    routeIn? (q.toBytes sequence) = some r := by
  have hp : Payload.parse? newRouteType q.message.toBytes = some (.newRoute q.message) :=
    congrArg (Option.map _) (RouteMessage.parse?_of_laid q.message_laid)
  rw [routeIn?, toBytes, Message.drop_frame, hp]
  exact (message_describes h).ofMessage?_eq

/-- Requests with the same bytes look the same to a reader of replies. -/
theorem payload_eq_of_toBytes {q q' : RouteRequest} {sequence sequence' : UInt32}
    (h : q.toBytes sequence = q'.toBytes sequence') : q.payload = q'.payload := by
  have hm := q.parse?_toBytes sequence
  rw [h, q'.parse?_toBytes sequence'] at hm
  exact (Message.mk.inj (Option.some.inj hm)).2.2.symm

/-- A change is known by its bytes: the route by their body, and whether it is added by the type of the message. -/
theorem eq_of_toBytes {q q' : RouteRequest} {sequence sequence' : UInt32} (hq : q.route?.isSome)
    (hq' : q'.route?.isSome) (h : q.toBytes sequence = q'.toBytes sequence') : q = q' := by
  obtain ⟨r, hr⟩ := Option.isSome_iff_exists.1 hq
  obtain ⟨r', hr'⟩ := Option.isSome_iff_exists.1 hq'
  have hpayload := payload_eq_of_toBytes h
  have hroute : r = r' := by
    have hin := routeIn?_toBytes sequence hr
    rw [h, routeIn?_toBytes sequence' hr'] at hin
    exact (Option.some.inj hin).symm
  subst hroute
  -- a withdrawal has the route of an addition without a gateway, but it does not look like a report
  have heq : q.route? = q'.route? := hr.trans hr'.symm
  cases q with
  | add dst gateway =>
    cases q' with
    | add dst' gateway' =>
      simp only [route?, Option.some.injEq, Route.mk.injEq, true_and] at heq
      rw [heq.1, heq.2]
    | del => cases hpayload
    | dump => cases hr'
  | del dst =>
    cases q' with
    | add => cases hpayload
    | del dst' =>
      simp only [route?, Option.some.injEq, Route.mk.injEq, true_and, and_true] at heq
      rw [heq]
    | dump => cases hr'
  | dump => cases hr

end RouteRequest

namespace NetlinkClient

/-- An addition and a withdrawal each send one message, as long as its header says. Its body, read like a report, is the
route that is added, or the route without a gateway to what is withdrawn. Whoever sends them, and with whatever numbers,
different changes are different bytes. -/
theorem change_says_route :
    (∀ (c : NetlinkClient) (dst : Xid) (gateway : Option Xid), ∃ bytes,
      (c.add dst gateway).2.socket.sent = c.socket.sent ++ [bytes] ∧ IsMessage c.sequence bytes ∧
        routeIn? bytes = some ⟨.main, dst, gateway⟩) ∧
    (∀ (c : NetlinkClient) (dst : Xid), ∃ bytes,
      (c.del dst).2.socket.sent = c.socket.sent ++ [bytes] ∧ IsMessage c.sequence bytes ∧
        routeIn? bytes = some ⟨.main, dst, none⟩) ∧
    ∀ (c c' : NetlinkClient) (q q' : RouteRequest) (bytes : List UInt8), q.route?.isSome → q'.route?.isSome →
      (c.call q).2.socket.sent = c.socket.sent ++ [bytes] → (c'.call q').2.socket.sent = c'.socket.sent ++ [bytes] →
        q = q' := by
  refine ⟨fun c dst gateway => ?_, fun c dst => ?_, fun c c' q q' bytes hq hq' hs hs' => ?_⟩
  · exact ⟨_, c.call_sent (.add dst gateway), RouteRequest.toBytes_isMessage _ _, RouteRequest.routeIn?_toBytes _ rfl⟩
  · exact ⟨_, c.call_sent (.del dst), RouteRequest.toBytes_isMessage _ _, RouteRequest.routeIn?_toBytes _ rfl⟩
  · rw [call_sent, List.append_cancel_left_eq, List.singleton_inj] at hs hs'
    exact RouteRequest.eq_of_toBytes hq hq' (hs.trans hs'.symm)

/-- A route through another host, asked for by a new client and, spelled out, by one that has replies to read. -/
theorem change_says_route_of_far : ∃ bytes,
    (add {} farRoute.dst farRoute.gateway).2.socket.sent = [bytes] ∧ IsMessage 1 bytes ∧
      routeIn? bytes = some farRoute ∧
      ((receiving {} reports).call (.add ⟨⟨16⟩, .replicate 2⟩ (some ⟨⟨18⟩, .replicate 3⟩))).2.socket.sent = [bytes] ∧
      RouteRequest.add farRoute.dst farRoute.gateway = .add ⟨⟨16⟩, .replicate 2⟩ (some ⟨⟨18⟩, .replicate 3⟩) := by
  obtain ⟨hadd, -, hsame⟩ := change_says_route
  obtain ⟨bytes, hs, hm, hr⟩ := hadd {} farRoute.dst farRoute.gateway
  have hs' : ((receiving {} reports).call (.add ⟨⟨16⟩, .replicate 2⟩ (some ⟨⟨18⟩, .replicate 3⟩))).2.socket.sent =
      [bytes] := (call_sent _ _).trans ((call_sent {} (.add farRoute.dst farRoute.gateway)).symm.trans hs)
  exact ⟨bytes, hs, hm, hr, hs', hsame {} (receiving {} reports) _ _ bytes rfl rfl hs hs'⟩

end NetlinkClient

end Neighborhood
