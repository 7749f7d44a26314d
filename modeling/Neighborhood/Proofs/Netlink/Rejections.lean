import Neighborhood.Proofs.Netlink.Receiver

/-!
# Rejections by the kernel

The kernel ends the answer to a request with a message that reports a code, negative for a failure. Of the two types of
messages that do, a client looks at the code of one only, and it takes the word that something is there already for a
success of whatever it has asked.

* `verdictOn_of_first`, `NetlinkClient.call_of_first` — the first message that ends a request gives the answer to it
* `answerOfCode_eq` — the codes that are successes
* `Surfaces` — a rejection comes back as an error
* `NetlinkClient.surfaces_iff` — rejections surface but for two kinds that are overlooked
-/

namespace Neighborhood

namespace Netlink

variable {sequence : UInt32}

/-! ## The message that gives the answer -/

theorem Message.reply?_of_ends {m : Message} (h : m.Ends sequence) (replies : List Reply)
    (routes : List RouteMessage) :
    ∃ reply, m.reply? sequence = some reply ∧
      verdictOn (reply :: replies) routes = .decided (m.payload.answer routes) := by
  rw [Message.reply?, if_pos h.1]
  obtain ⟨status, hp⟩ | ⟨code, hp⟩ := h.payload_eq
  · rw [hp]
    exact ⟨_, rfl, rfl⟩
  · rw [hp]
    exact ⟨_, rfl, rfl⟩

theorem Message.reply?_of_not_ends {m : Message} (h : ¬ m.Ends sequence) :
    m.reply? sequence = (m.route? sequence).map .route := by
  rw [Message.reply?, Message.route?]
  by_cases hs : m.sequence = sequence
  · rw [if_pos hs, if_pos hs]
    obtain ⟨route, hp⟩ | hp := Message.payload_eq_of_not_ends h hs
    · simp only [hp, Option.map_some]
    · simp only [hp, Option.map_none]
  · rw [if_neg hs, if_neg hs]
    rfl

/-- The first message that ends a request decides it, with the routes of the messages before. -/
theorem verdictOn_of_first {last : Message} (hl : last.Ends sequence) (after : List Message) :
    ∀ {before : List Message} (routes : List RouteMessage), (∀ m ∈ before, ¬ m.Ends sequence) →
      verdictOn ((before ++ last :: after).filterMap (Message.reply? sequence)) routes =
        .decided (last.payload.answer (routes ++ before.filterMap (Message.route? sequence)))
  | [], routes, _ => by
    obtain ⟨reply, hr, hv⟩ := Message.reply?_of_ends hl (after.filterMap (Message.reply? sequence)) routes
    rw [List.nil_append, List.filterMap_cons_some hr, hv, List.filterMap_nil, List.append_nil]
  | m :: before, routes, hb => by
    have hm := Message.reply?_of_not_ends (hb m List.mem_cons_self)
    have hb' := fun m' hm' => hb m' (List.mem_cons_of_mem m hm')
    rw [List.cons_append]
    cases hroute : m.route? sequence with
    | none =>
      rw [hroute] at hm
      rw [List.filterMap_cons_none hm, List.filterMap_cons_none hroute]
      exact verdictOn_of_first hl after routes hb'
    | some route =>
      rw [hroute] at hm
      rw [List.filterMap_cons_some hm, List.filterMap_cons_some hroute, verdictOn, verdictOn_of_first hl after _ hb',
        List.append_assoc]
      rfl

/-! ## Codes that are successes -/

theorem neg_toInt_eq_iff {code : Int32} : (-code).toInt = 17 ↔ code = -17 := by
  rw [show (17 : Int) = (17 : Int32).toInt from rfl, Int32.toInt_inj]
  constructor
  · intro h
    rw [← h, Int32.neg_neg]
  · rintro rfl
    rfl

/-- An error message is a success if there is no error, or if something is there already. -/
theorem answerOfCode_eq (code : Int32) (routes : List RouteMessage) : answerOfCode code routes =
    if code = 0 ∨ code = -17 then .ok routes else .error (.route (Errno.mk (-code).toInt).message) := by
  have herrno : (⟨(-code).toInt⟩ : Errno) = Errno.alreadyExists ↔ code = -17 := by
    rw [← neg_toInt_eq_iff, Errno.alreadyExists, Errno.mk.injEq]
  simp only [answerOfCode, herrno]

/-- A message that ends a request makes it fail only if it is an error message, and no success. -/
theorem Payload.answer_eq_error_iff (p : Payload) (routes : List RouteMessage) :
    (∃ e, p.answer routes = .error e) ↔ ∃ code, p = .error code ∧ code ≠ 0 ∧ code ≠ -17 := by
  cases p with
  | error code =>
    rw [Payload.answer, answerOfCode_eq]
    by_cases h : code = 0 ∨ code = -17
    · rw [if_pos h]
      constructor
      · rintro ⟨e, he⟩
        cases he
      · rintro ⟨code', hcode, h0, h17⟩
        cases hcode
        exact absurd h (not_or.2 ⟨h0, h17⟩)
    · rw [if_neg h]
      exact ⟨fun _ => ⟨code, rfl, not_or.1 h⟩, fun _ => ⟨_, rfl⟩⟩
  | done | newRoute | other => simp [Payload.answer]

theorem Payload.answer_eq_ok {p : Payload} (h : ∀ code, p = .error code → code = 0 ∨ code = -17)
    (routes : List RouteMessage) : p.answer routes = .ok routes := by
  cases p with
  | error code => rw [Payload.answer, answerOfCode_eq, if_pos (h code rfl)]
  | done | newRoute | other => rfl

/-! ## Rejections that surface -/

/-- The rejection says that the route that was to be added is there already, which is a success. -/
inductive Tolerates : RouteRequest → Payload → Prop
  | present (dst : Xid) (gateway : Option Xid) : Tolerates (.add dst gateway) (.error (-17))

/-- The result of a request does justice to the message that ends it: if the message reports a code other than zero, the
result is an error, unless the rejection is a success. -/
def Surfaces (q : RouteRequest) (last : Payload) (result : Except Error (List Route)) : Prop :=
  ∀ code, last.code? = some code → code ≠ 0 → ¬ Tolerates q last → ∃ e, result = .error e

/-- Rejections that are taken for successes: the end of an answer that reports a failure, and the word that something is
there already if it answers no addition. -/
inductive Overlooks (q : RouteRequest) : Payload → Prop
  | unfinished {status : Int32} : status ≠ 0 → Overlooks q (.done status)
  | present : (∀ dst gateway, q ≠ .add dst gateway) → Overlooks q (.error (-17))

theorem tolerates_iff {q : RouteRequest} {p : Payload} :
    Tolerates q p ↔ p = .error (-17) ∧ ∃ dst gateway, q = .add dst gateway := by
  constructor
  · rintro ⟨dst, gateway⟩
    exact ⟨rfl, dst, gateway, rfl⟩
  · rintro ⟨rfl, dst, gateway, rfl⟩
    exact .present dst gateway

theorem overlooks_iff {q : RouteRequest} {p : Payload} : Overlooks q p ↔
    (∃ status, p = .done status ∧ status ≠ 0) ∨ p = .error (-17) ∧ ∀ dst gateway, q ≠ .add dst gateway := by
  constructor
  · rintro (h | h)
    · exact .inl ⟨_, rfl, h⟩
    · exact .inr ⟨rfl, h⟩
  · rintro (⟨status, rfl, h⟩ | ⟨rfl, h⟩)
    · exact .unfinished h
    · exact .present h

/-- What surfaces is what is not overlooked, if calls fail for error messages only. -/
theorem surfaces_iff_not_overlooks {q : RouteRequest} {p : Payload} {result : Except Error (List Route)}
    (h : (∃ e, result = .error e) ↔ ∃ code, p = .error code ∧ code ≠ 0 ∧ code ≠ -17) :
    Surfaces q p result ↔ ¬ Overlooks q p := by
  rw [Surfaces, h, tolerates_iff, overlooks_iff]
  cases p with
  | done status => simp [Payload.code?]
  | error code =>
    have hcode : (-17 : Int32) ≠ 0 := by decide
    by_cases hc : code = -17
    · simp [Payload.code?, hc, hcode]
    · simp [Payload.code?, hc]
  | newRoute | other => simp [Payload.code?]

end Netlink

open Netlink

namespace NetlinkClient

variable (c : NetlinkClient) (q : RouteRequest) {s rest : List Incoming} {before after : List Message} {last : Message}

/-- The first message that ends a request gives the result of the call. -/
theorem call_of_first (hsend : c.socket.sendFailure = none) (hin : c.socket.incoming = s ++ rest)
    (hc : Carries c.deserializer s (before ++ last :: after)) (hb : ∀ m ∈ before, ¬ m.Ends c.sequence)
    (hl : last.Ends c.sequence) :
    (c.call q).1 = (last.payload.answer (before.filterMap (Message.route? c.sequence))).map q.select := by
  have hv := verdictOn_of_first hl after [] hb
  rw [(c.call_of_sends q hsend).1, hin, hc.readReplies_of_decided rest hv, List.nil_append]

/-- A rejection surfaces unless it is one of those that are overlooked. Only an error message makes a call fail, and only
with a code that is neither zero nor says that something is there already; every other end is a success with the routes
that have come before it, whether these are all or not. -/
theorem surfaces_iff (hsend : c.socket.sendFailure = none) (hin : c.socket.incoming = s ++ rest)
    (hc : Carries c.deserializer s (before ++ last :: after)) (hb : ∀ m ∈ before, ¬ m.Ends c.sequence)
    (hl : last.Ends c.sequence) :
    (Surfaces q last.payload (c.call q).1 ↔ ¬ Overlooks q last.payload) ∧
    ((∃ e, (c.call q).1 = .error e) ↔ ∃ code, last.payload = .error code ∧ code ≠ 0 ∧ code ≠ -17) ∧
    ((∀ code, last.payload = .error code → code = 0 ∨ code = -17) →
      (c.call q).1 = .ok (q.select (before.filterMap (Message.route? c.sequence)))) := by
  have hcall := c.call_of_first q hsend hin hc hb hl
  have herror : (∃ e, (c.call q).1 = .error e) ↔ ∃ code, last.payload = .error code ∧ code ≠ 0 ∧ code ≠ -17 := by
    rw [hcall, ← last.payload.answer_eq_error_iff (before.filterMap (Message.route? c.sequence))]
    cases last.payload.answer _ <;> simp [Except.map]
  refine ⟨surfaces_iff_not_overlooks herror, herror, fun h => ?_⟩
  rw [hcall, Payload.answer_eq_ok h]
  rfl

/-- Another call's success, and a refusal of this one. -/
def denied : List Incoming :=
  [.datagram (outcome 9 0 ++ outcome 1 (-13))]

theorem surfaces_of_denied :
    Surfaces (.del default) (.error (-13)) ((receiving {} denied).call (.del default)).1 ∧
    ∃ e, ((receiving {} denied).call (.del default)).1 = .error e := by
  have hc : Carries Message.deserializer denied ([⟨20, 9, .error 0⟩, ⟨20, 1, .error (-13)⟩] ++ []) :=
    .cons (by decide) (.cons (by decide) (.cons (by decide) .nil)) .nil
  obtain ⟨hs, he, -⟩ := surfaces_iff (receiving {} denied) (.del default) rfl (List.append_nil denied).symm
    (show Carries Message.deserializer denied ([⟨20, 9, .error 0⟩] ++ ⟨20, 1, .error (-13)⟩ :: []) from hc) (by decide)
    (by decide)
  refine ⟨hs.2 fun ho => ?_, he.2 ⟨-13, rfl, by decide, by decide⟩⟩
  cases ho

/-- One route of a dump, and word that there is no memory for the others. -/
def unfinished : List Incoming :=
  [.datagram (Message.frame newRouteType 2 1 farReport.toBytes ++ Message.frame doneType 2 1 (bytesLE (-12)))]

/-- A dump that the kernel breaks off is a success with the routes so far, and so is a withdrawal that is refused because
something is there already. -/
theorem not_surfaces_of_unfinished :
    Carries Message.deserializer unfinished [⟨100, 1, .newRoute farReport⟩, ⟨20, 1, .done (-12)⟩] ∧
    ((receiving {} unfinished).call (.dump .main {})).1 = .ok [farRoute] ∧
    ¬ Surfaces (.dump .main {}) (.done (-12)) ((receiving {} unfinished).call (.dump .main {})).1 ∧
    Carries Message.deserializer [.datagram (outcome 1 (-17))] [⟨20, 1, .error (-17)⟩] ∧
    ¬ Surfaces (.del default) (.error (-17))
      ((receiving {} [.datagram (outcome 1 (-17))]).call (.del default)).1 := by
  have hdump : ((receiving {} unfinished).call (.dump .main {})).1 = .ok [farRoute] := by decide +kernel
  have hdel : ((receiving {} [.datagram (outcome 1 (-17))]).call (.del default)).1 = .ok [] := by decide +kernel
  have hroute : Carries Message.deserializer unfinished ([⟨100, 1, .newRoute farReport⟩, ⟨20, 1, .done (-12)⟩] ++ []) :=
    .cons (by decide) (.cons (by decide +kernel) (.cons (by decide +kernel) .nil)) .nil
  have hthere : Carries Message.deserializer [.datagram (outcome 1 (-17))] ([⟨20, 1, .error (-17)⟩] ++ []) :=
    .cons (by decide) (.cons (by decide) .nil) .nil
  refine ⟨hroute, hdump, fun hs => ?_, hthere, fun hs => ?_⟩
  · obtain ⟨e, he⟩ := hs (-12) rfl (by decide) fun ht => by cases ht
    cases hdump.symm.trans he
  · obtain ⟨e, he⟩ := hs (-17) rfl (by decide) fun ht => by cases ht
    cases hdel.symm.trans he

end NetlinkClient

end Neighborhood
