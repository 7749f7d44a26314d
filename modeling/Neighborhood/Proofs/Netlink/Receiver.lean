import Neighborhood.Proofs.Netlink.Requests

/-!
# The loop that receives replies

A client receives a datagram into a buffer and walks through it by an offset, which each message moves on. The walk is
written here one step at a time, with the two ways in which it could go wrong as endings of their own: a slice that is out
of range, and a message without length that would be read for ever. Whatever way of reading messages is used, as long as
it minds the length in the header, neither happens, and the loop ends with the first thing in the stream that decides.

* `Deserializer.stream` — what a stream shows from its front: messages, failures, and bytes that are no message
* `Receiver.step`, `Receiver.Finishes`, `Receiver.Reaches` — the loop
* `Receiver.Does` — what a step can do, from which the rest follows: `Receiver.Tidy.secure`, `Receiver.exists_finishes`,
  `Receiver.Finishes.reading_eq`
* `exists_readReplies_eq` — what is read is the answer of the first event that decides
* `NetlinkClient.decided_by_first` — each call ends with the first event of its stream that decides
-/

namespace Neighborhood

namespace Netlink

/-! ## Messages that end a request -/

/-- The code with which a message ends a request, if it is of a type that does. -/
def Payload.code? : Payload → Option Int32
  | done status => some status
  | error code => some code
  | newRoute _ | other => none

/-- The answer with which a message ends a request, routes collected before at hand. -/
def Payload.answer : Payload → List RouteMessage → Answer
  | error code, routes => answerOfCode code routes
  | done _, routes | newRoute _, routes | other, routes => .ok routes

/-- The message ends the request with this number. -/
def Message.Ends (sequence : UInt32) (m : Message) : Prop :=
  m.sequence = sequence ∧ m.payload.code?.isSome

instance (sequence : UInt32) (m : Message) : Decidable (m.Ends sequence) :=
  inferInstanceAs (Decidable (_ ∧ _))

theorem Message.Ends.payload_eq {sequence : UInt32} {m : Message} (h : m.Ends sequence) :
    (∃ status, m.payload = .done status) ∨ ∃ code, m.payload = .error code := by
  obtain ⟨-, hc⟩ := h
  cases hp : m.payload with
  | done status => exact .inl ⟨status, rfl⟩
  | error code => exact .inr ⟨code, rfl⟩
  | newRoute | other =>
    rw [hp] at hc
    cases hc

theorem Message.payload_eq_of_not_ends {sequence : UInt32} {m : Message} (h : ¬ m.Ends sequence)
    (hs : m.sequence = sequence) : (∃ route, m.payload = .newRoute route) ∨ m.payload = .other := by
  cases hp : m.payload with
  | done | error => exact absurd ⟨hs, by rw [hp]; rfl⟩ h
  | newRoute route => exact .inl ⟨route, rfl⟩
  | other => exact .inr rfl

/-- The route that a message adds to the answer of the request with this number. -/
def Message.route? (sequence : UInt32) (m : Message) : Option RouteMessage :=
  if m.sequence = sequence then
    match m.payload with
    | .newRoute route => some route
    | _ => none
  else none

/-! ## Streams and what they show -/

/-- What a reader comes upon. -/
inductive Event where
  | message (m : Message)
  | unreadable
  | failure (errno : Errno)

namespace Event

/-- The event decides the request with this number. Only messages may bear another number; what cannot be read and what
cannot be received decide whatever request waits. -/
def Decides (sequence : UInt32) : Event → Prop
  | message m => m.Ends sequence
  | unreadable | failure _ => True

def route? (sequence : UInt32) : Event → Option RouteMessage
  | message m => m.route? sequence
  | unreadable | failure _ => none

/-- The answer to a request that is decided so. -/
def answer (routes : List RouteMessage) : Event → Answer
  | message m => m.payload.answer routes
  | unreadable => .error (.netlink "Failed to parse message")
  | failure errno => .error (.netlink ("Failed to receive: " ++ errno.message))

end Event

namespace Deserializer

variable (d : Deserializer)

/-- The messages in a datagram, each behind the padding of the one before, up to the end or to bytes that are no
message. -/
def events (bytes : List UInt8) : List Event :=
  match bytes with
  | [] => []
  | b :: bs =>
    match _h : d.read (b :: bs) with
    | none => [.unreadable]
    | some m => .message m :: events ((b :: bs).drop (aligned m.length))
termination_by bytes.length
decreasing_by
  have := (d.length_of_read _h).1
  have := le_aligned m.length
  simp only [Message.headerLength] at *
  simp only [List.length_drop, List.length_cons]
  omega

/-- What a stream shows, in order, each event with what is still unread behind its datagram. A stream that has ended
fails. -/
def stream : List Incoming → List (Event × List Incoming)
  | [] => [(.failure Errno.wouldBlock, [])]
  | .failure errno :: rest => (.failure errno, rest) :: stream rest
  | .datagram bytes :: rest => (d.events (bytes.take bufferSize)).map (·, rest) ++ stream rest

variable {d} {bytes : List UInt8}

theorem events_of_unreadable (hb : bytes ≠ []) (h : d.read bytes = none) : d.events bytes = [.unreadable] := by
  cases bytes with
  | nil => exact absurd rfl hb
  | cons b bs =>
    rw [events]
    split
    · rfl
    · rename_i m hm
      cases h.symm.trans hm

theorem events_of_message {m : Message} (hb : bytes ≠ []) (h : d.read bytes = some m) :
    d.events bytes = .message m :: d.events (bytes.drop (aligned m.length)) := by
  cases bytes with
  | nil => exact absurd rfl hb
  | cons b bs =>
    rw [events]
    split
    · rename_i hn
      cases hn.symm.trans h
    · rename_i m' hm'
      cases hm'.symm.trans h
      rfl

end Deserializer

/-- The routes that events add to the answer of a request. -/
def routesIn (sequence : UInt32) (es : List (Event × List Incoming)) : List RouteMessage :=
  es.filterMap fun x => x.1.route? sequence

/-- The first event that decides a request, with the events before it and what is unread behind its datagram. -/
structure FirstDecision (sequence : UInt32) (es before : List (Event × List Incoming)) (event : Event)
    (unread : List Incoming) : Prop where
  split : ∃ after, es = before ++ (event, unread) :: after
  undecided : ∀ x ∈ before, ¬ x.1.Decides sequence
  decides : event.Decides sequence

namespace FirstDecision

variable {sequence : UInt32} {es before : List (Event × List Incoming)} {event : Event} {unread : List Incoming}

theorem here (h : event.Decides sequence) (after : List (Event × List Incoming)) :
    FirstDecision sequence ((event, unread) :: after) [] event unread :=
  ⟨⟨after, rfl⟩, List.forall_mem_nil _, h⟩

theorem behind {x : Event × List Incoming} (hx : ¬ x.1.Decides sequence)
    (h : FirstDecision sequence es before event unread) :
    FirstDecision sequence (x :: es) (x :: before) event unread := by
  obtain ⟨after, rfl⟩ := h.split
  exact ⟨⟨after, rfl⟩, List.forall_mem_cons.2 ⟨hx, h.undecided⟩, h.decides⟩

end FirstDecision

/-! ## The loop -/

/-- How the loop ends. -/
inductive Ending where
  | answered (answer : Answer)
  /-- A message without length, behind which the loop would never get. -/
  | lengthless
  /-- A slice of bytes that are not there, for which there is no answer. -/
  | outOfRange

def Ending.answer? : Ending → Option Answer
  | answered answer => some answer
  | lengthless => some (.error (.netlink "zero-length netlink message"))
  | outOfRange => none

/-- The state of the loop. -/
structure Receiver where
  buffer : List UInt8 := []
  /-- How many bytes the last receive put into the buffer. -/
  received : Nat := 0
  /-- Where in the buffer the next message starts. -/
  offset : Nat := 0
  routes : List RouteMessage := []
  incoming : List Incoming

inductive Move where
  | goOn (r : Receiver)
  /-- The end, and what has not been received. -/
  | stop (ending : Ending) (unread : List Incoming)

/-- The bytes between two places, if there are that many. -/
def slice? (bytes : List UInt8) (i j : Nat) : Option (List UInt8) :=
  if i ≤ j ∧ j ≤ bytes.length then some ((bytes.take j).drop i) else none

namespace Receiver

/-- Nothing has been received yet. -/
def start (s : List Incoming) : Receiver := { incoming := s }

/-- A datagram in the buffer, as far as there is room. -/
def refill (r : Receiver) (bytes : List UInt8) (rest : List Incoming) : Receiver :=
  { r with
    buffer := bytes.take bufferSize
    received := (bytes.take bufferSize).length
    offset := 0
    incoming := rest }

/-- Behind a message at the offset. -/
def pass (sequence : UInt32) (r : Receiver) (m : Message) : Receiver :=
  { r with
    offset := r.offset + aligned m.length
    routes := r.routes ++ (m.route? sequence).toList }

/-- What is made of a message at the offset. -/
def heed (sequence : UInt32) (r : Receiver) (m : Message) : Move :=
  let behind := { r with offset := r.offset + aligned m.length }
  if m.sequence ≠ sequence then .goOn behind
  else
    match m.payload with
    | .done _ => .stop (.answered (.ok r.routes)) r.incoming
    | .error code => .stop (.answered (answerOfCode code r.routes)) r.incoming
    | .newRoute route => .goOn { behind with routes := r.routes ++ [route] }
    | .other => .goOn behind

/-- One message, or one receive when the buffer has been read. -/
def step (read : List UInt8 → Option Message) (sequence : UInt32) (r : Receiver) : Move :=
  if r.offset < r.received then
    match slice? r.buffer r.offset r.received with
    | none => .stop .outOfRange r.incoming
    | some bytes =>
      match read bytes with
      | none => .stop (.answered (.error (.netlink "Failed to parse message"))) r.incoming
      | some m => if m.length = 0 then .stop .lengthless r.incoming else r.heed sequence m
  else
    match r.incoming with
    | [] => .stop (.answered (.error (.netlink ("Failed to receive: " ++ Errno.wouldBlock.message)))) []
    | .failure errno :: rest =>
      .stop (.answered (.error (.netlink ("Failed to receive: " ++ errno.message)))) rest
    | .datagram bytes :: rest => .goOn (r.refill bytes rest)

variable (read : List UInt8 → Option Message) (sequence : UInt32)

/-- The loop ends after so many steps. -/
inductive Finishes : Nat → Receiver → Ending → List Incoming → Prop
  | stop {r : Receiver} {e : Ending} {unread : List Incoming} : r.step read sequence = .stop e unread →
      Finishes 1 r e unread
  | goOn {n : Nat} {r r' : Receiver} {e : Ending} {unread : List Incoming} : r.step read sequence = .goOn r' →
      Finishes n r' e unread → Finishes (n + 1) r e unread

/-- The states that the loop comes through. -/
inductive Reaches (r₀ : Receiver) : Receiver → Prop
  | refl : Reaches r₀ r₀
  | goOn {r r' : Receiver} : Reaches r₀ r → r.step read sequence = .goOn r' → Reaches r₀ r'

/-- Nothing goes wrong in a state: a slice is of bytes that are there, one at least; neither bad ending is next; a step in
the buffer moves on by a header at least and leaves the rest alone, and any other step receives one datagram. -/
structure Secure (r : Receiver) : Prop where
  slice : r.offset < r.received →
    ∃ bytes, slice? r.buffer r.offset r.received = some bytes ∧ bytes.length = r.received - r.offset
  stops : ∀ e unread, r.step read sequence = .stop e unread → e ≠ .outOfRange ∧ e ≠ .lengthless
  advances : ∀ r', r.step read sequence = .goOn r' → r.offset < r.received →
    r.offset + Message.headerLength ≤ r'.offset ∧ r'.buffer = r.buffer ∧ r'.received = r.received ∧
      r'.incoming = r.incoming
  receives : ∀ r', r.step read sequence = .goOn r' → r.received ≤ r.offset →
    ∃ bytes, r.incoming = .datagram bytes :: r'.incoming ∧ r'.offset = 0

/-! ## What a step can do -/

/-- The count of the last receive is right. -/
def Tidy (r : Receiver) : Prop := r.received = r.buffer.length

theorem start_tidy (s : List Incoming) : (start s).Tidy := rfl

/-- All that a step does, in a state where the count is right. -/
inductive Does (r : Receiver) : Move → Prop
  | receive {bytes : List UInt8} {rest : List Incoming} : r.received ≤ r.offset →
      r.incoming = .datagram bytes :: rest → Does r (.goOn (r.refill bytes rest))
  | fail {errno : Errno} : r.received ≤ r.offset → exhausted? r.incoming = some errno →
      Does r (.stop (.answered ((Event.failure errno).answer r.routes)) r.incoming.tail)
  | garble : r.offset < r.received → read (r.buffer.drop r.offset) = none →
      Does r (.stop (.answered (Event.unreadable.answer r.routes)) r.incoming)
  | finish {m : Message} : r.offset < r.received → read (r.buffer.drop r.offset) = some m → m.Ends sequence →
      Does r (.stop (.answered (m.payload.answer r.routes)) r.incoming)
  | pass {m : Message} : r.offset < r.received → read (r.buffer.drop r.offset) = some m → ¬ m.Ends sequence →
      Does r (.goOn (r.pass sequence m))

variable {read sequence} {r r' : Receiver} {e : Ending} {unread : List Incoming}

theorem Tidy.slice?_eq (hr : r.Tidy) (hlt : r.offset < r.received) :
    slice? r.buffer r.offset r.received = some (r.buffer.drop r.offset) := by
  rw [slice?, if_pos ⟨Nat.le_of_lt hlt, Nat.le_of_eq hr⟩, List.take_of_length_le (Nat.le_of_eq hr.symm)]

theorem heed_of_ends {m : Message} (h : m.Ends sequence) :
    r.heed sequence m = .stop (.answered (m.payload.answer r.routes)) r.incoming := by
  rw [heed, if_neg (not_not_intro h.1)]
  obtain ⟨status, hp⟩ | ⟨code, hp⟩ := h.payload_eq
  · simp only [hp, Payload.answer]
  · simp only [hp, Payload.answer]

theorem heed_of_not_ends {m : Message} (h : ¬ m.Ends sequence) : r.heed sequence m = .goOn (r.pass sequence m) := by
  by_cases hs : m.sequence = sequence
  · rw [heed, if_neg (not_not_intro hs), Receiver.pass, Message.route?, if_pos hs]
    obtain ⟨route, hp⟩ | hp := Message.payload_eq_of_not_ends h hs
    · simp only [hp, Option.toList_some]
    · simp only [hp, Option.toList_none, List.append_nil]
  · rw [heed, if_pos hs, Receiver.pass, Message.route?, if_neg hs]
    simp

theorem step_does (d : Deserializer) (sequence : UInt32) (hr : r.Tidy) :
    r.Does d.read sequence (r.step d.read sequence) := by
  unfold step
  split
  · rename_i hlt
    cases hm : d.read (r.buffer.drop r.offset) with
    | none =>
      simp only [hr.slice?_eq hlt, hm]
      exact .garble hlt hm
    | some m =>
      have hlen : m.length ≠ 0 := by
        have := (d.length_of_read hm).1
        rw [Message.headerLength] at this
        omega
      simp only [hr.slice?_eq hlt, hm, if_neg hlen]
      by_cases he : m.Ends sequence
      · rw [heed_of_ends he]
        exact .finish hlt hm he
      · rw [heed_of_not_ends he]
        exact .pass hlt hm he
  · rename_i hge
    have hle := Nat.le_of_not_lt hge
    have hfail : ∀ errno, exhausted? r.incoming = some errno →
        r.Does d.read sequence (.stop (.answered ((Event.failure errno).answer r.routes)) r.incoming.tail) :=
      fun errno hx => .fail hle hx
    cases hi : r.incoming with
    | nil =>
      rw [hi] at hfail
      exact hfail Errno.wouldBlock rfl
    | cons x rest =>
      rw [hi] at hfail
      cases x with
      | datagram bytes => exact .receive hle hi
      | failure errno => exact hfail errno rfl

/-! ## Nothing goes wrong -/

theorem Tidy.goOn (d : Deserializer) (hr : r.Tidy) (hs : r.step d.read sequence = .goOn r') : r'.Tidy := by
  have hdoes := step_does d sequence hr
  rw [hs] at hdoes
  cases hdoes with
  | receive => rfl
  | pass => exact hr

theorem Reaches.tidy {d : Deserializer} {r₀ : Receiver} (h₀ : r₀.Tidy) (h : Reaches d.read sequence r₀ r) : r.Tidy := by
  induction h with
  | refl => exact h₀
  | goOn _ hs ih => exact ih.goOn d hs

theorem Tidy.secure {d : Deserializer} (hr : r.Tidy) : r.Secure d.read sequence where
  slice hlt := ⟨_, hr.slice?_eq hlt, by rw [List.length_drop, hr]⟩
  stops e unread hs := by
    have hdoes := step_does d sequence hr
    rw [hs] at hdoes
    cases hdoes <;> exact ⟨Ending.noConfusion, Ending.noConfusion⟩
  advances r' hs hlt := by
    have hdoes := step_does d sequence hr
    rw [hs] at hdoes
    cases hdoes with
    | receive hle => exact absurd hlt (Nat.not_lt_of_le hle)
    | @pass m _ hm =>
      have hlen := (d.length_of_read hm).1
      exact ⟨Nat.add_le_add_left (Nat.le_trans hlen (le_aligned _)) _, rfl, rfl, rfl⟩
  receives r' hs hle := by
    have hdoes := step_does d sequence hr
    rw [hs] at hdoes
    cases hdoes with
    | receive _ hi => exact ⟨_, hi, rfl⟩
    | pass hlt => exact absurd hlt (Nat.not_lt_of_le hle)

/-! ## The end of the loop -/

/-- A bound for the steps that a stream takes: one for each receive, and one for every sixteen bytes begun. -/
def load : List Incoming → Nat
  | [] | .failure _ :: _ => 1
  | .datagram bytes :: rest => 1 + ((bytes.take bufferSize).length + 15) / 16 + load rest

/-- A bound for the steps that are left. -/
def left (r : Receiver) : Nat :=
  (r.received - r.offset + 15) / 16 + load r.incoming

theorem load_pos : ∀ s : List Incoming, 0 < load s
  | [] | .failure _ :: _ => Nat.one_pos
  | .datagram _ :: _ => by
    rw [load]
    omega

theorem left_lt {d : Deserializer} (hr : r.Tidy) (hs : r.step d.read sequence = .goOn r') : r'.left < r.left := by
  have hdoes := step_does d sequence hr
  rw [hs] at hdoes
  cases hdoes with
  | receive hle hi =>
    simp only [left, refill, hi, load]
    omega
  | @pass m hlt hm =>
    have hlen := Nat.le_trans (d.length_of_read hm).1 (le_aligned _)
    simp only [left, Receiver.pass, Message.headerLength] at hlen ⊢
    omega

/-- What the loop still comes upon. -/
def ahead (d : Deserializer) (r : Receiver) : List (Event × List Incoming) :=
  (d.events (r.buffer.drop r.offset)).map (·, r.incoming) ++ d.stream r.incoming

theorem ahead_start (d : Deserializer) (s : List Incoming) : (start s).ahead d = d.stream s := by
  simp [ahead, start, Deserializer.events]

theorem left_start (s : List Incoming) : (start s).left = load s := by
  simp only [left, start]
  omega

theorem Tidy.drop_ne_nil (hr : r.Tidy) (hlt : r.offset < r.received) : r.buffer.drop r.offset ≠ [] := by
  rw [Ne, List.drop_eq_nil_iff, ← hr]
  omega

theorem Tidy.ahead_eq (d : Deserializer) (hr : r.Tidy) (hle : r.received ≤ r.offset) :
    r.ahead d = d.stream r.incoming := by
  rw [ahead, List.drop_of_length_le (hr ▸ hle), Deserializer.events, List.map_nil, List.nil_append]

theorem ahead_refill (d : Deserializer) (bytes : List UInt8) (rest : List Incoming) :
    (r.refill bytes rest).ahead d = d.stream (.datagram bytes :: rest) := rfl

theorem stream_of_exhausted (d : Deserializer) {s : List Incoming} {errno : Errno} (h : exhausted? s = some errno) :
    ∃ after, d.stream s = (.failure errno, s.tail) :: after := by
  unfold exhausted? at h
  split at h <;> cases h
  · exact ⟨_, rfl⟩
  · exact ⟨_, rfl⟩

theorem ahead_of_message (sequence : UInt32) {d : Deserializer} {m : Message} (hr : r.Tidy) (hlt : r.offset < r.received)
    (hm : d.read (r.buffer.drop r.offset) = some m) :
    r.ahead d = (.message m, r.incoming) :: (r.pass sequence m).ahead d := by
  rw [ahead, Deserializer.events_of_message (hr.drop_ne_nil hlt) hm, List.drop_drop]
  rfl

theorem routesIn_cons (x : Event × List Incoming) (es : List (Event × List Incoming)) :
    routesIn sequence (x :: es) = (x.1.route? sequence).toList ++ routesIn sequence es := by
  rw [routesIn, List.filterMap_cons]
  cases x.1.route? sequence <;> rfl

/-- The loop ends with the first event ahead that decides the request. -/
theorem exists_finishes (d : Deserializer) (sequence : UInt32) (hr : r.Tidy) :
    ∃ n ≤ r.left, ∃ before event unread, FirstDecision sequence (r.ahead d) before event unread ∧
      Finishes d.read sequence n r (.answered (event.answer (r.routes ++ routesIn sequence before))) unread := by
  -- on the steps that are left, since a receive sets the offset back
  induction hk : r.left using Nat.strongRecOn generalizing r with
  | ind k ih =>
    subst hk
    have hpos : 1 ≤ r.left := Nat.le_trans (load_pos r.incoming) (Nat.le_add_left _ _)
    have hnone : r.routes ++ routesIn sequence [] = r.routes := List.append_nil _
    have hdoes := step_does d sequence hr
    generalize hs : r.step d.read sequence = move at hdoes
    cases hdoes with
    | @receive bytes rest hle hi =>
      have hlt := left_lt hr hs
      obtain ⟨n, hn, before, event, unread, hfirst, hf⟩ := ih _ hlt (hr.goOn d hs) rfl
      refine ⟨n + 1, by omega, before, event, unread, ?_, .goOn hs hf⟩
      rwa [hr.ahead_eq d hle, hi, ← ahead_refill]
    | @fail errno hle hx =>
      obtain ⟨after, ha⟩ := stream_of_exhausted d hx
      refine ⟨1, hpos, [], .failure errno, _, ?_, .stop hs⟩
      rw [hr.ahead_eq d hle, ha]
      exact .here (by trivial) _
    | garble hlt hm =>
      refine ⟨1, hpos, [], .unreadable, _, ?_, .stop hs⟩
      rw [ahead, Deserializer.events_of_unreadable (hr.drop_ne_nil hlt) hm]
      exact .here (by trivial) _
    | @finish m hlt hm he =>
      refine ⟨1, hpos, [], .message m, r.incoming, ?_, ?_⟩
      · rw [ahead_of_message sequence hr hlt hm]
        exact .here (show Event.Decides sequence (.message m) from he) _
      · rw [hnone]
        exact .stop hs
    | @pass m hlt hm he =>
      have hlt' := left_lt hr hs
      obtain ⟨n, hn, before, event, unread, hfirst, hf⟩ := ih _ hlt' (hr.goOn d hs) rfl
      refine ⟨n + 1, by omega, (.message m, r.incoming) :: before, event, unread, ?_, .goOn hs ?_⟩
      · rw [ahead_of_message sequence hr hlt hm]
        exact hfirst.behind he
      · rw [routesIn_cons, ← List.append_assoc]
        exact hf

/-! ## The loop reads what is read without it -/

/-- What reading without offsets makes of a state: first the rest of the buffer, then what comes in. -/
def reading (d : Deserializer) (sequence : UInt32) (r : Receiver) : Answer × List Incoming :=
  match readDatagram d sequence (r.buffer.drop r.offset) r.routes with
  | .decided answer => (answer, r.incoming)
  | .undecided routes => readReplies d sequence r.incoming routes

end Receiver

theorem readDatagram_of_unreadable {d : Deserializer} {sequence : UInt32} {bytes : List UInt8} (hb : bytes ≠ [])
    (h : d.read bytes = none) (routes : List RouteMessage) :
    readDatagram d sequence bytes routes = .decided (Event.unreadable.answer routes) := by
  cases bytes with
  | nil => exact absurd rfl hb
  | cons b bs =>
    rw [readDatagram]
    split
    · rfl
    · rename_i m hm
      cases h.symm.trans hm

/-- A message ends the reading, or it is read on behind it. -/
theorem readDatagram_of_message {d : Deserializer} {sequence : UInt32} {bytes : List UInt8} {m : Message} (hb : bytes ≠ [])
    (h : d.read bytes = some m) (routes : List RouteMessage) :
    readDatagram d sequence bytes routes =
      if m.Ends sequence then .decided (m.payload.answer routes)
      else readDatagram d sequence (bytes.drop (aligned m.length)) (routes ++ (m.route? sequence).toList) := by
  cases bytes with
  | nil => exact absurd rfl hb
  | cons b bs =>
    rw [readDatagram]
    split
    · rename_i hn
      cases hn.symm.trans h
    · rename_i m' hm'
      cases hm'.symm.trans h
      by_cases he : m.Ends sequence
      · rw [if_pos he, if_neg (not_not_intro he.1)]
        obtain ⟨status, hp⟩ | ⟨code, hp⟩ := he.payload_eq
        · simp only [hp, Payload.answer]
        · simp only [hp, Payload.answer]
      · rw [if_neg he, Message.route?]
        by_cases hs : m.sequence = sequence
        · rw [if_neg (not_not_intro hs), if_pos hs]
          obtain ⟨route, hp⟩ | hp := Message.payload_eq_of_not_ends he hs
          · simp only [hp, Option.toList_some]
          · simp only [hp, Option.toList_none, List.append_nil]
        · rw [if_pos hs, if_neg hs, Option.toList_none, List.append_nil]

namespace Receiver

variable {d : Deserializer} {sequence : UInt32} {r r' : Receiver} {e : Ending} {unread : List Incoming}

theorem Tidy.reading_eq (hr : r.Tidy) (hle : r.received ≤ r.offset) :
    r.reading d sequence = readReplies d sequence r.incoming r.routes := by
  rw [reading, List.drop_of_length_le (hr ▸ hle), readDatagram]

/-- Reading on without the loop makes the same of the next state. -/
theorem Tidy.reading_goOn (hr : r.Tidy) (hs : r.step d.read sequence = .goOn r') :
    r'.reading d sequence = r.reading d sequence := by
  have hdoes := step_does d sequence hr
  rw [hs] at hdoes
  cases hdoes with
  | receive hle hi =>
    rw [hr.reading_eq hle, hi, readReplies]
    rfl
  | pass hlt hm he =>
    rw [reading, reading, readDatagram_of_message (hr.drop_ne_nil hlt) hm, if_neg he, List.drop_drop]
    rfl

theorem Tidy.reading_stop (hr : r.Tidy) (hs : r.step d.read sequence = .stop e unread) :
    e.answer? = some (r.reading d sequence).1 ∧ unread = (r.reading d sequence).2 := by
  have hdoes := step_does d sequence hr
  rw [hs] at hdoes
  cases hdoes with
  | fail hle hx =>
    rw [hr.reading_eq hle]
    unfold exhausted? at hx
    split at hx <;> cases hx <;> rename_i hi <;> rw [hi] <;> exact ⟨rfl, rfl⟩
  | garble hlt hm =>
    rw [reading, readDatagram_of_unreadable (hr.drop_ne_nil hlt) hm]
    exact ⟨rfl, rfl⟩
  | finish hlt hm he =>
    rw [reading, readDatagram_of_message (hr.drop_ne_nil hlt) hm, if_pos he]
    exact ⟨rfl, rfl⟩

/-- The loop ends with the answer, and with the same unread, as reading without it. -/
theorem Finishes.reading_eq {n : Nat} (hr : r.Tidy) (h : Finishes d.read sequence n r e unread) :
    e.answer? = some (r.reading d sequence).1 ∧ unread = (r.reading d sequence).2 := by
  induction h with
  | stop hs => exact hr.reading_stop hs
  | goOn hs _ ih =>
    rw [← hr.reading_goOn hs]
    exact ih (hr.goOn d hs)

theorem reading_start (s : List Incoming) : (start s).reading d sequence = readReplies d sequence s [] :=
  (start_tidy s).reading_eq (Nat.le_refl 0)

end Receiver

/-- What is read of a stream is decided by its first event that decides, and the loop ends with it. -/
theorem exists_readReplies_eq (d : Deserializer) (sequence : UInt32) (s : List Incoming) :
    ∃ before event unread, FirstDecision sequence (d.stream s) before event unread ∧
      readReplies d sequence s [] = (event.answer (routesIn sequence before), unread) := by
  have htidy := Receiver.start_tidy s
  obtain ⟨n, -, before, event, unread, hfirst, hf⟩ := Receiver.exists_finishes d sequence htidy
  rw [Receiver.ahead_start] at hfirst
  obtain ⟨ha, hu⟩ := hf.reading_eq htidy
  rw [Receiver.reading_start] at ha
  rw [Receiver.reading_start] at hu
  exact ⟨before, event, unread, hfirst, Prod.ext (Option.some.inj ha).symm hu.symm⟩

end Netlink

open Netlink

namespace NetlinkClient

variable (c : NetlinkClient) (q : RouteRequest)

theorem call_of_sends (hsend : c.socket.sendFailure = none) :
    (c.call q).1 = (readReplies c.deserializer c.sequence c.socket.incoming []).1.map q.select ∧
      (c.call q).2.socket.incoming = (readReplies c.deserializer c.sequence c.socket.incoming []).2 := by
  rw [call_fst, call_snd]
  simp only [transact, hsend, and_self]

theorem call_of_sendFailure {errno : Errno} (hsend : c.socket.sendFailure = some errno) :
    (c.call q).1 = .error (.netlink ("Failed to send request: " ++ errno.message)) ∧
      (c.call q).2.socket.incoming = c.socket.incoming := by
  rw [call_fst, call_snd]
  simp only [transact, hsend, and_true]
  rfl

/-- However messages are read, as long as the length in the header is minded, the loop ends on every stream, within a number
of steps that the stream bounds, and nothing goes wrong on its way. It ends with the first event of the stream that
decides the request, and what is behind the datagram of this event has not been received. Every call whose request is sent
is such a loop; a call whose request is not sent receives nothing. -/
theorem decided_by_first :
    (∀ (d : Deserializer) (sequence : UInt32) (s : List Incoming),
      (∀ r, Receiver.Reaches d.read sequence (.start s) r → r.Secure d.read sequence) ∧
      ∃ n ≤ Receiver.load s, ∃ before event unread, FirstDecision sequence (d.stream s) before event unread ∧
        Receiver.Finishes d.read sequence n (.start s) (.answered (event.answer (routesIn sequence before))) unread) ∧
    (∀ (c : NetlinkClient) (q : RouteRequest), c.socket.sendFailure = none →
      ∃ n before event unread,
        FirstDecision c.sequence (c.deserializer.stream c.socket.incoming) before event unread ∧
        Receiver.Finishes c.deserializer.read c.sequence n (.start c.socket.incoming)
          (.answered (event.answer (routesIn c.sequence before))) unread ∧
        (c.call q).1 = (event.answer (routesIn c.sequence before)).map q.select ∧
        (c.call q).2.socket.incoming = unread) ∧
    ∀ (c : NetlinkClient) (q : RouteRequest) (errno : Errno), c.socket.sendFailure = some errno →
      (c.call q).1 = .error (.netlink ("Failed to send request: " ++ errno.message)) ∧
        (c.call q).2.socket.incoming = c.socket.incoming := by
  have hends : ∀ (d : Deserializer) (sequence : UInt32) (s : List Incoming), ∃ n ≤ Receiver.load s,
      ∃ before event unread, FirstDecision sequence (d.stream s) before event unread ∧
        Receiver.Finishes d.read sequence n (.start s) (.answered (event.answer (routesIn sequence before))) unread := by
    intro d sequence s
    obtain ⟨n, hn, before, event, unread, hfirst, hf⟩ := Receiver.exists_finishes d sequence (Receiver.start_tidy s)
    rw [Receiver.ahead_start] at hfirst
    rw [Receiver.left_start] at hn
    exact ⟨n, hn, before, event, unread, hfirst, hf⟩
  refine ⟨fun d sequence s => ⟨fun r hr => (hr.tidy (Receiver.start_tidy s)).secure, hends d sequence s⟩, ?_,
    fun c q _ => c.call_of_sendFailure q⟩
  intro c q hsend
  obtain ⟨n, -, before, event, unread, hfirst, hf⟩ := hends c.deserializer c.sequence c.socket.incoming
  obtain ⟨ha, hu⟩ := hf.reading_eq (Receiver.start_tidy _)
  obtain ⟨hcall, hunread⟩ := c.call_of_sends q hsend
  rw [Receiver.reading_start] at ha
  rw [Receiver.reading_start] at hu
  refine ⟨n, before, event, unread, hfirst, hf, ?_, hunread.trans hu.symm⟩
  rw [hcall, ← Option.some.inj ha]

/-- An empty datagram, one whose only message is not padded, one that is no message, and the outcome of the request. -/
def garbled : List Incoming :=
  [.datagram [], .datagram (Message.frame 1 0 9 [0]), .datagram [1, 2, 3], .datagram (outcome 1 0)]

/-- The outcome comes too late. -/
theorem decided_by_first_of_garbled :
    ((receiving {} garbled).call (.del default)).1 = .error (.netlink "Failed to parse message") ∧
    (∃ n before event, FirstDecision 1 (Message.deserializer.stream garbled) before event [.datagram (outcome 1 0)] ∧
      Receiver.Finishes Message.parse? 1 n (.start garbled) (.answered (event.answer (routesIn 1 before)))
        [.datagram (outcome 1 0)]) ∧
    (call { socket := { incoming := garbled, sendFailure := some Errno.wouldBlock } } (.del default)).2.socket.incoming =
      garbled := by
  have hunread : ((receiving {} garbled).call (.del default)).2.socket.incoming = [.datagram (outcome 1 0)] := by
    decide +kernel
  obtain ⟨-, hsent, hunsent⟩ := decided_by_first
  obtain ⟨n, before, event, unread, hfirst, hf, -, hu⟩ := hsent (receiving {} garbled) (.del default) rfl
  obtain rfl : unread = [.datagram (outcome 1 0)] := hu.symm.trans hunread
  exact ⟨by decide +kernel, ⟨n, before, event, hfirst, hf⟩, (hunsent _ (.del default) _ rfl).2⟩

end NetlinkClient

end Neighborhood
