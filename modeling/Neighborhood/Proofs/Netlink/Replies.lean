import Neighborhood.Netlink.Client
import Neighborhood.Route.Journal

/-!
# Which replies an answer depends on

A client reads messages until one of those that bear the number of its request decides the answer. How messages are put
into datagrams, and what stands between the replies to the request, makes no difference.

* `Fills`, `Carries` — the messages of a datagram, and of several
* `Reply`, `repliesTo` — what a request is answered, up to the reply that decides
* `verdictOn`, `Carries.readReplies_of_decided`, `Carries.readReplies_of_undecided` — reading is a function of the
  replies
* `NetlinkClient.call_eq_of_replies` — and so is what a call returns
* `Exchange`, `NetlinkClient.after` — calls in a row, each with what comes in for it
* `NetlinkClient.matched_by_number` — neither other messages nor replies to earlier calls make a difference
-/

namespace Neighborhood

namespace Netlink

/-! ## The messages of datagrams -/

section
variable (d : Deserializer)

theorem Deserializer.ne_nil_of_read {bytes : List UInt8} {m : Message} (h : d.read bytes = some m) : bytes ≠ [] := by
  rintro rfl
  exact absurd (Nat.le_trans (d.length_of_read h).1 (d.length_of_read h).2) (by decide)

/-- The bytes hold these messages one behind the other, each padded, and nothing else. -/
inductive Fills : List UInt8 → List Message → Prop
  | nil : Fills [] []
  | cons {bytes : List UInt8} {m : Message} {ms : List Message} : d.read bytes = some m →
      Fills (bytes.drop (aligned m.length)) ms → Fills bytes (m :: ms)

/-- Datagrams that are not cut off and hold these messages, in order, and nothing else. -/
inductive Carries : List Incoming → List Message → Prop
  | nil : Carries [] []
  | cons {bytes : List UInt8} {ms ms' : List Message} {rest : List Incoming} : bytes.length ≤ bufferSize →
      Fills d bytes ms → Carries rest ms' → Carries (.datagram bytes :: rest) (ms ++ ms')

end

/-- The failure of a receive, if nothing is there to be received or a failure is next. -/
def exhausted? : List Incoming → Option Errno
  | [] => some Errno.wouldBlock
  | .failure errno :: _ => some errno
  | .datagram _ :: _ => none

/-! ## Replies -/

/-- What a message says about the request whose number it bears. -/
inductive Reply where
  | route (route : RouteMessage)
  | done
  | error (code : Int32)
deriving DecidableEq

/-- The reply to a request that a message is, if it bears the number of the request and is of a type that counts. -/
def Message.reply? (sequence : UInt32) (m : Message) : Option Reply :=
  if m.sequence = sequence then
    match m.payload with
    | .done _ => some .done
    | .error code => some (.error code)
    | .newRoute route => some (.route route)
    | .other => none
  else none

/-- Replies up to the first that ends the request, this one included. -/
def decisive : List Reply → List Reply
  | [] => []
  | .route route :: replies => .route route :: decisive replies
  | reply :: _ => [reply]

/-- The replies to a request among messages, up to the first that ends it. -/
def repliesTo (sequence : UInt32) (ms : List Message) : List Reply :=
  decisive (ms.filterMap (Message.reply? sequence))

/-- Where the reading stands after some replies, routes collected before at hand. -/
def verdictOn : List Reply → List RouteMessage → Verdict
  | [], routes => .undecided routes
  | .route route :: replies, routes => verdictOn replies (routes ++ [route])
  | .done :: _, routes => .decided (.ok routes)
  | .error code :: _, routes => .decided (answerOfCode code routes)

theorem verdictOn_decisive : ∀ (replies : List Reply) (routes : List RouteMessage),
    verdictOn (decisive replies) routes = verdictOn replies routes
  | [], _ => rfl
  | .route route :: replies, routes => verdictOn_decisive replies (routes ++ [route])
  | .done :: _, _ | .error _ :: _, _ => rfl

/-- A decision stands; without one the reading goes on with the routes it has. -/
def Verdict.andThen : Verdict → (List RouteMessage → Verdict) → Verdict
  | .decided answer, _ => .decided answer
  | .undecided routes, more => more routes

theorem verdictOn_append : ∀ (replies more : List Reply) (routes : List RouteMessage),
    verdictOn (replies ++ more) routes = (verdictOn replies routes).andThen (verdictOn more)
  | [], _, _ => rfl
  | .route route :: replies, more, routes => verdictOn_append replies more (routes ++ [route])
  | .done :: _, _, _ | .error _ :: _, _, _ => rfl

/-! ## Reading -/

variable {d : Deserializer} {sequence : UInt32}

/-- A datagram is read message by message, and only the replies among them count. -/
theorem Fills.readDatagram_eq {bytes : List UInt8} {ms : List Message} (h : Fills d bytes ms) :
    ∀ routes, readDatagram d sequence bytes routes = verdictOn (ms.filterMap (Message.reply? sequence)) routes := by
  induction h with
  | nil =>
    intro routes
    rw [readDatagram]
    rfl
  | @cons bytes m ms hm _ ih =>
    intro routes
    cases bytes with
    | nil => exact absurd rfl (d.ne_nil_of_read hm)
    | cons b bs =>
      rw [readDatagram]
      split
      · rename_i hn
        cases hn.symm.trans hm
      · rename_i m' hm'
        cases hm'.symm.trans hm
        by_cases hs : m.sequence = sequence
        · cases hp : m.payload <;>
            simp [Message.reply?, hs, hp, ih, verdictOn]
        · simp [Message.reply?, hs, ih]

variable {s : List Incoming} {ms : List Message}

/-- Datagrams whose replies decide nothing are read, and the reading goes on behind them. -/
theorem Carries.readReplies_of_undecided (h : Carries d s ms) (rest : List Incoming) :
    ∀ {routes routes' : List RouteMessage},
      verdictOn (ms.filterMap (Message.reply? sequence)) routes = .undecided routes' →
        readReplies d sequence (s ++ rest) routes = readReplies d sequence rest routes' := by
  induction h with
  | nil =>
    intro routes routes' hv
    cases hv
    rfl
  | cons hl hf _ ih =>
    intro routes routes' hv
    rw [List.filterMap_append, verdictOn_append] at hv
    rw [List.cons_append, readReplies, List.take_of_length_le hl, hf.readDatagram_eq]
    split
    · rename_i he
      rw [he] at hv
      cases hv
    · rename_i he
      rw [he] at hv
      exact ih hv

/-- Replies that decide give the answer, whatever is behind their datagrams. -/
theorem Carries.readReplies_of_decided (h : Carries d s ms) (rest : List Incoming) :
    ∀ {routes : List RouteMessage} {answer : Answer},
      verdictOn (ms.filterMap (Message.reply? sequence)) routes = .decided answer →
        (readReplies d sequence (s ++ rest) routes).1 = answer := by
  induction h with
  | nil =>
    intro routes answer hv
    cases hv
  | cons hl hf _ ih =>
    intro routes answer hv
    rw [List.filterMap_append, verdictOn_append] at hv
    rw [List.cons_append, readReplies, List.take_of_length_le hl, hf.readDatagram_eq]
    split
    · rename_i he
      rw [he] at hv
      cases hv
      rfl
    · rename_i he
      rw [he] at hv
      exact ih hv

theorem readReplies_of_exhausted {errno : Errno} (h : exhausted? s = some errno) (routes : List RouteMessage) :
    (readReplies d sequence s routes).1 = .error (.netlink ("Failed to receive: " ++ errno.message)) := by
  unfold exhausted? at h
  split at h <;> cases h <;> rfl

/-- Two streams of messages with the same replies, and the same failure behind them, give the same answer. -/
theorem readReplies_eq_of_replies {s₁ s₂ t₁ t₂ : List Incoming} {ms₁ ms₂ : List Message} {errno : Errno}
    (h₁ : Carries d s₁ ms₁) (h₂ : Carries d s₂ ms₂) (he₁ : exhausted? t₁ = some errno) (he₂ : exhausted? t₂ = some errno)
    (hr : repliesTo sequence ms₁ = repliesTo sequence ms₂) (routes : List RouteMessage) :
    (readReplies d sequence (s₁ ++ t₁) routes).1 = (readReplies d sequence (s₂ ++ t₂) routes).1 := by
  have hv : verdictOn (ms₁.filterMap (Message.reply? sequence)) routes =
      verdictOn (ms₂.filterMap (Message.reply? sequence)) routes := by
    rw [← verdictOn_decisive, ← verdictOn_decisive (ms₂.filterMap _)]
    exact congrArg (verdictOn · routes) hr
  cases hd : verdictOn (ms₂.filterMap (Message.reply? sequence)) routes with
  | decided answer =>
    rw [h₁.readReplies_of_decided t₁ (hv.trans hd), h₂.readReplies_of_decided t₂ hd]
  | undecided routes' =>
    rw [h₁.readReplies_of_undecided t₁ (hv.trans hd), h₂.readReplies_of_undecided t₂ hd,
      readReplies_of_exhausted he₁, readReplies_of_exhausted he₂]

/-- No reply to the request is among the messages. -/
theorem Carries.readReplies_of_others (h : Carries d s ms) (hm : ∀ m ∈ ms, m.sequence ≠ sequence) (rest : List Incoming)
    (routes : List RouteMessage) : readReplies d sequence (s ++ rest) routes = readReplies d sequence rest routes := by
  refine h.readReplies_of_undecided rest ?_
  have hnone : ms.filterMap (Message.reply? sequence) = [] :=
    List.filterMap_eq_nil_iff.2 fun m hm' => if_neg (hm m hm')
  rw [hnone]
  rfl

end Netlink

open Netlink

/-! ## Calls -/

namespace NetlinkClient

/-- Any of the three calls; additions and withdrawals return no routes. -/
def call (c : NetlinkClient) : RouteRequest → Except Error (List Route) × NetlinkClient
  | .add dst gateway => ((c.add dst gateway).1.map fun _ => [], (c.add dst gateway).2)
  | .del dst => ((c.del dst).1.map fun _ => [], (c.del dst).2)
  | .dump table filter => c.dump table filter

/-- The socket has this to hand out. -/
def receiving (c : NetlinkClient) (s : List Incoming) : NetlinkClient :=
  { c with socket := { c.socket with incoming := s } }

variable (c : NetlinkClient) {s₁ s₂ : List Incoming}

theorem transact_congr
    (h : (readReplies c.deserializer c.sequence s₁ []).1 = (readReplies c.deserializer c.sequence s₂ []).1) (type : Nat)
    (flags : UInt16) (message : RouteMessage) :
    ((c.receiving s₁).transact type flags message).1 = ((c.receiving s₂).transact type flags message).1 := by
  simp only [transact, receiving]
  split
  · rfl
  · exact h

theorem call_congr
    (h : (readReplies c.deserializer c.sequence s₁ []).1 = (readReplies c.deserializer c.sequence s₂ []).1) :
    ∀ request, ((c.receiving s₁).call request).1 = ((c.receiving s₂).call request).1
  | .add dst gateway => by simp only [call, add, c.transact_congr h]
  | .del dst => by simp only [call, del, c.transact_congr h]
  | .dump table filter => by simp only [call, dump, c.transact_congr h]

theorem transact_sequence (type : Nat) (flags : UInt16) (message : RouteMessage) :
    (c.transact type flags message).2.sequence = c.sequence + 1 := by
  unfold transact
  dsimp only
  split <;> rfl

theorem call_sequence : ∀ request, (c.call request).2.sequence = c.sequence + 1
  | .add _ _ | .del _ | .dump _ _ => c.transact_sequence _ _ _

theorem transact_deserializer (type : Nat) (flags : UInt16) (message : RouteMessage) :
    (c.transact type flags message).2.deserializer = c.deserializer := by
  unfold transact
  dsimp only
  split <;> rfl

theorem call_deserializer : ∀ request, (c.call request).2.deserializer = c.deserializer
  | .add _ _ | .del _ | .dump _ _ => c.transact_deserializer _ _ _

end NetlinkClient

/-! ## Calls in a row -/

/-- One call, and what its socket does. -/
structure Exchange where
  request : RouteRequest
  /-- What comes in after the call before, and while this one waits. -/
  arriving : List Incoming := []
  /-- Why sends fail, if they do. -/
  sendFailure : Option Errno := none

namespace NetlinkClient

/-- The call, with what comes in behind what earlier calls have left unread. -/
def exchange (c : NetlinkClient) (x : Exchange) : Except Error (List Route) × NetlinkClient :=
  { c with socket := { c.socket with
      incoming := c.socket.incoming ++ x.arriving
      sendFailure := x.sendFailure } }.call x.request

/-- The client after several calls, one after another. -/
def after (c : NetlinkClient) (xs : List Exchange) : NetlinkClient :=
  xs.foldl (fun c x => (c.exchange x).2) c

/-- The requests of a client are numbered. -/
theorem after_sequence (c : NetlinkClient) (xs : List Exchange) :
    (c.after xs).sequence = c.sequence + UInt32.ofNat xs.length := by
  induction xs generalizing c with
  | nil => simp [after]
  | cons x xs ih =>
    have hx : (c.exchange x).2.sequence = c.sequence + 1 := call_sequence _ _
    rw [after, List.foldl_cons, ← after, ih, hx, List.length_cons, Nat.add_comm, UInt32.ofNat_add, UInt32.add_assoc]
    rfl

/-- Until the numbers are used up, requests have different ones. -/
theorem after_sequence_ne {xs ys : List Exchange} (hlt : xs.length < ys.length) (hy : ys.length < UInt32.size)
    (c : NetlinkClient) : (c.after xs).sequence ≠ (c.after ys).sequence := by
  rw [after_sequence, after_sequence, Ne, UInt32.add_right_inj]
  intro he
  have hnum := congrArg UInt32.toNat he
  rw [UInt32.toNat_ofNat_of_lt' (Nat.lt_trans hlt hy), UInt32.toNat_ofNat_of_lt' hy] at hnum
  exact Nat.ne_of_lt hlt hnum

/-- A client reads messages as it always did. -/
theorem after_deserializer (c : NetlinkClient) (xs : List Exchange) : (c.after xs).deserializer = c.deserializer := by
  induction xs generalizing c with
  | nil => rfl
  | cons x xs ih =>
    rw [after, List.foldl_cons, ← after, ih]
    exact call_deserializer _ _

/-- What comes in counts for a request by its number alone, in whatever way messages are read. On two streams of messages
with the same replies to the request, a call returns the same, whatever is between the replies and however they are put
into datagrams. So replies to earlier calls of a new client that have been left unread make no difference to a later one,
as long as fewer calls are made than there are numbers. -/
theorem matched_by_number :
    (∀ (c : NetlinkClient) (request : RouteRequest) (s₁ s₂ t₁ t₂ : List Incoming) (ms₁ ms₂ : List Message)
      (errno : Errno), Carries c.deserializer s₁ ms₁ → Carries c.deserializer s₂ ms₂ → exhausted? t₁ = some errno →
      exhausted? t₂ = some errno → repliesTo c.sequence ms₁ = repliesTo c.sequence ms₂ →
      ((c.receiving (s₁ ++ t₁)).call request).1 = ((c.receiving (s₂ ++ t₂)).call request).1) ∧
    ∀ (d : Deserializer) (xs : List Exchange) (x : Exchange) (unread rest : List Incoming) (ms : List Message),
      let c := after { deserializer := d } xs
      xs.length + 1 < UInt32.size → c.socket.incoming = unread ++ rest → Carries d unread ms →
      (∀ m ∈ ms, ∃ k < xs.length, m.sequence = (after { deserializer := d } (xs.take k)).sequence) →
      (c.exchange x).1 = ((c.receiving rest).exchange x).1 := by
  constructor
  · intro c request s₁ s₂ t₁ t₂ ms₁ ms₂ errno h₁ h₂ he₁ he₂ hr
    exact c.call_congr (readReplies_eq_of_replies h₁ h₂ he₁ he₂ hr []) request
  · intro d xs x unread rest ms c hlt hq hc hold
    have hd : c.deserializer = d := after_deserializer _ xs
    have hothers : ∀ m ∈ ms, m.sequence ≠ c.sequence := by
      intro m hm
      obtain ⟨k, hk, hs⟩ := hold m hm
      rw [hs]
      exact after_sequence_ne (by rw [List.length_take]; omega) (by omega) _
    have hread := hc.readReplies_of_others hothers (rest ++ x.arriving) []
    rw [← List.append_assoc, ← hq, ← hd] at hread
    exact call_congr { c with socket := { c.socket with sendFailure := x.sendFailure } } (congrArg Prod.fst hread)
      x.request

/-- What the kernel says about a request: its outcome, zero for success. -/
def outcome (sequence code : UInt32) : List UInt8 :=
  Message.frame errorType 0 sequence (bytesLE code)

/-- The receive of the first call fails, and word of its success comes too late. -/
def missed : Exchange where
  request := .del default
  arriving := [.failure Errno.wouldBlock, .datagram (outcome 1 0)]

/-- What a call returns is the same with the outcome of another request in front of its own; and late word of success is
not taken for the outcome of the next call. -/
theorem matched_by_number_of_missed :
    ((receiving {} [.datagram (outcome 9 7 ++ outcome 1 0)]).call (.del default)).1 =
      ((receiving {} [.datagram (outcome 1 0), .failure Errno.wouldBlock]).call (.del default)).1 ∧
    (after {} [missed]).socket.incoming = [.datagram (outcome 1 0)] ∧
    ((after {} [missed]).exchange { request := .del default, arriving := [.datagram (outcome 2 1)] }).1 =
      (((after {} [missed]).receiving []).exchange
        { request := .del default, arriving := [.datagram (outcome 2 1)] }).1 := by
  have hone : Carries Message.deserializer [.datagram (outcome 1 0)] ([⟨20, 1, .error 0⟩] ++ []) :=
    .cons (by decide) (.cons (by decide) .nil) .nil
  have htwo : Carries Message.deserializer [.datagram (outcome 9 7 ++ outcome 1 0)]
      ([⟨20, 9, .error 7⟩, ⟨20, 1, .error 0⟩] ++ []) :=
    .cons (by decide) (.cons (by decide) (.cons (by decide) .nil)) .nil
  obtain ⟨hsame, hlate⟩ := matched_by_number
  refine ⟨?_, rfl, ?_⟩
  · exact hsame {} (.del default) _ _ [] [.failure Errno.wouldBlock] _ _ _ htwo hone rfl rfl (by decide)
  · refine hlate Message.deserializer [missed] _ [.datagram (outcome 1 0)] [] _ (by decide) rfl hone
      fun m hm => ⟨0, by decide, ?_⟩
    rw [List.mem_singleton.1 hm]
    rfl

end NetlinkClient

end Neighborhood
