import Neighborhood.Route.Ledger
import Neighborhood.Proofs.Daemon.Run
import Neighborhood.Proofs.Daemon.Work
import Neighborhood.Proofs.Packet.Writing

/-!
# What is sent and asked for, and how it is counted

* `SentFrame.hasKind`, `Transmission.failed` — what the counts of sent packets and of failures speak of
* `Daemon.Books` — in an act, as many packets of each kind are counted as the sink takes frames of it, as many failures
  as there are failed attempts, and as many requests and refusals as the route table has answered
* `Daemon.Work.books`, `Daemon.Step.books` — this holds of all work, and so of every step
-/

namespace Neighborhood

/-! ## What is counted -/

theorem Packet.Kind.code_inj {k k' : Kind} : k.code = k'.code ↔ k = k' := by
  constructor
  · cases k <;> cases k' <;> decide
  · rintro rfl
    rfl

/-- The second byte of a frame says of what kind its packet is. -/
theorem Packet.getElem?_encode {p : Packet} {bs : List UInt8} (h : p.encode = .ok bs) : bs[1]? = some p.kind.code := by
  rw [(encode_eq_ok_iff.1 h).2]
  rfl

/-- The frame is that of a packet of this kind. -/
def SentFrame.hasKind (kind : Packet.Kind) (f : SentFrame) : Bool :=
  f.frame[1]? = some kind.code

/-- The packet has no frame, or the sink has refused it. -/
def Transmission.failed (t : Transmission) : Bool :=
  !t.outcome.isOk

namespace Daemon

variable {σ : Type}

/-- What an act sends and asks for, and what it counts of it. -/
structure Books (d d' : Daemon (Ledger σ)) : Prop where
  frames : ∃ accepted, d'.sink.frames = d.sink.frames ++ accepted ∧
    ∀ kind, d'.metrics.sent kind = d.metrics.sent kind + accepted.countP (SentFrame.hasKind kind)
  attempts : ∃ tried, d'.transmissions = tried ++ d.transmissions ∧
    d'.metrics.sendErrors = d.metrics.sendErrors + tried.countP Transmission.failed
  requests : ∃ answers, d'.routes.answers = d.routes.answers ++ answers ∧
    d'.metrics.routeLatency.count = d.metrics.routeLatency.count + answers.length ∧
    d'.metrics.routeErrors = d.metrics.routeErrors + answers.count false

namespace Books

variable {d d' d₁ d₂ d₃ : Daemon (Ledger σ)}

/-- Nothing is sent or asked for, and nothing of the kind is counted. -/
theorem of_eq (hsink : d'.sink = d.sink) (htrans : d'.transmissions = d.transmissions) (hroutes : d'.routes = d.routes)
    (hsent : d'.metrics.sent = d.metrics.sent) (hfailed : d'.metrics.sendErrors = d.metrics.sendErrors)
    (hlatency : d'.metrics.routeLatency = d.metrics.routeLatency)
    (herrors : d'.metrics.routeErrors = d.metrics.routeErrors) : Books d d' where
  frames := ⟨[], by rw [hsink, List.append_nil], fun kind => congrFun hsent kind⟩
  attempts := ⟨[], htrans, hfailed⟩
  requests := ⟨[], by rw [hroutes, List.append_nil], congrArg _ hlatency, herrors⟩

theorem refl (d : Daemon (Ledger σ)) : Books d d := .of_eq rfl rfl rfl rfl rfl rfl rfl

theorem trans (h₁ : Books d₁ d₂) (h₂ : Books d₂ d₃) : Books d₁ d₃ := by
  obtain ⟨⟨f₁, hf₁, hs₁⟩, ⟨t₁, ht₁, he₁⟩, a₁, ha₁, hl₁, hr₁⟩ := h₁
  obtain ⟨⟨f₂, hf₂, hs₂⟩, ⟨t₂, ht₂, he₂⟩, a₂, ha₂, hl₂, hr₂⟩ := h₂
  constructor
  · refine ⟨f₁ ++ f₂, by rw [hf₂, hf₁, List.append_assoc], fun kind => ?_⟩
    rw [hs₂, hs₁, List.countP_append, Nat.add_assoc]
  · refine ⟨t₂ ++ t₁, by rw [ht₂, ht₁, List.append_assoc], ?_⟩
    rw [he₂, he₁, List.countP_append, Nat.add_assoc, Nat.add_comm (t₁.countP _)]
  · refine ⟨a₁ ++ a₂, by rw [ha₂, ha₁, List.append_assoc], ?_, ?_⟩
    · rw [hl₂, hl₁, List.length_append, Nat.add_assoc]
    · rw [hr₂, hr₁, List.count_append, Nat.add_assoc]

end Books

/-! ## Elementary acts -/

/-- A frame is counted just if the sink has taken it, and a failure otherwise. -/
theorem transmit_books (d : Daemon (Ledger σ)) (dest : Option HwAddr) (packet : Packet) :
    Books d (d.transmit dest packet).2 := by
  unfold transmit
  cases he : packet.encode with
  | error e =>
    exact ⟨⟨[], (List.append_nil _).symm, fun _ => rfl⟩, ⟨[_], rfl, rfl⟩, [], (List.append_nil _).symm, rfl, rfl⟩
  | ok frame =>
    simp only [Sink.send]
    cases d.sink.refuses with
    | true =>
      exact ⟨⟨[], (List.append_nil _).symm, fun _ => rfl⟩, ⟨[_], rfl, rfl⟩, [], (List.append_nil _).symm, rfl, rfl⟩
    | false =>
      refine ⟨⟨[⟨dest, frame⟩], rfl, fun kind => ?_⟩, ⟨[_], rfl, rfl⟩, [], (List.append_nil _).symm, rfl, rfl⟩
      have hkind : SentFrame.hasKind kind ⟨dest, frame⟩ = decide (kind = packet.kind) := by
        simp only [SentFrame.hasKind, Packet.getElem?_encode he, Option.some.injEq, Packet.Kind.code_inj]
        exact decide_eq_decide.2 eq_comm
      simp only [List.countP_singleton, hkind, decide_eq_true_eq]
      show Tally.increment _ _ _ = _
      unfold Tally.increment
      split <;> rfl

/-- A request is counted, and its refusal if it is refused. -/
theorem noteRequest_books {α : Type} (d : Daemon (Ledger σ)) (answered : Except Error α × σ) :
    Books d ({ d with routes := (d.routes.note answered).2 }.noteRequest (d.routes.note answered).1) := by
  obtain ⟨answer, table⟩ := answered
  cases answer <;>
    exact ⟨⟨[], (List.append_nil _).symm, fun _ => rfl⟩, ⟨[], rfl, rfl⟩, [_], rfl, rfl, rfl⟩

theorem register_books (d : Daemon (Ledger σ)) (a : HwAddr) (identity : Xid) : Books d (d.register a identity) := by
  unfold register
  split <;> exact .of_eq rfl rfl rfl rfl rfl rfl rfl

theorem judge_books (d : Daemon (Ledger σ)) (answer : Except Error Unit) : Books d (d.judge answer).2 := by
  unfold judge
  split
  · exact .refl d
  · dsimp only
    split <;> exact .of_eq rfl rfl rfl rfl rfl rfl rfl

section
variable [RouteTable σ]

theorem Act.books {d d' : Daemon (Ledger σ)} : Act d d' → Books d d'
  | .transmit dest packet => transmit_books d dest packet
  | .install dst gateway => noteRequest_books d (RouteTable.add d.routes.table dst gateway)
  | .withdraw dst => noteRequest_books d (RouteTable.del d.routes.table dst)
  | .dump table filter => noteRequest_books d (RouteTable.dump d.routes.table table filter)
  | .register a identity => register_books d a identity
  | .tend _ _ _ _ _ _ _ => .of_eq rfl rfl rfl rfl rfl rfl rfl

theorem Work.books {d d' : Daemon (Ledger σ)} (h : Work d d') : Books d d' :=
  h.le Books.refl Books.trans Act.books

/-! ## Steps -/

theorem handleFrame_books (d : Daemon (Ledger σ)) (sender : HwAddr) (bytes : List UInt8) :
    Books d (d.handleFrame sender bytes).2 := by
  unfold handleFrame
  split
  · exact judge_books d _
  · rename_i packet _
    have hcount : Books d { d with metrics := d.metrics.recordReceived packet.kind } :=
      .of_eq rfl rfl rfl rfl rfl rfl rfl
    exact (hcount.trans (process_work _ sender packet).books).trans (judge_books _ _)

theorem escalate_books (d : Daemon (Ledger σ)) (n : Neighbor) : Books d (d.escalate n) := by
  have ha : Books d (d.awaitAnswer n) := (await_work d n _ _ _).books
  rw [escalate_eq]
  refine ha.trans (.trans ?_ (askRelays_work _ _ _).books)
  exact .of_eq rfl rfl rfl rfl rfl rfl rfl

theorem onAckTimeout_books (d : Daemon (Ledger σ)) (ref : NeighborRef) (timer : TimerId) :
    Books d (d.onAckTimeout ref timer) := by
  unfold onAckTimeout
  split
  · split
    · exact escalate_books d _
    · exact .refl d
  · exact .refl d

theorem onInvestigationTimeout_books (d : Daemon (Ledger σ)) (ref : NeighborRef) (timer : TimerId) :
    Books d (d.onInvestigationTimeout ref timer) := by
  rw [onInvestigationTimeout_eq]
  split
  · rename_i n _
    have hn : Books d { d with neighbors := d.neighbors.depart n } := .of_eq rfl rfl rfl rfl rfl rfl rfl
    exact (hn.trans (withdrawNeighbor_work _ n.identity).books).trans (.of_eq rfl rfl rfl rfl rfl rfl rfl)
  · exact .refl d

theorem expire_books (d : Daemon (Ledger σ)) (t : Timer Alarm) : Books d (d.expire t) := by
  unfold expire
  split
  · exact (tryAnnounce_work d).books
  · exact (pingTick_work d).books
  · exact onAckTimeout_books d _ _
  · exact onInvestigationTimeout_books d _ _
  · exact .refl d

/-- Only the surroundings take frames from a sink. -/
theorem Step.books {d d' : Daemon (Ledger σ)} {e : Event} (he : ∀ sink clock, e ≠ .surroundings sink clock) :
    Step d e d' → Books d d'
  | .frame _ sender bytes => handleFrame_books d sender bytes
  | .pingTick _ => (pingTick_work d).books
  | .announce _ => (announce_work d).books
  | .tryAnnounce _ => (tryAnnounce_work d).books
  | .start _ => (start_work d).books
  | .shutdown _ => (shutdown_work d).books
  | .expiry (t := t) _ =>
    have hf : Books d { d with timers := d.timers.fire t } := .of_eq rfl rfl rfl rfl rfl rfl rfl
    hf.trans (expire_books _ t)
  | .pass _ => .of_eq rfl rfl rfl rfl rfl rfl rfl
  | .surroundings _ sink clock => absurd rfl (he sink clock)

end

end Daemon

end Neighborhood
