import Neighborhood.Proofs.Daemon.Truth
import Neighborhood.Proofs.Link.Run

/-!
# Hosts discover each other

Lists pass on what other hosts have said, so that what one host knows depends on what all others know and on all that is
in flight. All of it is so: `Honest` says this of one host, and every moment of every run of a link keeps it.

* `Link.Blank` — the links on which nothing has happened so far
* `Link.Run.honest` — whatever is lost, repeated or delayed, hosts know and say only what is so
* `Link.Run.discovery` — neighbors are other hosts, prefixes are routed through hosts that own them, and whoever has been
  heard is known while nobody is evicted
-/

namespace Neighborhood

/-! ## Honest hosts -/

/-- The host is one of the link, and all that it knows and all that it has sent is so. -/
structure Honest (w : World) (d : Daemon MemoryRoutes) : Prop where
  here : w.host d.link.hwaddr
  knows : d.Knows w
  tells : ∀ t ∈ d.transmissions, w.Tells d.link.hwaddr t.packet

/-- A host stays honest if what it hears is so. -/
theorem Honest.step {w : World} {d d' : Daemon MemoryRoutes} {e : Event} (h : Honest w d) (hs : Daemon.Step d e d')
    (he : w.Truthful e) : Honest w d' where
  here := by
    rw [hs.sameHost.link]
    exact h.here
  knows := h.knows.shifts hs.shifts he
  tells t ht := by
    rw [hs.sameHost.link]
    rcases hs.utters ht with ht | ⟨-, said, hsaid, hu⟩
    · exact h.tells t ht
    · exact h.knows.utters_tells hsaid he hu

namespace Link

variable {ι : Type}

/-- Nothing has happened on the link so far: its hosts have heard of no other. They have different addresses of one
length, and prefixes and hosts have different types. -/
structure Blank (hosts : ι → Daemon MemoryRoutes) : Prop where
  fresh : ∀ i, (hosts i).IsFresh
  routes : ∀ i, (hosts i).routes.mainRoutes = []
  types : ∀ i, (hosts i).types.ad ≠ (hosts i).types.ether
  distinct : ∀ i j, (hosts i).link.hwaddr = (hosts j).link.hwaddr → i = j
  lengths : ∀ i j, (hosts i).link.hwaddr.length = (hosts j).link.hwaddr.length

/-- The hosts of the link with the prefixes that they own. -/
def world (hosts : ι → Daemon MemoryRoutes) : World where
  host a := ∃ k, (hosts k).link.hwaddr = a
  owns a id := ∃ k, (hosts k).link.hwaddr = a ∧ (hosts k).Owns id
  host_of_owns := fun ⟨k, hk, _⟩ => ⟨k, hk⟩

theorem Blank.honest {hosts : ι → Daemon MemoryRoutes} (h : Blank hosts) (i : ι) : Honest (world hosts) (hosts i) where
  here := ⟨i, rfl⟩
  knows := {
    types := h.types i
    length := by
      rintro _ ⟨k, rfl⟩
      exact h.lengths k i
    own := fun id hid => ⟨i, rfl, hid⟩
    met := by
      rw [(h.fresh i).neighbors]
      exact fun _ hp => nomatch hp
    through := by
      rw [h.routes i]
      exact fun _ hr => nomatch hr }
  tells := by
    rw [(h.fresh i).transmissions]
    exact fun _ ht => nomatch ht

variable [DecidableEq ι] {hosts₀ hosts : ι → Daemon MemoryRoutes} {l : List (ι × Daemon.Moment MemoryRoutes)}

/-- What honest hosts have sent is so when it is heard. -/
theorem Run.truthful (h₀ : Blank hosts₀) (h : Run hosts₀ l hosts) {w : World} (hh : ∀ j, Honest w (hosts j)) {e : Event}
    (hc : Carries hosts e) : w.Truthful e := by
  rintro sender frame rfl
  obtain ⟨j, rfl, t, ht, hd⟩ := h.decode_eq h₀.fresh hc
  refine ⟨(hh j).here, fun p hp => ?_⟩
  cases hd.symm.trans hp
  exact (hh j).tells t ht

/-- Whatever is lost, repeated or delayed, hosts know and say only what is so. -/
theorem Run.honest (h₀ : Blank hosts₀) (h : Run hosts₀ l hosts) (i : ι) : Honest (world hosts₀) (hosts i) := by
  induction h generalizing i with
  | nil => exact h₀.honest i
  | @snoc l hosts j e d hr hc hs ih =>
    by_cases hi : i = j
    · subst hi
      rw [Function.update_self]
      exact (ih i).step hs (hr.truthful h₀ ih hc)
    · rw [Function.update_of_ne hi]
      exact ih i

/-! ## What hosts see of each other -/

/-- The host at one place is what it was, with the prefixes that it had; all its neighbors are other hosts of the link,
and each prefix that it routes goes through another host that owns it. -/
structure Sees (hosts₀ : ι → Daemon MemoryRoutes) (i : ι) (d : Daemon MemoryRoutes) : Prop extends
    Daemon.SameHost (hosts₀ i) d where
  own : d.routes.ownRoutes = (hosts₀ i).routes.ownRoutes
  neighbors : ∀ n ∈ d.neighbors.entries, ∃ k, k ≠ i ∧ n.hwaddr = (hosts₀ k).link.hwaddr
  through : ∀ r ∈ d.routes.mainRoutes, r.dst.type = (hosts₀ i).types.ad →
    ∃ k, k ≠ i ∧ (hosts₀ k).Owns r.dst.id ∧ r.gateway = some ((hosts₀ i).etherXid (hosts₀ k).link.hwaddr)

theorem Run.sees (h₀ : Blank hosts₀) (h : Run hosts₀ l hosts) (i : ι) : Sees hosts₀ i (hosts i) := by
  have hs := (h.hostRun i).sameHost
  have hknows := (h.honest h₀ i).knows
  have hother : ∀ {k}, (hosts₀ k).link.hwaddr ≠ (hosts i).link.hwaddr → k ≠ i := by
    rintro k hne rfl
    exact hne (congrArg LocalLink.hwaddr hs.link).symm
  refine ⟨hs, (h.hostRun i).ownRoutes, fun n hn => ?_, fun r hr hty => ?_⟩
  · obtain ⟨⟨k, hk⟩, hne⟩ := hknows.met (n.hwaddr, n.identity) (List.mem_map_of_mem hn)
    exact ⟨k, hother (hk ▸ hne), hk.symm⟩
  · rw [← hs.types] at hty
    obtain ⟨_, hne, ⟨k, rfl, howns⟩, hg⟩ := hknows.through r hr hty
    exact ⟨k, hother hne, howns, by rw [hg, hs.etherXid]⟩

/-- The host at `i` has heard all that the host at `k` has broadcast at a start, with a sink that let all of it through.
It may have heard it in any order, and in between other things. -/
def HearsStart (l : List (ι × Daemon.Moment MemoryRoutes)) (i k : ι) : Prop :=
  ∃ m, (k, m) ∈ l ∧ m.event = .start ∧ m.before.sink.Accepts m.before.announces.length ∧
    ∀ f ∈ m.before.emitted m.after, ∃ m', (i, m') ∈ l ∧ m'.event = .frame m.before.link.hwaddr f.frame

/-- While nobody leaves its table, a host that has heard the start of another knows it, and routes what it owns. -/
theorem Run.known (h₀ : Blank hosts₀) (h : Run hosts₀ l hosts) {i k : ι} (hne : k ≠ i)
    (hstays : ∀ m, (i, m) ∈ l → Daemon.Stays m.before m.after) (hh : HearsStart l i k) :
    (hosts i).neighbors.get? (hosts₀ k).link.hwaddr ≠ none ∧
      ∀ id, (hosts₀ k).Owns id → (hosts₀ i).adXid id ∈ (hosts i).routes.destinations := by
  obtain ⟨⟨d, e, d'⟩, hm, rfl, haccepts, hheard⟩ := hh
  obtain ⟨_, _, hl⟩ := List.append_of_mem (mem_momentsOf.2 hm)
  obtain ⟨hrun, hs⟩ := (hl ▸ h.hostRun k).split
  dsimp only at haccepts hheard hrun hs
  cases hs
  have hlink : d.link = (hosts₀ k).link := hrun.sameHost.link
  have hannounced : ∀ xids, d.announcement xids ∈ d.announces → (hosts i).neighbors.get? (hosts₀ k).link.hwaddr ≠ none ∧
      ∀ id ∈ xids, (hosts₀ i).adXid id ∈ (hosts i).routes.destinations := by
    intro xids hx
    obtain ⟨f, hf, hp⟩ := d.exists_emitted_start haccepts hx
    obtain ⟨m, hm, he⟩ := hheard f hf
    have hspeech := d.announces_speech (List.mem_map_of_mem hx)
    rw [hlink] at he hspeech
    refine (h.hostRun i).announced (h₀.fresh i) (fun m hm => hstays m (mem_momentsOf.1 hm)) (mem_momentsOf.2 hm) he hp
      (hspeech.rejection?_eq_none fun heq => ?_)
    exact hne (h₀.distinct k i heq.symm)
  constructor
  · by_cases hnone : ∃ id, d.Owns id
    · obtain ⟨id, hid⟩ := hnone
      exact (hannounced [id] (Daemon.mem_announces_iff.2 (.inl ⟨id, hid, rfl⟩))).1
    · exact (hannounced [] (Daemon.mem_announces_iff.2 (.inr ⟨not_exists.1 hnone, rfl⟩))).1
  · intro id hid
    have howns := (Daemon.Owns.congr hrun.sameHost hrun.ownRoutes).2 hid
    have hmem := Daemon.mem_announces_iff.2 (.inl ⟨id, howns, rfl⟩)
    exact (hannounced [id] hmem).2 id List.mem_cons_self

/-- Hosts that begin as strangers discover each other, whatever is lost, repeated or delayed: neighbors are other hosts of
the link, and prefixes are routed through hosts that own them. A host that evicts nobody knows whoever it has heard
start, and routes through it what nobody else owns. -/
theorem Run.discovery (h₀ : Blank hosts₀) (h : Run hosts₀ l hosts) :
    (∀ i, Sees hosts₀ i (hosts i)) ∧
    ∀ {i k : ι}, k ≠ i → (∀ m, (i, m) ∈ l → Daemon.Stays m.before m.after) → HearsStart l i k →
      (hosts i).neighbors.get? (hosts₀ k).link.hwaddr ≠ none ∧
      ∀ id, (∀ j, (hosts₀ j).Owns id ↔ j = k) → (hosts i).routes.get? ((hosts₀ i).adXid id) =
        some ⟨.main, (hosts₀ i).adXid id, some ((hosts₀ i).etherXid (hosts₀ k).link.hwaddr)⟩ := by
  refine ⟨h.sees h₀, fun {i k} hne hstays hh => ?_⟩
  obtain ⟨hknown, hrouted⟩ := h.known h₀ hne hstays hh
  refine ⟨hknown, fun id honly => ?_⟩
  refine MemoryRoutes.get?_eq_some_of_mem (hrouted id ((honly k).2 rfl)) fun r hr hd => ?_
  obtain ⟨j, -, howns, hg⟩ := (h.sees h₀ i).through r hr (by rw [hd, Daemon.adXid])
  rw [hd, Daemon.adXid, honly] at howns
  rw [hg, howns]

/-! ### Two hosts, one of which starts -/

/-- A prefix. -/
def sevens : Identifier := ⟨List.replicate 20 7, rfl⟩

/-- A host with a prefix. -/
def owner : Daemon MemoryRoutes :=
  { Daemon.lone 5 with
    link := { ifindex := 1, hwaddr := Daemon.peer }
    routes := ({} : MemoryRoutes).addOwn ⟨⟨16⟩, sevens⟩ }

/-- The lone host and the one with the prefix. -/
def pair : Bool → Daemon MemoryRoutes
  | false => Daemon.lone 5
  | true => owner

theorem pair_blank : Blank pair where
  fresh := Bool.forall_bool.2 ⟨Daemon.lone_isFresh 5, rfl, rfl, rfl, rfl, rfl, rfl⟩
  routes := Bool.forall_bool.2 ⟨rfl, rfl⟩
  types := by decide
  distinct := by decide
  lengths := by decide

/-- The announce of the host with the prefix. -/
def call : List UInt8 := [1, 1, 1, 6, 2, 0, 0, 0, 0, 2] ++ List.replicate 20 7

/-- The host with the prefix starts. -/
def starting : Daemon.Moment MemoryRoutes := ⟨owner, .start, owner.start⟩

/-- The lone host hears of it. -/
def hearing : Daemon.Moment MemoryRoutes :=
  ⟨Daemon.lone 5, .frame Daemon.peer call, ((Daemon.lone 5).handleFrame Daemon.peer call).2⟩

theorem run_pair : ∃ hosts, Run pair [(true, starting), (false, hearing)] hosts := by
  have hsilent : Carries pair .start := fun _ _ h => nomatch h
  have hcarries : Carries (Function.update pair true owner.start) hearing.event := by
    rintro _ _ ⟨⟩
    exact ⟨true, rfl, _, List.mem_cons_self, rfl⟩
  have hstart : Run pair _ _ := Run.nil.snoc (i := true) hsilent (.start owner)
  exact ⟨_, hstart.snoc (i := false) hcarries (.frame (Daemon.lone 5) _ _)⟩

theorem hearsStart_pair : HearsStart [(true, starting), (false, hearing)] false true := by
  refine ⟨starting, List.mem_cons_self, rfl, ⟨rfl, by decide⟩, List.forall_mem_singleton.2 ?_⟩
  exact ⟨hearing, List.mem_cons_of_mem _ List.mem_cons_self, rfl⟩

theorem owns_pair (j : Bool) : (pair j).Owns sevens ↔ j = true := by
  cases j with
  | false => simp [Daemon.Owns, pair, Daemon.lone, MemoryRoutes.ownRoutes]
  | true => exact ⟨fun _ => rfl, fun _ => ⟨_, List.mem_cons_self, rfl⟩⟩

/-- The lone host hears the other one start, and routes its prefix. -/
theorem discovery_of_start : ∃ hosts, Run pair [(true, starting), (false, hearing)] hosts ∧
    (hosts false).neighbors.get? Daemon.peer ≠ none ∧
    (hosts false).routes.get? ((Daemon.lone 5).adXid sevens) =
      some ⟨.main, (Daemon.lone 5).adXid sevens, some ((Daemon.lone 5).etherXid Daemon.peer)⟩ := by
  obtain ⟨hosts, hrun⟩ := run_pair
  have hstays : ∀ m, (false, m) ∈ [(true, starting), (false, hearing)] → Daemon.Stays m.before m.after := by
    intro m hm
    have he : m = hearing := by simpa using hm
    rw [he]
    exact fun a ha => absurd rfl ha
  obtain ⟨hknown, hrouted⟩ := (Run.discovery pair_blank hrun).2 (i := false) (k := true) nofun hstays hearsStart_pair
  exact ⟨hosts, hrun, hknown, hrouted sevens owns_pair⟩

end Link

end Neighborhood
