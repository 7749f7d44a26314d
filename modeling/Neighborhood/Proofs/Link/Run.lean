import Mathlib.Logic.Function.Basic
import Neighborhood.Proofs.Daemon.Speech

/-!
# Runs of hosts on a link

A run of a link is made of moments of its hosts, one after the other. What a host sends is in flight from then on: it may
be heard by any host, at any time, more than once and in any order, or never.

* `Link.Carries` — a frame that is heard has left a host, at the address that it comes from
* `Link.Run` — the moments of all hosts in order; those of one host are a run of it (`Run.hostRun`)
* `Link.Run.decode_eq` — the frame that is heard is read as the packet that the host has sent
-/

namespace Neighborhood

namespace Link

variable {ι σ : Type}

/-- If a frame is heard, it has left one of the hosts and comes from the address of this host. -/
def Carries (hosts : ι → Daemon σ) (e : Event) : Prop :=
  ∀ sender frame, e = .frame sender frame →
    ∃ j, (hosts j).link.hwaddr = sender ∧ ∃ t ∈ (hosts j).transmissions, t.outcome = .ok frame

variable [DecidableEq ι]

/-- `Run hosts₀ l hosts`: the moments `l`, each at the place of its host, lead from `hosts₀` to `hosts`. -/
inductive Run [RouteTable σ] (hosts₀ : ι → Daemon σ) : List (ι × Daemon.Moment σ) → (ι → Daemon σ) → Prop
  | nil : Run hosts₀ [] hosts₀
  | snoc {l : List (ι × Daemon.Moment σ)} {hosts : ι → Daemon σ} {i : ι} {e : Event} {d : Daemon σ} :
      Run hosts₀ l hosts → Carries hosts e → Daemon.Step (hosts i) e d →
      Run hosts₀ (l ++ [(i, ⟨hosts i, e, d⟩)]) (Function.update hosts i d)

/-- The moments of the host at one place. -/
def momentsOf (i : ι) (l : List (ι × Daemon.Moment σ)) : List (Daemon.Moment σ) :=
  (l.filter (·.1 = i)).map (·.2)

theorem mem_momentsOf {i : ι} {l : List (ι × Daemon.Moment σ)} {m : Daemon.Moment σ} :
    m ∈ momentsOf i l ↔ (i, m) ∈ l := by
  simp [momentsOf]

theorem momentsOf_append (i : ι) (l l' : List (ι × Daemon.Moment σ)) :
    momentsOf i (l ++ l') = momentsOf i l ++ momentsOf i l' := by
  simp [momentsOf]

namespace Run

variable [RouteTable σ] {hosts₀ hosts : ι → Daemon σ} {l : List (ι × Daemon.Moment σ)}

/-- What happens to the host at one place is a run of this host. -/
theorem hostRun (h : Run hosts₀ l hosts) (i : ι) : Daemon.Run (hosts₀ i) (momentsOf i l) (hosts i) := by
  induction h with
  | nil => exact .nil
  | @snoc l hosts j e d _ _ hs ih =>
    rw [momentsOf_append]
    by_cases hj : j = i
    · subst hj
      rw [Function.update_self, show momentsOf j [(j, ⟨hosts j, e, d⟩)] = [⟨hosts j, e, d⟩] by simp [momentsOf]]
      exact ih.snoc hs
    · rw [Function.update_of_ne (Ne.symm hj), show momentsOf i [(j, ⟨hosts j, e, d⟩)] = [] by simp [momentsOf, hj],
        List.append_nil]
      exact ih

/-- The frame that is heard is read as a packet that the host at the address it comes from has sent. -/
theorem decode_eq (h₀ : ∀ i, (hosts₀ i).IsFresh) (h : Run hosts₀ l hosts) {sender : HwAddr} {frame : List UInt8}
    (hc : Carries hosts (.frame sender frame)) :
    ∃ j, (hosts j).link.hwaddr = sender ∧ ∃ t ∈ (hosts j).transmissions, Packet.decode frame = .ok t.packet := by
  obtain ⟨j, hj, t, ht, hout⟩ := hc sender frame rfl
  obtain ⟨hsound, hspeech⟩ := (h.hostRun j).speech (h₀ j) t ht
  exact ⟨j, hj, t, ht, hspeech.decode_eq (hsound frame hout)⟩

end Run

end Link

end Neighborhood
