import Neighborhood.Proofs.Daemon.Outward

/-!
# Acts that leave neighbors and timers alone

Sending, asking the route table, counting and drawing touch neither the neighbor table nor the timers. `Aside d d'`
says this of a whole act (`Outward.aside`, `judge_aside`).
-/

namespace Neighborhood

namespace Daemon

variable {σ : Type}

/-- Neighbors, timers and all that was told at the start are the same. -/
structure Aside (d d' : Daemon σ) : Prop where
  config : d'.config = d.config
  link : d'.link = d.link
  types : d'.types = d.types
  neighbors : d'.neighbors = d.neighbors
  timers : d'.timers = d.timers
  periodic : d'.periodic = d.periodic

namespace Aside

theorem refl (d : Daemon σ) : Aside d d := ⟨rfl, rfl, rfl, rfl, rfl, rfl⟩

theorem trans {d₁ d₂ d₃ : Daemon σ} (h₁ : Aside d₁ d₂) (h₂ : Aside d₂ d₃) : Aside d₁ d₃ where
  config := h₂.config.trans h₁.config
  link := h₂.link.trans h₁.link
  types := h₂.types.trans h₁.types
  neighbors := h₂.neighbors.trans h₁.neighbors
  timers := h₂.timers.trans h₁.timers
  periodic := h₂.periodic.trans h₁.periodic

theorem etherXid {d d' : Daemon σ} (h : Aside d d') : d'.etherXid = d.etherXid := by
  funext a
  simp only [Daemon.etherXid, h.types, h.link]

end Aside

theorem Outward.aside {d d' : Daemon σ} (h : Outward d d') : Aside d d' := by
  obtain ⟨_, _, _, _, _, _, _, _, _, rfl⟩ := h
  exact ⟨rfl, rfl, rfl, rfl, rfl, rfl⟩

theorem Sends.aside {d d' : Daemon σ} (h : Sends d d') : Aside d d' := h.outward.aside

theorem judge_aside (d : Daemon σ) (answer : Except Error Unit) : Aside d (d.judge answer).2 := by
  unfold judge
  split
  · exact .refl d
  · dsimp only
    split <;> exact ⟨rfl, rfl, rfl, rfl, rfl, rfl⟩

end Daemon

end Neighborhood
