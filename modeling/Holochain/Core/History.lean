import Holochain.Core.State

/-!
What the history of a `State` records, and what it does not.

`State::reduce` inserts the action into `history` and never reads it. Reducing an action whose
id is already in the history reduces every slice as for a fresh action and keeps the history
(`reduce_ignores_history`); so re-reducing `Action::InitNetwork` opens a second network and
the state changes (`reduce_twice_changes_state`). The history is a set with one wrapper per id:
after a run it keeps what it held, gains only the wrappers reduced, and records exactly the ids
held before and the ids reduced (`run_history`); two runs of the same actions in two orders end
with the same history (`run_order_forgotten`).
-/

namespace Holochain

section

variable {hash : Content → Address} {ctx : Context}

/-- Reducing an action whose id is already in the history gives the slices and the world that
reducing it with any other history gives, and keeps the history. -/
theorem reduce_ignores_history (s : State) (aw : ActionWrapper) (w : World)
    (hist : Finset ActionWrapper) (ha : aw.id ∈ s.history.image (·.id)) :
    s.reduce hash ctx aw w = ({ s with history := hist }.reduce hash ctx aw w).map
      fun (p : State × World) => ({ p.1 with history := s.history }, p.2) := by
  unfold State.reduce
  cases hn : s.network.reduce aw (s.dht.reduce hash aw (s.agent.reduce hash ctx aw w).2).2 <;>
    simp [hn, historyInsert_of_mem ha, Except.map]

theorem reduce_ignores_history_init_network :
    (⟨.initNetwork ⟨⟨"ipc"⟩, 7, "alice"⟩, 0⟩ : ActionWrapper).id ∈
        ({⟨.initNetwork ⟨⟨"ipc"⟩, 7, "alice"⟩, 0⟩} : Finset ActionWrapper).image (·.id) ∧
      ({ State.new ⟨5, 0, 1, 0⟩ with history := {⟨.initNetwork ⟨⟨"ipc"⟩, 7, "alice"⟩, 0⟩} } :
          State).reduce (fun c => match c with | .entry _ => 1 | .header _ => 2) ⟨5, 0, 1, 0⟩
          ⟨.initNetwork ⟨⟨"ipc"⟩, 7, "alice"⟩, 0⟩
          ⟨fun _ => [], fun _ => [], [], ⟨fun _ => true, fun _ => true⟩, fun _ => none, 0⟩ =
        ((State.new ⟨5, 0, 1, 0⟩).reduce (fun c => match c with | .entry _ => 1 | .header _ => 2)
          ⟨5, 0, 1, 0⟩ ⟨.initNetwork ⟨⟨"ipc"⟩, 7, "alice"⟩, 0⟩
          ⟨fun _ => [], fun _ => [], [], ⟨fun _ => true, fun _ => true⟩, fun _ => none, 0⟩).map
          fun (p : State × World) =>
            ({ p.1 with history := {⟨.initNetwork ⟨⟨"ipc"⟩, 7, "alice"⟩, 0⟩} }, p.2) :=
  ⟨by decide, reduce_ignores_history _ _ _ ∅ (by decide)⟩

/-- Re-dispatching `Action::InitNetwork` changes the state: the network slice now holds a
second network. -/
theorem reduce_twice_changes_state :
    ¬ ∀ (s : State) (w : World) (aw : ActionWrapper), aw ∈ s.history →
      ∀ s' w', s.reduce (fun c => match c with | .entry _ => 1 | .header _ => 2) ⟨5, 0, 1, 0⟩
        aw w = .ok (s', w') → s' = s := by
  intro hall
  obtain ⟨s₁, w₁, h₁⟩ : ∃ s₁ w₁, (State.new ⟨5, 0, 1, 0⟩).reduce
      (fun c => match c with | .entry _ => 1 | .header _ => 2) ⟨5, 0, 1, 0⟩
      ⟨.initNetwork ⟨⟨"ipc"⟩, 7, "alice"⟩, 0⟩
      ⟨fun _ => [], fun _ => [], [], ⟨fun _ => true, fun _ => true⟩, fun _ => none, 0⟩ =
        .ok (s₁, w₁) :=
    ⟨_, _, rfl⟩
  obtain ⟨s₂, w₂, h₂⟩ : ∃ s₂ w₂, s₁.reduce (fun c => match c with | .entry _ => 1 | .header _ => 2)
      ⟨5, 0, 1, 0⟩ ⟨.initNetwork ⟨⟨"ipc"⟩, 7, "alice"⟩, 0⟩ w₁ = .ok (s₂, w₂) := by
    cases h₁; exact ⟨_, _, rfl⟩
  have := hall s₁ w₁ _ (by cases h₁; decide) s₂ w₂ h₂
  cases h₁; cases h₂
  revert this; decide

/-- After a run, the history keeps what it held and gains only wrappers reduced, and the ids it
records are those it held and those of the actions reduced. -/
theorem run_history {s s' : State} {w w' : World} {as : List ActionWrapper}
    (h : s.run hash ctx w as = .ok (s', w')) :
    s.history ⊆ s'.history ∧ s'.history ⊆ s.history ∪ as.toFinset ∧
      s'.history.image (·.id) = s.history.image (·.id) ∪ (as.map (·.id)).toFinset := by
  induction as generalizing s w with
  | nil => cases h; simp
  | cons aw rest ih =>
    simp only [State.run] at h
    obtain ⟨p, hr, h⟩ := Except.bind_eq_ok.mp h
    obtain ⟨h₁, h₂, h₃⟩ := ih h
    rw [(State.reduce_ok hr).2.2.2.1] at h₁ h₂ h₃
    refine ⟨(subset_historyInsert _ _).trans h₁, h₂.trans ?_, ?_⟩
    · rw [List.toFinset_cons, Finset.union_insert, ← Finset.insert_union]
      exact Finset.union_subset_union (historyInsert_subset _ _) subset_rfl
    · rw [h₃, image_id_historyInsert, List.map_cons, List.toFinset_cons, Finset.union_insert,
        Finset.insert_union]

theorem run_history_two_commits :
    let hash : Content → Address := fun c => match c with
      | .entry (.app _ v) => if v = "a" then 1 else 2 | .entry _ => 3
      | .header h => if h.link = none then 4 else 5
    let as : List ActionWrapper :=
      [⟨.commit (.app "post" "a") none, 0⟩, ⟨.commit (.app "post" "b") none, 1⟩]
    ∃ s' w', (State.new ⟨5, 0, 1, 0⟩).run hash ⟨5, 0, 1, 0⟩
        ⟨fun _ => [], fun _ => [], [], ⟨fun _ => true, fun _ => true⟩, fun _ => none, 0⟩ as =
        .ok (s', w') ∧
      ((State.new ⟨5, 0, 1, 0⟩).history ⊆ s'.history ∧
        s'.history ⊆ (State.new ⟨5, 0, 1, 0⟩).history ∪ as.toFinset ∧
        s'.history.image (·.id) =
          (State.new ⟨5, 0, 1, 0⟩).history.image (·.id) ∪ (as.map (·.id)).toFinset) := by
  intro hash as
  obtain ⟨p, hp⟩ : ∃ p, (State.new ⟨5, 0, 1, 0⟩).run hash ⟨5, 0, 1, 0⟩
      ⟨fun _ => [], fun _ => [], [], ⟨fun _ => true, fun _ => true⟩, fun _ => none, 0⟩ as =
        .ok p :=
    ⟨_, rfl⟩
  exact ⟨p.1, p.2, hp, run_history hp⟩

/-- Two runs of two distinct actions, in the two orders, end with the same history. -/
theorem run_order_forgotten :
    ¬ ∀ (as bs : List ActionWrapper) (w : World), as.Nodup → bs.Nodup → as ≠ bs →
      ∀ s₁ w₁ s₂ w₂, (State.new ⟨5, 0, 1, 0⟩).run
          (fun c => match c with | .entry _ => 1 | .header _ => 2) ⟨5, 0, 1, 0⟩ w as =
          .ok (s₁, w₁) →
        (State.new ⟨5, 0, 1, 0⟩).run (fun c => match c with | .entry _ => 1 | .header _ => 2)
          ⟨5, 0, 1, 0⟩ w bs = .ok (s₂, w₂) →
        s₁.history ≠ s₂.history := by
  intro h
  exact h [⟨.removeEntry 1 2, 0⟩, ⟨.removeEntry 3 4, 1⟩]
    [⟨.removeEntry 3 4, 1⟩, ⟨.removeEntry 1 2, 0⟩]
    ⟨fun _ => [], fun _ => [], [], ⟨fun _ => true, fun _ => true⟩, fun _ => none, 0⟩ (by decide)
    (by decide) (by decide) _ _ _ _ rfl rfl (by decide)

end

end Holochain
