import Holochain.Core.State

/-!
The network slice over every run of reductions (`network/reducers/init.rs`, `state.rs`).

`reduce_init` opens a network, sends `TrackDna` through it, and records the network with the
DNA address and agent id only when the send is accepted (`reduceInit_cases`); the agent and DHT
reducers write only stores, and no reducer takes a network away or forgets a message sent. So in
every state reachable from `State::new(ctx)`, the network slice is the empty one or names a
network the world holds, together with the DNA address and agent id that network was told to
track (`reachable_network_tracked`).
-/

namespace Holochain

/-- The network slice is the empty one, or names a network of `networks` together with a DNA
address and an agent id for which `TrackDna` was sent through it. -/
def NetworkState.Tracked (ns : NetworkState) (networks : List P2pNetwork) : Prop :=
  ns = .new ∨ ∃ n da aid p, ns = ⟨some n, some da, some aid⟩ ∧ networks[n]? = some p ∧
    JsonProtocol.trackDna da aid ∈ p.sent

theorem NetworkState.Tracked.grow {ns : NetworkState} {networks networks' : List P2pNetwork}
    (h : ns.Tracked networks) (hg : NetworksGrow networks networks') : ns.Tracked networks' := by
  rcases h with rfl | ⟨n, da, aid, p, rfl, hn, hm⟩
  · exact .inl rfl
  · obtain ⟨p', hn', hp⟩ := hg n p hn
    exact .inr ⟨n, da, aid, p', rfl, hn', hp.subset hm⟩

theorem NetworkState.reduce_tracked {ns ns' : NetworkState} {aw : ActionWrapper} {w w' : World}
    (h : ns.reduce aw w = .ok (ns', w')) (ht : ns.Tracked w.networks) :
    ns'.Tracked w'.networks := by
  unfold NetworkState.reduce at h
  split at h
  · obtain ⟨hg, rfl | ⟨p, rfl, hn, hm⟩⟩ := reduceInit_cases h
    · exact ht.grow hg
    · exact .inr ⟨_, _, _, p, rfl, hn, hm⟩
  · cases h; exact ht

section

variable {hash : Content → Address} {ctx : Context}

theorem State.reduce_tracked {s s' : State} {aw : ActionWrapper} {w w' : World}
    (h : s.reduce hash ctx aw w = .ok (s', w')) (ht : s.network.Tracked w.networks) :
    s'.network.Tracked w'.networks :=
  NetworkState.reduce_tracked (State.reduce_ok h).2.2.2.2 (by simpa using ht)

/-- In every state reachable from `State::new(ctx)`, the network slice is the empty one, or
names a network the world holds together with the DNA address and agent id that `TrackDna` was
sent for through that network. -/
theorem reachable_network_tracked {s : State} {w : World} (h : Reachable hash ctx s w) :
    s.network = .new ∨ ∃ n da aid p, s.network = ⟨some n, some da, some aid⟩ ∧
      w.networks[n]? = some p ∧ JsonProtocol.trackDna da aid ∈ p.sent := by
  induction h with
  | new w => exact .inl rfl
  | reduce aw _ hs ih => exact State.reduce_tracked hs ih

theorem reachable_network_tracked_init :
    let hash : Content → Address := fun c => match c with | .entry _ => 1 | .header _ => 2
    ∃ s w, Reachable hash ⟨5, 0, 1, 0⟩ s w ∧ s.network = ⟨some 0, some 7, some "alice"⟩ ∧
      (s.network = .new ∨ ∃ n da aid p, s.network = ⟨some n, some da, some aid⟩ ∧
        w.networks[n]? = some p ∧ JsonProtocol.trackDna da aid ∈ p.sent) := by
  intro hash
  obtain ⟨s, w, h⟩ : ∃ s w, (State.new ⟨5, 0, 1, 0⟩).reduce hash ⟨5, 0, 1, 0⟩
      ⟨.initNetwork ⟨⟨"ipc"⟩, 7, "alice"⟩, 0⟩
      ⟨fun _ => [], fun _ => [], [], ⟨fun _ => true, fun _ => true⟩, fun _ => none, 0⟩ =
        .ok (s, w) :=
    ⟨_, _, rfl⟩
  have hr : Reachable hash ⟨5, 0, 1, 0⟩ s w := .reduce _ (.new _) h
  exact ⟨s, w, hr, by cases h; rfl, reachable_network_tracked hr⟩

end

end Holochain
