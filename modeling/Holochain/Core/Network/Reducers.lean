import Holochain.Core.Context

/-!
The network slice and `reduce_init` (`network/reducers/init.rs`). Opening a `P2pNetwork`
appends a network to the world; sending records the message on it. Whether a network starts
and whether a message is accepted is the transport's answer.
-/

namespace Holochain

/-- `NetworkState`, with the fields `reduce_init` writes. -/
structure NetworkState where
  network : Option NetRef
  dnaAddress : Option Address
  agentId : Option String
  deriving DecidableEq, Repr

/-- `NetworkState::new`. -/
def NetworkState.new : NetworkState := ⟨none, none, none⟩

namespace World

/-- `P2pNetwork::new`: a fresh network, or `none` when the transport does not start one. -/
def openNetwork (w : World) (config : P2pConfig) : Option (NetRef × World) :=
  if w.transport.starts config then
    some (w.networks.length, { w with networks := w.networks ++ [⟨config, []⟩] })
  else none

/-- `P2pNetwork::send`: `none` when the transport refuses the message. -/
def send (w : World) (n : NetRef) (msg : JsonProtocol) : Option World :=
  if w.transport.accepts msg then
    some { w with networks := w.networks.modify (fun p => { p with sent := p.sent ++ [msg] }) n }
  else none

end World

/-- `reduce_init`: open a network, send `TrackDna` through it, and on success record the
network, the DNA address and the agent id. The network is opened with `unwrap`. -/
def reduceInit (state : NetworkState) (settings : NetworkSettings) (w : World) :
    Except Panic (NetworkState × World) :=
  match w.openNetwork settings.p2pConfig with
  | none => .error ⟨"called `Result::unwrap()` on an `Err` value"⟩
  | some (network, w) =>
    match w.send network (.trackDna settings.dnaAddress settings.agentId) with
    | some w =>
      .ok ({ network := some network, dnaAddress := some settings.dnaAddress,
             agentId := some settings.agentId }, w)
    | none => .ok (state, w)

/-- `network::reducers::reduce` (not under `src/`): `reduce_init` is the reducer of
`Action::InitNetwork` (its `unwrap_to!` admits no other action); the network slice has no
reducer for the other modelled actions. -/
def NetworkState.reduce (ns : NetworkState) (aw : ActionWrapper) (w : World) :
    Except Panic (NetworkState × World) :=
  match aw.action with
  | .initNetwork settings => reduceInit ns settings w
  | _ => .ok (ns, w)

theorem NetworkState.reduce_of_not_init (ns : NetworkState) (aw : ActionWrapper) (w : World)
    (h : ∀ n, aw.action ≠ .initNetwork n) : ns.reduce aw w = .ok (ns, w) := by
  unfold NetworkState.reduce; split
  · exact absurd ‹_› (h _)
  · rfl

/-! ## The networks only grow -/

/-- Every network of `ns` is in `ns'` at the same index, and the messages sent through it before
come first among its messages. -/
def NetworksGrow (ns ns' : List P2pNetwork) : Prop :=
  ∀ (n : Nat) (p : P2pNetwork), ns[n]? = some p →
    ∃ p' : P2pNetwork, ns'[n]? = some p' ∧ p.sent <+: p'.sent

theorem NetworksGrow.refl (ns : List P2pNetwork) : NetworksGrow ns ns := by
  intro _ p h; exact ⟨p, h, List.prefix_rfl⟩

theorem NetworksGrow.trans {ns ns' ns'' : List P2pNetwork} (h : NetworksGrow ns ns')
    (h' : NetworksGrow ns' ns'') : NetworksGrow ns ns'' := by
  intro n p hn
  obtain ⟨p', hn', hp⟩ := h n p hn
  obtain ⟨p'', hn'', hp'⟩ := h' n p' hn'
  exact ⟨p'', hn'', hp.trans hp'⟩

theorem NetworksGrow.append (ns : List P2pNetwork) (p : P2pNetwork) :
    NetworksGrow ns (ns ++ [p]) := by
  intro n q hn
  exact ⟨q, by rw [List.getElem?_append_left (List.getElem?_eq_some_iff.mp hn).1]; exact hn,
    List.prefix_rfl⟩

theorem NetworksGrow.send (ns : List P2pNetwork) (k : Nat) (msg : JsonProtocol) :
    NetworksGrow ns (ns.modify (fun p => { p with sent := p.sent ++ [msg] }) k) := by
  intro n p hn
  rw [List.getElem?_modify, hn]
  by_cases hk : k = n
  · exact ⟨{ p with sent := p.sent ++ [msg] }, by simp [hk], List.prefix_append _ _⟩
  · exact ⟨p, by simp [hk], List.prefix_rfl⟩

theorem reduceInit_cases {state state' : NetworkState} {settings : NetworkSettings}
    {w w' : World} (h : reduceInit state settings w = .ok (state', w')) :
    NetworksGrow w.networks w'.networks ∧
      (state' = state ∨ ∃ p, state' = ⟨some w.networks.length, some settings.dnaAddress,
          some settings.agentId⟩ ∧ w'.networks[w.networks.length]? = some p ∧
        .trackDna settings.dnaAddress settings.agentId ∈ p.sent) := by
  unfold reduceInit World.openNetwork World.send at h
  by_cases hs : w.transport.starts settings.p2pConfig
  · by_cases ha : w.transport.accepts (.trackDna settings.dnaAddress settings.agentId) <;>
      simp only [hs, ha, if_true, Except.ok.injEq, Prod.mk.injEq] at h <;>
      obtain ⟨rfl, rfl⟩ := h
    · exact ⟨(NetworksGrow.append _ _).trans (NetworksGrow.send _ _ _),
        .inr ⟨⟨settings.p2pConfig, [.trackDna settings.dnaAddress settings.agentId]⟩, rfl,
          by simp, by simp⟩⟩
    · exact ⟨NetworksGrow.append _ _, .inl rfl⟩
  · simp [hs] at h

end Holochain
