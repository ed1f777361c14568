import Holochain.Core.Agent
import Holochain.Core.Dht
import Holochain.Core.Network.Reducers
import Mathlib.Data.Finset.Image

/-!
`State` (`state.rs`): the four slices and the history of reduced actions; `State::new`,
`State::new_with_agent` with its `get_dna`, `State::reduce`, `try_from_agent_snapshot` and
`get_headers`. The slices hold their stores by reference, so every function that reads a
store takes the `World`.

`State.reduce_ok` says once what a reduction does; `Reachable` collects the states reductions
reach from `State::new(ctx)`, and `reachable_refs` shows they all read the context's stores.
-/

namespace Holochain

/-- `NucleusState`, with the field the modelled code reads. -/
structure NucleusState where
  dna : Option Dna
  deriving DecidableEq, Repr

/-- `NucleusState::new`. -/
def NucleusState.new : NucleusState := ⟨none⟩

/-- `nucleus::reduce` (not under `src/`): the nucleus has no reducer for the modelled actions. -/
def NucleusState.reduce (n : NucleusState) (_aw : ActionWrapper) : NucleusState := n

/-- `State`. The history is a `HashSet`: a finite set, with one wrapper for each id. -/
structure State where
  nucleus : NucleusState
  agent : AgentState
  dht : DhtStore
  network : NetworkState
  history : Finset ActionWrapper
  deriving DecidableEq

/-- `State::new`: the chain over the context's chain storage, the DHT over its DHT storage. -/
def State.new (ctx : Context) : State where
  nucleus := .new
  agent := .new ⟨ctx.chainStorage⟩
  dht := ⟨ctx.dhtStorage, ctx.eavStorage⟩
  network := .new
  history := ∅

/-- `get_dna` in `State::new_with_agent`: the agent's last header of type `Dna`, found through
its chain store, and the entry at that header's entry address in `cas`. -/
def getDna (w : World) (agent : AgentState) (cas : CasRef) : Except HolochainError Dna := do
  let dnaEntryHeader ← match
      ((w.cas agent.chainStore.contentStorage).iterType agent.topChainHeader .dna).getLast? with
    | some h => pure h
    | none => throw (.errorGeneric
        "No DNA entry found in source chain while creating state from agent")
  let entry ← match (w.cas cas).fetch dnaEntryHeader.entryAddress with
    | some c => Entry.tryFromContent c
    | none => throw (.errorGeneric "No DNA entry found in storage while creating state from agent")
  match entry with
  | .dna dna => pure dna
  | _ => throw (.serializationError "Tried to get Dna from non-Dna Entry")

/-- `State::new_with_agent`: the DNA is read from the context's DHT storage, and a DNA that
cannot be read becomes `None`. -/
def State.newWithAgent (ctx : Context) (agent : AgentState) (w : World) : State where
  nucleus := { dna := (getDna w agent ctx.dhtStorage).toOption }
  agent := agent
  dht := ⟨ctx.dhtStorage, ctx.eavStorage⟩
  network := .new
  history := ∅

/-- `State::try_from_agent_snapshot`: the restored chain store is built over the context's DHT
storage. -/
def State.tryFromAgentSnapshot (ctx : Context) (snapshot : AgentStateSnapshot) (w : World) :
    Except HolochainError State :=
  .ok (.newWithAgent ctx ⟨⟨ctx.dhtStorage⟩, snapshot.topChainHeader⟩ w)

/-- `HashSet::insert` into the history under the `PartialEq` and `Hash` of `ActionWrapper`,
which read its id alone: a wrapper whose id is recorded already leaves the set as it is. -/
def historyInsert (history : Finset ActionWrapper) (aw : ActionWrapper) : Finset ActionWrapper :=
  if aw.id ∈ history.image (·.id) then history else insert aw history

theorem historyInsert_of_mem {history : Finset ActionWrapper} {aw : ActionWrapper}
    (h : aw.id ∈ history.image (·.id)) : historyInsert history aw = history := if_pos h

theorem subset_historyInsert (history : Finset ActionWrapper) (aw : ActionWrapper) :
    history ⊆ historyInsert history aw := by
  unfold historyInsert; split_ifs
  · exact subset_rfl
  · exact Finset.subset_insert _ _

theorem historyInsert_subset (history : Finset ActionWrapper) (aw : ActionWrapper) :
    historyInsert history aw ⊆ insert aw history := by
  unfold historyInsert; split_ifs
  · exact Finset.subset_insert _ _
  · exact subset_rfl

theorem image_id_historyInsert (history : Finset ActionWrapper) (aw : ActionWrapper) :
    (historyInsert history aw).image (·.id) = insert aw.id (history.image (·.id)) := by
  unfold historyInsert; split_ifs with h
  · exact (Finset.insert_eq_of_mem h).symm
  · exact Finset.image_insert _ _ _

section Reduce

variable (hash : Content → Address) (ctx : Context)

/-- `State::reduce`: each slice is reduced against the same action, in field order, the world
passing from one slice reducer to the next; then the action joins the history. -/
def State.reduce (s : State) (aw : ActionWrapper) (w : World) : Except Panic (State × World) := do
  let nucleus := s.nucleus.reduce aw
  let (agent, w) := s.agent.reduce hash ctx aw w
  let (dht, w) := s.dht.reduce hash aw w
  let (network, w) ← s.network.reduce aw w
  pure (⟨nucleus, agent, dht, network, historyInsert s.history aw⟩, w)

/-- Reduce the actions one after the other. -/
def State.run : State → World → List ActionWrapper → Except Panic (State × World)
  | s, w, [] => .ok (s, w)
  | s, w, aw :: rest => do
    let (s, w) ← s.reduce hash ctx aw w
    State.run s w rest

/-- The states reductions reach from `State::new(ctx)`, whatever the stores held first. -/
inductive Reachable : State → World → Prop
  | new (w : World) : Reachable (.new ctx) w
  | reduce {s s' : State} {w w' : World} (aw : ActionWrapper) :
      Reachable s w → s.reduce hash ctx aw w = .ok (s', w') → Reachable s' w'

/-- An instance: its current state and the world. -/
structure Node where
  state : State
  world : World

/-- `dispatch_action` and the reduction of the action, which gets the next `ProcessUniqueId`. -/
def Node.dispatch (n : Node) (a : Action) : Except Panic Node := do
  let (s, w) ← n.state.reduce hash ctx ⟨a, n.world.nextId⟩
    { n.world with nextId := n.world.nextId + 1 }
  pure ⟨s, w⟩

variable {hash ctx}

theorem State.reduce_ok {s s' : State} {aw : ActionWrapper} {w w' : World}
    (h : s.reduce hash ctx aw w = .ok (s', w')) :
    s'.nucleus = s.nucleus ∧ s'.agent = (s.agent.reduce hash ctx aw w).1 ∧ s'.dht = s.dht ∧
      s'.history = historyInsert s.history aw ∧
      s.network.reduce aw (s.dht.reduce hash aw (s.agent.reduce hash ctx aw w).2).2 =
        .ok (s'.network, w') := by
  obtain ⟨p, hn, ⟨⟩⟩ := Except.bind_eq_ok.mp h
  exact ⟨rfl, rfl, DhtStore.reduce_fst _ _ _, rfl, hn⟩

theorem State.reduce_isOk (s : State) (aw : ActionWrapper) (w : World)
    (h : ∀ n, aw.action ≠ .initNetwork n) : ∃ p, s.reduce hash ctx aw w = .ok p := by
  simp only [State.reduce, NetworkState.reduce_of_not_init _ aw _ h]
  exact ⟨_, rfl⟩

/-- The store references of a state: its chain store and its DHT stores. -/
def State.refs (s : State) : ChainStore × DhtStore := (s.agent.chainStore, s.dht)

theorem State.refs_reduce {s s' : State} {aw : ActionWrapper} {w w' : World}
    (h : s.reduce hash ctx aw w = .ok (s', w')) : s'.refs = s.refs := by
  obtain ⟨-, ha, hd, -⟩ := State.reduce_ok h
  simp [State.refs, ha, hd]

theorem reachable_refs {s : State} {w : World} (h : Reachable hash ctx s w) :
    s.refs = (⟨ctx.chainStorage⟩, ⟨ctx.dhtStorage, ctx.eavStorage⟩) := by
  induction h with
  | new => rfl
  | reduce _ _ hr ih => rw [State.refs_reduce hr, ih]

end Reduce

/-! ## Headers of an entry -/

section Headers

variable (hash : Content → Address)

/-- The query `get_headers` sends to the meta store. -/
def headerQuery (entryAddress : Address) : EaviQuery :=
  ⟨some entryAddress, some .entryHeader, none, .latestByAttribute⟩

/-- The chain's headers for an entry, in chain order. -/
def chainHeadersFor (chainCas : Cas) (top : Option ChainHeader) (entryAddress : Address) :
    List ChainHeader :=
  (chainCas.iter top).filter (·.entryAddress = entryAddress)

/-- The contents `dhtCas` holds at the header addresses the meta store answers for the entry,
leaving out the addresses in `exclude`. -/
def dhtHeaderContents (dhtCas : Cas) (metaStore : Eav) (exclude : List Address)
    (entryAddress : Address) : List Content :=
  (((metaStore.fetchEavi (headerQuery entryAddress)).map (·.value)).filter
    fun a => !exclude.contains a).filterMap dhtCas.fetch

/-- What `get_headers` computes from what it reads: the chain from `top` through `chainCas`,
the meta store `metaStore` and the DHT content store `dhtCas`. -/
def headersFor (chainCas dhtCas : Cas) (metaStore : Eav) (top : Option ChainHeader)
    (entryAddress : Address) : Except HolochainError (List ChainHeader) := do
  let headers := chainHeadersFor chainCas top entryAddress
  let dhtHeaders ← (dhtHeaderContents dhtCas metaStore (headers.map (·.address hash))
    entryAddress).mapM ChainHeader.tryFromContent
  pure (headers ++ dhtHeaders)

/-- `State::get_headers`: the chain's headers for the entry, then the DHT's. -/
def State.getHeaders (s : State) (w : World) (entryAddress : Address) :
    Except HolochainError (List ChainHeader) :=
  headersFor hash (w.cas s.agent.chainStore.contentStorage) (w.cas s.dht.contentStorage)
    (w.eav s.dht.metaStorage) s.agent.topChainHeader entryAddress

variable {hash}

theorem headersFor_ok {chainCas dhtCas : Cas} {metaStore : Eav} {top : Option ChainHeader}
    {entryAddress : Address} {hs : List ChainHeader}
    (h : headersFor hash chainCas dhtCas metaStore top entryAddress = .ok hs) :
    ∃ dhs, (dhtHeaderContents dhtCas metaStore
        ((chainHeadersFor chainCas top entryAddress).map (·.address hash)) entryAddress).mapM
        ChainHeader.tryFromContent = .ok dhs ∧
      hs = chainHeadersFor chainCas top entryAddress ++ dhs := by
  dsimp only [headersFor] at h
  obtain ⟨dhs, hd, h⟩ := Except.bind_eq_ok.mp h
  cases h; exact ⟨dhs, hd, rfl⟩

end Headers

end Holochain
