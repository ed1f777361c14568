import Holochain.Core.Context

/-!
The agent slice: the source chain, read through a content-addressable store, and the reducer
of `Action::Commit`. `ChainStore` and the agent reducers are not under `src/`; they follow the
spec (§3, §4.4 Author): a chain is a list of headers linked backwards by `link`, and a commit
stores the entry and a new top header in the chain's own store.
-/

namespace Holochain

/-- `ChainStore`: a chain read through a content-addressable store. -/
structure ChainStore where
  contentStorage : CasRef
  deriving DecidableEq, Repr

/-- `AgentState`, with the fields the modelled code reads. -/
structure AgentState where
  chainStore : ChainStore
  topChainHeader : Option ChainHeader
  deriving DecidableEq, Repr

/-- `AgentState::new`: an empty chain over the given store. -/
def AgentState.new (chainStore : ChainStore) : AgentState := ⟨chainStore, none⟩

/-- `AgentStateSnapshot`: what is persisted of an agent, its top header. -/
structure AgentStateSnapshot where
  topChainHeader : Option ChainHeader
  deriving DecidableEq, Repr

/-- `AgentStateSnapshot::from(agent_state)`. -/
def AgentState.snapshot (a : AgentState) : AgentStateSnapshot := ⟨a.topChainHeader⟩

/-! ## Iterating a chain -/

/-- The header stored at an address, if a header is stored there. -/
def Cas.fetchHeader (cas : Cas) (a : Address) : Option ChainHeader :=
  match cas.fetch a with
  | some (.header h) => some h
  | _ => none

/-- Modelled from the spec: `ChainStore::iter` (not under `src/`) from `h`, following each
header's `link` through `cas`, visiting at most `fuel` headers. -/
def Cas.chainFrom (cas : Cas) : Nat → ChainHeader → List ChainHeader
  | 0, _ => []
  | fuel + 1, h => h :: match h.link.bind cas.fetchHeader with
    | some h' => cas.chainFrom fuel h'
    | none => []

/-- `ChainStore::iter`. Past its start every header of an acyclic chain is stored, so
`cas.length + 1` headers cover it. -/
def Cas.iter (cas : Cas) : Option ChainHeader → List ChainHeader
  | none => []
  | some h => cas.chainFrom (cas.length + 1) h

/-- Modelled from the spec: `ChainStore::iter_type`, the chain's headers of one entry type. -/
def Cas.iterType (cas : Cas) (start : Option ChainHeader) (t : EntryType) : List ChainHeader :=
  (cas.iter start).filter (·.entryType = t)

/-- `AgentState::iter_chain`, read through the agent's own chain store. -/
def AgentState.iterChain (w : World) (a : AgentState) : List ChainHeader :=
  (w.cas a.chainStore.contentStorage).iter a.topChainHeader

/-! ## Committing -/

section Commit

variable (hash : Content → Address)

/-- Modelled from the spec: `create_new_chain_header` (not under `src/`), a header for `entry`
by the context's agent that links back to the current top. -/
def createNewChainHeader (ctx : Context) (agent : AgentState) (entry : Entry)
    (crudLink : Option Address) : ChainHeader where
  entryType := entry.entryType
  entryAddress := entry.address hash
  provenances := [ctx.agentAddress]
  link := agent.topChainHeader.map (·.address hash)
  linkUpdateDelete := crudLink

/-- Modelled from the spec: the agent reducer of `Action::Commit` (not under `src/`) stores the
entry and a new header in the chain's store and puts the header on top. -/
def reduceCommitEntry (ctx : Context) (agent : AgentState) (entry : Entry)
    (crudLink : Option Address) (w : World) : AgentState × World :=
  let header := createNewChainHeader hash ctx agent entry crudLink
  ({ agent with topChainHeader := some header },
    w.modifyCas agent.chainStore.contentStorage fun cas =>
      (cas.add hash (.entry entry)).add hash (.header header))

/-- `agent::state::reduce` (not under `src/`): of the modelled actions only `Action::Commit`
has an agent reducer, and a refused commit leaves the chain as it is. -/
def AgentState.reduce (ctx : Context) (agent : AgentState) (aw : ActionWrapper) (w : World) :
    AgentState × World :=
  match aw.action with
  | .commit entry crudLink =>
    if (w.refuses aw).isSome then (agent, w) else reduceCommitEntry hash ctx agent entry crudLink w
  | _ => (agent, w)

variable {hash}

@[simp] theorem AgentState.reduce_chainStore (ctx : Context) (agent : AgentState)
    (aw : ActionWrapper) (w : World) :
    (agent.reduce hash ctx aw w).1.chainStore = agent.chainStore := by
  unfold AgentState.reduce; split <;> (try split_ifs) <;> rfl

@[simp] theorem AgentState.reduce_networks (ctx : Context) (agent : AgentState)
    (aw : ActionWrapper) (w : World) : (agent.reduce hash ctx aw w).2.networks = w.networks := by
  unfold AgentState.reduce; split <;> (try split_ifs) <;> simp [reduceCommitEntry]

end Commit

end Holochain
