import Holochain.CoreTypes.Storage

/-!
The actions that drive the state, and what the state's `Arc`s point to.

A `State` holds its stores by reference (`Arc<RwLock<dyn ContentAddressableStorage>>` and the
EAV store alike), so a reference is a number and the stores it names live in a `World`,
together with the P2P networks opened so far and the transport behind them. The `Context`
names the three stores of an instance. Actions are the ones the modelled workflows dispatch.
-/

namespace Holochain

/-- A reference to a content-addressable store. -/
abbrev CasRef := Nat
/-- A reference to an EAV meta store. -/
abbrev EavRef := Nat
/-- A reference to an opened `P2pNetwork`: its position among the networks opened. -/
abbrev NetRef := Nat

structure P2pConfig where
  backendKind : String
  deriving DecidableEq, Repr

/-- `JsonProtocol`, with the message the modelled code sends. -/
inductive JsonProtocol where
  | trackDna (dnaAddress : Address) (agentId : String)
  deriving DecidableEq, Repr

/-- An opened `P2pNetwork`: its configuration and the messages sent through it. -/
structure P2pNetwork where
  config : P2pConfig
  sent : List JsonProtocol
  deriving DecidableEq, Repr

/-- The transport behind `P2pNetwork`, an external collaborator: which configurations start a
network, and which messages a network accepts. -/
structure Transport where
  starts : P2pConfig → Bool
  accepts : JsonProtocol → Bool

/-! ## Actions -/

/-- The payload of `Action::InitNetwork`. -/
structure NetworkSettings where
  p2pConfig : P2pConfig
  dnaAddress : Address
  agentId : String
  deriving DecidableEq, Repr

/-- `Action`, with the actions the modelled code dispatches. -/
inductive Action where
  | initNetwork (settings : NetworkSettings)
  | commit (entry : Entry) (crudLink : Option Address)
  | hold (entryWithHeader : EntryWithHeader)
  | removeEntry (deletedAddress deletionAddress : Address)
  deriving DecidableEq, Repr

/-- `ActionWrapper`: an action and its `ProcessUniqueId`. Its `PartialEq` and `Hash` read the id
alone (`historyInsert`). -/
structure ActionWrapper where
  action : Action
  id : Nat
  deriving DecidableEq, Repr

/-- The stores by reference, the networks opened so far, the transport, the verdicts of the
reducer code that is not under `src/`, and the next `ProcessUniqueId` an `ActionWrapper` gets.
`refuses` is the error a reducer records for a dispatched action it refuses: the agent
reducer refuses a `Commit` when `create_new_chain_header` cannot sign through the keystore, and
the DHT reducer refuses a `RemoveEntry` on its own checks. A refused action changes no store. -/
structure World where
  cas : CasRef → Cas
  eav : EavRef → Eav
  networks : List P2pNetwork
  transport : Transport
  refuses : ActionWrapper → Option HolochainError
  nextId : Nat

/-- `Context`, with the fields the modelled code reads. -/
structure Context where
  agentAddress : Address
  chainStorage : CasRef
  dhtStorage : CasRef
  eavStorage : EavRef
  deriving DecidableEq, Repr

namespace World

/-- Write through a store reference. -/
def modifyCas (w : World) (r : CasRef) (f : Cas → Cas) : World :=
  { w with cas := fun r' => if r' = r then f (w.cas r) else w.cas r' }

/-- Write through a meta store reference. -/
def modifyEav (w : World) (r : EavRef) (f : Eav → Eav) : World :=
  { w with eav := fun r' => if r' = r then f (w.eav r) else w.eav r' }

@[simp] theorem modifyCas_cas (w : World) (r r' : CasRef) (f : Cas → Cas) :
    (w.modifyCas r f).cas r' = if r' = r then f (w.cas r) else w.cas r' := rfl
@[simp] theorem modifyCas_eav (w : World) (r : CasRef) (f : Cas → Cas) :
    (w.modifyCas r f).eav = w.eav := rfl
@[simp] theorem modifyCas_networks (w : World) (r : CasRef) (f : Cas → Cas) :
    (w.modifyCas r f).networks = w.networks := rfl
@[simp] theorem modifyEav_eav (w : World) (r r' : EavRef) (f : Eav → Eav) :
    (w.modifyEav r f).eav r' = if r' = r then f (w.eav r) else w.eav r' := rfl
@[simp] theorem modifyEav_cas (w : World) (r : EavRef) (f : Eav → Eav) :
    (w.modifyEav r f).cas = w.cas := rfl
@[simp] theorem modifyEav_networks (w : World) (r : EavRef) (f : Eav → Eav) :
    (w.modifyEav r f).networks = w.networks := rfl
@[simp] theorem modifyCas_refuses (w : World) (r : CasRef) (f : Cas → Cas) :
    (w.modifyCas r f).refuses = w.refuses := rfl
@[simp] theorem modifyEav_refuses (w : World) (r : EavRef) (f : Eav → Eav) :
    (w.modifyEav r f).refuses = w.refuses := rfl

end World

end Holochain
