import Holochain.Core.Context

/-!
The DHT slice: the shard's content and meta stores, held by reference, and the reducers of
`Action::Hold` and `Action::RemoveEntry`. The reducers are not under `src/`; they follow the
spec (§4.2, §4.4 Hold and Remove): holding adds the entry to the content store and its header
to both stores, removing adds a `Deleted` status row and a CRUD link row.
-/

namespace Holochain

/-- `DhtStore`: the shard's content and meta stores, by reference. -/
structure DhtStore where
  contentStorage : CasRef
  metaStorage : EavRef
  deriving DecidableEq, Repr

/-- `create_crud_status_eav`. -/
def crudStatusEavi (a : Address) (s : CrudStatus) : Eavi := ⟨a, .crudStatus, s.bits⟩

/-- `create_crud_link_eav`. -/
def crudLinkEavi (a b : Address) : Eavi := ⟨a, .crudLink, b⟩

/-- The status rows of an address that a current-status query selects (§4.2). -/
def DhtStore.crudStatusRows (dht : DhtStore) (w : World) (a : Address) : List Eavi :=
  (w.eav dht.metaStorage).fetchEavi ⟨some a, some .crudStatus, none, .latestByAttribute⟩

section Reducers

variable (hash : Content → Address)

/-- Modelled from the spec and from its use in `get_entry_results_roundtrip`:
`DhtStore::add_header_for_entry` puts the header in the content store and the row
`(entry address, EntryHeader, header address)` in the meta store. -/
def DhtStore.addHeaderForEntry (dht : DhtStore) (entry : Entry) (header : ChainHeader)
    (w : World) : World :=
  (w.modifyCas dht.contentStorage (·.add hash (.header header))).modifyEav dht.metaStorage
    (·.addEavi ⟨entry.address hash, .entryHeader, header.address hash⟩)

/-- Modelled from the spec: the DHT reducer of `Action::Hold` (not under `src/`). -/
def reduceHoldEntry (dht : DhtStore) (ewh : EntryWithHeader) (w : World) : World :=
  dht.addHeaderForEntry hash ewh.entry ewh.header
    (w.modifyCas dht.contentStorage (·.add hash (.entry ewh.entry)))

/-- Modelled from the spec: the DHT reducer of `Action::RemoveEntry` (not under `src/`). -/
def reduceRemoveEntry (dht : DhtStore) (deleted deletion : Address) (w : World) : World :=
  w.modifyEav dht.metaStorage fun eav =>
    (eav.addEavi (crudStatusEavi deleted .deleted)).addEavi (crudLinkEavi deleted deletion)

/-- `dht::dht_reducers::reduce` (not under `src/`): a reducer hands back a store with the same
references, and a refused removal leaves the meta store as it is. -/
def DhtStore.reduce (dht : DhtStore) (aw : ActionWrapper) (w : World) : DhtStore × World :=
  match aw.action with
  | .hold ewh => (dht, reduceHoldEntry hash dht ewh w)
  | .removeEntry deleted deletion =>
    (dht, if (w.refuses aw).isSome then w else reduceRemoveEntry dht deleted deletion w)
  | _ => (dht, w)

variable {hash}

@[simp] theorem DhtStore.reduce_fst (dht : DhtStore) (aw : ActionWrapper) (w : World) :
    (dht.reduce hash aw w).1 = dht := by
  unfold DhtStore.reduce; split <;> rfl

@[simp] theorem DhtStore.reduce_networks (dht : DhtStore) (aw : ActionWrapper) (w : World) :
    (dht.reduce hash aw w).2.networks = w.networks := by
  unfold DhtStore.reduce
  split <;> (try split_ifs) <;>
    simp [reduceHoldEntry, reduceRemoveEntry, DhtStore.addHeaderForEntry]

end Reducers

end Holochain
