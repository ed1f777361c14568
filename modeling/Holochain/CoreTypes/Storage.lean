import Holochain.CoreTypes.Entry

/-!
The two stores behind the DHT and the chain: a content-addressable store (CAS) and an
entity-attribute-value (EAV) meta store with its query. Their implementations are not under
`src/`; both follow the spec (§4.2): the CAS is write-once, the EAV store is append-only with
rows in index order, and a query filters rows by entity, attribute and value and then applies
an index filter. `LatestByAttribute` is the one of `EaviQuery::run` in `holochain_core_types`:
for each selected row it takes the most recent row with the same entity and value, so one row
is kept per (entity, value), not per (entity, attribute) as the filter's name says.
-/

namespace Holochain

/-! ## Content-addressable store -/

/-- A content-addressable store: its `(address, content)` pairs, the newest first. -/
abbrev Cas := List (Address × Content)

/-- `ContentAddressableStorage::fetch`. -/
def Cas.fetch (cas : Cas) (a : Address) : Option Content := cas.lookup a

/-- Modelled from the spec: `ContentAddressableStorage::add` (not under `src/`) stores a
content under its address; writing an address a second time is a no-op. -/
def Cas.add (hash : Content → Address) (cas : Cas) (c : Content) : Cas :=
  if (cas.fetch (hash c)).isSome then cas else (hash c, c) :: cas

@[simp] theorem Cas.fetch_nil (a : Address) : Cas.fetch [] a = none := rfl

theorem Cas.mem_of_fetch {cas : Cas} {a : Address} {c : Content} (h : cas.fetch a = some c) :
    (a, c) ∈ cas := by
  obtain ⟨l₁, l₂, rfl, -⟩ := List.lookup_eq_some_iff.mp h
  simp

/-! ## EAV meta store -/

inductive Attribute where
  | entryHeader
  | crudStatus
  | crudLink
  | linkTag (tag : String)
  | removedLink (tag : String)
  deriving DecidableEq, Repr

/-- `EntityAttributeValueIndex`: a row of the meta store. Its index is its position. -/
structure Eavi where
  entity : Address
  attr : Attribute
  value : Address
  deriving DecidableEq, Repr

/-- An EAV meta store: its rows in index order, the oldest first. -/
abbrev Eav := List Eavi

/-- `EntityAttributeValueStorage::add_eavi`: the new row gets the next index. -/
def Eav.addEavi (eav : Eav) (r : Eavi) : Eav := eav ++ [r]

inductive IndexFilter where
  | latestByAttribute
  | range (start stop : Option Nat)
  deriving DecidableEq, Repr

/-- `EaviQuery`: `none` in a filter admits every entity, attribute or value. -/
structure EaviQuery where
  entity : Option Address
  attr : Option Attribute
  value : Option Address
  index : IndexFilter
  deriving DecidableEq, Repr

def EaviQuery.admits (q : EaviQuery) (r : Eavi) : Bool :=
  q.entity.all (· = r.entity) && q.attr.all (· = r.attr) && q.value.all (· = r.value)

/-- Two rows share their entity and value. -/
def Eavi.sameEntityValue (r r' : Eavi) : Bool := r.entity = r'.entity && r.value = r'.value

@[simp] theorem Eavi.sameEntityValue_eq_true {r r' : Eavi} :
    r.sameEntityValue r' = true ↔ r.entity = r'.entity ∧ r.value = r'.value := by
  simp [Eavi.sameEntityValue]

/-- Keep, of the selected rows, the most recent one for each (entity, value). -/
def latestByAttribute : List Eavi → List Eavi
  | [] => []
  | r :: rs =>
    if rs.any r.sameEntityValue then latestByAttribute rs else r :: latestByAttribute rs

def inRange (start stop : Option Nat) (i : Nat) : Bool := start.all (· ≤ i) && stop.all (i ≤ ·)

/-- `fetch_eavi` (not under `src/`): the rows a query selects, in index order. -/
def Eav.fetchEavi (eav : Eav) (q : EaviQuery) : List Eavi :=
  match q.index with
  | .latestByAttribute => latestByAttribute (eav.filter q.admits)
  | .range start stop =>
    ((eav.enum.filter fun p => inRange start stop p.1 && q.admits p.2)).map Prod.snd

end Holochain
