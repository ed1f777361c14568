import Mathlib.Data.String.Basic

/-!
The data of `holochain_core_types` that the core reads: addresses, entry types, the DNA,
entries, chain headers, the contents a store holds, errors and validation data.

A content is stored under the hash of its serialisation. That hash (SHA-256 in the source)
is not modelled: every function that computes an address takes it as a parameter
`hash : Content → Address`.
-/

namespace Holochain

/-- `HashString`: an address in a content-addressable store. -/
abbrev Address := Nat

/-- `EntryType`, with an app entry type carrying its name. -/
inductive EntryType where
  | app (name : String)
  | dna
  | agentId
  | deletion
  | linkAdd
  | linkRemove
  deriving DecidableEq, Repr

/-! ## The DNA -/

/-- `EntryTypeDef`, with the fields no modelled function reads left out. -/
structure EntryTypeDef where
  description : String
  deriving DecidableEq, Repr

/-- `Zome`: its entry types, a `BTreeMap` given by its entries, whose keys are distinct (their
order is not modelled: no modelled function depends on it). -/
structure Zome where
  description : String
  entryTypes : List (EntryType × EntryTypeDef)
  entryTypes_nodup : (entryTypes.map Prod.fst).Nodup
  deriving DecidableEq, Repr

/-- `Dna`: its zomes, a `BTreeMap` from zome names given by its entries in key order. -/
structure Dna where
  name : String
  uuid : String
  zomes : List (String × Zome)
  zomes_sorted : (zomes.map Prod.fst).Pairwise (· < ·)
  deriving DecidableEq, Repr

/-! ## Entries and headers -/

inductive Entry where
  | app (entryType : String) (value : String)
  | dna (dna : Dna)
  | agentId (nick : String) (key : String)
  | deletion (deletedEntryAddress : Address)
  | linkAdd (base target : Address) (tag : String)
  | linkRemove (base target : Address) (tag : String)
  deriving DecidableEq, Repr

def Entry.entryType : Entry → EntryType
  | .app t _ => .app t
  | .dna _ => .dna
  | .agentId _ _ => .agentId
  | .deletion _ => .deletion
  | .linkAdd _ _ _ => .linkAdd
  | .linkRemove _ _ _ => .linkRemove

/-- `ChainHeader`. Its timestamp and the signatures of its provenances come from the clock
and the keystore and are read by no modelled function; a provenance is its agent's address. -/
structure ChainHeader where
  entryType : EntryType
  entryAddress : Address
  provenances : List Address
  link : Option Address
  linkUpdateDelete : Option Address
  deriving DecidableEq, Repr

/-- `EntryWithHeader`: an entry together with the header that should reference it. -/
structure EntryWithHeader where
  entry : Entry
  header : ChainHeader
  deriving DecidableEq, Repr

/-! ## Errors -/

/-- `HolochainError`, with the variants the modelled code produces or passes on. -/
inductive HolochainError where
  | errorGeneric (message : String)
  | serializationError (message : String)
  | validationFailed (message : String)
  | ribosomeFailed (message : String)
  | timeout
  deriving DecidableEq, Repr

/-- Modelled from the spec: `HolochainError`'s `Display` is not under `src/`; a failure is
logged with its context (§5), here the message the variant carries. -/
def HolochainError.display : HolochainError → String
  | .errorGeneric m | .serializationError m | .validationFailed m | .ribosomeFailed m => m
  | .timeout => "timeout"

/-- A Rust panic, with its message. A function that may panic returns `Except Panic α`. -/
structure Panic where
  message : String
  deriving DecidableEq, Repr

/-- The panic of `Result::unwrap` on an `Err`, given the error's `Debug` text. -/
def Panic.unwrap (error : String) : Panic :=
  ⟨"called `Result::unwrap()` on an `Err` value: " ++ error⟩

/-- The panic of `Result::expect` on an `Err`. -/
def Panic.expect (message error : String) : Panic := ⟨message ++ ": " ++ error⟩

theorem Except.bind_eq_ok {ε α β : Type} {x : Except ε α} {f : α → Except ε β} {b : β} :
    x >>= f = .ok b ↔ ∃ a, x = .ok a ∧ f a = .ok b := by
  cases x <;> simp [bind, Except.bind]

/-! ## Contents -/

/-- What a content-addressable store holds: the serialisation of an entry or of a header. -/
inductive Content where
  | entry (e : Entry)
  | header (h : ChainHeader)
  deriving DecidableEq, Repr

section Addressing

variable (hash : Content → Address)

/-- `AddressableContent::address` of an entry. -/
def Entry.address (e : Entry) : Address := hash (.entry e)

/-- `AddressableContent::address` of a header. -/
def ChainHeader.address (h : ChainHeader) : Address := hash (.header h)

end Addressing

/-- `ChainHeader::try_from_content`. -/
def ChainHeader.tryFromContent : Content → Except HolochainError ChainHeader
  | .header h => .ok h
  | .entry _ => .error (.serializationError "expected a ChainHeader")

/-- `Entry::try_from` a stored content. -/
def Entry.tryFromContent : Content → Except HolochainError Entry
  | .entry e => .ok e
  | .header _ => .error (.serializationError "expected an Entry")

/-! ## CRUD status and validation -/

/-- `CrudStatus`, stored in the meta store as its bit flag. -/
inductive CrudStatus where
  | live
  | rejected
  | deleted
  | modified
  | locked
  deriving DecidableEq, Repr

def CrudStatus.bits : CrudStatus → Nat
  | .live => 0x01
  | .rejected => 0x02
  | .deleted => 0x04
  | .modified => 0x08
  | .locked => 0x10

inductive EntryLifecycle where
  | chain
  | dht
  | meta
  deriving DecidableEq, Repr

inductive EntryAction where
  | create
  | modify
  | delete
  deriving DecidableEq, Repr

structure ValidationPackage where
  chainHeader : ChainHeader
  sourceChainEntries : Option (List Entry)
  sourceChainHeaders : Option (List ChainHeader)
  deriving DecidableEq, Repr

structure ValidationData where
  package : ValidationPackage
  lifecycle : EntryLifecycle
  action : EntryAction
  deriving DecidableEq, Repr

end Holochain
