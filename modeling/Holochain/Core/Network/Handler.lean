import Holochain.Core.Workflows.HoldEntry

/-!
The network bridge's store handlers (`network/handler/store.rs`).

`handle_store_entry` and `handle_store_meta` run on the network handler's thread. They read
the message there, with `unwrap`, `expect` and `assert_eq!`, and only then spawn the thread that
runs the workflow and logs its error. So they return exactly when the content reads as an
`EntryWithHeader` and, for the attributes `"link"` and `"link_remove"`, when the content list
is one content that reads as one; the spawned hold never panics, and it logs the workflow's
error and nothing else (`store_handlers_return_iff`). Content of another shape panics on the
handler thread (`store_handlers_panic_on_malformed`).

Scope: `hold_link_workflow` and `remove_link_workflow` are not under `src/`, so a spawned link
workflow is recorded and not run. `crud_status::STATUS_NAME` and `LINK_NAME` are not under
`src/` either: they are parameters, and the results hold for any two names.
-/

namespace Holochain

/-- A JSON value a peer sends as content: the serialisation of an `EntryWithHeader`, or a
document that does not read as one, with serde's error for it. -/
inductive JsonValue where
  | entryWithHeader (ewh : EntryWithHeader)
  | other (error : String)
  deriving DecidableEq, Repr

/-- `serde_json::from_str::<EntryWithHeader>` of the value's text. -/
def JsonValue.toEntryWithHeader : JsonValue → Except String EntryWithHeader
  | .entryWithHeader ewh => .ok ewh
  | .other error => .error error

/-- `EntryData`, the payload of `StoreEntry`, with the field the handler reads. -/
structure EntryData where
  entryContent : JsonValue
  deriving DecidableEq, Repr

/-- `DhtMetaData`, the payload of `StoreMeta`, with the fields the handler reads. -/
structure DhtMetaData where
  attr : String
  contentList : List JsonValue
  deriving DecidableEq, Repr

/-- The workflow a handler spawns on its own thread. -/
inductive Spawned where
  | holdEntry (ewh : EntryWithHeader)
  | holdLink (ewh : EntryWithHeader)
  | removeLink (ewh : EntryWithHeader)
  deriving DecidableEq, Repr

/-- What a handler has done when it returns: the lines it logged and the workflow it spawned. -/
structure Handled where
  log : List String
  spawned : Option Spawned
  deriving DecidableEq, Repr

/-- `handle_store_entry`: the content read as an `EntryWithHeader` with `unwrap`, then the hold
spawned. -/
def handleStoreEntry (dhtData : EntryData) : Except Panic Handled :=
  match dhtData.entryContent.toEntryWithHeader with
  | .ok ewh => .ok ⟨[], some (.holdEntry ewh)⟩
  | .error e => .error (.unwrap e)

/-- `assert_eq!(content_list.len(), 1)`, then `content_list[0]` read as an `EntryWithHeader`
with the arm's `expect` message. -/
def DhtMetaData.singleEntryWithHeader (m : DhtMetaData) (message : String) :
    Except Panic EntryWithHeader :=
  match m.contentList with
  | [c] => c.toEntryWithHeader.mapError (Panic.expect message)
  | cs => .error ⟨"assertion failed: `(left == right)`\n  left: `" ++ toString cs.length ++
      "`,\n right: `1`"⟩

/-- `handle_store_meta`: a link or a link removal is read from the one content and spawned, a
CRUD status or a CRUD link is only logged, and any other attribute is ignored. -/
def handleStoreMeta (statusName linkName : String) (m : DhtMetaData) : Except Panic Handled :=
  if m.attr = "link" then do
    let ewh ← m.singleEntryWithHeader "dht_meta_data should be EntryWithHeader"
    pure ⟨["debug/net/handle: HandleStoreMeta: got LINK. processing..."], some (.holdLink ewh)⟩
  else if m.attr = "link_remove" then do
    let ewh ← m.singleEntryWithHeader "dht_meta_data should be EntryWithHader"
    pure ⟨["debug/net/handle: HandleStoreMeta: got LINK REMOVAL. processing..."],
      some (.removeLink ewh)⟩
  else if m.attr = statusName then
    pure ⟨["debug/net/handle: HandleStoreMeta: got CRUD status. processing..."], none⟩
  else if m.attr = linkName then
    pure ⟨["debug/net/handle: HandleStoreMeta: got CRUD LINK. processing..."], none⟩
  else pure ⟨[], none⟩

/-- The thread `handle_store_entry` spawns: `hold_entry_workflow`, its error logged. -/
def holdEntryThread (hash : Content → Address) (ctx : Context) (steps : HoldSteps)
    (ewh : EntryWithHeader) (n : Node) : Except Panic (List String × Node) := do
  let (r, n) ← holdEntryWorkflow hash ctx steps ewh n
  match r with
  | .error e => pure (["err/net/dht: " ++ e.display], n)
  | .ok _ => pure ([], n)

/-! ## When the handlers return -/

theorem handleStoreEntry_ok_iff (d : EntryData) :
    (∃ h, handleStoreEntry d = .ok h) ↔ ∃ ewh, d.entryContent = .entryWithHeader ewh := by
  unfold handleStoreEntry
  cases d.entryContent <;> simp [JsonValue.toEntryWithHeader]

theorem singleEntryWithHeader_ok_iff (m : DhtMetaData) (message : String) :
    (∃ ewh, m.singleEntryWithHeader message = .ok ewh) ↔
      ∃ ewh, m.contentList = [.entryWithHeader ewh] := by
  unfold DhtMetaData.singleEntryWithHeader
  match m.contentList with
  | [] => simp
  | [c] => cases c <;> simp [JsonValue.toEntryWithHeader, Except.mapError]
  | _ :: _ :: _ => simp

theorem handleStoreMeta_ok_iff (statusName linkName : String) (m : DhtMetaData) :
    (∃ h, handleStoreMeta statusName linkName m = .ok h) ↔
      ((m.attr = "link" ∨ m.attr = "link_remove") →
        ∃ ewh, m.contentList = [.entryWithHeader ewh]) := by
  have hbind : ∀ (message : String) (f : EntryWithHeader → Handled),
      (∃ h, (do let ewh ← m.singleEntryWithHeader message; pure (f ewh)) =
        (Except.ok h : Except Panic Handled)) ↔ ∃ ewh, m.contentList = [.entryWithHeader ewh] :=
    fun message f => by
      rw [← singleEntryWithHeader_ok_iff m message]
      cases m.singleEntryWithHeader message <;> simp [bind, Except.bind, pure, Except.pure]
  unfold handleStoreMeta
  by_cases hl : m.attr = "link"
  · rw [if_pos hl, hbind]; simp [hl]
  by_cases hr : m.attr = "link_remove"
  · rw [if_neg hl, if_pos hr, hbind]; simp [hr]
  rw [if_neg hl, if_neg hr]
  simp only [hl, hr, or_self, false_implies, iff_true]
  split_ifs <;> exact ⟨_, rfl⟩

theorem holdEntryThread_spec (hash : Content → Address) (ctx : Context) (steps : HoldSteps)
    (ewh : EntryWithHeader) (n : Node) :
    ∃ r log n', holdEntryWorkflow hash ctx steps ewh n = .ok (r, n') ∧
      holdEntryThread hash ctx steps ewh n = .ok (log, n') ∧
      (∀ e, r = .error e → log = ["err/net/dht: " ++ e.display]) ∧ (∀ a, r = .ok a → log = []) := by
  rcases @holdEntryWorkflow_cases hash ctx steps ewh n with ⟨-, -, -, h⟩ | ⟨-, e, h, -⟩
  · obtain ⟨n', hn'⟩ := @holdEntry_ok hash ctx ewh n
    rw [← h] at hn'
    exact ⟨_, [], n', hn', by rw [holdEntryThread, hn']; rfl, nofun, fun _ _ => rfl⟩
  · exact ⟨_, _, n, h, by rw [holdEntryThread, h]; rfl, fun _ he => by cases he; rfl, nofun⟩

/-- The store handlers return exactly on well-formed content; the spawned hold never panics,
and it logs a workflow failure as `err/net/dht: <error>` and nothing else. -/
theorem store_handlers_return_iff (hash : Content → Address) (ctx : Context)
    (statusName linkName : String) (d : EntryData) (m : DhtMetaData) :
    ((∃ h, handleStoreEntry d = .ok h) ↔ ∃ ewh, d.entryContent = .entryWithHeader ewh) ∧
      ((∃ h, handleStoreMeta statusName linkName m = .ok h) ↔
        ((m.attr = "link" ∨ m.attr = "link_remove") →
          ∃ ewh, m.contentList = [.entryWithHeader ewh])) ∧
      ∀ steps ewh n, ∃ r log n', holdEntryWorkflow hash ctx steps ewh n = .ok (r, n') ∧
        holdEntryThread hash ctx steps ewh n = .ok (log, n') ∧
        (∀ e, r = .error e → log = ["err/net/dht: " ++ e.display]) ∧
        (∀ a, r = .ok a → log = []) :=
  ⟨handleStoreEntry_ok_iff d, handleStoreMeta_ok_iff statusName linkName m,
    holdEntryThread_spec hash ctx⟩

/-- Content that is no `EntryWithHeader`, and a link message without content, panic. -/
theorem store_handlers_panic_on_malformed :
    ¬ (∀ d, ∃ h, handleStoreEntry d = .ok h) ∧
      ¬ (∀ m, ∃ h, handleStoreMeta "crud-status" "crud-link" m = .ok h) := by
  refine ⟨fun h => ?_, fun h => ?_⟩
  · obtain ⟨_, hd⟩ := h ⟨.other "invalid type: integer, expected struct EntryWithHeader"⟩
    cases hd
  · obtain ⟨_, hm⟩ := h ⟨"link", []⟩
    simp [handleStoreMeta, DhtMetaData.singleEntryWithHeader] at hm

end Holochain
