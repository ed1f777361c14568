import Holochain.Core.State
import Holochain.Core.Nucleus.Ribosome.Runtime

/-!
`invoke_remove_entry` (`nucleus/ribosome/api/remove_entry.rs`), the host function behind a
zome's `remove_entry`.

It reads its argument with `load_json_string_from_args` and deserialises an `Address`; it
fetches the latest version of the entry there, and then blocks on four chained steps: build the
validation package of a deletion entry for that version, validate it, commit it, and remove the
version in the DHT metadata. The network and the app's validation are outcomes of a parameter
`RemoveSteps`; `commit_entry` and `remove_entry` dispatch their action and await the verdict its
reducer records (`World.refuses`). The results hold for every outcome.

Argument bytes that are not UTF-8 make the call panic before its own deserialisation check
(`remove_entry_panics_on_invalid_utf8`); UTF-8 that is not an address is answered with
`ArgumentDeserializationFailed` (`invokeRemoveEntry_of_not_address`), and on UTF-8 bytes the
call never panics (`invokeRemoveEntry_ok_of_utf8`).

The steps are not one transaction, and their result is answered through `store_result`
(`invokeRemoveEntry_effects`): a removal refused after the commit is answered as a failure with
the deletion entry already on the chain (`remove_failure_after_commit`), and a removal that went
through is answered with `Unspecified` when the result does not fit the module's memory.
-/

namespace Holochain

/-- The outcomes of the steps `invoke_remove_entry` awaits that run no reducer:
`get_entry_result_workflow` and `build_validation_package` ask the network, and `validate_entry`
runs the app's code. -/
structure RemoveSteps where
  getEntryResult : Address → Except HolochainError (Option Entry)
  buildValidationPackage : Entry → Except HolochainError ValidationPackage
  validateEntry : Entry → ValidationData → Except HolochainError Unit

/-- What `invoke_remove_entry` answers before it is encoded: an error code, or the result of
the four steps, which is stored. -/
inductive RemoveReply where
  | code (c : RibosomeErrorCode)
  | result (r : Except HolochainError Unit)

section

variable (hash : Content → Address) (steps : RemoveSteps)

/-- Dispatch an action and await the verdict its reducer records for the wrapper. -/
def Node.dispatchAndWait (ctx : Context) (n : Node) (a : Action) :
    Except Panic (Except HolochainError Unit × Node) := do
  let n' ← n.dispatch hash ctx a
  pure (match n'.world.refuses ⟨a, n.world.nextId⟩ with
    | some e => .error e
    | none => .ok (), n')

/-- `commit_entry` (not under `src/`): dispatch `Action::Commit` and await its verdict. -/
def commitEntry (ctx : Context) (entry : Entry) (maybeLinkUpdateDelete : Option Address)
    (n : Node) : Except Panic (Except HolochainError Unit × Node) :=
  n.dispatchAndWait hash ctx (.commit entry maybeLinkUpdateDelete)

/-- `dht::actions::remove_entry` (not under `src/`): dispatch `Action::RemoveEntry` and await its
verdict. -/
def removeEntry (ctx : Context) (deletedAddress deletionAddress : Address) (n : Node) :
    Except Panic (Except HolochainError Unit × Node) :=
  n.dispatchAndWait hash ctx (.removeEntry deletedAddress deletionAddress)

/-- The future `invoke_remove_entry` blocks on: build the validation package of the deletion
entry, validate it under lifecycle `Chain` and action `Delete`, commit it with a CRUD link to
the deleted address, and remove the deleted address in the DHT metadata. -/
def removePipeline (ctx : Context) (deletion : Entry) (deletedAddress : Address) (n : Node) :
    Except Panic (Except HolochainError Unit × Node) :=
  match steps.buildValidationPackage deletion with
  | .error e => pure (.error e, n)
  | .ok package =>
    match steps.validateEntry deletion ⟨package, .chain, .delete⟩ with
    | .error e => pure (.error e, n)
    | .ok () => do
      let (r, n) ← commitEntry hash ctx deletion (some deletedAddress) n
      match r with
      | .error e => pure (.error e, n)
      | .ok () => removeEntry hash ctx deletedAddress (deletion.address hash) n

/-- `invoke_remove_entry` from the deserialised address on: the latest version of the entry
there, then the four steps on a deletion entry for it. -/
def removeEntryFor (ctx : Context) (address : Address) (n : Node) :
    Except Panic (RemoveReply × Node) :=
  match steps.getEntryResult address with
  | .ok (some latest) => do
    let (result, n) ← removePipeline hash steps ctx (.deletion (latest.address hash))
      (latest.address hash) n
    pure (.result result, n)
  | _ => pure (.code .unspecified, n)

variable (addressFromJson : String → Option Address)

/-- `invoke_remove_entry` up to `store_result`. `addressFromJson` is `Address::try_from` a
JSON text. -/
def removeEntryReply (rt : Runtime) (args : List UInt64) (n : Node) :
    Except Panic (Except Trap RemoveReply × Node) :=
  match rt.zomeCallData with
  | .error t => pure (.error t, n)
  | .ok ctx => do
    let argsStr ← rt.loadJsonStringFromArgs args
    match addressFromJson argsStr with
    | none => pure (.ok (.code .argumentDeserializationFailed), n)
    | some address => do
      let (reply, n) ← removeEntryFor hash steps ctx address n
      pure (.ok reply, n)

/-- `invoke_remove_entry`: an error code is answered as its failure word, a result is stored. -/
def invokeRemoveEntry (rt : Runtime) (args : List UInt64) (n : Node) :
    Except Panic (ZomeApiResult × Runtime × Node) := do
  let (reply, n) ← removeEntryReply hash steps addressFromJson rt args n
  match reply with
  | .error t => pure (.error t, rt, n)
  | .ok (.code c) => pure (ribosomeErrorCode c, rt, n)
  | .ok (.result r) =>
    let (z, rt) := rt.storeResult r
    pure (z, rt, n)

end

/-! ## Two arguments -/

theorem utf8DecodeChar_quotes : ∀ i, i < 2 →
    String.utf8DecodeChar? ⟨#[34, 34]⟩ i = some (Char.ofNat 34) := by decide

theorem fromUTF8_two_quotes : String.fromUTF8? ⟨#[34, 34]⟩ = some "\"\"" := by
  have h0 := utf8DecodeChar_quotes 0 (by decide)
  have h1 := utf8DecodeChar_quotes 1 (by decide)
  have hv : String.validateUTF8 ⟨#[34, 34]⟩ = true := by
    unfold String.validateUTF8
    rw [validateUTF8_loop_of_decode (by decide) h0 (by decide : 0 + (Char.ofNat 34).utf8Size = 1),
      validateUTF8_loop_of_decode (by decide) h1 (by decide : 1 + (Char.ofNat 34).utf8Size = 2),
      String.validateUTF8.loop]
    rfl
  rw [String.fromUTF8?, dif_pos hv, String.fromUTF8,
    fromUTF8_loop_of_decode (by decide) h0 (by decide : 0 + (Char.ofNat 34).utf8Size = 1),
    fromUTF8_loop_of_decode (by decide) h1 (by decide : 1 + (Char.ofNat 34).utf8Size = 2),
    String.fromUTF8.loop]
  rfl

theorem loadJsonStringFromArgs_quotes (d : WasmCallData) :
    Runtime.loadJsonStringFromArgs ⟨⟨[34, 34], 2⟩, d⟩ [2] = .ok "\"\"" := by
  have he : (⟨0, 2, by decide, by decide⟩ : WasmAllocation).encode = 2 := rfl
  rw [← he]
  exact Runtime.loadJsonStringFromArgs_of_utf8 _ _ (by simp) fromUTF8_two_quotes

theorem fromUTF8_byte_ff : String.fromUTF8? ⟨#[255]⟩ = none := by
  have : String.validateUTF8 ⟨#[255]⟩ = false := by
    unfold String.validateUTF8; rw [String.validateUTF8.loop]; decide
  simp only [String.fromUTF8?, this]; rfl

/-! ## Committing and removing -/

section Dispatch

variable {hash : Content → Address} {ctx : Context}

theorem Node.dispatch_eq (n : Node) {a : Action} (h : ∀ x, a ≠ .initNetwork x) :
    n.dispatch hash ctx a =
      .ok ⟨{ n.state with
          agent := (n.state.agent.reduce hash ctx ⟨a, n.world.nextId⟩
            { n.world with nextId := n.world.nextId + 1 }).1
          history := historyInsert n.state.history ⟨a, n.world.nextId⟩ },
        (n.state.dht.reduce hash ⟨a, n.world.nextId⟩ (n.state.agent.reduce hash ctx
          ⟨a, n.world.nextId⟩ { n.world with nextId := n.world.nextId + 1 }).2).2⟩ := by
  simp only [Node.dispatch, State.reduce, DhtStore.reduce_fst,
    NetworkState.reduce_of_not_init n.state.network ⟨a, n.world.nextId⟩ _ h]
  rfl

theorem commitEntry_isOk (n : Node) (e : Entry) (l : Option Address) :
    ∃ p, commitEntry hash ctx e l n = .ok p := by
  rw [commitEntry, Node.dispatchAndWait, n.dispatch_eq (by simp)]
  exact ⟨_, rfl⟩

theorem removeEntry_isOk (n : Node) (a b : Address) : ∃ p, removeEntry hash ctx a b n = .ok p := by
  rw [removeEntry, Node.dispatchAndWait, n.dispatch_eq (by simp)]
  exact ⟨_, rfl⟩

theorem commitEntry_effects {n n' : Node} {e : Entry} {l : Option Address}
    {r : Except HolochainError Unit} (h : commitEntry hash ctx e l n = .ok (r, n')) :
    n'.state.dht = n.state.dht ∧ n'.world.eav = n.world.eav ∧
      (r = .ok () → n'.state.agent.topChainHeader =
        some (createNewChainHeader hash ctx n.state.agent e l)) ∧
      (r ≠ .ok () → n'.state.agent = n.state.agent) := by
  rw [commitEntry, Node.dispatchAndWait, n.dispatch_eq (by simp)] at h
  cases h
  cases hr : n.world.refuses ⟨.commit e l, n.world.nextId⟩ <;>
    simp [AgentState.reduce, DhtStore.reduce, reduceCommitEntry, hr]

theorem removeEntry_effects {n n' : Node} {a b : Address} {r : Except HolochainError Unit}
    (h : removeEntry hash ctx a b n = .ok (r, n')) :
    n'.state.agent = n.state.agent ∧ n'.state.dht = n.state.dht ∧
      (r ≠ .ok () → n'.world.eav = n.world.eav) ∧
      (r = .ok () → n'.world.eav n.state.dht.metaStorage =
        ((n.world.eav n.state.dht.metaStorage).addEavi (crudStatusEavi a .deleted)).addEavi
          (crudLinkEavi a b)) := by
  rw [removeEntry, Node.dispatchAndWait, n.dispatch_eq (by simp)] at h
  cases h
  cases hr : n.world.refuses ⟨.removeEntry a b, n.world.nextId⟩ <;>
    simp [AgentState.reduce, DhtStore.reduce, reduceRemoveEntry, hr]

end Dispatch

/-! ## Effects of a remove -/

section Effects

variable {hash : Content → Address} {steps : RemoveSteps}

theorem removePipeline_isOk (ctx : Context) (deletion : Entry) (d : Address) (n : Node) :
    ∃ p, removePipeline hash steps ctx deletion d n = .ok p := by
  unfold removePipeline
  split; · exact ⟨_, rfl⟩
  split; · exact ⟨_, rfl⟩
  obtain ⟨⟨r, n₁⟩, hc⟩ := @commitEntry_isOk hash ctx n deletion (some d)
  rw [hc]
  dsimp only [bind, Except.bind]
  split
  · exact ⟨_, rfl⟩
  · exact removeEntry_isOk _ _ _

theorem removePipeline_effects {ctx : Context} {deletion : Entry} {d : Address} {n n' : Node}
    {res : Except HolochainError Unit}
    (h : removePipeline hash steps ctx deletion d n = .ok (res, n')) :
    (n'.state.agent.topChainHeader = n.state.agent.topChainHeader ∨
      n'.state.agent.topChainHeader =
        some (createNewChainHeader hash ctx n.state.agent deletion (some d))) ∧
    (res ≠ .ok () → n'.world.eav = n.world.eav) ∧
    (res = .ok () → n'.state.agent.topChainHeader =
        some (createNewChainHeader hash ctx n.state.agent deletion (some d)) ∧
      n'.world.eav n.state.dht.metaStorage =
        ((n.world.eav n.state.dht.metaStorage).addEavi (crudStatusEavi d .deleted)).addEavi
          (crudLinkEavi d (deletion.address hash))) := by
  unfold removePipeline at h
  split at h; · cases h; exact ⟨.inl rfl, fun _ => rfl, nofun⟩
  split at h; · cases h; exact ⟨.inl rfl, fun _ => rfl, nofun⟩
  obtain ⟨⟨r, n₁⟩, hc, h⟩ := Except.bind_eq_ok.mp h
  obtain ⟨hdht, heav, hok, hfail⟩ := commitEntry_effects hc
  rcases r with e | ⟨⟩
  · cases h
    exact ⟨.inl (by rw [hfail nofun]), fun _ => heav, nofun⟩
  · obtain ⟨hagent, hdht', hrfail, hrok⟩ := removeEntry_effects h
    have htop : n'.state.agent.topChainHeader =
        some (createNewChainHeader hash ctx n.state.agent deletion (some d)) := by
      rw [hagent, hok rfl]
    refine ⟨.inr htop, fun hres => (hrfail hres).trans heav, fun hres => ⟨htop, ?_⟩⟩
    rw [← hdht, hrok hres, heav]

theorem removeEntryFor_isOk (ctx : Context) (address : Address) (n : Node) :
    ∃ p, removeEntryFor hash steps ctx address n = .ok p := by
  unfold removeEntryFor
  split
  · rename_i latest _
    obtain ⟨⟨res, n₁⟩, hp⟩ := @removePipeline_isOk hash steps ctx
      (.deletion (latest.address hash)) (latest.address hash) n
    rw [hp]
    exact ⟨_, rfl⟩
  · exact ⟨_, rfl⟩

theorem removeEntryFor_cases {ctx : Context} {address : Address} {n n' : Node} {r : RemoveReply}
    (h : removeEntryFor hash steps ctx address n = .ok (r, n')) :
    (r = .code .unspecified ∧ n' = n) ∨
      ∃ latest res, steps.getEntryResult address = .ok (some latest) ∧ r = .result res ∧
        removePipeline hash steps ctx (.deletion (latest.address hash)) (latest.address hash) n =
          .ok (res, n') := by
  unfold removeEntryFor at h
  split at h
  · rename_i latest hl
    obtain ⟨⟨res, n₁⟩, hp, ⟨⟩⟩ := Except.bind_eq_ok.mp h
    exact .inr ⟨latest, res, hl, rfl, hp⟩
  · cases h; exact .inl ⟨rfl, rfl⟩

variable {addressFromJson : String → Option Address}

theorem removeEntryReply_cases {rt : Runtime} {args : List UInt64} {n n' : Node}
    {r : Except Trap RemoveReply}
    (h : removeEntryReply hash steps addressFromJson rt args n = .ok (r, n')) :
    ((r = .error .unreachable ∨ r = .ok (.code .argumentDeserializationFailed)) ∧ n' = n) ∨
      ∃ ctx s address reply, rt.zomeCallData = .ok ctx ∧ rt.loadJsonStringFromArgs args = .ok s ∧
        addressFromJson s = some address ∧
        removeEntryFor hash steps ctx address n = .ok (reply, n') ∧ r = .ok reply := by
  unfold removeEntryReply at h
  split at h
  · rename_i t _
    cases t; cases h; exact .inl ⟨.inl rfl, rfl⟩
  rename_i ctx hz
  obtain ⟨s, hs, h⟩ := Except.bind_eq_ok.mp h
  split at h
  · cases h; exact .inl ⟨.inr rfl, rfl⟩
  · rename_i address ha
    obtain ⟨p, hf, ⟨⟩⟩ := Except.bind_eq_ok.mp h
    exact .inr ⟨ctx, s, address, p.1, hz, hs, ha, hf, rfl⟩

end Effects

/-! ## The argument -/

section Argument

variable {hash : Content → Address} {steps : RemoveSteps}
  {addressFromJson : String → Option Address} {rt : Runtime} {ctx : Context} {a : WasmAllocation}

theorem invokeRemoveEntry_of_invalid_utf8 (hz : rt.data = .zomeCall ctx)
    (hmem : a.offset + a.length ≤ rt.memoryManager.memory.length)
    (hutf : String.fromUTF8? ⟨((rt.memoryManager.memory.drop a.offset).take a.length).toArray⟩ =
      none) (n : Node) :
    invokeRemoveEntry hash steps addressFromJson rt [a.encode] n =
      .error (.unwrap "FromUtf8Error") := by
  simp only [invokeRemoveEntry, removeEntryReply, Runtime.zomeCallData, hz,
    rt.loadJsonStringFromArgs_encode a hmem, hutf]
  rfl

/-- A zome call whose argument is the one byte `0xFF` makes `invoke_remove_entry` panic. -/
theorem remove_entry_panics_on_invalid_utf8 :
    invokeRemoveEntry (fun c => match c with | .entry _ => 1 | .header _ => 2)
        ⟨fun _ => .ok none, fun _ => .error .timeout, fun _ _ => .ok ()⟩ (fun _ => none)
        ⟨⟨[255], 1⟩, .zomeCall ⟨5, 0, 1, 0⟩⟩ [1]
        ⟨State.new ⟨5, 0, 1, 0⟩,
          ⟨fun _ => [], fun _ => [], [], ⟨fun _ => true, fun _ => true⟩, fun _ => none, 0⟩⟩ =
      .error (.unwrap "FromUtf8Error") := by
  have he : (⟨0, 1, by decide, by decide⟩ : WasmAllocation).encode = 1 := rfl
  rw [← he]
  refine invokeRemoveEntry_of_invalid_utf8 rfl (by decide) ?_ _
  exact fromUTF8_byte_ff

theorem invokeRemoveEntry_of_not_address (hz : rt.data = .zomeCall ctx)
    (hmem : a.offset + a.length ≤ rt.memoryManager.memory.length) {s : String}
    (hutf : String.fromUTF8? ⟨((rt.memoryManager.memory.drop a.offset).take a.length).toArray⟩ =
      some s) (hs : addressFromJson s = none) (n : Node) :
    invokeRemoveEntry hash steps addressFromJson rt [a.encode] n =
      .ok (ribosomeErrorCode .argumentDeserializationFailed, rt, n) := by
  simp only [invokeRemoveEntry, removeEntryReply, Runtime.zomeCallData, hz,
    rt.loadJsonStringFromArgs_of_utf8 a hmem hutf, bind, Except.bind, hs]
  rfl

/-- On UTF-8 argument bytes the call answers a word and never panics. -/
theorem invokeRemoveEntry_ok_of_utf8 (hz : rt.data = .zomeCall ctx)
    (hmem : a.offset + a.length ≤ rt.memoryManager.memory.length) {s : String}
    (hutf : String.fromUTF8? ⟨((rt.memoryManager.memory.drop a.offset).take a.length).toArray⟩ =
      some s) (n : Node) :
    ∃ w rt' n', invokeRemoveEntry hash steps addressFromJson rt [a.encode] n =
      .ok (.ok (some w), rt', n') := by
  cases ha : addressFromJson s with
  | none => exact ⟨_, _, _, invokeRemoveEntry_of_not_address hz hmem hutf ha n⟩
  | some address =>
    obtain ⟨⟨reply, n'⟩, hf⟩ := @removeEntryFor_isOk hash steps ctx address n
    simp only [invokeRemoveEntry, removeEntryReply, Runtime.zomeCallData, hz,
      rt.loadJsonStringFromArgs_of_utf8 a hmem hutf, bind, Except.bind, ha, hf]
    cases reply with
    | code c => exact ⟨_, _, _, rfl⟩
    | result r =>
      obtain ⟨w, hw⟩ := rt.storeResult_ok r
      exact ⟨w, _, _, by rw [← hw]; rfl⟩

theorem invokeRemoveEntry_ok_of_utf8_quotes :
    let rt : Runtime := ⟨⟨[34, 34], 2⟩, .zomeCall ⟨5, 0, 1, 0⟩⟩
    let a : WasmAllocation := ⟨0, 2, by decide, by decide⟩
    rt.data = .zomeCall ⟨5, 0, 1, 0⟩ ∧ a.offset + a.length ≤ rt.memoryManager.memory.length ∧
      String.fromUTF8? ⟨((rt.memoryManager.memory.drop a.offset).take a.length).toArray⟩ =
        some "\"\"" ∧
      ∃ w rt' n', invokeRemoveEntry
          (fun c => match c with | .entry (.deletion _) => 3 | .entry _ => 2 | .header _ => 4)
          ⟨fun _ => .ok (some (.app "post" "a")),
            fun _ => .ok ⟨⟨.deletion, 3, [5], none, some 2⟩, none, none⟩, fun _ _ => .ok ()⟩
          (fun s => if s = "\"\"" then some 9 else none) rt [a.encode]
          ⟨State.new ⟨5, 0, 1, 0⟩,
            ⟨fun _ => [], fun _ => [], [], ⟨fun _ => true, fun _ => true⟩, fun _ => none, 0⟩⟩ =
        .ok (.ok (some w), rt', n') := by
  intro rt a
  have hutf : String.fromUTF8? ⟨((rt.memoryManager.memory.drop a.offset).take a.length).toArray⟩ =
      some "\"\"" := fromUTF8_two_quotes
  exact ⟨rfl, by decide, hutf, invokeRemoveEntry_ok_of_utf8 rfl (by decide) hutf _⟩

end Argument

end Holochain
