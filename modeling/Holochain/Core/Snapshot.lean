import Holochain.Core.State

/-!
What a snapshot of the state reads, and restoring a state from an agent snapshot.

`State::new` hands every snapshot the context's stores by reference, and reductions keep the
references (`reachable_refs`). So `get_headers` on any snapshot reachable from
`State::new(ctx)` reads the context's stores as they are when it is asked, and only its top
header is its own (`getHeaders_reads_context_stores`); a later reduction that holds an entry
changes what an earlier snapshot answers (`hold_changes_snapshot_headers`).

`State::try_from_agent_snapshot` builds the restored chain store over the context's DHT
storage, where `State::new` uses its chain storage. When the two are one store the restored
agent reads the same chain (`restore_iterChain_of_shared_storage`); when they are not, a chain
committed through `State::new` is restored without its older headers and without its DNA
(`restore_loses_chain_and_dna`).
-/

namespace Holochain

section

variable {hash : Content → Address} {ctx : Context}

theorem reachable_stores {s : State} {w : World} (h : Reachable hash ctx s w) :
    s.agent.chainStore.contentStorage = ctx.chainStorage ∧
      s.dht.contentStorage = ctx.dhtStorage ∧ s.dht.metaStorage = ctx.eavStorage := by
  have := reachable_refs h
  simp only [State.refs, Prod.mk.injEq] at this
  exact ⟨by rw [this.1], by rw [this.2], by rw [this.2]⟩

/-- A snapshot reachable from `State::new(ctx)` answers `get_headers`, in any later world, from
the context's stores in that world and its own top header. -/
theorem getHeaders_reads_context_stores {s : State} {w : World} (hr : Reachable hash ctx s w)
    (w' : World) (entryAddress : Address) :
    s.getHeaders hash w' entryAddress = headersFor hash (w'.cas ctx.chainStorage)
      (w'.cas ctx.dhtStorage) (w'.eav ctx.eavStorage) s.agent.topChainHeader entryAddress := by
  obtain ⟨hc, hd, he⟩ := reachable_stores hr
  simp only [State.getHeaders, hc, hd, he]

theorem getHeaders_reads_context_stores_new :
    let hash : Content → Address := fun c => match c with | .entry _ => 1 | .header _ => 2
    let w : World :=
      ⟨fun _ => [], fun _ => [], [], ⟨fun _ => true, fun _ => true⟩, fun _ => none, 0⟩
    Reachable hash ⟨5, 0, 1, 0⟩ (State.new ⟨5, 0, 1, 0⟩) w ∧
      (State.new ⟨5, 0, 1, 0⟩).getHeaders hash { w with eav := fun _ => [⟨2, .entryHeader, 4⟩] } 2 =
        headersFor hash [] [] [⟨2, .entryHeader, 4⟩] none 2 := by
  intro hash w
  exact ⟨.new w, getHeaders_reads_context_stores (.new w) _ _⟩

/-- Holding an entry changes the headers that the snapshot it was reduced from reports. -/
theorem hold_changes_snapshot_headers :
    ¬ ∀ (s : State) (w : World) (aw : ActionWrapper) (s' : State) (w' : World)
      (entryAddress : Address), Reachable (fun c => match c with | .entry _ => 2 | .header _ => 4)
        ⟨5, 0, 1, 0⟩ s w →
      s.reduce (fun c => match c with | .entry _ => 2 | .header _ => 4) ⟨5, 0, 1, 0⟩ aw w =
        .ok (s', w') →
      s.getHeaders (fun c => match c with | .entry _ => 2 | .header _ => 4) w' entryAddress =
        s.getHeaders (fun c => match c with | .entry _ => 2 | .header _ => 4) w entryAddress := by
  intro h
  have := h _ ⟨fun _ => [], fun _ => [], [], ⟨fun _ => true, fun _ => true⟩, fun _ => none, 0⟩
    ⟨.hold ⟨.app "post" "a", ⟨.app "post", 2, [6], none, none⟩⟩, 0⟩ _ _ 2 (.new _) rfl
  have := congrArg (fun r => r.toOption.map List.length) this
  revert this; decide

/-- With one store behind the chain and the DHT, the restored agent reads the same chain and
the restored DNA is the one `get_dna` reads for the live agent. -/
theorem restore_iterChain_of_shared_storage {s : State} {w : World} (hr : Reachable hash ctx s w)
    (hshared : ctx.chainStorage = ctx.dhtStorage) {r : State}
    (hrestore : State.tryFromAgentSnapshot ctx s.agent.snapshot w = .ok r) :
    r.agent.iterChain w = s.agent.iterChain w ∧
      r.nucleus.dna = (getDna w s.agent ctx.dhtStorage).toOption := by
  obtain ⟨hc, -, -⟩ := reachable_stores hr
  cases hrestore
  have hagent : s.agent = ⟨⟨ctx.dhtStorage⟩, s.agent.topChainHeader⟩ := by
    rw [← hshared, ← hc]
  exact ⟨by rw [hagent]; rfl, by rw [hagent]; rfl⟩

theorem restore_iterChain_of_shared_storage_dna :
    let hash : Content → Address := fun c => match c with | .entry _ => 1 | .header _ => 2
    ∃ s w r, Reachable hash ⟨5, 0, 0, 1⟩ s w ∧
      (⟨5, 0, 0, 1⟩ : Context).chainStorage = (⟨5, 0, 0, 1⟩ : Context).dhtStorage ∧
      State.tryFromAgentSnapshot ⟨5, 0, 0, 1⟩ s.agent.snapshot w = .ok r ∧
      (r.agent.iterChain w = s.agent.iterChain w ∧
        r.nucleus.dna = (getDna w s.agent (⟨5, 0, 0, 1⟩ : Context).dhtStorage).toOption) := by
  intro hash
  obtain ⟨s, w, h⟩ : ∃ s w, (State.new ⟨5, 0, 0, 1⟩).reduce hash ⟨5, 0, 0, 1⟩
      ⟨.commit (.dna ⟨"app", "u", [], .nil⟩) none, 0⟩
      ⟨fun _ => [], fun _ => [], [], ⟨fun _ => true, fun _ => true⟩, fun _ => none, 0⟩ =
        .ok (s, w) :=
    ⟨_, _, rfl⟩
  have hr : Reachable hash ⟨5, 0, 0, 1⟩ s w := .reduce _ (.new _) h
  have hrestore : State.tryFromAgentSnapshot ⟨5, 0, 0, 1⟩ s.agent.snapshot w =
      .ok (.newWithAgent ⟨5, 0, 0, 1⟩ ⟨⟨0⟩, s.agent.snapshot.topChainHeader⟩ w) := rfl
  exact ⟨s, w, _, hr, rfl, hrestore, restore_iterChain_of_shared_storage hr rfl hrestore⟩

end

/-- A chain of a DNA entry and an app entry, committed through `State::new` in a context whose
chain and DHT storages differ: the restored agent reads only the top header, and no DNA. -/
theorem restore_loses_chain_and_dna :
    ∃ s w r, (State.new ⟨5, 0, 1, 0⟩).run
        (fun c => match c with
          | .entry (.dna _) => 1 | .entry _ => 2 | .header h => if h.link = none then 3 else 4)
        ⟨5, 0, 1, 0⟩
        ⟨fun _ => [], fun _ => [], [], ⟨fun _ => true, fun _ => true⟩, fun _ => none, 0⟩
        [⟨.commit (.dna ⟨"app", "u", [], .nil⟩) none, 0⟩, ⟨.commit (.app "post" "a") none, 1⟩] =
        .ok (s, w) ∧
      State.tryFromAgentSnapshot ⟨5, 0, 1, 0⟩ s.agent.snapshot w = .ok r ∧
      (s.agent.iterChain w).map (·.entryType) = [.app "post", .dna] ∧
      (r.agent.iterChain w).map (·.entryType) = [.app "post"] ∧ r.nucleus.dna = none := by
  refine ⟨_, _, _, rfl, rfl, ?_, ?_, ?_⟩ <;> decide

end Holochain
