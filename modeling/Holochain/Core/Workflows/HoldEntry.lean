import Holochain.Core.State

/-!
`hold_entry_workflow` (`workflows/hold_entry.rs`): fetch the validation package from the
header's source, validate the entry with it under lifecycle `Dht` and action `Create`, then
hold the entry by dispatching `Action::Hold`. The fetch goes over the network and the
validation runs the app's code, so their outcomes are a parameter `HoldSteps`: the results
below hold for every outcome of either.

The workflow holds exactly when the fetch answers a package and the validation accepts the
entry with it (`holdEntryWorkflow_holds_iff`); otherwise it answers an error and leaves the
node as it was, and an unobtainable package is not reported as a validation failure
(`holdEntryWorkflow_holds_only_validated`). No step compares the header's entry address with
the entry's address, so a header for another entry is held with the entry when the validation
accepts it (`hold_accepts_header_of_other_entry`).
-/

namespace Holochain

/-- The outcomes of the two steps `hold_entry_workflow` awaits before holding. -/
structure HoldSteps where
  getValidationPackage : ChainHeader → Except HolochainError (Option ValidationPackage)
  validateEntry : Entry → ValidationData → Except HolochainError Unit

section

variable (hash : Content → Address) (ctx : Context)

/-- `hold_entry`: dispatch `Action::Hold` and answer the entry's address. -/
def holdEntry (ewh : EntryWithHeader) (n : Node) :
    Except Panic (Except HolochainError Address × Node) := do
  let n ← n.dispatch hash ctx (.hold ewh)
  pure (.ok (ewh.entry.address hash), n)

/-- `hold_entry_workflow`. -/
def holdEntryWorkflow (steps : HoldSteps) (ewh : EntryWithHeader) (n : Node) :
    Except Panic (Except HolochainError Address × Node) :=
  match steps.getValidationPackage ewh.header with
  | .error e => pure (.error e, n)
  | .ok none => pure (.error (.errorGeneric "Could not get validation package from source"), n)
  | .ok (some package) =>
    match steps.validateEntry ewh.entry ⟨package, .dht, .create⟩ with
    | .error e => pure (.error e, n)
    | .ok () => holdEntry hash ctx ewh n

variable {hash ctx}

theorem holdEntry_ok (ewh : EntryWithHeader) (n : Node) :
    ∃ n', holdEntry hash ctx ewh n = .ok (.ok (ewh.entry.address hash), n') := by
  obtain ⟨p, hp⟩ := @State.reduce_isOk hash ctx n.state
    ⟨.hold ewh, n.world.nextId⟩ { n.world with nextId := n.world.nextId + 1 } (by simp)
  exact ⟨⟨p.1, p.2⟩, by simp [holdEntry, Node.dispatch, hp]⟩

theorem holdEntryWorkflow_cases (steps : HoldSteps) (ewh : EntryWithHeader) (n : Node) :
    (∃ p, steps.getValidationPackage ewh.header = .ok (some p) ∧
        steps.validateEntry ewh.entry ⟨p, .dht, .create⟩ = .ok () ∧
        holdEntryWorkflow hash ctx steps ewh n = holdEntry hash ctx ewh n) ∨
      (∀ p, steps.getValidationPackage ewh.header = .ok (some p) →
          steps.validateEntry ewh.entry ⟨p, .dht, .create⟩ ≠ .ok ()) ∧
      ∃ e, holdEntryWorkflow hash ctx steps ewh n = .ok (.error e, n) ∧
        (steps.getValidationPackage ewh.header = .ok none →
          e = .errorGeneric "Could not get validation package from source") := by
  unfold holdEntryWorkflow
  rcases hp : steps.getValidationPackage ewh.header with e | _ | p
  · exact .inr ⟨by simp, e, rfl, by simp⟩
  · exact .inr ⟨by simp, _, rfl, fun _ => rfl⟩
  · dsimp only
    rcases hv : steps.validateEntry ewh.entry ⟨p, .dht, .create⟩ with e | ⟨⟩
    · exact .inr ⟨by simp [hv], e, rfl, by simp⟩
    · exact .inl ⟨p, rfl, hv, rfl⟩

/-- Either both steps passed and the workflow is `hold_entry`, or it answers an error with the
node unchanged, and an unobtainable package is not a validation failure. -/
theorem holdEntryWorkflow_holds_only_validated (steps : HoldSteps) (ewh : EntryWithHeader)
    (n : Node) :
    (∃ p, steps.getValidationPackage ewh.header = .ok (some p) ∧
        steps.validateEntry ewh.entry ⟨p, .dht, .create⟩ = .ok () ∧
        holdEntryWorkflow hash ctx steps ewh n = holdEntry hash ctx ewh n) ∨
      ∃ e, holdEntryWorkflow hash ctx steps ewh n = .ok (.error e, n) ∧
        (steps.getValidationPackage ewh.header = .ok none → ∀ m, e ≠ .validationFailed m) := by
  rcases @holdEntryWorkflow_cases hash ctx steps ewh n with h | ⟨-, e, he, hnone⟩
  · exact .inl h
  · exact .inr ⟨e, he, fun h m => by rw [hnone h]; simp⟩

/-- The workflow holds exactly when the fetch answers a package and the validation accepts the
entry with it, whatever the header's entry address. -/
theorem holdEntryWorkflow_holds_iff (steps : HoldSteps) (ewh : EntryWithHeader) (n : Node) :
    holdEntryWorkflow hash ctx steps ewh n = holdEntry hash ctx ewh n ↔
      ∃ p, steps.getValidationPackage ewh.header = .ok (some p) ∧
        steps.validateEntry ewh.entry ⟨p, .dht, .create⟩ = .ok () := by
  rcases @holdEntryWorkflow_cases hash ctx steps ewh n with
    ⟨p, hp, hv, heq⟩ | ⟨hnv, e, he, -⟩
  · exact ⟨fun _ => ⟨p, hp, hv⟩, fun _ => heq⟩
  · obtain ⟨n', hn'⟩ := @holdEntry_ok hash ctx ewh n
    exact ⟨fun h => (by rw [he, hn'] at h; cases h), fun ⟨p, hp, hv⟩ => absurd hv (hnv p hp)⟩

end

/-- Entry `2` held with a header of entry `9`, both steps accepting: the DHT then answers that
header for entry `2`. -/
theorem hold_accepts_header_of_other_entry :
    let hash : Content → Address := fun c => match c with | .entry _ => 2 | .header _ => 4
    ∃ r n', holdEntryWorkflow hash ⟨5, 0, 1, 0⟩
        ⟨fun h => .ok (some ⟨h, none, none⟩), fun _ _ => .ok ()⟩
        ⟨.app "post" "a", ⟨.app "post", 9, [6], none, none⟩⟩
        ⟨State.new ⟨5, 0, 1, 0⟩,
          ⟨fun _ => [], fun _ => [], [], ⟨fun _ => true, fun _ => true⟩, fun _ => none, 0⟩⟩ =
        .ok (r, n') ∧
      r = .ok 2 ∧
      (n'.state.getHeaders hash n'.world 2).toOption = some [⟨.app "post", 9, [6], none, none⟩] := by
  intro hash
  refine ⟨_, _, rfl, rfl, ?_⟩
  decide

end Holochain
