import ContextRelay.Convergence

/-! The signed operations of a vault over its runs. No transaction changes or drops one, so a
device's chain only grows at its end, and what an operation was signed upon is in every vault that
took the operation. -/
namespace ContextRelay

open Library
open Sample (queueWorld early late earlyCommitted bothCommitted commit_early commit_late firstTask
  otherTask)

variable {P : Primitives} {v v' : Vault}

/-! ## Growth -/

theorem Write.signedBy (write : Write P KeepsSigned v v')
    (signed : SignedBy v workspace device operation) : SignedBy v' workspace device operation := by
  cases write with
  | applied valid _ ran => exact (applyFresh_recorded valid ran).signedBy.mpr (.inl signed)
  | persisted valid ran => exact (persistFresh_recorded valid ran).signedBy.mpr (.inl signed)
  | quiet quiet => exact (SignedBy.of_kept quiet.signed).mpr signed
  | outside kept => exact (SignedBy.of_kept kept).mpr signed

theorem DeviceChain.sequence_at (chain : DeviceChain P v workspace device operations)
    (found : operations[place]? = some operation) : operation.deviceSequence = place + 1 := by
  obtain ⟨inside, rfl⟩ := List.getElem?_eq_some_iff.mp found
  have entry := congrArg (fun sequences => sequences[place]?) chain.sequences
  simpa [List.getElem?_range', inside, Nat.add_comm] using entry

/-- Both chains are numbered from one, so the shorter one is the beginning of the other. -/
theorem DeviceChain.isPrefix (chain : DeviceChain P v workspace device operations)
    (longer : DeviceChain P v' workspace device others) (kept : operations ⊆ others) :
    operations <+: others := by
  refine List.prefix_iff_getElem?.mpr ?_
  intro place inside
  have found := (place_of_sequences longer.sequences (kept (List.getElem_mem inside))).2
  rwa [chain.sequence_at (List.getElem?_eq_getElem inside), Nat.add_sub_cancel] at found

/-- Whatever transactions run, in any order and with any other writes that touch no signed
operation: every chain is continued, and no operation of it is changed, dropped or renumbered. -/
theorem signed_history_only_grows (reachable : Reachable P v)
    (run : Relation.ReflTransGen (VaultStep P KeepsSigned) v v') :
    (∀ operation, v.Holds operation → v'.Holds operation) ∧
    ∀ workspace device operations, DeviceChain P v workspace device operations →
      ∃ more, DeviceChain P v' workspace device (operations ++ more) := by
  have before := reachable.chainInvariant
  obtain ⟨after, kept⟩ := VaultStep.run_invariant (fun later => ChainInvariant P later ∧
      ∀ workspace device operation, SignedBy v workspace device operation →
        SignedBy later workspace device operation)
    (fun _ _ write reached => ⟨write.preserves reached.1,
      fun _ _ _ signed => write.signedBy (reached.2 _ _ _ signed)⟩) run
    ⟨before, fun _ _ _ signed => signed⟩
  refine ⟨?_, ?_⟩
  · intro operation held
    exact (after.signedBy_iff.mp (kept _ _ _ (before.signedBy_iff.mpr ⟨held, rfl, rfl⟩))).1
  · intro workspace device operations chain
    obtain ⟨others, longer⟩ := after.chained workspace device
    obtain ⟨more, rfl⟩ := chain.isPrefix longer fun operation member =>
      (longer.members operation).mpr (kept _ _ _ ((chain.members operation).mp member))
    exact ⟨more, longer⟩

theorem signed_history_only_grows_by_late : Reachable queueWorld earlyCommitted ∧
    earlyCommitted.Holds early ∧ (bothCommitted earlyCommitted).Holds early := by
  have reachable : Reachable queueWorld earlyCommitted :=
    ⟨Vault.empty, ⟨rfl, rfl⟩, .single (.commit commit_early)⟩
  exact ⟨reachable, ⟨rfl, rfl⟩,
    (signed_history_only_grows reachable (.single (.commit commit_late))).1 early ⟨rfl, rfl⟩⟩

/-! ## Causal closure -/

/-- A replica holds everything that an operation's author had seen when it signed the operation:
of each device in the causal frontier, all operations up to the number named there. -/
theorem replica_causally_closed (replica : Replica P v) (held : v.Holds operation) :
    ∀ entry ∈ operation.causalFrontier, ∀ number, 1 ≤ number → number ≤ entry.sequence →
      ∃ earlier, v.Holds earlier ∧ earlier.workspaceId = operation.workspaceId ∧
        earlier.deviceId = entry.deviceId ∧ earlier.deviceSequence = number := by
  intro entry member number positive within
  have invariant := replica.invariant
  obtain ⟨head, named, known⟩ := invariant.known operation held entry member
  obtain ⟨operations, chain⟩ := invariant.chains.chained operation.workspaceId entry.deviceId
  obtain ⟨_, linked⟩ := chain.linked
  have length := (chain.head_eq linked named).1
  obtain ⟨earlier, found⟩ : ∃ earlier, operations[number - 1]? = some earlier :=
    ⟨_, List.getElem?_eq_getElem (show number - 1 < operations.length by omega)⟩
  obtain ⟨holds, inWorkspace, ofDevice⟩ :=
    invariant.chains.signedBy_iff.mp ((chain.members _).mp (List.mem_of_getElem? found))
  refine ⟨earlier, holds, inWorkspace, ofDevice, ?_⟩
  rw [chain.sequence_at found, Nat.sub_add_cancel positive]

theorem replica_causally_closed_of_late : (bothCommitted earlyCommitted).Holds late ∧
    ∃ earlier, (bothCommitted earlyCommitted).Holds earlier ∧ earlier.workspaceId = Sample.workspace ∧
      earlier.deviceId = Sample.id 5 ∧ earlier.deviceSequence = 1 := by
  have first : persistOutgoing queueWorld Vault.empty firstTask (Sample.built queueWorld firstTask early)
      none 0 0 true = .ok (.inserted, .none, earlyCommitted) := rfl
  have second : persistOutgoing queueWorld earlyCommitted otherTask
      (Sample.built queueWorld otherTask late) none 0 0 true =
        .ok (.inserted, .none, bothCommitted earlyCommitted) := rfl
  have replica : Replica queueWorld (bothCommitted earlyCommitted) :=
    ⟨_, ⟨⟨rfl, rfl⟩, rfl⟩, .tail (.single (.persisted rfl first)) (.persisted rfl second)⟩
  have held : (bothCommitted earlyCommitted).Holds late := ⟨rfl, rfl⟩
  exact ⟨held, replica_causally_closed replica held ⟨Sample.id 5, 1⟩ (.head _) 1 le_rfl le_rfl⟩

end ContextRelay
