import SnapshotEngine.Operation.Confirmation

/-!
# How a transfer goes on

* `call?_eq`, `of_call?` — what is waited for;
* `advance_eq_continues` — the two steps that a transfer and its confirmation
  take before anything is decided;
* `advance_eq_settled` — when what was noted of the job decides;
* `advance_eq_failed`, `advance_eq_timedOut` — what else ends them.
-/

namespace SnapshotEngine

namespace Confirmation

/-- The transfer is waited for while it lasts. -/
theorem call?_eq (c : Confirmation) :
    c.call? = if c.stage = .transferring then some (.move c.action c.object) else none := by
  unfold call?
  cases c.stage <;> rfl

/-- The only call that is waited for is the transfer, while it lasts. -/
theorem of_call? {c : Confirmation} {call : Call} (h : c.call? = some call) :
    c.stage = .transferring ∧ call = .move c.action c.object := by
  rw [call?_eq] at h
  split at h
  · rename_i hstage
    cases h
    exact ⟨hstage, rfl⟩
  · cases h

/-- A transfer goes on when the data has moved, and then when the time for the
report of its job is over. -/
theorem advance_eq_continues {c c' : Confirmation} {signal : Signal}
    (h : c.advance signal = some (.continues c')) :
    (signal = .answered (.moved true) ∧ c.stage = .transferring ∧
        c' = { c with stage := .settling }) ∨
      (signal = .graceOver ∧ c.stage = .settling ∧ c' = { c with stage := .joining }) := by
  unfold advance at h
  split at h
  · cases h
  · rename_i done
    split at h
    · rename_i hstage
      cases done
      · simp [TransferAction.outcome] at h
      · simp only [TransferAction.outcome, if_true, Option.some.injEq,
          Verdict.continues.injEq] at h
        exact .inl ⟨rfl, hstage, h.symm⟩
    · cases h
  · split at h
    · rename_i hstage
      cases h
      exact .inr ⟨rfl, hstage, rfl⟩
    · cases h
  · split at h <;> cases h
  · cases h

/-- What was noted decides when the poller has stopped, after the data has
moved. -/
theorem advance_eq_settled {c : Confirmation} {signal : Signal}
    (h : c.advance signal = some .settled) : signal = .pollerExited ∧ c.stage ≠ .transferring := by
  unfold advance at h
  split at h
  · cases h
  · split at h
    · rename_i done _
      cases done <;> simp [TransferAction.outcome] at h
    · cases h
  · split at h <;> cases h
  · split at h
    · cases h
    · rename_i hstage
      exact ⟨rfl, hstage⟩
  · cases h

/-- Only the transfer can fail, and the cause says what it was. -/
theorem advance_eq_failed {c : Confirmation} {signal : Signal} {cause : TransferError}
    (h : c.advance signal = some (.failed cause)) :
    signal = .answered (.moved false) ∧ c.stage = .transferring ∧ cause = ⟨c.action, c.object⟩ := by
  unfold advance at h
  split at h
  · cases h
  · rename_i done
    split at h
    · rename_i hstage
      cases done <;> simp [TransferAction.outcome] at h
      exact ⟨rfl, hstage, h.symm⟩
    · cases h
  · split at h <;> cases h
  · split at h <;> cases h
  · cases h

/-- The time limit is the only one that runs out. -/
theorem advance_eq_timedOut {c : Confirmation} {signal : Signal}
    (h : c.advance signal = some .timedOut) : signal = .limitOver := by
  unfold advance at h
  split at h
  · rfl
  · rename_i done
    split at h
    · cases done <;> simp [TransferAction.outcome] at h
    · cases h
  · split at h <;> cases h
  · split at h <;> cases h
  · cases h

end Confirmation

end SnapshotEngine
