import SnapshotEngine.Discovery

/-!
# Which claims qualify

A claim fits if it names a volume, its storage class and the namespace of its user, and is
labelled for this storage engine.  It qualifies if the volume is not gone either.  What a
claim comes to depends on nothing else: what is known already only decides whether the
record that the claim brings up is a new one.

* `Claim.verdict_eq`, `Claim.verdict_eq_accepted_iff` — what a claim comes to;
* `Claim.outcome_eq_some_iff`, `Claim.outcome_eq_error_iff` — what is answered to it;
* `discover_eq` — both, as a claim is looked at;
* `Looked`, `looked_discover` — what one claim does to a registry.
-/

namespace SnapshotEngine

namespace Claim

/-- A claim names all that a record needs, and its volume is one of this engine. -/
structure Fits (c : Claim) : Prop where
  named : Text.blank c.name = false
  classed : Text.blank c.storageClass = false
  used : ∃ ns ∈ c.claimNamespace, Text.blank ns = false
  ours : c.labels.get? "openebs.io/cas-type" = some "cstor"

/-- A claim fits, and its volume is neither released nor failed. -/
structure Qualifies (c : Claim) : Prop extends c.Fits where
  unreleased : c.phase ≠ .released
  unfailed : c.phase ≠ .failed

instance (c : Claim) : Decidable c.Fits :=
  decidable_of_iff
    (Text.blank c.name = false ∧ Text.blank c.storageClass = false ∧
      (∃ ns ∈ c.claimNamespace, Text.blank ns = false) ∧
      c.labels.get? "openebs.io/cas-type" = some "cstor")
    ⟨fun h => ⟨h.1, h.2.1, h.2.2.1, h.2.2.2⟩, fun h => ⟨h.named, h.classed, h.used, h.ours⟩⟩

instance (c : Claim) : Decidable c.Qualifies :=
  decidable_of_iff (c.Fits ∧ c.phase ≠ .released ∧ c.phase ≠ .failed)
    ⟨fun h => ⟨h.1, h.2.1, h.2.2⟩, fun h => ⟨h.toFits, h.unreleased, h.unfailed⟩⟩

/-- The record that a claim brings up: of its jobs nothing was heard yet. -/
def record (c : Claim) : Volume where
  name := c.name
  claimNamespace := c.claimNamespace.getD ""
  casType := c.storageClass
  backupName := ""
  backupStatus := .pending
  restoreStatus := .pending

/-- What is answered to a claim: the name of its volume if it qualifies, a failure if it
fits but its volume is gone, and nothing otherwise. -/
def outcome (c : Claim) : Except Failure (Option String) :=
  if c.Qualifies then .ok (some c.name)
  else if c.Fits then .error (.invalidVolume c.name c.phase)
  else .ok none

variable {c : Claim}

/-- The record of a claim that fits has the namespace that the claim names. -/
theorem Fits.claimNamespace_record (h : c.Fits) :
    c.claimNamespace = some c.record.claimNamespace ∧
      Text.blank c.record.claimNamespace = false := by
  obtain ⟨ns, hns, hblank⟩ := h.used
  rw [Option.mem_def] at hns
  simp [record, hns, hblank]

/-- A claim that fits qualifies unless its volume is gone. -/
theorem Fits.qualifies_iff (h : c.Fits) : c.Qualifies ↔ c.phase.isGone = false := by
  have hphase : c.phase.isGone = false ↔ c.phase ≠ .released ∧ c.phase ≠ .failed := by
    cases c.phase <;> decide
  rw [hphase]
  exact ⟨fun hq => ⟨hq.unreleased, hq.unfailed⟩, fun hp => ⟨h, hp.1, hp.2⟩⟩

theorem Fits.verdict_eq (h : c.Fits) :
    c.verdict = if c.phase.isGone then .gone else .accepted c.record := by
  obtain ⟨hns, hused⟩ := h.claimNamespace_record
  have hfilter : (c.claimNamespace.filter fun ns => !Text.blank ns) =
      some c.record.claimNamespace := by
    rw [hns]
    simp [hused]
  have hours : c.isOurs := beq_iff_eq.mpr h.ours
  unfold verdict
  rw [hfilter]
  simp [h.named, h.classed, hours, Volume.fresh, record]

/-- All checks but the one of the phase come first. -/
theorem fits_of_verdict (h : c.verdict ≠ .ignored) : c.Fits := by
  unfold verdict at h
  split at h
  · exact absurd rfl h
  rename_i hnamed
  split at h
  · exact absurd rfl h
  rename_i ns hfilter
  split at h
  · exact absurd rfl h
  rename_i hours
  obtain ⟨hns, hused⟩ := Option.filter_eq_some_iff.mp hfilter
  simp only [Bool.or_eq_true, not_or, Bool.not_eq_true] at hnamed
  have hlabel : c.isOurs = true := by simpa using hours
  exact ⟨hnamed.1, hnamed.2, ⟨ns, hns, by simpa using hused⟩, beq_iff_eq.mp hlabel⟩

/-- **What a claim comes to.** -/
theorem verdict_eq (c : Claim) :
    c.verdict =
      if c.Qualifies then .accepted c.record else if c.Fits then .gone else .ignored := by
  by_cases hfits : c.Fits
  · rw [hfits.verdict_eq]
    by_cases hgone : c.phase.isGone <;> simp [hfits, hfits.qualifies_iff, hgone]
  · have hignored : c.verdict = .ignored :=
      Decidable.byContradiction fun hne => hfits (fits_of_verdict hne)
    have hunqualified : ¬ c.Qualifies := fun h => hfits h.toFits
    rw [hignored, if_neg hunqualified, if_neg hfits]

theorem verdict_eq_accepted_iff {v : Volume} :
    c.verdict = .accepted v ↔ c.Qualifies ∧ v = c.record := by
  rw [verdict_eq]
  by_cases hqualifies : c.Qualifies
  · simp [hqualifies, eq_comm]
  · by_cases hfits : c.Fits <;> simp [hqualifies, hfits]

theorem outcome_eq_some_iff {name : String} :
    c.outcome = .ok (some name) ↔ c.Qualifies ∧ name = c.name := by
  unfold outcome
  by_cases hqualifies : c.Qualifies
  · simp [hqualifies, eq_comm]
  · by_cases hfits : c.Fits <;> simp [hqualifies, hfits]

/-- A claim is refused for its phase only. -/
theorem outcome_eq_error_iff {cause : Failure} :
    c.outcome = .error cause ↔
      c.Fits ∧ ¬ c.Qualifies ∧ cause = .invalidVolume c.name c.phase := by
  unfold outcome
  by_cases hqualifies : c.Qualifies
  · simp [hqualifies]
  · by_cases hfits : c.Fits <;> simp [hqualifies, hfits, eq_comm]

end Claim

/-- **One claim.**  What is answered depends on the claim alone, and the registry changes
only if the claim qualifies. -/
theorem discover_eq (r : Registry) (c : Claim) :
    discover r c = (c.outcome, if c.Qualifies then r.insertIfAbsent c.record else r) := by
  unfold discover Claim.outcome
  rw [c.verdict_eq]
  by_cases hqualifies : c.Qualifies
  · simp [hqualifies]
  · by_cases hfits : c.Fits <;> simp [hqualifies, hfits]

/-- What becomes of a registry as a claim is looked at. -/
inductive Looked (r : Registry) (c : Claim) : Registry → Prop where
  /-- The claim does not qualify. -/
  | passed (unqualified : ¬ c.Qualifies) : Looked r c r
  /-- The volume is known, and its record stays. -/
  | known {v : Volume} (found : r.volume? c.name = some v) : Looked r c r
  | registered (qualifies : c.Qualifies) (unknown : r.volume? c.name = none) :
      Looked r c (r.insert c.record)

theorem looked_discover (r : Registry) (c : Claim) : Looked r c (discover r c).2 := by
  rw [discover_eq]
  by_cases hqualifies : c.Qualifies
  · rw [if_pos hqualifies, Registry.insertIfAbsent]
    cases hfound : r.volume? c.record.name with
    | none => exact .registered hqualifies hfound
    | some v => exact .known hfound
  · rw [if_neg hqualifies]
    exact .passed hqualifies

theorem volume?_insert_record (r : Registry) (c : Claim) (name : String) :
    (r.insert c.record).volume? name = if c.name = name then some c.record else r.volume? name :=
  Registry.volume?_insert r c.record name

namespace Looked

variable {r r' : Registry} {c : Claim}

/-- A claim changes no record that is there, no snapshot and no marker. -/
theorem keeps (h : Looked r c r') :
    (∀ name v, r.volume? name = some v → r'.volume? name = some v) ∧
      r'.snapshots = r.snapshots ∧ r'.held = r.held := by
  cases h with
  | passed | known => exact ⟨fun _ _ hv => hv, rfl, rfl⟩
  | registered qualifies unknown =>
      refine ⟨fun name v hv => ?_, rfl, rfl⟩
      have hname : c.name ≠ name := by
        rintro rfl
        cases unknown.symm.trans hv
      rw [volume?_insert_record, if_neg hname, hv]

/-- A claim that qualifies leaves its volume known. -/
theorem known_of_qualifies (h : Looked r c r') (qualifies : c.Qualifies) :
    ∃ v, r'.volume? c.name = some v := by
  cases h with
  | passed unqualified => exact absurd qualifies unqualified
  | known found => exact ⟨_, found⟩
  | registered => exact ⟨c.record, (volume?_insert_record r c c.name).trans (if_pos rfl)⟩

end Looked

end SnapshotEngine
