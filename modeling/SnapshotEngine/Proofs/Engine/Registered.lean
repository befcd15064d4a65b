import SnapshotEngine.Proofs.Engine.Step

/-!
# Where the record of a volume comes from

A volume is registered when it is discovered and when a restore takes it, in both cases
only if it was not known before.  From then on it stays, and of its record only what is
known of its backups and jobs changes.

* `Effect.record` — what a step does to the record of a volume;
* `Effect.registered`, `registered_run` — a volume that is known stays known.
-/

namespace SnapshotEngine

/-- A record of the same volume, with the namespace and the class that it has. -/
structure Volume.Same (v v' : Volume) : Prop where
  name : v'.name = v.name
  claimNamespace : v'.claimNamespace = v.claimNamespace
  casType : v'.casType = v.casType

namespace Volume.Same

theorem refl (v : Volume) : Same v v := ⟨rfl, rfl, rfl⟩

theorem trans {v v' v'' : Volume} (h : Same v v') (h' : Same v' v'') : Same v v'' :=
  ⟨h'.name.trans h.name, h'.claimNamespace.trans h.claimNamespace,
    h'.casType.trans h.casType⟩

end Volume.Same

namespace Engine

/-- What a step does to the record of a volume. -/
inductive RecordEffect (e e' : Engine) (name : String) : Stimulus → Prop where
  | unknown {s : Stimulus} (before : e.registry.volume? name = none)
      (after : e'.registry.volume? name = none) : RecordEffect e e' name s
  | kept {s : Stimulus} {v v' : Volume} (before : e.registry.volume? name = some v)
      (after : e'.registry.volume? name = some v') (same : v.Same v') :
      RecordEffect e e' name s
  /-- A claim has brought it up. -/
  | discovered {claim : Claim} {v : Volume} (before : e.registry.volume? name = none)
      (accepted : claim.verdict = .accepted v) (named : v.name = name)
      (after : e'.registry.volume? name = some v) : RecordEffect e e' name (.reported claim)
  /-- A restore was provided with it. -/
  | provided {id : Nat} {t t' : Restore} {v : Volume} {r : Registry}
      (before : e.registry.volume? name = none)
      (found : e.operations.get? id = some (.restore t)) (stage : t.stage = .provisioning)
      (target : t.target e.registry v = .waits r t') (named : v.name = name)
      (after : e'.registry.volume? name = some { v with restoreStatus := .pending }) :
      RecordEffect e e' name (.signalled id (.answered (.provisioned (.ok v))))

variable {e e' : Engine} {s : Stimulus} {events : List Event} {name : String}

theorem RecordEffect.of_eq (h : e'.registry.volume? name = e.registry.volume? name) :
    RecordEffect e e' name s := by
  cases hv : e.registry.volume? name with
  | none => exact .unknown hv (h.trans hv)
  | some v => exact .kept hv (h.trans hv) (.refl v)

/-- A backup that starts keeps the record of its volume. -/
theorem RecordEffect.of_start {settings : Settings} {order : Order} {r : Registry}
    {op : Operation} (start : Operation.start e.registry settings order = .waits r op)
    (hregistry : e'.registry = r) : RecordEffect e e' name s := by
  rcases (Operation.start_waits start).2.2 with ⟨_, rfl⟩ | ⟨job, hjob, htakes⟩
  · exact .of_eq (by rw [hregistry])
  · by_cases hname : name = job.volumeId
    · subst hname
      obtain ⟨v, hv⟩ : ∃ v, e.registry.volume? job.volumeId = some v := by
        cases op with
        | backup b =>
            cases hjob
            obtain ⟨_, _, _, hstart⟩ := Operation.backup_of_start start
            obtain ⟨v, hv, _⟩ := Backup.start_claimNamespace hstart
            exact ⟨v, hv⟩
        | restore t =>
            obtain ⟨_, _, _, hstart⟩ := Operation.restore_of_start start
            simp [Operation.job?, (Restore.start_waits hstart).2.2.1] at hjob
        | removal d => cases hjob
      have hafter := (htakes.earlier v hv).2
      rw [← hregistry] at hafter
      exact .kept hv hafter ⟨rfl, rfl, rfl⟩
    · exact .of_eq (by rw [hregistry, htakes.others name hname])

/-- A claim that is accepted registers its volume if that is not known. -/
theorem RecordEffect.of_discover {claim : Claim}
    (hregistry : e'.registry = (discover e.registry claim).2) :
    RecordEffect e e' name (.reported claim) := by
  have hlooked := looked_discover e.registry claim
  rw [← hregistry] at hlooked
  generalize hafter : e'.registry = r at hlooked
  cases hlooked with
  | passed | known => exact .of_eq (by rw [hafter])
  | registered qualifies unknown =>
      have hlookup : e'.registry.volume? name =
          if claim.name = name then some claim.record else e.registry.volume? name := by
        rw [hafter]
        exact volume?_insert_record e.registry claim name
      by_cases hname : claim.name = name
      · subst hname
        rw [if_pos rfl] at hlookup
        have haccepted := Claim.verdict_eq_accepted_iff.mpr ⟨qualifies, rfl⟩
        exact .discovered unknown haccepted rfl hlookup
      · rw [if_neg hname] at hlookup
        exact .of_eq hlookup

/-- **Steps.**  A volume becomes known in one of two ways, and stays what it is. -/
theorem Effect.record (h : Effect e s e' events) (name : String) : RecordEffect e e' name s := by
  cases h with
  | started start => exact .of_start start (registry_keep ..)
  | refused start =>
      obtain ⟨rfl, _⟩ := Operation.start_ends start
      exact .of_eq rfl
  | looked => exact .of_discover rfl
  | wentOn found admits resume =>
      rename_i id signal op next r
      rcases Operation.kept_or_provided_of_resume resume with
        rfl | ⟨t, t', v, rfl, rfl, hstage, rfl, htarget⟩
      · exact .of_eq (by rw [registry_keep])
      · obtain ⟨hunknown, _, htakes⟩ := Restore.target_waits htarget
        by_cases hname : name = v.name
        · subst hname
          refine .provided hunknown found hstage htarget rfl ?_
          rw [registry_keep]
          exact (Restore.target_registers htarget).2.2.2
        · exact .of_eq (by rw [registry_keep]; exact htakes.others name hname)
  | ended found admits resume =>
      obtain ⟨hvolumes, _⟩ := (Operation.ends_of_resume resume).volumes_held
      refine .of_eq ?_
      rw [volume?_remove]
      unfold Registry.volume?
      rw [hvolumes]
  | dropped found => exact .of_eq (volume?_remove ..)
  | heard found asking live =>
      rename_i id p status
      have hrecord := Registry.volume?_record e.registry p.job status name
      by_cases hname : p.job.volumeId = name
      · rw [if_pos hname] at hrecord
        cases hv : e.registry.volume? name with
        | none => exact .unknown hv (by rw [hrecord, hv]; rfl)
        | some v =>
            rw [hv] at hrecord
            refine .kept hv hrecord ?_
            unfold Volume.withStatus
            cases p.job.kind <;> exact ⟨rfl, rfl, rfl⟩
      · rw [if_neg hname] at hrecord
        exact .of_eq hrecord
  | idle | unheard | unserved => exact .of_eq rfl

/-- **Step.**  A volume that is known stays known. -/
theorem Effect.registered {v : Volume} (h : Effect e s e' events)
    (hv : e.registry.volume? name = some v) :
    ∃ v', e'.registry.volume? name = some v' ∧ v.Same v' := by
  cases h.record name with
  | kept before after same =>
      cases hv.symm.trans before
      exact ⟨_, after, same⟩
  | unknown before after => cases hv.symm.trans before
  | discovered before accepted named after => cases hv.symm.trans before
  | provided before found stage target named after => cases hv.symm.trans before

/-- **Run.**  It stays known for good. -/
theorem registered_run {v : Volume} (hv : e.registry.volume? name = some v)
    (rest : List Stimulus) :
    ∃ v', (e.run rest).1.registry.volume? name = some v' ∧ v.Same v' := by
  induction rest generalizing e v with
  | nil => exact ⟨v, hv, .refl v⟩
  | cons s more ih =>
      obtain ⟨v', hv', hsame⟩ := (effect_step e s).registered hv
      obtain ⟨v'', hv'', hmore⟩ := ih hv'
      exact ⟨v'', hv'', hsame.trans hmore⟩

end Engine

end SnapshotEngine
