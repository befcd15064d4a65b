import SnapshotEngine.Engine
import SnapshotEngine.Proofs.Discovery.Claim
import SnapshotEngine.Proofs.Registry.Alike

/-!
# The first claim that qualifies

Claims are looked at one after another.  What is known stays, and of the claims for a volume
that is not known yet the first one that qualifies settles its record; all others come too
late.

* `volume?_discoverAll` — the record of every volume afterwards;
* `added_discoverAll` — the new records, and no other ones, once each;
* `discoverAll_eq_self` — claims that bring nothing new;
* `alike_of_reordered` — claims in another order;
* `Engine.first_claim_wins` — all of it, for an engine that is told of the claims.
-/

namespace SnapshotEngine

/-- The registry that is left when claims were looked at one after another. -/
def discoverAll (r : Registry) : List Claim → Registry
  | [] => r
  | c :: more => discoverAll (discover r c).2 more

/-- The record that a list of claims has for a name: that of the first claim of this name
which qualifies. -/
def firstRecord? (claims : List Claim) (name : String) : Option Volume :=
  (claims.find? fun c => c.name = name ∧ c.Qualifies).map Claim.record

/-- The records that a list of claims adds to a registry: they are put before those that are
there, each under its own name, and there is one for each name that is not known and that
some claim has a record for. -/
structure Added (r r' : Registry) (claims : List Claim) (fresh : List Volume) : Prop where
  entries : r'.volumes.entries = fresh.map (fun v => (v.name, v)) ++ r.volumes.entries
  distinct : (fresh.map (·.name)).Nodup
  first : ∀ v, v ∈ fresh ↔ r.volume? v.name = none ∧ firstRecord? claims v.name = some v

/-- Claims in another order, in which those of one name still follow each other as before. -/
def Reordered (claims claims' : List Claim) : Prop :=
  ∀ name, (claims'.filter fun c => c.name = name) = claims.filter fun c => c.name = name

variable {r r' : Registry} {c : Claim} {claims claims' : List Claim}

/-! ## One claim -/

/-- A record under a new name is put before those that are there. -/
theorem entries_insert_of_unknown {v : Volume} (unknown : r.volume? v.name = none) :
    (r.insert v).volumes.entries = (v.name, v) :: r.volumes.entries :=
  congrArg (fun t : Table String Volume => (v.name, v) :: t.entries) (Table.erase_eq_self unknown)

theorem firstRecord?_cons (c : Claim) (more : List Claim) (name : String) :
    firstRecord? (c :: more) name =
      if c.name = name ∧ c.Qualifies then some c.record else firstRecord? more name := by
  unfold firstRecord?
  by_cases h : c.name = name ∧ c.Qualifies
  · rw [if_pos h, List.find?_cons_of_pos (by simpa using h)]
    rfl
  · rw [if_neg h, List.find?_cons_of_neg (by simpa using h)]

/-- **Step.**  What the rest of the claims has for a name counts after what is there, as did
what this claim has. -/
theorem Looked.volume? (h : Looked r c r') (more : List Claim) (name : String) :
    (r'.volume? name).or (firstRecord? more name) =
      (r.volume? name).or (firstRecord? (c :: more) name) := by
  rw [firstRecord?_cons]
  cases h with
  | passed unqualified => rw [if_neg fun h => unqualified h.2]
  | known found =>
      by_cases hname : c.name = name
      · subst hname
        rw [found]
        rfl
      · rw [if_neg fun h => hname h.1]
  | registered qualifies unknown =>
      rw [volume?_insert_record]
      by_cases hname : c.name = name
      · subst hname
        rw [if_pos rfl, if_pos ⟨rfl, qualifies⟩, unknown]
        rfl
      · rw [if_neg hname, if_neg fun h => hname h.1]

/-- A claim that brings nothing new leaves what the others add. -/
theorem Added.skip {more : List Claim} {fresh : List Volume} (h : Added r r' more fresh)
    (nothing : ∀ name, r.volume? name = none →
      firstRecord? (c :: more) name = firstRecord? more name) :
    Added r r' (c :: more) fresh where
  entries := h.entries
  distinct := h.distinct
  first v := (h.first v).trans (and_congr_right fun unknown => by rw [nothing v.name unknown])

/-- The record of a claim that is registered comes before what the others add. -/
theorem Added.register {more : List Claim} {fresh : List Volume}
    (h : Added (r.insert c.record) r' more fresh) (qualifies : c.Qualifies)
    (unknown : r.volume? c.name = none) : Added r r' (c :: more) (fresh ++ [c.record]) where
  entries := by
    rw [h.entries, entries_insert_of_unknown unknown]
    simp
  distinct := by
    have hnew : ∀ v ∈ fresh, c.name ≠ v.name := by
      intro v hv hname
      have hunknown := ((h.first v).mp hv).1
      rw [volume?_insert_record, if_pos hname] at hunknown
      cases hunknown
    rw [List.map_append, List.nodup_append]
    refine ⟨h.distinct, List.pairwise_singleton _ _, ?_⟩
    rintro _ hmem _ hlast rfl
    obtain ⟨v, hv, rfl⟩ := List.mem_map.mp hmem
    exact hnew v hv (List.mem_singleton.mp hlast).symm
  first v := by
    rw [List.mem_append, h.first, List.mem_singleton, volume?_insert_record, firstRecord?_cons]
    by_cases hname : c.name = v.name
    · rw [if_pos hname, if_pos ⟨hname, qualifies⟩, ← hname, unknown]
      simp [eq_comm]
    · rw [if_neg hname, if_neg fun h => hname h.1, or_iff_left]
      rintro rfl
      exact hname rfl

/-- **Step.**  What the rest of the claims adds is added with this one. -/
theorem Looked.added {after : Registry} {more : List Claim} {fresh : List Volume}
    (h : Looked r c r') (hmore : Added r' after more fresh) :
    ∃ fresh', Added r after (c :: more) fresh' := by
  have hvolume := h.volume? more
  cases h with
  | passed | known =>
      refine ⟨fresh, hmore.skip fun name unknown => ?_⟩
      have hfirst := hvolume name
      rw [unknown, Option.none_or, Option.none_or] at hfirst
      exact hfirst.symm
  | registered qualifies unknown => exact ⟨_, hmore.register qualifies unknown⟩

/-! ## All claims -/

/-- **Run.**  What was known stays, and every other record is that of the first claim. -/
theorem volume?_discoverAll (r : Registry) (claims : List Claim) (name : String) :
    (discoverAll r claims).volume? name = (r.volume? name).or (firstRecord? claims name) := by
  induction claims generalizing r with
  | nil => simp [discoverAll, firstRecord?]
  | cons c more ih => exact (ih _).trans ((looked_discover r c).volume? more name)

theorem snapshots_held_discoverAll (r : Registry) (claims : List Claim) :
    (discoverAll r claims).snapshots = r.snapshots ∧ (discoverAll r claims).held = r.held := by
  induction claims generalizing r with
  | nil => exact ⟨rfl, rfl⟩
  | cons c more ih =>
      obtain ⟨_, hsnapshots, hheld⟩ := (looked_discover r c).keeps
      exact ⟨(ih _).1.trans hsnapshots, (ih _).2.trans hheld⟩

/-- **Run.**  One record is added for each new name. -/
theorem added_discoverAll (r : Registry) (claims : List Claim) :
    ∃ fresh, Added r (discoverAll r claims) claims fresh := by
  induction claims generalizing r with
  | nil => exact ⟨[], rfl, List.nodup_nil, by simp [firstRecord?]⟩
  | cons c more ih =>
      obtain ⟨fresh, hadded⟩ := ih (discover r c).2
      exact (looked_discover r c).added hadded

/-- A claim that qualifies has its volume known afterwards. -/
theorem known_discoverAll (hc : c ∈ claims) (qualifies : c.Qualifies) :
    (discoverAll r claims).volume? c.name ≠ none := by
  have hfirst : (firstRecord? claims c.name).isSome := by
    rw [firstRecord?, Option.isSome_map, List.find?_isSome]
    exact ⟨c, hc, by simpa using qualifies⟩
  rw [volume?_discoverAll, ← Option.isSome_iff_ne_none, Option.isSome_or, hfirst, Bool.or_true]

/-- Claims change nothing if the volumes of those that qualify are known. -/
theorem discoverAll_eq_self (h : ∀ c ∈ claims, c.Qualifies → r.volume? c.name ≠ none) :
    discoverAll r claims = r := by
  induction claims with
  | nil => rfl
  | cons c more ih =>
      have hkept : (discover r c).2 = r := by
        have hlooked := looked_discover r c
        generalize (discover r c).2 = r' at hlooked
        cases hlooked with
        | passed | known => rfl
        | registered qualifies unknown => exact absurd unknown (h c List.mem_cons_self qualifies)
      rw [discoverAll, hkept]
      exact ih fun d hd => h d (List.mem_cons_of_mem _ hd)

/-! ## Another order -/

/-- A list of claims with names of their own may be put in any order. -/
theorem reordered_of_perm (hperm : claims'.Perm claims) (distinct : (claims.map (·.name)).Nodup) :
    Reordered claims claims' := by
  intro name
  have hfilter := hperm.filter fun c => c.name = name
  have hdistinct : ((claims.filter fun c => c.name = name).map (·.name)).Nodup :=
    distinct.sublist (List.filter_sublist.map _)
  have hnamed : ∀ c ∈ claims.filter fun c => c.name = name, c.name = name :=
    fun c hc => by simpa using (List.mem_filter.mp hc).2
  -- At most one claim is left, so that there is only one order.
  generalize (claims.filter fun c => c.name = name) = named at hfilter hdistinct hnamed ⊢
  match named with
  | [] => exact hfilter.eq_nil
  | [c] => exact hfilter.eq_singleton
  | c :: d :: rest =>
      have hne : c.name ≠ d.name := by
        intro heq
        simp [heq] at hdistinct
      exact absurd ((hnamed c (by simp)).trans (hnamed d (by simp)).symm) hne

theorem Reordered.firstRecord? (h : Reordered claims claims') (name : String) :
    firstRecord? claims' name = firstRecord? claims name := by
  have hfind : ∀ cs : List Claim, (cs.find? fun c => c.name = name ∧ c.Qualifies) =
      (cs.filter fun c => c.name = name).find? fun c => c.Qualifies := by
    intro cs
    simp [List.find?_filter]
  rw [SnapshotEngine.firstRecord?, SnapshotEngine.firstRecord?, hfind, hfind, h name]

theorem alike_of_reordered (r : Registry) (h : Reordered claims claims') :
    (discoverAll r claims).Alike (discoverAll r claims') where
  volumes name := by rw [volume?_discoverAll, volume?_discoverAll, h.firstRecord?]
  snapshots := by rw [(snapshots_held_discoverAll r _).1, (snapshots_held_discoverAll r _).1]
  held := by rw [(snapshots_held_discoverAll r _).2, (snapshots_held_discoverAll r _).2]

/-! ## The engine -/

namespace Engine

/-- An engine that is told of claims looks at one after another, and does nothing else. -/
theorem run_reported (e : Engine) (claims : List Claim) :
    e.run (claims.map .reported) =
      ({ e with registry := discoverAll e.registry claims },
        claims.map fun c => .discovered c.outcome) := by
  induction claims generalizing e with
  | nil => rfl
  | cons c more ih =>
      have hanswer : (discover e.registry c).1 = c.outcome := by rw [discover_eq]
      simp [run, step, ih, discoverAll, hanswer]

/-- **The first claim wins.**  Whatever its registry holds, an engine that is told of claims
answers to each of them what that claim alone calls for, and changes nothing but its volumes.
What is known stays.  For each other name that some qualifying claim has, one record is new:
that of the first such claim.  To be told again of any of the claims changes nothing.  And
if the claims are put in another order, which may be any if each has a name of its own, the
registry that is left cannot be told from the one that would have been. -/
theorem first_claim_wins (e : Engine) (claims : List Claim) :
    let r := e.registry
    let told := (e.run (claims.map .reported)).1
    let after := told.registry
    e.run (claims.map .reported) =
        ({ e with registry := after }, claims.map fun c => .discovered c.outcome) ∧
      after.snapshots = r.snapshots ∧ after.held = r.held ∧
      (∀ name, after.volume? name = (r.volume? name).or (firstRecord? claims name)) ∧
      (∃ fresh, Added r after claims fresh) ∧
      (∀ again ⊆ claims,
        told.run (again.map .reported) = (told, again.map fun c => .discovered c.outcome)) ∧
      ∀ claims', Reordered claims claims' ∨
          claims'.Perm claims ∧ (claims.map (·.name)).Nodup →
        let after' := (e.run (claims'.map .reported)).1.registry
        after.Alike after' ∧
          ∀ requests, (RegistrySession.ofRegistry after').askAll requests =
            (RegistrySession.ofRegistry after).askAll requests := by
  intro r told after
  have hrun := run_reported e claims
  have hafter : after = discoverAll r claims := congrArg (fun out => out.1.registry) hrun
  obtain ⟨hsnapshots, hheld⟩ := snapshots_held_discoverAll r claims
  rw [hafter]
  have hvolume := volume?_discoverAll r claims
  refine ⟨hrun, hsnapshots, hheld, hvolume, added_discoverAll r claims, ?_, ?_⟩
  · intro again hsubset
    have hkept : discoverAll after again = after := by
      refine discoverAll_eq_self fun c hc qualifies => ?_
      rw [hafter]
      exact known_discoverAll (hsubset hc) qualifies
    rw [run_reported, hkept]
  · intro claims' horder after'
    have hreordered : Reordered claims claims' := by
      rcases horder with hreordered | ⟨hperm, distinct⟩
      · exact hreordered
      · exact reordered_of_perm hperm distinct
    have hafter' : after' = discoverAll r claims' :=
      congrArg (fun out => out.1.registry) (run_reported e claims')
    have halike : (discoverAll r claims).Alike after' := by
      rw [hafter']
      exact alike_of_reordered r hreordered
    have hsessions : (RegistrySession.ofRegistry (discoverAll r claims)).Alike
        (.ofRegistry after') := ⟨halike, rfl⟩
    exact ⟨halike, hsessions.askAll⟩

/-- A claim for a volume of this engine. -/
def claimed (name ns : String) (phase : ClaimPhase) : Claim :=
  ⟨name, "cstor", some ns, .ofList [(engineLabel, engineName)], phase⟩

theorem first_claim_wins_claimed_twice :
    let e := ofRegistry (Registry.empty.insert (.fresh "pvc-1" "apps" "cstor"))
    let claims := [claimed "pvc-1" "web" .bound, claimed "pvc-2" "jobs" .released,
      claimed "pvc-2" "apps" .bound, claimed "pvc-2" "web" .bound]
    let again := [claimed "pvc-2" "web" .bound, claimed "pvc-2" "jobs" .released]
    let distinct := [claimed "pvc-2" "apps" .bound, claimed "pvc-3" "web" .available]
    let told := (e.run (claims.map .reported)).1
    told.registry.volume? "pvc-1" = some (.fresh "pvc-1" "apps" "cstor") ∧
      told.registry.volume? "pvc-2" = some (.fresh "pvc-2" "apps" "cstor") ∧
      told.run (again.map .reported) =
        (told, [.discovered (.ok (some "pvc-2")),
          .discovered (.error (.invalidVolume "pvc-2" .released))]) ∧
      (e.run (distinct.map .reported)).1.registry.Alike
        (e.run (distinct.reverse.map .reported)).1.registry := by
  intro e claims again distinct told
  obtain ⟨_, _, _, hvolume, _, hagain, _⟩ := first_claim_wins e claims
  obtain ⟨_, _, _, _, _, _, horder⟩ := first_claim_wins e distinct
  have hsubset : again ⊆ claims := by simp [again, claims]
  have hanswers : (again.map fun c => Event.discovered c.outcome) =
      [.discovered (.ok (some "pvc-2")),
        .discovered (.error (.invalidVolume "pvc-2" .released))] := rfl
  have hnames : (distinct.map (·.name)).Nodup := by decide
  refine ⟨(hvolume "pvc-1").trans ?_, (hvolume "pvc-2").trans ?_, ?_, ?_⟩
  · decide +kernel
  · decide +kernel
  · exact (hagain again hsubset).trans (congrArg (Prod.mk told) hanswers)
  · exact (horder distinct.reverse (.inr ⟨List.reverse_perm distinct, hnames⟩)).1

end Engine

end SnapshotEngine
