import SnapshotEngine.Proofs.ControlPlane.Address
import SnapshotEngine.Proofs.Json.RoundTrip

/-!
# What gets through to the control plane

An order is a JSON body, and a question after a job has its particulars in the query of its
target.  Both ways of writing keep every text as it is, whatever characters are in it.

* `said?_orderBody`, `orderBody_inj` — what the body of an order says, which tells it from others;
* `Addressable.of_plain` — the names that a target keeps as they are;
* `of_received_order` — what comes of an order that is received;
* `nothing_lost_on_the_wire` — all of these together.
-/

namespace SnapshotEngine

/-! ## Bodies -/

/-- The texts that a body says, each under the names that lead to it. -/
def said? (body : Bytes) : Option (List (List String × String)) :=
  (Json.parse body).bind Json.texts?

theorem said?_render {j : Json} (h : j.Written) : said? j.render = j.texts? := by
  rw [said?, Json.parse_render h, Option.bind_some]

/-- The body of an order with a namespace and particulars. -/
def orderBody (claimNamespace : String) (spec : List (String × String)) : Json :=
  .ofFields [
    ("metadata", .ofFields [("namespace", .ofText claimNamespace)]),
    ("spec", .ofFields (spec.map fun entry => (entry.1, .ofText entry.2)))]

theorem fieldTexts?_map_ofText (spec : List (String × String)) :
    Json.fieldTexts? (Json.withBodies (spec.map fun entry => (entry.1, .ofText entry.2))) =
      some (spec.map fun entry => ([entry.1], entry.2)) := by
  induction spec with
  | nil => rfl
  | cons entry more ih =>
      rw [List.map_cons, Json.fieldTexts?_cons, ih, Json.texts?_ofText]
      rfl

/-- Such a body says its namespace and its particulars, and nothing else. -/
theorem said?_orderBody (claimNamespace : String) (spec : List (String × String)) :
    said? (orderBody claimNamespace spec).render = some
      ((["metadata", "namespace"], claimNamespace) ::
        spec.map fun entry => (["spec", entry.1], entry.2)) := by
  have hspec : (Json.ofFields (spec.map fun entry => (entry.1, .ofText entry.2))).Written := by
    refine .object fun field hfield => ?_
    obtain ⟨entry, _, rfl⟩ := List.mem_map.mp hfield
    exact .text entry.2
  have hwritten : (orderBody claimNamespace spec).Written := by simp [orderBody, hspec]
  rw [said?_render hwritten, orderBody]
  simp [fieldTexts?_map_ofText]

/-- So bodies with other particulars are other bodies. -/
theorem orderBody_inj {claimNamespace claimNamespace' : String}
    {spec spec' : List (String × String)}
    (h : (orderBody claimNamespace spec).render = (orderBody claimNamespace' spec').render) :
    claimNamespace = claimNamespace' ∧ spec = spec' := by
  have hsaid := congrArg said? h
  rw [said?_orderBody, said?_orderBody, Option.some.injEq, List.cons.injEq] at hsaid
  refine ⟨(Prod.mk.inj hsaid.1).2, (List.map_inj_right fun entry entry' heq => ?_).mp hsaid.2⟩
  simpa [Prod.ext_iff] using heq

/-- The particulars of an order for a backup. -/
def BackupRequest.spec (order : BackupRequest) : List (String × String) :=
  [("backupName", order.seriesName), ("volumeName", order.volumeId),
    ("snapName", order.backupName), ("backupDest", order.destination)]

/-- The particulars of an order for a restore. -/
def RestoreRequest.spec (order : RestoreRequest) : List (String × String) :=
  [("restoreName", order.backupName), ("volumeName", order.volumeId),
    ("restoreSrc", order.source)]

theorem BackupRequest.toJson_eq (order : BackupRequest) :
    order.toJson = orderBody order.claimNamespace order.spec := rfl

theorem RestoreRequest.toJson_eq (order : RestoreRequest) :
    order.toJson = orderBody order.claimNamespace order.spec := rfl

/-- The body of an order for a backup says its namespace, its series, its volume, its name and
its destination, and nothing else. -/
theorem BackupRequest.said?_toJson (order : BackupRequest) :
    said? order.toJson.render = some
      [(["metadata", "namespace"], order.claimNamespace),
        (["spec", "backupName"], order.seriesName), (["spec", "volumeName"], order.volumeId),
        (["spec", "snapName"], order.backupName), (["spec", "backupDest"], order.destination)] :=
  said?_orderBody order.claimNamespace order.spec

/-- The body of an order for a restore says its namespace, its name, its volume and its source,
and nothing else. -/
theorem RestoreRequest.said?_toJson (order : RestoreRequest) :
    said? order.toJson.render = some
      [(["metadata", "namespace"], order.claimNamespace),
        (["spec", "restoreName"], order.backupName), (["spec", "volumeName"], order.volumeId),
        (["spec", "restoreSrc"], order.source)] :=
  said?_orderBody order.claimNamespace order.spec

/-- Different orders have different bodies. -/
theorem BackupRequest.toJson_inj {order order' : BackupRequest}
    (h : order.toJson.render = order'.toJson.render) : order = order' := by
  rw [toJson_eq, toJson_eq] at h
  obtain ⟨hclaim, hspec⟩ := orderBody_inj h
  cases order
  cases order'
  cases hclaim
  cases hspec
  rfl

theorem RestoreRequest.toJson_inj {order order' : RestoreRequest}
    (h : order.toJson.render = order'.toJson.render) : order = order' := by
  rw [toJson_eq, toJson_eq] at h
  obtain ⟨hclaim, hspec⟩ := orderBody_inj h
  cases order
  cases order'
  cases hclaim
  cases hspec
  rfl

/-- An order for a backup is none for a restore. -/
theorem BackupRequest.toJson_ne (order : BackupRequest) (other : RestoreRequest) :
    order.toJson.render ≠ other.toJson.render := by
  intro h
  rw [toJson_eq, other.toJson_eq] at h
  obtain ⟨_, hspec⟩ := orderBody_inj h
  simp [spec, RestoreRequest.spec] at hspec

/-! ## Names -/

/-- The characters of a plain name: letters, digits, the hyphen and the low line. -/
def isPlainInName (c : Char) : Bool := c.isAlphanum || c = '-' || c = '_'

/-- Nothing in a plain name means anything to a URL. -/
theorem Addressable.of_plain {name : String} (h : ∀ c ∈ name.toList, isPlainInName c) :
    Addressable name := by
  have hnot : ∀ c, isPlainInName c = false → c ∉ name.toList := by
    intro c hc hmem
    exact absurd (h c hmem) (ne_true_of_eq_false hc)
  have hne : ∀ d, isPlainInName d = false → ∀ c ∈ name.toList, c ≠ d :=
    fun d hd c hc heq => hnot d hd (heq ▸ hc)
  have hedge : ∀ c ∈ name.toList, Url.isEdge c = false := by
    have hlow : ∀ k : Fin 0x21, isPlainInName (Char.ofNat k.val) = false := by decide
    intro c hc
    refine decide_eq_false fun hle => ?_
    have hplain := hlow ⟨c.toNat, Nat.lt_succ_of_le hle⟩
    rw [Char.ofNat_toNat] at hplain
    exact hnot c hplain hc
  have hpercent : '%' ∉ name.toList := hnot '%' (by decide)
  have hslash : ∀ c ∈ name.toList, UrlPath.isSlash c = false := by
    intro c hc
    rw [UrlPath.isSlash, decide_eq_false (hne '/' (by decide) c hc),
      decide_eq_false (hne '\\' (by decide) c hc)]
    rfl
  have hignored : ∀ c ∈ name.toList, Url.isIgnored c = false := by
    intro c hc
    rw [Url.isIgnored, decide_eq_false (hne '\t' (by decide) c hc),
      decide_eq_false (hne '\n' (by decide) c hc), decide_eq_false (hne '\r' (by decide) c hc)]
    rfl
  refine ⟨fun c hc => ?_, fun c hc => hedge c (List.mem_of_getLast? hc), ?_, fun s hs => ?_⟩
  · exact ⟨hne '#' (by decide) c hc, hne '?' (by decide) c hc, hne '\\' (by decide) c hc,
      hignored c hc⟩
  · have happend := Percent.hasEscape_append hpercent []
    rwa [List.append_nil] at happend
  · rw [UrlPath.segments_eq_singleton hslash, List.mem_singleton] at hs
    rw [hs]
    exact UrlPath.step?_eq_none hpercent (hnot '.' (by decide))

namespace ControlPlaneClient

/-! ## Calls -/

/-- A call sends a request, which is received unless there is no connection. -/
def Sends {α : Type} (call : (HttpRequest → HttpReply) → Exchange α) (sent : HttpRequest) :
    Prop :=
  ∀ transport, (call transport).received = if transport sent = .refused then none else some sent

/-- What is received was to be sent. -/
theorem eq_some_of_received {α : Type} {transport : HttpRequest → HttpReply}
    {request : Option HttpRequest} {look : Bytes → Except ControlPlaneError α}
    {sent : HttpRequest} (h : (send transport request look).received = some sent) :
    request = some sent := by
  unfold send at h
  split at h
  · cases h
  · simp only at h
    split at h
    · cases h
    · exact h

theorem sends_of_eq_some {α : Type} {request : Option HttpRequest}
    {look : Bytes → Except ControlPlaneError α} {sent : HttpRequest} (h : request = some sent) :
    Sends (send · request look) sent := by
  subst h
  exact fun _ => rfl

/-- An order that is received has its body, and makes its job with a complete answer of
success. -/
theorem of_received_order {c : ControlPlaneClient} {transport : HttpRequest → HttpReply}
    {kind : JobKind} {body : Json} {job : JobHandle} {sent : HttpRequest}
    (h : (send transport (c.order? kind body) fun _ => .ok job).received = some sent) :
    sent.body = body.render ∧ ∀ answer, transport sent = .complete 200 answer →
      (send transport (c.order? kind body) fun _ => .ok job).result = .ok job := by
  have hsent := eq_some_of_received h
  obtain ⟨url, _, hrequest⟩ := Option.map_eq_some_iff.mp hsent
  refine ⟨by rw [← hrequest], fun answer hanswer => ?_⟩
  have hread : read (transport sent) = .ok answer := read_eq_ok_iff.mpr hanswer
  simp only [hsent, send, hread, Except.bind]

/-- At a host every order is posted. -/
theorem order?_ofUrl {host : String} (hhost : IsHost host) (kind : JobKind) (body : Json) :
    ∃ sent, (ofUrl ("http://" ++ host)).order? kind body = some sent ∧ sent.method = .post := by
  have hurl := url?_ofUrl hhost kind ""
  rw [String.append_empty] at hurl
  exact ⟨_, by rw [order?, hurl]; rfl, rfl⟩

/-- **Nothing is lost.**  The body of an order that is received says just what the order does,
so that different orders have different bodies, and with a complete answer of success the job
is that of the body.  At a host every order is posted; and for every plain name the request
that deletes a backup, and the question after a job, are about that name, with the volume and
the namespace that were given in their query, whatever characters are in them. -/
theorem nothing_lost_on_the_wire :
    (∀ (c : ControlPlaneClient) transport (order : BackupRequest) sent,
      (c.createBackup transport order).received = some sent →
        sent.body = order.toJson.render ∧
        said? sent.body = some
          [(["metadata", "namespace"], order.claimNamespace),
            (["spec", "backupName"], order.seriesName), (["spec", "volumeName"], order.volumeId),
            (["spec", "snapName"], order.backupName),
            (["spec", "backupDest"], order.destination)] ∧
        ∀ answer, transport sent = .complete 200 answer →
          (c.createBackup transport order).result =
            .ok ⟨.backup, order.backupName, order.volumeId, order.claimNamespace⟩) ∧
    (∀ (c : ControlPlaneClient) transport (order : RestoreRequest) sent,
      (c.createRestore transport order).received = some sent →
        sent.body = order.toJson.render ∧
        said? sent.body = some
          [(["metadata", "namespace"], order.claimNamespace),
            (["spec", "restoreName"], order.backupName), (["spec", "volumeName"], order.volumeId),
            (["spec", "restoreSrc"], order.source)] ∧
        ∀ answer, transport sent = .complete 200 answer →
          (c.createRestore transport order).result =
            .ok ⟨.restore, order.backupName, order.volumeId, order.claimNamespace⟩) ∧
    (∀ order order' : BackupRequest,
      order.toJson.render = order'.toJson.render → order = order') ∧
    (∀ order order' : RestoreRequest,
      order.toJson.render = order'.toJson.render → order = order') ∧
    (∀ (order : BackupRequest) (other : RestoreRequest),
      order.toJson.render ≠ other.toJson.render) ∧
    ∀ host, IsHost host →
      let c := ofUrl ("http://" ++ host)
      (∀ order, ∃ sent, Sends (c.createBackup · order) sent ∧ sent.method = .post) ∧
      (∀ order, ∃ sent, Sends (c.createRestore · order) sent ∧ sent.method = .post) ∧
      ∀ name volumeId claimNamespace, (∀ ch ∈ name.toList, isPlainInName ch) →
        (∃ sent, Sends (c.deleteBackup · volumeId name claimNamespace) sent ∧
          Addresses sent .backup name
            [("volume", volumeId), ("namespace", claimNamespace), ("casType", "cstor")]) ∧
        ∀ kind, ∃ sent, Sends (c.jobStatus · ⟨kind, name, volumeId, claimNamespace⟩) sent ∧
          Addresses sent kind name [("volume", volumeId), ("namespace", claimNamespace)] := by
  refine ⟨?_, ?_, fun _ _ => BackupRequest.toJson_inj, fun _ _ => RestoreRequest.toJson_inj,
    BackupRequest.toJson_ne, ?_⟩
  · intro c transport order sent hreceived
    obtain ⟨hbody, hjob⟩ := of_received_order hreceived
    exact ⟨hbody, hbody ▸ order.said?_toJson, hjob⟩
  · intro c transport order sent hreceived
    obtain ⟨hbody, hjob⟩ := of_received_order hreceived
    exact ⟨hbody, hbody ▸ order.said?_toJson, hjob⟩
  · intro host hhost c
    refine ⟨fun order => ?_, fun order => ?_, fun name volumeId claimNamespace hplain => ⟨?_, ?_⟩⟩
    · obtain ⟨sent, hsent, hpost⟩ := order?_ofUrl hhost .backup order.toJson
      exact ⟨sent, sends_of_eq_some hsent, hpost⟩
    · obtain ⟨sent, hsent, hpost⟩ := order?_ofUrl hhost .restore order.toJson
      exact ⟨sent, sends_of_eq_some hsent, hpost⟩
    · obtain ⟨sent, hsent, _, haddresses⟩ := deletion?_ofUrl hhost volumeId name claimNamespace
      exact ⟨sent, sends_of_eq_some hsent, haddresses.mpr (.of_plain hplain)⟩
    · intro kind
      obtain ⟨sent, hsent, _, haddresses⟩ :=
        query?_ofUrl hhost ⟨kind, name, volumeId, claimNamespace⟩
      exact ⟨sent, sends_of_eq_some hsent, haddresses.mpr (.of_plain hplain)⟩

theorem nothing_lost_on_the_wire_daily :
    let c := ofUrl "http://mgmt:5656"
    let order : BackupRequest := ⟨"pvc 1&2", "daily", "daily-01", "mover:9000", "größe=\"+%#"⟩
    IsHost "mgmt:5656" ∧ (∀ ch ∈ "daily-01".toList, isPlainInName ch) ∧
      (∃ sent, (c.createBackup (fun _ => .complete 200 []) order).received = some sent ∧
        said? sent.body = some
          [(["metadata", "namespace"], "größe=\"+%#"), (["spec", "backupName"], "daily"),
            (["spec", "volumeName"], "pvc 1&2"), (["spec", "snapName"], "daily-01"),
            (["spec", "backupDest"], "mover:9000")] ∧
        (c.createBackup (fun _ => .complete 200 []) order).result =
          .ok ⟨.backup, "daily-01", "pvc 1&2", "größe=\"+%#"⟩) ∧
      ∃ sent, Sends (c.deleteBackup · "pvc 1&2" "daily-01" "größe=\"+%#") sent ∧
        Addresses sent .backup "daily-01"
          [("volume", "pvc 1&2"), ("namespace", "größe=\"+%#"), ("casType", "cstor")] := by
  intro c order
  have hhost : IsHost "mgmt:5656" := by decide
  have hplain : ∀ ch ∈ "daily-01".toList, isPlainInName ch := List.all_eq_true.mp (by decide)
  obtain ⟨hbackups, _, _, _, _, hhosts⟩ := nothing_lost_on_the_wire
  obtain ⟨hposts, _, hqueries⟩ := hhosts "mgmt:5656" hhost
  obtain ⟨sent, hsends, _⟩ := hposts order
  have hreceived : (c.createBackup (fun _ => .complete 200 []) order).received = some sent :=
    hsends _
  obtain ⟨_, hsaid, hjob⟩ := hbackups c _ order sent hreceived
  obtain ⟨hdeletion, _⟩ := hqueries "daily-01" "pvc 1&2" "größe=\"+%#" hplain
  exact ⟨hhost, hplain, ⟨sent, hreceived, hsaid, hjob [] rfl⟩, hdeletion⟩

end ControlPlaneClient

end SnapshotEngine
