import SnapshotEngine.Proofs.ControlPlane.Acceptance
import SnapshotEngine.Proofs.Url.Parse
import SnapshotEngine.Text.Cut

/-!
# Which job a request is about

The name of a job stands in the path of the requests about it, below the collection, and is
put there as it is; the volume and the namespace stand in the query, in form encoding.  What
a URL does not look at, or takes for something else, is lost or changed on the way.

* `IsHost`, `isHost_of_kept` — the hosts that can be asked;
* `Addressable` — the names that get there as they are;
* `Addresses` — what a request is about;
* `requests_address_iff` — a request is about its job exactly if the name gets there;
* `deletion_of_other` — one that is about another job.
-/

namespace SnapshotEngine

namespace JobKind

/-- The path of a collection, between its slashes. -/
def stem (kind : JobKind) : List Char := (kind.collection.toList.drop 1).dropLast

theorem collection_eq (kind : JobKind) :
    kind.collection.toList = '/' :: (kind.stem ++ ['/']) := by
  cases kind <;> decide

/-- Different kinds of jobs are in different collections. -/
theorem eq_of_collection {kind kind' : JobKind}
    (h : kind.collection.toList = kind'.collection.toList) : kind = kind' := by
  revert h
  cases kind <;> cases kind' <;> decide

theorem collection_append (kind : JobKind) (cs : List Char) :
    kind.collection.toList ++ cs = '/' :: (kind.stem ++ '/' :: cs) := by
  rw [collection_eq]
  simp

/-- Nothing in the path of a collection has a meaning of its own. -/
theorem mem_stem (kind : JobKind) : ∀ c ∈ kind.stem,
    Url.isEdge c = false ∧ c ≠ '#' ∧ c ≠ '?' ∧ c ≠ '%' ∧ c ≠ '\\' := by
  have hall : kind.stem.all (fun c =>
      !Url.isEdge c && c ≠ '#' && c ≠ '?' && c ≠ '%' && c ≠ '\\') = true := by
    cases kind <;> decide
  intro c hc
  simpa [and_assoc] using List.all_eq_true.mp hall c hc

theorem not_mem_stem (kind : JobKind) : '%' ∉ kind.stem :=
  fun hmem => (kind.mem_stem _ hmem).2.2.2.1 rfl

/-- A collection ends no path. -/
theorem not_mem_collection_append (kind : JobKind) {tail : List Char} (h : '?' ∉ tail) :
    '?' ∉ kind.collection.toList ++ tail := by
  have hcollection : '?' ∉ kind.collection.toList := by cases kind <;> decide
  simp [hcollection, h]

/-- Its segments stay as they are. -/
theorem segments_stem (kind : JobKind) :
    (∀ s ∈ UrlPath.segments kind.stem, UrlPath.step? s = none) ∧
      UrlPath.render ((UrlPath.segments kind.stem).map UrlPath.encodeSegment) =
        '/' :: kind.stem := by
  cases kind <;> decide

/-- The segments of a name follow those of its collection. -/
theorem segments_stem_append (kind : JobKind) (name : List Char) :
    UrlPath.segments (kind.stem ++ '/' :: name) =
      UrlPath.segments kind.stem ++ UrlPath.segments name :=
  UrlPath.segments_append_cons rfl _ _

/-- The path of a name without steps is below its collection. -/
theorem render_normalize (kind : JobKind) {name : List Char}
    (h : ∀ s ∈ UrlPath.segments name, UrlPath.step? s = none) :
    ∃ tail, UrlPath.render (UrlPath.normalize (kind.stem ++ '/' :: name)) =
      kind.collection.toList ++ tail := by
  obtain ⟨hsteps, hrender⟩ := kind.segments_stem
  obtain ⟨segment, more, heq⟩ := List.exists_cons_of_ne_nil (UrlPath.segments_ne_nil name)
  have hall : ∀ s ∈ UrlPath.segments (kind.stem ++ '/' :: name), UrlPath.step? s = none := by
    rw [segments_stem_append]
    exact List.forall_mem_append.mpr ⟨hsteps, h⟩
  refine ⟨UrlPath.encodeSegment segment ++ UrlPath.render (more.map UrlPath.encodeSegment), ?_⟩
  unfold UrlPath.normalize
  rw [UrlPath.resolve_plain hall, List.nil_append, segments_stem_append, List.map_append, heq,
    UrlPath.render, List.flatMap_append, ← UrlPath.render, hrender, collection_eq]
  simp [UrlPath.render]

end JobKind

/-- A host, as it is written after two slashes. -/
structure IsHost (host : String) : Prop where
  visible : ∀ c ∈ host.toList, Url.isEdge c = false
  whole : ∀ c ∈ host.toList, Url.endsAuthority c = false
  named : Url.namesHost host.toList = true

-- As tests over the text: to decide `∀ c : Char` would be to go through all characters.
theorem isHost_iff_all {host : String} : IsHost host ↔
    host.toList.all (fun c => !Url.isEdge c && !Url.endsAuthority c) = true ∧
      Url.namesHost host.toList = true := by
  simp only [List.all_eq_true, Bool.and_eq_true, Bool.not_eq_true']
  constructor
  · intro h
    exact ⟨fun c hc => ⟨h.visible c hc, h.whole c hc⟩, h.named⟩
  · rintro ⟨hall, hnamed⟩
    exact ⟨fun c hc => (hall c hc).1, fun c hc => (hall c hc).2, hnamed⟩

instance (host : String) : Decidable (IsHost host) := decidable_of_iff' _ isHost_iff_all

/-- Nothing that may be in the name of a host ends one, or is cut off at its edges. -/
theorem UrlHost.ends_of_kept {c : Char} (h : UrlHost.isForbidden c = false) :
    Url.isEdge c = false ∧ Url.endsAuthority c = false := by
  have hne : ∀ d, UrlHost.isForbidden d = true → c ≠ d := by
    rintro d hd rfl
    exact absurd hd (ne_true_of_eq_false h)
  constructor
  · simp only [UrlHost.isForbidden, Bool.or_eq_false_iff] at h
    exact h.1.1
  · simp only [Url.endsAuthority, UrlPath.isSlash, Bool.or_eq_false_iff, decide_eq_false_iff_not]
    exact ⟨⟨⟨hne '/' rfl, hne '\\' rfl⟩, hne '?' rfl⟩, hne '#' rfl⟩

/-- A good name with a port behind it is a host. -/
theorem isHost_of_kept {name port : List Char} (hne : name ≠ [])
    (hname : ∀ c ∈ name, UrlHost.isForbidden c = false)
    (hlast : UrlHost.endsInNumber name = false) (hport : UrlHost.isPort port = true) :
    IsHost (String.ofList (name ++ ':' :: port)) := by
  have hdigits : ∀ c ∈ port, c.isDigit := List.all_eq_true.mp (Bool.and_eq_true_iff.mp hport).1
  have hmem : ∀ c ∈ name ++ ':' :: port, UrlHost.isForbidden c = false ∨ c = ':' := by
    intro c hc
    rcases List.mem_append.mp hc with hc | hc
    · exact .inl (hname c hc)
    · rcases List.mem_cons.mp hc with rfl | hc
      · exact .inr rfl
      · exact .inl (UrlHost.isForbidden_of_isDigit (hdigits c hc))
  have hat : '@' ∉ name ++ ':' :: port := by
    intro hc
    rcases hmem _ hc with h | h <;> cases h
  refine ⟨fun c hc => ?_, fun c hc => ?_, ?_⟩
  · rw [String.toList_ofList] at hc
    rcases hmem c hc with h | rfl
    · exact (UrlHost.ends_of_kept h).1
    · rfl
  · rw [String.toList_ofList] at hc
    rcases hmem c hc with h | rfl
    · exact (UrlHost.ends_of_kept h).2
    · rfl
  · rw [String.toList_ofList, Url.namesHost, Url.hostPart, Text.cutLast_eq_none_iff.mpr hat]
    simp only [UrlHost.isHostAndPort, UrlHost.cutPort_append hname,
      UrlHost.isHost_of_kept hne hname hlast, hport, Bool.and_self]

namespace ControlPlaneClient

/-- A URL that ends with a host is used as it is. -/
theorem baseUrl_ofUrl {host : String} (h : IsHost host) :
    (ofUrl ("http://" ++ host)).baseUrl = "http://" ++ host := by
  have hne : host.toList ≠ [] := by
    intro hnil
    have hnamed := h.named
    rw [hnil] at hnamed
    cases hnamed
  have hkept : ∀ c ∈ host.toList, decide (c = '/') = false := by
    rintro c hc
    refine decide_eq_false ?_
    rintro rfl
    cases h.whole _ hc
  rw [ofUrl, String.toList_append, Text.stripEnd_append_of_kept hkept _ hne, ← String.toList_append,
    String.ofList_toList]

/-- The URL of a job at a host. -/
theorem url?_ofUrl {host : String} (h : IsHost host) (kind : JobKind) (name : String) :
    (ofUrl ("http://" ++ host)).url? (kind.collection ++ name) = some
      { secure := false
        authority := host.toList
        path := UrlPath.normalize
          (kind.stem ++ '/' :: Url.pathPart (Url.shown name.toList))
        query := (Url.pathAndQuery (Url.shown name.toList)).2 } := by
  have hstem : ∀ c ∈ kind.stem ++ ['/'], Url.isEdge c = false ∧ c ≠ '#' ∧ c ≠ '?' := by
    refine List.forall_mem_append.mpr ⟨fun c hc => ?_, List.forall_mem_singleton.mpr (by decide)⟩
    obtain ⟨hedge, hnumber, hquestion, _⟩ := kind.mem_stem c hc
    exact ⟨hedge, hnumber, hquestion⟩
  let front : List Char := "http://".toList ++ (host.toList ++ '/' :: (kind.stem ++ ['/']))
  have hfront : ∀ c ∈ front, Url.isEdge c = false := by
    have hscheme : ∀ c ∈ "http://".toList, Url.isEdge c = false := by simp [Url.isEdge]
    refine List.forall_mem_append.mpr ⟨hscheme, List.forall_mem_append.mpr ⟨h.visible, ?_⟩⟩
    exact List.forall_mem_cons.mpr ⟨by decide, fun c hc => (hstem c hc).1⟩
  have htext : ("http://" ++ host ++ (kind.collection ++ name)).toList =
      front ++ name.toList := by
    simp only [String.toList_append, kind.collection_eq, front, List.append_assoc,
      List.cons_append]
  have hclean : Url.clean ("http://" ++ host ++ (kind.collection ++ name)).toList =
      'h' :: 't' :: 't' :: 'p' :: ':' :: '/' :: '/' ::
        (host.toList ++ '/' :: (kind.stem ++ ['/'] ++ Url.shown name.toList)) := by
    rw [htext, Url.clean_append (by simp [front]) hfront]
    simp only [front, List.append_assoc, List.cons_append]
    rfl
  rw [url?, baseUrl_ofUrl h, Url.parse?_of_clean hclean h.named h.whole rfl,
    Url.pathAndQuery_append fun c hc => (hstem c hc).2]
  simp

/-- What is asked about a job at a host. -/
theorem about?_ofUrl {host : String} (h : IsHost host) (method : HttpMethod) (kind : JobKind)
    (name : String) (pairs : List (String × String)) :
    ∃ request query, (ofUrl ("http://" ++ host)).about? method kind name pairs = some request ∧
      request.method = method ∧
      request.target.toList = UrlPath.render (UrlPath.normalize
        (kind.stem ++ '/' :: Url.pathPart (Url.shown name.toList))) ++ '?' :: query ∧
      ((Url.pathAndQuery (Url.shown name.toList)).2 = none → query = Form.encode pairs) := by
  let url : Url :=
    { secure := false
      authority := host.toList
      path := UrlPath.normalize (kind.stem ++ '/' :: Url.pathPart (Url.shown name.toList))
      query := (Url.pathAndQuery (Url.shown name.toList)).2 }
  obtain ⟨query, htarget, hquery⟩ := url.target_withPairs pairs
  let request : HttpRequest :=
    { method := method
      target := (url.withPairs pairs).target
      contentType := none
      body := [] }
  refine ⟨request, query, ?_, rfl, htarget, hquery⟩
  rw [about?, url?_ofUrl h]
  rfl

end ControlPlaneClient

/-- The names that a request gets to the control plane as they are: nothing in them ends the
path, is read as a slash or is dropped; they do not end with white space or a control
character; there is no escape in them; and no part between slashes is a step. -/
structure Addressable (name : String) : Prop where
  kept : ∀ c ∈ name.toList, c ≠ '#' ∧ c ≠ '?' ∧ c ≠ '\\' ∧ Url.isIgnored c = false
  visible : ∀ c, name.toList.getLast? = some c → Url.isEdge c = false
  unescaped : Percent.hasEscape name.toList = false
  unstepped : ∀ s ∈ UrlPath.segments name.toList, UrlPath.step? s = none

theorem addressable_iff_all {name : String} : Addressable name ↔
    name.toList.all (fun c => c ≠ '#' ∧ c ≠ '?' ∧ c ≠ '\\' ∧ Url.isIgnored c = false) = true ∧
      name.toList.getLast?.all (!Url.isEdge ·) = true ∧
      Percent.hasEscape name.toList = false ∧
      ∀ s ∈ UrlPath.segments name.toList, UrlPath.step? s = none := by
  simp only [List.all_eq_true, decide_eq_true_eq, Option.all_eq_true, Bool.not_eq_true']
  constructor
  · intro h
    exact ⟨h.kept, h.visible, h.unescaped, h.unstepped⟩
  · rintro ⟨hkept, hvisible, hunescaped, hunstepped⟩
    exact ⟨hkept, hvisible, hunescaped, hunstepped⟩

instance (name : String) : Decidable (Addressable name) := decidable_of_iff' _ addressable_iff_all

/-- A request is about the job of a name, with the given pairs: after the collection, and up
to the first question mark, the path is decoded to the name, and what follows to the
pairs. -/
def Addresses (request : HttpRequest) (kind : JobKind) (name : String)
    (pairs : List (String × String)) : Prop :=
  ∃ tail query, request.target.toList = kind.collection.toList ++ tail ++ '?' :: query ∧
    '?' ∉ tail ∧ Percent.decode tail = Utf8.encode name ∧ Form.decode query = pairs

/-- Below a collection a path is decoded apart from it. -/
theorem JobKind.decode_collection_append (kind : JobKind) (tail : List Char) :
    Percent.decode (kind.collection.toList ++ tail) =
      Utf8.bytes kind.collection.toList ++ Percent.decode tail := by
  have hslash : '/' ≠ '%' := by decide
  have hplain : Percent.hasEscape ('/' :: kind.stem) = false := by
    have hfree : '%' ∉ '/' :: kind.stem := by simp [kind.not_mem_stem]
    have happend := Percent.hasEscape_append hfree []
    rwa [List.append_nil] at happend
  rw [kind.collection_eq]
  have hsplit : '/' :: (kind.stem ++ ['/']) ++ tail = ('/' :: kind.stem) ++ '/' :: tail := by simp
  rw [hsplit, Percent.decode_append_cons rfl hslash, Percent.decode_eq_bytes_iff.mpr hplain]
  simp

/-- What a request is about shows in its path and in its query. -/
theorem addresses_iff_decode {request : HttpRequest} {kind : JobKind} {name : String}
    {pairs : List (String × String)} {cs query : List Char}
    (htarget : request.target.toList = UrlPath.render (UrlPath.normalize cs) ++ '?' :: query) :
    Addresses request kind name pairs ↔
      (∃ tail, UrlPath.render (UrlPath.normalize cs) = kind.collection.toList ++ tail) ∧
        Percent.decode (UrlPath.render (UrlPath.normalize cs)) =
          Utf8.bytes (kind.collection.toList ++ name.toList) ∧
        Form.decode query = pairs := by
  have hpath := UrlPath.not_mem_render_normalize cs
  constructor
  · rintro ⟨tail, query', heq, htail, hdecode, hpairs⟩
    obtain ⟨hsame, rfl⟩ := Text.append_cons_inj (htarget.symm.trans heq) hpath
      (kind.not_mem_collection_append htail)
    refine ⟨⟨tail, hsame⟩, ?_, hpairs⟩
    rw [hsame, kind.decode_collection_append, hdecode, Utf8.bytes_append]
    rfl
  · rintro ⟨⟨tail, hsame⟩, hdecode, hpairs⟩
    refine ⟨tail, query, by rw [htarget, hsame], ?_, ?_, hpairs⟩
    · intro hmem
      rw [hsame] at hpath
      exact hpath (List.mem_append_right _ hmem)
    · rw [hsame, kind.decode_collection_append, Utf8.bytes_append] at hdecode
      exact List.append_cancel_left hdecode

/-- A name that is decoded from its path has got there as it is. -/
theorem Addressable.of_decode {kind : JobKind} {name : String}
    (h : Percent.decode (UrlPath.render (UrlPath.normalize
      (kind.stem ++ '/' :: Url.pathPart (Url.shown name.toList)))) =
        Utf8.bytes (kind.collection.toList ++ name.toList)) : Addressable name := by
  -- Nothing of the name was left out, since decoding adds nothing.
  have hpart : Url.pathPart (Url.shown name.toList) = name.toList := by
    refine Utf8.eq_of_sublist_of_length_bytes (Url.pathPart_shown_sublist _) ?_
    have hlength := UrlPath.length_decode_normalize_le
      (kind.stem ++ '/' :: Url.pathPart (Url.shown name.toList))
    rw [h, ← kind.collection_append] at hlength
    simp only [Utf8.bytes_append, List.length_append] at hlength
    omega
  rw [hpart, kind.collection_append, UrlPath.decode_normalize_eq_iff] at h
  obtain ⟨hsteps, hescape, hback⟩ := h
  obtain ⟨hkept, hvisible⟩ := Url.pathPart_shown_eq_self_iff.mp hpart
  refine ⟨fun c hc => ?_, hvisible, ?_, fun s hs => hsteps s ?_⟩
  · obtain ⟨hnumber, hquestion, hignored⟩ := hkept c hc
    refine ⟨hnumber, hquestion, ?_, hignored⟩
    rintro rfl
    exact hback (List.mem_append_right _ (List.mem_cons_of_mem _ hc))
  · rw [Percent.hasEscape_append kind.not_mem_stem] at hescape
    exact hescape
  · rw [kind.segments_stem_append]
    exact List.mem_append_right _ hs

/-- All of a name that gets there is part of the path. -/
theorem Addressable.pathPart_eq {name : String} (h : Addressable name) :
    Url.pathPart (Url.shown name.toList) = name.toList ∧
      (Url.pathAndQuery (Url.shown name.toList)).2 = none := by
  refine ⟨Url.pathPart_shown_eq_self_iff.mpr ⟨fun c hc => ?_, h.visible⟩, ?_⟩
  · obtain ⟨hnumber, hquestion, _, hignored⟩ := h.kept c hc
    exact ⟨hnumber, hquestion, hignored⟩
  · refine Url.query_eq_none fun hmem => ?_
    have hshown := (Text.stripEnd_isPrefix _ _).subset (List.mem_filter.mp hmem).1
    exact (h.kept _ hshown).2.1 rfl

/-- And it is decoded from its path. -/
theorem Addressable.decode_eq {name : String} (h : Addressable name) (kind : JobKind) :
    Percent.decode (UrlPath.render (UrlPath.normalize (kind.stem ++ '/' :: name.toList))) =
      Utf8.bytes (kind.collection.toList ++ name.toList) := by
  rw [kind.collection_append, UrlPath.decode_normalize_eq_iff]
  refine ⟨?_, ?_, ?_⟩
  · rw [kind.segments_stem_append]
    exact List.forall_mem_append.mpr ⟨kind.segments_stem.1, h.unstepped⟩
  · rw [Percent.hasEscape_append kind.not_mem_stem]
    exact h.unescaped
  · intro hmem
    rcases List.mem_append.mp hmem with hmem | hmem
    · exact (kind.mem_stem _ hmem).2.2.2.2 rfl
    · rcases List.mem_cons.mp hmem with heq | hmem
      · exact absurd heq (by decide)
      · exact (h.kept _ hmem).2.2.1 rfl

/-- A request is about the job of its name exactly if the name gets there. -/
theorem addresses_iff_addressable {request : HttpRequest} {kind : JobKind} {name : String}
    {pairs : List (String × String)} {query : List Char}
    (htarget : request.target.toList = UrlPath.render (UrlPath.normalize
      (kind.stem ++ '/' :: Url.pathPart (Url.shown name.toList))) ++ '?' :: query)
    (hquery : (Url.pathAndQuery (Url.shown name.toList)).2 = none → query = Form.encode pairs) :
    Addresses request kind name pairs ↔ Addressable name := by
  rw [addresses_iff_decode htarget]
  constructor
  · rintro ⟨_, hdecode, _⟩
    exact .of_decode hdecode
  · intro h
    obtain ⟨hpart, hnone⟩ := h.pathPart_eq
    rw [hpart]
    exact ⟨kind.render_normalize h.unstepped, h.decode_eq kind,
      by rw [hquery hnone, Form.decode_encode]⟩

/-- A request is about one job. -/
theorem Addresses.unique {request : HttpRequest} {kind kind' : JobKind} {name other : String}
    {pairs pairs' : List (String × String)} (h : Addresses request kind name pairs)
    (h' : Addresses request kind' other pairs') :
    kind = kind' ∧ name = other ∧ pairs = pairs' := by
  obtain ⟨tail, query, heq, htail, hdecode, hpairs⟩ := h
  obtain ⟨tail', query', heq', htail', hdecode', hpairs'⟩ := h'
  obtain ⟨hpath, rfl⟩ := Text.append_cons_inj (heq.symm.trans heq')
    (kind.not_mem_collection_append htail) (kind'.not_mem_collection_append htail')
  have hlength : kind.collection.toList.length = kind'.collection.toList.length := by
    cases kind <;> cases kind' <;> decide
  obtain ⟨hkind, rfl⟩ := List.append_inj hpath hlength
  exact ⟨JobKind.eq_of_collection hkind,
    String.toList_inj.mp (Utf8.bytes_inj (hdecode.symm.trans hdecode')),
    hpairs.symm.trans hpairs'⟩

namespace ControlPlaneClient

/-- The request that deletes a backup is about it exactly if the name gets there. -/
theorem deletion?_ofUrl {host : String} (hhost : IsHost host)
    (volumeId name claimNamespace : String) :
    ∃ request, (ofUrl ("http://" ++ host)).deletion? volumeId name claimNamespace = some request ∧
      request.method = .delete ∧
      (Addresses request .backup name
        [("volume", volumeId), ("namespace", claimNamespace), ("casType", engineName)] ↔
          Addressable name) := by
  obtain ⟨request, query, hrequest, hmethod, htarget, hquery⟩ :=
    about?_ofUrl hhost .delete .backup name
      [("volume", volumeId), ("namespace", claimNamespace), ("casType", engineName)]
  exact ⟨request, hrequest, hmethod, addresses_iff_addressable htarget hquery⟩

/-- The question after a job is about it exactly if its name gets there. -/
theorem query?_ofUrl {host : String} (hhost : IsHost host) (job : JobHandle) :
    ∃ request, (ofUrl ("http://" ++ host)).query? job = some request ∧
      request.method = .get ∧
      (Addresses request job.kind job.name
        [("volume", job.volumeId), ("namespace", job.claimNamespace)] ↔
          Addressable job.name) := by
  obtain ⟨request, query, hrequest, hmethod, htarget, hquery⟩ :=
    about?_ofUrl hhost .get job.kind job.name
      [("volume", job.volumeId), ("namespace", job.claimNamespace)]
  exact ⟨request, hrequest, hmethod, addresses_iff_addressable htarget hquery⟩

/-- **Requests and jobs.**  At every host, the request that deletes a backup and the question
after a job are sent for every name.  They are about that very job, with the volume and the
namespace that were given, exactly if the name gets there as it is; so is the question after
the job that was made of an order.  Of names that get there, different ones are never asked
after, or deleted, by the same request. -/
theorem requests_address_iff {host : String} (hhost : IsHost host) :
    let c := ofUrl ("http://" ++ host)
    (∀ volumeId name claimNamespace, ∃ request,
      c.deletion? volumeId name claimNamespace = some request ∧ request.method = .delete ∧
        (Addresses request .backup name
          [("volume", volumeId), ("namespace", claimNamespace), ("casType", engineName)] ↔
            Addressable name)) ∧
    (∀ job : JobHandle, ∃ request, c.query? job = some request ∧ request.method = .get ∧
      (Addresses request job.kind job.name
        [("volume", job.volumeId), ("namespace", job.claimNamespace)] ↔ Addressable job.name)) ∧
    (∀ transport (order : BackupRequest) job,
      (c.createBackup transport order).result = .ok job →
        ∃ request, c.query? job = some request ∧
          (Addresses request .backup order.backupName
            [("volume", order.volumeId), ("namespace", order.claimNamespace)] ↔
              Addressable order.backupName)) ∧
    (∀ volumeId name claimNamespace volumeId' other claimNamespace',
      Addressable name → Addressable other →
        c.deletion? volumeId name claimNamespace = c.deletion? volumeId' other claimNamespace' →
          volumeId = volumeId' ∧ name = other ∧ claimNamespace = claimNamespace') ∧
    (∀ job job' : JobHandle, Addressable job.name → Addressable job'.name →
      c.query? job = c.query? job' → job = job') := by
  intro c
  refine ⟨deletion?_ofUrl hhost, query?_ofUrl hhost, ?_, ?_, ?_⟩
  · intro transport order job haccepted
    cases eq_of_send haccepted
    obtain ⟨request, hrequest, _, hiff⟩ := query?_ofUrl hhost order.job
    exact ⟨request, hrequest, hiff⟩
  · intro volumeId name claimNamespace volumeId' other claimNamespace' hname hother hsame
    obtain ⟨request, hrequest, _, hiff⟩ := deletion?_ofUrl hhost volumeId name claimNamespace
    obtain ⟨request', hrequest', _, hiff'⟩ := deletion?_ofUrl hhost volumeId' other claimNamespace'
    cases (hrequest.symm.trans hsame).trans hrequest'
    obtain ⟨_, hnames, hpairs⟩ := (hiff.mpr hname).unique (hiff'.mpr hother)
    simp only [List.cons.injEq, Prod.mk.injEq, true_and, and_true] at hpairs
    exact ⟨hpairs.1, hnames, hpairs.2⟩
  · intro job job' hname hname' hsame
    obtain ⟨request, hrequest, _, hiff⟩ := query?_ofUrl hhost job
    obtain ⟨request', hrequest', _, hiff'⟩ := query?_ofUrl hhost job'
    cases (hrequest.symm.trans hsame).trans hrequest'
    obtain ⟨hkinds, hnames, hpairs⟩ := (hiff.mpr hname).unique (hiff'.mpr hname')
    simp only [List.cons.injEq, Prod.mk.injEq, true_and, and_true] at hpairs
    cases job
    cases job'
    rw [JobHandle.mk.injEq]
    exact ⟨hkinds, hnames, hpairs⟩

/-- A name with a number sign is taken for a backup, and its deletion deletes another. -/
theorem deletion_of_other :
    let c := ofUrl "http://mgmt:5656"
    SnapshotId.encode "pvc-1" "daily#1" = .ok "pvc-1-velero-bkp-daily#1" ∧
      Text.blank "daily#1" = false ∧
      c.deletion? "pvc-1" "daily#1" "apps" = c.deletion? "pvc-1" "daily" "apps" ∧
      (c.deletion? "pvc-1" "daily#1" "apps").map (·.target) =
        some "/latest/backups/daily?volume=pvc-1&namespace=apps&casType=cstor" := by
  refine ⟨?_, ?_, ?_, ?_⟩ <;> decide +kernel

theorem requests_address_iff_daily :
    let c := ofUrl "http://mgmt:5656"
    IsHost "mgmt:5656" ∧ Addressable "daily-01" ∧ Addressable "daily-02" ∧
      (∃ request, c.deletion? "pvc-1" "daily-01" "apps" = some request ∧
        Addresses request .backup "daily-01"
          [("volume", "pvc-1"), ("namespace", "apps"), ("casType", engineName)]) ∧
      c.deletion? "pvc-1" "daily-01" "apps" ≠ c.deletion? "pvc-1" "daily-02" "apps" := by
  intro c
  have hhost : IsHost "mgmt:5656" := by decide
  have hfirst : Addressable "daily-01" := by decide
  have hsecond : Addressable "daily-02" := by decide
  obtain ⟨hdeletions, _, _, hdiffer, _⟩ := requests_address_iff hhost
  obtain ⟨request, hrequest, _, hiff⟩ := hdeletions "pvc-1" "daily-01" "apps"
  refine ⟨hhost, hfirst, hsecond, ⟨request, hrequest, hiff.mpr hfirst⟩, fun hsame => ?_⟩
  exact absurd (hdiffer _ _ _ _ _ _ hfirst hsecond hsame).2.1 (by decide)

end ControlPlaneClient

end SnapshotEngine
