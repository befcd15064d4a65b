import SnapshotEngine.ControlPlane.Client
import SnapshotEngine.Proofs.Json.Grammar
import SnapshotEngine.Proofs.Json.Strings

/-!
# What an answer says of a job

A question after a job is answered by a code and a body.  Nothing but the code of success makes
anything of the body, and then only one place in it is looked at, which holds the name of a
status or nothing at all.  Most names mean nothing in particular; a status that is final has one
name only.

* `JobStatus.Means`, `JobStatus.Names`, `Json.HoldsStatus` — names, values and places;
* `JobStatus.Shows`, `JobStatus.shows_of_ofJob?`, `JobStatus.ofJob?_of_shows` — what is read of
  a value is what it shows;
* `JobStatus.shows_document` — a value that says nothing but a status shows it;
* `readStatus_iff_shows` — the same of a body whose strings all say something;
* `declares_of_readStatus` — in any body a final status stands literally;
* `answerOf_jobStatus` — so this is what comes of a question.
-/

namespace SnapshotEngine

namespace JobStatus

/-! ## Names -/

/-- What a name means. -/
inductive Means : String → JobStatus → Prop where
  | own (status : JobStatus) : Means status.name status
  | init : Means "Init" .pending
  | other {name : String} (notInit : name ≠ "Init")
      (foreign : ∀ status, name ≠ JobStatus.name status) : Means name .unknown

theorem named?_eq_none_iff {name : String} :
    named? name = none ↔ ∀ status, name ≠ JobStatus.name status := by
  unfold named?
  rw [List.find?_eq_none]
  constructor
  · rintro h status rfl
    exact h status (by cases status <;> decide) (beq_self_eq_true _)
  · intro h status _ heq
    exact h status (eq_of_beq heq).symm

theorem means_iff {name : String} {status : JobStatus} :
    Means name status ↔ ofWireName name = status := by
  constructor
  · intro h
    cases h with
    | own => exact ofWireName_name status
    | init => rfl
    | other notInit foreign =>
        rw [ofWireName, if_neg notInit, named?_eq_none_iff.mpr foreign]
        rfl
  · rintro rfl
    unfold ofWireName
    split
    · rename_i heq
      exact heq ▸ .init
    · rename_i hne
      cases hnamed : named? name with
      | none => exact .other hne (named?_eq_none_iff.mp hnamed)
      | some status =>
          have heq : status.name = name :=
            eq_of_beq (List.find?_some (p := fun status => JobStatus.name status == name) hnamed)
          exact heq ▸ .own status

/-- Only its own name means a status that is final. -/
theorem Means.eq_name {name : String} {status : JobStatus} (h : Means name status)
    (final : status.isTerminal) : name = status.name := by
  cases h with
  | own => rfl
  | init => cases final
  | other => cases final

/-! ## Values -/

/-- A value names a status: it is a string, or an object with one field, which is null. -/
inductive Names : Json → String → Prop where
  | string {body : Bytes} {name : String} (meaning : Json.Says body name) :
      Names (.string body) name
  | key {key : Bytes} {name : String} (meaning : Json.Says key name) :
      Names (.object [(key, .null)]) name

theorem ofJson?_eq_some_iff {value : Json} {status : JobStatus} :
    ofJson? value = some status ↔ ∃ name, Names value name ∧ Means name status := by
  have hread : ∀ {body : Bytes}, (Json.bodyText? body).map ofWireName = some status ↔
      ∃ name, Json.Says body name ∧ Means name status := by
    intro body
    simp only [Option.map_eq_some_iff, Json.bodyText?_eq_some_iff, means_iff]
  constructor
  · intro h
    unfold ofJson? at h
    split at h
    · obtain ⟨name, hsays, hmeans⟩ := hread.mp h
      exact ⟨name, .string hsays, hmeans⟩
    · obtain ⟨name, hsays, hmeans⟩ := hread.mp h
      exact ⟨name, .key hsays, hmeans⟩
    · cases h
  · rintro ⟨name, hnames, hmeans⟩
    cases hnames with
    | string meaning => exact hread.mpr ⟨name, meaning, hmeans⟩
    | key meaning => exact hread.mpr ⟨name, meaning, hmeans⟩

end JobStatus

/-- What a value holds in the place of a status: an array the only item, an object the only
field of that name; or there is no such item, or no such field. -/
inductive Json.HoldsStatus : Json → Option Json → Prop where
  | noItem : HoldsStatus (.array []) none
  | item {value : Json} : HoldsStatus (.array [value]) (some value)
  | noField {fields : List (Bytes × Json)} (without : ∀ field ∈ fields, ¬ Says field.1 "status") :
      HoldsStatus (.object fields) none
  | field {before after : List (Bytes × Json)} {key : Bytes} {value : Json}
      (named : Says key "status") (only : ∀ field ∈ before ++ after, ¬ Says field.1 "status") :
      HoldsStatus (.object (before ++ (key, value) :: after)) (some value)

/-- The fields of an object that have the name of the status tell what it holds. -/
theorem Json.holdsStatus_object_iff {fields : List (Bytes × Json)} {place : Option Json} :
    HoldsStatus (.object fields) place ↔
      (fields.filter fun field => bodyText? field.1 = some "status").map (·.2) = place.toList := by
  have hnone : ∀ {fields : List (Bytes × Json)},
      fields.filter (fun field => bodyText? field.1 = some "status") = [] ↔
        ∀ field ∈ fields, ¬ Says field.1 "status" := by
    intro fields
    simp only [List.filter_eq_nil_iff, decide_eq_true_eq, bodyText?_eq_some_iff]
  constructor
  · intro h
    cases h with
    | noField without => rw [hnone.mpr without]; rfl
    | field named only =>
        rw [List.forall_mem_append] at only
        rw [List.filter_append, hnone.mpr only.1, List.nil_append, List.filter_cons_of_pos,
          hnone.mpr only.2]
        · rfl
        · exact decide_eq_true (bodyText?_eq_some_iff.mpr named)
  · intro h
    cases place with
    | none => exact .noField (hnone.mp (List.map_eq_nil_iff.mp h))
    | some value =>
        obtain ⟨⟨key, _⟩, hfields, rfl⟩ := List.map_eq_singleton_iff.mp h
        obtain ⟨before, after, rfl, hbefore, hkey, hafter⟩ := List.filter_eq_cons_iff.mp hfields
        refine .field (bodyText?_eq_some_iff.mp (of_decide_eq_true hkey)) ?_
        rw [List.forall_mem_append]
        exact ⟨hnone.mp (List.filter_eq_nil_iff.mpr hbefore), hnone.mp hafter⟩

namespace JobStatus

/-- A value shows a status: that which it names in the place of a status, and pending if there
is nothing. -/
inductive Shows (j : Json) : JobStatus → Prop where
  | nothing (holds : j.HoldsStatus none) : Shows j .pending
  | named {value : Json} {name : String} {status : JobStatus} (holds : j.HoldsStatus (some value))
      (names : Names value name) (means : Means name status) : Shows j status

/-- What is read of a value is what it shows. -/
theorem shows_of_ofJob? {j : Json} {status : JobStatus} (h : ofJob? j = some status) :
    Shows j status := by
  unfold ofJob? at h
  split at h
  · cases h
    exact .nothing .noItem
  · obtain ⟨name, hnames, hmeans⟩ := ofJson?_eq_some_iff.mp h
    exact .named .item hnames hmeans
  · split at h
    · split at h
      · rename_i hfields
        cases h
        exact .nothing (Json.holdsStatus_object_iff.mpr (by rw [hfields]; rfl))
      · rename_i field hfields
        obtain ⟨name, hnames, hmeans⟩ := ofJson?_eq_some_iff.mp h
        exact .named (Json.holdsStatus_object_iff.mpr (by rw [hfields]; rfl)) hnames hmeans
      · cases h
    · cases h
  · cases h

/-- What is read of the place of a status. -/
theorem ofJob?_of_holds {j : Json} {place : Option Json} (readable : j.Readable)
    (h : j.HoldsStatus place) : ofJob? j = place.elim (some .pending) ofJson? := by
  cases readable with
  | array => cases h <;> rfl
  | @object fields keys =>
      have hfields := Json.holdsStatus_object_iff.mp h
      have hkeys : fields.all fun field => (Json.bodyText? field.1).isSome :=
        List.all_eq_true.mpr fun field hmem => Json.bodyText?_isSome_iff.mpr (keys field hmem)
      rw [ofJob?, if_pos hkeys]
      cases place with
      | none => rw [List.map_eq_nil_iff.mp hfields]; rfl
      | some value =>
          obtain ⟨field, hfield, rfl⟩ := List.map_eq_singleton_iff.mp hfields
          rw [hfield]
          rfl
  | _ => cases h

/-- And what a value shows is read of it, if its strings say anything. -/
theorem ofJob?_of_shows {j : Json} {status : JobStatus} (readable : j.Readable)
    (h : Shows j status) : ofJob? j = some status := by
  cases h with
  | nothing holds => exact ofJob?_of_holds readable holds
  | named holds names means =>
      rw [ofJob?_of_holds readable holds]
      exact ofJson?_eq_some_iff.mpr ⟨_, names, means⟩

/-- A value that says nothing but a status. -/
def document (status : JobStatus) : Json := .ofFields [("status", status.toJson)]

theorem document_eq (status : JobStatus) : status.document =
    .object [(Json.textBody "status", .string (Json.textBody status.name))] := rfl

theorem spells_document (status : JobStatus) :
    Json.Spells (.spaced status.document) status.document.render :=
  Json.parse_eq_some_iff.mp (Json.parse_render (by simp [document, toJson]))

theorem readable_document (status : JobStatus) : status.document.Readable := by
  rw [document_eq]
  refine .object (fun field hmem => ?_) (fun field hmem => ?_)
  · obtain rfl := List.mem_singleton.mp hmem
    exact ⟨_, Json.says_textBody "status"⟩
  · obtain rfl := List.mem_singleton.mp hmem
    exact .string (Json.says_textBody status.name)

theorem shows_document (status : JobStatus) : Shows status.document status := by
  rw [document_eq]
  exact .named (@Json.HoldsStatus.field [] [] _ _ (Json.says_textBody "status") nofun)
    (.string (Json.says_textBody status.name)) (.own status)

end JobStatus

namespace ControlPlaneClient

/-! ## Bodies -/

/-- The body of an answer declares a name: it spells a value that holds the name in the place of
a status. -/
def Declares (body : Bytes) (name : String) : Prop :=
  ∃ j value, Json.Spells (.spaced j) body ∧ j.HoldsStatus (some value) ∧
    JobStatus.Names value name

variable {body : Bytes} {status : JobStatus} {j : Json}

theorem readStatus_eq_ok_iff :
    readStatus body = .ok status ↔
      ∃ j, Json.Spells (.spaced j) body ∧ JobStatus.ofJob? j = some status := by
  simp only [← Json.parse_eq_some_iff, ← Option.bind_eq_some_iff, readStatus]
  cases (Json.parse body).bind JobStatus.ofJob? <;> simp

/-- A body that shows no status cannot be understood. -/
theorem readStatus_of_ne_ok (h : ∀ status, readStatus body ≠ .ok status) :
    readStatus body = .error (.undecodable "no job status") := by
  unfold readStatus at h ⊢
  split
  · rename_i status hread
    exact absurd (by rw [hread]) (h status)
  · rfl

/-- A body is read as the value that it spells shows. -/
theorem readStatus_iff_shows (spells : Json.Spells (.spaced j) body) (readable : j.Readable) :
    readStatus body = .ok status ↔ JobStatus.Shows j status := by
  rw [readStatus_eq_ok_iff]
  constructor
  · rintro ⟨other, hspells, hread⟩
    obtain rfl := Option.some.inj
      ((Json.parse_eq_some_iff.mpr spells).symm.trans (Json.parse_eq_some_iff.mpr hspells))
    exact JobStatus.shows_of_ofJob? hread
  · exact fun hshows => ⟨j, spells, JobStatus.ofJob?_of_shows readable hshows⟩

/-- Whatever the body, a status that is final is declared by it. -/
theorem declares_of_readStatus (h : readStatus body = .ok status) (final : status.isTerminal) :
    Declares body status.name := by
  obtain ⟨j, hspells, hread⟩ := readStatus_eq_ok_iff.mp h
  cases JobStatus.shows_of_ofJob? hread with
  | nothing => cases final
  | named holds names means => exact ⟨j, _, hspells, holds, means.eq_name final ▸ names⟩

/-! ## Answers -/

variable {c : ControlPlaneClient} {transport : HttpRequest → HttpReply} {job : JobHandle}
  {sent : HttpRequest}

/-- What comes of a question is read off the answer. -/
theorem result_jobStatus (h : c.query? job = some sent) :
    (c.jobStatus transport job).result = (read (transport sent)).bind readStatus := by
  rw [jobStatus, h, send]

/-- A status is read only of a complete answer with the code of success. -/
theorem complete_of_result (h : (c.jobStatus transport job).result = .ok status) :
    ∃ sent body, c.query? job = some sent ∧ transport sent = .complete 200 body ∧
      readStatus body = .ok status := by
  cases hquery : c.query? job with
  | none =>
      rw [jobStatus, hquery] at h
      cases h
  | some sent =>
      rw [result_jobStatus hquery] at h
      cases hread : read (transport sent) with
      | error cause =>
          rw [hread] at h
          cases h
      | ok body =>
          rw [hread] at h
          exact ⟨sent, body, rfl, read_eq_ok_iff.mp hread, h⟩

/-- What comes of a complete answer to a question, whatever its code and body. -/
structure AnswerOf (code : Nat) (body : Bytes) (result : Except ControlPlaneError JobStatus) :
    Prop where
  /-- Any code but that of success is a refusal. -/
  refusal : code ≠ 200 → result = .error (.rejected code (Utf8.decodeLossy body))
  /-- With that code, a text that can be read shows its status. -/
  shown : code = 200 → ∀ j, Json.Spells (.spaced j) body → j.Readable →
    ∀ status, result = .ok status ↔ JobStatus.Shows j status
  /-- What shows no status cannot be understood. -/
  other : code = 200 → (∀ status, result ≠ .ok status) →
    ∃ detail, result = .error (.undecodable detail)
  /-- Whatever the body, a final status is declared by it. -/
  final : code = 200 → ∀ status, result = .ok status → status.isTerminal →
    Declares body status.name

/-- **Answers.**  This is what comes of every question that is answered. -/
theorem answerOf_jobStatus {code : Nat} (hsent : c.query? job = some sent)
    (hreply : transport sent = .complete code body) :
    AnswerOf code body (c.jobStatus transport job).result := by
  have hresult : (c.jobStatus transport job).result =
      (read (.complete code body)).bind readStatus := by
    rw [result_jobStatus hsent, hreply]
  by_cases hcode : code = 200
  · have hread : (c.jobStatus transport job).result = readStatus body := by
      rw [hresult, hcode]
      rfl
    rw [hread]
    exact
      { refusal := fun hne => absurd hcode hne
        shown := fun _ j hspells hreadable status => readStatus_iff_shows hspells hreadable
        other := fun _ hother => ⟨_, readStatus_of_ne_ok hother⟩
        final := fun _ status hok hfinal => declares_of_readStatus hok hfinal }
  · have hread : read (.complete code body) = .error (.rejected code (Utf8.decodeLossy body)) :=
      if_neg hcode
    rw [hresult, hread]
    exact
      { refusal := fun _ => rfl
        shown := fun heq => absurd heq hcode
        other := fun heq => absurd heq hcode
        final := fun heq => absurd heq hcode }

end ControlPlaneClient

end SnapshotEngine
