import SnapshotEngine.Text.Cut

/-!
# Snapshot identifiers

A snapshot is named by the volume it was taken of and the backup it belongs
to.  Its identifier is the two names with a reserved separator in between.

Making an identifier refuses names that are empty or hold the separator.
Reading one cuts the text at the first separator and refuses a text without
one, or with nothing on either side of it; a separator further on stays part of
the backup name.

* `ofParts?_eq_ok_iff` — which pairs of names make an identifier;
* `parse_eq_ok_iff` — which texts are identifiers, and of what;
* `text_of_parse` — the text of an identifier that was read is what was read.
-/

namespace SnapshotEngine

/-- The mark between the volume and the backup of an identifier. -/
def separator : String := "-velero-bkp-"

/-- The two parts of an identifier. -/
inductive IdentifierPart where
  | volumeId
  | backupName
deriving DecidableEq, Repr, Inhabited

/-- What a part is called in messages. -/
def IdentifierPart.label : IdentifierPart → String
  | .volumeId => "volume id"
  | .backupName => "backup name"

/-- Why there is no identifier. -/
inductive IdentifierError where
  | emptyPart (part : IdentifierPart)
  | containsSeparator (part : IdentifierPart) (value : String)
  | malformed (text : String)
deriving DecidableEq, Repr, Inhabited

/-- The message of an identifier error. -/
def IdentifierError.message : IdentifierError → String
  | .emptyPart part => part.label ++ " must not be empty"
  | .containsSeparator part value =>
      part.label ++ " '" ++ value ++ "' contains the reserved separator '" ++ separator ++ "'"
  | .malformed text => "malformed snapshot identifier '" ++ text ++ "'"

/-- A volume and a backup of it. -/
structure SnapshotId where
  volumeId : String
  backupName : String
  volumeId_ne : volumeId ≠ ""
  backupName_ne : backupName ≠ ""
deriving DecidableEq, Repr

namespace SnapshotId

/-- Whether a name holds the separator. -/
def holdsSeparator (name : String) : Bool :=
  Text.occurs separator.toList name.toList

/-- The identifier of a volume and a backup of it.  The volume is checked
first, and each name for being empty before it is searched. -/
def ofParts? (volumeId backupName : String) : Except IdentifierError SnapshotId :=
  if hv : volumeId = "" then .error (.emptyPart .volumeId)
  else if holdsSeparator volumeId then .error (.containsSeparator .volumeId volumeId)
  else if hb : backupName = "" then .error (.emptyPart .backupName)
  else if holdsSeparator backupName then .error (.containsSeparator .backupName backupName)
  else .ok ⟨volumeId, backupName, hv, hb⟩

/-- The text of an identifier. -/
def text (id : SnapshotId) : String :=
  id.volumeId ++ separator ++ id.backupName

/-- Reads an identifier. -/
def parse (s : String) : Except IdentifierError SnapshotId :=
  match Text.cut separator.toList s.toList with
  | none => .error (.malformed s)
  | some (before, after) =>
      let volumeId := String.ofList before
      let backupName := String.ofList after
      if hv : volumeId = "" then .error (.malformed s)
      else if hb : backupName = "" then .error (.malformed s)
      else .ok ⟨volumeId, backupName, hv, hb⟩

/-- The identifier text of a volume and a backup of it. -/
def encode (volumeId backupName : String) : Except IdentifierError String :=
  (ofParts? volumeId backupName).map text

/-- The volume and the backup that an identifier text names. -/
def decode (s : String) : Except IdentifierError (String × String) :=
  (parse s).map fun id => (id.volumeId, id.backupName)

/-- Exactly the pairs of non-empty names without the separator make an
identifier, and it names them. -/
theorem ofParts?_eq_ok_iff {volumeId backupName : String} {id : SnapshotId} :
    ofParts? volumeId backupName = .ok id ↔
      (id.volumeId = volumeId ∧ id.backupName = backupName) ∧
        holdsSeparator volumeId = false ∧ holdsSeparator backupName = false := by
  constructor
  · intro h
    unfold ofParts? at h
    split at h
    · cases h
    split at h
    · cases h
    split at h
    · cases h
    split at h
    · cases h
    · cases h
      simp_all
  · rintro ⟨⟨rfl, rfl⟩, hv, hb⟩
    simp [ofParts?, id.volumeId_ne, id.backupName_ne, hv, hb]

/-- The text of an identifier that was read is what was read. -/
theorem text_of_parse {s : String} {id : SnapshotId} (h : parse s = .ok id) :
    id.text = s := by
  unfold parse at h
  split at h
  · cases h
  · rename_i before after hcut
    simp only at h
    split at h
    · cases h
    split at h
    · cases h
    · cases h
      rw [← String.toList_inj]
      simpa [text] using Text.append_of_cut hcut

/-- A text is the identifier of a volume and a backup exactly when the first
separator in it stands between their names and neither name is empty. -/
theorem parse_eq_ok_iff {s : String} {id : SnapshotId} :
    parse s = .ok id ↔
      Text.cut separator.toList s.toList = some (id.volumeId.toList, id.backupName.toList) := by
  unfold parse
  constructor
  · intro h
    split at h
    · cases h
    · rename_i before after hcut
      simp only at h
      split at h
      · cases h
      split at h
      · cases h
      · cases h
        simp [hcut]
  · intro h
    simp [h, id.volumeId_ne, id.backupName_ne]

end SnapshotId

end SnapshotEngine
