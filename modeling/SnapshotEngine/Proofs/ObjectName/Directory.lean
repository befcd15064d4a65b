import Mathlib.Data.List.TakeWhile
import SnapshotEngine.Proofs.ObjectName

/-!
# What is used of a directory setting

A setting is used without the white space around it, and then without the slashes around
what is left.  Each of the two is dropped once, so white space that stands within the
slashes stays where it is.  The directory is therefore bare of both exactly if the setting
comes in layers, white space outside and slashes inside.  Settings in layers are used alike
if they hold the same directory; of others some white space is used as if it were part of
the directory, and is gone when that is set again.

* `Text.append_of_strip`, `Text.strip_append` — stripping splits a text in three;
* `effective_split`, `effective_of_layers` — so what is used of a setting stands within its
  layers;
* `Layered`, `layered_iff_effective`, `layered_iff_bare` — the settings of which just the
  directory is used;
* `directory_settles_iff` — what becomes of these, and of the others;
* `blank_directory_kept` — a setting without a directory of which something is used.
-/

namespace SnapshotEngine

namespace Text

variable {p : Char → Bool} {cs : List Char}

/-- A text that neither starts nor ends with a character that satisfies `p`. -/
def Bare (p : Char → Bool) (cs : List Char) : Prop :=
  ∀ c, cs.head? = some c ∨ cs.getLast? = some c → p c = false

theorem bare_iff_all : Bare p cs ↔
    (cs.head?.all fun c => !p c) ∧ (cs.getLast?.all fun c => !p c) := by
  simp only [Bare, Option.all_eq_true, Bool.not_eq_true']
  exact ⟨fun h => ⟨fun c hc => h c (.inl hc), fun c hc => h c (.inr hc)⟩,
    fun h c hc => hc.elim (h.1 c) (h.2 c)⟩

instance (p : Char → Bool) (cs : List Char) : Decidable (Bare p cs) :=
  decidable_of_iff' _ bare_iff_all

/-- What is left of a text is bare. -/
theorem bare_strip (p : Char → Bool) (cs : List Char) : Bare p (strip p cs) := by
  rintro c (hhead | hlast)
  · exact head?_strip hhead
  · exact getLast?_strip hlast

/-- A text is what is left of it, between characters that may be stripped. -/
theorem append_of_strip (p : Char → Bool) (cs : List Char) :
    ∃ before after, cs = before ++ strip p cs ++ after ∧ (∀ c ∈ before, p c) ∧
      ∀ c ∈ after, p c := by
  have hend : ∀ ds : List Char, ds = stripEnd p ds ++ (ds.reverse.takeWhile p).reverse := by
    intro ds
    rw [stripEnd, ← List.reverse_append, List.takeWhile_append_dropWhile, List.reverse_reverse]
  refine ⟨cs.takeWhile p, ((cs.dropWhile p).reverse.takeWhile p).reverse, ?_, ?_, ?_⟩
  · rw [strip, List.append_assoc, ← hend, List.takeWhile_append_dropWhile]
  · exact fun c hc => List.mem_takeWhile_imp hc
  · exact fun c hc => List.mem_takeWhile_imp (List.mem_reverse.mp hc)

/-- A text that is bare is all that is left of it between such characters. -/
theorem strip_append {before kept after : List Char} (hbefore : ∀ c ∈ before, p c)
    (hkept : Bare p kept) (hafter : ∀ c ∈ after, p c) :
    strip p (before ++ kept ++ after) = kept := by
  by_cases hne : kept = []
  · subst hne
    rw [strip_eq_nil_iff]
    intro c hc
    rw [List.append_nil] at hc
    exact (List.mem_append.mp hc).elim (hbefore c) (hafter c)
  · have hstart : ∀ rest, (kept ++ rest).dropWhile p = kept ++ rest := by
      obtain ⟨c, more, rfl⟩ := List.exists_cons_of_ne_nil hne
      intro rest
      rw [List.cons_append, List.dropWhile_cons, hkept c (.inl rfl)]
      rfl
    have hend : kept.reverse.dropWhile p = kept.reverse := by
      obtain ⟨more, c, hlast⟩ := (List.eq_nil_or_concat kept).resolve_left hne
      have hkeeps : p c = false := hkept c (.inr (by simp [hlast]))
      rw [hlast, List.concat_eq_append, List.reverse_concat, List.dropWhile_cons, hkeeps]
      rfl
    have hafter' : ∀ c ∈ after.reverse, p c := fun c hc => hafter c (List.mem_reverse.mp hc)
    rw [strip, List.append_assoc, List.dropWhile_append_of_pos hbefore, hstart, stripEnd,
      List.reverse_append, List.dropWhile_append_of_pos hafter', hend, List.reverse_reverse]

theorem strip_sublist (p : Char → Bool) (cs : List Char) : (strip p cs).Sublist cs :=
  (stripEnd_isPrefix ..).sublist.trans (List.dropWhile_sublist p)

/-- Just the texts that are bare are stripped of nothing. -/
theorem strip_eq_self_iff : strip p cs = cs ↔ Bare p cs := by
  constructor
  · intro h
    have hbare := bare_strip p cs
    rwa [h] at hbare
  · intro h
    have hkept : strip p ([] ++ cs ++ []) = cs := strip_append (by simp) h (by simp)
    simpa using hkept

end Text

namespace ObjectNamer

/-- White space and slashes. -/
def isMargin (c : Char) : Bool := Text.isBlank c || c = '/'

/-- The directory that a setting holds: all but the white space and the slashes around it. -/
def core (setting : String) : String :=
  String.ofList (Text.strip isMargin setting.toList)

/-- White space, then slashes, then a directory, then slashes, then white space. -/
def Layers (setting : String) (directory : List Char) : Prop :=
  ∃ outer inner inner' outer',
    setting.toList = outer ++ (inner ++ directory ++ inner') ++ outer' ∧
      (∀ c ∈ outer, Text.isBlank c) ∧ (∀ c ∈ outer', Text.isBlank c) ∧
      (∀ c ∈ inner, c = '/') ∧ ∀ c ∈ inner', c = '/'

/-- A setting that comes in layers around a directory that is bare of white space and of
slashes. -/
def Layered (setting : String) : Prop :=
  ∃ directory, Layers setting directory ∧ Text.Bare isMargin directory

variable {setting : String}

theorem isMargin_slash : isMargin '/' := by decide

theorem isMargin_of_isBlank {c : Char} (h : Text.isBlank c) : isMargin c := by
  simp [isMargin, h]

/-- A text is bare of both exactly if it is bare of each. -/
theorem bare_isMargin_iff {cs : List Char} :
    Text.Bare isMargin cs ↔ Text.Bare Text.isBlank cs ∧ Text.Bare (· = '/') cs := by
  simp only [Text.Bare, isMargin, Bool.or_eq_false_iff]
  exact ⟨fun h => ⟨fun c hc => (h c hc).1, fun c hc => (h c hc).2⟩,
    fun h c hc => ⟨h.1 c hc, h.2 c hc⟩⟩

theorem toList_effective (setting : String) :
    (effective setting).toList =
      Text.strip (· = '/') (Text.strip Text.isBlank setting.toList) := by
  rw [effective, Text.trim, String.toList_ofList, String.toList_ofList]

/-- What is used of a setting stands within its layers. -/
theorem effective_split (setting : String) : Layers setting (effective setting).toList := by
  obtain ⟨outer, outer', hsetting, houter, houter'⟩ :=
    Text.append_of_strip Text.isBlank setting.toList
  obtain ⟨inner, inner', htrimmed, hinner, hinner'⟩ :=
    Text.append_of_strip (· = '/') (Text.strip Text.isBlank setting.toList)
  rw [← toList_effective] at htrimmed
  refine ⟨outer, inner, inner', outer', ?_, houter, houter', ?_, ?_⟩
  · rw [← htrimmed]
    exact hsetting
  · exact fun c hc => of_decide_eq_true (hinner c hc)
  · exact fun c hc => of_decide_eq_true (hinner' c hc)

/-- What is used of a setting in layers is the directory, if that is bare. -/
theorem effective_of_layers {directory : List Char} (h : Layers setting directory)
    (hbare : Text.Bare isMargin directory) : (effective setting).toList = directory := by
  obtain ⟨outer, inner, inner', outer', hsetting, houter, houter', hinner, hinner'⟩ := h
  obtain ⟨hblank, hslash⟩ := bare_isMargin_iff.mp hbare
  have hslashes : Text.isBlank '/' = false := by decide
  have hwithin : Text.Bare Text.isBlank (inner ++ directory ++ inner') := by
    intro c hc
    simp only [List.append_assoc, List.head?_append, List.getLast?_append, Option.or_eq_some_iff]
      at hc
    -- the first character and the last are slashes, or those of the directory
    have hends : c ∈ inner ∨ c ∈ inner' ∨ directory.head? = some c ∨
        directory.getLast? = some c := by
      rcases hc with (h | ⟨_, h | ⟨_, h⟩⟩) | ((h | ⟨_, h⟩) | ⟨_, h⟩)
      · exact .inl (List.mem_of_mem_head? h)
      · exact .inr (.inr (.inl h))
      · exact .inr (.inl (List.mem_of_mem_head? h))
      · exact .inr (.inl (List.mem_of_getLast? h))
      · exact .inr (.inr (.inr h))
      · exact .inl (List.mem_of_getLast? h)
    rcases hends with h | h | h | h
    · rw [hinner c h, hslashes]
    · rw [hinner' c h, hslashes]
    · exact hblank c (.inl h)
    · exact hblank c (.inr h)
  rw [toList_effective, hsetting, Text.strip_append houter hwithin houter']
  exact Text.strip_append (fun c hc => decide_eq_true (hinner c hc)) hslash
    (fun c hc => decide_eq_true (hinner' c hc))

/-- Layers around a text that is bare are what is around the directory. -/
theorem core_of_layers {directory : List Char} (h : Layers setting directory)
    (hbare : Text.Bare isMargin directory) : (core setting).toList = directory := by
  obtain ⟨outer, inner, inner', outer', hsetting, houter, houter', hinner, hinner'⟩ := h
  have hmargin : ∀ blanks slashes : List Char, (∀ c ∈ blanks, Text.isBlank c) →
      (∀ c ∈ slashes, c = '/') → ∀ c, c ∈ blanks ∨ c ∈ slashes → isMargin c := by
    rintro blanks slashes hblanks hslashes c (hc | hc)
    · exact isMargin_of_isBlank (hblanks c hc)
    · rw [hslashes c hc]
      exact isMargin_slash
  have hsplit : setting.toList = (outer ++ inner) ++ directory ++ (inner' ++ outer') := by
    rw [hsetting]
    simp only [List.append_assoc]
  rw [core, String.toList_ofList, hsplit]
  refine Text.strip_append ?_ hbare ?_
  · exact fun c hc => hmargin outer inner houter hinner c (List.mem_append.mp hc)
  · exact fun c hc => hmargin outer' inner' houter' hinner' c (List.mem_append.mp hc).symm

/-- Of the settings in layers, and of no others, just the directory is used. -/
theorem layered_iff_effective : Layered setting ↔ effective setting = core setting := by
  constructor
  · rintro ⟨directory, hlayers, hbare⟩
    rw [← String.toList_inj, effective_of_layers hlayers hbare, core_of_layers hlayers hbare]
  · intro h
    refine ⟨(effective setting).toList, effective_split setting, ?_⟩
    rw [h, core, String.toList_ofList]
    exact Text.bare_strip _ _

/-- They are those of which no white space is left at an end. -/
theorem layered_iff_bare :
    Layered setting ↔ Text.Bare Text.isBlank (effective setting).toList := by
  have hslash : Text.Bare (· = '/') (effective setting).toList := by
    rw [toList_effective]
    exact Text.bare_strip _ _
  constructor
  · rintro ⟨directory, hlayers, hbare⟩
    rw [effective_of_layers hlayers hbare]
    exact (bare_isMargin_iff.mp hbare).1
  · exact fun h => ⟨_, effective_split setting, bare_isMargin_iff.mpr ⟨h, hslash⟩⟩

instance (setting : String) : Decidable (Layered setting) :=
  decidable_of_iff _ layered_iff_bare.symm

/-- A namer is its directory. -/
theorem eq_of_directory {namer namer' : ObjectNamer} (h : namer.directory = namer'.directory) :
    namer = namer' := by
  cases namer
  cases namer'
  exact congrArg _ h

theorem directory_ofSetting (setting : String) :
    (ofSetting (some setting)).directory =
      if effective setting = "" then none else some (effective setting) := by
  by_cases h : effective setting = "" <;> simp [ofSetting, Option.filter, h]

theorem directory_eq_some_iff {directory : String} :
    (ofSetting (some setting)).directory = some directory ↔
      effective setting = directory ∧ directory ≠ "" := by
  rw [directory_ofSetting]
  by_cases hempty : effective setting = ""
  · rw [if_pos hempty, hempty]
    exact iff_of_false (by simp) fun h => h.2 h.1.symm
  · rw [if_neg hempty, Option.some.injEq]
    exact ⟨fun h => ⟨h, h ▸ hempty⟩, fun h => h.1⟩

theorem directory_eq_none_iff :
    (ofSetting (some setting)).directory = none ↔ effective setting = "" := by
  rw [directory_ofSetting]
  split <;> simp [*]

/-- Nothing is used of a setting exactly if it comes in layers and holds no directory. -/
theorem effective_eq_empty_iff :
    effective setting = "" ↔ Layered setting ∧ ∀ c ∈ setting.toList, isMargin c := by
  have hcore : core setting = "" ↔ ∀ c ∈ setting.toList, isMargin c := by
    rw [← String.toList_inj, core, String.toList_ofList]
    exact Text.strip_eq_nil_iff
  rw [← hcore]
  constructor
  · intro h
    have hlayered : Layered setting := by
      rw [layered_iff_bare, h]
      rintro c (hc | hc) <;> simp at hc
    exact ⟨hlayered, (layered_iff_effective.mp hlayered).symm.trans h⟩
  · exact fun h => (layered_iff_effective.mp h.1).trans h.2

/-- What is used of a setting is used whole when it is set again exactly if the setting comes
in layers. -/
theorem effective_effective_iff :
    effective (effective setting) = effective setting ↔ Layered setting := by
  have hslash : Text.Bare (· = '/') (effective setting).toList := by
    rw [toList_effective]
    exact Text.bare_strip _ _
  rw [layered_iff_bare, ← String.toList_inj, toList_effective]
  constructor
  · intro h
    have hshorter :=
      Text.strip_sublist (· = '/') (Text.strip Text.isBlank (effective setting).toList)
    rw [h] at hshorter
    exact Text.strip_eq_self_iff.mp ((Text.strip_sublist _ _).eq_of_length_le hshorter.length_le)
  · intro h
    rw [Text.strip_eq_self_iff.mpr h, Text.strip_eq_self_iff.mpr hslash]

/-- So it makes the same namer again exactly then. -/
theorem ofSetting_directory_iff :
    ofSetting (ofSetting (some setting)).directory = ofSetting (some setting) ↔
      Layered setting := by
  cases hdirectory : (ofSetting (some setting)).directory with
  | none =>
      have hempty := directory_eq_none_iff.mp hdirectory
      have hnone : (ofSetting none).directory = none := rfl
      exact iff_of_true (eq_of_directory (hnone.trans hdirectory.symm))
        (effective_eq_empty_iff.mp hempty).1
  | some directory =>
      obtain ⟨rfl, hne⟩ := directory_eq_some_iff.mp hdirectory
      rw [← effective_effective_iff]
      constructor
      · intro h
        exact (directory_eq_some_iff.mp ((congrArg ObjectNamer.directory h).trans hdirectory)).1
      · intro h
        simp only [ofSetting, Option.map_some, h]

/-- Namers are told apart by any one object that they name. -/
theorem objectName_eq_iff_directory {namer namer' : ObjectNamer} {volumeId backupName : String} :
    namer.objectName volumeId backupName = namer'.objectName volumeId backupName ↔
      namer.directory = namer'.directory := by
  have hlength : ∀ directory : String,
      directory ++ "/backups/" ++ remoteName volumeId backupName ≠
        remoteName volumeId backupName := by
    intro directory h
    have hlist := congrArg (fun s => s.toList.length) h
    simp only [String.toList_append, List.length_append] at hlist
    have hmark : "/backups/".toList.length = 9 := by decide
    omega
  obtain ⟨_ | directory⟩ := namer <;> obtain ⟨_ | directory'⟩ := namer'
  · exact iff_of_true rfl rfl
  · exact iff_of_false (hlength directory').symm (by simp)
  · exact iff_of_false (hlength directory) (by simp)
  · simp only [objectName, Option.some.injEq]
    constructor
    · intro h
      have hlist := congrArg String.toList h
      simp only [String.toList_append, List.append_left_inj] at hlist
      exact String.toList_inj.mp hlist
    · rintro rfl
      rfl

/-- Two settings name the same objects exactly if the same is used of them. -/
theorem objectNames_eq_iff {setting' : String} {volumeId backupName : String} :
    (ofSetting (some setting)).objectName volumeId backupName =
        (ofSetting (some setting')).objectName volumeId backupName ↔
      effective setting = effective setting' := by
  rw [objectName_eq_iff_directory]
  constructor
  · intro h
    cases hdirectory : (ofSetting (some setting)).directory with
    | none =>
        rw [directory_eq_none_iff.mp hdirectory, directory_eq_none_iff.mp (h ▸ hdirectory)]
    | some directory =>
        rw [(directory_eq_some_iff.mp hdirectory).1, (directory_eq_some_iff.mp (h ▸ hdirectory)).1]
  · intro h
    rw [directory_ofSetting, directory_ofSetting, h]

/-- **Directory settings.**  There is no directory exactly if the setting comes in layers and is
all white space and slashes.  Otherwise the directory is not empty and bare of slashes, and it
is bare of white space exactly if the setting comes in layers; it makes the same namer when it
is set again exactly then too.  A setting in layers names the same objects as another one that
differs from it by white space and slashes around it exactly if that one comes in layers as
well. -/
theorem directory_settles_iff (setting : String) :
    let namer : ObjectNamer := ofSetting (some setting)
    (namer.directory = none ↔ Layered setting ∧ ∀ c ∈ setting.toList, isMargin c) ∧
    (∀ directory, namer.directory = some directory →
      directory ≠ "" ∧ Text.Bare (· = '/') directory.toList ∧
        (Text.Bare Text.isBlank directory.toList ↔ Layered setting)) ∧
    (ofSetting namer.directory = namer ↔ Layered setting) ∧
    ∀ other, core other = core setting → Layered setting →
      ((∀ volumeId backupName, namer.objectName volumeId backupName =
          (ofSetting (some other)).objectName volumeId backupName) ↔ Layered other) := by
  intro namer
  refine ⟨directory_eq_none_iff.trans effective_eq_empty_iff, ?_, ofSetting_directory_iff, ?_⟩
  · intro directory hdirectory
    obtain ⟨rfl, hne⟩ := directory_eq_some_iff.mp hdirectory
    refine ⟨hne, ?_, layered_iff_bare.symm⟩
    rw [toList_effective]
    exact Text.bare_strip _ _
  · intro other hcore hlayered
    have hused : effective setting = core other :=
      (layered_iff_effective.mp hlayered).trans hcore.symm
    rw [layered_iff_effective, ← hused]
    constructor
    · exact fun h => (objectNames_eq_iff.mp (h "" "")).symm
    · exact fun h _ _ => objectNames_eq_iff.mpr h.symm

/-- A setting in layers, and its directory set alone. -/
theorem directory_settles_iff_daily :
    let namer := ofSetting (some " /cluster-a/ ")
    namer.directory = some "cluster-a" ∧ core "cluster-a" = core " /cluster-a/ " ∧
      Layered " /cluster-a/ " ∧ Layered "cluster-a" ∧
      Text.Bare Text.isBlank "cluster-a".toList ∧ ofSetting namer.directory = namer ∧
      namer.objectName "pvc-1" "full-01" =
        (ofSetting (some "cluster-a")).objectName "pvc-1" "full-01" := by
  intro namer
  have hdirectory : namer.directory = some "cluster-a" := by decide
  have hcore : core "cluster-a" = core " /cluster-a/ " := by decide
  have hlayered : Layered " /cluster-a/ " := by decide
  have halone : Layered "cluster-a" := by decide
  obtain ⟨_, hbare, hagain, hsame⟩ := directory_settles_iff " /cluster-a/ "
  exact ⟨hdirectory, hcore, hlayered, halone, (hbare _ hdirectory).2.2.mpr hlayered,
    hagain.mpr hlayered, (hsame _ hcore hlayered).mpr halone _ _⟩

/-- **White space within.**  A setting of nothing but white space and slashes has a directory
that is blank, which is gone when it is set again and until then is part of every object. -/
theorem blank_directory_kept :
    let namer := ofSetting (some "/ /")
    (∀ c ∈ "/ /".toList, isMargin c) ∧ namer.directory = some " " ∧ Text.blank " " ∧
      ofSetting namer.directory = plain ∧ core "/ /" = core "/" ∧
      namer.objectName "pvc-1" "full-01" = " /backups/full-01/cstor-pvc-1" ∧
      (ofSetting (some "/")).objectName "pvc-1" "full-01" = "full-01/cstor-pvc-1" := by
  have hmargin : ∀ c ∈ "/ /".toList, isMargin c := List.all_eq_true.mp (by decide)
  exact ⟨hmargin, by decide⟩

end ObjectNamer

end SnapshotEngine
