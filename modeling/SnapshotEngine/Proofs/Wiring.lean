import SnapshotEngine.Proofs.ControlPlane.Address
import SnapshotEngine.Proofs.ObjectName.Directory
import SnapshotEngine.Wiring

/-!
# What a valid configuration is good for

The checks ask of a text whether anything but white space is in it.  What uses the texts drops
more of two of them than white space: the client drops the slashes at the end of the address
of the control plane, and the namer those around the directory of the objects.  So a valid
configuration makes settings that will do in all else, but of an address of nothing but slashes
no base is left, and a directory of nothing but slashes is left out.

* `settings_eq_ok_iff`, `wiring_eq_ok_iff` — what a valid configuration makes;
* `baseUrl_eq_empty_iff`, `namer_carries_iff` — what is left of an address and of a directory;
* `url_isHost` — the address inside the cluster is one that requests can be made to;
* `valid_configurations_usable` — what a valid configuration is good for;
* `slashes_accepted` — a valid configuration of which neither is left.
-/

namespace SnapshotEngine

/-- Nothing is left of a text that is stripped at its end if it may all be stripped. -/
theorem Text.stripEnd_eq_nil_iff {p : Char → Bool} {cs : List Char} :
    Text.stripEnd p cs = [] ↔ ∀ c ∈ cs, p c := by
  rw [Text.stripEnd, List.reverse_eq_nil_iff, Text.dropWhile_eq_nil_iff]
  exact ⟨fun h c hc => h c (List.mem_reverse.mpr hc), fun h c hc => h c (List.mem_reverse.mp hc)⟩

/-- No base is left of an address of nothing but slashes, and of no other. -/
theorem ControlPlaneClient.baseUrl_eq_empty_iff {url : String} :
    (ControlPlaneClient.ofUrl url).baseUrl = "" ↔ ∀ c ∈ url.toList, c = '/' := by
  rw [← String.toList_inj, ControlPlaneClient.ofUrl, String.toList_ofList]
  refine Text.stripEnd_eq_nil_iff.trans ?_
  simp only [decide_eq_true_eq]

namespace ObjectNamer

/-- Whether all objects are named below a directory. -/
def Carries (namer : ObjectNamer) (directory : String) : Prop :=
  ∀ volumeId backupName,
    namer.objectName volumeId backupName =
      directory ++ "/backups/" ++ remoteName volumeId backupName

/-- Objects are named below a directory exactly if there is one. -/
theorem carries_iff {namer : ObjectNamer} {directory : String} :
    namer.Carries directory ↔ namer.directory = some directory := by
  have hcarries : (⟨some directory⟩ : ObjectNamer).Carries directory := fun _ _ => rfl
  constructor
  · intro h
    exact objectName_eq_iff_directory.mp ((h "" "").trans (hcarries "" "").symm)
  · intro h
    have hnamer : namer = ⟨some directory⟩ := eq_of_directory h
    rw [hnamer]
    exact hcarries

/-- A setting of nothing but slashes, apart from the white space around it, is left out, and no
other. -/
theorem namer_carries_iff {setting : String} :
    (∃ directory, directory ≠ "" ∧ (ofSetting (some setting)).Carries directory) ↔
      ∃ c ∈ (Text.trim setting).toList, c ≠ '/' := by
  have hempty : effective setting = "" ↔ ∀ c ∈ (Text.trim setting).toList, c = '/' := by
    rw [← String.toList_inj, effective, String.toList_ofList]
    refine Text.strip_eq_nil_iff.trans ?_
    simp only [decide_eq_true_eq]
  have hsome : (∃ c ∈ (Text.trim setting).toList, c ≠ '/') ↔ effective setting ≠ "" := by
    rw [Ne, hempty, Classical.not_forall]
    simp only [Classical.not_imp]
  rw [hsome]
  simp only [carries_iff, directory_eq_some_iff]
  constructor
  · rintro ⟨directory, hne, rfl, _⟩
    exact hne
  · exact fun hne => ⟨effective setting, hne, rfl, hne⟩

end ObjectNamer

namespace Config

variable {c : Config}

theorem settings_eq_ok_iff {s : Settings} :
    c.settings = .ok s ↔ c.validate = .ok () ∧ c.asSettings = s := by
  unfold settings
  cases c.validate with
  | ok u => simp [bind, Except.bind, pure, Except.pure]
  | error e => simp [bind, Except.bind]

/-- A configuration makes no settings for the very reason that it is not valid. -/
theorem settings_eq_error_iff {cause : ConfigError} :
    c.settings = .error cause ↔ c.validate = .error cause := by
  unfold settings
  cases c.validate with
  | ok u => simp [bind, Except.bind, pure, Except.pure]
  | error e => simp [bind, Except.bind]

/-- What a configuration wires an engine to, whether or not it is valid. -/
def asWiring (c : Config) : Wiring where
  settings := c.asSettings
  client := .ofUrl c.url
  mover := { program := Text.trim c.moverProgram, address := Text.trim c.serverAddr }

theorem wiring_eq_ok_iff {w : Wiring} :
    c.wiring = .ok w ↔ c.validate = .ok () ∧ c.asWiring = w := by
  unfold wiring
  cases hsettings : c.settings with
  | ok s =>
      obtain ⟨hvalid, rfl⟩ := settings_eq_ok_iff.mp hsettings
      simp only [hvalid, true_and, Except.ok.injEq]
      exact Iff.rfl
  | error cause => simp [settings_eq_error_iff.mp hsettings]

/-- No base is left of an address that was set to nothing but slashes, and of no other. -/
theorem baseUrl_asWiring_iff :
    c.asWiring.client.baseUrl = "" ↔
      ∃ url, c.controlPlaneUrl = some url ∧ ∀ ch ∈ (Text.trim url).toList, ch = '/' := by
  refine ControlPlaneClient.baseUrl_eq_empty_iff.trans ?_
  unfold url
  cases c.controlPlaneUrl with
  | some url => simp
  | none =>
      have hscheme : 'h' ∈ ("http://" ++ controlPlaneService ++ "." ++
          Text.trim c.managementNamespace ++ ".svc.cluster.local:" ++
            toString controlPlanePort).toList := by
        simp only [String.toList_append, List.append_assoc]
        exact List.mem_append_left _ (by decide)
      exact iff_of_false (fun h => absurd (h 'h' hscheme) (by decide)) (by simp)

/-- The name that the control plane has inside the cluster. -/
def hostName (c : Config) : List Char :=
  controlPlaneService.toList ++ '.' :: (Text.trim c.managementNamespace).toList ++
    ".svc.cluster".toList ++ '.' :: "local".toList

theorem isForbidden_hostName
    (hkept : ∀ ch ∈ (Text.trim c.managementNamespace).toList, UrlHost.isForbidden ch = false) :
    ∀ ch ∈ c.hostName, UrlHost.isForbidden ch = false := by
  intro ch hch
  simp only [hostName, List.mem_append, List.mem_cons] at hch
  rcases hch with ((hservice | rfl | hnamespace) | hcluster) | rfl | hlocal
  · exact UrlHost.kept_of_all (by decide) ch hservice
  · rfl
  · exact hkept ch hnamespace
  · exact UrlHost.kept_of_all (by decide) ch hcluster
  · rfl
  · exact UrlHost.kept_of_all (by decide) ch hlocal

/-- If no address is set, the client is left with a good host, unless something that no host
may hold is in the namespace. -/
theorem url_isHost (hurl : c.controlPlaneUrl = none)
    (hkept : ∀ ch ∈ (Text.trim c.managementNamespace).toList, UrlHost.isForbidden ch = false) :
    ∃ host, IsHost host ∧ c.asWiring.client.baseUrl = "http://" ++ host := by
  let host := String.ofList (c.hostName ++ ':' :: (toString controlPlanePort).toList)
  have hlast : UrlHost.endsInNumber c.hostName = false :=
    (UrlHost.endsInNumber_append (by decide) (by decide) _).trans (by decide)
  have hhost : IsHost host :=
    isHost_of_kept (by simp [hostName]) (isForbidden_hostName hkept) hlast (by decide)
  have hwritten : c.url = "http://" ++ host := by
    rw [url, hurl, ← String.toList_inj]
    simp [host, hostName]
  refine ⟨host, hhost, ?_⟩
  rw [asWiring, hwritten, ControlPlaneClient.baseUrl_ofUrl hhost]

/-- **Valid configurations.**  A configuration makes settings exactly if it is valid, and fails
to for the very reason that it is not.  A valid one wires an engine up with these settings:
the address of the data mover without the white space around it, which is not blank, and two
times that are not zero.  There is a base for the client unless the address of the control plane
is set to nothing but slashes, and if a directory is set, all objects are below one unless
that is set to nothing but slashes. -/
theorem valid_configurations_usable (c : Config) :
    ((∃ s, c.settings = .ok s) ↔ c.validate = .ok ()) ∧
    (∀ cause, c.settings = .error cause ↔ c.validate = .error cause) ∧
    (c.validate = .ok () → ∃ w, c.wiring = .ok w ∧ c.settings = .ok w.settings ∧
      w.settings.serverAddr = Text.trim c.serverAddr ∧ w.settings.serverAddr ≠ "" ∧
      Text.Bare Text.isBlank w.settings.serverAddr.toList ∧
      0 < w.settings.pollInterval.nanos ∧ 0 < w.settings.operationTimeout.nanos ∧
      (w.client.baseUrl = "" ↔
        ∃ url, c.controlPlaneUrl = some url ∧ ∀ ch ∈ (Text.trim url).toList, ch = '/') ∧
      ∀ setting, c.objectDirectory = some setting →
        ((∃ directory, directory ≠ "" ∧ w.settings.namer.Carries directory) ↔
          ∃ ch ∈ (Text.trim setting).toList, ch ≠ '/')) := by
  refine ⟨settings_isOk_iff, fun _ => settings_eq_error_iff, fun hvalid => ?_⟩
  obtain ⟨⟨_, hserver, _⟩, _, _, hpoll, hoperation⟩ := validate_eq_ok_iff.mp hvalid
  have hnanos : ∀ {secs : Nat}, 0 < secs → 0 < (Duration.ofSecs secs).nanos :=
    fun h => Nat.mul_pos h (by decide)
  refine ⟨c.asWiring, wiring_eq_ok_iff.mpr ⟨hvalid, rfl⟩, settings_eq_ok_iff.mpr ⟨hvalid, rfl⟩,
    rfl, ?_, ?_, hnanos hpoll, hnanos hoperation, baseUrl_asWiring_iff, ?_⟩
  · exact fun h => absurd (Text.blank_iff_trim_eq_empty.mpr h) (ne_true_of_eq_false hserver)
  · rw [asWiring, asSettings, Text.trim, String.toList_ofList]
    exact Text.bare_strip _ _
  · intro setting hsetting
    rw [asWiring, asSettings, hsetting]
    exact ObjectNamer.namer_carries_iff

/-- A configuration in which only the two fields that may be left out vary. -/
def withOptions (controlPlaneUrl objectDirectory : Option String) : Config where
  managementNamespace := "openebs"
  controlPlaneUrl := controlPlaneUrl
  serverAddr := " mover:9000 "
  requestTimeout := 60
  pollInterval := 5
  operationTimeout := 3600
  confirmGrace := 30
  moverProgram := "cstor-transfer"
  objectDirectory := objectDirectory

theorem valid_configurations_usable_daily :
    (withOptions (some " http://mgmt:5656/ ") (some "/site/")).validate = .ok () ∧
      ∃ w, (withOptions (some " http://mgmt:5656/ ") (some "/site/")).wiring = .ok w ∧
        w.settings.serverAddr = "mover:9000" ∧ w.settings.serverAddr ≠ "" ∧
        0 < w.settings.pollInterval.nanos ∧ w.client.baseUrl ≠ "" ∧
        ∃ directory, directory ≠ "" ∧ w.settings.namer.Carries directory := by
  have hvalid : (withOptions (some " http://mgmt:5656/ ") (some "/site/")).validate = .ok () :=
    by decide
  have htrim : Text.trim " mover:9000 " = "mover:9000" := by decide
  obtain ⟨w, hw, _, haddress, hnamed, _, hpoll, _, hbase, hcarries⟩ :=
    (valid_configurations_usable _).2.2 hvalid
  refine ⟨hvalid, w, hw, haddress.trans htrim, hnamed, hpoll, fun hempty => ?_, ?_⟩
  · obtain ⟨url, hurl, hslashes⟩ := hbase.mp hempty
    obtain rfl : " http://mgmt:5656/ " = url := Option.some.inj hurl
    exact absurd (hslashes 'h' (by decide)) (by decide)
  · exact (hcarries "/site/" rfl).mpr ⟨'s', by decide, by decide⟩

/-- **Nothing but slashes.**  A valid configuration whose two addresses are slashes leaves the
client without a base and the objects below no directory. -/
theorem slashes_accepted :
    let c := withOptions (some "/") (some "/")
    c.validate = .ok () ∧ ∃ w, c.wiring = .ok w ∧ w.client.baseUrl = "" ∧
      w.settings.namer = .plain ∧
      w.settings.namer.objectName "pvc-1" "full-01" = "full-01/cstor-pvc-1" :=
  ⟨rfl, _, rfl, by decide, by decide, by decide⟩

end Config

end SnapshotEngine
