import Liqi.FileTree
import Liqi.Trace

/-!
# Installing a host bundle

`liqi-install-host-bundle` checks that the paths of a manifest are distinct as texts, and writes files by the paths that
the texts resolve to. So two records may have one target, or one file in the staging directory, and a target may be the
temporary name of another. What is installed for a record is what the last record to touch its target brought there, from
the last member that was extracted to that record's source.
-/

namespace Liqi.Deployment.HostBundle

open FileTree

/-- A record of the manifest, with `str` of its texts and `int` of its size. -/
structure Record where
  sourcePath : String
  targetPath : String
  mode : String
  sha256 : String
  sizeBytes : Int
  deriving DecidableEq

structure Manifest where
  schemaVersion : String
  bundleId : String
  targetTriple : String
  algorithm : String
  keyId : String
  artifactSha256 : String
  files : List Record

def startsWith (text start : String) : Bool := start.toList.isPrefixOf text.toList

/-- `[0-9a-f]{64}`. -/
def isSha256 (text : String) : Bool := text.length == 64 && text.toList.all "0123456789abcdef".toList.contains

/-- `[a-z0-9][a-z0-9._-]{2,95}`. -/
def isIdentifier (text : String) : Bool :=
  let plain (c : Char) := c.isLower || c.isDigit
  text.toList.head?.any plain && 3 ≤ text.length && text.length ≤ 96
    && text.toList.all fun c => plain c || c == '.' || c == '_' || c == '-'

/-- `0[4-7][0-7]{2}`. -/
def isMode (text : String) : Bool :=
  match text.toList with
  | ['0', owner, group, other] => "4567".toList.contains owner && [group, other].all "01234567".toList.contains
  | _ => false

/-- `int(text, 8)`. -/
def octal (text : String) : Nat := text.toList.foldl (fun n c => 8 * n + (c.toNat - '0'.toNat)) 0

def targets : List (String × String) :=
  [("aarch64-unknown-linux-gnu", "aarch64"), ("x86_64-unknown-linux-gnu", "x86_64")]

/-- The loop over the records, with the sources and targets so far; its result are the targets. -/
def validateFiles : List String → List String → List Record → Except String (List String)
  | _, targets, [] => .ok targets
  | sources, targets, record :: rest =>
    let source := record.sourcePath
    let target := record.targetPath
    if !startsWith source "payload/" || ".." ∈ parts source || !startsWith target "/" then
      .error "unsafe host bundle path"
    else if !(["/etc/", "/usr/", "/opt/"].any (startsWith target)) || ".." ∈ parts target then
      .error "host bundle target escapes approved roots"
    else if source ∈ sources || target ∈ targets then .error "duplicate host bundle path"
    else if !isMode record.mode then .error "invalid host bundle mode"
    else if !isSha256 record.sha256 || record.sizeBytes ≤ 0 then .error "invalid host bundle file identity"
    else validateFiles (source :: sources) (target :: targets) rest

def validateManifest (document : Manifest) (bundleId keyId hostArchitecture : String) : Except String Unit :=
  if document.schemaVersion ≠ "liqi.infrastructure.host-bundle/v1" then .error "unsupported host bundle manifest"
  else if document.bundleId ≠ bundleId || !isIdentifier bundleId then .error "bundle identity mismatch"
  else if targets.lookup document.targetTriple ≠ some hostArchitecture then
    .error "host bundle target triple does not match host architecture"
  else if document.algorithm ≠ "ed25519" || document.keyId ≠ keyId then
    .error "host bundle signing key identity mismatch"
  else if !isSha256 document.artifactSha256 then .error "invalid host bundle artifact identity"
  else if document.files.length < 10 || 160 < document.files.length then .error "invalid host bundle file inventory"
  else match validateFiles [] [] document.files with
    | .error e => .error e
    | .ok targets =>
      if "/usr/local/share/liqi/host-packages-v1.json" ∉ targets then
        .error "signed host package manifest is missing from bundle inventory"
      else .ok ()

/-- A member of the archive with its bytes; `regular` is `isfile()`. -/
structure Member (δ : Type) where
  name : String
  regular : Bool
  data : δ

/-- `{str(item["source_path"]): item for item in manifest["files"]}`; the last record of a source counts. -/
def expected (files : List Record) (name : String) : Option Record := files.reverse.find? (·.sourcePath = name)

section Delivery

variable {δ : Type} (length : δ → Nat) (digest : δ → String) (directoryMode : Nat)

/-- One member in the loop of `extract_verified`. -/
def extractMember (files : List Record) (member : Member δ) (staging : Files δ) : Option (Files δ) :=
  if !member.regular || ".." ∈ parts member.name || startsWith member.name "/" then none
  else (expected files member.name).bind fun record =>
    if (length member.data : Int) ≠ record.sizeBytes || digest member.data ≠ record.sha256 then none
    else (mkdir directoryMode (parts member.name).dropLast staging).bind
      (write (parts member.name) member.data (octal record.mode))

def extractVerified (members : List (Member δ)) (files : List Record) (destination : Files δ) : Option (Files δ) :=
  if members.all (fun member => (expected files member.name).isSome) &&
      files.all (fun record => members.any (·.name = record.sourcePath)) then
    Trace.run (extractMember length digest directoryMode files) members destination
  else none

/-- `target.with_name(f".\x7btarget.name\x7d.liqi-new")`. -/
def temporary (target : Path) : Path := target.dropLast ++ ["." ++ target.getLastD "" ++ ".liqi-new"]

/-- One record in the loop of `install_files`. -/
def installFile (staging : Files δ) (record : Record) (host : Files δ) : Option (Files δ) := do
  let target := parts record.targetPath
  let host ← mkdir directoryMode target.dropLast host
  let (data, _) ← fileAt staging (parts record.sourcePath)
  let host ← write (temporary target) data (octal record.mode) host
  rename (temporary target) target host

def installFiles (staging : Files δ) (files : List Record) (host : Files δ) : Option (Files δ) :=
  Trace.run (installFile directoryMode staging) files host

/-- The record's file is there as the record describes it. -/
def Installed (host : Files δ) (record : Record) : Prop :=
  ∃ data, fileAt host (parts record.targetPath) = some (data, octal record.mode) ∧
    (length data : Int) = record.sizeBytes ∧ digest data = record.sha256

end Delivery

/-- A record puts its file at its target and takes away what had its temporary name. -/
def Record.touches (record : Record) (path : Path) : Bool :=
  path = parts record.targetPath || path = temporary (parts record.targetPath)

/-- The record whose data are extracted to a record's source: that of the last member to get there. -/
def supplier {δ : Type} (files : List Record) (members : List (Member δ)) (record : Record) : Option Record :=
  (members.reverse.find? fun member => parts record.sourcePath = parts member.name).bind
    fun member => expected files member.name

/-- The last record to touch a record's target has it as its target too, with the same mode, and is supplied with data
of the same size and digest. -/
def settled {δ : Type} (files : List Record) (members : List (Member δ)) (record : Record) : Bool :=
  (files.reverse.find? (·.touches (parts record.targetPath))).any fun last =>
    parts record.targetPath = parts last.targetPath && octal last.mode = octal record.mode &&
      (supplier files members last).any fun owner =>
        owner.sizeBytes = record.sizeBytes && owner.sha256 = record.sha256

section Proofs

variable {δ : Type} {length : δ → Nat} {digest : δ → String} {directoryMode : Nat} {files : List Record}
  {members : List (Member δ)} {member : Member δ} {record : Record} {staging host later : Files δ}

/-- What the extraction of a member checks and does. -/
theorem extractMember_some (extracted : extractMember length digest directoryMode files member staging = some later) :
    ∃ owner, expected files member.name = some owner ∧ (length member.data : Int) = owner.sizeBytes ∧
      digest member.data = owner.sha256 ∧
      fileAt later = Function.update (fileAt staging) (parts member.name) (some (member.data, octal owner.mode)) := by
  unfold extractMember at extracted
  split at extracted
  · cases extracted
  obtain ⟨owner, found, extracted⟩ := Option.bind_eq_some_iff.1 extracted
  split at extracted
  · cases extracted
  next same =>
    obtain ⟨made, directories, written⟩ := Option.bind_eq_some_iff.1 extracted
    simp only [Bool.or_eq_true, decide_eq_true_eq, not_or, not_not] at same
    refine ⟨owner, found, same.1, same.2, ?_⟩
    rw [fileAt_write written, fileAt_mkdir directories]

theorem installFile_some (installed : installFile directoryMode staging record host = some later) :
    ∃ data mode, fileAt staging (parts record.sourcePath) = some (data, mode) ∧
      fileAt later = Function.update (Function.update (fileAt host) (temporary (parts record.targetPath)) none)
        (parts record.targetPath) (some (data, octal record.mode)) := by
  obtain ⟨made, directories, installed⟩ := Option.bind_eq_some_iff.1 installed
  obtain ⟨⟨data, mode⟩, staged, installed⟩ := Option.bind_eq_some_iff.1 installed
  obtain ⟨copied, written, renamed⟩ := Option.bind_eq_some_iff.1 installed
  refine ⟨data, mode, staged, ?_⟩
  rw [fileAt_rename renamed, fileAt_write written, fileAt_mkdir directories, Function.update_self, Function.update_idem]

/-- What is in the staging directory at the source of a record. -/
theorem supplied {destination : Files δ} (listed : record ∈ files)
    (extracted : extractVerified length digest directoryMode members files destination = some staging) :
    ∃ owner data mode, supplier files members record = some owner ∧
      fileAt staging (parts record.sourcePath) = some (data, mode) ∧ (length data : Int) = owner.sizeBytes ∧
      digest data = owner.sha256 := by
  unfold extractVerified at extracted
  split at extracted
  next inventory =>
    simp only [Bool.and_eq_true, List.all_eq_true, List.any_eq_true, decide_eq_true_eq] at inventory
    obtain ⟨member, present, named⟩ := inventory.2 record listed
    obtain ⟨last, there, found, written⟩ := Trace.run_last fileAt (fun member path => path = parts member.name)
      (fun member _ => (expected files member.name).map fun owner => (member.data, octal owner.mode)) extracted
      (fun member before after taken path => by
        obtain ⟨owner, found, _, _, written⟩ := extractMember_some taken
        simp [written, found, Function.update_apply])
      present (i := parts record.sourcePath) (by simp [named])
    obtain ⟨before, after, taken⟩ := Trace.run_taken extracted last there
    obtain ⟨owner, expects, size, digested, _⟩ := extractMember_some taken
    rw [expects] at written
    exact ⟨owner, last.data, octal owner.mode, by simp [supplier, found, expects], written, size, digested⟩
  · cases extracted

/-- **Installed files.** After an extraction and an installation that returned, the files of all records are as the
records describe them exactly when each record is settled by the last one to touch its target. -/
theorem installed_iff_settled (destination host : Files δ)
    (extracted : extractVerified length digest directoryMode members files destination = some staging)
    (installed : installFiles directoryMode staging files host = some later) :
    (∀ record ∈ files, Installed length digest later record) ↔ ∀ record ∈ files, settled files members record = true := by
  refine forall₂_congr fun record listed => ?_
  obtain ⟨last, there, found, written⟩ := Trace.run_last fileAt Record.touches
    (fun record path => if path = parts record.targetPath then
      (fileAt staging (parts record.sourcePath)).map fun file => (file.1, octal record.mode) else none) installed
    (fun record before after taken path => by
      obtain ⟨data, mode, staged, written⟩ := installFile_some taken
      rw [written, staged]
      simp only [Record.touches, Function.update_apply]
      grind)
    listed (i := parts record.targetPath) (by simp [Record.touches])
  obtain ⟨owner, data, mode, supplies, staged, size, digested⟩ := supplied there extracted
  unfold Installed settled
  rw [found, written, staged]
  by_cases same : parts record.targetPath = parts last.targetPath
  · simp [same, supplies, size, digested, and_assoc]
  · simp [same]

end Proofs

/-! ### Two texts of one path -/

/-- Sources, targets and contents. -/
def sampleFiles (second : String) : List (String × String × String) :=
  [("payload/first", "/etc/liqi/host.conf", "a"), ("payload/second", second, "b"),
    ("payload/packages", "/usr/local/share/liqi/host-packages-v1.json", "c")] ++
  (List.range 7).map fun i => ("payload/" ++ toString i, "/opt/liqi/" ++ toString i, "d")

def sampleDigest (content : String) : String := String.ofList (List.replicate 64 (content.toList.headD '0'))

def sampleManifest (second : String) : Manifest where
  schemaVersion := "liqi.infrastructure.host-bundle/v1"
  bundleId := "host-1"
  targetTriple := "x86_64-unknown-linux-gnu"
  algorithm := "ed25519"
  keyId := "key-1"
  artifactSha256 := sampleDigest "e"
  files := (sampleFiles second).map fun (source, target, content) => ⟨source, target, "0644", sampleDigest content, 1⟩

/-- The archive of the bundle is extracted and installed on a host without files. -/
def sampleInstallation (second : String) : Option (Files String) :=
  (extractVerified String.length sampleDigest 0o755
    ((sampleFiles second).map fun (source, _, content) => ⟨source, true, content⟩) (sampleManifest second).files
    fun _ => none).bind fun staging => installFiles 0o755 staging (sampleManifest second).files fun _ => none

theorem sample_bundle_installed : ∃ host, sampleInstallation "/etc/liqi/other.conf" = some host ∧
    ∀ record ∈ (sampleManifest "/etc/liqi/other.conf").files, Installed String.length sampleDigest host record := by
  have returns : (sampleInstallation "/etc/liqi/other.conf").isSome = true := by decide +kernel
  obtain ⟨host, ran⟩ := Option.isSome_iff_exists.1 returns
  obtain ⟨staging, extracted, installed⟩ := Option.bind_eq_some_iff.1 ran
  exact ⟨host, ran, (installed_iff_settled _ _ extracted installed).2 (by decide +kernel)⟩

/-- **Two texts of one path.** The manifest is accepted, and the second file is installed in the place of the first. -/
theorem aliased_target_overwritten :
    validateManifest (sampleManifest "/etc/liqi//host.conf") "host-1" "key-1" "x86_64" = .ok () ∧
    ∃ host, sampleInstallation "/etc/liqi//host.conf" = some host ∧
      ∃ record ∈ (sampleManifest "/etc/liqi//host.conf").files, ¬ Installed String.length sampleDigest host record := by
  have overwritten : (sampleInstallation "/etc/liqi//host.conf").map (fileAt · ["etc", "liqi", "host.conf"])
      = some (some ("b", 0o644)) := by decide +kernel
  obtain ⟨host, ran, second⟩ := Option.map_eq_some_iff.1 overwritten
  refine ⟨by decide +kernel, host, ran, _, List.mem_cons_self, ?_⟩
  rintro ⟨data, there, _, digested⟩
  have same : parts "/etc/liqi/host.conf" = ["etc", "liqi", "host.conf"] := by decide +kernel
  rw [same, second] at there
  cases there
  revert digested
  decide +kernel

end Liqi.Deployment.HostBundle
