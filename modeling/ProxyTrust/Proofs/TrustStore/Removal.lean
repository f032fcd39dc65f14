/-
  What a removal takes away of an installation on Linux.

  The script that installs copies the certificate to a path of its own.  The script that removes
  takes the configured path, and that path only where none is configured.

  1. **The system** — `system tool` has files, the utilities that change them, and perhaps a tool
     that refreshes the store.  The tool reads the files and keeps what it makes of them to
     itself.

  2. **The scripts on it** — after an installation that says it worked, the certificate was
     copied: a list ends with zero only if every command of it did.  After a removal that says it
     worked, the files differ by what `rm` took away, which may be nothing.

  3. **One after the other** — the removal starts from what the installation left, with nothing
     in between.  `uninstall_takes_copy_away_iff` is the main statement: both may say that they
     worked, and the entry that the installation made is gone exactly if the configured path names
     it.

  4. **A configured path** — with another path configured, the copy stays (`stray_copy_stays`).
-/
import ProxyTrust.Controller
import ProxyTrust.Proofs.Authority.Provision
import ProxyTrust.Proofs.Host.Utility
import ProxyTrust.Proofs.TrustStore.Evaluation

namespace ProxyTrust.TrustStore

open Authority (newYear smallDraw)
open Host (Loses Removes copyTarget pathOf)
open Shell (Programs)

variable {β : Type}

/-! ## The system -/

/-- A tool that refreshes the trust store: it gets arguments, reads the files, and keeps a state
    of its own. -/
abbrev RefreshTool (β : Type) := List (List Char) → FileSystem → β → Nat × β

/-- `command`: whether a name is known. -/
def lookUpName (tool : Option (RefreshTool β)) : List (List Char) → Nat
  | [['-', 'v'], name] =>
    if (name = refreshName.toList && tool.isSome) || Host.isKnown name then 0 else Host.notFound
  | _ => Host.misuse

/-- A system with files and, besides its utilities, perhaps a tool that refreshes the trust
    store. -/
def system (tool : Option (RefreshTool β)) : Programs (FileSystem × β)
  | [], m => (0, m)
  | name :: arguments, m =>
    if name = "command".toList then (lookUpName tool arguments, m)
    else if name = refreshName.toList then
      match tool with
      | none => (Host.notFound, m)
      | some tool => ((tool arguments m.1 m.2).1, m.1, (tool arguments m.1 m.2).2)
    else match Host.utility? name with
      | none => (Host.notFound, m)
      | some utility =>
        let result := utility Host.outside.input arguments m.1
        (result.status, result.files, m.2)

/-- Neither the lookup nor the tool touches the files. -/
theorem system_files {tool : Option (RefreshTool β)} {words : List (List Char)}
    (hwords : words ∈ [lookupWords, refreshWords, succeedWords, updateWords]) (m : FileSystem × β) :
    (system tool words m).2.1 = m.1 := by
  simp only [List.mem_cons, List.not_mem_nil, or_false] at hwords
  rcases hwords with rfl | rfl | rfl | rfl
  · rfl
  · cases tool <;> rfl
  · rfl
  · cases tool <;> rfl

theorem system_copyWords (tool : Option (RefreshTool β)) (certificate : List Char)
    (m : FileSystem × β) : system tool (copyWords certificate) m
      = ((Host.cp Host.outside.input [certificate, linuxCertificate.toList] m.1).status,
        (Host.cp Host.outside.input [certificate, linuxCertificate.toList] m.1).files, m.2) := rfl

theorem system_removeWords (tool : Option (RefreshTool β)) (installed : List Char)
    (m : FileSystem × β) : system tool (removeWords installed) m
      = ((Host.rm Host.outside.input ["-f".toList, installed] m.1).status,
        (Host.rm Host.outside.input ["-f".toList, installed] m.1).files, m.2) := rfl

/-! ## The scripts on it -/

/-- The path that a certificate is copied to. -/
def copyPath : Path := Path.ofString linuxCertificate

theorem pathOf_linuxCertificate : pathOf linuxCertificate.toList = copyPath := by
  rw [copyPath, Path.ofString, pathOf]

/-- The parentheses of the script that installs do not touch the files. -/
theorem refreshGroup_files (tool : Option (RefreshTool β)) (m : FileSystem × β) :
    ((system tool).evaluate 0 refreshGroup m).2.1 = m.1 := by
  have hlookup : (system tool lookupWords m).2.1 = m.1 := system_files (by simp) m
  have hrefresh (m : FileSystem × β) : (system tool refreshWords m).2.1 = m.1 :=
    system_files (by simp) m
  have hsucceed (m : FileSystem × β) : (system tool succeedWords m).2.1 = m.1 :=
    system_files (by simp) m
  rw [evaluate_refreshGroup, ← hlookup]
  rcases system tool lookupWords m with ⟨_ | found, m⟩
  · simp only [← hrefresh m]
    rcases system tool refreshWords m with ⟨_ | refreshed, m⟩
    · rfl
    · exact hsucceed m
  · exact hsucceed m

/-- A script that installed with success copied the certificate, and nothing changed after that. -/
theorem installScript_files {tool : Option (RefreshTool β)} {certificate : Path}
    {m : FileSystem × β}
    (hstatus : ((system tool).evaluate 0 (installScript certificate) m).1 = 0) :
    ∃ made,
      (Host.cp Host.outside.input [Text.decodeLossy certificate.bytes, linuxCertificate.toList]
        made).status = 0
      ∧ ((system tool).evaluate 0 (installScript certificate) m).2.1
        = (Host.cp Host.outside.input [Text.decodeLossy certificate.bytes, linuxCertificate.toList]
          made).files := by
  rw [installScript, evaluate_installList (quotedWord_quotes _)] at hstatus ⊢
  revert hstatus
  rcases system tool makeWords m with ⟨_ | made, m⟩
  · simp only [system_copyWords]
    intro hstatus
    refine ⟨m.1, ?_⟩
    revert hstatus
    cases (Host.cp Host.outside.input [Text.decodeLossy certificate.bytes, linuxCertificate.toList]
        m.1).status with
    | zero => exact fun _ => ⟨rfl, refreshGroup_files tool _⟩
    | succ copied => exact fun hstatus => nomatch hstatus
  · exact fun hstatus => nomatch hstatus

/-- After a script that installed with success, the source and the place of the copy read the
    same. -/
theorem installScript_copies {tool : Option (RefreshTool β)} {certificate : Path}
    {m : FileSystem × β}
    (hstatus : ((system tool).evaluate 0 (installScript certificate) m).1 = 0) :
    ∃ content, ((system tool).evaluate 0 (installScript certificate) m).2.1.read
        (pathOf (Text.decodeLossy certificate.bytes)) = .ok content
      ∧ ((system tool).evaluate 0 (installScript certificate) m).2.1.read
        (copyTarget ((system tool).evaluate 0 (installScript certificate) m).2.1
          (pathOf (Text.decodeLossy certificate.bytes)) copyPath) = .ok content := by
  obtain ⟨made, hcopied, hfiles⟩ := installScript_files hstatus
  have hcopy := Host.copyOne_of_cp (by decide +kernel) hcopied
  rw [pathOf_linuxCertificate, ← hfiles] at hcopy
  exact Host.copyOne_reads (by decide +kernel) hcopy

/-- A script that removed with success ran `rm` with success, and nothing changed after that. -/
theorem uninstallScript_files {tool : Option (RefreshTool β)} {installed : Path}
    {m : FileSystem × β}
    (hstatus : ((system tool).evaluate 0 (uninstallScript installed) m).1 = 0) :
    (Host.rm Host.outside.input ["-f".toList, Text.decodeLossy installed.bytes] m.1).status = 0
      ∧ ((system tool).evaluate 0 (uninstallScript installed) m).2.1
        = (Host.rm Host.outside.input ["-f".toList, Text.decodeLossy installed.bytes]
          m.1).files := by
  rw [uninstallScript, evaluate_uninstallList (quotedWord_quotes _),
    system_removeWords] at hstatus ⊢
  revert hstatus
  cases (Host.rm Host.outside.input ["-f".toList, Text.decodeLossy installed.bytes] m.1).status with
  | zero => exact fun _ => ⟨rfl, system_files (by simp) _⟩
  | succ removed => exact fun hstatus => nomatch hstatus

/-- After a script that removed with success, what its path names is gone and all else is as
    before. -/
theorem uninstallScript_loses {tool : Option (RefreshTool β)} {installed : Path}
    {m : FileSystem × β}
    (hstatus : ((system tool).evaluate 0 (uninstallScript installed) m).1 = 0) :
    Loses m.1 ((system tool).evaluate 0 (uninstallScript installed) m).2.1
      (Text.decodeLossy installed.bytes) := by
  obtain ⟨hremoved, hfiles⟩ := uninstallScript_files hstatus
  rw [hfiles]
  exact Host.loses_of_rm hremoved

/-! ## One after the other -/

/-- An installation where there is an authority, or where one could be made. -/
theorem installCa_of_ensured {σ : Type} {c : Controller} {run : Runner σ} {draw : Authority.Draw}
    {now : Moment} {fs ensured : FileSystem} {outcome : Authority.EnsureOutcome} {m after : σ}
    {ok : Bool} (hensure : c.ensureCa draw now fs = (.ok outcome, ensured))
    (hinstall : install run c.platform c.config.ca.certPath m = (ok, after)) :
    c.installCa run draw now fs m = (.ok ok, ensured, after) := by
  rw [Controller.installCa, hensure]
  simp only [hinstall]

/-- An installation that says it worked has run its script, with status zero. -/
theorem installCa_true {tool : Option (RefreshTool β)} {config : Config} {draw : Authority.Draw}
    {now : Moment} {fs ensured : FileSystem} {m installed : FileSystem × β}
    (h : (Controller.mk config .linux).installCa (system tool).runner draw now fs m
      = (.ok true, ensured, installed)) :
    ((system tool).evaluate 0 (installScript config.ca.certPath) m).1 = 0
      ∧ installed = ((system tool).evaluate 0 (installScript config.ca.certPath) m).2 := by
  rw [Controller.installCa] at h
  split at h
  · nomatch h
  · rw [install, tryInstall_linux] at h
    obtain ⟨hok, hrest⟩ := Prod.mk.inj h
    refine ⟨?_, (Prod.mk.inj hrest).2.symm⟩
    exact beq_iff_eq.mp (Except.ok.inj hok)

/-- The path that a removal takes: the configured one, else the one that certificates are copied
    to. -/
def removalPath (config : Config) : Path := config.ca.installedPath.getD copyPath

/-- A removal that says it worked has run its script, with status zero. -/
theorem uninstallCa_true {tool : Option (RefreshTool β)} {config : Config} {fs : FileSystem}
    {m removed : FileSystem × β}
    (h : (Controller.mk config .linux).uninstallCa (system tool).runner fs none none m
      = (true, removed)) :
    ((system tool).evaluate 0 (uninstallScript (removalPath config)) m).1 = 0
      ∧ removed = ((system tool).evaluate 0 (uninstallScript (removalPath config)) m).2 := by
  rw [Controller.uninstallCa, uninstall, tryUninstall_linux] at h
  obtain ⟨hok, hrest⟩ := Prod.mk.inj h
  exact ⟨beq_iff_eq.mp hok, hrest.symm⟩

/-- The path that an installation copies from. -/
def sourcePath (config : Config) : Path := pathOf (Text.decodeLossy config.ca.certPath.bytes)

/-- The path that certificates are copied to is no option, and no slash follows it. -/
theorem removes_copyPath {fs : FileSystem} {place : Location} (hnames : fs.Names copyPath place) :
    Removes fs (Text.decodeLossy copyPath.bytes) place := by
  have htext : Text.decodeLossy copyPath.bytes = linuxCertificate.toList := by decide +kernel
  rw [htext]
  refine ⟨by decide +kernel, ?_, ?_⟩
  · rw [pathOf_linuxCertificate]
    exact hnames
  · rw [pathOf_linuxCertificate]
    decide +kernel

/-- What became of a certificate that was copied, when a removal followed. -/
structure AfterRemoval (config : Config) (installed removed : FileSystem) (place : Location)
    (content : List UInt8) : Prop where
  /-- The entry that the installation made, or found in the place of the copy. -/
  names : installed.Names copyPath place
  source : installed.read (sourcePath config) = .ok content
  /-- The copy stands at the entry, or in it where that is a directory. -/
  copied : installed.read (copyTarget installed (sourcePath config) copyPath) = .ok content
  /-- The entry is gone exactly if the path that the removal takes names it. -/
  gone_iff : removed.at? place = none
    ↔ Removes installed (Text.decodeLossy (removalPath config).bytes) place
  /-- It is gone if the removal takes the very path of the copy. -/
  gone : removalPath config = copyPath → removed.at? place = none
  others : ∀ other, ¬ Removes installed (Text.decodeLossy (removalPath config).bytes) other →
    removed.at? other = installed.at? other

/-- An installation and then a removal that both say that they worked, under one configuration and
    with nothing in between.  Whether the second one took away what the first one made depends on
    the path that is configured for it, and on nothing else. -/
theorem uninstall_takes_copy_away_iff {config : Config} {draw : Authority.Draw} {now : Moment}
    {fs ensured : FileSystem} {b : β} {before after : Option (RefreshTool β)}
    {installed removed : FileSystem × β}
    (hinstall : (Controller.mk config .linux).installCa (system before).runner draw now fs
        (((Controller.mk config .linux).ensureCa draw now fs).2, b)
          = (.ok true, ensured, installed))
    (huninstall : (Controller.mk config .linux).uninstallCa (system after).runner
        installed.1 none none installed = (true, removed)) :
    ∃ place content, AfterRemoval config installed.1 removed.1 place content := by
  obtain ⟨hcopied, hinstalled⟩ := installCa_true hinstall
  obtain ⟨hgone, hremoved⟩ := uninstallCa_true huninstall
  obtain ⟨content, hsource, hcopy⟩ := installScript_copies hcopied
  rw [← hinstalled] at hsource hcopy
  have hloses := uninstallScript_loses hgone
  rw [← hremoved] at hloses
  obtain ⟨place, hnames, hat⟩ := Host.names_of_copy hcopy
  refine ⟨place, content, hnames, hsource, hcopy, ⟨?_, hloses.gone place⟩, ?_, hloses.kept⟩
  · intro hnone
    refine Classical.byContradiction fun hnot => ?_
    rw [← hloses.kept place hnot, hnone] at hat
    nomatch hat
  · intro hsame
    rw [hsame] at hloses
    exact hloses.gone place (removes_copyPath hnames)

/-! ## A path configured elsewhere -/

/-- A controller with a certificate, and with a path for removals that nothing is copied to. -/
def strayController : Controller :=
  ⟨{ Config.default with
      ca := ⟨Path.ofString "ca.pem", none, some (Path.ofString "/etc/custom/terasu.crt")⟩ }, .linux⟩

/-- The certificate, and nothing else. -/
def strayFiles : FileSystem := .oneFile "ca.pem" [1]

/-- The location of the copy. -/
def copyPlace : Location := (Path.components copyPath.bytes).reverse

/-- The certificate and its copy, with the four directories above that. -/
def strayInstalled : FileSystem :=
  { strayFiles with
    entries := (copyPlace, .file [1] 0o644)
      :: (List.range 4).map (fun n => (copyPlace.drop (n + 1), .directory)) ++ strayFiles.entries }

/-- A tool that always works. -/
def quietTool : RefreshTool Unit := fun _ _ _ => (0, ())

theorem stray_ensureCa :
    strayController.ensureCa smallDraw newYear strayFiles = (.ok .alreadyPresent, strayFiles) := rfl

theorem stray_install :
    install (system (some quietTool)).runner .linux strayController.config.ca.certPath
      (strayFiles, ())
      = (true, strayInstalled, ()) := by
  have hscript : (system (some quietTool)).evaluate 0
      (installScript strayController.config.ca.certPath) (strayFiles, ())
        = (0, strayInstalled, ()) := by
    decide +kernel
  rw [install, tryInstall_linux, hscript]
  rfl

/-- The installation works. -/
theorem stray_installCa :
    strayController.installCa (system (some quietTool)).runner smallDraw newYear strayFiles
        ((strayController.ensureCa smallDraw newYear strayFiles).2, ())
      = (.ok true, strayFiles, strayInstalled, ()) := by
  rw [stray_ensureCa]
  exact installCa_of_ensured stray_ensureCa stray_install

/-- The removal works as well, and takes nothing away. -/
theorem stray_uninstallCa :
    strayController.uninstallCa (system (some quietTool)).runner strayInstalled none none
        (strayInstalled, ()) = (true, strayInstalled, ()) := by
  have hscript : (system (some quietTool)).evaluate 0
      (uninstallScript (removalPath strayController.config)) (strayInstalled, ())
        = (0, strayInstalled, ()) := by
    decide +kernel
  have hpath : strayController.config.ca.installedPath.getD (Path.ofString linuxCertificate)
      = removalPath strayController.config := rfl
  have huninstall : uninstall (system (some quietTool)).runner .linux none
      strayController.config.ca.installedPath (strayInstalled, ())
        = (true, strayInstalled, ()) := by
    rw [uninstall, tryUninstall_linux, hpath, hscript]
    rfl
  exact huninstall

/-- The two operations in the situation of the main statement. -/
theorem uninstall_takes_copy_away_iff_stray :
    strayController.installCa (system (some quietTool)).runner smallDraw newYear strayFiles
        ((strayController.ensureCa smallDraw newYear strayFiles).2, ())
      = (.ok true, strayFiles, strayInstalled, ())
    ∧ strayController.uninstallCa (system (some quietTool)).runner strayInstalled none none
        (strayInstalled, ()) = (true, strayInstalled, ())
    ∧ ∃ place content,
        AfterRemoval strayController.config strayInstalled strayInstalled place content :=
  ⟨stray_installCa, stray_uninstallCa,
    uninstall_takes_copy_away_iff stray_installCa stray_uninstallCa⟩

/-- Both say that they worked, and the copy is still there: the removal has not changed the
    files. -/
theorem stray_copy_stays :
    strayController.installCa (system (some quietTool)).runner smallDraw newYear strayFiles
        ((strayController.ensureCa smallDraw newYear strayFiles).2, ())
      = (.ok true, strayFiles, strayInstalled, ())
    ∧ strayController.uninstallCa (system (some quietTool)).runner strayInstalled none none
        (strayInstalled, ()) = (true, strayInstalled, ())
    ∧ strayInstalled.read copyPath = .ok [1] :=
  ⟨stray_installCa, stray_uninstallCa, rfl⟩

end ProxyTrust.TrustStore
