/-
  Whether the scripts on Linux act on the very file that a path names.

  1. **Arguments** — a utility gets a path as a text, with a replacement for all bytes that are
     not UTF-8, and takes that text for an option where a dash stands in front of more.  Two paths
     have one command exactly if they have one text, since a quotation gives its text back
     (`installCommand_eq_iff`, `uninstallCommand_eq_iff`).

  2. **Removal** — the entry that the path names, a file or a link to it, is removed, and nothing
     else, exactly if the text names it as an operand (`removed_uninstallCa`).  What `rm` does to
     an operand is said where the utilities are.

  3. **Installation** — what is copied is the file that the text leads to as an operand.
     `installation` tells the files that the script leaves and whether it worked, without a shell,
     and `install_eq` shows that the operation comes to that over every tool.

  4. **Faithful paths** — paths that are texts without a dash in front are acted on as they are:
     the argument leads where the path leads.  `scripts_act_on_named_file` puts the parts
     together, and `dash_file_stays` is a path that is taken for an option.
-/
import ProxyTrust.Proofs.Authority.Provision
import ProxyTrust.Proofs.Files.Footprint
import ProxyTrust.Proofs.Text.Decoding
import ProxyTrust.Proofs.TrustStore.Removal

namespace ProxyTrust.TrustStore

open Authority (newYear smallDraw)
open Host (Removes Room isOption pathOf)

variable {β : Type} {p q : Path} {fs made : FileSystem} {place entry target : Location}
  {content : List UInt8}

/-! ## Arguments -/

/-- The text that a utility gets for a path. -/
def argument (p : Path) : List Char := Text.decodeLossy p.bytes

/-- The bytes of the path are those of a text that is taken for an operand. -/
def Faithful (p : Path) : Prop := ∃ text, p = pathOf text ∧ isOption text = false

theorem argument_pathOf (text : List Char) : argument (pathOf text) = text :=
  Text.decodeLossy_encodeUtf8 text

/-- A path that is a text is the path of its argument. -/
theorem Faithful.pathOf_argument (h : Faithful p) : pathOf (argument p) = p := by
  obtain ⟨text, rfl, -⟩ := h
  rw [argument_pathOf]

theorem Faithful.isOperand (h : Faithful p) : isOption (argument p) = false := by
  obtain ⟨text, rfl, hoption⟩ := h
  rw [argument_pathOf]
  exact hoption

/-- Texts with one quotation are one text. -/
theorem quotedWord_injective {s t : List Char} (h : quotedWord s = quotedWord t) : s = t := by
  rw [← (quotedWord_quotes s).literal_eq, h, (quotedWord_quotes t).literal_eq]

/-- A script that is read as a list with the path in the place of one word tells the text of the
    path. -/
theorem argument_eq_of_script {script : Path → String} {list : Shell.Word → Shell.Script}
    (hread : ∀ p, Shell.ofText? (script p).toList
      = some (list (quotedWord (Text.decodeLossy p.bytes))))
    (hlist : ∀ v w, list v = list w → v = w) (h : script p = script q) :
      argument p = argument q := by
  have hp := hread p
  rw [h, hread q] at hp
  exact (quotedWord_injective (hlist _ _ (Option.some.inj hp))).symm

theorem quotePath_eq (h : argument p = argument q) : quotePath p = quotePath q :=
  congrArg (fun s => String.ofList (quote s)) h

/-- Two paths have one command that installs exactly if they have one text. -/
theorem installCommand_eq_iff :
    installCommand .linux p = installCommand .linux q ↔ argument p = argument q := by
  constructor
  · intro h
    have hscript :
        linuxInstallScript p = linuxInstallScript q := by simpa [shell] using Except.ok.inj h
    refine argument_eq_of_script ofText?_linuxInstallScript (fun v w hlist => ?_) hscript
    simpa [installList] using hlist
  · intro h
    rw [installCommand, installCommand, linuxInstallScript, linuxInstallScript, quotePath_eq h]

/-- So it is with the command that removes. -/
theorem uninstallCommand_eq_iff {f g : Option Fingerprint} :
    uninstallCommand .linux f (some p) = uninstallCommand .linux g (some q)
      ↔ argument p = argument q := by
  constructor
  · intro h
    have hscript :
        linuxUninstallScript p = linuxUninstallScript q := by simpa [shell] using Except.ok.inj h
    refine argument_eq_of_script ofText?_linuxUninstallScript (fun v w hlist => ?_) hscript
    simpa [uninstallList] using hlist
  · intro h
    rw [uninstallCommand, uninstallCommand, Option.getD_some, Option.getD_some,
      linuxUninstallScript, linuxUninstallScript, quotePath_eq h]

/-! ## Files with a path -/

/-- The path leads to a regular file. -/
structure LeadsToFile (fs : FileSystem) (p : Path) (place : Location) (content : List UInt8) :
    Prop where
  find : fs.find p = .ok place
  file : ∃ mode, fs.at? place = some (.file content mode)

/-- The path names the entry, which is no directory. -/
structure NamesEntry (fs : FileSystem) (p : Path) (entry : Location) : Prop where
  names : fs.Names p entry
  noSlash : Path.endsInSlash p.bytes = false
  occupied : fs.at? entry ≠ none
  noDirectory : fs.isDirectoryAt entry = false

/-- A path that leads to a file names that file, or a link. -/
theorem LeadsToFile.exists_entry (h : LeadsToFile fs p place content) :
    ∃ entry, NamesEntry fs p entry
      ∧ (entry = place ∨ ∃ link, fs.at? entry = some (.link link)) := by
  obtain ⟨mode, hfile⟩ := h.file
  have hplace : fs.isDirectoryAt place = false := by simp [FileSystem.isDirectoryAt, hfile]
  have hslash := FileSystem.endsInSlash_of_find h.find hplace
  obtain ⟨entry, hnames, rfl | ⟨link, hlink⟩⟩ := FileSystem.names_of_find h.find
  · exact ⟨entry, ⟨hnames, hslash, by simp [hfile], hplace⟩, .inl rfl⟩
  · exact ⟨entry, ⟨hnames, hslash, by simp [hlink], by simp [FileSystem.isDirectoryAt, hlink]⟩,
      .inr ⟨link, hlink⟩⟩

/-! ## Removal -/

/-- The entry at the location is gone, and all else is as before. -/
def TakesExactly (before after : FileSystem) (place : Location) : Prop :=
  ∀ other, after.at? other = if other = place then none else before.at? other

/-- A removal by a path evaluates the script of the path. -/
theorem uninstallCa_given (tool : Option (RefreshTool β)) (config : Config)
    (given : Option Fingerprint) (fs : FileSystem) (p : Path) (m : FileSystem × β) :
    (Controller.mk config .linux).uninstallCa (system tool).runner fs given (some p) m
      = (((system tool).evaluate 0 (uninstallScript p) m).1 == 0,
        ((system tool).evaluate 0 (uninstallScript p) m).2) := by
  rw [Controller.uninstallCa, uninstall, tryUninstall_linux]
  rfl

/-- What a removal leaves is what `rm` leaves. -/
theorem uninstallCa_files (tool : Option (RefreshTool β)) (config : Config)
    (given : Option Fingerprint) (fs : FileSystem) (p : Path) (m : FileSystem × β) :
    ((Controller.mk config .linux).uninstallCa (system tool).runner fs given (some p) m).2.1
      = (Host.rm Host.outside.input ["-f".toList, argument p] m.1).files := by
  rw [uninstallCa_given, uninstallScript, evaluate_uninstallList (quotedWord_quotes _),
    system_removeWords]
  cases (Host.rm Host.outside.input ["-f".toList, Text.decodeLossy p.bytes] m.1).status with
  | zero => exact system_files (by simp) _
  | succ removed => rfl

/-- A path that is a text without a dash in front removes the entry that it names. -/
theorem Faithful.removes (h : Faithful p) (hnamed : NamesEntry fs p entry) :
    Removes fs (argument p) entry := by
  refine ⟨h.isOperand, ?_, ?_⟩
  · rw [h.pathOf_argument]
    exact hnamed.names
  · rw [h.pathOf_argument]
    exact hnamed.noSlash

/-- What `rm` leaves is what is wanted exactly if the operand names the entry. -/
theorem takesExactly_rm_iff {operand : List Char} (hnamed : NamesEntry fs p entry) :
    TakesExactly fs (Host.rm Host.outside.input ["-f".toList, operand] fs).files entry
      ↔ Removes fs operand entry := by
  constructor
  · intro h
    refine Classical.byContradiction fun hnot => ?_
    have hgone := h entry
    rw [if_pos rfl, Host.at?_rm_kept hnot] at hgone
    exact hnamed.occupied hgone
  · intro h other
    by_cases hother : other = entry
    · rw [if_pos hother, hother]
      exact Host.at?_rm_removed h hnamed.noDirectory
    · rw [if_neg hother]
      exact Host.at?_rm_kept fun hnames => hother (hnames.names.unique h.names)

/-- What a removal by a path leaves, where the path names an entry. -/
structure Removed (before after : FileSystem) (p : Path) (entry : Location) : Prop where
  exactly_iff : TakesExactly before after entry ↔ Removes before (argument p) entry
  exactly : Faithful p → TakesExactly before after entry
  /-- Taken for an option, the path removes nothing. -/
  nothing : isOption (argument p) = true → after = before

/-- A removal at a given path, over every system. -/
theorem removed_uninstallCa (hnamed : NamesEntry fs p entry) (tool : Option (RefreshTool β))
    (config : Config) (given : Option Fingerprint) (b : β) :
    Removed fs
      ((Controller.mk config .linux).uninstallCa (system tool).runner fs given (some p) (fs, b)).2.1
      p entry := by
  rw [uninstallCa_files]
  exact ⟨takesExactly_rm_iff hnamed, fun h => (takesExactly_rm_iff hnamed).mpr (h.removes hnamed),
    Host.files_rm_option⟩

/-! ## Installation -/

/-- The directory that certificates are copied to. -/
def directoryPath : Path := Path.ofString linuxDirectory

/-- The file that the text of a path names as an operand, copied. -/
def copied (made : FileSystem) (p : Path) : Option FileSystem :=
  if isOption (argument p) then none else Host.copyOne made (pathOf (argument p)) copyPath

/-- Whether an installation works, and what it leaves: the directory is made first, and where that
    fails nothing is copied. -/
def installation (fs : FileSystem) (p : Path) : Bool × FileSystem :=
  match fs.makeDirectories directoryPath with
  | (.error _, _) => (false, fs)
  | (.ok (), made) => ((copied made p).isSome, (copied made p).getD made)

/-- The directory is made, with the directories above it. -/
theorem system_makeWords (tool : Option (RefreshTool β)) (m : FileSystem × β) :
    system tool makeWords m =
      match m.1.makeDirectories directoryPath with
      | (.error _, _) => (1, m)
      | (.ok (), made) => (0, made, m.2) := by
  have hmake : system tool makeWords m
      = ((Host.mkdir Host.outside.input ["-p".toList, linuxDirectory.toList] m.1).status,
        (Host.mkdir Host.outside.input ["-p".toList, linuxDirectory.toList] m.1).files, m.2) := rfl
  have hsplit : Host.splitOptions ['p'] ["-p".toList, linuxDirectory.toList]
      = some (['p'], [linuxDirectory.toList]) := rfl
  have hpath : pathOf linuxDirectory.toList = directoryPath := by
    rw [directoryPath, Path.ofString, pathOf]
  rw [hmake, Host.mkdir, Host.withOptions, hsplit]
  simp only [Host.someOperand, Host.eachOperand, hpath]
  rcases m.1.makeDirectories directoryPath with ⟨_ | _, made⟩
  · rfl
  · rfl

/-- The file that the text leads to is copied, if the text is an operand. -/
theorem cp_argument (p : Path) (made : FileSystem) :
    Host.cp Host.outside.input [argument p, linuxCertificate.toList] made =
      match copied made p with
      | some after => Host.answer 0 after
      | none => Host.answer 1 made := by
  have htarget : isOption linuxCertificate.toList = false := rfl
  rw [copied]
  cases hoption : isOption (argument p) with
  | true =>
    rw [Host.cp_option htarget hoption]
    rfl
  | false =>
    rw [Host.cp_operands htarget hoption, pathOf_linuxCertificate]
    rfl

/-- The refresh has no part in the status, and it changes no file. -/
theorem refreshGroup_status (tool : Option (RefreshTool β)) (m : FileSystem × β) :
    ((system tool).evaluate 0 refreshGroup m).1 = 0 := by
  have hsucceed (m : FileSystem × β) : (system tool succeedWords m).1 = 0 := rfl
  rw [evaluate_refreshGroup]
  rcases system tool lookupWords m with ⟨_ | found, m⟩
  · rcases hrefresh : system tool refreshWords m with ⟨_ | refreshed, m⟩
    · simp only [hrefresh]
    · simp only [hrefresh, hsucceed]
  · simp only [hsucceed]

/-- An installation. -/
theorem install_eq (tool : Option (RefreshTool β)) (p : Path) (m : FileSystem × β) :
    (install (system tool).runner .linux p m).1 = (installation m.1 p).1
      ∧ (install (system tool).runner .linux p m).2.1 = (installation m.1 p).2 := by
  have hinstall : install (system tool).runner .linux p m
      = (((system tool).evaluate 0 (installScript p) m).1 == 0,
        ((system tool).evaluate 0 (installScript p) m).2) := by
    rw [install, tryInstall_linux]
    rfl
  rw [hinstall, installScript, evaluate_installList (quotedWord_quotes _), system_makeWords,
    installation]
  -- the directory, and then the copy, decide; the refresh always ends with zero
  rcases m.1.makeDirectories directoryPath with ⟨_ | _, made⟩
  · exact ⟨rfl, rfl⟩
  · have hcp :
      Host.cp Host.outside.input [Text.decodeLossy p.bytes, linuxCertificate.toList] made = _ :=
      cp_argument p made
    simp only [system_copyWords, hcp]
    cases copied made p with
    | none => exact ⟨rfl, rfl⟩
    | some after => exact ⟨beq_iff_eq.mpr (refreshGroup_status tool _), refreshGroup_files tool _⟩

/-- The content is at the path of the copy, and besides it there are no more than new
    directories. -/
structure CopiesExactly (before after : FileSystem) (target : Location) (content : List UInt8) :
    Prop where
  read : after.read copyPath = .ok content
  others : ∃ made, FileSystem.Furnished before made ∧ FileSystem.Gains made after target content

/-- The directory of copies can be made, and there is room in it for the copy of a file. -/
def HasRoom (fs : FileSystem) (source target : Location) : Prop :=
  ∃ made, fs.makeDirectories directoryPath = (.ok (), made) ∧ Room made source copyPath target

/-- After the copy there is one file more, where the path of the copy leads. -/
theorem gains_copyPath (hwritable : made.placeToWrite copyPath = .ok target) (content : List UInt8)
    (mode : Nat) : FileSystem.Gains made (made.putFile target content mode) target content
      ∧ (made.putFile target content mode).find copyPath = .ok target := by
  have hstart : made.startOf copyPath = [] := by
    have hroot : copyPath.isAbsolute = true := by decide +kernel
    rw [FileSystem.startOf, if_pos hroot]
  refine FileSystem.gains_of_placeToWrite ?_ ?_ hwritable content mode
  · rw [hstart]
    exact FileSystem.isDirectoryAt_root made
  · rw [hstart]
    trivial

/-- A file whose path is taken as it is is copied, where there is room for it. -/
theorem installation_of_faithful (h : Faithful p) (hleads : LeadsToFile fs p place content)
    (hroom : HasRoom fs place target) :
    (installation fs p).1 = true ∧ CopiesExactly fs (installation fs p).2 target content := by
  obtain ⟨mode, hfile⟩ := hleads.file
  obtain ⟨made, hmake, hroom⟩ := hroom
  have hgrows := FileSystem.grows_makeDirectories fs directoryPath
  have hfurnished := FileSystem.furnished_makeDirectories fs directoryPath
  rw [hmake] at hgrows hfurnished
  have hcopied : copied made p = some (made.putFile target content mode) := by
    rw [copied, h.isOperand, h.pathOf_argument]
    exact Host.copyOne_of_room (hgrows.find hleads.find) (hfurnished.at? hfile) hroom
  obtain ⟨hgains, hfound⟩ := gains_copyPath hroom.writable content mode
  have hinstallation : installation fs p = (true, made.putFile target content mode) := by
    rw [installation, hmake]
    simp only [hcopied]
    rfl
  obtain ⟨kept, hcopy⟩ := hgains.holds
  rw [hinstallation]
  exact ⟨rfl, FileSystem.read_of_find hfound hcopy, made, hfurnished, hgains⟩

/-- Taken for an option, the path makes the installation fail, and nothing is copied. -/
theorem installation_of_option (h : isOption (argument p) = true) :
    (installation fs p).1 = false ∧ FileSystem.Furnished fs (installation fs p).2 := by
  have hfurnished := FileSystem.furnished_makeDirectories fs directoryPath
  have hcopied (made : FileSystem) : copied made p = none := by rw [copied, if_pos h]
  rw [installation]
  revert hfurnished
  rcases fs.makeDirectories directoryPath with ⟨_ | _, made⟩
  · exact fun _ => ⟨rfl, .refl fs⟩
  · simp only [hcopied]
    exact fun hfurnished => ⟨rfl, hfurnished⟩

/-- What an installation of the authority at a path comes to, where the path leads to a file. -/
structure Installed (before : FileSystem) (p : Path) (place : Location) (content : List UInt8)
    (ok : Bool) (after : FileSystem) : Prop where
  eq : (ok, after) = installation before p
  exactly : Faithful p → ∀ target, HasRoom before place target →
    ok = true ∧ CopiesExactly before after target content
  /-- Taken for an option, the path is copied nowhere. -/
  nothing : isOption (argument p) = true → ok = false ∧ FileSystem.Furnished before after

/-- An installation of a file that the configured path leads to, over every system. -/
theorem installed_installCa (hleads : LeadsToFile fs p place content)
    (tool : Option (RefreshTool β)) {config : Config} (hcert : config.ca.certPath = p)
    (draw : Authority.Draw) (now : Moment) (b : β) :
    ∃ ok after, (Controller.mk config .linux).installCa (system tool).runner draw now fs (fs, b)
        = (.ok ok, fs, after)
      ∧ Installed fs p place content ok after.1 := by
  have hensure : (Controller.mk config .linux).ensureCa draw now fs
      = (.ok .alreadyPresent, fs) := by
    rw [Controller.ensureCa, hcert]
    exact Authority.ensureFiles_of_exists (FileSystem.pathExists_iff.mpr ⟨place, hleads.find⟩)
      draw now _
  obtain ⟨hok, hafter⟩ := install_eq tool p (fs, b)
  refine ⟨_, _, installCa_of_ensured hensure (by rw [hcert]), ?_⟩
  rw [hok, hafter]
  exact ⟨rfl, fun h target hroom => installation_of_faithful h hleads hroom, installation_of_option⟩

/-! ## Main statement -/

/-- Two such paths with one text are one path. -/
theorem Faithful.eq_of_argument_eq (hp : Faithful p) (hq : Faithful q)
    (h : argument p = argument q) : p = q := by
  rw [← hp.pathOf_argument, ← hq.pathOf_argument, h]

/-- A path that leads to a file.  Its commands are those of all paths with the same text, of which
    no other one is the same text in UTF-8 without a dash in front.  A removal takes exactly the
    entry that the path names away, which is the file or a link, if and only if the text names it
    as an operand, and an installation copies what the text leads to as an operand; both act on
    the file itself if its path is such a text, and on nothing if the text is taken for an
    option. -/
theorem scripts_act_on_named_file (hleads : LeadsToFile fs p place content)
    (tool : Option (RefreshTool β)) (b : β) :
    (∀ q, (installCommand .linux p = installCommand .linux q ↔ argument p = argument q)
        ∧ (∀ f g, uninstallCommand .linux f (some p) = uninstallCommand .linux g (some q)
          ↔ argument p = argument q)
        ∧ (Faithful p → Faithful q → argument p = argument q → p = q))
      ∧ (∃ entry, NamesEntry fs p entry ∧ (entry = place ∨ ∃ link, fs.at? entry = some (.link link))
        ∧ ∀ config given, Removed fs
          ((Controller.mk config .linux).uninstallCa (system tool).runner fs
            given (some p) (fs, b)).2.1 p entry)
      ∧ ∀ config draw now, config.ca.certPath = p →
        ∃ ok after, (Controller.mk config .linux).installCa (system tool).runner draw now fs (fs, b)
            = (.ok ok, fs, after)
          ∧ Installed fs p place content ok after.1 := by
  refine ⟨fun q => ⟨installCommand_eq_iff, fun f g => uninstallCommand_eq_iff, ?_⟩, ?_, ?_⟩
  · exact fun hp hq h => hp.eq_of_argument_eq hq h
  · obtain ⟨entry, hnamed, hentry⟩ := hleads.exists_entry
    exact ⟨entry, hnamed, hentry, fun config given =>
      removed_uninstallCa hnamed tool config given b⟩
  · exact fun config draw now hcert => installed_installCa hleads tool hcert draw now b

/-! ## Two files -/

/-- A file whose name the shell has to be kept from reading. -/
def quotedFiles : FileSystem := .oneFile "the 'ca'.crt" [1]

/-- A file whose name looks like an option. -/
def dashFiles : FileSystem := .oneFile "-f" [1]

/-- A configuration whose authority is in such a file. -/
def quotedConfig : Config :=
  { Config.default with ca := { CaConfig.default with certPath := Path.ofString "the 'ca'.crt" } }

theorem hasRoom_quoted :
    HasRoom quotedFiles [Text.encodeUtf8 "the 'ca'.crt".toList] copyPlace := by
  have hmade : (quotedFiles.makeDirectories directoryPath).1 = .ok () :=
    toOption_eq_some_iff.mp (by decide +kernel)
  exact ⟨(quotedFiles.makeDirectories directoryPath).2, by rw [← hmade],
    { noDirectory := by decide +kernel
      writable := toOption_eq_some_iff.mp (by decide +kernel)
      apart := fun h => absurd (toOption_eq_some_iff.mpr h) (by decide +kernel)
      noDangling := by decide +kernel }⟩

/-- A path with blanks and quotes is acted on as it is. -/
theorem scripts_act_on_named_file_quoted :
    LeadsToFile quotedFiles (Path.ofString "the 'ca'.crt")
        [Text.encodeUtf8 "the 'ca'.crt".toList] [1]
      ∧ TakesExactly quotedFiles
        ((Controller.mk quotedConfig .linux).uninstallCa (system (some quietTool)).runner
          quotedFiles none (some (Path.ofString "the 'ca'.crt"))
          (quotedFiles, ())).2.1
        [Text.encodeUtf8 "the 'ca'.crt".toList]
      ∧ ∃ after, (Controller.mk quotedConfig .linux).installCa (system (some quietTool)).runner
          smallDraw newYear quotedFiles (quotedFiles, ())
          = (.ok true, quotedFiles, after)
        ∧ CopiesExactly quotedFiles after.1 copyPlace [1] := by
  have hleads : LeadsToFile quotedFiles (Path.ofString "the 'ca'.crt")
      [Text.encodeUtf8 "the 'ca'.crt".toList] [1] :=
    ⟨toOption_eq_some_iff.mp (by decide +kernel), 0o644, by decide +kernel⟩
  have hnames : quotedFiles.Names (Path.ofString "the 'ca'.crt")
      [Text.encodeUtf8 "the 'ca'.crt".toList] :=
    ⟨false, toOption_eq_some_iff.mp (by decide +kernel)⟩
  have hfaithful : Faithful (Path.ofString "the 'ca'.crt") := ⟨"the 'ca'.crt".toList, rfl, rfl⟩
  obtain ⟨-, ⟨entry, hnamed, -, hremove⟩, hinstall⟩ :=
    scripts_act_on_named_file hleads (some quietTool) ()
  obtain rfl := hnamed.names.unique hnames
  obtain ⟨ok, after, hserved, hinstalled⟩ := hinstall quotedConfig smallDraw newYear rfl
  obtain ⟨rfl, hcopies⟩ := hinstalled.exactly hfaithful copyPlace hasRoom_quoted
  exact ⟨hleads, (hremove quotedConfig none).exactly hfaithful, after, hserved, hcopies⟩

/-- A file whose name is taken for an option stays, and the removal says that it worked.  Two
    files may even have one command. -/
theorem dash_file_stays :
    LeadsToFile dashFiles (Path.ofString "-f") [Text.encodeUtf8 "-f".toList] [1]
      ∧ (Controller.mk Config.default .linux).uninstallCa (system (some quietTool)).runner
        dashFiles none
          (some (Path.ofString "-f")) (dashFiles, ()) = (true, dashFiles, ())
      ∧ dashFiles.read (Path.ofString "-f") = .ok [1]
      ∧ uninstallCommand .linux none (some ⟨[0xFF]⟩)
        = uninstallCommand .linux none (some ⟨[0xEF, 0xBF, 0xBD]⟩) := by
  have hleads : LeadsToFile dashFiles (Path.ofString "-f") [Text.encodeUtf8 "-f".toList] [1] :=
    ⟨toOption_eq_some_iff.mp (by decide +kernel), 0o644, by decide +kernel⟩
  have hscript :
      (system (some quietTool)).evaluate 0 (uninstallScript (Path.ofString "-f")) (dashFiles, ())
      = (0, dashFiles, ()) := by
    decide +kernel
  have hread : dashFiles.read (Path.ofString "-f") = .ok [1] := by
    obtain ⟨mode, hfile⟩ := hleads.file
    exact FileSystem.read_of_find hleads.find hfile
  refine ⟨hleads, ?_, hread, uninstallCommand_eq_iff.mpr (by decide +kernel)⟩
  rw [uninstallCa_given, hscript]
  rfl

end ProxyTrust.TrustStore
