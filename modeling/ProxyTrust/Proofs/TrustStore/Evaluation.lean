/-
  What the scripts of the trust store come to, over any programs.

  1. **Commands** — the words of a list expand to these commands, where the quoted word gives one
     argument.  The path is a word of quoted pieces alone, so that no parameter of the shell has a
     part in it.

  2. **Lists** — `evaluate_installList` and `evaluate_uninstallList` tell the status of the two
     lists and the state that they leave by the commands alone: the first one that fails ends the
     list with its status.  The refresh is the exception, which stands in a group that ends with
     `|| true`.

  3. **Operations** — on Linux the two operations of the trust store evaluate their list once, and
     they succeed where its status is zero.  So whatever is said about a list is said about the
     operation.
-/
import ProxyTrust.Proofs.Shell.Programs
import ProxyTrust.Proofs.TrustStore.Quoting

namespace ProxyTrust.TrustStore

open Shell (Programs Quotes Word expand expand_cons fields fields_plainWord)

variable {σ : Type} {programs : Programs σ}

/-! ## Commands -/

/-- The command that makes the directory. -/
def makeWords : List (List Char) := ["mkdir".toList, "-p".toList, linuxDirectory.toList]

/-- The command that copies a certificate. -/
def copyWords (certificate : List Char) : List (List Char) :=
  ["cp".toList, certificate, linuxCertificate.toList]

/-- The command that looks up the tool. -/
def lookupWords : List (List Char) := ["command".toList, "-v".toList, refreshName.toList]

/-- The command that runs the tool afresh. -/
def refreshWords : List (List Char) := [refreshName.toList, "--fresh".toList]

/-- The command that succeeds. -/
def succeedWords : List (List Char) := ["true".toList]

/-- The command that removes a file. -/
def removeWords (installed : List Char) : List (List Char) := ["rm".toList, "-f".toList, installed]

/-- The command that runs the tool. -/
def updateWords : List (List Char) := [refreshName.toList]

/-- The word in the place of the path is one argument of the copy. -/
theorem expand_copyWords {w : Word} {text : List Char} (hw : Quotes w text) (last : Nat) :
    expand last [bareWord "cp", w, bareWord linuxCertificate] = copyWords text := by
  have hname : fields (Host.outside.value last) (bareWord "cp") = ["cp".toList] :=
    fields_plainWord _ (by decide)
  rw [expand_cons hname, expand_cons (hw.fields_eq _)]
  rfl

/-- It is one argument of the removal. -/
theorem expand_removeWords {w : Word} {text : List Char} (hw : Quotes w text) (last : Nat) :
    expand last [bareWord "rm", bareWord "-f", w] = removeWords text := by
  have hname : fields (Host.outside.value last) (bareWord "rm") = ["rm".toList] :=
    fields_plainWord _ (by decide)
  have hforce : fields (Host.outside.value last) (bareWord "-f") = ["-f".toList] :=
    fields_plainWord _ (by decide)
  rw [expand_cons hname, expand_cons hforce, expand_cons (hw.fields_eq _)]
  rfl

/-! ## Lists -/

/-- The parentheses: the tool where the lookup succeeds, and the last command where one of the two
    fails. -/
theorem evaluate_refreshGroup (programs : Programs σ) (s : σ) :
    programs.evaluate 0 refreshGroup s =
      match programs lookupWords s with
      | (0, s) =>
        match programs refreshWords s with
        | (0, s) => (0, s)
        | (_ + 1, s) => programs succeedWords s
      | (_ + 1, s) => programs succeedWords s := by
  have hlookup : programs.evaluate 0 refreshLookup s = programs lookupWords s := rfl
  have hrefresh (s : σ) :
      programs.evaluate 0 (.simple [bareWord refreshName, bareWord "--fresh"] []) s
      = programs refreshWords s := rfl
  rw [refreshGroup, Programs.evaluate, Programs.evaluate, hlookup]
  rcases programs lookupWords s with ⟨_ | found, s⟩
  · simp only [hrefresh]
    rcases programs refreshWords s with ⟨_ | refreshed, s⟩ <;> rfl
  · rfl

/-- The list that installs: the directory, the copy, the parentheses. -/
theorem evaluate_installList {w : Word} {certificate : List Char}
    (hw : Quotes w certificate) (s : σ) : programs.evaluate 0 (installList w) s =
      match programs makeWords s with
      | (0, s) =>
        match programs (copyWords certificate) s with
        | (0, s) => programs.evaluate 0 refreshGroup s
        | (copied + 1, s) => (copied + 1, s)
      | (made + 1, s) => (made + 1, s) := by
  have hmake : programs.evaluate 0
      (.simple [bareWord "mkdir", bareWord "-p", bareWord linuxDirectory] []) s
        = programs makeWords s := rfl
  have hcopy (s : σ) : programs.evaluate 0
      (.simple [bareWord "cp", w, bareWord linuxCertificate] []) s
        = programs (copyWords certificate) s := by
    rw [Programs.evaluate, expand_copyWords hw]
    rfl
  rw [installList, Programs.evaluate, Programs.evaluate, hmake]
  rcases programs makeWords s with ⟨_ | made, s⟩
  · simp only [hcopy]
    rcases programs (copyWords certificate) s with ⟨_ | copied, s⟩ <;> rfl
  · rfl

/-- The list that removes: the removal, the tool. -/
theorem evaluate_uninstallList {w : Word} {installed : List Char}
    (hw : Quotes w installed) (s : σ) : programs.evaluate 0 (uninstallList w) s =
      match programs (removeWords installed) s with
      | (0, s) => programs updateWords s
      | (removed + 1, s) => (removed + 1, s) := by
  have hremove : programs.evaluate 0 (.simple [bareWord "rm", bareWord "-f", w] []) s
      = programs (removeWords installed) s := by
    rw [Programs.evaluate, expand_removeWords hw]
    rfl
  rw [uninstallList, Programs.evaluate, hremove]
  rcases programs (removeWords installed) s with ⟨_ | removed, s⟩ <;> rfl

/-! ## Operations -/

/-- The list that installs a certificate. -/
def installScript (certificate : Path) : Shell.Script :=
  installList (quotedWord (Text.decodeLossy certificate.bytes))

/-- The list that removes a certificate. -/
def uninstallScript (installed : Path) : Shell.Script :=
  uninstallList (quotedWord (Text.decodeLossy installed.bytes))

/-- An installation on Linux evaluates its list once. -/
theorem tryInstall_linux (programs : Programs σ) (certificate : Path) (s : σ) :
    tryInstall programs.runner .linux certificate s
      = (.ok ((programs.evaluate 0 (installScript certificate) s).1 == 0),
        (programs.evaluate 0 (installScript certificate) s).2) :=
  programs.runSucceeded_script (ofText?_linuxInstallScript certificate) s

/-- So does a removal, whatever fingerprint is given. -/
theorem tryUninstall_linux (programs : Programs σ) (fingerprint : Option Fingerprint)
    (installed : Option Path) (s : σ) :
    tryUninstall programs.runner .linux fingerprint installed s
      = (.ok ((programs.evaluate 0
            (uninstallScript (installed.getD (Path.ofString linuxCertificate))) s).1 == 0),
        (programs.evaluate 0
          (uninstallScript (installed.getD (Path.ofString linuxCertificate))) s).2) :=
  programs.runSucceeded_script (ofText?_linuxUninstallScript _) s

end ProxyTrust.TrustStore
