/-
  How a shell reads the scripts of the trust store.

  A path stands in a script as a row of single-quoted pieces, with an escaped quote between two of
  them wherever the path holds one.

  1. **The word** — `quotedWord s` is what the reader makes of such a row.  The crux is
     `feed_quotedChars`: between the outer quotes the scanner is inside a single-quoted piece
     before and after every character of the text, so that no character is ever read outside
     quotes.  It is an induction on the text, with one step for each character, a quote or any
     other.

  2. **The fixed parts** — what stands before the path and behind it is the same for all paths, so
     that the scanner is run over it once.  It stops right in front of the quotation and goes on
     right behind it.

  3. **The scripts** — `installList` and `uninstallList` are the two and-lists with a place for
     one word.  `linux_scripts_read_as_lists` is the main statement: whatever the path, each
     script reads as its list, and the word in the place is a quotation of the path.
-/
import ProxyTrust.Proofs.Shell.Scanning
import ProxyTrust.TrustStore

namespace ProxyTrust.TrustStore

open Shell (Piece Quotes Scanner Token Word feed plainWord)

/-! ## The word -/

/-- What the reader makes of one character of a quoted text. -/
def quotedPieces (c : Char) : List Piece := if c = '\'' then [.quoted '\'', .mark] else [.quoted c]

/-- What the reader makes of a quoted text. -/
def quotedWord (s : List Char) : Word := .mark :: s.flatMap quotedPieces

/-- Every piece is under quotes or escaped. -/
theorem quotedPieces_protected (c : Char) : ∀ piece ∈ quotedPieces c, piece.isProtected = true := by
  intro piece hpiece
  rw [quotedPieces] at hpiece
  split at hpiece
  · rcases List.mem_cons.mp hpiece with rfl | hpiece
    · rfl
    · rw [List.mem_singleton.mp hpiece]; rfl
  · rw [List.mem_singleton.mp hpiece]; rfl

theorem literal_quotedPieces (c : Char) : Shell.literal (quotedPieces c) = [c] := by
  rw [quotedPieces]
  split
  · next hc => rw [hc]; rfl
  · rfl

/-- Together the pieces say the text. -/
theorem literal_flatMap_quotedPieces (s : List Char) :
    Shell.literal (s.flatMap quotedPieces) = s := by
  induction s with
  | nil => rfl
  | cons c s ih =>
    have happend : Shell.literal (quotedPieces c ++ s.flatMap quotedPieces)
        = Shell.literal (quotedPieces c) ++ Shell.literal (s.flatMap quotedPieces) := by
      simp only [Shell.literal, List.flatMap_append]
    rw [List.flatMap_cons, happend, literal_quotedPieces, ih]
    rfl

/-- The word of a text is a quotation of it, also where the text is empty. -/
theorem quotedWord_quotes (s : List Char) : Quotes (quotedWord s) s := by
  have hprotected : ∀ piece ∈ s.flatMap quotedPieces, piece.isProtected = true := by
    intro piece hpiece
    obtain ⟨c, -, hpiece⟩ := List.mem_flatMap.mp hpiece
    exact quotedPieces_protected c piece hpiece
  have hquotes := Shell.quotes_mark hprotected
  rwa [literal_flatMap_quotedPieces] at hquotes

/-! ## Reading it -/

/-- One character of a text between the outer quotes: the scanner is inside a single-quoted piece
    again when it has read it, even if that took a way through an escaped quote. -/
theorem feed_quotedChar (c : Char) (pieces : List Piece) :
    feed ⟨.single, some pieces⟩ (quotedChar c)
      = some (⟨.single, some ((quotedPieces c).reverse ++ pieces)⟩, []) := by
  rw [quotedChar, quotedPieces]
  by_cases hc : c = '\''
  · rw [if_pos hc, if_pos hc]
    rfl
  · rw [if_neg hc, if_neg hc]
    simp [feed, Scanner.step, Scanner.grow, hc]

/-- The text between the outer quotes. -/
theorem feed_quotedChars (s : List Char) (pieces : List Piece) :
    feed ⟨.single, some pieces⟩ (s.flatMap quotedChar)
      = some (⟨.single, some ((s.flatMap quotedPieces).reverse ++ pieces)⟩, []) := by
  induction s generalizing pieces with
  | nil => rfl
  | cons c s ih =>
    rw [List.flatMap_cons, Shell.feed_append, feed_quotedChar, Option.bind_some, ih]
    simp

/-- A quoted text in the place of a word: no token ends in it, and it leaves one word in the
    making. -/
theorem feed_quote (s : List Char) :
    feed .start (quote s) = some (⟨.bare, some (quotedWord s).reverse⟩, []) := by
  have hopen : feed .start ['\''] = some (⟨.single, some [.mark]⟩, []) := rfl
  have hclose (pieces : List Piece) :
      feed ⟨.single, some pieces⟩ ['\''] = some (⟨.bare, some pieces⟩, []) := rfl
  rw [quote, Shell.feed_append, Shell.feed_append, hopen, Option.bind_some, feed_quotedChars]
  simp [hclose, quotedWord]

/-- A quoted text with a space after it is one word, whatever stands before and after the two. -/
theorem scan_quote (s rest : List Char) :
    Shell.scan .start (quote s ++ ' ' :: rest)
      = (Shell.scan .start rest).map (.word (quotedWord s) :: ·) := by
  have hspace : feed ⟨.bare, some (quotedWord s).reverse⟩ [' ']
      = some (.start, [.word (quotedWord s).reverse.reverse]) := rfl
  have hfront : feed .start (quote s ++ [' ']) = some (.start, [.word (quotedWord s)]) := by
    rw [Shell.feed_append, feed_quote, Option.bind_some, hspace, List.reverse_reverse]
    rfl
  rw [List.append_cons, Shell.scan_append rest hfront]
  rfl

/-! ## The scripts -/

/-- A word without quoting. -/
def bareWord (s : String) : Word := plainWord s.toList

/-- The name of the tool that refreshes the trust store. -/
def refreshName : String := "update-ca-certificates"

/-- The tool is asked for, with what is printed about that thrown away. -/
def refreshLookup : Shell.Script :=
  .simple [bareWord "command", bareWord "-v", bareWord refreshName]
    [⟨1, .write, bareWord "/dev/null"⟩, ⟨2, .duplicate, bareWord "1"⟩]

/-- The tool where there is one, and success in any case. -/
def refreshGroup : Shell.Script :=
  .orElse (.andThen refreshLookup (.simple [bareWord refreshName, bareWord "--fresh"] []))
    (.simple [bareWord "true"] [])

/-- The list that installs a certificate, which stands in the place of one word. -/
def installList (certificate : Word) : Shell.Script :=
  .andThen
    (.andThen (.simple [bareWord "mkdir", bareWord "-p", bareWord linuxDirectory] [])
      (.simple [bareWord "cp", certificate, bareWord linuxCertificate] []))
    (.subshell refreshGroup [])

/-- The list that removes a certificate, which stands in the place of one word. -/
def uninstallList (installed : Word) : Shell.Script :=
  .andThen (.simple [bareWord "rm", bareWord "-f", installed] [])
    (.simple [bareWord refreshName] [])

/-- The tokens up to the certificate. -/
theorem feed_installFront :
    feed .start ("mkdir -p ".toList ++ linuxDirectory.toList ++ " && cp ".toList)
      = some
        (.start, [.word (bareWord "mkdir"), .word (bareWord "-p"), .word (bareWord linuxDirectory),
          .andThen, .word (bareWord "cp")]) := by
  decide +kernel

/-- The tokens after the certificate and the space behind it. -/
theorem scan_installRest :
    Shell.scan .start (linuxCertificate.toList ++ (" && ".toList ++ linuxRefresh.toList))
      = some [.word (bareWord linuxCertificate), .andThen, .opening, .word (bareWord "command"),
          .word (bareWord "-v"), .word (bareWord refreshName), .redirect 1 .write,
          .word (bareWord "/dev/null"), .redirect 2 .duplicate, .word (bareWord "1"), .andThen,
          .word (bareWord refreshName), .word (bareWord "--fresh"), .orElse,
          .word (bareWord "true"), .closing] := by
  decide +kernel

/-- The tokens up to the path to be removed. -/
theorem feed_uninstallFront :
    feed .start "rm -f ".toList
      = some (.start, [.word (bareWord "rm"), .word (bareWord "-f")]) := by
  decide +kernel

/-- The tokens after the path to be removed and the space behind it. -/
theorem scan_uninstallRest :
    Shell.scan .start "&& update-ca-certificates".toList
      = some [.andThen, .word (bareWord refreshName)] := by
  decide +kernel

/-- The script that installs, read by a shell. -/
theorem ofText?_linuxInstallScript (certificate : Path) :
    Shell.ofText? (linuxInstallScript certificate).toList
      = some (installList (quotedWord (Text.decodeLossy certificate.bytes))) := by
  have htext : (linuxInstallScript certificate).toList
      = ("mkdir -p ".toList ++ linuxDirectory.toList ++ " && cp ".toList)
        ++ (quote (Text.decodeLossy certificate.bytes) ++ ' ' :: (linuxCertificate.toList
          ++ (" && ".toList ++ linuxRefresh.toList))) := by
    simp only [linuxInstallScript, quotePath, String.toList_append, String.toList_ofList,
      List.append_assoc]
    rfl
  rw [Shell.ofText?, Shell.tokens?, htext, Shell.scan_append _ feed_installFront, scan_quote,
    scan_installRest]
  -- the tokens are all known but for one word, and the reader of lists never looks into that one
  rfl

/-- The script that removes, read by a shell. -/
theorem ofText?_linuxUninstallScript (installed : Path) :
    Shell.ofText? (linuxUninstallScript installed).toList
      = some (uninstallList (quotedWord (Text.decodeLossy installed.bytes))) := by
  have htext : (linuxUninstallScript installed).toList
      = "rm -f ".toList
        ++ (quote (Text.decodeLossy installed.bytes)
          ++ ' ' :: "&& update-ca-certificates".toList) := by
    simp only [linuxUninstallScript, quotePath, String.toList_append, String.toList_ofList,
      List.append_assoc]
    rfl
  rw [Shell.ofText?, Shell.tokens?, htext, Shell.scan_append _ feed_uninstallFront, scan_quote,
    scan_uninstallRest]
  rfl

/-! ## Main statement -/

/-- Whatever the bytes of the paths are, a shell reads the two scripts as the two lists, with one
    word in the place of the path: a quotation of the text of the path, and nothing else of the
    list depends on the path.  The path to be removed is the one given, and nothing else decides
    about that script. -/
theorem linux_scripts_read_as_lists (certificate installed : Path)
    (fingerprint : Option Fingerprint) :
    (∃ script w, installCommand .linux certificate = .ok (shell script)
      ∧ Quotes w (Text.decodeLossy certificate.bytes)
      ∧ Shell.ofText? script.toList = some (installList w))
    ∧ (∃ script w, uninstallCommand .linux fingerprint (some installed) = .ok (shell script)
      ∧ Quotes w (Text.decodeLossy installed.bytes)
      ∧ Shell.ofText? script.toList = some (uninstallList w)) := by
  constructor
  · exact ⟨linuxInstallScript certificate, _, rfl, quotedWord_quotes _,
      ofText?_linuxInstallScript certificate⟩
  · exact ⟨linuxUninstallScript installed, _, rfl, quotedWord_quotes _,
      ofText?_linuxUninstallScript installed⟩

end ProxyTrust.TrustStore
