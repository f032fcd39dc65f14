/-
  A configuration that was written, read again.

  1. **Fields** — a path that is a text is written as that text, and a document of a configuration
     is a row of strings with one table of strings after them (`document?_spelled`).  Only paths
     can fail to be a text; the other fields always are one.

  2. **Reading** — the document is read as the pairs that it was written from
     (`Toml.parse?_written`), and every string sets the field that it was written for.  A field
     that is left out keeps what an empty document gives: nothing for the platform and the
     installed path, but a path for the key.

  3. **The round trip** — so the document tells the configuration exactly if it has a key path
     (`document_tells_unless_keyless`).  `keyless_gets_key` is a configuration without one, which
     comes back with the path at which a key is written.
-/
import ProxyTrust.Config.File
import ProxyTrust.Proofs.Files.Growth
import ProxyTrust.Proofs.Text.Decoding
import ProxyTrust.Proofs.Toml.Document

namespace ProxyTrust.Config

open Toml (Bare Entries Node assignments strings titled written writtenPair)

/-! ## Fields -/

/-- The path of a row of characters. -/
def spell (text : List Char) : Path := ⟨Text.encodeUtf8 text⟩

/-- The path is a text. -/
def IsText (p : Path) : Prop := ∃ text, p = spell text

/-- The paths of a configuration. -/
def paths (config : Config) : List Path :=
  [config.logPath, config.ca.certPath] ++ config.ca.keyPath.toList ++ config.ca.installedPath.toList

/-- A path that is a text has a spelling. -/
theorem exists_spelling {o : Option Path} (h : ∀ p ∈ o, IsText p) :
    ∃ text, o = Option.map spell text := by
  cases o with
  | none => exact ⟨none, rfl⟩
  | some p =>
    obtain ⟨text, rfl⟩ := h p rfl
    exact ⟨some text, rfl⟩

theorem pathLine?_spell (name : String) (text : List Char) :
    pathLine? name (spell text) = some (writtenPair name text) := by
  rw [pathLine?, spell, Text.decodeUtf8?_encodeUtf8]
  rfl

/-- The names and strings before the table. -/
def outerPairs (listen : Endpoint) (log : List Char) (platform : Option String) :
    List (String × List Char) :=
  [("listen", listen.chars), ("log_path", log)] ++ platform.toList.map fun name =>
    ("platform", name.toList)

/-- The names and strings of the authority's table. -/
def innerPairs (cert : List Char) (key installed : Option (List Char)) :
    List (String × List Char) :=
  [("cert_path", cert)] ++ key.toList.map (("key_path", ·)) ++ installed.toList.map
    (("installed_path", ·))

variable {listen : Endpoint} {log cert : List Char} {platform : Option String}
  {key installed : Option (List Char)}

/-- A configuration whose paths are texts. -/
def spelled (listen : Endpoint) (log : List Char) (platform : Option String) (cert : List Char)
    (key installed : Option (List Char)) : Config :=
  ⟨listen, spell log, platform, spell cert, key.map spell, installed.map spell⟩

theorem optionalLine?_spell (name : String) (text : Option (List Char)) :
    optionalLine? name (text.map spell) = some (assignments (text.toList.map ((name, ·)))) := by
  cases text with
  | none => rfl
  | some text =>
    rw [Option.map_some, optionalLine?, pathLine?_spell]
    simp [assignments]

/-- The document of a configuration is the row of its strings, with the table of the authority
    after them. -/
theorem document?_spelled (listen : Endpoint) (log : List Char) (platform : Option String)
    (cert : List Char) (key installed : Option (List Char)) :
    document? (spelled listen log platform cert key installed)
      = some (written (outerPairs listen log platform) "ca" (innerPairs cert key installed)) := by
  have hname : "ca".toList = ['c', 'a'] := rfl
  simp only [document?, spelled, pathLine?_spell, optionalLine?_spell, Option.bind_eq_bind,
    Option.bind_some, Option.pure_def, written, titled, outerPairs, innerPairs, hname]
  cases platform <;> simp [assignments]

theorem bare_outerPairs : ∀ e ∈ outerPairs listen log platform, Bare e.1 := by
  have hlisten : Bare "listen" := Toml.bare_of_all (by decide) (by decide)
  have hlog : Bare "log_path" := Toml.bare_of_all (by decide) (by decide)
  have hplatform : Bare "platform" := Toml.bare_of_all (by decide) (by decide)
  cases platform <;> simp [outerPairs, hlisten, hlog, hplatform]

theorem bare_innerPairs : ∀ e ∈ innerPairs cert key installed, Bare e.1 := by
  have hcert : Bare "cert_path" := Toml.bare_of_all (by decide) (by decide)
  have hkey : Bare "key_path" := Toml.bare_of_all (by decide) (by decide)
  have hinstalled : Bare "installed_path" := Toml.bare_of_all (by decide) (by decide)
  cases key <;> cases installed <;> simp [innerPairs, hcert, hkey, hinstalled]

/-- The document of a configuration is read as its strings and the authority's table. -/
theorem parse?_document (listen : Endpoint) (log : List Char) (platform : Option String)
    (cert : List Char) (key installed : Option (List Char)) :
    Toml.parse? (written (outerPairs listen log platform) "ca" (innerPairs cert key installed))
      = some (strings (outerPairs listen log platform)
        ++ [("ca", .table .headed (strings (innerPairs cert key installed)))]) := by
  refine Toml.parse?_written bare_outerPairs
    (Toml.bare_of_all (by decide) (by decide)) bare_innerPairs ?_ ?_ ?_
  · cases platform <;> simp [outerPairs]
  · cases key <;> cases installed <;> simp [innerPairs]
  · cases platform <;> simp [outerPairs]

/-! ## Reading -/

theorem readPath_string (text : List Char) :
    readPath (.string (String.ofList text)) = .ok (spell text) := by
  rw [readPath, Path.ofString, String.toList_ofList, spell]

theorem readEndpoint_string (h : Endpoint.ofText listen.text = .ok listen) :
    readEndpoint (.string (String.ofList listen.chars)) = .ok listen := by
  have hread : Endpoint.ofText (String.ofList listen.chars) = .ok listen := h
  rw [readEndpoint, readString]
  simp only [hread]

/-- The authority's part as its table tells it. -/
theorem readCa_strings (cert : List Char) (key installed : Option (List Char)) :
    readCa (.table .headed (strings (innerPairs cert key installed)))
      = .ok ⟨spell cert, (key.map spell).or CaConfig.default.keyPath, installed.map spell⟩ := by
  rw [readCa]
  cases key <;> cases installed <;>
    simp [innerPairs, strings, setCaAll, setCa, readPath_string, Except.map, CaConfig.default]

/-- The configuration as its document tells it: where there is no key path, the document tells the
    usual one. -/
def retold (config : Config) : Config :=
  { config with ca := { config.ca with keyPath := config.ca.keyPath.or CaConfig.default.keyPath } }

/-- Reading the pairs of a document sets each field to what was written for it. -/
theorem setAll_document (h : Endpoint.ofText listen.text = .ok listen) (log : List Char)
    (platform : Option String) (cert : List Char) (key installed : Option (List Char)) :
    setAll .default (strings (outerPairs listen log platform)
        ++ [("ca", .table .headed (strings (innerPairs cert key installed)))])
      = .ok (retold (spelled listen log platform cert key installed)) := by
  have hlisten := readEndpoint_string h
  have hca := readCa_strings cert key installed
  -- how the table reads is all that matters about it
  generalize Node.table .headed (strings (innerPairs cert key installed)) = table at hca ⊢
  cases platform <;>
    simp [outerPairs, strings, setAll, set, hlisten, hca, readPath_string, readString,
      Except.map, retold, spelled, Config.default]

/-! ## The round trip -/

/-- Nothing but the path of the key is told otherwise, and it is exactly if it was left out. -/
theorem retold_eq_iff (config : Config) : config.retold = config ↔ config.ca.keyPath ≠ none := by
  obtain ⟨listen, log, platform, cert, key, installed⟩ := config
  cases key with
  | none => simp [retold, CaConfig.default]
  | some p => simp [retold]

/-- What is read is loaded from a file that holds it. -/
theorem load_of_read {fs : FileSystem} {path : Path} {text : List Char} {config : Config}
    (hread : fs.read path = .ok (Text.encodeUtf8 text)) (htext : ofText text = .ok config) :
    load fs path = .ok config := by
  rw [load, FileSystem.exists_of_read hread, hread]
  simp only [Text.decodeUtf8?_encodeUtf8, htext]
  rfl

/-- A configuration whose endpoint can be told by its text and whose paths are texts can be
    written, and what was written is read. -/
theorem retold_of_document {config : Config}
    (hlisten : Endpoint.ofText config.listen.text = .ok config.listen)
    (hpaths : ∀ p ∈ config.paths, IsText p) :
    ∃ text, document? config = some text ∧ ofText text = .ok config.retold := by
  obtain ⟨listen, logPath, platform, certPath, keyPath, installedPath⟩ := config
  obtain ⟨log, rfl⟩ : IsText logPath := hpaths _ (by simp [paths])
  obtain ⟨cert, rfl⟩ : IsText certPath := hpaths _ (by simp [paths])
  obtain ⟨key, rfl⟩ : ∃ key, keyPath = Option.map spell key :=
    exists_spelling fun p hp => hpaths p (by simp [paths, Option.mem_def.mp hp])
  obtain ⟨installed, rfl⟩ : ∃ installed, installedPath = Option.map spell installed :=
    exists_spelling fun p hp => hpaths p (by simp [paths, Option.mem_def.mp hp])
  refine ⟨_, document?_spelled listen log platform cert key installed, ?_⟩
  rw [ofText, parse?_document]
  simp only [setAll_document hlisten]
  rfl

/-- The document of a configuration tells everything about it but that there is no key path: read
    from the text or loaded from a file, it is the configuration with the usual key path in the
    place of none.  So it comes back as it was exactly if it has a key path. -/
theorem document_tells_unless_keyless {config : Config}
    (hlisten : Endpoint.ofText config.listen.text = .ok config.listen)
    (hpaths : ∀ p ∈ config.paths, IsText p) :
    ∃ text, document? config = some text
      ∧ ofText text = .ok config.retold
      ∧ (∀ fs path, FileSystem.read fs path = .ok (Text.encodeUtf8 text) →
        load fs path = .ok config.retold)
      ∧ (ofText text = .ok config ↔ config.ca.keyPath ≠ none) := by
  obtain ⟨text, htext, hread⟩ := retold_of_document hlisten hpaths
  refine ⟨text, htext, hread, fun fs path hfile => load_of_read hfile hread, ?_⟩
  rw [hread, Except.ok.injEq]
  exact retold_eq_iff config

/-! ## A configuration without a key -/

/-- A configuration with all that can be left out but the key, in which nothing is easily
    written. -/
def fullConfig : Config :=
  ⟨⟨"proxy.local", 3128⟩, Path.ofString "log \"1\"\n", some "lin\\ux", Path.ofString "ca\x01ä.pem",
    some (Path.ofString ""), some (Path.ofString "[ca]")⟩

/-- A configuration with all its fields is told. -/
theorem document_tells_unless_keyless_full :
    ∃ text, document? fullConfig = some text ∧ ofText text = .ok fullConfig := by
  have hlisten : Endpoint.ofText fullConfig.listen.text = .ok fullConfig.listen := rfl
  have hpaths : ∀ p ∈ fullConfig.paths, IsText p := by
    intro p hp
    simp only [paths, fullConfig, Option.toList_some, List.cons_append, List.nil_append,
      List.mem_cons, List.not_mem_nil, or_false] at hp
    rcases hp with rfl | rfl | rfl | rfl <;> exact ⟨_, rfl⟩
  obtain ⟨text, htext, -, -, hsame⟩ := document_tells_unless_keyless hlisten hpaths
  exact ⟨text, htext, hsame.mpr (Option.some_ne_none _)⟩

/-- The usual configuration, with the key switched off. -/
def keyless : Config := { Config.default with ca := { CaConfig.default with keyPath := none } }

/-- The document of the configuration without a key path is one that tells of a key path. -/
theorem keyless_gets_key :
    ∃ text config, document? keyless = some text ∧ ofText text = .ok config
      ∧ config.ca.keyPath = some (Path.ofString "data/ca.key") ∧ config ≠ keyless := by
  have hlisten : Endpoint.ofText keyless.listen.text = .ok keyless.listen := rfl
  have hpaths : ∀ p ∈ keyless.paths, IsText p := by
    intro p hp
    simp only [paths, keyless, Option.toList_none, List.append_nil, List.mem_append, List.mem_cons,
      List.not_mem_nil, or_false] at hp
    rcases hp with (rfl | rfl) | hp
    · exact ⟨_, rfl⟩
    · exact ⟨_, rfl⟩
    · nomatch hp
  obtain ⟨text, htext, hread⟩ := retold_of_document hlisten hpaths
  exact ⟨text, keyless.retold, htext, hread, rfl, by decide⟩

end ProxyTrust.Config
