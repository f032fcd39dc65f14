/-
  What a configuration file is loaded as, whatever the system answers about its path.

  1. **Look-ups that fail** — a path fails to lead somewhere in five ways, and in one of them
     nothing is there (`find_error_cases`).

  2. **Answers** — loading asks twice: whether the path leads to something, and what is there.  It
     depends on these two answers alone, which may be those of any system (`load_eq_loadFrom`).

  3. **What is due** — the defaults where nothing is, the configuration of a document that
     describes one, and an error in all other cases.  Of the first answer no more is kept than
     that there was an error, so that a path that cannot be followed counts as one to nothing:
     `load_due_unless_unreachable` tells when what is due is what is given, and
     `looping_path_gives_defaults` is a path for which it is not.
-/
import ProxyTrust.Config.File
import ProxyTrust.Proofs.Files.Growth
import ProxyTrust.Proofs.Outcome
import ProxyTrust.Proofs.Text.Decoding

namespace ProxyTrust

/-! ## Look-ups that fail -/

namespace FileSystem

variable {fs : FileSystem} {p : Path} {e : IoError} {slash : Bool}

/-- Why a path leads nowhere: nothing is there, a name on the way is no directory, a name or the
    path is too long, too many links are on the way, or it holds a NUL. -/
def lookUpErrors : List IoError := [.noEntry, .notDirectory, .nameTooLong, .linkLoop, .nulInPath]

/-- A walk over names fails in one of the five ways, or as the walk does that a link leads to.
    The induction is on the names. -/
theorem walkNames_error_cases {expand : Walk}
    (hexpand : ∀ here names slash, expand here names slash = .error e → e ∈ lookUpErrors)
    {here : Location} {names : List Name}
    (h : walkNames fs .target slash expand here names = .error e) :
    e ∈ lookUpErrors := by
  induction names generalizing here with
  | nil => cases h
  | cons name rest ih =>
    rw [walkNames] at h
    split at h
    · obtain rfl := Except.error.inj h
      decide
    split at h
    · exact ih h
    split at h
    · exact ih h
    split at h
    · next hmade => simp at hmade
    split at h
    · obtain rfl := Except.error.inj h
      decide
    split at h
    · split at h
      · cases h
      · obtain rfl := Except.error.inj h
        decide
    · split at h
      · cases h
      · exact hexpand _ _ _ h
    · exact ih h

/-- The same for a walk with its links, by induction on how many may be followed. -/
theorem walk_error_cases {links : Nat} {here : Location} {names : List Name}
    (h : fs.walk .target links here names slash = .error e) : e ∈ lookUpErrors := by
  induction links generalizing here names slash with
  | zero =>
    refine walkNames_error_cases (fun _ _ _ hloop => ?_) h
    obtain rfl := Except.error.inj hloop
    decide
  | succ links ih => exact walkNames_error_cases (fun _ _ _ hlater => ih hlater) h

theorem checkPath_error_cases (h : checkPath p = .error e) : e ∈ lookUpErrors := by
  rw [checkPath] at h
  split at h
  · obtain rfl := Except.error.inj h
    decide
  split at h
  · obtain rfl := Except.error.inj h
    decide
  split at h
  · obtain rfl := Except.error.inj h
    decide
  · cases h

/-- A look-up fails in five ways. -/
theorem find_error_cases (h : fs.find p = .error e) : e ∈ lookUpErrors := by
  rw [find] at h
  split at h
  · -- the path cannot be followed
    next hlookUp =>
    obtain rfl := Except.error.inj h
    rw [lookUp, lookUpFor] at hlookUp
    split at hlookUp
    · next hcheck =>
      obtain rfl := Except.error.inj hlookUp
      exact checkPath_error_cases hcheck
    · exact walk_error_cases hlookUp
  · obtain rfl := Except.error.inj h
    decide
  · split at h
    · obtain rfl := Except.error.inj h
      decide
    · cases h

end FileSystem

namespace Config

variable {fs : FileSystem} {path : Path}

/-! ## Answers -/

/-- What a system answers about a path: whether it leads to something, and which bytes are there. -/
structure Answers where
  lookUp : Except IoError Unit
  content : Except IoError (List UInt8)

/-- The answers of a file system. -/
def answers (fs : FileSystem) (path : Path) : Answers :=
  ⟨(fs.find path).map fun _ => (), fs.read path⟩

/-- The configuration in the bytes of a file. -/
def ofContent (path : Path) : Except IoError (List UInt8) → Except FileFault Config
  | .error source => .error (.unreadable path source)
  | .ok bytes =>
    match Text.decodeUtf8? bytes with
    | none => .error (.unreadable path .notUtf8)
    | some text =>
      match ofText text with
      | .ok config => .ok config
      | .error fault => .error (.unusable path fault)

/-- The configuration at a path, by the answers about it. -/
def loadFrom (path : Path) (a : Answers) : Except FileFault Config :=
  match a.lookUp with
  | .error _ => .ok .default
  | .ok () => ofContent path a.content

/-- Loading depends on the two answers of the system alone. -/
theorem load_eq_loadFrom (fs : FileSystem) (path : Path) :
    load fs path = loadFrom path (answers fs path) := by
  rw [load, loadFrom, answers, FileSystem.pathExists]
  cases fs.find path with
  | error e => rfl
  | ok place => rfl

/-! ## What is due -/

/-- The bytes are those of a text that describes the configuration. -/
def Describing (content : Except IoError (List UInt8)) (config : Config) : Prop :=
  ∃ text, content = .ok (Text.encodeUtf8 text) ∧ ofText text = .ok config

/-- Bytes are loaded as a configuration exactly if they are UTF-8 and the document describes it. -/
theorem ofContent_eq_ok_iff {content : Except IoError (List UInt8)} {config : Config} :
    ofContent path content = .ok config ↔ Describing content config := by
  constructor
  · intro h
    cases content with
    | error source => nomatch h
    | ok bytes =>
      rw [ofContent] at h
      split at h
      · nomatch h
      · next text hdecode =>
        split at h
        · next found htext =>
          obtain rfl := Except.ok.inj h
          exact ⟨text, by rw [Text.decodeUtf8?_eq_some_iff.mp hdecode], htext⟩
        · nomatch h
  · -- the text is the only one with these bytes
    rintro ⟨text, rfl, htext⟩
    rw [ofContent]
    simp only [Text.decodeUtf8?_encodeUtf8, htext]

/-- What is due for the answers: the defaults if the look-up fails because nothing is there, an
    error if it fails for another reason; otherwise the configuration that the content describes,
    and an error if it describes none. -/
inductive Due (a : Answers) : Except FileFault Config → Prop
  | missing {source : IoError} (hlookUp : a.lookUp = .error source)
      (hkind : source.kind = .notFound) :
      Due a (.ok .default)
  | unreachable {source : IoError} (hlookUp : a.lookUp = .error source)
      (hkind : source.kind ≠ .notFound)
      (fault : FileFault) : Due a (.error fault)
  | described {config : Config} (hlookUp : a.lookUp = .ok ())
      (hcontent : Describing a.content config) :
      Due a (.ok config)
  | undescribed (hlookUp : a.lookUp = .ok ()) (hcontent : ∀ config, ¬ Describing a.content config)
      (fault : FileFault) : Due a (.error fault)

/-- The look-up fails, and not because nothing is there. -/
def Answers.Unreachable (a : Answers) : Prop :=
  ∃ source, a.lookUp = .error source ∧ source.kind ≠ .notFound

/-- Where the path leads to something, what is due is what its content gives. -/
theorem due_ofContent {a : Answers} (hlookUp : a.lookUp = .ok ()) :
    Due a (ofContent path a.content) := by
  cases hcontent : ofContent path a.content with
  | ok config => exact .described hlookUp (ofContent_eq_ok_iff.mp hcontent)
  | error fault =>
    refine .undescribed hlookUp (fun config hdescribing => ?_) fault
    nomatch hcontent.symm.trans (ofContent_eq_ok_iff.mpr hdescribing)

/-- What is given is what is due, unless the system cannot tell where the path leads. -/
theorem due_loadFrom_iff (a : Answers) : Due a (loadFrom path a) ↔ ¬ a.Unreachable := by
  rw [loadFrom, Answers.Unreachable]
  cases hlookUp : a.lookUp with
  | ok found => exact iff_of_true (due_ofContent hlookUp) fun ⟨_, h, _⟩ => nomatch h
  | error source =>
    constructor
    · rintro hdue ⟨_, hsource, hkind⟩
      obtain rfl := Except.error.inj hsource
      cases hdue with
      | missing hmissing hnone =>
        obtain rfl := Except.error.inj (hlookUp.symm.trans hmissing)
        exact hkind hnone
      | described hfound => nomatch hlookUp.symm.trans hfound
    · intro h
      exact .missing hlookUp (Decidable.not_not.mp fun hkind => h ⟨source, rfl, hkind⟩)

/-- Of the five ways in which a look-up fails, four are not that nothing is there. -/
theorem unreachable_answers_iff : (answers fs path).Unreachable
    ↔ ∃ source ∈ [IoError.notDirectory, .nameTooLong, .linkLoop, .nulInPath],
        fs.find path = .error source := by
  -- of the five ways in which a look-up fails, one tells that nothing is there
  have hkinds : ∀ e ∈ FileSystem.lookUpErrors,
      e.kind ≠ .notFound ↔ e ∈ [IoError.notDirectory, .nameTooLong, .linkLoop, .nulInPath] := by
    decide
  rw [Answers.Unreachable, answers]
  cases hfind : fs.find path with
  | ok place => exact iff_of_false (fun ⟨_, h, _⟩ => nomatch h) (fun ⟨_, _, h⟩ => nomatch h)
  | error e =>
    have hkind := hkinds e (FileSystem.find_error_cases hfind)
    constructor
    · rintro ⟨_, hsource, hother⟩
      obtain rfl := Except.error.inj hsource
      exact ⟨e, hkind.mp hother, rfl⟩
    · rintro ⟨_, hmem, hsource⟩
      obtain rfl := Except.error.inj hsource
      exact ⟨e, rfl, hkind.mpr hmem⟩

/-- What is loaded goes by two answers, and whatever a system answers, it is what is due unless
    the path cannot be followed: then the defaults are loaded in the place of an error.  In a file
    system that happens for a name on the way that is no directory, a name or path that is too
    long, a loop of links and a NUL. -/
theorem load_due_unless_unreachable (fs : FileSystem) (path : Path) :
    load fs path = loadFrom path (answers fs path)
      ∧ ((answers fs path).Unreachable
        ↔ ∃ source ∈ [IoError.notDirectory, .nameTooLong, .linkLoop, .nulInPath],
            fs.find path = .error source)
      ∧ ∀ a : Answers, (Due a (loadFrom path a) ↔ ¬ a.Unreachable)
        ∧ (a.Unreachable → loadFrom path a = .ok .default) := by
  refine ⟨load_eq_loadFrom fs path, unreachable_answers_iff, fun a => ⟨due_loadFrom_iff a, ?_⟩⟩
  rintro ⟨source, hlookUp, -⟩
  rw [loadFrom, hlookUp]

/-- A working directory with a file that describes no configuration. -/
def faultyFiles : FileSystem :=
  .oneFile "config.toml" (Text.encodeUtf8 "listen = 1\n".toList)

/-- The file is refused as is due; under it, and where there is no permission to look, nothing
    is. -/
theorem load_due_unless_unreachable_faulty :
    Due (answers faultyFiles (Path.ofString "config.toml"))
      (load faultyFiles (Path.ofString "config.toml"))
      ∧ load faultyFiles (Path.ofString "config.toml/ca.toml") = .ok .default
      ∧ loadFrom (Path.ofString "config.toml") ⟨.error .accessDenied, .error .accessDenied⟩
          = .ok .default := by
  obtain ⟨hsame, hreachable, hdue⟩ :=
    load_due_unless_unreachable faultyFiles (Path.ofString "config.toml")
  obtain ⟨hbelow, hunreachable, hdefaults⟩ :=
    load_due_unless_unreachable faultyFiles (Path.ofString "config.toml/ca.toml")
  have hfind : faultyFiles.find (Path.ofString "config.toml")
      = .ok [Text.encodeUtf8 "config.toml".toList] := rfl
  have hfile : faultyFiles.find (Path.ofString "config.toml/ca.toml") = .error .notDirectory := rfl
  refine ⟨?_, ?_, (hdue _).2 ⟨.accessDenied, rfl, by decide⟩⟩
  · rw [hsame]
    refine (hdue _).1.mpr fun h => ?_
    obtain ⟨source, -, herror⟩ := hreachable.mp h
    nomatch hfind.symm.trans herror
  · rw [hbelow]
    exact (hdefaults _).2 (hunreachable.mpr ⟨.notDirectory, by decide, hfile⟩)

/-! ## A path that runs in a circle -/

/-- A working directory in which the configuration file is a link to itself. -/
def loopingFiles : FileSystem :=
  FileSystem.emptyRoot.put [Text.encodeUtf8 "config.toml".toList]
    (.link (Path.ofString "config.toml"))

/-- However many links may be on the way, there are more. -/
theorem walk_loopingFiles (links : Nat) :
    loopingFiles.walk .target links [] [Text.encodeUtf8 "config.toml".toList] false
      = .error .linkLoop := by
  induction links with
  | zero => rfl
  | succ links ih => exact ih

/-- There is something at the path, but it cannot be followed: the defaults are loaded, which are
    not due. -/
theorem looping_path_gives_defaults :
    loopingFiles.find (Path.ofString "config.toml") = .error .linkLoop
      ∧ IoError.linkLoop.kind ≠ .notFound
      ∧ load loopingFiles (Path.ofString "config.toml") = .ok .default
      ∧ ¬ Due (answers loopingFiles (Path.ofString "config.toml")) (.ok .default) := by
  have hfind : loopingFiles.find (Path.ofString "config.toml") = .error .linkLoop := by
    rw [FileSystem.find, FileSystem.lookUp]
    have hlookUp : loopingFiles.lookUpFor .target (Path.ofString "config.toml")
        = loopingFiles.walk .target FileSystem.linkLimit []
          [Text.encodeUtf8 "config.toml".toList] false := rfl
    rw [hlookUp, walk_loopingFiles]
  have hload : load loopingFiles (Path.ofString "config.toml") = .ok .default := by
    rw [load_eq_loadFrom, loadFrom, answers, hfind]
    rfl
  refine ⟨hfind, by decide, hload, fun hdue => ?_⟩
  rw [← hload, load_eq_loadFrom, due_loadFrom_iff] at hdue
  exact hdue (unreachable_answers_iff.mpr ⟨.linkLoop, by decide, hfind⟩)

end Config

end ProxyTrust
