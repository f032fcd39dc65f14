/-
  Provisioning step by step.

  1. **Steps** — a step makes the directories above a file, or writes the file.  `Step.Done` says
     what it did where it succeeded, and `Step.Fails` what it left where it failed and whom it
     blames.  The files remain a tree in both cases, which is what the next step needs.

  2. **Rows of steps** — a row runs up to the first step that fails.  `AllDone` is a row that ran
     to its end, and `StopsAt` one that did not: the steps before the failing one are done, and
     those after it are not begun.  Both are the run itself, read as a relation
     (`runSteps_eq_ok_iff`, `runSteps_eq_error_iff`), by induction on the row.

  3. **Provisioning** — the directories above the certificate, the certificate, and the same two
     for the key.  Between the first step and the others it looks whether the path leads
     somewhere, and draws an authority, so that the row itself is only run where neither ends it.
     `ending_tells_steps` says which of the steps were done, from the way in which provisioning
     ends, and the other way round.

  4. **A key under the certificate** — a path for the key that goes over the file of the
     certificate stops at the third step.
-/
import ProxyTrust.Proofs.Authority.Generation

namespace ProxyTrust.Authority

open FileSystem (Gains Grows emptyRoot isTree_emptyRoot plainMode)

variable {draw : Draw} {now : Moment} {m : Material} {fs before between after full : FileSystem}
  {p certPath : Path} {keyPath : Option Path} {fault : Fault} {step : Step} {steps : List Step}

/-! ## Steps -/

/-- One step of provisioning. -/
inductive Step where
  /-- The directories above a file made. -/
  | parent (file : Path)
  /-- A text written to a file, with these permission bits if it is new. -/
  | write (p : Path) (text : String) (mode : Nat)

namespace Step

/-- A step taken. -/
def run (fs : FileSystem) : Step → Except Fault Unit × FileSystem
  | parent file => makeParent fs file
  | write p text mode => writeText fs p text mode

/-- The path that a step blames where it fails. -/
def blames? : Step → Option Path
  | parent file => file.parent?
  | write p _ _ => some p

end Step

/-- Nothing changed but that missing directories above a path were added. -/
def AddsDirectories (file : Path) (before after : FileSystem) : Prop :=
  ∀ place, after.at? place = before.at? place
    ∨ (before.at? place = none ∧ after.at? place = some .directory
      ∧ ∃ q, q.Above file ∧ after.find q = .ok place)

namespace Step

/-- What a step does to the files where it succeeds: the directory above the file is there, and
    nothing but it and those above it is new; or the file at the path holds the text, and nothing
    else changed. -/
def Effect (before after : FileSystem) : Step → Prop
  | parent file => AddsDirectories file before after
    ∧ ∀ above, file.parent? = some above → above.bytes ≠ [] → after.isDirectory above = true
  | write p text mode => ∃ place, after.find p = .ok place
    ∧ Gains before after place (Text.encodeUtf8 text.toList)
    ∧ after.at? place = some (.file (Text.encodeUtf8 text.toList) (before.writtenMode place mode))

/-- What a step leaves where it fails: some of the directories, or nothing. -/
def Residue (before after : FileSystem) : Step → Prop
  | parent file => AddsDirectories file before after
  | write _ _ _ => after = before

/-- The step succeeded, with its effect. -/
structure Done (step : Step) (before after : FileSystem) : Prop where
  run_eq : step.run before = (.ok (), after)
  effect : step.Effect before after

/-- The step failed with this fault. -/
structure Fails (step : Step) (before : FileSystem) (fault : Fault) (after : FileSystem) :
    Prop where
  run_eq : step.run before = (.error fault, after)
  blames : ∃ path source, step.blames? = some path ∧ fault = .filesystem path source
  residue : step.Residue before after

end Step

/-- Making the directory above a file adds directories above it and nothing else. -/
theorem addsDirectories_makeParent (fs : FileSystem) (p : Path) :
    AddsDirectories p fs (makeParent fs p).2 := by
  intro place
  rcases furnished_makeParent fs p place with heq | ⟨hfree, hdirectory⟩
  · exact .inl heq
  · refine .inr ⟨hfree, hdirectory, ?_⟩
    -- a directory was added, so it is neither kept nor a file
    cases (touches_makeParent (List.mem_singleton_self p) fs).touched place with
    | kept hkept =>
      rw [hkept, hfree] at hdirectory
      cases hdirectory
    | file _ _ _ hfile =>
      obtain ⟨content, mode, hfile⟩ := hfile
      rw [hdirectory] at hfile
      cases hfile
    | directory hp habove hfind =>
      obtain rfl := List.mem_singleton.mp hp
      exact ⟨_, habove, hfind⟩

/-- Once it is made, the directory above a path is there, unless the path has none. -/
theorem isDirectory_of_makeParent (hmake : makeParent fs p = (.ok (), after)) {above : Path}
    (hparent : p.parent? = some above) (hne : above.bytes ≠ []) :
      after.isDirectory above = true := by
  rw [makeParent, hparent] at hmake
  simp only [if_neg hne] at hmake
  split at hmake
  · next hmade =>
    obtain ⟨-, rfl⟩ := Prod.mk.inj hmake
    exact FileSystem.isDirectory_of_makeDirectories hne hmade
  · cases hmake

/-- A fault in making it names that directory. -/
theorem makeParent_blames (hmake : makeParent fs p = (.error fault, after)) :
    ∃ above source, p.parent? = some above ∧ fault = .filesystem above source := by
  rw [makeParent] at hmake
  split at hmake
  · cases hmake
  · next above hparent =>
    split at hmake
    · cases hmake
    · split at hmake
      · cases hmake
      · next source _ _ =>
        exact ⟨above, source, hparent, (Except.error.inj (Prod.mk.inj hmake).1).symm⟩

/-- A step that succeeds has its effect. -/
theorem Step.done_of_run (htree : fs.IsTree) (hrun : step.run fs = (.ok (), after)) :
    step.Done fs after := by
  refine ⟨hrun, ?_⟩
  cases step with
  | parent file =>
    have hadds := addsDirectories_makeParent fs file
    rw [Step.run] at hrun
    rw [hrun] at hadds
    exact ⟨hadds, fun above hparent hne => isDirectory_of_makeParent hrun hparent hne⟩
  | write p text mode =>
    obtain ⟨place, hplace, rfl⟩ := FileSystem.write_eq_ok_iff.mp (writeText_eq_ok_iff.mp hrun)
    obtain ⟨hgains, hfind, -⟩ := htree.putFile hplace (Text.encodeUtf8 text.toList) mode
    exact ⟨place, hfind, hgains, FileSystem.at?_putFile fs hgains.ne_root _ _⟩

/-- A step that fails changes no file and blames its own path. -/
theorem Step.fails_of_run (hrun : step.run fs = (.error fault, after)) :
    step.Fails fs fault after := by
  cases step with
  | parent file =>
    have hadds := addsDirectories_makeParent fs file
    rw [Step.run] at hrun
    rw [hrun] at hadds
    exact ⟨hrun, makeParent_blames hrun, hadds⟩
  | write p text mode =>
    rw [Step.run, writeText] at hrun
    split at hrun
    · cases hrun
    · next source hwrite =>
      obtain ⟨hfault, rfl⟩ := Prod.mk.inj hrun
      obtain rfl := Except.error.inj hfault
      refine ⟨?_, ⟨p, source, rfl, rfl⟩, rfl⟩
      rw [Step.run, writeText, hwrite]

/-- The files are a tree after a step as well. -/
theorem Step.isTree_run (htree : fs.IsTree) (step : Step) : (step.run fs).2.IsTree := by
  cases step with
  | parent file => exact (grows_makeParent fs file).isTree htree
  | write p text mode =>
    exact (touches_writeText htree (List.mem_singleton_self p) text mode).grows.isTree htree

/-! ## Rows of steps -/

/-- A row of steps, up to the first one that fails. -/
def runSteps (fs : FileSystem) : List Step → Except Fault Unit × FileSystem
  | [] => (.ok (), fs)
  | step :: later =>
    match step.run fs with
    | (.error fault, fs) => (.error fault, fs)
    | (.ok (), fs) => runSteps fs later

/-- All steps of a row are done, one after the other. -/
inductive AllDone : FileSystem → List Step → FileSystem → Prop
  | nil (fs : FileSystem) : AllDone fs [] fs
  | cons {before between after : FileSystem} {step : Step} {later : List Step}
      (hstep : step.Done before between) (hlater : AllDone between later after) :
      AllDone before (step :: later) after

/-- One step of a row fails, on what the steps before it did, and nothing happens after it. -/
def StopsAt (fs : FileSystem) (steps : List Step) (fault : Fault) (after : FileSystem) : Prop :=
  ∃ front step later between, steps = front ++ step :: later
    ∧ AllDone fs front between ∧ step.Fails between fault after

/-- A row runs to its end exactly if each step does what it says, in the files that the steps
    before it left. -/
theorem runSteps_eq_ok_iff (htree : fs.IsTree) :
    runSteps fs steps = (.ok (), after) ↔ AllDone fs steps after := by
  constructor
  · intro h
    -- along the row: each step leaves a tree for the one after it
    induction steps generalizing fs with
    | nil =>
      obtain ⟨-, rfl⟩ := Prod.mk.inj h
      exact .nil fs
    | cons step later ih =>
      have hbetween := step.isTree_run htree
      rw [runSteps] at h
      split at h
      · cases h
      · next between hrun =>
        rw [hrun] at hbetween
        exact .cons (Step.done_of_run htree hrun) (ih hbetween h)
  · intro h
    clear htree
    induction h with
    | nil => rfl
    | cons hstep _ ih =>
      rw [runSteps, hstep.run_eq]
      exact ih

/-- A row stops exactly at its first step that fails. -/
theorem runSteps_eq_error_iff (htree : fs.IsTree) :
    runSteps fs steps = (.error fault, after) ↔ StopsAt fs steps fault after := by
  constructor
  · intro h
    induction steps generalizing fs with
    | nil => cases h
    | cons step later ih =>
      have hbetween := step.isTree_run htree
      rw [runSteps] at h
      split at h
      · next hrun =>
        rw [h] at hrun
        exact ⟨[], step, later, fs, rfl, .nil fs, Step.fails_of_run hrun⟩
      · next between hrun =>
        rw [hrun] at hbetween
        -- this step goes to the front of those that were done
        obtain ⟨front, stopping, rest, last, rfl, hfront, hfails⟩ := ih hbetween h
        exact ⟨step :: front, stopping, rest, last, rfl,
          .cons (Step.done_of_run htree hrun) hfront, hfails⟩
  · rintro ⟨front, step, later, between, rfl, hfront, hfails⟩
    clear htree
    induction hfront with
    | nil => rw [List.nil_append, runSteps, hfails.run_eq]
    | cons hstep _ ih =>
      rw [List.cons_append, runSteps, hstep.run_eq]
      exact ih hfails

/-! ## Provisioning -/

/-- The steps for the key: the directories above its file, and the file. -/
def keySteps (keyPath : Option Path) (m : Material) : List Step :=
  match keyPath with
  | none => []
  | some p => [.parent p, .write p m.privateKeyPem keyMode]

/-- The steps that write an authority. -/
def materialSteps (certPath : Path) (keyPath : Option Path) (m : Material) : List Step :=
  .write certPath m.certificatePem plainMode :: keySteps keyPath m

/-- The steps of provisioning. -/
def provisioningSteps (certPath : Path) (keyPath : Option Path) (m : Material) : List Step :=
  .parent certPath :: materialSteps certPath keyPath m

/-- Writing a key is a row of steps. -/
theorem writeKey_eq_runSteps (fs : FileSystem) (keyPath : Option Path) (m : Material) :
    writeKey fs keyPath m = runSteps fs (keySteps keyPath m) := by
  cases keyPath with
  | none => rfl
  | some p =>
    rw [writeKey, keySteps, runSteps, Step.run]
    rcases makeParent fs p with ⟨fault | _, made⟩
    · rfl
    · show writeText made p m.privateKeyPem keyMode
        = runSteps made [.write p m.privateKeyPem keyMode]
      rw [runSteps, Step.run]
      rcases writeText made p m.privateKeyPem keyMode with ⟨fault | _, after⟩
      · rfl
      · rfl

/-- Writing both files is a row of steps. -/
theorem writeMaterial_eq_runSteps (fs : FileSystem) (certPath : Path) (keyPath : Option Path)
    (m : Material) :
    writeMaterial fs certPath keyPath m = runSteps fs (materialSteps certPath keyPath m) := by
  rw [writeMaterial, materialSteps, runSteps, Step.run]
  rcases writeText fs certPath m.certificatePem plainMode with ⟨fault | _, written⟩
  · rfl
  · exact writeKey_eq_runSteps written keyPath m

/-- Once the directories above the certificate are made, the authority is written. -/
theorem runSteps_provisioningSteps {made : FileSystem}
    (hparent : makeParent fs certPath = (.ok (), made)) (keyPath : Option Path) (m : Material) :
    runSteps fs (provisioningSteps certPath keyPath m) = writeMaterial made certPath keyPath m := by
  rw [provisioningSteps, runSteps, Step.run, hparent, writeMaterial_eq_runSteps]

/-- The first step is done, and the path of the certificate leads to something then, or does not. -/
structure Opened (fs : FileSystem) (certPath : Path) (found : Bool) (made : FileSystem) : Prop where
  done : (Step.parent certPath).Done fs made
  exists_eq : made.pathExists certPath = found

variable {outcome : Except Stop EnsureOutcome}

/-- An authority is found exactly if the first step is done and the path of the certificate leads
    somewhere then. -/
theorem alreadyPresent_iff_opened (htree : fs.IsTree)
    (hrun : ensureFiles draw now fs certPath keyPath = (outcome, after)) :
    outcome = .ok .alreadyPresent ↔ ∃ made, Opened fs certPath true made := by
  constructor
  · rintro rfl
    cases ensureFiles_eq_iff.mp hrun with
    | present hparent hexists => exact ⟨after, Step.done_of_run htree hparent, hexists⟩
  · rintro ⟨made, hdone, hexists⟩
    have hpresent : ensureFiles draw now fs certPath keyPath = (.ok .alreadyPresent, made) :=
      ensureFiles_eq_iff.mpr (.present hdone.run_eq hexists)
    exact (Prod.mk.inj (hrun.symm.trans hpresent)).1

/-- Where a certificate is found, nothing depends on the draw, the moment and the path of a key. -/
theorem alreadyPresent_leaves
    (hrun : ensureFiles draw now fs certPath keyPath = (.ok .alreadyPresent, after)) :
    AddsDirectories certPath fs after
      ∧ ∀ draw now keyPath, ensureFiles draw now fs certPath keyPath
        = (.ok .alreadyPresent, after) := by
  cases ensureFiles_eq_iff.mp hrun with
  | present hparent hexists =>
    have hadds := addsDirectories_makeParent fs certPath
    rw [hparent] at hadds
    exact ⟨hadds, fun _ _ _ => ensureFiles_eq_iff.mpr (.present hparent hexists)⟩

/-- What an ending says where an authority could be drawn. -/
theorem ending_of_generate (htree : fs.IsTree) (hm : generate draw now = .ok m)
    (hrun : ensureFiles draw now fs certPath keyPath = (outcome, after)) :
    (outcome = .ok .generated ↔ (∃ made, Opened fs certPath false made)
      ∧ ∃ full, AllDone fs (provisioningSteps certPath keyPath m) full)
    ∧ (outcome = .ok .generated → AllDone fs (provisioningSteps certPath keyPath m) after)
    ∧ ∀ stop, outcome = .error stop → ∃ fault, stop = .fault fault
      ∧ StopsAt fs (provisioningSteps certPath keyPath m) fault after := by
  -- both directions need what is there once the authority was generated
  have hgenerated (h : outcome = .ok .generated) : (∃ made, Opened fs certPath false made)
      ∧ AllDone fs (provisioningSteps certPath keyPath m) after := by
    subst h
    cases ensureFiles_eq_iff.mp hrun with
    | generated hparent hmissing hdrawn hwrite =>
      obtain rfl := Except.ok.inj (hdrawn.symm.trans hm)
      rw [← runSteps_provisioningSteps hparent] at hwrite
      exact ⟨⟨_, Step.done_of_run htree hparent, hmissing⟩, (runSteps_eq_ok_iff htree).mp hwrite⟩
  refine ⟨⟨fun h => ⟨(hgenerated h).1, after, (hgenerated h).2⟩, ?_⟩, fun h => (hgenerated h).2, ?_⟩
  · rintro ⟨⟨made, hdone, hmissing⟩, full, hall⟩
    have hwrite := (runSteps_eq_ok_iff htree).mpr hall
    rw [runSteps_provisioningSteps hdone.run_eq] at hwrite
    have hended := ensureFiles_eq_iff.mpr (.generated hdone.run_eq hmissing hm hwrite)
    exact (Prod.mk.inj (hrun.symm.trans hended)).1
  · -- the two stops that are left are those of the first step and of the steps after it
    rintro stop rfl
    cases ensureFiles_eq_iff.mp hrun with
    | noDirectory hparent =>
      refine ⟨_, rfl, (runSteps_eq_error_iff htree).mp ?_⟩
      rw [provisioningSteps, runSteps, Step.run, hparent]
    | crashed _ _ hcrash =>
      rw [hm] at hcrash
      cases hcrash
    | stopped hparent _ hdrawn hwrite =>
      obtain rfl := Except.ok.inj (hdrawn.symm.trans hm)
      rw [← runSteps_provisioningSteps hparent] at hwrite
      exact ⟨_, rfl, (runSteps_eq_error_iff htree).mp hwrite⟩

/-- What an ending says where no authority could be drawn. -/
theorem ending_of_crash (htree : fs.IsTree) {crash : Crash}
    (hcrash : generate draw now = .error crash)
    (hrun : ensureFiles draw now fs certPath keyPath = (outcome, after)) :
    outcome ≠ .ok .generated
    ∧ ∀ stop, outcome = .error stop →
      (stop = .crash crash ∧ Opened fs certPath false after)
      ∨ ∃ fault, stop = .fault fault ∧ (Step.parent certPath).Fails fs fault after := by
  cases ensureFiles_eq_iff.mp hrun with
  | noDirectory hparent =>
    refine ⟨(fun h => nomatch h), fun stop hstop => .inr ⟨_, (Except.error.inj hstop).symm, ?_⟩⟩
    exact Step.fails_of_run hparent
  | present => exact ⟨(fun h => nomatch h), fun _ h => nomatch h⟩
  | crashed hparent hmissing hdrawn =>
    -- the crash comes after the first step and before the others
    obtain rfl := Except.error.inj (hdrawn.symm.trans hcrash)
    refine ⟨(fun h => nomatch h), fun stop hstop => .inl ⟨(Except.error.inj hstop).symm, ?_⟩⟩
    exact ⟨Step.done_of_run htree hparent, hmissing⟩
  | stopped _ _ hdrawn =>
    rw [hcrash] at hdrawn
    cases hdrawn
  | generated _ _ hdrawn =>
    rw [hcrash] at hdrawn
    cases hdrawn

/-- What an ending of provisioning says about its steps, in a tree of files.

    A certificate is found exactly if the first step is done and the path leads to something then.
    In that case nothing else happens, whatever could be drawn and whichever path is given for a
    key.

    Where an authority can be drawn, a new one is there exactly if the first step is done, the
    path leads to nothing then, and all steps can be done; and then they are.  Any other ending is
    the fault of one of the steps, at which provisioning stopped.  Where none can be drawn, at
    most the first step is done. -/
theorem ending_tells_steps (htree : fs.IsTree)
    (hrun : ensureFiles draw now fs certPath keyPath = (outcome, after)) :
    (outcome = .ok .alreadyPresent ↔ ∃ made, Opened fs certPath true made)
    ∧ (outcome = .ok .alreadyPresent → AddsDirectories certPath fs after
      ∧ ∀ draw now keyPath, ensureFiles draw now fs certPath keyPath = (outcome, after))
    ∧ (∀ m, generate draw now = .ok m →
      (outcome = .ok .generated ↔ (∃ made, Opened fs certPath false made)
        ∧ ∃ full, AllDone fs (provisioningSteps certPath keyPath m) full)
      ∧ (outcome = .ok .generated → AllDone fs (provisioningSteps certPath keyPath m) after)
      ∧ ∀ stop, outcome = .error stop → ∃ fault, stop = .fault fault
        ∧ StopsAt fs (provisioningSteps certPath keyPath m) fault after)
    ∧ ∀ crash, generate draw now = .error crash →
      outcome ≠ .ok .generated
      ∧ ∀ stop, outcome = .error stop →
        (stop = .crash crash ∧ Opened fs certPath false after)
        ∨ ∃ fault, stop = .fault fault ∧ (Step.parent certPath).Fails fs fault after := by
  refine ⟨alreadyPresent_iff_opened htree hrun, ?_, fun m hm => ending_of_generate htree hm hrun,
    fun crash hcrash => ending_of_crash htree hcrash hrun⟩
  rintro rfl
  exact alreadyPresent_leaves hrun

/-! ## A key under the certificate -/

/-- A path for keys that goes over the file of the certificate. -/
def innerKey : Path := .ofString "ca.pem/ca.key"

/-- No directory can be made where the certificate is. -/
theorem makeParent_innerKey (content : List UInt8) :
    makeParent (certificateOnly content) innerKey
      = (.error (.filesystem rootCertificate .exists_), certificateOnly content) := by
  have hparent : innerKey.parent? = some rootCertificate := by decide
  have hmake : (certificateOnly content).makeDirectories rootCertificate
      = (.error .exists_, certificateOnly content) :=
    rfl
  rw [makeParent, hparent]
  simp only [hmake]
  exact if_neg (by decide)

/-- The certificate is written, and then no directory can be made where it is. -/
theorem ending_tells_steps_innerKey :
    emptyRoot.IsTree
    ∧ ∃ m after, generate earlyDraw earlyNow = .ok m
      ∧ ensureFiles earlyDraw earlyNow emptyRoot rootCertificate (some innerKey)
        = (.error (.fault (.filesystem rootCertificate .exists_)), after)
      ∧ StopsAt emptyRoot (provisioningSteps rootCertificate (some innerKey) m)
        (.filesystem rootCertificate .exists_) after
      ∧ after.read rootCertificate = .ok m.certificateBytes
      ∧ after.pathExists innerKey = false := by
  obtain ⟨m, hm, -⟩ := early_generate
  have hwrite : writeMaterial emptyRoot rootCertificate (some innerKey) m
      = (.error (.filesystem rootCertificate .exists_), certificateOnly m.certificateBytes) := by
    rw [writeMaterial_of_write m (write_certificateOnly m.certificateBytes), writeKey]
    simp only [makeParent_innerKey]
  have hrun : ensureFiles earlyDraw earlyNow emptyRoot rootCertificate (some innerKey)
      = (.error (.fault (.filesystem rootCertificate .exists_)),
        certificateOnly m.certificateBytes) :=
    ensureFiles_eq_iff.mpr (.stopped rfl (by decide) hm hwrite)
  obtain ⟨-, -, hdrawn, -⟩ := ending_tells_steps isTree_emptyRoot hrun
  obtain ⟨-, -, hstops⟩ := hdrawn m hm
  obtain ⟨fault, hfault, hstops⟩ := hstops _ rfl
  obtain rfl := Stop.fault.inj hfault
  have hread (content : List UInt8) :
      (certificateOnly content).read rootCertificate = .ok content := rfl
  have hnoKey (content : List UInt8) : (certificateOnly content).pathExists innerKey = false := rfl
  exact ⟨isTree_emptyRoot, m, _, hm, hrun, hstops, hread _, hnoKey _⟩

end ProxyTrust.Authority
