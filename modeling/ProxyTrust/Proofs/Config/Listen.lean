/-
  The endpoints that the program holds, and the one that it enables.

  1. **Reading** — an entry of a document leaves the endpoint of a configuration as it is, or sets
     it to one that was read from a text (`listen_of_set`).  By induction on the entries the same
     holds of a document, and of a file: the default endpoint is the only one that no check has
     seen, and it would pass.

  2. **Choosing** — what is not given on the command line comes from the configuration.  The
     checks run on the two halves together, but of a valid endpoint either half passes with any
     other half, so that the outcome depends on what is given alone (`chosenEndpoint_eq_ok_iff`).

  3. **Both** — `held_valid_and_chosen` puts the two together: the invariant of every endpoint
     that is held, with the three ways in which one comes about (`Held`), and the outcome of the
     choice for every combination of options.
-/
import ProxyTrust.CommandLine.Invocation
import ProxyTrust.Config.File
import ProxyTrust.Proofs.Endpoint.Grammar
import ProxyTrust.Proofs.Files.Growth
import ProxyTrust.Proofs.Outcome

namespace ProxyTrust.Config

open CommandLine (chosenEndpoint)
open Endpoint (Accepted IsHost Plain)
open Toml (Entries Node)

variable {config after : Config} {fs : FileSystem} {path : Path} {key : String} {e : Endpoint}
  {host : Option String} {port : Option Nat}

/-! ## Reading -/

/-- The endpoint is the one before, or it was read from a text. -/
def KeptOrRead (before after : Endpoint) : Prop :=
  after = before ∨ ∃ text, Endpoint.ofText text = .ok after

/-- An endpoint that an entry gives was read from a text. -/
theorem endpoint_of_read {node : Node} (h : readEndpoint node = .ok e) :
    ∃ text, Endpoint.ofText text = .ok e := by
  rw [readEndpoint] at h
  split at h
  · nomatch h
  · next text _ =>
    split at h
    · next found hfound =>
      obtain rfl := Except.ok.inj h
      exact ⟨text, hfound⟩
    · nomatch h

/-- One entry. -/
theorem listen_of_set {node : Node} (h : set config key node = .ok after) :
    KeptOrRead config.listen after.listen := by
  rw [set] at h
  split at h
  · -- the entry of the endpoint; the others leave it alone
    obtain ⟨found, hfound, rfl⟩ := map_eq_ok_iff.mp h
    exact .inr (endpoint_of_read hfound)
  split at h
  · obtain ⟨-, -, rfl⟩ := map_eq_ok_iff.mp h
    exact .inl rfl
  split at h
  · obtain ⟨-, -, rfl⟩ := map_eq_ok_iff.mp h
    exact .inl rfl
  split at h
  · obtain ⟨-, -, rfl⟩ := map_eq_ok_iff.mp h
    exact .inl rfl
  · obtain rfl := Except.ok.inj h
    exact .inl rfl

/-- A row of entries. -/
theorem listen_of_setAll {entries : Entries} (h : setAll config entries = .ok after) :
    KeptOrRead config.listen after.listen := by
  induction entries generalizing config with
  | nil =>
    obtain rfl := Except.ok.inj h
    exact .inl rfl
  | cons entry rest ih =>
    obtain ⟨key, node⟩ := entry
    rw [setAll] at h
    split at h
    · next next hset =>
      rcases ih h with hkept | hread
      · rw [hkept]
        exact listen_of_set hset
      · exact .inr hread
    · nomatch h

/-- A document keeps the default endpoint or sets one that was read. -/
theorem listen_of_ofText {text : List Char} (h : ofText text = .ok config) :
    KeptOrRead Config.default.listen config.listen := by
  rw [ofText] at h
  split at h
  · nomatch h
  · split at h
    · next found hfound =>
      obtain rfl := Except.ok.inj h
      exact listen_of_setAll hfound
    · nomatch h

/-- So does a file, and one that is not there keeps the default. -/
theorem listen_of_load (h : load fs path = .ok config) :
    KeptOrRead Config.default.listen config.listen := by
  rw [load] at h
  split at h
  · obtain rfl := Except.ok.inj h
    exact .inl rfl
  split at h
  · nomatch h
  split at h
  · nomatch h
  split at h
  · next found hfound =>
    obtain rfl := Except.ok.inj h
    exact listen_of_ofText hfound
  · nomatch h

/-- The default endpoint passes the checks that it never went through. -/
theorem valid_default : Config.default.listen.Valid := by
  have hread : Endpoint.ofText "127.0.0.1:8080" = .ok Config.default.listen := rfl
  exact Endpoint.accepted_iff_valid.mp (.ofText hread)

/-- Either way the endpoint is valid. -/
theorem KeptOrRead.valid (h : KeptOrRead Config.default.listen e) : e.Valid := by
  rcases h with rfl | ⟨text, hread⟩
  · exact valid_default
  · exact Endpoint.accepted_iff_valid.mp (.ofText hread)

/-- An endpoint that the program can hold. -/
inductive Held : Endpoint → Prop
  /-- It is made from a host and a port, or read from a text. -/
  | accepted {e : Endpoint} (h : Accepted e) : Held e
  | document {text : List Char} {config : Config} (h : ofText text = .ok config) :
    Held config.listen
  | default : Held Config.default.listen

/-- Every endpoint that the program holds is valid, whichever of the three ways it came. -/
theorem Held.valid (h : Held e) : e.Valid := by
  cases h with
  | accepted h => exact Endpoint.accepted_iff_valid.mp h
  | document h => exact (listen_of_ofText h).valid
  | default => exact valid_default

/-! ## Choosing -/

/-- A host as the checks leave it, without the blanks around it. -/
def bareHost (host : String) : List Char := Text.trim host.toList

theorem bareHost_of_valid (h : e.Valid) : bareHost e.host = e.host.toList :=
  Text.trim_eq_self fun c hc => Endpoint.isBlank_of_isBarred (h.2.1 c hc)

/-- The endpoint to enable, if the host given, if any, and the port given, if any, can be taken. -/
def override (config : Config) (host : Option String) (port : Option Nat) : Endpoint where
  host := (host.map fun h => String.ofList (bareHost h)).getD config.listen.host
  port := port.getD config.listen.port

/-- The host that is checked, given or configured, has the trimmed form that is wanted and is a
    host exactly if the one given is. -/
theorem checkedHost (hvalid : config.listen.Valid) (host : Option String) (port : Option Nat) :
    String.ofList (bareHost (host.getD config.listen.host)) = (override config host port).host
      ∧ (IsHost (bareHost (host.getD config.listen.host)) ↔ ∀ h ∈ host, IsHost (bareHost h)) := by
  cases host with
  | none =>
    have hlisten : IsHost config.listen.host.toList := ⟨hvalid.toList_ne_nil, hvalid.2.1⟩
    rw [Option.getD_none, bareHost_of_valid hvalid]
    exact ⟨String.ofList_toList, iff_of_true hlisten (fun h hmem => nomatch hmem)⟩
  | some given =>
    refine ⟨rfl, ?_⟩
    simp

/-- The port that is checked is zero exactly if the one given is. -/
theorem checkedPort (hvalid : config.listen.Valid) (port : Option Nat) :
    port.getD config.listen.port ≠ 0 ↔ port ≠ some 0 := by
  cases port with
  | none => exact iff_of_true (Nat.one_le_iff_ne_zero.mp hvalid.2.2.1) (fun h => nomatch h)
  | some given => simp

/-- An endpoint is chosen exactly if the host given is one and the port given is not zero, and
    then it is the configured endpoint with what is given in its place. -/
theorem chosenEndpoint_eq_ok_iff (hvalid : config.listen.Valid) :
    chosenEndpoint config host port = .ok e
      ↔ override config host port = e ∧ (∀ h ∈ host, IsHost (bareHost h)) ∧ port ≠ some 0 := by
  obtain ⟨hform, hhost⟩ := checkedHost hvalid host port
  have hchosen :
      (⟨String.ofList (bareHost (host.getD config.listen.host)), port.getD config.listen.port⟩ :
        Endpoint)
      = override config host port := by
    rw [hform]
    rfl
  rw [chosenEndpoint, Endpoint.ofParts, Endpoint.ofChars_eq_ok_iff_isHost, ← hhost,
    ← checkedPort hvalid port, ← hchosen]
  exact Iff.rfl

/-- It is what is given, and never the configured half, that is to blame. -/
theorem chosenEndpoint_fails_iff (hvalid : config.listen.Valid) :
    (∃ fault, chosenEndpoint config host port = .error fault)
      ↔ (∃ h, host = some h ∧ ¬ IsHost (bareHost h)) ∨ port = some 0 := by
  have hok : (∃ e, chosenEndpoint config host port = .ok e)
      ↔ (∀ h ∈ host, IsHost (bareHost h)) ∧ port ≠ some 0 := by
    constructor
    · rintro ⟨e, h⟩
      exact ((chosenEndpoint_eq_ok_iff hvalid).mp h).2
    · intro h
      exact ⟨_, (chosenEndpoint_eq_ok_iff hvalid).mpr ⟨rfl, h⟩⟩
  rw [exists_error_iff, hok, Classical.not_and_iff_not_or_not, Classical.not_not]
  cases host with
  | none => simp
  | some given => simp

/-- Every endpoint that the program holds has a host that is not empty, is trimmed and holds no
    blank and no quote, and a port from 1 to 65535; and checked again it is let through unchanged.
    So the endpoint that is chosen under a configuration that was loaded is the configured one
    with what is given in its place, and choosing fails exactly if what is given is no host or no
    port. -/
theorem held_valid_and_chosen :
    (∀ e, Held e →
      e.host ≠ "" ∧ Text.trim e.host.toList = e.host.toList ∧ (∀ c ∈ e.host.toList, Plain c)
        ∧ 1 ≤ e.port ∧ e.port ≤ 65535 ∧ Endpoint.ofParts e.host e.port = .ok e)
    ∧ ∀ fs path config, load fs path = .ok config →
        chosenEndpoint config none none = .ok config.listen
        ∧ (∀ p, 0 < p → chosenEndpoint config none (some p) = .ok { config.listen with port := p })
        ∧ (∀ h, IsHost (bareHost h) → chosenEndpoint config (some h) none
            = .ok { config.listen with host := String.ofList (bareHost h) })
        ∧ ∀ host port, (∃ fault, chosenEndpoint config host port = .error fault)
            ↔ (∃ h, host = some h ∧ ¬ IsHost (bareHost h)) ∨ port = some 0 := by
  constructor
  · intro e hheld
    have hvalid := hheld.valid
    refine ⟨hvalid.1, bareHost_of_valid hvalid, ?_, hvalid.2.2.1, hvalid.2.2.2, hvalid.ofChars_eq⟩
    exact fun c hc => Endpoint.isBarred_eq_false_iff.mp (hvalid.2.1 c hc)
  · -- what is chosen is made of a half that is given and a half of a valid endpoint
    intro fs path config hload
    have hvalid : config.listen.Valid := (listen_of_load hload).valid
    have hnone : ∀ h ∈ (none : Option String), IsHost (bareHost h) := fun h hmem => nomatch hmem
    refine ⟨?_, ?_, ?_, fun host port => chosenEndpoint_fails_iff hvalid⟩
    · exact (chosenEndpoint_eq_ok_iff hvalid).mpr ⟨rfl, hnone, fun h => nomatch h⟩
    · intro p hp
      refine (chosenEndpoint_eq_ok_iff hvalid).mpr ⟨rfl, hnone, fun h => ?_⟩
      exact absurd (Option.some.inj h) (Nat.ne_of_gt hp)
    · intro h hhost
      refine (chosenEndpoint_eq_ok_iff hvalid).mpr ⟨rfl, ?_, fun h => nomatch h⟩
      exact fun given hmem => Option.some.inj hmem ▸ hhost

/-- A configuration file that gives the endpoint with brackets, blanks and a plus sign. -/
def spacedDocument : String := "listen = \" [ ::1 ]:+080\"\n"

/-- A working directory with that file in it. -/
def spacedFiles : FileSystem :=
  .oneFile "config.toml" (Text.encodeUtf8 spacedDocument.toList)

/-- The configuration in it. -/
def spacedConfig : Config := { Config.default with listen := ⟨"::1", 80⟩ }

/-- A document with blanks around its endpoint, and options with blanks that are cut off or
    refused. -/
theorem held_valid_and_chosen_spaced :
    Held spacedConfig.listen
      ∧ load spacedFiles (Path.ofString "config.toml") = .ok spacedConfig
      ∧ Endpoint.ofParts "::1" 80 = .ok spacedConfig.listen
      ∧ 0 < 3128 ∧ IsHost (bareHost "\u3000proxy.local")
      ∧ chosenEndpoint spacedConfig none (some 3128) = .ok ⟨"::1", 3128⟩
      ∧ chosenEndpoint spacedConfig (some "\u3000proxy.local") none = .ok ⟨"proxy.local", 80⟩
      ∧ ∃ fault, chosenEndpoint spacedConfig (some "a b") none = .error fault := by
  have hdocument : ofText spacedDocument.toList = .ok spacedConfig :=
    toOption_eq_some_iff.mp (by decide +kernel)
  have hload : load spacedFiles (Path.ofString "config.toml") = .ok spacedConfig :=
    toOption_eq_some_iff.mp (by decide +kernel)
  have haccepted : Endpoint.ofParts "\u3000proxy.local" 80 = .ok ⟨"proxy.local", 80⟩ := rfl
  have hhost : IsHost (bareHost "\u3000proxy.local") :=
    (Endpoint.ofChars_eq_ok_iff_isHost.mp haccepted).2.1
  have hbad : ¬ IsHost (bareHost "a b") := fun h => absurd (h.2 ' ' (by decide)) (by decide)
  obtain ⟨hheld, hchosen⟩ := held_valid_and_chosen
  obtain ⟨-, hport, hgiven, hfails⟩ := hchosen _ _ _ hload
  obtain ⟨-, -, -, -, -, hagain⟩ := hheld _ (.document hdocument)
  exact ⟨.document hdocument, hload, hagain, by decide, hhost, hport 3128 (by decide),
    hgiven _ hhost, (hfails _ _).mpr (.inl ⟨_, rfl, hbad⟩)⟩

end ProxyTrust.Config
