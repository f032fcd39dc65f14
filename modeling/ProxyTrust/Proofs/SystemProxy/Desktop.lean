/-
  What the settings of the desktop receive.

  1. **Literals** — the commands for Linux give the host between single quotes and the port in
     decimal, as literals of the format of the settings.  `GVariant.string?` is what a literal is
     read as.

  2. **Characters** — the checks on a host let no quote through, so that the literal of a host
     ends where it should; but they let a backslash through, which begins an escape there, and a
     NUL, which no setting holds.  All other characters stand for themselves.

  3. **Settings** — `settings_receive_host_iff` is the main statement: both schemes get the same
     literals, the port is always read as the port, and the host as the host exactly if it holds
     neither of the two.  A literal with an escape has a value that is shorter than what stands
     between the quotes, by induction on its characters, and so it cannot be the host.
-/
import ProxyTrust.Proofs.Endpoint.Validity
import ProxyTrust.Proofs.GVariant.Literal
import ProxyTrust.SystemProxy

namespace ProxyTrust.SystemProxy

open Endpoint (Accepted accepted_iff_valid)

variable {e : Endpoint}

/-- The schema and the literal, if a command gives a value to the key. -/
def assignment? (key : String) (c : Command) : Option (String × String) :=
  match c with
  | ⟨"gsettings", ["set", schema, name, literal]⟩ =>
    if name = key then some (schema, literal) else none
  | _ => none

/-- The schemas and the literals that commands give to a key, in turn. -/
def assigned (key : String) (commands : List Command) : List (String × String) :=
  commands.filterMap (assignment? key)

/-- The characters of a valid host stand for themselves between single quotes, but for a backslash
    and a NUL. -/
theorem standsForItself_iff (h : e.Valid) :
    (∀ c ∈ e.host.toList, GVariant.StandsForItself '\'' c)
      ↔ '\\' ∉ e.host.toList ∧ '\x00' ∉ e.host.toList := by
  constructor
  · intro hall
    exact ⟨fun hmem => (hall _ hmem).2.1 rfl, fun hmem => (hall _ hmem).2.2 rfl⟩
  · rintro ⟨hbackslash, hnul⟩ c hc
    refine ⟨?_, fun heq => hbackslash (heq ▸ hc), fun heq => hnul (heq ▸ hc)⟩
    rintro rfl
    exact absurd (h.2.1 _ hc) (by decide)

/-- The commands for Linux give the host of an endpoint to two settings, in one literal, and its
    port to two more.  The port is read as it is; the host is read as it is exactly if it holds no
    backslash and no NUL. -/
theorem settings_receive_host_iff (h : Accepted e) :
    ∃ commands host port, enableCommands .linux e = .ok commands
      ∧ assigned "host" commands = [(desktopHttp, host), (desktopHttps, host)]
      ∧ assigned "port" commands = [(desktopHttp, port), (desktopHttps, port)]
      ∧ (GVariant.string? host.toList = some e.host.toList
          ↔ '\\' ∉ e.host.toList ∧ '\x00' ∉ e.host.toList)
      ∧ GVariant.int32? port.toList = some (e.port : Int) := by
  have hvalid : e.Valid := accepted_iff_valid.mp h
  have hliteral : ("'" ++ e.host ++ "'").toList = '\'' :: (e.host.toList ++ ['\'']) := by
    simp
  have hbound : e.port ≤ GVariant.largestInt32 := Nat.le_trans hvalid.2.2.2 (by decide)
  refine ⟨_, "'" ++ e.host ++ "'", String.ofList (Text.decimal e.port), rfl, rfl, rfl, ?_, ?_⟩
  · rw [hliteral, GVariant.string?_quoted_self_iff]
    exact standsForItself_iff hvalid
  · rw [String.toList_ofList]
    exact GVariant.int32?_decimal hvalid.2.2.1 hbound

/-- A name with characters that are no blanks and no quotes, but other marks. -/
def markedHost : Endpoint := ⟨"#;$(proxy)", 3128⟩

/-- Marks that mean something elsewhere mean nothing in a literal. -/
theorem settings_receive_host_iff_markedHost :
    Accepted markedHost ∧ ∃ commands host port, enableCommands .linux markedHost = .ok commands
      ∧ assigned "host" commands = [(desktopHttp, host), (desktopHttps, host)]
      ∧ assigned "port" commands = [(desktopHttp, port), (desktopHttps, port)]
      ∧ GVariant.string? host.toList = some "#;$(proxy)".toList
        ∧ GVariant.int32? port.toList = some 3128 := by
  have haccepted : Accepted markedHost :=
    .ofParts (by decide) (show Endpoint.ofParts "#;$(proxy)" 3128 = _ from rfl)
  obtain ⟨commands, host, port, hcommands, hhost, hport, hliteral, hnumber⟩ :=
    settings_receive_host_iff haccepted
  exact ⟨haccepted, commands, host, port, hcommands, hhost, hport,
    hliteral.mpr (by decide), hnumber⟩

/-- A host with a backslash in it: another host arrives at the settings. -/
def backslashHost : Endpoint := ⟨"proxy\\local", 3128⟩

/-- A host that ends in a backslash: its literal has no end. -/
def backslashEnd : Endpoint := ⟨"proxy\\", 3128⟩

/-- A backslash is dropped from the host, and at its end it opens the literal. -/
theorem backslash_changes_setting :
    Accepted backslashHost
      ∧ (enableCommands .linux backslashHost).map (assigned "host")
          = .ok [(desktopHttp, "'proxy\\local'"), (desktopHttps, "'proxy\\local'")]
      ∧ GVariant.string? "'proxy\\local'".toList = some "proxylocal".toList
      ∧ Accepted backslashEnd
      ∧ (enableCommands .linux backslashEnd).map (assigned "host")
          = .ok [(desktopHttp, "'proxy\\'"), (desktopHttps, "'proxy\\'")]
      ∧ GVariant.string? "'proxy\\'".toList = none := by
  have hinside : Accepted backslashHost :=
    .ofParts (by decide) (show Endpoint.ofParts "proxy\\local" 3128 = _ from rfl)
  have hend : Accepted backslashEnd :=
    .ofParts (by decide) (show Endpoint.ofParts "proxy\\" 3128 = _ from rfl)
  exact ⟨hinside, rfl, by decide, hend, rfl, by decide⟩

end ProxyTrust.SystemProxy
