/-
  Every field of a configuration is told by the value of its own name.

  1. **Fields** — a field is a name, a way to read its value, and a part of a record (`Field`).
     `AreFields` says what makes some of them the fields of a record: no two have one name,
     setting one leaves the others as they are, and together they are the whole record.  Both
     tables of a document are instances, so that everything about reading is proved once.

  2. **Records** — entries are taken in turn and each sets the field of its name.  As no name is
     there twice, the record in the end has for each field the value of its name, if there is one,
     and what it had before if there is none, wherever the entry stands and whatever else does
     (`AreFields.setFields_eq_ok_iff`).  That no name is there twice is what `Proofs.Toml.Names`
     shows of every document that is read.

  3. **Configurations** — both tables of a document are read so: the outer one and the
     authority's.  Put together, a document says six things, one for each name (`Describes`), and
     it describes a configuration exactly if each value that is given can be read (`Acceptable`).

  4. **Files** — hence two files load to one configuration if they agree on the six names
     (`load_of_six_fields`).  No value takes the path of the key away.
-/
import ProxyTrust.Config.File
import ProxyTrust.Proofs.Files.Growth
import ProxyTrust.Proofs.Outcome
import ProxyTrust.Proofs.Text.Decoding
import ProxyTrust.Proofs.Toml.Names

namespace ProxyTrust.Config

open Toml (Entries Node TableKind)

/-! ## Records -/

/-- A field of a record: its name in a table, how a value of it is read, and its place in a
    record. -/
structure Field (α : Type) where
  {Value : Type}
  name : String
  read : Node → Except DataFault Value
  get : α → Value
  put : α → Value → α

section Records

variable {α : Type} {f : Field α} {fields : List (Field α)} {before after next : α} {key : String}
  {node : Node} {entries rest : Entries}

/-- One entry sets the field of its name, if there is one. -/
def setField (fields : List (Field α)) (before : α) (key : String) (node : Node) :
    Except DataFault α :=
  match fields.find? (·.name = key) with
  | some f => (f.read node).map (f.put before)
  | none => .ok before

/-- Entries taken in turn. -/
def setFields (fields : List (Field α)) (before : α) : Entries → Except DataFault α
  | [] => .ok before
  | (key, node) :: rest =>
    setField fields before key node >>= fun next => setFields fields next rest

/-- The field after the entries is the value of its name, or as before if there is none. -/
def Field.Sets (f : Field α) (before : α) (entries : Entries) (after : α) : Prop :=
  match entries.get? f.name with
  | none => f.get after = f.get before
  | some node => f.read node = .ok (f.get after)

theorem Field.sets_nil : f.Sets before [] after ↔ f.get after = f.get before := Iff.rfl

/-- The first entry sets the field if it has its name, and else the rest does. -/
theorem Field.sets_cons : f.Sets before ((key, node) :: rest) after
    ↔ if key = f.name then f.read node = .ok (f.get after) else f.Sets before rest after := by
  rw [Field.Sets, Entries.get?_cons]
  by_cases hname : key = f.name
  · rw [if_pos hname, if_pos hname]
  · rw [if_neg hname, if_neg hname, Field.Sets]

/-- The fields have different names and places, and a record is no more than its fields. -/
structure AreFields (fields : List (Field α)) : Prop where
  names : ∀ f ∈ fields, ∀ g ∈ fields, f.name = g.name → f = g
  same : ∀ f ∈ fields, ∀ a v, f.get (f.put a v) = v
  apart : ∀ f ∈ fields, ∀ g ∈ fields, f.name ≠ g.name → ∀ a v, f.get (g.put a v) = f.get a
  ext : ∀ a b, (∀ f ∈ fields, f.get a = f.get b) → a = b

/-- An entry sets the field of its name and no other. -/
theorem AreFields.sets_of_setField (hfields : AreFields fields)
    (h : setField fields before key node = .ok after) (hf : f ∈ fields) :
    f.Sets before [(key, node)] after := by
  rw [Field.sets_cons, Field.sets_nil]
  rw [setField] at h
  split at h
  · -- the entry has the name of some field, which is this one or leaves it alone
    next g hfind =>
    have hg : g ∈ fields := List.mem_of_find?_eq_some hfind
    obtain rfl : g.name = key := by simpa using List.find?_some hfind
    obtain ⟨value, hread, rfl⟩ := map_eq_ok_iff.mp h
    by_cases hname : g.name = f.name
    · obtain rfl := hfields.names g hg f hf hname
      rw [if_pos rfl, hfields.same g hg]
      exact hread
    · rw [if_neg hname]
      exact hfields.apart f hf g hg (Ne.symm hname) before value
  · -- the name means nothing, and nothing is set
    next hfind =>
    obtain rfl := Except.ok.inj h
    have hname : key ≠ f.name := by simpa [eq_comm] using List.find?_eq_none.mp hfind f hf
    rw [if_neg hname]

/-- It does so whenever its value can be read. -/
theorem exists_setField (before : α)
    (h : ∀ f ∈ fields, f.name = key → ∃ value, f.read node = .ok value) :
    ∃ after, setField fields before key node = .ok after := by
  rw [setField]
  split
  · next g hfind =>
    obtain ⟨value, hread⟩ :=
      h g (List.mem_of_find?_eq_some hfind) (by simpa using List.find?_some hfind)
    exact ⟨g.put before value, map_eq_ok_iff.mpr ⟨value, hread, rfl⟩⟩
  · exact ⟨before, rfl⟩

/-- One entry, and then entries without its name. -/
theorem Field.Sets.trans (hnext : f.Sets before [(key, node)] next)
    (hfree : rest.get? key = none) (hafter : f.Sets next rest after) :
    f.Sets before ((key, node) :: rest) after := by
  rw [Field.sets_cons] at hnext ⊢
  by_cases hname : key = f.name
  · subst hname
    rw [if_pos rfl] at hnext ⊢
    rw [Field.Sets, hfree] at hafter
    rw [hafter]
    exact hnext
  · rw [if_neg hname] at hnext ⊢
    rw [Field.Sets, Field.sets_nil.mp hnext] at hafter
    exact hafter

/-- The other way, the first entry leaves the rest what they set. -/
theorem Field.Sets.tail (hnext : f.Sets before [(key, node)] next)
    (hfree : rest.get? key = none) (hafter : f.Sets before ((key, node) :: rest) after) :
    f.Sets next rest after := by
  rw [Field.sets_cons] at hnext hafter
  by_cases hname : key = f.name
  · subst hname
    rw [if_pos rfl] at hnext hafter
    rw [Field.Sets, hfree]
    exact Except.ok.inj (hafter.symm.trans hnext)
  · rw [if_neg hname] at hnext hafter
    rw [Field.Sets, Field.sets_nil.mp hnext]
    exact hafter

/-- Entries that hold no name twice set every field by the value of its name, and are refused if
    no record has these values. -/
theorem AreFields.setFields_eq_ok_iff (hfields : AreFields fields)
    (hnames : (entries.map (·.1)).Nodup) :
    setFields fields before entries = .ok after ↔ ∀ f ∈ fields, f.Sets before entries after := by
  induction entries generalizing before with
  | nil =>
    constructor
    · intro h
      obtain rfl := Except.ok.inj h
      exact fun f _ => Field.sets_nil.mpr rfl
    · intro h
      rw [hfields.ext after before fun f hf => Field.sets_nil.mp (h f hf)]
      rfl
  | cons entry rest ih =>
    obtain ⟨key, node⟩ := entry
    obtain ⟨hkey, hrest⟩ := List.nodup_cons.mp hnames
    have hfree : Entries.get? rest key = none := Toml.Entries.get?_eq_none_iff.mpr hkey
    rw [setFields, bind_eq_ok_iff]
    constructor
    · -- what the first entry set stays, for its name is not there again
      rintro ⟨next, hnext, hafter⟩ f hf
      exact (hfields.sets_of_setField hnext hf).trans hfree ((ih hrest).mp hafter f hf)
    · intro h
      -- the first entry can be read, since the record in the end tells its value
      obtain ⟨next, hnext⟩ : ∃ next, setField fields before key node = .ok next := by
        refine exists_setField before fun f hf hname => ⟨f.get after, ?_⟩
        have hvalue := Field.sets_cons.mp (h f hf)
        rwa [if_pos hname.symm] at hvalue
      exact ⟨next, hnext,
        (ih hrest).mpr fun f hf => (hfields.sets_of_setField hnext hf).tail hfree (h f hf)⟩

end Records

/-! ## The two tables -/

variable {entries inside : Entries} {config : Config} {ca : CaConfig}

/-- The fields of the authority's part. -/
def caFields : List (Field CaConfig) :=
  [⟨"cert_path", readPath, CaConfig.certPath, fun ca p => { ca with certPath := p }⟩,
   ⟨"key_path", fun node => (readPath node).map some, CaConfig.keyPath, fun ca p =>
     { ca with keyPath := p }⟩,
   ⟨"installed_path", fun node => (readPath node).map some, CaConfig.installedPath,
    fun ca p => { ca with installedPath := p }⟩]

/-- The fields of a configuration. -/
def fields : List (Field Config) :=
  [⟨"listen", readEndpoint, Config.listen, fun config e => { config with listen := e }⟩,
   ⟨"log_path", readPath, Config.logPath, fun config p => { config with logPath := p }⟩,
   ⟨"platform", fun node => (readString node).map some, Config.platform,
    fun config s => { config with platform := s }⟩,
   ⟨"ca", readCa, Config.ca, fun config ca => { config with ca }⟩]

/-- The three fields of an authority have names of their own and keep out of each other's way. -/
theorem areFields_caFields : AreFields caFields where
  names := by simp [caFields]
  same := by simp [caFields]
  apart := by simp [caFields]
  ext := by
    rintro ⟨cert, key, installed⟩ ⟨cert', key', installed'⟩ h
    simpa [caFields] using h

/-- The fields of a configuration do so as well; one of them is the record of an authority. -/
theorem areFields_fields : AreFields fields where
  names := by simp [fields]
  same := by simp [fields]
  apart := by simp [fields]
  ext := by
    rintro ⟨listen, log, platform, ca⟩ ⟨listen', log', platform', ca'⟩ h
    simpa [fields] using h

theorem map_map {ε α β γ : Type} (x : Except ε α) (f : α → β) (g : β → γ) :
    (x.map f).map g = x.map fun a => g (f a) := by
  cases x <;> rfl

/-- Reading an entry of an authority is setting the field of its name. -/
theorem setCa_eq_setField (ca : CaConfig) (key : String) (node : Node) :
    setCa ca key node = setField caFields ca key node := by
  rw [setCa, setField]
  by_cases hcert : key = "cert_path"
  · subst hcert; simp [caFields]
  by_cases hkey : key = "key_path"
  · subst hkey; simp [caFields, map_map]
  by_cases hinstalled : key = "installed_path"
  · subst hinstalled; simp [caFields, map_map]
  · simp [caFields, hcert, hkey, hinstalled, eq_comm]

/-- Reading an entry of a configuration is setting the field of its name. -/
theorem set_eq_setField (config : Config) (key : String) (node : Node) :
    set config key node = setField fields config key node := by
  rw [set, setField]
  by_cases hlisten : key = "listen"
  · subst hlisten; simp [fields]
  by_cases hlog : key = "log_path"
  · subst hlog; simp [fields]
  by_cases hplatform : key = "platform"
  · subst hplatform; simp [fields, map_map]
  by_cases hca : key = "ca"
  · subst hca; simp [fields]
  · simp [fields, hlisten, hlog, hplatform, hca, eq_comm]

theorem setCaAll_eq_setFields (ca : CaConfig) (entries : Entries) :
    setCaAll ca entries = setFields caFields ca entries := by
  induction entries generalizing ca with
  | nil => rfl
  | cons entry rest ih =>
    rw [setCaAll, setFields, setCa_eq_setField]
    cases setField caFields ca entry.1 entry.2 with
    | error fault => rfl
    | ok next => exact ih next

theorem setAll_eq_setFields (config : Config) (entries : Entries) :
    setAll config entries = setFields fields config entries := by
  induction entries generalizing config with
  | nil => rfl
  | cons entry rest ih =>
    rw [setAll, setFields, set_eq_setField]
    cases setField fields config entry.1 entry.2 with
    | error fault => rfl
    | ok next => exact ih next

/-! ## What a document says -/

section Says

variable {α : Type} {reads : String → α → Prop} {usual value : α} {given : Option Node}

/-- The value of a name, if there is one, is a string that is read as the value; if there is none,
    the value is the usual one. -/
def Tells (reads : String → α → Prop) (usual : α) (given : Option Node) (value : α) : Prop :=
  match given with
  | none => value = usual
  | some node => ∃ text, node = .string text ∧ reads text value

instance [DecidableEq α] [∀ text value, Decidable (reads text value)] :
    Decidable (Tells reads usual given value) :=
  match given with
  | none => inferInstanceAs (Decidable (value = usual))
  | some (.string text) =>
    decidable_of_iff (reads text value)
      ⟨fun h => ⟨text, rfl, h⟩, fun ⟨_, htext, h⟩ => Node.string.inj htext ▸ h⟩
  | some (.integer _) | some (.float _) | some (.boolean _) | some .dateTime | some (.array _)
  | some (.table ..) | some (.tables _) => isFalse fun ⟨_, htext, _⟩ => nomatch htext

/-- A value can be told exactly if it is a string, where one is given, and the string can be read.
    -/
theorem exists_tells_iff : (∃ value, Tells reads usual given value)
    ↔ (∀ node ∈ given, ∃ text, node = .string text)
      ∧ ∀ text, given = some (.string text) → ∃ value, reads text value := by
  cases given with
  | none => exact iff_of_true ⟨usual, rfl⟩ ⟨fun _ h => (nomatch h), fun _ h => (nomatch h)⟩
  | some node =>
    constructor
    · rintro ⟨value, text, rfl, hread⟩
      refine ⟨fun _ hgiven => ⟨text, (Option.some.inj hgiven).symm⟩, fun other hother => ?_⟩
      obtain rfl := Node.string.inj (Option.some.inj hother)
      exact ⟨value, hread⟩
    · rintro ⟨hstring, hreads⟩
      obtain ⟨text, rfl⟩ := hstring node rfl
      obtain ⟨value, hread⟩ := hreads text rfl
      exact ⟨value, text, rfl, hread⟩

/-- Where any string can be read, the value has to be a string and no more. -/
theorem exists_tells_iff_string (make : String → α) :
    (∃ value, Tells (fun text value => value = make text) usual given value)
      ↔ ∀ node ∈ given, ∃ text, node = .string text :=
  exists_tells_iff.trans (and_iff_left fun text _ => ⟨make text, rfl⟩)

/-- The field of a record is told, if strings are what is read. -/
theorem Field.sets_iff_tells {f : Field α} {before after : α} {reads : String → f.Value → Prop}
    (hreads : ∀ node value, f.read node = .ok value
      ↔ ∃ text, node = .string text ∧ reads text value) :
    f.Sets before entries after
      ↔ Tells reads (f.get before) (entries.get? f.name) (f.get after) := by
  rw [Field.Sets]
  cases Entries.get? entries f.name with
  | none => rfl
  | some node => exact hreads node _

end Says

theorem readString_eq_ok_iff {node : Node} {s : String} : readString node = .ok s
    ↔ node = .string s := by
  cases node with
  | string text => rw [readString, Except.ok.injEq, Node.string.injEq]
  | _ => exact iff_of_false (fun h => nomatch h) (fun h => nomatch h)

/-- Every string is a path, and nothing else is. -/
theorem readPath_eq_ok_iff (node : Node) (p : Path) :
    readPath node = .ok p ↔ ∃ text, node = .string text ∧ p = Path.ofString text := by
  cases node with
  | string text => simp [readPath, eq_comm]
  | _ => exact iff_of_false (fun h => nomatch h) (fun ⟨_, h, _⟩ => nomatch h)

/-- An endpoint is a string that is read as one. -/
theorem readEndpoint_eq_ok_iff (node : Node) (e : Endpoint) :
    readEndpoint node = .ok e ↔ ∃ text, node = .string text ∧ Endpoint.ofText text = .ok e := by
  constructor
  · intro h
    rw [readEndpoint] at h
    split at h
    · nomatch h
    · next text htext =>
      split at h
      · next found hfound =>
        obtain rfl := Except.ok.inj h
        exact ⟨text, readString_eq_ok_iff.mp htext, hfound⟩
      · nomatch h
  · rintro ⟨text, rfl, hread⟩
    rw [readEndpoint, readString]
    simp only [hread]

theorem some_readString_eq_ok_iff (node : Node) (s : Option String) :
    (readString node).map some = .ok s ↔ ∃ text, node = .string text ∧ s = some text := by
  rw [map_eq_ok_iff]
  exact exists_congr fun text => and_congr readString_eq_ok_iff eq_comm

theorem some_readPath_eq_ok_iff (node : Node) (p : Option Path) :
    (readPath node).map some = .ok p
      ↔ ∃ text, node = .string text ∧ p = some (Path.ofString text) := by
  rw [map_eq_ok_iff]
  constructor
  · rintro ⟨found, hread, rfl⟩
    obtain ⟨text, hnode, rfl⟩ := (readPath_eq_ok_iff node found).mp hread
    exact ⟨text, hnode, rfl⟩
  · rintro ⟨text, hnode, rfl⟩
    exact ⟨Path.ofString text, (readPath_eq_ok_iff node _).mpr ⟨text, hnode, rfl⟩, rfl⟩

/-- The entries of the authority's table, if there is one. -/
def caEntries (entries : Entries) : Entries :=
  match entries.get? "ca" with
  | some (.table _ inside) => inside
  | _ => []

/-- What the authority's table says of each field, by the value of its name alone. -/
structure DescribesCa (inside : Entries) (ca : CaConfig) : Prop where
  certPath : Tells (fun text p => p = Path.ofString text) (Path.ofString "data/ca.pem")
    (inside.get? "cert_path") ca.certPath
  keyPath : Tells (fun text p => p = some (Path.ofString text)) (some (Path.ofString "data/ca.key"))
    (inside.get? "key_path") ca.keyPath
  installedPath : Tells (fun text p => p = some (Path.ofString text)) none
    (inside.get? "installed_path") ca.installedPath

instance : Decidable (DescribesCa inside ca) :=
  decidable_of_iff (_ ∧ _ ∧ _) ⟨fun ⟨hcert, hkey, hinstalled⟩ => ⟨hcert, hkey, hinstalled⟩,
    fun ⟨hcert, hkey, hinstalled⟩ => ⟨hcert, hkey, hinstalled⟩⟩

/-- What a document says of each field. -/
structure Describes (entries : Entries) (config : Config) : Prop where
  listen : Tells (fun text e => Endpoint.ofText text = .ok e) ⟨"127.0.0.1", 8080⟩
    (entries.get? "listen") config.listen
  logPath : Tells (fun text p => p = Path.ofString text) (Path.ofString "terasu-controller.log")
    (entries.get? "log_path") config.logPath
  platform : Tells (fun text s => s = some text) none (entries.get? "platform") config.platform
  ca : DescribesCa (caEntries entries) config.ca

instance (text : String) (e : Endpoint) : Decidable (Endpoint.ofText text = .ok e) :=
  decidable_of_iff _ toOption_eq_some_iff

instance : Decidable (Describes entries config) :=
  decidable_of_iff (_ ∧ _ ∧ _ ∧ _)
    ⟨fun ⟨hlisten, hlog, hplatform, hca⟩ => ⟨hlisten, hlog, hplatform, hca⟩,
      fun ⟨hlisten, hlog, hplatform, hca⟩ => ⟨hlisten, hlog, hplatform, hca⟩⟩

/-- The authority's part, if it is there, is a table. -/
def CaIsTable (entries : Entries) : Prop :=
  ∀ node ∈ entries.get? "ca", ∃ kind inside, node = .table kind inside

instance (node : Node) : Decidable (∃ kind inside, node = .table kind inside) :=
  match node with
  | .table kind inside => isTrue ⟨kind, inside, rfl⟩
  | .string _ | .integer _ | .float _ | .boolean _ | .dateTime | .array _ | .tables _ =>
    isFalse fun ⟨_, _, htable⟩ => nomatch htable

instance : Decidable (CaIsTable entries) :=
  inferInstanceAs (Decidable (∀ node ∈ entries.get? "ca", ∃ kind inside, node = .table kind inside))

/-- In the table of an authority no name is there twice, as in the document around it. -/
theorem proper_caEntries (h : entries.Proper) : (caEntries entries).Proper := by
  rw [caEntries]
  split
  · next hget => exact Toml.proper_table_iff.mp (h.of_get? hget)
  · exact .nil

/-- A table without a name that is there twice is read as what it says. -/
theorem setCaAll_eq_ok_iff (h : inside.Proper) : setCaAll .default inside = .ok ca
    ↔ DescribesCa inside ca := by
  rw [setCaAll_eq_setFields, areFields_caFields.setFields_eq_ok_iff h.names]
  simp only [caFields, List.forall_mem_cons]
  rw [Field.sets_iff_tells readPath_eq_ok_iff, Field.sets_iff_tells some_readPath_eq_ok_iff,
    Field.sets_iff_tells some_readPath_eq_ok_iff]
  exact ⟨fun ⟨hcert, hkey, hinstalled, _⟩ => ⟨hcert, hkey, hinstalled⟩,
    fun ⟨hcert, hkey, hinstalled⟩ => ⟨hcert, hkey, hinstalled, fun _ hf => nomatch hf⟩⟩

/-- So is the authority's part of a document: where it is left out, its table says nothing. -/
theorem sets_ca_iff (hca : CaIsTable entries) :
    (match entries.get? "ca" with
      | none => ca = .default
      | some node => readCa node = .ok ca) ↔ setCaAll .default (caEntries entries) = .ok ca := by
  rw [caEntries]
  cases hget : Entries.get? entries "ca" with
  | none =>
    constructor
    · rintro rfl
      rfl
    · intro h
      exact (Except.ok.inj h).symm
  | some node =>
    obtain ⟨kind, inside, rfl⟩ := hca node hget
    rfl

/-- A document without a name that is there twice is read as what it says. -/
theorem setAll_eq_ok_iff (h : entries.Proper) (hca : CaIsTable entries) :
    setAll .default entries = .ok config ↔ Describes entries config := by
  rw [setAll_eq_setFields, areFields_fields.setFields_eq_ok_iff h.names]
  simp only [fields, List.forall_mem_cons]
  rw [Field.sets_iff_tells readEndpoint_eq_ok_iff, Field.sets_iff_tells readPath_eq_ok_iff,
    Field.sets_iff_tells some_readString_eq_ok_iff]
  have hpart :
      Field.Sets ⟨"ca", readCa, Config.ca, fun config ca => { config with ca }⟩ .default entries
      config ↔ DescribesCa (caEntries entries) config.ca :=
    (sets_ca_iff hca).trans (setCaAll_eq_ok_iff (proper_caEntries h))
  rw [hpart]
  exact ⟨fun ⟨hlisten, hlog, hplatform, hca, _⟩ => ⟨hlisten, hlog, hplatform, hca⟩,
    fun ⟨hlisten, hlog, hplatform, hca⟩ => ⟨hlisten, hlog, hplatform, hca, fun _ hf => nomatch hf⟩⟩

/-! ## Documents that are accepted -/

/-- Every value that is given is a string. -/
def Strings (entries : Entries) (keys : List String) : Prop :=
  ∀ key ∈ keys, ∀ node ∈ entries.get? key, ∃ text, node = .string text

/-- Every value that is given can be read. -/
structure Acceptable (entries : Entries) : Prop where
  strings : Strings entries ["listen", "log_path", "platform"]
  caStrings : Strings (caEntries entries) ["cert_path", "key_path", "installed_path"]
  listen : ∀ text, entries.get? "listen" = some (.string text) → ∃ e, Endpoint.ofText text = .ok e

/-- The table of an authority describes one exactly if its three values are strings, where they
    are given. -/
theorem exists_describesCa_iff : (∃ ca, DescribesCa inside ca)
    ↔ Strings inside ["cert_path", "key_path", "installed_path"] := by
  constructor
  · rintro ⟨ca, hcert, hkey, hinstalled⟩
    simp only [Strings, List.forall_mem_cons]
    exact ⟨(exists_tells_iff_string _).mp ⟨_, hcert⟩, (exists_tells_iff_string _).mp ⟨_, hkey⟩,
      (exists_tells_iff_string _).mp ⟨_, hinstalled⟩, fun _ hf => nomatch hf⟩
  · intro hstrings
    simp only [Strings, List.forall_mem_cons] at hstrings
    obtain ⟨hcert, hkey, hinstalled, -⟩ := hstrings
    obtain ⟨cert, hcert⟩ := (exists_tells_iff_string Path.ofString).mpr hcert
    obtain ⟨key, hkey⟩ := (exists_tells_iff_string fun text => some (Path.ofString text)).mpr hkey
    obtain ⟨installed, hinstalled⟩ :=
      (exists_tells_iff_string fun text => some (Path.ofString text)).mpr hinstalled
    exact ⟨⟨cert, key, installed⟩, hcert, hkey, hinstalled⟩

/-- A document describes a configuration if all that is given can be read. -/
theorem exists_describes_iff : (∃ config, Describes entries config) ↔ Acceptable entries := by
  constructor
  · rintro ⟨config, hlisten, hlog, hplatform, hca⟩
    obtain ⟨hstring, hreads⟩ := exists_tells_iff.mp ⟨_, hlisten⟩
    refine ⟨?_, exists_describesCa_iff.mp ⟨_, hca⟩, hreads⟩
    simp only [Strings, List.forall_mem_cons]
    exact ⟨hstring, (exists_tells_iff_string _).mp ⟨_, hlog⟩,
      (exists_tells_iff_string _).mp ⟨_, hplatform⟩, fun _ hf => nomatch hf⟩
  · -- each of the fields is told alone, and together they are a configuration
    rintro ⟨hstrings, hca, hreads⟩
    simp only [Strings, List.forall_mem_cons] at hstrings
    obtain ⟨hstring, hlog, hplatform, -⟩ := hstrings
    obtain ⟨e, hlisten⟩ := exists_tells_iff.mpr ⟨hstring, hreads⟩
    obtain ⟨log, hlog⟩ := (exists_tells_iff_string Path.ofString).mpr hlog
    obtain ⟨name, hplatform⟩ := (exists_tells_iff_string some).mpr hplatform
    obtain ⟨ca, hca⟩ := exists_describesCa_iff.mpr hca
    exact ⟨⟨e, log, name, ca⟩, hlisten, hlog, hplatform, hca⟩

/-- Two documents have the same values of the six names. -/
structure Agree (entries other : Entries) : Prop where
  outer : ∀ key ∈ ["listen", "log_path", "platform"], entries.get? key = other.get? key
  inner : ∀ key ∈ ["cert_path", "key_path", "installed_path"],
    (caEntries entries).get? key = (caEntries other).get? key

theorem Agree.symm {other : Entries} (h : Agree entries other) : Agree other entries :=
  ⟨fun key hkey => (h.outer key hkey).symm, fun key hkey => (h.inner key hkey).symm⟩

/-- What describes a configuration does not matter beyond the six values. -/
theorem Describes.of_agree {other : Entries} (hdescribes : Describes entries config)
    (h : Agree entries other) : Describes other config where
  listen := h.outer "listen" (by simp) ▸ hdescribes.listen
  logPath := h.outer "log_path" (by simp) ▸ hdescribes.logPath
  platform := h.outer "platform" (by simp) ▸ hdescribes.platform
  ca :=
    { certPath := h.inner "cert_path" (by simp) ▸ hdescribes.ca.certPath
      keyPath := h.inner "key_path" (by simp) ▸ hdescribes.ca.keyPath
      installedPath := h.inner "installed_path" (by simp) ▸ hdescribes.ca.installedPath }

/-- Left out or given, the key has a path. -/
theorem DescribesCa.exists_keyPath (h : DescribesCa inside ca) : ∃ p, ca.keyPath = some p := by
  have hkey := h.keyPath
  rw [Tells.eq_def] at hkey
  split at hkey
  · exact ⟨_, hkey⟩
  · obtain ⟨text, -, hkey⟩ := hkey
    exact ⟨_, hkey⟩

/-! ## Files -/

/-- The path leads to a file with a document of these entries. -/
def Holds (fs : FileSystem) (path : Path) (entries : Entries) : Prop :=
  ∃ text, fs.read path = .ok (Text.encodeUtf8 text) ∧ Toml.parse? text = some entries

/-- A file is loaded as a configuration exactly if it describes it. -/
theorem load_eq_ok_iff_describes {fs : FileSystem} {path : Path} (hfile : Holds fs path entries)
    (hca : CaIsTable entries) : load fs path = .ok config ↔ Describes entries config := by
  obtain ⟨text, hread, hparse⟩ := hfile
  rw [← setAll_eq_ok_iff (Toml.proper_of_parse? hparse) hca, load,
    FileSystem.exists_of_read hread, hread]
  simp only [Text.decodeUtf8?_encodeUtf8, ofText, hparse, Bool.not_true,
    Bool.false_eq_true, if_false]
  cases setAll .default entries with
  | ok found => rw [Except.ok.injEq, Except.ok.injEq]
  | error fault => exact iff_of_false (fun h => nomatch h) (fun h => nomatch h)

/-- Of a document whose authority's part, if any, is a table, every field is told by the value of
    its own name: it is accepted exactly if the values of the six names that are given are strings
    and that of the endpoint can be read; the configuration then has these values, and the usual
    ones where none is given, so that it always has a path for the key; and any other document
    with the same six values loads to the same configuration. -/
theorem load_of_six_fields {fs : FileSystem} {path : Path} (hfile : Holds fs path entries)
    (hca : CaIsTable entries) :
    ((∃ config, load fs path = .ok config) ↔ Acceptable entries)
      ∧ (∀ config, load fs path = .ok config ↔ Describes entries config)
      ∧ (∀ config, load fs path = .ok config → ∃ p, config.ca.keyPath = some p)
      ∧ ∀ fs' path' other, Holds fs' path' other → CaIsTable other → Agree entries other →
          ∀ config, load fs path = .ok config ↔ load fs' path' = .ok config := by
  have hload (config : Config) : load fs path = .ok config ↔ Describes entries config :=
    load_eq_ok_iff_describes hfile hca
  refine ⟨?_, hload, fun config h => ((hload config).mp h).ca.exists_keyPath, ?_⟩
  · rw [← exists_describes_iff]
    exact exists_congr hload
  · intro fs' path' other hother hca' hagree config
    rw [hload, load_eq_ok_iff_describes hother hca']
    exact ⟨fun h => h.of_agree hagree, fun h => h.of_agree hagree.symm⟩

/-! ## Two spellings of one configuration -/

/-- A document with a header for the authority's table, and with names that mean nothing. -/
def headedDocument : String :=
  "extra = true\nlisten = \"proxy.local:3128\"\n[ca]\nmore.deep = true\n"
    ++ "installed_path = \"/tmp/ca.crt\"\n[[other]]\n"

/-- A document with a table in braces, the other way around. -/
def inlineDocument : String :=
  "ca = \x7b installed_path = '/tmp/ca.crt' \x7d\n\"listen\" = \"proxy.local:3128\"\n"

/-- A working directory with a document in it. -/
def documentFiles (document : String) : FileSystem :=
  .oneFile "config.toml" (Text.encodeUtf8 document.toList)

/-- What both of them describe. -/
def spelledConfig : Config :=
  { Config.default with
    listen := ⟨"proxy.local", 3128⟩
    ca := { CaConfig.default with installedPath := some (Path.ofString "/tmp/ca.crt") } }

/-- A table with a header of its own and an inline table, in another order and with names that
    mean nothing, tell the same. -/
theorem load_of_six_fields_spelled :
    load (documentFiles headedDocument) (Path.ofString "config.toml") = .ok spelledConfig
      ∧ load (documentFiles inlineDocument) (Path.ofString "config.toml") = .ok spelledConfig := by
  obtain ⟨headed, hheaded, hca, hdescribes⟩ : ∃ entries ∈ Toml.parse? headedDocument.toList,
      CaIsTable entries ∧ Describes entries spelledConfig := by
    decide +kernel
  obtain ⟨inline, hinline, hca', hdescribes'⟩ : ∃ entries ∈ Toml.parse? inlineDocument.toList,
      CaIsTable entries ∧ Describes entries spelledConfig := by
    decide +kernel
  have hfile : Holds (documentFiles headedDocument) (Path.ofString "config.toml") headed :=
    ⟨headedDocument.toList, toOption_eq_some_iff.mp (by decide +kernel), hheaded⟩
  have hfile' : Holds (documentFiles inlineDocument) (Path.ofString "config.toml") inline :=
    ⟨inlineDocument.toList, toOption_eq_some_iff.mp (by decide +kernel), hinline⟩
  exact ⟨((load_of_six_fields hfile hca).2.1 spelledConfig).mpr hdescribes,
    ((load_of_six_fields hfile' hca').2.1 spelledConfig).mpr hdescribes'⟩

end ProxyTrust.Config
