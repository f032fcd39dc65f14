/-
  Names of tables are given once.

  1. **Proper nodes** — a node is proper if no table in it, at any depth, holds a name twice.  It
     is a predicate by induction on the nesting, since tables hold values and values hold tables.

  2. **Tables** — a value is added only under a name that is free, and a change at the end of a
     path leaves all names on the way as they are, so that both keep a table proper.
     `Change.Keeps` says that of a change to one table, and `Change.Keeps.changeAt` carries it
     along a path, by induction on the path.

  3. **Values** — a reader of values `ReadsProper` if whatever it reads is proper.  Numbers, dates
     and strings hold no table.  An array and an inline table read their values by the reader for
     the nesting below, so that by induction on the nesting every value that is read is proper
     (`readsProper_value`).

  4. **Documents** — statements have proper values, sections collect them, and adding them one
     after the other keeps the document proper.  Hence so is a whole document
     (`proper_of_parse?`): a look-up by name finds the one value that the name has.
-/
import Mathlib.Logic.Basic
import ProxyTrust.Toml.Document

namespace ProxyTrust.Toml

variable {entries inside after : Entries} {node found : Node} {key name : String} {kind : TableKind}

/-! ## Proper nodes -/

/-- No table in the node holds a name twice. -/
inductive Node.Proper : Node → Prop
  | string (text : String) : Proper (.string text)
  | integer (n : Int) : Proper (.integer n)
  | float (x : Double) : Proper (.float x)
  | boolean (b : Bool) : Proper (.boolean b)
  | dateTime : Proper .dateTime
  | array {items : List Node} (hitems : ∀ n ∈ items, Proper n) : Proper (.array items)
  | table {kind : TableKind} {entries : Entries} (hnames : (entries.map (·.1)).Nodup)
      (hvalues : ∀ e ∈ entries, Proper e.2) : Proper (.table kind entries)
  | tables {items : List Entries} (hnames : ∀ t ∈ items, (t.map (·.1)).Nodup)
      (hvalues : ∀ t ∈ items, ∀ e ∈ t, Proper e.2) : Proper (.tables items)

/-- No name is there twice, neither among the entries nor in a table inside. -/
structure Entries.Proper (entries : Entries) : Prop where
  names : (entries.map (·.1)).Nodup
  values : ∀ e ∈ entries, e.2.Proper

theorem proper_table_iff : (Node.table kind entries).Proper ↔ entries.Proper := by
  constructor
  · rintro ⟨⟩
    next hnames hvalues => exact ⟨hnames, hvalues⟩
  · exact fun h => .table h.names h.values

theorem proper_tables_iff {items : List Entries} :
    (Node.tables items).Proper ↔ ∀ t ∈ items, t.Proper := by
  constructor
  · rintro ⟨⟩
    next hnames hvalues => exact fun t ht => ⟨hnames t ht, hvalues t ht⟩
  · exact fun h => .tables (fun t ht => (h t ht).names) (fun t ht => (h t ht).values)

theorem Entries.Proper.nil : Entries.Proper [] := ⟨List.nodup_nil, fun _ he => nomatch he⟩

/-! ## Look-ups -/

theorem Entries.get?_cons (node : Node) (entries : Entries) (key : String) :
    Entries.get? ((name, node) :: entries) key
      = if name = key then some node else entries.get? key := by
  by_cases hname : name = key <;> simp [Entries.get?, hname]

/-- Nothing is found under a name exactly if the name is not there. -/
theorem Entries.get?_eq_none_iff : entries.get? key = none ↔ key ∉ entries.map (·.1) := by
  rw [Entries.get?, Option.map_eq_none_iff, List.find?_eq_none, List.mem_map, not_exists]
  refine forall_congr' fun e => ?_
  rw [not_and]
  exact imp_congr_right fun _ => by rw [beq_iff_eq]

theorem Entries.mem_of_get? (h : entries.get? key = some node) : (key, node) ∈ entries := by
  obtain ⟨⟨found, value⟩, hfind, rfl⟩ := Option.map_eq_some_iff.mp h
  obtain rfl : found = key := by simpa using List.find?_some hfind
  exact List.mem_of_find?_eq_some hfind

theorem Entries.Proper.of_get? (h : entries.Proper) (hget : entries.get? key = some node) :
    node.Proper :=
  h.values _ (Entries.mem_of_get? hget)

/-! ## Tables -/

/-- A value under a name that is free. -/
theorem Entries.Proper.push (h : entries.Proper) (hfree : entries.get? key = none)
    (hnode : node.Proper) : (entries.push key node).Proper where
  names := by
    rw [Entries.push, List.map_append, List.map_singleton, List.nodup_append]
    refine ⟨h.names, List.nodup_cons.mpr ⟨List.not_mem_nil, List.nodup_nil⟩, ?_⟩
    rintro name hname other hother rfl
    rw [List.mem_singleton.mp hother] at hname
    exact Entries.get?_eq_none_iff.mp hfree hname
  values := by
    intro e he
    rcases List.mem_append.mp he with he | he
    · exact h.values e he
    · rw [List.mem_singleton.mp he]
      exact hnode

/-- Another value under a name. -/
theorem Entries.Proper.replace (h : entries.Proper) (key : String) (hnode : node.Proper) :
    (entries.replace key node).Proper where
  names := by
    have hsame : (entries.replace key node).map (·.1) = entries.map (·.1) := by
      rw [Entries.replace, List.map_map]
      refine List.map_congr_left fun e _ => ?_
      by_cases hname : e.1 = key <;> simp [hname]
    rw [hsame]
    exact h.names
  values := by
    intro e he
    obtain ⟨before, hbefore, rfl⟩ := List.mem_map.mp he
    split
    · exact hnode
    · exact h.values before hbefore

theorem Entries.Proper.erase (h : entries.Proper) (key : String) : (entries.erase key).Proper where
  names := h.names.sublist (List.filter_sublist.map _)
  values := fun e he => h.values e (List.mem_filter.mp he).1

theorem Entries.get?_erase (entries : Entries) (key : String) :
    (entries.erase key).get? key = none := by
  rw [Entries.get?_eq_none_iff]
  intro hmem
  obtain ⟨e, he, hname⟩ := List.mem_map.mp hmem
  exact absurd (List.mem_filter.mp he).2 (by simp [hname])

/-- A change that keeps proper tables proper. -/
def Change.Keeps (change : Change) : Prop :=
  ∀ {kind : TableKind} {inside after : Entries},
    inside.Proper → change kind inside = some after → after.Proper

/-- So does that change at the end of a path. -/
theorem Change.Keeps.changeAt {change : Change} (hchange : change.Keeps) {dotted : Bool}
    {path : List String} (h : entries.Proper)
    (hafter : changeAt dotted change kind entries path = some after) : after.Proper := by
  induction path generalizing kind entries after with
  | nil => exact hchange h hafter
  | cons key path ih =>
    rw [Toml.changeAt] at hafter
    split at hafter
    · -- the name is free, and a new table is put there
      next hfree =>
      obtain ⟨below, hbelow, rfl⟩ := Option.map_eq_some_iff.mp hafter
      exact h.push hfree (proper_table_iff.mpr (ih .nil hbelow))
    · nomatch hafter
    · -- there is a table, and the path goes on inside it
      next below inside _ hget =>
      split at hafter
      · nomatch hafter
      · obtain ⟨changed, hchanged, rfl⟩ := Option.map_eq_some_iff.mp hafter
        exact h.replace key
          (proper_table_iff.mpr (ih (proper_table_iff.mp (h.of_get? hget)) hchanged))
    · -- there is a row of tables, and the path goes on inside the last one
      next items hget =>
      have hitems := proper_tables_iff.mp (h.of_get? hget)
      split at hafter
      · nomatch hafter
      · next last hlast =>
        obtain ⟨changed, hchanged, rfl⟩ := Option.map_eq_some_iff.mp hafter
        refine h.replace key (proper_tables_iff.mpr fun t ht => ?_)
        rcases List.mem_append.mp ht with ht | ht
        · exact hitems t ((List.dropLast_sublist items).subset ht)
        · rw [List.mem_singleton.mp ht]
          exact ih (hitems last (List.mem_of_getLast? hlast)) hchanged
    · nomatch hafter

/-- A pair is added to a proper table. -/
theorem proper_of_addPair {path : List String} (h : entries.Proper) (hnode : node.Proper)
    (hafter : addPair kind entries path key node = some after) : after.Proper := by
  refine Change.Keeps.changeAt ?_ h hafter
  intro kind inside after hinside hadd
  dsimp only at hadd
  split at hadd
  · nomatch hadd
  · split at hadd
    · nomatch hadd
    · next hfree =>
      obtain rfl := Option.some.inj hadd
      exact hinside.push (by simpa using hfree) hnode

/-- Pairs with proper values. -/
def ProperPairs (pairs : List (List String × String × Node)) : Prop := ∀ e ∈ pairs, e.2.2.Proper

/-- Hence pairs that are added one by one leave a table proper. -/
theorem proper_of_addPairs {pairs : List (List String × String × Node)} (h : entries.Proper)
    (hpairs : ProperPairs pairs) (hafter : addPairs kind entries pairs = some after) :
      after.Proper := by
  induction pairs generalizing entries with
  | nil =>
    obtain rfl := Option.some.inj hafter
    exact h
  | cons e pairs ih =>
    obtain ⟨hnode, hpairs⟩ := List.forall_mem_cons.mp hpairs
    rw [addPairs] at hafter
    split at hafter
    · next hadd => exact ih (proper_of_addPair h hnode hadd) hpairs hafter
    · nomatch hafter

/-- A section of a header is added to a proper document. -/
theorem proper_of_addSection {s : Section} (h : entries.Proper) (hpairs : ProperPairs s.pairs)
    (hafter : addSection entries s = some after) : after.Proper := by
  rw [addSection] at hafter
  split at hafter
  · refine Change.Keeps.changeAt ?_ h hafter
    intro kind inside after hinside hadd
    dsimp only at hadd
    split at hadd
    · next hfree =>
      obtain ⟨made, hmade, rfl⟩ := Option.map_eq_some_iff.mp hadd
      refine hinside.push hfree (proper_tables_iff.mpr fun t ht => ?_)
      rw [List.mem_singleton.mp ht]
      exact proper_of_addPairs .nil hpairs hmade
    · next items hget =>
      obtain ⟨made, hmade, rfl⟩ := Option.map_eq_some_iff.mp hadd
      refine hinside.replace s.key (proper_tables_iff.mpr fun t ht => ?_)
      rcases List.mem_append.mp ht with ht | ht
      · exact proper_tables_iff.mp (hinside.of_get? hget) t ht
      · rw [List.mem_singleton.mp ht]
        exact proper_of_addPairs .nil hpairs hmade
    · nomatch hadd
  · refine Change.Keeps.changeAt ?_ h hafter
    intro kind inside after hinside hadd
    dsimp only at hadd
    split at hadd
    · next hfree =>
      obtain ⟨made, hmade, rfl⟩ := Option.map_eq_some_iff.mp hadd
      exact hinside.push hfree (proper_table_iff.mpr (proper_of_addPairs .nil hpairs hmade))
    · next below hget =>
      obtain ⟨made, hmade, rfl⟩ := Option.map_eq_some_iff.mp hadd
      have hbelow := proper_table_iff.mp (hinside.of_get? hget)
      exact (hinside.erase s.key).push (Entries.get?_erase inside s.key)
        (proper_table_iff.mpr (proper_of_addPairs hbelow hpairs hmade))
    · nomatch hadd

/-- Sections that are added one by one leave a document proper. -/
theorem proper_of_addSections {later : List Section} (h : entries.Proper)
    (hlater : ∀ s ∈ later, ProperPairs s.pairs) (hafter : addSections entries later = some after) :
    after.Proper := by
  induction later generalizing entries with
  | nil =>
    obtain rfl := Option.some.inj hafter
    exact h
  | cons s later ih =>
    obtain ⟨hpairs, hlater⟩ := List.forall_mem_cons.mp hlater
    rw [addSections] at hafter
    split at hafter
    · next hadd => exact ih (proper_of_addSection h hpairs hadd) hlater hafter
    · nomatch hafter

/-! ## Values -/

/-- Whatever the reader reads is proper. -/
def ReadsProper (item : Read Node) : Prop :=
  ∀ {s : List Char} {read : Node × List Char}, item s = some read → read.1.Proper

theorem proper_of_integer {negative : Bool} {n : Nat} (h : integer negative n = some node) :
    node.Proper := by
  rw [integer] at h
  split at h
  · split at h
    · obtain rfl := Option.some.inj h
      exact .integer _
    · nomatch h
  · split at h
    · obtain rfl := Option.some.inj h
      exact .integer _
    · nomatch h

theorem proper_of_float {negative : Bool} {digits : List Char} {exponent : Int}
    (h : float negative digits exponent = some node) : node.Proper := by
  rw [float] at h
  split at h
  · nomatch h
  · obtain rfl := Option.some.inj h
    exact .float _

theorem readsProper_namedNumber : ReadsProper namedNumber := by
  intro s read h
  rw [namedNumber] at h
  dsimp only at h
  split at h
  · obtain rfl := Option.some.inj h
    exact .float _
  · obtain rfl := Option.some.inj h
    exact .float _
  · nomatch h

theorem readsProper_basedInteger (base : Nat) : ReadsProper (basedInteger base) := by
  intro s read h
  obtain ⟨digits, -, h⟩ := Option.bind_eq_some_iff.mp h
  obtain ⟨node, hnode, h⟩ := Option.bind_eq_some_iff.mp h
  obtain rfl := Option.some.inj h
  exact proper_of_integer hnode

theorem readsProper_decimalNumber : ReadsProper decimalNumber := by
  intro s read h
  obtain ⟨⟨whole, rest⟩, -, h⟩ := Option.bind_eq_some_iff.mp h
  rcases ite_eq_iff.mp h with ⟨-, h⟩ | ⟨-, h⟩
  · obtain ⟨node, hnode, h⟩ := Option.bind_eq_some_iff.mp h
    obtain rfl := Option.some.inj h
    exact proper_of_integer hnode
  · obtain ⟨part, -, h⟩ := Option.bind_eq_some_iff.mp h
    obtain ⟨power, -, h⟩ := Option.bind_eq_some_iff.mp h
    obtain ⟨node, hnode, h⟩ := Option.bind_eq_some_iff.mp h
    obtain rfl := Option.some.inj h
    exact proper_of_float hnode

/-- A number of any form holds no table. -/
theorem readsProper_number : ReadsProper number := by
  intro s read h
  rw [number.eq_def] at h
  split at h
  · obtain ⟨r, -, rfl⟩ := Option.map_eq_some_iff.mp h
    exact .dateTime
  split at h
  · obtain ⟨r, -, rfl⟩ := Option.map_eq_some_iff.mp h
    exact .dateTime
  split at h
  · next hnamed =>
    obtain rfl := Option.some.inj h
    exact readsProper_namedNumber hnamed
  · split at h
    · exact readsProper_basedInteger 16 h
    · exact readsProper_basedInteger 8 h
    · exact readsProper_basedInteger 2 h
    · exact readsProper_decimalNumber h

/-- The items of an array. -/
theorem proper_of_items {item : Read Node} (hitem : ReadsProper item) {fuel : Nat} {s : List Char}
    {read : List Node × List Char} (h : items item fuel s = some read) :
      ∀ n ∈ read.1, n.Proper := by
  induction fuel generalizing s read with
  | zero => nomatch h
  | succ fuel ih =>
    rw [items] at h
    split at h
    · obtain rfl := Option.some.inj h
      exact fun n hn => nomatch hn
    · split at h
      · nomatch h
      · next node rest hread =>
        have hnode : node.Proper := hitem hread
        split at h
        · obtain rfl := Option.some.inj h
          exact fun n hn => by rw [List.mem_singleton.mp hn]; exact hnode
        · -- a comma, and more items after it
          obtain ⟨more, hmore, rfl⟩ := Option.map_eq_some_iff.mp h
          exact List.forall_mem_cons.mpr ⟨hnode, ih hmore⟩
        · nomatch h

/-- The value of a pair is proper. -/
theorem proper_of_pair {item : Read Node} (hitem : ReadsProper item) {s : List Char}
    {read : (List String × String × Node) × List Char} (h : pair item s = some read) :
      read.1.2.2.Proper := by
  rw [pair] at h
  split at h
  · obtain ⟨value, hvalue, rfl⟩ := Option.map_eq_some_iff.mp h
    exact hitem hvalue
  · nomatch h

/-- The pairs of a table in braces. -/
theorem proper_of_pairs {item : Read Node} (hitem : ReadsProper item) {fuel : Nat} {s : List Char}
    {read : List (List String × String × Node) × List Char} (h : pairs item fuel s = some read) :
    ProperPairs read.1 := by
  induction fuel generalizing s read with
  | zero => nomatch h
  | succ fuel ih =>
    rw [pairs] at h
    split at h
    · nomatch h
    · next entry rest hread =>
      have hentry : entry.2.2.Proper := proper_of_pair hitem hread
      split at h
      · obtain rfl := Option.some.inj h
        exact fun e he => by rw [List.mem_singleton.mp he]; exact hentry
      · obtain ⟨more, hmore, rfl⟩ := Option.map_eq_some_iff.mp h
        exact List.forall_mem_cons.mpr ⟨hentry, ih hmore⟩
      · nomatch h

/-- A table of pairs is proper, as it adds each name once. -/
theorem readsProper_inlineTable {item : Read Node} (hitem : ReadsProper item) :
    ReadsProper (inlineTable item) := by
  intro s read h
  rw [inlineTable] at h
  split at h
  · obtain rfl := Option.some.inj h
    exact proper_table_iff.mpr .nil
  · split at h
    · nomatch h
    · next entries rest hread =>
      obtain ⟨table, htable, rfl⟩ := Option.map_eq_some_iff.mp h
      exact proper_table_iff.mpr (proper_of_addPairs .nil (proper_of_pairs hitem hread) htable)

/-- A value is proper if the values of arrays and tables in it are. -/
theorem readsProper_value_of {depth : Nat}
    (hless : ∀ less, depth = less + 1 → ReadsProper (value less)) : ReadsProper (value depth) := by
  intro s read h
  rw [value.eq_def] at h
  split at h
  · nomatch h
  split at h
  · obtain ⟨text, -, rfl⟩ := Option.map_eq_some_iff.mp h
    exact .string _
  split at h
  · cases depth with
    | zero => nomatch h
    | succ less =>
      obtain ⟨list, hlist, rfl⟩ := Option.map_eq_some_iff.mp h
      exact .array (proper_of_items (hless less rfl) hlist)
  split at h
  · cases depth with
    | zero => nomatch h
    | succ less => exact readsProper_inlineTable (hless less rfl) h
  split at h
  · exact readsProper_number h
  split at h
  · obtain rfl := Option.some.inj h
    exact .boolean true
  split at h
  · obtain rfl := Option.some.inj h
    exact .boolean false
  · exact readsProper_namedNumber h

/-- Every value that is read is proper. -/
theorem readsProper_value (depth : Nat) : ReadsProper (value depth) := by
  induction depth with
  | zero => exact readsProper_value_of fun less h => absurd h (Nat.succ_ne_zero less).symm
  | succ depth ih =>
    refine readsProper_value_of fun less h => ?_
    obtain rfl := Nat.succ.inj h
    exact ih

/-! ## Documents -/

/-- The value of a statement, if it is a pair, is proper. -/
def Statement.Proper : Statement → Prop
  | .pair _ _ node => node.Proper
  | .header _ _ _ => True

theorem proper_of_header {repeated : Bool} {s : List Char} {read : Statement × List Char}
    (h : header repeated s = some read) : read.1.Proper := by
  obtain ⟨name, -, h⟩ := Option.bind_eq_some_iff.mp h
  obtain ⟨closed, -, h⟩ := Option.bind_eq_some_iff.mp h
  obtain ⟨rest, -, h⟩ := Option.bind_eq_some_iff.mp h
  obtain rfl := Option.some.inj h
  trivial

/-- A statement is a header, or a pair with a proper value. -/
theorem proper_of_statement {s : List Char} {read : Statement × List Char}
    (h : statement s = some read) : read.1.Proper := by
  rw [statement.eq_def] at h
  split at h
  · exact proper_of_header h
  · exact proper_of_header h
  · obtain ⟨entry, hentry, h⟩ := Option.bind_eq_some_iff.mp h
    obtain ⟨rest, -, h⟩ := Option.bind_eq_some_iff.mp h
    obtain rfl := Option.some.inj h
    exact proper_of_pair (readsProper_value _) hentry

/-- So all statements of a text are proper, by induction on what is left of it. -/
theorem proper_of_statements {fuel : Nat} {s : List Char} {all : List Statement}
    (h : statements fuel s = some all) : ∀ line ∈ all, line.Proper := by
  induction fuel generalizing s all with
  | zero =>
    rw [statements] at h
    split at h
    · obtain rfl := Option.some.inj h
      exact fun line hline => nomatch hline
    · nomatch h
  | succ fuel ih =>
    rw [statements] at h
    split at h
    · obtain rfl := Option.some.inj h
      exact fun line hline => nomatch hline
    dsimp only at h
    split at h
    · obtain rfl := Option.some.inj h
      exact fun line hline => nomatch hline
    split at h
    · nomatch h
    · next hfirst =>
      obtain ⟨more, hmore, rfl⟩ := Option.map_eq_some_iff.mp h
      exact List.forall_mem_cons.mpr ⟨proper_of_statement hfirst, ih hmore⟩

/-- The pairs before the first header and those of each section have proper values. -/
theorem proper_of_sections {all : List Statement} (h : ∀ line ∈ all, line.Proper) :
    ProperPairs (sections all).1 ∧ ∀ s ∈ (sections all).2, ProperPairs s.pairs := by
  induction all with
  | nil => exact ⟨fun _ he => (nomatch he), fun _ hs => (nomatch hs)⟩
  | cons line all ih =>
    obtain ⟨hline, hall⟩ := List.forall_mem_cons.mp h
    obtain ⟨hpairs, hlater⟩ := ih hall
    cases line with
    | pair path key node => exact ⟨List.forall_mem_cons.mpr ⟨hline, hpairs⟩, hlater⟩
    | header repeated path key =>
      exact ⟨fun _ he => (nomatch he), List.forall_mem_cons.mpr ⟨hpairs, hlater⟩⟩

/-- A document that is read holds no name twice, in no table of it. -/
theorem proper_of_parse? {text : List Char} (h : parse? text = some entries) : entries.Proper := by
  obtain ⟨all, hall, h⟩ := Option.bind_eq_some_iff.mp h
  obtain ⟨root, hroot, h⟩ := Option.bind_eq_some_iff.mp h
  obtain ⟨hpairs, hlater⟩ := proper_of_sections (proper_of_statements hall)
  exact proper_of_addSections (proper_of_addPairs .nil hpairs hroot) hlater h

end ProxyTrust.Toml
