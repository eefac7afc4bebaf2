import RefPolicy.Toml.Reader

/-!
# RefPolicy.Proofs.DistinctKeys

No table of a TOML document has two entries under one key.  A document that
tries is refused, by `Entries.changeAt` for the tables that its lines build
and by `inlineTable` for those written inline; what is left is that every
step keeps the keys of all tables apart.

* `Entries.distinct_changeAt` — one step on the tables under construction;
* `readsDistinct_readValue` — a value on its own;
* `distinct_of_parse?` — a whole document.
-/

namespace RefPolicy.Toml

/-- Neither an array nor a table. -/
def Value.IsLeaf : Value → Prop
  | array _ | table _ => False
  | _ => True

/-- In every table within the value, each key stands once. -/
inductive Value.Distinct : Value → Prop
  | leaf {value : Value} (h : value.IsLeaf) : Distinct value
  | array {items : List Value} (inner : ∀ item ∈ items, Distinct item) : Distinct (.array items)
  | table {entries : List (String × Value)} (keys : (entries.map Prod.fst).Nodup)
      (inner : ∀ entry ∈ entries, Distinct entry.2) : Distinct (.table entries)

/-- The same of a part of a document under construction. -/
inductive Node.Distinct : Node → Prop
  | closed {value : Value} (h : value.Distinct) : Distinct (.closed value)
  | table {origin : Origin} {entries : List (String × Node)} (keys : (entries.map Prod.fst).Nodup)
      (inner : ∀ entry ∈ entries, Distinct entry.2) : Distinct (.table origin entries)
  | tables {items : List (List (String × Node))}
      (keys : ∀ entries ∈ items, (entries.map Prod.fst).Nodup)
      (inner : ∀ entries ∈ items, ∀ entry ∈ entries, Distinct entry.2) : Distinct (.tables items)

namespace Entries

/-- Each key stands once, here and in every table below. -/
structure Distinct (entries : Entries) : Prop where
  keys : (entries.map Prod.fst).Nodup
  inner : ∀ entry ∈ entries, entry.2.Distinct

variable {entries result : Entries} {key : String} {node : Node}

theorem distinct_nil : Distinct [] := ⟨List.nodup_nil, by simp⟩

/-- Nothing stands under a key exactly if no entry has it. -/
theorem node?_eq_none_iff : entries.node? key = none ↔ key ∉ entries.map Prod.fst := by
  simp only [node?, Option.map_eq_none_iff, List.find?_eq_none, beq_iff_eq, List.mem_map,
    not_exists, not_and]

/-- What stands under a key is an entry. -/
theorem mem_of_node? (h : entries.node? key = some node) : (key, node) ∈ entries := by
  obtain ⟨entry, hfind, hnode⟩ := Option.map_eq_some_iff.mp h
  have hkey : entry.1 = key := by simpa using List.find?_some hfind
  have hentry : entry = (key, node) := Prod.ext hkey hnode
  exact hentry ▸ List.mem_of_find?_eq_some hfind

/-- A key that is new may be added. -/
theorem distinct_add (h : entries.Distinct) (hnew : entries.node? key = none)
    (hnode : node.Distinct) : (entries.add key node).Distinct := by
  constructor
  · rw [add, List.map_append, List.map_singleton]
    refine List.nodup_append.mpr ⟨h.keys, by simp, fun other hother last hlast => ?_⟩
    have hlast : last = key := List.mem_singleton.mp hlast
    rintro rfl
    exact node?_eq_none_iff.mp hnew (hlast ▸ hother)
  · intro entry hentry
    rcases List.mem_append.mp hentry with hold | hlast
    · exact h.inner entry hold
    · rw [List.mem_singleton.mp hlast]
      exact hnode

theorem map_fst_replace : (entries.replace key node).map Prod.fst = entries.map Prod.fst := by
  rw [replace, List.map_map]
  refine List.map_congr_left fun entry _ => ?_
  by_cases hkey : entry.1 = key <;> simp [hkey]

/-- What stands under a key may be replaced. -/
theorem distinct_replace (h : entries.Distinct) (hnode : node.Distinct) :
    (entries.replace key node).Distinct := by
  constructor
  · rw [map_fst_replace]
    exact h.keys
  · intro entry hentry
    obtain ⟨old, hold, rfl⟩ := List.mem_map.mp hentry
    split
    · exact hnode
    · exact h.inner old hold

/-! ## Steps on the tables under construction -/

/-- What keeps keys apart in the table at the end of a path keeps them apart in
the table it starts from. -/
theorem distinct_changeAt {dotted : Bool} {change : Bool → Entries → Option Entries}
    (hchange : ∀ {isDotted entries result}, Entries.Distinct entries →
      change isDotted entries = some result → result.Distinct)
    {path : List String} {isDotted : Bool} (h : entries.Distinct)
    (hresult : changeAt dotted change path isDotted entries = some result) : result.Distinct := by
  -- On the way down, a key is new, leads to a table, or leads to a list of tables,
  -- of which the last is gone into.
  induction path generalizing isDotted entries result with
  | nil => exact hchange h hresult
  | cons key path ih =>
      rw [changeAt] at hresult
      split at hresult
      · next hnone =>
        obtain ⟨inner, hinner, hsome⟩ := Option.bind_eq_some_iff.mp hresult
        obtain ⟨hkeys, hnodes⟩ := ih distinct_nil hinner
        rw [← Option.some.inj hsome]
        exact distinct_add h hnone (.table hkeys hnodes)
      · next origin inner hfound =>
        split at hresult
        · contradiction
        · obtain ⟨changed, hchanged, hsome⟩ := Option.bind_eq_some_iff.mp hresult
          cases h.inner _ (mem_of_node? hfound) with
          | table hkeys hnodes =>
              obtain ⟨hkeys', hnodes'⟩ := ih ⟨hkeys, hnodes⟩ hchanged
              rw [← Option.some.inj hsome]
              exact distinct_replace h (.table hkeys' hnodes')
      · next items hfound =>
        split at hresult
        · next last hlast =>
          obtain ⟨changed, hchanged, hsome⟩ := Option.bind_eq_some_iff.mp hresult
          cases h.inner _ (mem_of_node? hfound) with
          | tables hkeys hnodes =>
              have hmem := List.mem_of_getLast? hlast
              have hlast' := ih ⟨hkeys last hmem, hnodes last hmem⟩ hchanged
              have hall : ∀ item ∈ items.dropLast ++ [changed], Distinct item := by
                intro item hitem
                rcases List.mem_append.mp hitem with hold | hnew
                · have hold' := (List.dropLast_sublist items).subset hold
                  exact ⟨hkeys item hold', hnodes item hold'⟩
                · rw [List.mem_singleton.mp hnew]
                  exact hlast'
              rw [← Option.some.inj hsome]
              exact distinct_replace h
                (.tables (fun item hitem => (hall item hitem).keys)
                  fun item hitem => (hall item hitem).inner)
        · contradiction
      · contradiction

/-- An assignment is refused where something stands, and adds a new key elsewhere. -/
theorem distinct_assign {path : List String} {value : Value} {isDotted : Bool}
    (hvalue : value.Distinct) (h : entries.Distinct)
    (hresult : assign path value isDotted entries = some result) : result.Distinct := by
  refine distinct_changeAt (fun {isDotted entries result} hentries hchange => ?_) h hresult
  split at hchange
  · next last _ =>
    split at hchange
    · contradiction
    · next hallowed =>
      rw [Bool.or_eq_true, not_or, Bool.not_eq_true, Bool.not_eq_true,
        Option.isSome_eq_false_iff, Option.isNone_iff_eq_none] at hallowed
      rw [← Option.some.inj hchange]
      exact distinct_add hentries hallowed.2 (.closed hvalue)
  · contradiction

/-- So is the header of a table, but for a table that only paths have led to. -/
theorem distinct_openTable {path : List String} (h : entries.Distinct)
    (hresult : openTable path entries = some result) : result.Distinct := by
  refine distinct_changeAt (fun {isDotted entries result} hentries hchange => ?_) h hresult
  obtain ⟨last, -, hchange⟩ := Option.bind_eq_some_iff.mp hchange
  split at hchange
  · next hnone =>
    rw [← Option.some.inj hchange]
    exact distinct_add hentries hnone (.table List.nodup_nil (by simp))
  · next inner hfound =>
    cases hentries.inner _ (mem_of_node? hfound) with
    | table hkeys hnodes =>
        rw [← Option.some.inj hchange]
        exact distinct_replace hentries (.table hkeys hnodes)
  · contradiction

/-- The header of an item adds to the items there are, or the first one of a new key. -/
theorem distinct_openItem {path : List String} (h : entries.Distinct)
    (hresult : openItem path entries = some result) : result.Distinct := by
  refine distinct_changeAt (fun {isDotted entries result} hentries hchange => ?_) h hresult
  obtain ⟨last, -, hchange⟩ := Option.bind_eq_some_iff.mp hchange
  split at hchange
  · next hnone =>
    rw [← Option.some.inj hchange]
    exact distinct_add hentries hnone (.tables (by simp) (by simp))
  · next items hfound =>
    cases hentries.inner _ (mem_of_node? hfound) with
    | tables hkeys hnodes =>
        rw [← Option.some.inj hchange]
        have hall : ∀ item ∈ items ++ [[]], Distinct item := by
          intro item hitem
          rcases List.mem_append.mp hitem with hold | hnew
          · exact ⟨hkeys item hold, hnodes item hold⟩
          · rw [List.mem_singleton.mp hnew]
            exact distinct_nil
        exact distinct_replace hentries
          (.tables (fun item hitem => (hall item hitem).keys)
            fun item hitem => (hall item hitem).inner)
  · contradiction

end Entries

/-! ## What the tables hold in the end -/

theorem Node.entryValues_eq_map (entries : Entries) :
    Node.entryValues entries = entries.map fun entry => (entry.1, entry.2.value) := by
  induction entries with
  | nil => rfl
  | cons entry entries ih => rw [Node.entryValues, ih, List.map_cons]

theorem Node.itemValues_eq_map (items : List Entries) :
    Node.itemValues items = items.map fun entries => .table (Node.entryValues entries) := by
  induction items with
  | nil => rfl
  | cons entries items ih => rw [Node.itemValues, ih, List.map_cons]

/-- Tables keep their keys when they are closed. -/
theorem map_fst_entryValues (entries : Entries) :
    (Node.entryValues entries).map Prod.fst = entries.map Prod.fst := by
  rw [Node.entryValues_eq_map, List.map_map]
  rfl

/-- So a table has distinct keys, if what stands in it has. -/
theorem distinct_table_entryValues {entries : Entries} (hkeys : (entries.map Prod.fst).Nodup)
    (hvalues : ∀ entry ∈ entries, entry.2.value.Distinct) :
    (Value.table (Node.entryValues entries)).Distinct := by
  refine .table (map_fst_entryValues entries ▸ hkeys) fun entry hentry => ?_
  rw [Node.entryValues_eq_map] at hentry
  obtain ⟨node, hnode, rfl⟩ := List.mem_map.mp hentry
  exact hvalues node hnode

/-- Nothing under construction has a key twice when it is closed. -/
theorem Node.Distinct.value {node : Node} (h : node.Distinct) : node.value.Distinct := by
  induction h with
  | closed hvalue => exact hvalue
  | table hkeys _ ih => exact distinct_table_entryValues hkeys ih
  | @tables items hkeys _ ih =>
      rw [Node.value, Node.itemValues_eq_map]
      refine .array fun item hitem => ?_
      obtain ⟨entries, hentries, rfl⟩ := List.mem_map.mp hitem
      exact distinct_table_entryValues (hkeys entries hentries) (ih entries hentries)

/-- The table of a whole document has distinct keys. -/
theorem Entries.Distinct.table {entries : Entries} (h : entries.Distinct) :
    (Value.table (Node.entryValues entries)).Distinct :=
  distinct_table_entryValues h.keys fun entry hentry => (h.inner entry hentry).value

/-! ## Values -/

/-- An inline table is built by assignments as a document is. -/
theorem distinct_inlineTable {assignments : List (List String × Value)} {value : Value}
    (h : ∀ assignment ∈ assignments, assignment.2.Distinct)
    (hvalue : inlineTable assignments = some value) : value.Distinct := by
  obtain ⟨entries, hfold, rfl⟩ := Option.map_eq_some_iff.mp hvalue
  suffices hgeneral : ∀ before : Entries, before.Distinct →
      assignments.foldlM (fun entries (key, value) => Entries.assign key value false entries)
        before = some entries → Entries.Distinct entries from
    (hgeneral [] Entries.distinct_nil hfold).table
  clear hfold hvalue
  induction assignments with
  | nil =>
      intro before hbefore hfold
      rw [← Option.some.inj hfold]
      exact hbefore
  | cons assignment assignments ih =>
      intro before hbefore hfold
      rw [List.forall_mem_cons] at h
      rw [List.foldlM_cons] at hfold
      obtain ⟨next, hnext, hfold⟩ := Option.bind_eq_some_iff.mp hfold
      exact ih h.2 next (Entries.distinct_assign h.1 hbefore hnext) hfold

/-- What is written without brackets and quotes is neither array nor table. -/
theorem isLeaf_of_scalar? {text : List Char} {value : Value} (h : scalar? text = some value) :
    value.IsLeaf := by
  unfold scalar? at h
  split at h
  · rw [← Option.some.inj h]; trivial
  split at h
  · rw [← Option.some.inj h]; trivial
  split at h
  · rw [← Option.some.inj h]; trivial
  · rw [← Option.some.inj h]; trivial
  · obtain ⟨chars, -, rfl⟩ := Option.map_eq_some_iff.mp h
    trivial

/-- A reader of which every value has distinct keys. -/
def ReadsDistinct (readItem : List Char → Option (Value × List Char)) : Prop :=
  ∀ text value rest, readItem text = some (value, rest) → value.Distinct

/-- A value without brackets holds no table. -/
theorem readsDistinct_readPlainValue (bound : Nat) : ReadsDistinct (readPlainValue bound) := by
  intro text value rest h
  refine .leaf ?_
  unfold readPlainValue at h
  split at h
  · obtain ⟨read, -, hvalue⟩ := Option.map_eq_some_iff.mp h
    rw [← (Prod.mk.inj hvalue).1]
    trivial
  · obtain ⟨read, -, hvalue⟩ := Option.map_eq_some_iff.mp h
    rw [← (Prod.mk.inj hvalue).1]
    trivial
  · obtain ⟨word, -⟩ := splitScalar text
    obtain ⟨read, hread, hvalue⟩ := Option.map_eq_some_iff.mp h
    rw [← (Prod.mk.inj hvalue).1]
    exact isLeaf_of_scalar? hread

/-- Of an array each item is read with distinct keys. -/
theorem distinct_readItems {readItem : List Char → Option (Value × List Char)}
    (hreads : ReadsDistinct readItem) {bound : Nat} {text rest : List Char} {items : List Value}
    (h : readItems readItem bound text = some (items, rest)) : ∀ item ∈ items, item.Distinct := by
  induction bound generalizing text items rest with
  | zero => contradiction
  | succ bound ih =>
      obtain ⟨gap, -, h⟩ := Option.bind_eq_some_iff.mp h
      split at h
      · obtain ⟨rfl, -⟩ := Prod.mk.inj (Option.some.inj h)
        simp
      · obtain ⟨⟨item, afterItem⟩, hitem, h⟩ := Option.bind_eq_some_iff.mp h
        have hdistinct := hreads _ _ _ hitem
        obtain ⟨gap, -, h⟩ := Option.bind_eq_some_iff.mp h
        split at h
        · obtain ⟨⟨items, afterItems⟩, hitems, h⟩ := Option.bind_eq_some_iff.mp h
          obtain ⟨rfl, -⟩ := Prod.mk.inj (Option.some.inj h)
          exact List.forall_mem_cons.mpr ⟨hdistinct, ih hitems⟩
        · obtain ⟨rfl, -⟩ := Prod.mk.inj (Option.some.inj h)
          simpa using hdistinct
        · contradiction

/-- So is the value of an assignment. -/
theorem distinct_readAssignment {readItem : List Char → Option (Value × List Char)}
    (hreads : ReadsDistinct readItem) {bound : Nat} {text rest : List Char}
    {assignment : List String × Value}
    (h : readAssignment readItem bound text = some (assignment, rest)) :
    assignment.2.Distinct := by
  obtain ⟨⟨key, afterKey⟩, -, h⟩ := Option.bind_eq_some_iff.mp h
  dsimp only at h
  split at h
  · obtain ⟨⟨value, afterValue⟩, hvalue, h⟩ := Option.bind_eq_some_iff.mp h
    obtain ⟨rfl, -⟩ := Prod.mk.inj (Option.some.inj h)
    exact hreads _ _ _ hvalue
  · contradiction

/-- So are all values of an inline table. -/
theorem distinct_readAssignments {readItem : List Char → Option (Value × List Char)}
    (hreads : ReadsDistinct readItem) {bound : Nat} {text rest : List Char}
    {assignments : List (List String × Value)}
    (h : readAssignments readItem bound text = some (assignments, rest)) :
    ∀ assignment ∈ assignments, assignment.2.Distinct := by
  induction bound generalizing text assignments rest with
  | zero => contradiction
  | succ bound ih =>
      obtain ⟨gap, -, h⟩ := Option.bind_eq_some_iff.mp h
      split at h
      · obtain ⟨rfl, -⟩ := Prod.mk.inj (Option.some.inj h)
        simp
      · obtain ⟨⟨assignment, afterFirst⟩, hfirst, h⟩ := Option.bind_eq_some_iff.mp h
        have hdistinct := distinct_readAssignment hreads hfirst
        obtain ⟨gap, -, h⟩ := Option.bind_eq_some_iff.mp h
        split at h
        · obtain ⟨⟨assignments, afterMore⟩, hmore, h⟩ := Option.bind_eq_some_iff.mp h
          obtain ⟨rfl, -⟩ := Prod.mk.inj (Option.some.inj h)
          exact List.forall_mem_cons.mpr ⟨hdistinct, ih hmore⟩
        · obtain ⟨rfl, -⟩ := Prod.mk.inj (Option.some.inj h)
          simpa using hdistinct
        · contradiction

/-- By the depth that is left: arrays and inline tables hold what is read one deeper. -/
theorem readsDistinct_readValue (bound depth : Nat) : ReadsDistinct (readValue bound depth) := by
  induction depth with
  | zero => exact readsDistinct_readPlainValue bound
  | succ depth ih =>
      intro text value rest h
      unfold readValue at h
      split at h
      · obtain ⟨⟨items, afterItems⟩, hitems, hvalue⟩ := Option.map_eq_some_iff.mp h
        obtain ⟨rfl, -⟩ := Prod.mk.inj hvalue
        exact .array (distinct_readItems ih hitems)
      · obtain ⟨⟨assignments, afterAll⟩, hall, h⟩ := Option.bind_eq_some_iff.mp h
        obtain ⟨table, htable, h⟩ := Option.bind_eq_some_iff.mp h
        obtain ⟨rfl, -⟩ := Prod.mk.inj (Option.some.inj h)
        exact distinct_inlineTable (distinct_readAssignments ih hall) htable
      · exact readsDistinct_readPlainValue bound _ _ _ h

/-! ## Documents -/

/-- What a line assigns has distinct keys. -/
def Line.Distinct : Line → Prop
  | assignment _ value => value.Distinct
  | _ => True

/-- A line assigns a value with distinct keys, or none. -/
theorem distinct_readLine {bound : Nat} {text rest : List Char} {line : Line}
    (h : readLine bound text = some (line, rest)) : line.Distinct := by
  unfold readLine at h
  split at h
  · obtain ⟨⟨path, afterPath⟩, -, h⟩ := Option.bind_eq_some_iff.mp h
    dsimp only at h
    split at h
    · obtain ⟨rfl, -⟩ := Prod.mk.inj (Option.some.inj h)
      trivial
    · contradiction
  · obtain ⟨⟨path, afterPath⟩, -, h⟩ := Option.bind_eq_some_iff.mp h
    dsimp only at h
    split at h
    · obtain ⟨rfl, -⟩ := Prod.mk.inj (Option.some.inj h)
      trivial
    · contradiction
  · obtain ⟨⟨⟨key, value⟩, afterValue⟩, hread, hline⟩ := Option.map_eq_some_iff.mp h
    obtain ⟨rfl, -⟩ := Prod.mk.inj hline
    exact distinct_readAssignment (readsDistinct_readValue bound nestingLimit) hread

/-- So do all lines of a document. -/
theorem distinct_readLines {bound count : Nat} {text : List Char} {lines : List Line}
    (h : readLines bound count text = some lines) : ∀ line ∈ lines, line.Distinct := by
  induction count generalizing text lines with
  | zero =>
      rw [← Option.some.inj h]
      simp
  | succ count ih =>
      obtain ⟨gap, -, h⟩ := Option.bind_eq_some_iff.mp h
      split at h
      · rw [← Option.some.inj h]
        simp
      · obtain ⟨⟨line, afterLine⟩, hline, h⟩ := Option.bind_eq_some_iff.mp h
        obtain ⟨next, -, h⟩ := Option.bind_eq_some_iff.mp h
        obtain ⟨others, hothers, h⟩ := Option.bind_eq_some_iff.mp h
        rw [← Option.some.inj h]
        exact List.forall_mem_cons.mpr ⟨distinct_readLine hline, ih hothers⟩

/-- Lines are added one by one, each of them keeping the keys apart. -/
theorem distinct_addLines {lines : List Line} (hlines : ∀ line ∈ lines, line.Distinct)
    {root result : Entries} {current : List String} (h : root.Distinct)
    (hresult : addLines root current lines = some result) : result.Distinct := by
  induction lines generalizing root current with
  | nil =>
      rw [← Option.some.inj hresult]
      exact h
  | cons line lines ih =>
      rw [List.forall_mem_cons] at hlines
      cases line with
      | table path =>
          obtain ⟨opened, hopened, hresult⟩ := Option.bind_eq_some_iff.mp hresult
          exact ih hlines.2 (Entries.distinct_openTable h hopened) hresult
      | item path =>
          obtain ⟨opened, hopened, hresult⟩ := Option.bind_eq_some_iff.mp hresult
          exact ih hlines.2 (Entries.distinct_openItem h hopened) hresult
      | assignment key value =>
          obtain ⟨assigned, hassigned, hresult⟩ := Option.bind_eq_some_iff.mp hresult
          exact ih hlines.2
            (Entries.distinct_changeAt (Entries.distinct_assign hlines.1) h hassigned) hresult

/-- A TOML document has no table with two entries under one key. -/
theorem distinct_of_parse? {text : String} {entries : List (String × Value)}
    (h : parse? text = some entries) : (Value.table entries).Distinct := by
  obtain ⟨lines, hlines, h⟩ := Option.bind_eq_some_iff.mp h
  obtain ⟨root, hroot, h⟩ := Option.bind_eq_some_iff.mp h
  rw [← Option.some.inj h]
  exact (distinct_addLines (distinct_readLines hlines) Entries.distinct_nil hroot).table

end RefPolicy.Toml
