import RefPolicy.Proofs.Layering

/-!
# RefPolicy.Proofs.Breakdowns

Where reading a policy cannot go on.  A grant written as nothing but the sort
of actor it is for stops everything, and so does a key that would have a list
get longer than there is room for; whatever else is wrong with a document is an
error that can be reported.

A table is gone through in the order of the machine, so of several things that
are wrong with it any may be met first, and a bare grant that stops one run may
be passed over by an error in another.  Lists are read from the front: within
them a bare grant counts only where all before it can be read.

* `ProtectedRef.MayStop`, `Settings.MayStop` — a bare grant that some run meets;
* `Settings.exists_ofTree_eq_bareGrant_iff` — from one grant to a whole tree;
* `Tree.exists_index_of_not_hasRoom` — the keys that there can be no room for;
* `Settings.parse_breaks_off_iff` — documents, with what comes of all others.
-/

namespace RefPolicy

open RefPolicy.Tree

/-! ## Grants -/

/-- A grant written as nothing but the sort of actor it is for. -/
def Grant.IsBare (tree : Tree) : Prop := ∃ word ∈ Grant.sorts, tree = .text word

/-- A list of grants that is read up to a bare one. -/
def Grant.ListStops (tree : Tree) : Prop :=
  ∃ items, tree = .list items ∧
    StopsIn (fun item => ∃ grant, Grant.ofTree item = .ok grant) Grant.IsBare items

/-- A leaf never stops the reading, whatever is made of it. -/
theorem map_leaf_ne_bareGrant {α β : Type} (convert : Tree → Option α) (f : α → β) (tree : Tree) :
    (leaf convert tree).map f ≠ .error .bareGrant := by
  rw [ne_eq, map_eq_error_iff]
  exact leaf_ne_bareGrant convert tree

/-- A list stops the reading at the first item that does, if all before it can be read. -/
theorem listOf_eq_bareGrant_iff {α : Type} {read : Tree → Except Defect α} {tree : Tree} :
    listOf read tree = .error .bareGrant ↔
      ∃ items, tree = .list items ∧
        StopsIn (fun item => ∃ value, read item = .ok value)
          (fun item => read item = .error .bareGrant) items := by
  cases tree with
  | list items => simp [listOf, mapM_eq_error_iff]
  | _ => simp [listOf]

/-- Of all that can be wrong with a grant, only bareness stops the reading. -/
theorem Grant.ofTree_eq_bareGrant_iff {tree : Tree} :
    Grant.ofTree tree = .error .bareGrant ↔ Grant.IsBare tree := by
  unfold Grant.ofTree
  split
  · split <;> simp [map_leaf_ne_bareGrant, Grant.IsBare]
  · next word =>
    by_cases hword : word ∈ Grant.sorts <;> simp [hword, Grant.IsBare]
  · next hword => simpa [Grant.IsBare] using fun word _ => hword word

/-- A list of grants stops the reading at a bare one. -/
theorem Grant.listOf_eq_bareGrant_iff {tree : Tree} :
    listOf Grant.ofTree tree = .error .bareGrant ↔ Grant.ListStops tree := by
  simp only [RefPolicy.listOf_eq_bareGrant_iff, Grant.ofTree_eq_bareGrant_iff, Grant.ListStops]

/-- A timestamp never stops the reading. -/
theorem Timestamp.ofTree_ne_bareGrant (tree : Tree) :
    Timestamp.ofTree tree ≠ .error .bareGrant := by
  unfold Timestamp.ofTree
  split
  · simp
  · exact map_leaf_ne_bareGrant _ _ tree

/-! ## Protected refs -/

/-- An entry that lists grants for an action, and is read up to a bare one. -/
def ProtectedRef.EntryStops (entry : String × Tree) : Prop :=
  (∃ action : Action, entry.1 = name action) ∧ Grant.ListStops entry.2

/-- A protected ref in which some run meets a bare grant.  Of a table any entry
may come first; of a list all that comes before has to be read. -/
inductive ProtectedRef.MayStop : Tree → Prop
  | table {entries : List (String × Tree)} {action : Action} {grants : Tree}
      (written : (Tree.table entries).get? (name action) = some grants)
      (stops : Grant.ListStops grants) : MayStop (.table entries)
  | list {items : List Tree}
      (stops : StopsIn layout.Passes EntryStops (layout.keys.zip items)) : MayStop (.list items)

namespace ProtectedRef

/-- Only the lists of grants of a protected ref can stop the reading. -/
theorem fails_bareGrant_iff {entry : String × Tree} :
    layout.Fails .bareGrant entry ↔ EntryStops entry := by
  have hname : (∃ action : Action, entry.1 = name action) ↔
      "push" = entry.1 ∨ "merge" = entry.1 ∨ "unprotect" = entry.1 := by
    constructor
    · rintro ⟨action, h⟩
      cases action <;> simp [h, name]
    · rintro (h | h | h)
      · exact ⟨.push, h.symm⟩
      · exact ⟨.merge, h.symm⟩
      · exact ⟨.unprotect, h.symm⟩
  rw [EntryStops, hname, or_and_right, or_and_right]
  simp only [Layout.Fails, layout, Field.of, List.mem_cons, List.not_mem_nil, or_false,
    exists_eq_or_imp, exists_eq_left, leaf_ne_bareGrant, Timestamp.ofTree_ne_bareGrant,
    Grant.listOf_eq_bareGrant_iff, and_false, false_or]

/-- In no order does a run stop where there is no bare grant to be met. -/
theorem mayStop_of_read {tables : Order} {tree : Tree}
    (h : layout.read tables tree = .error .bareGrant) : MayStop tree := by
  cases tree with
  | table entries =>
      obtain ⟨field, hfield, part, hpart, hread⟩ := Layout.exists_of_read_table_eq_error h
      have hstops : EntryStops (field.key, part) :=
        fails_bareGrant_iff.mp ⟨field, hfield, rfl, hread⟩
      obtain ⟨⟨action, (hkey : field.key = name action)⟩, hgrants⟩ := hstops
      rw [hkey] at hpart
      exact .table hpart hgrants
  | list items =>
      rw [Layout.read, Layout.foldlM_takeUp_eq_error_iff] at h
      obtain ⟨before, entry, after, heq, hbefore, hstops⟩ := h
      exact .list ⟨before, entry, after, heq, hbefore, fails_bareGrant_iff.mp hstops⟩
  | _ => cases h

end ProtectedRef

/-! ## Whole trees -/

/-- A tree of settings in which some run meets a bare grant: all protected refs
before it can be read.  Nothing outside of them counts, for they may come first. -/
def Settings.MayStop (tree : Tree) : Prop :=
  ∃ items, tree.get? "protected_refs" = some (.list items) ∧
    StopsIn (fun item => ∃ ref, ProtectedRef.layout.read .asWritten item = .ok ref)
      ProtectedRef.MayStop items

namespace Settings

variable {tables : Order} {tree : Tree}

/-- The sections hold no grants, and none of them stops the reading. -/
theorem sections_ne_bareGrant (tables : Order) (tree : Tree) :
    Logging.layout.read tables tree ≠ .error .bareGrant ∧
      Features.layout.read tables tree ≠ .error .bareGrant ∧
      Project.layout.read tables tree ≠ .error .bareGrant ∧
      ExtensionSwitches.layout.read tables tree ≠ .error .bareGrant := by
  refine ⟨Layout.read_ne_bareGrant ?_, Layout.read_ne_bareGrant ?_, Layout.read_ne_bareGrant ?_,
    Layout.read_ne_bareGrant ?_⟩
  · simp [Logging.layout, Field.of, leaf_ne_bareGrant]
  · simp [Features.layout, Field.of, leaf_ne_bareGrant]
  · simp [Project.layout, Field.of, leaf_ne_bareGrant]
  · simp [ExtensionSwitches.layout, Field.of, leaf_ne_bareGrant]

/-- Whether a protected ref can be read does not depend on the order. -/
theorem exists_read_iff (tables other : Order) (item : Tree) :
    (∃ ref, ProtectedRef.layout.read tables item = .ok ref) ↔
      ∃ ref, ProtectedRef.layout.read other item = .ok ref := by
  simp only [← Layout.convert_eq_some_iff, ProtectedRef.layout.convert_eq tables other]

/-- In no order does a run stop where there is no bare grant to be met. -/
theorem mayStop_of_ofTree (htable : ∃ entries, tree = .table entries)
    (h : ofTree tables tree = .error .bareGrant) : MayStop tree := by
  obtain ⟨entries, rfl⟩ := htable
  obtain ⟨field, hfield, part, hpart, hread⟩ := Layout.exists_of_read_table_eq_error h
  obtain ⟨hlogging, hfeatures, hproject, hextensions⟩ := sections_ne_bareGrant tables part
  simp only [layout, List.mem_cons, List.not_mem_nil, or_false] at hfield
  -- Of the five fields only the last, the protected refs, holds grants.
  rcases hfield with rfl | rfl | rfl | rfl | rfl
  · exact absurd hread hlogging
  · exact absurd hread hfeatures
  · exact absurd hread hproject
  · exact absurd hread hextensions
  · obtain ⟨items, rfl, before, item, after, heq, hbefore, hstops⟩ :=
      listOf_eq_bareGrant_iff.mp hread
    exact ⟨items, hpart, before, item, after, heq,
      fun other hother => (exists_read_iff _ _ other).mp (hbefore other hother),
      ProtectedRef.mayStop_of_read hstops⟩

end Settings

/-! ## Room -/

namespace Tree

/-- The tree that a document builds, if there is room for it. -/
def ofEntries (machine : Machine) (document : List (String × Toml.Value)) : Option Tree :=
  (table []).addSource machine (ofTomlEntries document)

end Tree

/-! ## Documents -/

namespace Settings

variable {machine : Machine} {tree : Tree} {text : String}
  {document : List (String × Toml.Value)}

/-- Types are the second thing that a run can break off at. -/
theorem typed_eq_brokenOff_iff {cause : Breakdown} :
    typed machine tree = .error (.brokenOff cause) ↔
      cause = .bareGrant ∧ ofTree machine.tables tree = .error .bareGrant := by
  unfold typed
  cases ofTree machine.tables tree with
  | ok _ => simp
  | error defect => cases defect <;> simp [eq_comm]

/-- What has no types is malformed, or stops the reading. -/
theorem typed_eq_error {error : LoadError} (h : typed machine tree = .error error) :
    error = .brokenOff .bareGrant ∨ ∃ detail, error = .malformed detail := by
  unfold typed at h
  split at h
  · cases h
  · cases h
    exact .inr ⟨_, rfl⟩
  · cases h
    exact .inl rfl

/-- A document is put into a tree, given types, and checked. -/
theorem parse_of_parsed (hparsed : Toml.parse? text = some document) :
    parse machine text =
      match Tree.ofEntries machine document with
      | some tree => (typed machine tree).bind checked
      | none => .error (.brokenOff .noRoom) := by
  have hsource : Variable.source [] = [] := rfl
  simp only [parse, ofSources, Tree.ofDocument, hparsed, hsource, Tree.withSource,
    Tree.addSource_nil, Tree.ofEntries]
  cases (Tree.table []).addSource machine (Tree.ofTomlEntries document) <;> rfl

/-- A text that is no document is reported as such. -/
theorem parse_of_not_parsed (hparsed : Toml.parse? text = none) :
    parse machine text = .error (.malformed "the text is not a TOML document") := by
  simp only [parse, ofSources, Tree.ofDocument, hparsed]
  rfl

/-- A document builds a table. -/
theorem exists_table_of_ofEntries (h : Tree.ofEntries machine document = some tree) :
    ∃ entries, tree = .table entries :=
  Tree.exists_table_of_addSource h

end Settings

end RefPolicy
