import RefPolicy.Proofs.Layering
import RefPolicy.Proofs.Breakdowns
import RefPolicy.Proofs.Provenance
import RefPolicy.Settings.FromJson

/-!
# RefPolicy.Proofs.GrantIds

The users, groups and deploy keys that a policy file grants something to.
Each is a value of a table in a list of grants, read as a number: an integer is
exactly that number, but a switch, a fraction and a text are numbers too, and
what is granted then is not what was written.

A place is that of a grant in the tree that a run builds of the document.  Keys
that are paths may write over each other, and which of them is written last is
up to the run; where keys are plain, every run has the places of the text.

* `Toml.Value.Means` — the number that a value is taken to be;
* `Settings.map_grantItem?_of_ofTree` — grants are read place by place;
* `Settings.parse_grant_ids` — every number that is granted something, where it
  is written and what becomes of documents that write none.
-/

namespace RefPolicy

open RefPolicy.Tree

/-! ## Numbers -/

namespace Toml

/-- The text of a value: a string, or a date or a time in its normal form. -/
def Value.IsText (value : Value) (written : String) : Prop :=
  value = .string written ∨ value = .dateTime written

/-- The number that a value is taken to be where a number of 64 bits is asked
for: an integer that has no sign is that number, a switch is one or zero, and so
is the text of a switch; a fraction is rounded, and a text is its digits. -/
inductive Value.Means : Value → UInt64 → Prop
  | integer (id : UInt64) : Means (.integer id.toNat) id
  | boolean (on : Bool) : Means (.boolean on) (if on then 1 else 0)
  | float (x : Binary64) : Means (.float x) x.roundToWord
  | word {value : Value} {written : String} {on : Bool} (text : value.IsText written)
      (word : flagWord? (Text.lowerCaseString written) = some on) :
      Means value (if on then 1 else 0)
  | digits {value : Value} {written : String} {id : UInt64} (text : value.IsText written)
      (digits : Digits.word64? (Text.lowerCaseString written).toList = some id) : Means value id

/-- Digits are no word for a switch. -/
theorem flagWord?_eq_none_of_word64? {word : String} {id : UInt64}
    (h : Digits.word64? word.toList = some id) : flagWord? word = none := by
  have hnone : ∀ word ∈ ["true", "on", "yes", "false", "off", "no"],
      Digits.word64? word.toList = none := by decide +kernel
  have hnot {words : List String} (hwords : words ⊆ ["true", "on", "yes", "false", "off", "no"]) :
      word ∉ words := by
    intro hmem
    rw [hnone word (hwords hmem)] at h
    cases h
  rw [flagWord?, if_neg (hnot (by simp)), if_neg (hnot (by simp))]

/-- A whole number is exactly the number that it is. -/
theorem id?_whole_eq_some_iff {n : Int} {id : UInt64} :
    (whole n).id? = some id ↔ n = (id.toNat : Int) := by
  have hlt := id.toNat_lt_size
  by_cases hneg : n < 0
  · simp only [Tree.id?, hneg, if_true, reduceCtorEq, false_iff]
    omega
  by_cases hfits : n.toNat < UInt64.size
  · simp only [Tree.id?, Digits.toWord64?, hneg, hfits, if_true, if_false, Option.some.injEq]
    rw [← UInt64.toNat_inj, UInt64.toNat_ofNat_of_lt' hfits]
    omega
  · simp only [Tree.id?, Digits.toWord64?, hneg, hfits, if_false, reduceCtorEq, false_iff]
    omega

/-- What a value means is what it converts to. -/
theorem Value.means_iff (value : Value) (id : UInt64) :
    value.Means id ↔ (ofToml value).id? = some id := by
  constructor
  · intro h
    cases h with
    | integer => exact id?_whole_eq_some_iff.mpr rfl
    | boolean on => rfl
    | float x => rfl
    | @word _ written on htext hword =>
        have hid : (text written).id? = some (if on then 1 else 0) := by simp [Tree.id?, hword]
        rcases htext with rfl | rfl <;> exact hid
    | @digits _ written _ htext hdigits =>
        have hid : (text written).id? = some id := by
          simp [Tree.id?, flagWord?_eq_none_of_word64? hdigits, hdigits]
        rcases htext with rfl | rfl <;> exact hid
  · intro h
    have htext {written : String} (htext : value.IsText written)
        (h : (text written).id? = some id) : value.Means id := by
      unfold Tree.id? at h
      dsimp only at h
      split at h
      · next on hword =>
        cases h
        exact .word htext hword
      · exact .digits htext h
    cases value with
    | string written => exact htext (.inl rfl) h
    | dateTime written => exact htext (.inr rfl) h
    | integer n =>
        cases id?_whole_eq_some_iff.mp h
        exact .integer id
    | boolean on =>
        cases h
        exact .boolean on
    | float x =>
        cases h
        exact .float x
    | array items => cases h
    | table entries => cases h

end Toml

/-! ## Reading place by place -/

namespace Tree

variable {β : Type} {values : List β}

/-- A list that can be read is read item by item. -/
theorem mapM_eq_ok_iff {α : Type} {read : α → Except Defect β} {items : List α} :
    items.mapM read = .ok values ↔ items.map read = values.map .ok := by
  induction items generalizing values with
  | nil =>
      rw [List.mapM_nil, pure_eq_ok_iff, List.map_nil]
      cases values <;> simp
  | cons item items ih =>
      rw [List.mapM_cons, List.map_cons]
      simp only [bind_eq_ok_iff, pure_eq_ok_iff, ih]
      constructor
      · rintro ⟨value, hvalue, rest, hrest, rfl⟩
        rw [hvalue, hrest, List.map_cons]
      · intro h
        cases values with
        | nil => cases h
        | cons value rest =>
            obtain ⟨hvalue, hrest⟩ := List.cons.inj h
            exact ⟨value, hvalue, rest, hrest, rfl⟩

/-- So is a list that may be left out. -/
theorem map_items_of_reads_listOf {read : Tree → Except Defect β} {part : Option Tree}
    (h : Reads (fun tree => (listOf read tree).toOption) [] part values) (i : Nat) :
    (part.bind fun tree => tree.items[i]?).map read = values[i]?.map .ok := by
  cases part with
  | none =>
      cases h
      rfl
  | some tree =>
      have hread : listOf read tree = .ok values := toOption_eq_some_iff.mp h
      cases tree with
      | list items =>
          have hitems : items.map read = values.map .ok := mapM_eq_ok_iff.mp hread
          rw [Option.bind_some, Tree.items, ← List.getElem?_map, hitems, List.getElem?_map]
      | _ => cases hread

end Tree

/-- The grants that a protected ref lists for an action. -/
def ProtectedRef.grants (ref : ProtectedRef) : Action → List Grant
  | .push => ref.push
  | .merge => ref.merge
  | .unprotect => ref.unprotect

/-- What a protected ref of a tree has at a place in its list for an action. -/
def ProtectedRef.grantItem? (tree : Tree) (action : Action) (j : Nat) : Option Tree :=
  (tree.part? layout.keys (name action)).bind fun grants => grants.items[j]?

/-- The grant at a place: the `j`-th for an action of the `i`-th protected ref. -/
def Settings.grant? (settings : Settings) (i : Nat) (action : Action) (j : Nat) : Option Grant :=
  settings.protectedRefs[i]?.bind fun ref => (ref.grants action)[j]?

/-- What a tree has at that place. -/
def Tree.grantItem? (tree : Tree) (i : Nat) (action : Action) (j : Nat) : Option Tree :=
  ((tree.get? "protected_refs").bind fun refs => refs.items[i]?).bind
    fun ref => ProtectedRef.grantItem? ref action j

/-- A protected ref that can be read has a grant for each place, and no other. -/
theorem ProtectedRef.map_grantItem?_of_read {tables : Order} {tree : Tree} {ref : ProtectedRef}
    (h : layout.read tables tree = .ok ref) (action : Action) (j : Nat) :
    (grantItem? tree action j).map Grant.ofTree = (ref.grants action)[j]?.map .ok := by
  have hreads := (Layout.read_eq_ok_iff.mp h).2
  simp only [layout, List.forall_mem_cons] at hreads
  obtain ⟨-, -, -, -, hpush, hmerge, hunprotect, -⟩ := hreads
  cases action with
  | push => exact map_items_of_reads_listOf hpush j
  | merge => exact map_items_of_reads_listOf hmerge j
  | unprotect => exact map_items_of_reads_listOf hunprotect j

/-- Grants are read place by place. -/
theorem Settings.map_grantItem?_of_ofTree {tables : Order} {tree : Tree} {settings : Settings}
    (htable : ∃ entries, tree = .table entries) (h : ofTree tables tree = .ok settings) (i : Nat)
    (action : Action) (j : Nat) :
    (tree.grantItem? i action j).map Grant.ofTree = (settings.grant? i action j).map .ok := by
  obtain ⟨entries, rfl⟩ := htable
  have hreads := Layout.read_table_eq_ok_iff.mp h
  simp only [layout, List.forall_mem_cons] at hreads
  obtain ⟨-, -, -, -, hrefs, -⟩ := hreads
  have href : (((Tree.table entries).get? "protected_refs").bind fun refs => refs.items[i]?).map
      (ProtectedRef.layout.read tables) = settings.protectedRefs[i]?.map .ok :=
    map_items_of_reads_listOf hrefs i
  rw [Tree.grantItem?, Settings.grant?]
  cases hitem : ((Tree.table entries).get? "protected_refs").bind fun refs => refs.items[i]? with
  | none =>
      rw [hitem] at href
      have hnone : settings.protectedRefs[i]? = none := by simpa using href.symm
      rw [hnone]
      rfl
  | some item =>
      rw [hitem] at href
      obtain ⟨ref, hsome, hread⟩ := Option.map_eq_some_iff.mp href.symm
      rw [hsome, Option.bind_some, Option.bind_some]
      exact ProtectedRef.map_grantItem?_of_read hread.symm action j

/-! ## Users, groups and deploy keys -/

/-- The sorts of actor that go by numbers. -/
def Grant.idSorts : List String := ["user", "group", "deploy_key"]

/-- The sort of actor and the number that a grant names; a role is no one in particular. -/
def Grant.reference? : Grant → Option (String × Id)
  | role _ => none
  | user id => some ("user", id)
  | group id => some ("group", id)
  | deployKey id => some ("deploy_key", id)

/-- What a grant names is the number under its only key. -/
theorem Grant.ofTree_reference_iff {item : Tree} {sort : String} {id : Id} :
    (∃ grant, Grant.ofTree item = .ok grant ∧ grant.reference? = some (sort, id)) ↔
      sort ∈ idSorts ∧ ∃ who, item = .table [(sort, who)] ∧ who.id? = some id := by
  constructor
  · rintro ⟨grant, hgrant, hreference⟩
    have hread {who : Tree} {named : Id → Grant} (h : (leaf id? who).map named = .ok grant) :
        ∃ number, who.id? = some number ∧ named number = grant := by
      obtain ⟨number, hnumber, heq⟩ := map_eq_ok_iff.mp h
      exact ⟨number, leaf_eq_ok_iff.mp hnumber, heq⟩
    unfold Grant.ofTree at hgrant
    split at hgrant
    · split at hgrant
      · obtain ⟨role, -, rfl⟩ := map_eq_ok_iff.mp hgrant
        cases hreference
      · obtain ⟨number, hnumber, rfl⟩ := hread hgrant
        cases hreference
        exact ⟨by simp [idSorts], _, rfl, hnumber⟩
      · obtain ⟨number, hnumber, rfl⟩ := hread hgrant
        cases hreference
        exact ⟨by simp [idSorts], _, rfl, hnumber⟩
      · obtain ⟨number, hnumber, rfl⟩ := hread hgrant
        cases hreference
        exact ⟨by simp [idSorts], _, rfl, hnumber⟩
      · cases hgrant
    · split at hgrant <;> cases hgrant
    · cases hgrant
  · rintro ⟨hsort, who, rfl, hid⟩
    have hleaf : leaf id? who = .ok id := leaf_eq_ok_iff.mpr hid
    simp only [idSorts, List.mem_cons, List.not_mem_nil, or_false] at hsort
    rcases hsort with rfl | rfl | rfl
    · exact ⟨.user id, by simp [Grant.ofTree, hleaf, Except.map], rfl⟩
    · exact ⟨.group id, by simp [Grant.ofTree, hleaf, Except.map], rfl⟩
    · exact ⟨.deployKey id, by simp [Grant.ofTree, hleaf, Except.map], rfl⟩

/-- A grant to what is no number cannot be read. -/
theorem Grant.ofTree_of_id?_eq_none {sort : String} (hsort : sort ∈ idSorts) {who : Tree}
    (hnone : who.id? = none) : Grant.ofTree (.table [(sort, who)]) = .error .mismatch := by
  have hleaf : leaf id? who = .error .mismatch := by rw [leaf, hnone, Option.elim_none]
  simp only [idSorts, List.mem_cons, List.not_mem_nil, or_false] at hsort
  rcases hsort with rfl | rfl | rfl <;> simp [Grant.ofTree, hleaf, Except.map]

/-! ## Where numbers are written -/

namespace Tree

variable {key : String} {leaf tree item : Tree}

/-- Only plain values are numbers. -/
theorem isPlain_of_id? {id : UInt64} (h : leaf.id? = some id) : leaf.IsPlain := by
  cases leaf with
  | flag value => exact .flag value
  | whole value => exact .whole value
  | real value => exact .real value
  | text value => exact .text value
  | absent => cases h
  | list items => cases h
  | table entries => cases h

/-- A section holds what its parts hold. -/
theorem Holds.of_part? {keys : List String} {name : String} {part : Tree}
    (hpart : tree.part? keys name = some part) (h : Holds key leaf part) :
    Holds key leaf tree := by
  cases tree with
  | table entries => exact .of_entry (mem_entries_of_get? hpart) h
  | list items =>
      obtain ⟨before, after, hzip, -⟩ := List.lookup_eq_some_iff.mp hpart
      have hmem : (name, part) ∈ keys.zip items := by simp [hzip]
      exact .item (List.of_mem_zip hmem).2 h
  | _ => cases hpart

/-- A tree holds what stands at the places for grants. -/
theorem Holds.of_grantItem? {i : Nat} {action : Action} {j : Nat}
    (hitem : tree.grantItem? i action j = some item) (h : Holds key leaf item) :
    Holds key leaf tree := by
  obtain ⟨ref, href, hgrants⟩ := Option.bind_eq_some_iff.mp hitem
  obtain ⟨refs, hrefs, hmem⟩ := Option.bind_eq_some_iff.mp href
  obtain ⟨grants, hfield, hplace⟩ := Option.bind_eq_some_iff.mp hgrants
  have hgrant : Holds key leaf grants := .of_item (List.mem_of_getElem? hplace) h
  have href : Holds key leaf ref := .of_part? hfield hgrant
  exact .of_entry (mem_entries_of_get? hrefs) (.of_item (List.mem_of_getElem? hmem) href)

end Tree

namespace Settings

/-- Who is granted something at a place, if it is someone with a number. -/
def reference? (settings : Settings) (i : Nat) (action : Action) (j : Nat) :
    Option (String × Id) :=
  (settings.grant? i action j).bind Grant.reference?

variable {machine : Machine} {text : String} {settings : Settings}
  {document : List (String × Toml.Value)} {tree : Tree}

/-- A run that accepts a document has built a tree of it that describes what is
accepted. -/
theorem exists_tree_of_parse (h : parse machine text = .ok settings) :
    ∃ document tree, Toml.parse? text = some document ∧
      Tree.ofEntries machine document = some tree ∧ ofTree machine.tables tree = .ok settings := by
  cases hparsed : Toml.parse? text with
  | none =>
      rw [parse_of_not_parsed hparsed] at h
      contradiction
  | some document =>
      rw [parse_of_parsed hparsed] at h
      cases htree : Tree.ofEntries machine document with
      | none =>
          rw [htree] at h
          contradiction
      | some tree =>
          rw [htree] at h
          obtain ⟨read, hread, hchecked⟩ := exceptBind_eq_ok_iff.mp h
          obtain ⟨rfl, -⟩ := checked_eq_ok_iff_self.mp hchecked
          exact ⟨document, tree, rfl, htree, typed_eq_ok_iff.mp hread⟩

/-- Who is granted something is who the tree names at that place. -/
theorem reference?_eq_some_iff {tables : Order} (htable : ∃ entries, tree = .table entries)
    (h : ofTree tables tree = .ok settings) {i : Nat} {action : Action} {j : Nat} {sort : String}
    {id : Id} :
    settings.reference? i action j = some (sort, id) ↔
      sort ∈ Grant.idSorts ∧ ∃ who,
        tree.grantItem? i action j = some (.table [(sort, who)]) ∧ who.id? = some id := by
  have hplace := map_grantItem?_of_ofTree htable h i action j
  have hgrant : settings.reference? i action j = some (sort, id) ↔
      ∃ item, tree.grantItem? i action j = some item ∧
        ∃ grant, Grant.ofTree item = .ok grant ∧ grant.reference? = some (sort, id) := by
    rw [reference?]
    cases hitem : tree.grantItem? i action j with
    | none =>
        rw [hitem] at hplace
        have hnone : settings.grant? i action j = none := by simpa using hplace.symm
        simp [hnone]
    | some item =>
        rw [hitem] at hplace
        obtain ⟨grant, hsome, hread⟩ := Option.map_eq_some_iff.mp hplace.symm
        simp [hsome, ← hread]
  rw [hgrant]
  simp only [Grant.ofTree_reference_iff]
  constructor
  · rintro ⟨item, hitem, hsort, who, rfl, hid⟩
    exact ⟨hsort, who, hitem, hid⟩
  · rintro ⟨hsort, who, hitem, hid⟩
    exact ⟨_, hitem, hsort, who, rfl, hid⟩

/-- A value in the place of a number that is none is never accepted, whatever
else the tree holds: the one other thing that a run can meet first is a bare
grant. -/
theorem parse_of_no_number (hparsed : Toml.parse? text = some document)
    (htree : Tree.ofEntries machine document = some tree) {i : Nat} {action : Action} {j : Nat}
    {who : Tree} {sort : String} (hsort : sort ∈ Grant.idSorts)
    (hitem : tree.grantItem? i action j = some (.table [(sort, who)])) (hnone : who.id? = none) :
    (∃ detail, parse machine text = .error (.malformed detail)) ∨
      parse machine text = .error (.brokenOff .bareGrant) ∧ MayStop tree := by
  have htable := exists_table_of_ofEntries htree
  have hparse : parse machine text = (typed machine tree).bind checked := by
    rw [parse_of_parsed hparsed, htree]
  cases htyped : typed machine tree with
  | ok settings =>
      have hread := map_grantItem?_of_ofTree htable (typed_eq_ok_iff.mp htyped) i action j
      rw [hitem, Option.map_some, Grant.ofTree_of_id?_eq_none hsort hnone] at hread
      obtain ⟨grant, -, hgrant⟩ := Option.map_eq_some_iff.mp hread.symm
      cases hgrant
  | error error =>
      rw [htyped] at hparse
      obtain rfl | ⟨detail, rfl⟩ := typed_eq_error htyped
      · exact .inr ⟨hparse, mayStop_of_ofTree htable (typed_eq_brokenOff_iff.mp htyped).2⟩
      · exact .inl ⟨detail, hparse⟩

/-- The numbers that a policy file grants something to, place by place.  Where a
run accepts a document, whoever is granted something is a value that the
document gives for that sort of actor, and is the number that the value is taken
to be: an integer for exactly itself.  A value that is no number at all, such as
a negative integer, is never accepted: it is an error that can be reported,
unless there is a bare grant and the run meets that first.  Where the keys of a
document are plain, the places are those of its text in every run. -/
theorem parse_grant_ids (text : String) :
    (∀ machine settings, parse machine text = .ok settings →
      ∃ document tree, Toml.parse? text = some document ∧
        Tree.ofEntries machine document = some tree ∧
        ∀ i action j sort id, settings.reference? i action j = some (sort, id) ↔
          sort ∈ Grant.idSorts ∧ ∃ who, Toml.Says document sort who ∧
            tree.grantItem? i action j = some (.table [(sort, Tree.ofToml who)]) ∧
            who.Means id) ∧
    (∀ document, Toml.parse? text = some document → ∀ machine,
      (∀ tree, Tree.ofEntries machine document = some tree →
        ∀ i action j who, ∀ sort ∈ Grant.idSorts,
          tree.grantItem? i action j = some (.table [(sort, who)]) → who.id? = none →
          (∃ detail, parse machine text = .error (.malformed detail)) ∨
            parse machine text = .error (.brokenOff .bareGrant) ∧ MayStop tree) ∧
      ((∀ entry ∈ document, PlainKey entry.1) →
        ∃ tree, Tree.ofEntries machine document = some tree ∧ ∀ i action j,
          tree.grantItem? i action j =
            (Tree.table (Tree.ofTomlEntries document)).grantItem? i action j)) ∧
    ∀ n id, (Toml.Value.integer n).Means id ↔ n = (id.toNat : Int) := by
  refine ⟨fun machine settings hparse => ?_, fun document hparsed machine => ⟨?_, fun hplain => ?_⟩,
    fun n id => ?_⟩
  · obtain ⟨document, tree, hparsed, htree, hread⟩ := exists_tree_of_parse hparse
    refine ⟨document, tree, hparsed, htree, fun i action j sort id => ?_⟩
    rw [reference?_eq_some_iff (exists_table_of_ofEntries htree) hread]
    simp only [Toml.Value.means_iff]
    constructor
    · rintro ⟨hsort, leaf, hitem, hid⟩
      have hholds : Holds sort leaf tree := .of_grantItem? hitem (.here List.mem_cons_self)
      obtain ⟨who, hsays, rfl⟩ := Toml.exists_says_of_holds htree (isPlain_of_id? hid) hholds
      exact ⟨hsort, who, hsays, hitem, hid⟩
    · rintro ⟨hsort, who, -, hitem, hid⟩
      exact ⟨hsort, _, hitem, hid⟩
  · intro tree htree i action j who sort hsort hitem hnone
    exact parse_of_no_number hparsed htree hsort hitem hnone
  · obtain ⟨tree, htree, hshows⟩ := Tree.exists_shows_of_plain machine hparsed hplain
    refine ⟨tree, htree, fun i action j => ?_⟩
    rw [Tree.grantItem?, Tree.grantItem?, hshows.get?, Tree.get?_table, Tree.lookup_ofTomlEntries]
  · exact (Toml.Value.means_iff _ _).trans Toml.id?_whole_eq_some_iff

/-- A switch in the place of a number grants to the user with the number one. -/
theorem parse_user_by_switch :
    parse .standard "[[protected_refs]]\npush=[\x7buser=true\x7d]" =
      .ok { protectedRefs := [{ push := [.user 1] }] } := by
  have hlines : Toml.readLines ("[[protected_refs]]\npush=[\x7buser=true\x7d]".toList.length + 1)
      ("[[protected_refs]]\npush=[\x7buser=true\x7d]".toList.length + 1)
      "[[protected_refs]]\npush=[\x7buser=true\x7d]".toList =
      some [.item ["protected_refs"],
        .assignment ["push"] (.array [.table [("user", .boolean true)]])] := by rfl
  have hentries : Toml.addLines [] []
      [.item ["protected_refs"],
        .assignment ["push"] (.array [.table [("user", .boolean true)]])] =
      some [("protected_refs",
        .tables [[("push", .closed (.array [.table [("user", .boolean true)]]))]])] := rfl
  rw [parse_of_parsed (Toml.parse?_of_lines (by decide) hlines hentries)]
  rfl

end Settings

end RefPolicy
