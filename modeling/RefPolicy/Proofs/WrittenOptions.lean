import RefPolicy.CommandLine

/-!
# RefPolicy.Proofs.WrittenOptions

The options of a `check`, written out and read back.  A value is written
`--name=value`, a switch `--name`; either way one argument stands for one
item, whatever characters the value has and whatever arguments follow.

* `itemsOf_written` — one argument;
* `items_written`, `itemsBeforeWord_written` — the arguments after the name of
  the command, and those before it.
-/

namespace RefPolicy.CommandLine

/-! ## The options of a check -/

/-- What a `check` is told at most once. -/
inductive Field where
  | config
  | output
  | refName
  | action
  | user
  | role
  | admin
  | deployKey
  | tag
  deriving DecidableEq

namespace Field

/-- The type of its value. -/
abbrev Value : Field → Type
  | config | refName => String
  | output => OutputFormat
  | action => Action
  | user | deployKey => Id
  | role => Role
  | admin | tag => Unit

/-- The name of its option. -/
def long : Field → String
  | config => "config"
  | output => "output"
  | refName => "ref"
  | action => "action"
  | user => "user"
  | role => "role"
  | admin => "admin"
  | deployKey => "deploy-key"
  | tag => "tag"

/-- How a value is written; a switch has nothing to write. -/
def text : (field : Field) → field.Value → Option String
  | config, text | refName, text => some text
  | output, word => some (name word)
  | action, word => some (name word)
  | role, word => some (name word)
  | user, id | deployKey, id => some id.text
  | admin, _ | tag, _ => none

/-- May the option stand before the name of the command? -/
def isShared : Field → Bool
  | config | output => true
  | _ => false

end Field

/-- One option of a `check`. -/
inductive CheckOption where
  | single (field : Field) (value : field.Value)
  | group (id : Id)

namespace CheckOption

def long : CheckOption → String
  | single field _ => field.long
  | group _ => "group"

def text : CheckOption → Option String
  | single field value => field.text value
  | group id => some id.text

def isShared : CheckOption → Bool
  | single field _ => field.isShared
  | group _ => false

/-- The argument that gives the option. -/
def written (option : CheckOption) : String :=
  match option.text with
  | some text => "--" ++ option.long ++ "=" ++ text
  | none => "--" ++ option.long

/-- What the argument stands for. -/
def item (option : CheckOption) : Item :=
  match option.text with
  | some text => .value option.long text
  | none => .switch option.long

end CheckOption

/-! ## One argument -/

/-- One of `options` has the name of the option, and takes a value if the
option has one. -/
def Understood (options : List Opt) (option : CheckOption) : Prop :=
  ∃ opt ∈ options, opt.long = option.long ∧ opt.takesValue = option.text.isSome

/-- A check knows all of its options. -/
theorem understood_checkOptions (option : CheckOption) : Understood checkOptions option := by
  cases option with
  | single field value =>
      cases field <;>
        simp [Understood, checkOptions, sharedOptions, tagOption, CheckOption.long, Field.long,
          CheckOption.text, Field.text]
  | group id =>
      simp [Understood, checkOptions, sharedOptions, tagOption, CheckOption.long, CheckOption.text]

/-- Of these the program knows those that any command may be told. -/
theorem understood_programOptions {option : CheckOption} (h : option.isShared = true) :
    Understood programOptions option := by
  cases option with
  | single field value =>
      cases field <;>
        simp_all [Understood, programOptions, sharedOptions, CheckOption.isShared, Field.isShared,
          CheckOption.long, Field.long, CheckOption.text, Field.text]
  | group id => contradiction

theorem nodup_checkOptions : (checkOptions.map Opt.long).Nodup := by decide

theorem nodup_programOptions : (programOptions.map Opt.long).Nodup := by decide

/-- A name has characters, and the equals sign is none of them. -/
theorem Field.long_plain (field : Field) : field.long.toList ≠ [] ∧ '=' ∉ field.long.toList := by
  cases field <;> decide

/-- The long name of an option is not empty and has no equals sign. -/
theorem CheckOption.long_plain (option : CheckOption) :
    option.long.toList ≠ [] ∧ '=' ∉ option.long.toList := by
  cases option with
  | single field value => exact field.long_plain
  | group id =>
      rw [long]
      decide

/-- An option is written as its name and its value, if it takes one. -/
theorem CheckOption.toList_written (option : CheckOption) :
    option.written.toList = '-' :: '-' ::
      (option.long.toList ++ option.text.elim [] fun text => '=' :: text.toList) := by
  unfold written
  cases option.text <;> simp [String.toList_append]

/-- An option is not the mark after which there are only words. -/
theorem CheckOption.written_ne_mark (option : CheckOption) : option.written ≠ "--" := by
  intro h
  have hchars := congrArg String.toList h
  rw [toList_written] at hchars
  have hnil := (List.cons.inj (List.cons.inj hchars).2).2
  exact option.long_plain.1 (List.append_eq_nil_iff.mp hnil).1

variable {options : List Opt} {option : CheckOption}

/-- An option is found by its name. -/
theorem find?_long {opt : Opt} (hnodup : (options.map Opt.long).Nodup) (h : opt ∈ options) :
    (options.find? fun other => other.long.toList == opt.long.toList) = some opt := by
  induction options with
  | nil => cases h
  | cons first options ih =>
      rw [List.map_cons, List.nodup_cons] at hnodup
      rw [List.find?_cons]
      rcases List.mem_cons.mp h with rfl | hmem
      · simp
      · have hne : first.long ≠ opt.long := by
          intro heq
          exact hnodup.1 (heq ▸ List.mem_map_of_mem hmem)
        have hbeq : (first.long.toList == opt.long.toList) = false := by
          simpa [String.toList_inj] using hne
        rw [hbeq]
        exact ih hnodup.2 hmem

/-- A name ends where the argument does, or at the equals sign. -/
theorem takeWhile_long (option : CheckOption) (rest : List Char)
    (hrest : ∀ c ∈ rest.head?, c = '=') :
    (option.long.toList ++ rest).takeWhile (· != '=') = option.long.toList := by
  rw [List.takeWhile_append_of_pos]
  · cases rest with
    | nil => simp
    | cons c rest => simp [hrest c rfl]
  · intro c hc
    have hne : c ≠ '=' := fun heq => option.long_plain.2 (heq ▸ hc)
    simpa using hne

variable (hnodup : (options.map Opt.long).Nodup)

include hnodup

/-- One argument gives one option, whatever follows it. -/
theorem itemsOf_written (h : Understood options option) (rest : List String) :
    itemsOf options option.written rest = ([option.item], rest) := by
  obtain ⟨opt, hmem, hlong, htakes⟩ := h
  have hfind := find?_long hnodup hmem
  rw [hlong] at hfind
  unfold CheckOption.item
  cases htext : option.text with
  | some text =>
      rw [htext] at htakes
      have hname := takeWhile_long option ('=' :: text.toList) (by simp)
      simp [itemsOf, option.toList_written, longItem, htext, hname, hfind, htakes, hlong]
  | none =>
      rw [htext] at htakes
      have hname := takeWhile_long option [] (by simp)
      rw [List.append_nil] at hname
      simp [itemsOf, option.toList_written, longItem, htext, hname, hfind, htakes, hlong]

/-! ## All arguments -/

/-- Written options are read back one by one. -/
theorem itemsUpTo_written {written : List CheckOption}
    (h : ∀ option ∈ written, Understood options option) {bound : Nat}
    (hbound : written.length ≤ bound) :
    itemsUpTo options bound (written.map CheckOption.written) = written.map CheckOption.item := by
  induction written generalizing bound with
  | nil => cases bound <;> rfl
  | cons option written ih =>
      obtain ⟨hoption, hothers⟩ := List.forall_mem_cons.mp h
      cases bound with
      | zero => contradiction
      | succ bound =>
          rw [List.map_cons, itemsUpTo, if_neg option.written_ne_mark,
            itemsOf_written hnodup hoption]
          dsimp only
          rw [ih hothers (Nat.le_of_succ_le_succ hbound)]
          rfl

/-- Options are found again in the order in which they are written. -/
theorem items_written {written : List CheckOption}
    (h : ∀ option ∈ written, Understood options option) :
    items options (written.map CheckOption.written) = written.map CheckOption.item :=
  itemsUpTo_written hnodup h (by simp)

/-- Options before a command end at its name. -/
theorem itemsBeforeWord_written {written : List CheckOption}
    (h : ∀ option ∈ written, Understood options option) {word : String} {rest : List String}
    {bound : Nat} (hbound : written.length < bound)
    (hword : itemsOf options word rest = ([.word word], rest)) (hmark : word ≠ "--") :
    itemsBeforeWord options bound (written.map CheckOption.written ++ word :: rest) =
      (written.map CheckOption.item, some (word, rest)) := by
  induction written generalizing bound with
  | nil =>
      cases bound with
      | zero => contradiction
      | succ bound => simp [itemsBeforeWord, hmark, hword]
  | cons option written ih =>
      obtain ⟨hoption, hothers⟩ := List.forall_mem_cons.mp h
      cases bound with
      | zero => contradiction
      | succ bound =>
          rw [List.map_cons, List.cons_append, itemsBeforeWord, if_neg option.written_ne_mark,
            itemsOf_written hnodup hoption]
          have hrest := ih hothers (Nat.lt_of_succ_lt_succ hbound)
          cases htext : option.text <;> simp [CheckOption.item, htext, hrest]

end RefPolicy.CommandLine
