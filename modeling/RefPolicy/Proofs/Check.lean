import RefPolicy.CommandLine.Run
import RefPolicy.Proofs.PolicyFile
import RefPolicy.Proofs.WrittenOptions

/-!
# RefPolicy.Proofs.Check

A `check` from its arguments to its exit.  Whatever the order of its options,
the program asks one question of the policy in the file; what it prints, how
it exits, and what the library answers when it is asked outright are the same
decision.

* `foldlM_take` — taking options, none of them twice;
* `parse_check` — the arguments of a check;
* `run_check` — the run.
-/

namespace RefPolicy.CommandLine

/-! ## Taking options -/

namespace Field

/-- The value that was given. -/
def get : (field : Field) → Given → Option field.Value
  | config, given => given.config
  | output, given => given.output
  | refName, given => given.refName
  | action, given => given.action
  | user, given => given.user
  | role, given => given.role
  | admin, given => given.admin
  | deployKey, given => given.deployKey
  | tag, given => given.tag

/-- Give a value. -/
def set : (field : Field) → field.Value → Given → Given
  | config, value, given => { given with config := some value }
  | output, value, given => { given with output := some value }
  | refName, value, given => { given with refName := some value }
  | action, value, given => { given with action := some value }
  | user, value, given => { given with user := some value }
  | role, value, given => { given with role := some value }
  | admin, value, given => { given with admin := some value }
  | deployKey, value, given => { given with deployKey := some value }
  | tag, value, given => { given with tag := some value }

/-- A value that is given is there. -/
theorem get_set (field : Field) (value : field.Value) (given : Given) :
    field.get (field.set value given) = some value := by
  cases field <;> rfl

/-- Giving a value leaves all others. -/
theorem get_set_of_ne {field other : Field} (h : field ≠ other) (value : field.Value)
    (given : Given) : other.get (field.set value given) = other.get given := by
  cases field <;> cases other <;> first | rfl | contradiction

/-- It leaves the groups as well. -/
theorem groups_set (field : Field) (value : field.Value) (given : Given) :
    (field.set value given).groups = given.groups := by
  cases field <;> rfl

theorem get_default (field : Field) : field.get {} = none := by
  cases field <;> rfl

/-- Groups leave the values. -/
theorem get_groups (field : Field) (given : Given) (groups : List Id) :
    field.get { given with groups } = field.get given := by
  cases field <;> rfl

end Field

/-- A number is read back from its text. -/
theorem Given.id?_text (id : Id) : Given.id? id.text = some id := by
  rw [Given.id?, Id.text, Nat.toList_repr, Digits.word64?_toDigits]

/-- An option whose value has not been given yet. -/
theorem Given.take_single (given : Given) (field : Field) (value : field.Value)
    (h : field.get given = none) :
    given.take false (CheckOption.single field value).item = .ok (field.set value given) := by
  cases field <;>
    simp_all [Given.take, Given.takeValue, Given.takeSwitch, Given.once, Given.id?_text, Field.get,
      Field.set, Field.text, Field.long, CheckOption.item, CheckOption.text, CheckOption.long,
      Except.map]

/-- Groups add up. -/
theorem Given.take_group (given : Given) (id : Id) :
    given.take false (CheckOption.group id).item =
      .ok { given with groups := given.groups ++ [id] } := by
  simp [Given.take, Given.takeValue, Given.once, Given.id?_text, CheckOption.item,
    CheckOption.text, CheckOption.long, Except.map]

namespace CheckOption

/-- The value for a field, if the option is for it. -/
def value? : CheckOption → (field : Field) → Option field.Value
  | single other value, field => if h : other = field then some (h ▸ value) else none
  | group _, _ => none

/-- The group, if the option is for one. -/
def group? : CheckOption → Option Id
  | single _ _ => none
  | group id => some id

end CheckOption

/-- All values that options have for a field. -/
def valuesOf (options : List CheckOption) (field : Field) : List field.Value :=
  options.filterMap fun option => option.value? field

/-- All groups that options name. -/
def groupsOf (options : List CheckOption) : List Id :=
  options.filterMap fun option => option.group?

theorem valuesOf_append (before after : List CheckOption) (field : Field) :
    valuesOf (before ++ after) field = valuesOf before field ++ valuesOf after field :=
  List.filterMap_append

theorem groupsOf_append (before after : List CheckOption) :
    groupsOf (before ++ after) = groupsOf before ++ groupsOf after :=
  List.filterMap_append

/-- What an option gives joins what the others have. -/
theorem toList_get_set (options : List CheckOption) {given : Given} {field : Field}
    (h : field.get given = none) (value : field.Value) (other : Field) :
    (other.get (field.set value given)).toList ++ valuesOf options other =
      (other.get given).toList ++ valuesOf (.single field value :: options) other := by
  by_cases hfield : field = other
  · subst hfield
    simp [Field.get_set, h, valuesOf, CheckOption.value?]
  · simp [Field.get_set_of_ne hfield, hfield, valuesOf, CheckOption.value?]

/-- Options are taken if nothing is given twice, and then all is there that
was given. -/
theorem foldlM_take {options : List CheckOption} {given : Given}
    (h : ∀ field, ((field.get given).toList ++ valuesOf options field).length ≤ 1) :
    ∃ result, (options.map CheckOption.item).foldlM (Given.take false) given = .ok result ∧
      (∀ field, (field.get result).toList = (field.get given).toList ++ valuesOf options field) ∧
      result.groups = given.groups ++ groupsOf options := by
  induction options generalizing given with
  | nil => exact ⟨given, rfl, by simp [valuesOf], by simp [groupsOf]⟩
  | cons option options ih =>
      rw [List.map_cons, List.foldlM_cons]
      cases option with
      | single field value =>
          have hnone : field.get given = none := by
            have hfield := h field
            cases hget : field.get given with
            | none => rfl
            | some _ => simp [hget, valuesOf, CheckOption.value?] at hfield
          have hstep := toList_get_set options hnone value
          obtain ⟨result, hresult, hvalues, hgroups⟩ := ih fun other => (hstep other).symm ▸ h other
          refine ⟨result, ?_, fun other => (hvalues other).trans (hstep other), ?_⟩
          · rw [Given.take_single given field value hnone]
            exact hresult
          · rw [hgroups, Field.groups_set]
            rfl
      | group id =>
          obtain ⟨result, hresult, hvalues, hgroups⟩ :=
            ih fun other => by rw [Field.get_groups]; exact h other
          refine ⟨result, ?_, fun other => ?_, ?_⟩
          · rw [Given.take_group]
            exact hresult
          · rw [hvalues, Field.get_groups]
            rfl
          · rw [hgroups, List.append_assoc]
            rfl

/-- Options of which none is given twice are all taken. -/
theorem takeAll_items (options : List CheckOption)
    (h : ∀ field, (valuesOf options field).length ≤ 1) :
    ∃ given, Given.takeAll false (options.map CheckOption.item) = .ok given ∧
      (∀ field, (field.get given).toList = valuesOf options field) ∧
      given.groups = groupsOf options := by
  have hfresh (field : Field) : (field.get {}).toList ++ valuesOf options field =
      valuesOf options field := by
    rw [Field.get_default]
    rfl
  obtain ⟨given, hgiven, hvalues, hgroups⟩ := foldlM_take fun field => (hfresh field).symm ▸ h field
  exact ⟨given, hgiven, fun field => (hvalues field).trans (hfresh field), hgroups⟩

/-! ## The arguments of a check -/

/-- What a check is called with. -/
structure CheckCall where
  config : String
  output : OutputFormat
  refName : String
  action : Action
  kind : RefKind
  user : Id
  role : Role
  admin : Bool
  groups : List Id
  deployKey : Option Id

namespace CheckCall

/-- Its options, in one order. -/
def options (call : CheckCall) : List CheckOption :=
  [.single .config call.config, .single .output call.output, .single .refName call.refName,
    .single .action call.action, .single .user call.user, .single .role call.role] ++
  (if call.admin then [.single .admin ()] else []) ++
  (if call.kind = .tag then [.single .tag ()] else []) ++
  call.deployKey.toList.map (.single .deployKey) ++ call.groups.map .group

/-- The question that is asked. -/
def request (call : CheckCall) : Request where
  actor :=
    { id := call.user, role := call.role, groups := .ofList call.groups, admin := call.admin,
      deployKey := call.deployKey }
  action := call.action
  refName := call.refName
  kind := call.kind

/-- The value of a field, if there is one to give. -/
def value? (call : CheckCall) : (field : Field) → Option field.Value
  | .config => some call.config
  | .output => some call.output
  | .refName => some call.refName
  | .action => some call.action
  | .user => some call.user
  | .role => some call.role
  | .admin => if call.admin then some () else none
  | .deployKey => call.deployKey
  | .tag => if call.kind = .tag then some () else none

/-- The options of a check give each value once, if there is one to give. -/
theorem valuesOf_options (call : CheckCall) (field : Field) :
    valuesOf call.options field = (call.value? field).toList := by
  cases hadmin : call.admin <;> cases hkind : call.kind <;> cases hkey : call.deployKey <;>
    cases field <;>
      simp [valuesOf, options, value?, CheckOption.value?, List.filterMap_map, hadmin, hkind,
        hkey]

/-- They give all groups. -/
theorem groupsOf_options (call : CheckCall) : groupsOf call.options = call.groups := by
  have hgroups : groupsOf (call.groups.map .group) = call.groups := by
    rw [groupsOf, List.filterMap_map]
    exact List.filterMap_some
  have hkey : groupsOf (call.deployKey.toList.map (.single .deployKey)) = [] := by
    cases call.deployKey <;> rfl
  rw [options, groupsOf_append, groupsOf_append, hgroups, hkey, List.append_nil]
  cases call.admin <;> cases call.kind <;> rfl

/-- Any order of the options gives the same values. -/
theorem valuesOf_of_perm {call : CheckCall} {given : List CheckOption}
    (h : given.Perm call.options) (field : Field) :
    valuesOf given field = (call.value? field).toList := by
  have hperm : (valuesOf given field).Perm (call.value? field).toList := by
    rw [← call.valuesOf_options field]
    exact h.filterMap _
  cases hvalue : call.value? field with
  | none =>
      rw [hvalue] at hperm
      exact List.perm_nil.mp hperm
  | some value =>
      rw [hvalue] at hperm
      exact List.perm_singleton.mp hperm

/-- Any order of the options gives the same groups. -/
theorem ofList_groupsOf_of_perm {call : CheckCall} {given : List CheckOption}
    (h : given.Perm call.options) : IdSet.ofList (groupsOf given) = .ofList call.groups := by
  have hperm : (groupsOf given).Perm call.groups := by
    rw [← call.groupsOf_options]
    exact h.filterMap _
  exact IdSet.eq_of_mem_iff fun id => by simp [hperm.mem_iff]

end CheckCall

variable {call : CheckCall} {before after : List CheckOption}

/-- Options before the name of the command speak only of what any command may
be told. -/
theorem valuesOf_of_isShared (h : ∀ option ∈ before, option.isShared = true) {field : Field}
    (hfield : field.isShared = false) : valuesOf before field = [] := by
  rw [valuesOf, List.filterMap_eq_nil_iff]
  intro option hoption
  have hshared := h option hoption
  cases option with
  | single other value =>
      have hne : other ≠ field := by
        rintro rfl
        exact absurd hshared (by simp [CheckOption.isShared, hfield])
      simp [CheckOption.value?, hne]
  | group id => rfl

/-- No group is named before the name of the command. -/
theorem groupsOf_of_isShared (h : ∀ option ∈ before, option.isShared = true) :
    groupsOf before = [] := by
  rw [groupsOf, List.filterMap_eq_nil_iff]
  intro option hoption
  have hshared := h option hoption
  cases option with
  | single other value => rfl
  | group id => contradiction

theorem toList_injective {α : Type} {first second : Option α} (h : first.toList = second.toList) :
    first = second := by
  cases first <;> cases second <;> simp_all

/-- What is given after the name of the command goes before what is given in
front of it. -/
theorem or_eq_some_of_toList {α : Type} {outer inner : Option α} {value : α}
    (h : outer.toList ++ inner.toList = [value]) (fallback : Option α) :
    inner.or (outer.or fallback) = some value := by
  cases outer <;> cases inner <;> simp_all

/-- A value that is not for any command is taken after the name of the command. -/
theorem request?_eq {inner : Given}
    (hvalues : ∀ field : Field, field.isShared = false → field.get inner = call.value? field)
    (hgroups : IdSet.ofList inner.groups = .ofList call.groups) :
    inner.request? = some call.request := by
  have hrefName : inner.refName = some call.refName := hvalues .refName rfl
  have haction : inner.action = some call.action := hvalues .action rfl
  have huser : inner.user = some call.user := hvalues .user rfl
  have hrole : inner.role = some call.role := hvalues .role rfl
  have hadmin : inner.admin = if call.admin then some () else none := hvalues .admin rfl
  have hdeployKey : inner.deployKey = call.deployKey := hvalues .deployKey rfl
  have htag : inner.tag = if call.kind = .tag then some () else none := hvalues .tag rfl
  have hkind : inner.kind = call.kind := by
    rw [Given.kind, htag]
    cases call.kind <;> rfl
  have hisSome : inner.admin.isSome = call.admin := by
    rw [hadmin]
    cases call.admin <;> rfl
  simp only [Given.request?, hrefName, haction, huser, hrole, hdeployKey, hkind, hisSome, hgroups,
    Option.bind_eq_bind, Option.bind_some, Option.getD_some, CheckCall.request]

/-- The arguments of a check, its options in any order and those that any
command may be told on either side of its name. -/
theorem parse_check (fallback : Option String) (hshared : ∀ option ∈ before, option.isShared = true)
    (horder : (before ++ after).Perm call.options) :
    parse fallback (before.map CheckOption.written ++ "check" :: after.map CheckOption.written) =
      .ask (some call.config) call.output (.check call.request) := by
  have hvalues (field : Field) :
      valuesOf before field ++ valuesOf after field = (call.value? field).toList := by
    rw [← valuesOf_append, CheckCall.valuesOf_of_perm horder field]
  have hlength (field : Field) :
      (valuesOf before field).length + (valuesOf after field).length ≤ 1 := by
    rw [← List.length_append, hvalues]
    cases call.value? field <;> simp
  -- Options on either side of the name are taken on their own.
  obtain ⟨outer, houter, houterValues, -⟩ :=
    takeAll_items before fun field => Nat.le_trans (Nat.le_add_right _ _) (hlength field)
  obtain ⟨inner, hinner, hinnerValues, hinnerGroups⟩ :=
    takeAll_items after fun field => Nat.le_trans (Nat.le_add_left _ _) (hlength field)
  have htogether (field : Field) :
      (field.get outer).toList ++ (field.get inner).toList = (call.value? field).toList := by
    rw [houterValues, hinnerValues, hvalues]
  have hown (field : Field) (hfield : field.isShared = false) :
      field.get inner = call.value? field := by
    have hlists := htogether field
    rw [houterValues, valuesOf_of_isShared hshared hfield, List.nil_append] at hlists
    exact toList_injective hlists
  have hgroups : IdSet.ofList inner.groups = .ofList call.groups := by
    rw [← CheckCall.ofList_groupsOf_of_perm horder, groupsOf_append,
      groupsOf_of_isShared hshared, List.nil_append, hinnerGroups]
  have hconfig : inner.config.or (outer.config.or fallback) = some call.config :=
    or_eq_some_of_toList (htogether .config) fallback
  have houtput : inner.output.or (outer.output.or none) = some call.output :=
    or_eq_some_of_toList (htogether .output) none
  rw [Option.or_none] at houtput
  have hcheck : itemsOf programOptions "check" (after.map CheckOption.written) =
      ([.word "check"], after.map CheckOption.written) := rfl
  have hbound : before.length <
      (before.map CheckOption.written ++ "check" :: after.map CheckOption.written).length := by
    simp
  have hbefore := itemsBeforeWord_written nodup_programOptions
    (fun option hoption => understood_programOptions (hshared option hoption)) hbound hcheck
    (by decide)
  have hafter := items_written nodup_checkOptions fun option (_ : option ∈ after) =>
    understood_checkOptions option
  simp only [parse, hbefore, houter, command, hafter, hinner, finish, request?_eq hown hgroups,
    hconfig, houtput, Option.map_some, Option.getD_some]

/-! ## The run -/

/-- The exit status tells whether the request is permitted. -/
theorem status_answer_check [PatternLimit] (settings : Settings) (format : OutputFormat)
    (request : Request) :
    (answer settings format (.check request)).status =
      if settings.policy.permits settings.extensionsInUse request then 0 else 1 := rfl

/-- Settings that could not be loaded are the caller's mistake, if there was
anything left to say so. -/
theorem failureStatus_eq {error : LoadError} (h : ∀ cause, error ≠ .brokenOff cause) :
    failureStatus error = 2 := by
  cases error with
  | brokenOff cause => exact absurd rfl (h cause)
  | _ => rfl

/-- All faces of a check agree.  If the policy file cannot be loaded, the
program says nothing and exits with 2.  Otherwise it prints the decision that
the policy makes, and exits with 0 exactly when the library permits the
request, which is when it can be required; a refusal carries what was asked
and what the decision says of it.  All this holds of every run that does not
break off, on every machine and under every limit. -/
theorem run_check [PatternLimit] (machine : Machine) (lookUp : Place → Option Entry)
    (environment : List Variable) (hshared : ∀ option ∈ before, option.isShared = true)
    (horder : (before ++ after).Perm call.options)
    (hload : ∀ cause, Settings.load machine lookUp environment (some call.config) ≠
      .error (.brokenOff cause)) :
    let outcome := run machine lookUp environment
      (before.map CheckOption.written ++ "check" :: after.map CheckOption.written)
    (∀ error, Settings.load machine lookUp environment (some call.config) = .error error →
      outcome.status = 2 ∧ outcome.output = "") ∧
    ∀ settings, Settings.load machine lookUp environment (some call.config) = .ok settings →
      let policy := settings.policy
      let extensions := settings.extensionsInUse
      let decision := policy.evaluate extensions call.request
      outcome.output = Report.decision call.output call.request decision ++ "\n" ∧
      (outcome.status = 0 ↔ policy.permits extensions call.request = true) ∧
      (outcome.status = 1 ↔ policy.permits extensions call.request = false) ∧
      (policy.permits extensions call.request = true ↔
        policy.require extensions call.request = .ok ()) ∧
      ∀ refusal, policy.require extensions call.request = .error refusal →
        refusal.action = call.action ∧ refusal.refName = call.refName ∧
        (decision = .denied refusal.reason refusal.governing ∨
          decision = .ungoverned ∧ refusal.governing = []) := by
  intro outcome
  have hparse := parse_check (lookUpVariable environment "REFGUARD_CONFIG") hshared horder
  refine ⟨fun error herror => ?_, fun settings hsettings => ?_⟩
  · have hlives : ∀ cause, error ≠ .brokenOff cause := by
      rintro cause rfl
      exact hload cause herror
    simp only [outcome, run, hparse, herror, failing, failureStatus_eq hlives, and_self]
  · intro policy extensions decision
    have houtcome : outcome = answer settings call.output (.check call.request) := by
      simp only [outcome, run, hparse, hsettings]
    have hstatus := status_answer_check settings call.output call.request
    rw [houtcome, hstatus]
    refine ⟨rfl, ?_, ?_, Policy.require_eq_ok_iff.symm, fun refusal => Policy.refusal_of_require⟩
    · simp [policy, extensions]
    · simp [policy, extensions]

/-- Of a branch that nobody is given the right to push, an owner is told what
stands in the way. -/
theorem run_check_protected_branch :
    let text := "[[protected_refs]]\nname='m*'"
    let lookUp (place : Place) : Option Entry :=
      if place = .path "p" then some (.file text) else none
    let settings : Settings := { protectedRefs := [{ label := "m*" }] }
    let actor : Actor := { id := 7, role := .owner, groups := .ofList [4, 2, 4] }
    let outcome := run .standard lookUp []
      ["--output=json", "check", "--ref=main", "--action=push", "--user=7", "--role=owner",
        "--group=4", "--group=2", "--group=4", "--config=p"]
    (∀ cause, Settings.load .standard lookUp [] (some "p") ≠ .error (.brokenOff cause)) ∧
      Settings.load .standard lookUp [] (some "p") = .ok settings ∧
      settings.policy.evaluate settings.extensionsInUse ⟨actor, .push, "main", .branch⟩ =
        .denied "not allowed to push protected branch 'main'" ["m*"] ∧
      outcome.status = 1 ∧
      outcome.output =
        "\x7b\"action\":\"push\",\"actor\":7,\"decision\":\"denied\",\"governing\":[\"m*\"]," ++
          "\"kind\":\"branch\",\"reason\":\"not allowed to push protected branch 'main'\"," ++
          "\"ref\":\"main\"\x7d\n" := by
  have hlines : Toml.readLines ("[[protected_refs]]\nname='m*'".toList.length + 1)
      ("[[protected_refs]]\nname='m*'".toList.length + 1)
      "[[protected_refs]]\nname='m*'".toList =
      some [.item ["protected_refs"], .assignment ["name"] (.string "m*")] := by rfl
  have hentries : Toml.addLines [] []
      [.item ["protected_refs"], .assignment ["name"] (.string "m*")] =
      some [("protected_refs", .tables [[("name", .closed (.string "m*"))]])] := rfl
  have hparsed := Toml.parse?_of_lines (by decide) hlines hentries
  intro text lookUp settings actor outcome
  let call : CheckCall :=
    { config := "p", output := .json, refName := "main", action := .push, kind := .branch,
      user := 7, role := .owner, admin := false, groups := [4, 2, 4], deployKey := none }
  have hheld : Place.Holds lookUp (.path "p") text := .file rfl
  have hchosen : Place.Chosen lookUp (some "p") (.path "p") :=
    ⟨[], [], rfl, by simp, by simp [lookUp]⟩
  have hload : Settings.load .standard lookUp [] (some "p") = .ok settings := by
    rw [Settings.load_eq_ofSources hchosen hheld, Settings.ofSources, Tree.ofDocument, hparsed]
    rfl
  have hlives (cause : Breakdown) :
      Settings.load .standard lookUp [] (some "p") ≠ .error (.brokenOff cause) := by
    rw [hload]
    simp
  let before : List CheckOption := [.single .output .json]
  let last : CheckOption := .single .config "p"
  let rest : List CheckOption :=
    [.single .refName "main", .single .action .push, .single .user 7, .single .role .owner,
      .group 4, .group 2, .group 4]
  have hshared : ∀ option ∈ before, option.isShared = true := by
    simp [before, CheckOption.isShared, Field.isShared]
  have hoptions : call.options = last :: (before ++ rest) := rfl
  have horder : (before ++ (rest ++ [last])).Perm call.options := by
    rw [hoptions, ← List.append_assoc]
    exact List.perm_append_singleton last (before ++ rest)
  have hwritten : before.map CheckOption.written ++
      "check" :: (rest ++ [last]).map CheckOption.written =
      ["--output=json", "check", "--ref=main", "--action=push", "--user=7", "--role=owner",
        "--group=4", "--group=2", "--group=4", "--config=p"] := by decide +kernel
  have hrun := (run_check .standard lookUp [] hshared horder hlives).2 settings hload
  rw [hwritten] at hrun
  have hdecision : settings.policy.evaluate settings.extensionsInUse call.request =
      .denied "not allowed to push protected branch 'main'" ["m*"] := by decide
  refine ⟨hlives, hload, hdecision, hrun.2.2.1.mpr ?_, hrun.1.trans ?_⟩
  · rw [Policy.permits, hdecision]
    rfl
  · rw [hdecision]
    decide +kernel

end RefPolicy.CommandLine
