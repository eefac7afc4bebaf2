import RefPolicy.Proofs.Bearing
import RefPolicy.Proofs.JsonText
import RefPolicy.Proofs.TimestampText
import RefPolicy.Report
import RefPolicy.Settings.FromJson

/-!
# RefPolicy.Proofs.Listing

A JSON listing of protections is a policy.  Put as the `protected_refs` of an
object, it is read as settings whose protections are those listed, up to the
order in which rules for different actions were declared: a listing groups
rules by action, and keeps their order in each group.  Nothing a policy is
asked looks across groups, so the policy that is read decides as the one that
was listed.

* `Protection.regrouped` — a protection with its rules grouped by action;
* `Protection.ofJson?_toJson`, `Protections.ofJson?_document` — what is read;
* `Policy.evaluate_map_regrouped`, `Protections.report_map_regrouped` — decisions
  and listings do not change;
* `Protections.listing_read_back` — the whole.
-/

namespace RefPolicy

/-! ## Fields -/

namespace Json

/-- A number is read back. -/
theorem asId_ofId (id : Id) : asId (ofId id) = some id := by
  have hsize : id.toNat < UInt64.size := id.toNat_lt
  simp [asId, ofId, Digits.toWord64?, hsize]

/-- A list is read item by item. -/
theorem listOf_map {α β : Type} {write : α → Json} {read : Json → Option β} {f : α → β}
    (h : ∀ a, read (write a) = some (f a)) (values : List α) :
    listOf read (array (values.map write)) = some (values.map f) := by
  have hread : read ∘ write = fun a => (pure (f a) : Option β) := funext h
  rw [listOf, List.mapM_map, hread, List.mapM_pure]
  rfl

end Json

/-- A grant is read back. -/
theorem Grant.ofJson?_toJson (grant : Grant) : Grant.ofJson? grant.toJson = some grant := by
  cases grant with
  | role threshold => cases threshold <;> rfl
  | user id | group id | deployKey id =>
      simp [toJson, Json.ofMembers, ofJson?, Json.onlyMember, Json.asId_ofId]

/-- So is a list of grants. -/
theorem Grant.listOf_ofJson? (grants : List Grant) :
    Json.listOf Grant.ofJson? (.array (grants.map Grant.toJson)) = some grants := by
  rw [Json.listOf_map (f := id) Grant.ofJson?_toJson, List.map_id]

/-- What is written for a grant can be written as text. -/
theorem Grant.plain_toJson (grant : Grant) : grant.toJson.Plain := by
  cases grant with
  | role threshold => exact Json.plain_ofMembers (List.forall_mem_singleton.mpr (.string _))
  | user id | group id | deployKey id =>
      exact Json.plain_ofMembers (List.forall_mem_singleton.mpr (.natural _))

/-- A time is read back, and so is its absence. -/
theorem Timestamp.nullable_ofOptionalText (time : Option Timestamp) :
    Json.nullable Timestamp.ofJson? (.ofOptionalText (time.map Timestamp.text)) = some time := by
  cases time with
  | none => rfl
  | some t =>
      simp [Json.ofOptionalText, Json.ofText, Json.nullable, ofJson?, Json.asText, parse?_text]

/-! ## One protection -/

namespace Protection

/-- How a policy file would declare the protection. -/
def declaration (protection : Protection) : ProtectedRef where
  label := protection.label
  kind := protection.kind
  createdAt := protection.createdAt
  codeOwnerApproval := protection.codeOwnerApproval
  push := protection.grantsFor .push
  merge := protection.grantsFor .merge
  unprotect := protection.grantsFor .unprotect

/-- The protection with its rules grouped by action. -/
def regrouped (protection : Protection) : Protection :=
  { protection with
    rules := protection.rulesFor .push ++ protection.rulesFor .merge ++
      protection.rulesFor .unprotect }

/-- Every field is listed once, and the one more that is listed is passed over. -/
theorem record?_toJson [PatternLimit] (protection : Protection) :
    ∃ field, protection.toJson.record? ProtectedRef.fieldNames = some field ∧
      field "name" = some (.ofText protection.label) ∧
      field "kind" = some (.ofName protection.kind) ∧
      field "created_at" = some (.ofOptionalText (protection.createdAt.map Timestamp.text)) ∧
      field "code_owner_approval_required" = some (.bool protection.codeOwnerApproval) ∧
      ∀ action, field (name action) =
        some (.array ((protection.grantsFor action).map Grant.toJson)) := by
  refine ⟨_, rfl, rfl, rfl, rfl, rfl, fun action => ?_⟩
  cases action <;> rfl

/-- A protection is read as its declaration. -/
theorem ofJson?_toJson {limit : PatternLimit} (protection : Protection) :
    ProtectedRef.ofJson? protection.toJson = some protection.declaration := by
  obtain ⟨field, hfield, hlabel, hkind, htime, happroval, hgrants⟩ := record?_toJson protection
  have hname : Json.asName (.ofName protection.kind) = some protection.kind := by
    cases protection.kind <;> rfl
  have hpush := hgrants .push
  have hmerge := hgrants .merge
  have hunprotect := hgrants .unprotect
  simp only [name] at hpush hmerge hunprotect
  simp only [ProtectedRef.ofJson?, hfield, hlabel, hkind, htime, happroval, hpush, hmerge,
    hunprotect, Json.orDefault, Json.asText, Json.ofText, Json.asBool, hname,
    Timestamp.nullable_ofOptionalText, Grant.listOf_ofJson?,
    Option.bind_eq_bind, Option.bind_some]
  rfl

/-- Rules that are declared one after the other come to stand behind those there are. -/
theorem allowAll_eq (protection : Protection) (action : Action) (grants : List Grant) :
    protection.allowAll action grants =
      { protection with rules := protection.rules ++ grants.map (Rule.mk action) } := by
  induction grants generalizing protection with
  | nil => simp [allowAll]
  | cons grant grants ih =>
      rw [allowAll, List.foldl_cons, ← allowAll, ih]
      simp [allow]

/-- The rules for an action are its grants, each with the action. -/
theorem map_grantsFor (protection : Protection) (action : Action) :
    (protection.grantsFor action).map (Rule.mk action) = protection.rulesFor action := by
  rw [grantsFor, List.map_map]
  refine (List.map_congr_left fun rule hrule => ?_).trans (List.map_id _)
  have haction : rule.action = action := by
    simpa using (List.mem_filter.mp hrule).2
  simp [← haction]

/-- A declaration makes a protection again, with its rules grouped. -/
theorem toProtection_declaration (protection : Protection) :
    protection.declaration.toProtection = protection.regrouped := by
  simp only [ProtectedRef.toProtection, allowAll_eq, declaration, map_grantsFor, regrouped,
    List.nil_append, label]

/-- The rules of one action hold none of another. -/
theorem filter_rulesFor (protection : Protection) (action other : Action) :
    ((protection.rulesFor other).filter fun rule => rule.action == action) =
      if action = other then protection.rulesFor action else [] := by
  rw [rulesFor, List.filter_filter]
  split
  · next h =>
      subst h
      simp only [Bool.and_self]
      rfl
  · next h =>
      rw [List.filter_eq_nil_iff]
      intro rule _
      simp only [Bool.and_eq_true, beq_iff_eq]
      rintro ⟨rfl, hother⟩
      exact h hother

/-- Grouping leaves the rules for each action in their order. -/
theorem rulesFor_regrouped (protection : Protection) (action : Action) :
    protection.regrouped.rulesFor action = protection.rulesFor action := by
  rw [rulesFor, regrouped, List.filter_append, List.filter_append]
  simp only [filter_rulesFor]
  cases action <;> simp

/-- A merge rule between two push rules moves behind them. -/
example :
    Protection.regrouped
        { pattern := ⟨"main"⟩, kind := .branch,
          rules := [⟨.push, .user 2⟩, ⟨.merge, .role .developer⟩, ⟨.push, .user 1⟩] } =
      { pattern := ⟨"main"⟩, kind := .branch,
        rules := [⟨.push, .user 2⟩, ⟨.push, .user 1⟩, ⟨.merge, .role .developer⟩] } := by
  rfl

/-- The order of rules for different actions is not seen. -/
theorem seenAlike_regrouped {limit : PatternLimit} (protection : Protection) (request : Request)
    (features : Features) :
    protection.regrouped.SeenAlike request features protection where
  kind_eq := rfl
  covers_eq := rfl
  bearing_eq := by
    simp only [bearing, rulesFor_regrouped]
    rfl

/-- A listing does not show whether rules have been grouped. -/
theorem toJson_regrouped {limit : PatternLimit} (protection : Protection) :
    protection.regrouped.toJson = protection.toJson := by
  simp only [toJson, grantsFor, rulesFor_regrouped]
  rfl

/-- What is written for a protection can be written as text. -/
theorem plain_toJson {limit : PatternLimit} (protection : Protection) :
    protection.toJson.Plain := by
  have hgrants (action : Action) :
      Json.Plain (.array ((protection.grantsFor action).map Grant.toJson)) := by
    refine .array fun item hitem => ?_
    obtain ⟨grant, -, rfl⟩ := List.mem_map.mp hitem
    exact grant.plain_toJson
  have htime : Json.Plain (.ofOptionalText (protection.createdAt.map Timestamp.text)) := by
    cases protection.createdAt with
    | none => exact .null
    | some t => exact .string _
  refine Json.plain_ofMembers fun member hmember => ?_
  simp only [List.mem_cons, List.not_mem_nil, or_false] at hmember
  rcases hmember with rfl | rfl | rfl | rfl | rfl | rfl | rfl | rfl
  · exact .bool _
  · exact htime
  · exact .string _
  · exact hgrants .merge
  · exact .string _
  · exact hgrants .push
  · exact hgrants .unprotect
  · exact .bool _

end Protection

/-- Requests are decided as before with rules grouped. -/
theorem Policy.evaluate_map_regrouped {limit : PatternLimit} {project : Project}
    {features : Features} (protections : Protections) (bundled : List Bundled) (request : Request) :
    evaluate ⟨project, protections.map Protection.regrouped, features⟩
        (bundled.map Bundled.toExtension) request =
      evaluate ⟨project, protections, features⟩ (bundled.map Bundled.toExtension) request := by
  refine evaluate_eq_of_seenAlike (List.forall₂_map_left_iff.mpr ?_)
  exact List.forall₂_same.mpr fun protection _ => protection.seenAlike_regrouped request features

/-! ## The listing as a policy -/

/-- The listing as the only member of an object. -/
def Protections.document [PatternLimit] (listed : Protections) : Json :=
  .ofMembers [("protected_refs", .array (listed.map Protection.toJson))]

namespace Protections

variable {limit : PatternLimit}

/-- What is written for a listing can be written as text. -/
theorem plain_document (listed : Protections) : listed.document.Plain := by
  refine Json.plain_ofMembers (List.forall_mem_singleton.mpr (.array fun item hitem => ?_))
  obtain ⟨protection, -, rfl⟩ := List.mem_map.mp hitem
  exact protection.plain_toJson

/-- The object is written with the listing inside it. -/
theorem text_document (listed : Protections) :
    listed.document.text =
      "\x7b\"protected_refs\":" ++ Report.protections .json listed ++ "\x7d" := by
  rw [← String.toList_inj]
  simp only [Json.text, document, Json.ofMembers, List.map_cons, List.map_nil, Json.chars,
    Json.membersChars, String.toList_ofList, String.toList_append, Report.protections]
  rfl

/-- Nothing but protected refs is given. -/
theorem record?_document [PatternLimit] (listed : Protections) :
    ∃ field,
      listed.document.record? ["logging", "features", "project", "extensions", "protected_refs"] =
          some field ∧
        field "protected_refs" = some (.array (listed.map Protection.toJson)) ∧
        field "logging" = none ∧ field "features" = none ∧ field "project" = none ∧
        field "extensions" = none :=
  ⟨_, rfl, rfl, rfl, rfl, rfl, rfl⟩

/-- The object is read as settings that declare each protection, and say nothing else. -/
theorem ofJson?_document (listed : Protections) :
    Settings.ofJson? listed.document =
      some { protectedRefs := listed.map Protection.declaration } := by
  have hrefs : Json.listOf ProtectedRef.ofJson? (.array (listed.map Protection.toJson)) =
      some (listed.map Protection.declaration) :=
    Json.listOf_map Protection.ofJson?_toJson listed
  obtain ⟨field, hfield, hgiven, hlogging, hfeatures, hproject, hextensions⟩ :=
    record?_document listed
  simp only [Settings.ofJson?, hfield, hgiven, hlogging, hfeatures, hproject, hextensions,
    Json.orDefault, hrefs, Option.bind_eq_bind, Option.bind_some]

/-- These settings have the protections that were listed, with their rules grouped. -/
theorem toProtection_map_declaration (listed : Protections) :
    (listed.map Protection.declaration).map ProtectedRef.toProtection =
      listed.map Protection.regrouped := by
  rw [List.map_map]
  exact List.map_congr_left fun protection _ => protection.toProtection_declaration

/-- They are listed the same way again. -/
theorem report_map_regrouped (listed : Protections) :
    Report.protections .json (listed.map Protection.regrouped) =
      Report.protections .json listed := by
  simp only [Report.protections, List.map_map, Function.comp_def, Protection.toJson_regrouped]

end Protections

/-- Whatever protections are listed, the listing is read as a policy: one
protection for each, in order, with the same label, kind, time and need of
approval and with the same rules for every action.  It is listed the same way
again, and under every state of the project, all switches and all bundled
extensions every request is decided the same way. -/
theorem Protections.listing_read_back [PatternLimit] (listed : Protections) :
    ∃ settings : Settings,
      (Json.parse? ("\x7b\"protected_refs\":" ++ Report.protections .json listed ++ "\x7d")).bind
          Settings.ofJson? = some settings ∧
      settings.policy.protections.length = listed.length ∧
      (∀ (i : Nat) (read original : Protection),
        settings.policy.protections[i]? = some read → listed[i]? = some original →
          read.label = original.label ∧ read.kind = original.kind ∧
            read.createdAt = original.createdAt ∧
            read.codeOwnerApproval = original.codeOwnerApproval ∧
            ∀ action, read.rulesFor action = original.rulesFor action) ∧
      Report.protections .json settings.policy.protections = Report.protections .json listed ∧
      ∀ (project : Project) (features : Features) (bundled : List Bundled) (request : Request),
        Policy.evaluate ⟨project, settings.policy.protections, features⟩
            (bundled.map Bundled.toExtension) request =
          Policy.evaluate ⟨project, listed, features⟩ (bundled.map Bundled.toExtension)
            request := by
  have hread : listed.map Protection.regrouped =
      (Settings.policy { protectedRefs := listed.map Protection.declaration }).protections :=
    (toProtection_map_declaration listed).symm
  refine ⟨{ protectedRefs := listed.map Protection.declaration }, ?_, ?_⟩
  · rw [← text_document, Json.parse?_text listed.plain_document, Option.bind_some,
      ofJson?_document]
  · rw [← hread]
    refine ⟨List.length_map _, ?_, report_map_regrouped listed, ?_⟩
    · intro i read original hreadAt horiginal
      obtain rfl : original.regrouped = read := by
        rw [List.getElem?_map, horiginal] at hreadAt
        exact Option.some.inj hreadAt
      exact ⟨rfl, rfl, rfl, rfl, original.rulesFor_regrouped⟩
    · intro project features bundled request
      exact Policy.evaluate_map_regrouped listed bundled request

end RefPolicy
