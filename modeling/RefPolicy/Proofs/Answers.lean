import Mathlib.Data.List.Nodup
import RefPolicy.Proofs.JsonText
import RefPolicy.Report

/-!
# RefPolicy.Proofs.Answers

Answers in JSON are read back.  The report of a decision is one object, into
which the members of the decision are put after those of the request.  No key
is used by both, so nothing that was said of the request is replaced, and what
is read from the report is all that was put in, each member once.  Reports
that are the same then answer the same question the same way.

* `Decision.perm_members` — no member of a request is replaced;
* `Decision.same_of_perm` — the members tell the question and the answer;
* `Report.json_read_back` — decisions and results as read from their reports.
-/

namespace RefPolicy

namespace Json

theorem ofText_inj {text other : String} : ofText text = ofText other ↔ text = other := by
  simp [ofText]

theorem map_ofText_inj {texts others : List String} :
    texts.map ofText = others.map ofText ↔ texts = others :=
  List.map_inj_right fun _ _ => ofText_inj.mp

theorem plain_map_ofText (texts : List String) : Plain (array (texts.map ofText)) := by
  refine .array fun item hitem => ?_
  obtain ⟨text, -, rfl⟩ := List.mem_map.mp hitem
  exact .string _

/-- Objects with the same members are the same. -/
theorem ofMembers_inj {members others : List (String × Json)} :
    ofMembers members = ofMembers others ↔ members = others := by
  have hkey : Function.Injective fun member : String × Json => (some member.1, member.2) := by
    intro member other h
    simpa [Prod.ext_iff] using h
  rw [ofMembers, ofMembers, object.injEq, List.map_inj_right hkey]

end Json

/-! ## Decisions -/

theorem Request.plain_members {request : Request} {member : String × Json}
    (h : member ∈ request.members) : member.2.Plain := by
  simp only [members, List.mem_cons, List.not_mem_nil, or_false] at h
  rcases h with rfl | rfl | rfl | rfl
  · exact .string _
  · exact .natural _
  · exact .string _
  · exact .string _

namespace Decision

variable {request request' : Request} {decision decision' : Decision}

theorem plain_members {member : String × Json} (h : member ∈ decision.members) :
    member.2.Plain := by
  cases decision with
  | allowed reason =>
      simp only [members, List.mem_cons, List.not_mem_nil, or_false] at h
      rcases h with rfl | rfl
      · exact .string _
      · exact .string _
  | denied reason governing =>
      simp only [members, List.mem_cons, List.not_mem_nil, or_false] at h
      rcases h with rfl | rfl | rfl
      · exact .string _
      · exact Json.plain_map_ofText governing
      · exact .string _
  | ungoverned =>
      obtain rfl := List.mem_singleton.mp h
      exact .string _

/-- No key says something of the request and of the decision. -/
theorem nodup_keys (request : Request) (decision : Decision) :
    ((request.members ++ decision.members).map Prod.fst).Nodup := by
  cases decision <;> simp [Request.members, members]

/-- No member of a decision replaces one of the request. -/
theorem perm_members (request : Request) (decision : Decision) :
    (Json.putMembers request.members decision.members).Perm
      (request.members ++ decision.members) :=
  Json.perm_putMembers (nodup_keys request decision)

/-- A request with its answer can be written as text. -/
theorem plain_toJson (request : Request) (decision : Decision) :
    (decision.toJson request).Plain := by
  refine Json.plain_ofMembers fun member hmember => ?_
  have hgiven := (perm_members request decision).mem_iff.mp hmember
  rcases List.mem_append.mp hgiven with hrequest | hdecision
  · exact Request.plain_members hrequest
  · exact plain_members hdecision

/-- A decision is known by its word and by what its members say. -/
theorem eq_of_word_eq (hword : decision.word = decision'.word)
    (hsame : ∀ key value value', (key, value) ∈ decision.members →
      (key, value') ∈ decision'.members → value = value') : decision = decision' := by
  cases decision with
  | allowed reason =>
      cases decision' with
      | allowed reason' =>
          have hreason := hsame "reason" (.ofText reason) (.ofText reason') (by simp [members])
            (by simp [members])
          rw [Json.ofText_inj.mp hreason]
      | denied | ungoverned => exact absurd hword (by simp [word])
  | denied reason governing =>
      cases decision' with
      | denied reason' governing' =>
          have hreason := hsame "reason" (.ofText reason) (.ofText reason') (by simp [members])
            (by simp [members])
          have hgoverning := hsame "governing" (.array (governing.map .ofText))
            (.array (governing'.map .ofText)) (by simp [members]) (by simp [members])
          rw [Json.array.injEq, Json.map_ofText_inj] at hgoverning
          rw [Json.ofText_inj.mp hreason, hgoverning]
      | allowed | ungoverned => exact absurd hword (by simp [word])
  | ungoverned =>
      cases decision' with
      | ungoverned => rfl
      | allowed | denied => exact absurd hword (by simp [word])

/-- The members of a report tell what was asked, by whom, and the answer. -/
theorem same_of_perm
    (h : (request.members ++ decision.members).Perm (request'.members ++ decision'.members)) :
    request.action = request'.action ∧ request.kind = request'.kind ∧
      request.refName = request'.refName ∧ request.actor.id = request'.actor.id ∧
      decision = decision' := by
  have hsame (key : String) (value value' : Json)
      (hvalue : (key, value) ∈ request.members ++ decision.members)
      (hvalue' : (key, value') ∈ request'.members ++ decision'.members) : value = value' :=
    (Prod.mk.inj (List.inj_on_of_nodup_map (nodup_keys request' decision')
      (h.mem_iff.mp hvalue) hvalue' rfl)).2
  have haction := hsame "action" (.ofName request.action) (.ofName request'.action)
    (by simp [Request.members]) (by simp [Request.members])
  have hkind := hsame "kind" (.ofName request.kind) (.ofName request'.kind)
    (by simp [Request.members]) (by simp [Request.members])
  have href := hsame "ref" (.ofText request.refName) (.ofText request'.refName)
    (by simp [Request.members]) (by simp [Request.members])
  have hactor := hsame "actor" (.ofId request.actor.id) (.ofId request'.actor.id)
    (by simp [Request.members]) (by simp [Request.members])
  have hword := hsame "decision" (.ofText decision.word) (.ofText decision'.word)
    (by simp [members]) (by simp [members])
  have hid : request.actor.id.toNat = request'.actor.id.toNat := by
    simpa [Json.ofId] using hactor
  have hdecision : decision = decision' :=
    eq_of_word_eq (Json.ofText_inj.mp hword) fun key value value' hvalue hvalue' =>
      hsame key value value' (List.mem_append_right _ hvalue) (List.mem_append_right _ hvalue')
  exact ⟨Action.name_inj.mp (Json.ofText_inj.mp haction),
    RefKind.name_inj.mp (Json.ofText_inj.mp hkind), Json.ofText_inj.mp href,
    UInt64.toNat_inj.mp hid, hdecision⟩

end Decision

/-! ## Reports -/

namespace Report

/-- The report of a decision is read back as the object that it was written from. -/
theorem parse?_decision (request : Request) (decision : Decision) :
    Json.parse? (Report.decision .json request decision) = some (decision.toJson request) :=
  Json.parse?_text (decision.plain_toJson request)

theorem plain_protectionJson (result : String × Bool) : (protectionJson result).Plain := by
  refine Json.plain_ofMembers fun member hmember => ?_
  simp only [List.mem_cons, List.not_mem_nil, or_false] at hmember
  rcases hmember with rfl | rfl
  · exact .bool _
  · exact .string _

/-- A result is known by its object. -/
theorem protectionJson_injective : Function.Injective protectionJson := by
  intro result other h
  simpa [protectionJson, Json.ofMembers_inj, Json.ofText_inj, Prod.ext_iff, and_comm] using h

/-- So is the report of which refs are protected. -/
theorem parse?_protection (results : List (String × Bool)) :
    Json.parse? (protection .json results) = some (.array (results.map protectionJson)) := by
  refine Json.parse?_text (.array fun item hitem => ?_)
  obtain ⟨result, -, rfl⟩ := List.mem_map.mp hitem
  exact plain_protectionJson result

/-- A report of a decision is read as one object, which has the members of the
request and those of the answer and no others, each once; a report of results
is read as an array with an object for each of them, in order.  So reports
that are the same answer the same question alike, or give the same results. -/
theorem json_read_back :
    (∀ (request : Request) (decision : Decision), ∃ members : List (String × Json),
      Json.parse? (Report.decision .json request decision) = some (.ofMembers members) ∧
      (members.map Prod.fst).Nodup ∧
      members.Perm
        ([("action", .ofText (name request.action)), ("actor", .natural request.actor.id.toNat),
          ("kind", .ofText (name request.kind)), ("ref", .ofText request.refName)] ++
        match decision with
        | .allowed reason => [("decision", .ofText "allowed"), ("reason", .ofText reason)]
        | .denied reason governing =>
          [("decision", .ofText "denied"), ("governing", .array (governing.map .ofText)),
            ("reason", .ofText reason)]
        | .ungoverned => [("decision", .ofText "ungoverned")])) ∧
    (∀ results : List (String × Bool),
      Json.parse? (protection .json results) =
        some (.array (results.map fun result =>
          .ofMembers [("protected", .bool result.2), ("ref", .ofText result.1)]))) ∧
    (∀ (request request' : Request) (decision decision' : Decision),
      Report.decision .json request decision = Report.decision .json request' decision' →
        request.action = request'.action ∧ request.kind = request'.kind ∧
          request.refName = request'.refName ∧ request.actor.id = request'.actor.id ∧
          decision = decision') ∧
    ∀ results results' : List (String × Bool),
      protection .json results = protection .json results' → results = results' := by
  refine ⟨fun request decision => ?_, parse?_protection, ?_, ?_⟩
  · have hperm := decision.perm_members request
    refine ⟨_, parse?_decision request decision, ?_, hperm.trans ?_⟩
    · exact (hperm.map Prod.fst).nodup_iff.mpr (Decision.nodup_keys request decision)
    · cases decision <;> exact .refl _
  · intro request request' decision decision' h
    have hread := parse?_decision request decision
    rw [h, parse?_decision, Option.some.injEq, Decision.toJson, Decision.toJson,
      Json.ofMembers_inj] at hread
    refine Decision.same_of_perm ?_
    have hperm := Decision.perm_members request decision
    rw [← hread] at hperm
    exact hperm.symm.trans (Decision.perm_members request' decision')
  · intro results results' h
    have hread := parse?_protection results
    rw [h, parse?_protection, Option.some.injEq, Json.array.injEq,
      List.map_inj_right protectionJson_injective] at hread
    exact hread.symm

end Report

end RefPolicy
