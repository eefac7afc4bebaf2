import Mathlib.Data.List.Forall2

/-!
# RefPolicy.Proofs.JoinedText

Texts written piece after piece, with or without a separator between them.
Pieces are told apart when each is told off the front of whatever follows; a
separator does that when none of the pieces holds its first character.

* `append_cons_inj` — what stands before the first stop;
* `flatMap_eq_iff_forall₂` — items written one after the other;
* `intercalate_append`, `mem_intercalate` — what joining writes;
* `intercalate_map_inj` — items joined by a separator.
-/

namespace RefPolicy.Text

/-- What stands before the first `stop` is told from what stands behind it. -/
theorem append_cons_inj {stop : Char} {text other rest rest' : List Char} (h : stop ∉ text)
    (h' : stop ∉ other) :
    text ++ stop :: rest = other ++ stop :: rest' ↔ text = other ∧ rest = rest' := by
  induction text generalizing other with
  | nil =>
      cases other with
      | nil => simp
      | cons c other =>
          have hc : stop ≠ c := List.ne_of_not_mem_cons h'
          simp [hc]
  | cons c text ih =>
      cases other with
      | nil =>
          have hc : c ≠ stop := (List.ne_of_not_mem_cons h).symm
          simp [hc]
      | cons d other =>
          have htail := ih (List.not_mem_of_not_mem_cons h) (List.not_mem_of_not_mem_cons h')
          simp [htail, and_assoc]

/-- Items written one after the other are told apart when each of them is told
off the front of whatever follows. -/
theorem flatMap_eq_iff_forall₂ {α : Type} {write : α → List Char} {Alike : α → α → Prop}
    {items others : List α} (hne : ∀ item, write item ≠ [])
    (hfront : ∀ item ∈ items, ∀ other ∈ others, ∀ rest rest',
      write item ++ rest = write other ++ rest' ↔ Alike item other ∧ rest = rest') :
    items.flatMap write = others.flatMap write ↔ List.Forall₂ Alike items others := by
  induction items generalizing others with
  | nil =>
      cases others with
      | nil => simp
      | cons other others => simp [hne]
  | cons item items ih =>
      cases others with
      | nil => simp [hne]
      | cons other others =>
          have hhead := hfront item List.mem_cons_self other List.mem_cons_self
          have htail := ih fun item hitem other hother =>
            hfront item (List.mem_cons_of_mem _ hitem) other (List.mem_cons_of_mem _ hother)
          rw [List.flatMap_cons, List.flatMap_cons, hhead, htail, List.forall₂_cons]

/-- With one more separator behind the last, every piece has one behind it. -/
theorem intercalate_append {separator : List Char} {pieces : List (List Char)} (h : pieces ≠ []) :
    separator.intercalate pieces ++ separator = pieces.flatMap (· ++ separator) := by
  induction pieces with
  | nil => contradiction
  | cons piece pieces ih =>
      cases pieces with
      | nil => simp
      | cons next pieces =>
          rw [List.flatMap_cons, ← ih (List.cons_ne_nil _ _), List.intercalate_cons_cons]
          simp only [List.append_assoc]

theorem intercalate_ne_nil {separator piece : List Char} {pieces : List (List Char)}
    (h : piece ≠ []) : separator.intercalate (piece :: pieces) ≠ [] := by
  cases pieces <;> simp [h]

/-- Joined text is made of the pieces and the separator. -/
theorem mem_intercalate {c : Char} {separator : List Char} {pieces : List (List Char)}
    (h : c ∈ separator.intercalate pieces) : c ∈ separator ∨ ∃ piece ∈ pieces, c ∈ piece := by
  have hne : pieces ≠ [] := by
    rintro rfl
    simp at h
  have hmem : c ∈ pieces.flatMap (· ++ separator) := by
    rw [← intercalate_append hne]
    exact List.mem_append_left _ h
  obtain ⟨piece, hpiece, hc⟩ := List.mem_flatMap.mp hmem
  rcases List.mem_append.mp hc with hc | hc
  · exact .inr ⟨piece, hpiece, hc⟩
  · exact .inl hc

/-- Items that are written in one or more characters, among which the separator
does not begin, are told apart when they are joined. -/
theorem intercalate_map_inj {α : Type} {stop : Char} {separator : List Char}
    {write : α → List Char} {items others : List α} (hinj : Function.Injective write)
    (hne : ∀ item, write item ≠ []) (hstop : ∀ item ∈ items, stop ∉ write item)
    (hstop' : ∀ other ∈ others, stop ∉ write other) :
    (stop :: separator).intercalate (items.map write) =
        (stop :: separator).intercalate (others.map write) ↔ items = others := by
  cases items with
  | nil =>
      cases others with
      | nil => simp
      | cons other others => simp [(intercalate_ne_nil (hne other)).symm]
  | cons item items =>
      cases others with
      | nil => simp [intercalate_ne_nil (hne item)]
      | cons other others =>
          have hmap (item : α) (items : List α) : (item :: items).map write ≠ [] := by simp
          have htold : (item :: items).flatMap (fun item => write item ++ stop :: separator) =
                (other :: others).flatMap (fun item => write item ++ stop :: separator) ↔
              List.Forall₂ Eq (item :: items) (other :: others) := by
            refine flatMap_eq_iff_forall₂ (by simp) fun item hitem other hother rest rest' => ?_
            rw [List.append_assoc, List.append_assoc, List.cons_append, List.cons_append,
              append_cons_inj (hstop item hitem) (hstop' other hother), hinj.eq_iff,
              List.append_right_inj]
          rw [List.forall₂_eq_eq_eq] at htold
          rw [← List.append_left_inj (stop :: separator), intercalate_append (hmap item items),
            intercalate_append (hmap other others), List.flatMap_map, List.flatMap_map, htold]

end RefPolicy.Text
