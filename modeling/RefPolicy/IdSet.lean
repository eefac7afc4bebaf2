import RefPolicy.Grant

/-!
# RefPolicy.IdSet

Finite sets of numbers, kept as strictly increasing lists, so that equal
sets are equal values (`eq_of_mem_iff`) and listing one is listing it in order.
-/

namespace RefPolicy

/-- A set of numbers in increasing order. -/
structure IdSet where
  toList : List Id
  sorted : toList.Pairwise (· < ·)

namespace IdSet

instance : EmptyCollection IdSet := ⟨⟨[], .nil⟩⟩

instance : Membership Id IdSet := ⟨fun set id => id ∈ set.toList⟩

instance (id : Id) (set : IdSet) : Decidable (id ∈ set) :=
  inferInstanceAs (Decidable (id ∈ set.toList))

/-- Put `id` at its place in an increasing list, once. -/
def place (id : Id) : List Id → List Id
  | [] => [id]
  | other :: rest =>
    if id < other then id :: other :: rest
    else if id = other then other :: rest
    else other :: place id rest

/-- Placing a number adds that number. -/
theorem mem_place {id a : Id} {ids : List Id} : a ∈ place id ids ↔ a = id ∨ a ∈ ids := by
  induction ids with
  | nil => simp [place]
  | cons b rest ih =>
    unfold place
    split
    · simp
    · split
      · next h => subst h; simp
      · simp only [List.mem_cons, ih]
        exact or_left_comm

/-- It keeps the numbers in order, each once. -/
theorem pairwise_place {id : Id} {ids : List Id} (h : ids.Pairwise (· < ·)) :
    (place id ids).Pairwise (· < ·) := by
  induction ids with
  | nil => simp [place]
  | cons b rest ih =>
    rw [List.pairwise_cons] at h
    unfold place
    split
    · next hlt =>
      refine List.pairwise_cons.mpr ⟨fun c hc => ?_, List.pairwise_cons.mpr h⟩
      rcases List.mem_cons.mp hc with rfl | hc
      · exact hlt
      · exact UInt64.lt_trans hlt (h.1 c hc)
    · split
      · exact List.pairwise_cons.mpr h
      · next hlt hne =>
        refine List.pairwise_cons.mpr ⟨fun c hc => ?_, ih h.2⟩
        rcases mem_place.mp hc with rfl | hc
        · rw [UInt64.lt_iff_toNat_lt] at hlt ⊢
          rw [← UInt64.toNat_inj] at hne
          omega
        · exact h.1 c hc

/-- Add one number. -/
def insert (id : Id) (set : IdSet) : IdSet := ⟨place id set.toList, pairwise_place set.sorted⟩

/-- Add every number of a list. -/
def insertAll (set : IdSet) (ids : List Id) : IdSet := ids.foldl (fun set id => set.insert id) set

/-- The set of the numbers of a list. -/
def ofList (ids : List Id) : IdSet := insertAll ∅ ids

@[simp] theorem mem_insert {id a : Id} {set : IdSet} : a ∈ set.insert id ↔ a = id ∨ a ∈ set :=
  mem_place

@[simp] theorem mem_insertAll {ids : List Id} {a : Id} {set : IdSet} :
    a ∈ set.insertAll ids ↔ a ∈ set ∨ a ∈ ids := by
  induction ids generalizing set with
  | nil => simp [insertAll]
  | cons id ids ih =>
      have hrest : a ∈ (set.insert id).insertAll ids ↔ (a = id ∨ a ∈ set) ∨ a ∈ ids := by
        rw [ih, mem_insert]
      rw [List.mem_cons, ← or_left_comm, ← or_assoc]
      exact hrest

@[simp] theorem mem_ofList {ids : List Id} {a : Id} : a ∈ ofList ids ↔ a ∈ ids := by
  rw [ofList, mem_insertAll]
  exact or_iff_right List.not_mem_nil

/-- A set is its members. -/
theorem eq_of_mem_iff {set other : IdSet} (h : ∀ id, id ∈ set ↔ id ∈ other) : set = other := by
  have hnodup (set : IdSet) : set.toList.Nodup :=
    set.sorted.imp fun hlt => UInt64.ne_of_lt hlt
  have hperm : set.toList.Perm other.toList :=
    (List.perm_ext_iff_of_nodup (hnodup set) (hnodup other)).mpr h
  have hlists : set.toList = other.toList :=
    hperm.eq_of_pairwise (fun _ _ _ _ hlt hgt => absurd hgt (UInt64.lt_asymm hlt)) set.sorted
      other.sorted
  cases set
  cases other
  congr

end IdSet

end RefPolicy
