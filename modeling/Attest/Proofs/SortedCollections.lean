import Attest.Proofs.TextOrder
import Attest.Value.Collection

/-!
# Sorted collections

A sorted set is built by putting its elements in their places one after the other, and they ascend at
every moment. A search that ends where the element would have been therefore misses none: it finds an
element exactly when the collection has it. The keys of a map are the set of the keys put into it.
-/

namespace Attest

section

variable {α β : Type} {cmp : α → α → Ordering} {x : α} {xs : List α}

/-- Each element comes before all that follow it. -/
def Ascending (cmp : α → α → Ordering) (xs : List α) : Prop :=
  xs.Pairwise fun x y => cmp x y = .lt

theorem map_fst_putHashed (equal : α → α → Bool) (key : α) (value : β) (entries : List (α × β)) :
    (putHashed equal key value entries).map Prod.fst =
      insertHashed equal key (entries.map Prod.fst) := by
  induction entries with
  | nil => rfl
  | cons entry entries ih =>
    simp only [putHashed, List.map_cons, insertHashed]
    split
    · rfl
    · rw [List.map_cons, ih]

theorem map_fst_putSorted (compare? : α → α → Option Ordering) (key : α) (value : β)
    (entries : List (α × β)) :
    (putSorted compare? key value entries).map Prod.fst =
      insertSorted compare? key (entries.map Prod.fst) := by
  induction entries with
  | nil => rfl
  | cons entry entries ih =>
    simp only [putSorted, List.map_cons, insertSorted]
    split
    · rfl
    · rfl
    · rw [List.map_cons, ih]

theorem mem_insertSorted {compare? : α → α → Option Ordering} {y : α}
    (h : y ∈ insertSorted compare? x xs) : y = x ∨ y ∈ xs := by
  induction xs with
  | nil => exact Or.inl (by simpa [insertSorted] using h)
  | cons z xs ih =>
    rw [insertSorted] at h
    split at h
    · simpa using h
    · exact Or.inr h
    · rcases List.mem_cons.mp h with rfl | h
      · exact Or.inr List.mem_cons_self
      · exact (ih h).imp_right (List.mem_cons_of_mem _)

variable [Std.TransCmp cmp]

theorem ascending_insertSorted (h : Ascending cmp xs) :
    Ascending cmp (insertSorted (fun x y => some (cmp x y)) x xs) := by
  induction xs with
  | nil => exact List.pairwise_singleton _ _
  | cons z xs ih =>
    obtain ⟨hfirst, hrest⟩ := List.pairwise_cons.mp h
    rw [insertSorted]
    split
    · rename_i hlt
      have hlt : cmp x z = .lt := Option.some.inj hlt
      refine List.pairwise_cons.mpr ⟨?_, h⟩
      intro y hy
      rcases List.mem_cons.mp hy with rfl | hy
      · exact hlt
      · exact Std.TransCmp.lt_trans hlt (hfirst y hy)
    · exact h
    · rename_i hnlt hneq
      refine List.pairwise_cons.mpr ⟨?_, ih hrest⟩
      intro y hy
      rcases mem_insertSorted hy with rfl | hy
      · cases hc : cmp y z with
        | lt => exact absurd (congrArg some hc) hnlt
        | eq => exact absurd (congrArg some hc) hneq
        | gt => exact Std.OrientedCmp.lt_of_gt hc
      · exact hfirst y hy

/-- A search in an ascending list finds what compares equal to one of its elements. -/
theorem hasSorted_iff_exists (h : Ascending cmp xs) :
    hasSorted (fun x y => some (cmp x y)) x xs = true ↔ ∃ y ∈ xs, cmp x y = .eq := by
  induction xs with
  | nil => simp [hasSorted]
  | cons y ys ih =>
    obtain ⟨hfirst, hrest⟩ := List.pairwise_cons.mp h
    cases hc : cmp x y with
    | lt =>
      have hbefore : ∀ z ∈ ys, cmp x z = .lt := fun z hz => Std.TransCmp.lt_trans hc (hfirst z hz)
      have habsent : ¬ ∃ z ∈ y :: ys, cmp x z = .eq := by
        rintro ⟨z, hz, heq⟩
        rcases List.mem_cons.mp hz with rfl | hz
        · rw [hc] at heq
          cases heq
        · rw [hbefore z hz] at heq
          cases heq
      simp only [hasSorted, hc]
      exact iff_of_false Bool.false_ne_true habsent
    | eq => simp [hasSorted, hc]
    | gt => simp [hasSorted, hc, ih hrest]

/-- Where only the same compare equal, a search finds what is there. -/
theorem hasSorted_iff [Std.LawfulEqCmp cmp] (h : Ascending cmp xs) :
    hasSorted (fun x y => some (cmp x y)) x xs = true ↔ x ∈ xs := by
  simp [hasSorted_iff_exists h]

end

namespace Kind

/-- The keys of a map are the set of the keys put into it. -/
theorem map_fst_mapOf (arrangement : Arrangement) (key value : Kind)
    (entries : List (key.Value × value.Value)) :
    (mapOf arrangement key value entries).map Prod.fst =
      setOf arrangement key (entries.map Prod.fst) := by
  cases arrangement with
  | hashed =>
    have hput (done : List (key.Value × value.Value)) (entry : key.Value × value.Value) :=
      (map_fst_putHashed key.equal entry.1 entry.2 done).symm
    rw [setOf, List.foldl_map]
    exact (List.foldl_hom _ hput).symm
  | sorted =>
    have hput (done : List (key.Value × value.Value)) (entry : key.Value × value.Value) :=
      (map_fst_putSorted key.compare? entry.1 entry.2 done).symm
    rw [setOf, List.foldl_map]
    exact (List.foldl_hom _ hput).symm

theorem ascending_setOf {kind : Kind} {cmp : kind.Value → kind.Value → Ordering}
    [Std.TransCmp cmp] (hcmp : kind.compare? = fun x y => some (cmp x y)) (xs : List kind.Value) :
    Ascending cmp (setOf .sorted kind xs) := by
  rw [setOf, hcmp]
  refine List.foldlRecOn xs _ List.Pairwise.nil ?_
  intro done h x _
  exact ascending_insertSorted h

/-- The keys of a sorted map of texts ascend. -/
theorem ascending_mapOf (value : Kind) (entries : List (String × value.Value)) :
    Ascending Text.compare ((mapOf .sorted .text value entries).map Prod.fst) := by
  have hkeys := map_fst_mapOf .sorted .text value entries
  have hset : Ascending Text.compare (setOf .sorted .text (entries.map Prod.fst)) :=
    @ascending_setOf .text Text.compare _ rfl _
  rwa [← hkeys] at hset

end Kind

end Attest
