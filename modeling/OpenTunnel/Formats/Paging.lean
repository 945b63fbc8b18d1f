/-
Module: OpenTunnel.Formats.Paging
Layer: Formats
Purpose: Keyset paging: a list of keys in order is read a page at a time, each page after the last key of the page before.
  What is after a page is what the page left.
Imports: none (Mathlib-free)
Trusted boundary: none (fully proved)
Main exports: sortKeys, sortKeys_strict, sortKeys_filter, after_page
Open obligations: none
-/

namespace OpenTunnel.Formats

variable {κ : Type} [LE κ] [LT κ] [DecidableLE κ] [DecidableLT κ] [Std.IsLinearOrder κ] [Std.LawfulOrderLT κ]

def sortKeys (keys : List κ) : List κ := keys.mergeSort fun a b => a ≤ b

omit [LT κ] [DecidableLT κ] [Std.LawfulOrderLT κ] in
theorem sortKeys_pairwise (keys : List κ) : (sortKeys keys).Pairwise fun a b => a ≤ b := by
  have sorted := @List.pairwise_mergeSort _ (fun a b : κ => decide (a ≤ b))
    (fun a b c first second => by
      simp only [decide_eq_true_eq] at first second ⊢
      exact Std.le_trans first second)
    (fun a b => by
      simp only [Bool.or_eq_true, decide_eq_true_eq]
      exact Std.le_total)
    keys
  simpa [sortKeys] using sorted

omit [DecidableLT κ] in
theorem sortKeys_strict {keys : List κ} (distinct : keys.Nodup) : (sortKeys keys).Pairwise fun a b => a < b := by
  have apart : (sortKeys keys).Nodup := (List.mergeSort_perm keys _).nodup_iff.mpr distinct
  refine ((sortKeys_pairwise keys).and apart).imp ?_
  intro a b both
  exact Std.lt_of_le_of_ne both.1 both.2

omit [LT κ] [DecidableLT κ] [Std.LawfulOrderLT κ] in
theorem sortKeys_filter (keys : List κ) (p : κ → Bool) : sortKeys (keys.filter p) = (sortKeys keys).filter p := by
  refine @List.Perm.eq_of_pairwise _ (fun a b => a ≤ b) _ _ (fun _ _ _ _ => Std.le_antisymm) (sortKeys_pairwise _)
    ((sortKeys_pairwise keys).filter p) ?_
  exact (List.mergeSort_perm _ _).trans ((List.mergeSort_perm keys _).symm.filter p)

omit [DecidableLE κ] in
/-- The keys after the last one of a page are those that the page left. -/
theorem after_page {keys : List κ} (ordered : keys.Pairwise fun a b => a < b) {after last : κ} {limit : Nat}
    (is : ((keys.filter fun key => after < key).take limit).getLast? = some last) :
    (keys.filter fun key => last < key) = (keys.filter fun key => after < key).drop limit := by
  have ordered' := ordered.filter fun key => decide (after < key)
  have narrower : (keys.filter fun key => last < key) =
      (keys.filter fun key => after < key).filter fun key => last < key := by
    have listed : last ∈ keys.filter fun key => after < key := List.mem_of_mem_take (List.mem_of_getLast? is)
    have above : after < last := by simpa using (List.mem_filter.mp listed).2
    rw [List.filter_filter]
    apply List.filter_congr
    intro key _
    simp only [Bool.and_eq_decide, decide_eq_decide]
    simp only [decide_eq_true_eq]
    exact ⟨fun behind => ⟨behind, Std.lt_trans above behind⟩, fun both => both.1⟩
  rw [narrower]
  generalize (keys.filter fun key => decide (after < key)) = rest at is ordered' ⊢
  obtain ⟨front, page⟩ := List.getLast?_eq_some_iff.mp is
  have split_ : rest = front ++ [last] ++ rest.drop limit := by rw [← page, List.take_append_drop]
  rw [split_, List.pairwise_append, List.pairwise_append] at ordered'
  obtain ⟨⟨_, _, before⟩, _, behind⟩ := ordered'
  have none_ : (front ++ [last]).filter (fun key => decide (last < key)) = [] := by
    apply List.filter_eq_nil_iff.mpr
    intro key listed
    simp only [decide_eq_true_eq]
    rcases List.mem_append.mp listed with held | held
    · exact fun above => Std.lt_irrefl (Std.lt_trans above (before key held last List.mem_cons_self))
    · rw [List.mem_singleton.mp held]
      exact Std.lt_irrefl
  have all_ : (rest.drop limit).filter (fun key => decide (last < key)) = rest.drop limit := by
    apply List.filter_eq_self.mpr
    intro key listed
    exact decide_eq_true (behind last (by simp) key listed)
  calc rest.filter (fun key => decide (last < key))
      = (front ++ [last] ++ rest.drop limit).filter (fun key => decide (last < key)) := by rw [← split_]
    _ = rest.drop limit := by rw [List.filter_append, none_, all_, List.nil_append]

end OpenTunnel.Formats
