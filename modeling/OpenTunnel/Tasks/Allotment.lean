/-
Module: OpenTunnel.Tasks.Allotment
Layer: Tasks
Purpose: Exclusive allotments. Holders claim names that are valid, that no other holder has, and of which there are at
  most `max` in all. The holders are listed in order; what each holds is a function, so a claim, a release and a
  change of the list are separate. What is counted of the listed bounds what any others carry.
Imports: Mathlib.Algebra.BigOperators.Group.List.Basic, Mathlib.Algebra.GroupWithZero.Nat
Trusted boundary: none (fully proved)
Main exports: Allotted, Allotted.claim, Allotted.release, Allotted.join, Allotted.among, sum_among
Open obligations: none
-/
import Mathlib.Algebra.BigOperators.Group.List.Basic
import Mathlib.Algebra.GroupWithZero.Nat

namespace OpenTunnel.Tasks

variable {β ρ : Type} {valid : ρ → Prop} {max : Nat} {holders : List β} {held held' : β → List ρ} {b : β}

/-- The names that the holders have together, counted once for each holder. -/
def heldCount (holders : List β) (held : β → List ρ) : Nat := (holders.map fun b => (held b).length).sum

/-- Nobody holds another's name, there are at most `max`, and each one is valid. -/
structure Allotted (valid : ρ → Prop) (max : Nat) (holders : List β) (held : β → List ρ) : Prop where
  apart : ∀ b ∈ holders, ∀ b' ∈ holders, b ≠ b' → ∀ name ∈ held b, name ∉ held b'
  count : heldCount holders held ≤ max
  valid : ∀ b ∈ holders, ∀ name ∈ held b, valid name

theorem heldCount_congr (same : ∀ b ∈ holders, held' b = held b) : heldCount holders held' = heldCount holders held := by
  unfold heldCount
  rw [List.map_congr_left fun b listed => by rw [same b listed]]

/-- Fewer of them carry less. -/
theorem sum_le {load load' : β → Nat} {fewer : List β} (sublist : fewer.Sublist holders)
    (less : ∀ b ∈ fewer, load' b ≤ load b) : (fewer.map load').sum ≤ (holders.map load).sum := by
  induction sublist with
  | slnil => exact Nat.le_refl _
  | cons b _ ih =>
      have rest := ih less
      simp only [List.map_cons, List.sum_cons] at rest ⊢
      exact Nat.le_trans rest (Nat.le_add_left _ _)
  | cons_cons b _ ih =>
      have rest := ih fun b' listed => less b' (List.mem_cons_of_mem b listed)
      have first := less b List.mem_cons_self
      simp only [List.map_cons, List.sum_cons] at rest ⊢
      exact Nat.add_le_add first rest

theorem heldCount_le {fewer : List β} (sublist : fewer.Sublist holders)
    (less : ∀ b ∈ fewer, (held' b).length ≤ (held b).length) : heldCount fewer held' ≤ heldCount holders held :=
  sum_le sublist less

/-- Holders leave, and those that stay hold what they held, or nothing. -/
theorem Allotted.release {fewer : List β} (allotted : Allotted valid max holders held) (sublist : fewer.Sublist holders)
    (less : ∀ b ∈ fewer, held' b = held b ∨ held' b = []) : Allotted valid max fewer held' := by
  have inside : ∀ b ∈ fewer, ∀ name ∈ held' b, name ∈ held b := by
    intro b listed name has
    rcases less b listed with same | none
    · rwa [same] at has
    · rw [none] at has
      cases has
  constructor
  · intro b listed b' listed' other name has has'
    exact allotted.apart b (sublist.subset listed) b' (sublist.subset listed') other name (inside b listed name has)
      (inside b' listed' name has')
  · refine Nat.le_trans (heldCount_le sublist ?_) allotted.count
    intro b listed
    rcases less b listed with same | none
    · exact Nat.le_of_eq (congrArg List.length same)
    · rw [none]
      exact Nat.zero_le _
  · intro b listed name has
    exact allotted.valid b (sublist.subset listed) name (inside b listed name has)

/-- A holder comes that has nothing yet. -/
theorem Allotted.join (allotted : Allotted valid max holders held) (same : ∀ b' ∈ holders, held' b' = held b')
    (none : held' b = []) : Allotted valid max (holders ++ [b]) held' := by
  have old : ∀ b' ∈ holders ++ [b], ∀ name ∈ held' b', b' ∈ holders ∧ name ∈ held b' := by
    intro b' listed name has
    rcases List.mem_append.mp listed with before | new
    · exact ⟨before, same b' before ▸ has⟩
    · rw [List.mem_singleton.mp new, none] at has
      cases has
  constructor
  · intro b₁ listed₁ b₂ listed₂ other name has₁ has₂
    obtain ⟨before₁, had₁⟩ := old b₁ listed₁ name has₁
    obtain ⟨before₂, had₂⟩ := old b₂ listed₂ name has₂
    exact allotted.apart b₁ before₁ b₂ before₂ other name had₁ had₂
  · have count : heldCount (holders ++ [b]) held' = heldCount holders held' := by
      simp [heldCount, none]
    rw [count, heldCount_congr same]
    exact allotted.count
  · intro b' listed name has
    obtain ⟨before, had⟩ := old b' listed name has
    exact allotted.valid b' before name had

/-- Whoever carries anything is listed, so any of them carry together at most what the listed do. -/
theorem sum_among {load : β → Nat} {some_ : List β} (distinct : some_.Nodup)
    (listed : ∀ b ∈ some_, load b ≠ 0 → b ∈ holders) : (some_.map load).sum ≤ (holders.map load).sum := by
  have busy : (some_.map load).sum = ((some_.filter fun b => load b ≠ 0).map load).sum := by
    clear distinct listed
    induction some_ with
    | nil => rfl
    | cons first rest ih =>
        by_cases idle : load first = 0
        · simpa [idle] using ih
        · simpa [idle] using ih
  have inside : (some_.filter fun b => load b ≠ 0) ⊆ holders := by
    intro b member
    obtain ⟨member, carries⟩ := List.mem_filter.mp member
    exact listed b member (by simpa using carries)
  obtain ⟨same, perm, sublist⟩ := List.subperm_of_subset (distinct.filter _) inside
  calc (some_.map load).sum = ((some_.filter fun b => load b ≠ 0).map load).sum := busy
    _ = (same.map load).sum := ((perm.map _).sum_eq).symm
    _ ≤ (holders.map load).sum := sum_le sublist fun _ _ => Nat.le_refl _

/-- One of them carries one more. -/
theorem sum_one_more {load load' : β → Nat} {some_ : List β} (distinct : some_.Nodup)
    (others : ∀ b' ∈ some_, b' ≠ b → load' b' = load b') (own : load' b = load b + 1) :
    (some_.map load').sum ≤ (some_.map load).sum + 1 := by
  induction some_ with
  | nil => exact Nat.zero_le _
  | cons first rest ih =>
      obtain ⟨unlisted, distinct⟩ := List.nodup_cons.mp distinct
      have later := ih distinct fun b' member => others b' (List.mem_cons_of_mem first member)
      simp only [List.map_cons, List.sum_cons]
      by_cases is : first = b
      · have same : rest.map load' = rest.map load := by
          refine List.map_congr_left fun b' member => others b' (List.mem_cons_of_mem first member) ?_
          exact fun again => unlisted (is.trans again.symm ▸ member)
        rw [same, is, own]
        omega
      · rw [others first List.mem_cons_self is]
        omega

theorem Allotted.among (allotted : Allotted valid max holders held) {some_ : List β} (distinct : some_.Nodup)
    (listed : ∀ b ∈ some_, held b ≠ [] → b ∈ holders) : heldCount some_ held ≤ max := by
  refine Nat.le_trans (sum_among distinct fun b member has => listed b member fun none => has ?_) allotted.count
  rw [none]
  rfl

variable [DecidableEq β]

theorem heldCount_replace (distinct : holders.Nodup) (others : ∀ b' ∈ holders, b' ≠ b → held' b' = held b') :
    heldCount holders held' ≤ heldCount (holders.filter (· ≠ b)) held + (held' b).length := by
  induction holders with
  | nil => exact Nat.zero_le _
  | cons first rest ih =>
      obtain ⟨unlisted, distinct⟩ := List.nodup_cons.mp distinct
      have later := ih distinct fun b' listed => others b' (List.mem_cons_of_mem first listed)
      by_cases own : first = b
      · subst own
        -- the others are as they were
        have same : heldCount rest held' = heldCount rest held :=
          heldCount_congr fun b' listed =>
            others b' (List.mem_cons_of_mem _ listed) fun is => unlisted (is ▸ listed)
        have kept : rest.filter (· ≠ first) = rest := by
          refine List.filter_eq_self.mpr fun b' listed => ?_
          have other : b' ≠ first := fun is => unlisted (is ▸ listed)
          simpa using other
        simp only [heldCount, List.map_cons, List.sum_cons, ne_eq, not_true_eq_false, decide_false,
          Bool.false_eq_true, not_false_eq_true, List.filter_cons_of_neg] at same ⊢
        simp only [ne_eq] at kept
        rw [kept, same]
        exact Nat.le_of_eq (Nat.add_comm _ _)
      · have kept := others first List.mem_cons_self own
        simp only [heldCount, List.map_cons, List.sum_cons, ne_eq, own, not_false_eq_true, decide_true,
          List.filter_cons_of_pos] at later ⊢
        rw [kept]
        omega

/-- A holder claims names that nobody else has, as far as there is room. -/
theorem Allotted.claim (allotted : Allotted valid max holders held) (distinct : holders.Nodup) {names : List ρ}
    (room : heldCount (holders.filter (· ≠ b)) held + names.length ≤ max)
    (free : ∀ b' ∈ holders, b' ≠ b → ∀ name ∈ names, name ∉ held b') (all : ∀ name ∈ names, valid name)
    (others : ∀ b' ∈ holders, b' ≠ b → held' b' = held b') (own : held' b = names ∨ held' b = []) :
    Allotted valid max holders held' := by
  have claimed : ∀ name ∈ held' b, name ∈ names := by
    intro name has
    rcases own with all | none
    · rwa [all] at has
    · rw [none] at has
      cases has
  have fewer : (held' b).length ≤ names.length := by
    rcases own with all | none
    · exact Nat.le_of_eq (congrArg List.length all)
    · rw [none]
      exact Nat.zero_le _
  constructor
  · intro b₁ listed₁ b₂ listed₂ other name has₁ has₂
    by_cases first : b₁ = b
    · have second : b₂ ≠ b := fun is => other (first.trans is.symm)
      rw [first] at has₁
      rw [others b₂ listed₂ second] at has₂
      exact free b₂ listed₂ second name (claimed name has₁) has₂
    · rw [others b₁ listed₁ first] at has₁
      by_cases second : b₂ = b
      · rw [second] at has₂
        exact free b₁ listed₁ first name (claimed name has₂) has₁
      · rw [others b₂ listed₂ second] at has₂
        exact allotted.apart b₁ listed₁ b₂ listed₂ other name has₁ has₂
  · calc heldCount holders held' ≤ heldCount (holders.filter (· ≠ b)) held + (held' b).length :=
          heldCount_replace distinct others
      _ ≤ heldCount (holders.filter (· ≠ b)) held + names.length := Nat.add_le_add_left fewer _
      _ ≤ max := room
  · intro b' listed name has
    by_cases is : b' = b
    · rw [is] at has
      exact all name (claimed name has)
    · rw [others b' listed is] at has
      exact allotted.valid b' listed name has

end OpenTunnel.Tasks
