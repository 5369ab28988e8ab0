import Mathlib
import StepCatalog.Json.Basic
import StepCatalog.Proofs.Json.Written

namespace StepCatalog.Json

variable {v : Json}

/-! ### Depth -/

theorem itemsDepth_le_iff : itemsDepth items ≤ n ↔ ∀ v ∈ items, v.depth ≤ n := by
  induction items
  case nil => simp [itemsDepth]
  case cons v items hi => simp [itemsDepth, hi]

theorem membersDepth_le_iff : membersDepth members ≤ n ↔ ∀ m ∈ members, m.2.depth ≤ n := by
  induction members
  case nil => simp [membersDepth]
  case cons m members hi => simp [membersDepth, hi]

theorem depth_lt_of_mem_items (h : v ∈ items) : v.depth < (list items).depth :=
  Nat.lt_succ_of_le <| itemsDepth_le_iff.mp (Nat.le_refl _) v h

theorem depth_lt_of_mem_members (h : m ∈ members) : m.2.depth < (object members).depth :=
  Nat.lt_succ_of_le <| membersDepth_le_iff.mp (Nat.le_refl _) m h

/-! ### Sorting members -/

theorem sortedItems_eq_map (items : List Json) : sortedItems items = items.map sorted := by
  induction items
  case nil => rfl
  case cons v items hi => rw [sortedItems, hi, List.map_cons]

theorem sortedMembers_eq_map (members : Members) :
    sortedMembers members = members.map fun m => (m.1, m.2.sorted) := by
  induction members
  case nil => rfl
  case cons m members hi => rw [sortedMembers, hi, List.map_cons]

theorem sortMembers_perm (members : Members) : (sortMembers members).Perm members :=
  List.mergeSort_perm ..

-- The members of a sorted object are those of the object, with their values sorted.
theorem mem_sortMembers_sortedMembers :
    m ∈ sortMembers (sortedMembers members) ↔ ∃ n ∈ members, (n.1, n.2.sorted) = m := by
  rw [(sortMembers_perm _).mem_iff, sortedMembers_eq_map, List.mem_map]

theorem keys_sortedMembers (members : Members) :
    (sortedMembers members).map Prod.fst = members.map Prod.fst := by
  rw [sortedMembers_eq_map, List.map_map]
  rfl

theorem keys_sortMembers_perm (members : Members) :
    ((sortMembers (sortedMembers members)).map Prod.fst).Perm (members.map Prod.fst) := by
  rw [← keys_sortedMembers members]
  exact (sortMembers_perm _).map _

theorem pairwise_sortMembers (members : Members) :
    (sortMembers members).Pairwise fun m n => m.1 ≤ n.1 := by
  have ht (a b c : String × Json) (hab : decide (a.1 ≤ b.1)) (hbc : decide (b.1 ≤ c.1)) :
      decide (a.1 ≤ c.1) := by
    simp only [decide_eq_true_eq] at hab hbc ⊢
    exact le_trans hab hbc
  have hl (a b : String × Json) : decide (a.1 ≤ b.1) || decide (b.1 ≤ a.1) := by
    simpa using le_total a.1 b.1
  simpa [sortMembers] using List.pairwise_mergeSort ht hl members

theorem sortMembers_map_sorted (members : Members) :
    sortMembers (members.map fun m => (m.1, m.2.sorted)) =
      (sortMembers members).map fun m => (m.1, m.2.sorted) := by
  rw [sortMembers, sortMembers, List.map_mergeSort]
  exact fun _ _ _ _ => rfl

theorem sortMembers_sortMembers (members : Members) :
    sortMembers (sortMembers members) = sortMembers members :=
  List.mergeSort_of_pairwise <| by simpa using pairwise_sortMembers members

theorem sorted_sorted (h : v.IsPlain) : v.sorted.sorted = v.sorted := by
  induction h
  case list items _ hi =>
    simp only [sorted, sortedItems_eq_map, List.map_map, list.injEq]
    exact List.map_congr_left hi
  case object members _ _ hi =>
    have hm : (members.map fun m => (m.1, m.2.sorted)).map (fun m => (m.1, m.2.sorted)) =
        members.map fun m => (m.1, m.2.sorted) := by
      rw [List.map_map]
      exact List.map_congr_left fun m hm => by simp [hi m hm]
    simp only [sorted, sortedMembers_eq_map, object.injEq]
    rw [← sortMembers_map_sorted, hm, sortMembers_sortMembers]
  all_goals rfl

theorem IsPlain.sorted (h : v.IsPlain) : v.sorted.IsPlain := by
  induction h
  case null => exact .null
  case bool => exact .bool
  case int h => exact .int h
  case text => exact .text
  case list items _ hi =>
    refine .list ?_
    simpa [sortedItems_eq_map] using hi
  case object members hk _ hi =>
    refine .object ((keys_sortMembers_perm _).nodup_iff.mpr hk) ?_
    intro m hm
    have ⟨n, hn, he⟩ := mem_sortMembers_sortedMembers.mp hm
    rw [← he]
    exact hi n hn

theorem depth_sorted (h : v.IsPlain) (hd : v.depth ≤ n) : v.sorted.depth ≤ n := by
  induction h generalizing n
  case list items _ hi =>
    cases n
    case zero => simp [depth] at hd
    case succ n =>
      simp only [depth, sorted, Nat.add_le_add_iff_right, itemsDepth_le_iff] at hd ⊢
      simpa [sortedItems_eq_map] using fun v hv => hi v hv (hd v hv)
  case object members _ _ hi =>
    cases n
    case zero => simp [depth] at hd
    case succ n =>
      simp only [depth, sorted, Nat.add_le_add_iff_right, membersDepth_le_iff] at hd ⊢
      intro m hm
      have ⟨k, hk, he⟩ := mem_sortMembers_sortedMembers.mp hm
      rw [← he]
      exact hi k hk (hd k hk)
  all_goals exact hd

/-! ### What sorting keeps -/

mutual

-- Documents are equal if objects have equal members in whatever order.
def Equals : Json → Json → Prop
  | list items, list others => ItemsEqual items others
  | object members, object others =>
    members.length = others.length ∧ MembersEqual members others
  | v, w => v = w

def ItemsEqual : List Json → List Json → Prop
  | [], [] => True
  | v :: items, w :: others => v.Equals w ∧ ItemsEqual items others
  | _, _ => False

-- Each of the members is found among the others, with an equal value.
def MembersEqual : Members → Members → Prop
  | [], _ => True
  | (k, v) :: members, others =>
    (∃ w, others.lookup k = some w ∧ v.Equals w) ∧ MembersEqual members others

end

-- The keys of every object stand in the order of code points.
inductive IsOrdered : Json → Prop
  | null : IsOrdered null
  | bool : IsOrdered (bool b)
  | int : IsOrdered (int n)
  | float : IsOrdered (float x)
  | text : IsOrdered (text s)
  | list : (∀ v ∈ items, IsOrdered v) → IsOrdered (list items)
  | object : (members.map Prod.fst).Pairwise (· < ·) → (∀ m ∈ members, IsOrdered m.2) →
    IsOrdered (object members)

theorem sorted_isOrdered (h : v.IsPlain) : v.sorted.IsOrdered := by
  induction h
  case null => exact .null
  case bool => exact .bool
  case int => exact .int
  case text => exact .text
  case list items _ hi =>
    refine .list ?_
    simpa [sortedItems_eq_map] using hi
  case object members hk _ hi =>
    refine .object ?_ ?_
    case refine_1 =>
      have hs := List.pairwise_map.mpr <| pairwise_sortMembers (sortedMembers members)
      have hn := (keys_sortMembers_perm members).nodup_iff.mpr hk
      exact (hs.and hn).imp fun h => lt_of_le_of_ne h.left h.right
    case refine_2 =>
      intro m hm
      have ⟨n, hn, he⟩ := mem_sortMembers_sortedMembers.mp hm
      rw [← he]
      exact hi n hn

theorem itemsEqual_map (h : ∀ v ∈ items, v.Equals (f v)) : ItemsEqual items (items.map f) := by
  induction items
  case nil => trivial
  case cons v items hi =>
    have ⟨hv, h⟩ := List.forall_mem_cons.mp h
    exact ⟨hv, hi h⟩

theorem membersEqual_of_lookup
    (h : ∀ m ∈ members, ∃ w, others.lookup m.1 = some w ∧ m.2.Equals w) :
    MembersEqual members others := by
  induction members
  case nil => trivial
  case cons m members hi =>
    have ⟨hm, h⟩ := List.forall_mem_cons.mp h
    exact ⟨hm, hi h⟩

-- Where the keys differ, a key finds the value of its member.
theorem lookup_of_mem {members : Members} (hk : (members.map Prod.fst).Nodup)
    (hm : (k, w) ∈ members) : members.lookup k = some w := by
  induction members
  case nil => contradiction
  case cons m members hi =>
    have ⟨hn, hk⟩ := List.nodup_cons.mp hk
    rw [List.lookup_cons]
    cases hm
    case head => simp
    case tail hm =>
      have he : k ≠ m.1 := fun he => hn <| List.mem_map.mpr ⟨_, hm, he⟩
      simp [beq_false_of_ne he, hi hk hm]

theorem equals_sorted (h : v.IsPlain) : v.Equals v.sorted := by
  induction h
  case list items _ hi =>
    rw [sorted, sortedItems_eq_map]
    exact itemsEqual_map hi
  case object members hk _ hi =>
    have hl : members.length = (sortMembers (sortedMembers members)).length := by
      rw [(sortMembers_perm _).length_eq, sortedMembers_eq_map, List.length_map]
    refine ⟨hl, membersEqual_of_lookup fun m hm => ⟨m.2.sorted, ?_, hi m hm⟩⟩
    exact lookup_of_mem ((keys_sortMembers_perm members).nodup_iff.mpr hk) <|
      mem_sortMembers_sortedMembers.mpr ⟨m, hm, rfl⟩
  all_goals rfl

end StepCatalog.Json
