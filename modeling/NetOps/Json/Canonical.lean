import Mathlib.Data.List.Sort
import NetOps.Json.Text

/-!
# Json.Canonical

Objects as dictionaries: values whose objects have distinct keys (`keyed`), equality that does not
look at the order of members (`Same`), and the values with their members in the order of their keys
(`sortKeys`), which are the same (`same_sortKeys`).
-/

namespace NetOps
namespace Json
namespace Doc

variable {A : Type}

mutual

/-- In every object the keys are distinct. -/
def keyed : Doc A → Prop
  | leaf _ => True
  | arr items => keyedItems items
  | obj members => (members.map Prod.fst).Nodup ∧ keyedMembers members

def keyedItems : List (Doc A) → Prop
  | [] => True
  | t :: items => keyed t ∧ keyedItems items

def keyedMembers : List (String × Doc A) → Prop
  | [] => True
  | (_, t) :: members => keyed t ∧ keyedMembers members

end

mutual

/-- Equal, as dictionaries are: with the same keys, and the same values under them. -/
def Same : Doc A → Doc A → Prop
  | leaf a, leaf b => a = b
  | arr items, arr items' => SameItems items items'
  | obj members, obj members' => members.length = members'.length ∧ SameMembers members members'
  | _, _ => False

def SameItems : List (Doc A) → List (Doc A) → Prop
  | [], [] => True
  | t :: items, t' :: items' => Same t t' ∧ SameItems items items'
  | _, _ => False

def SameMembers : List (String × Doc A) → List (String × Doc A) → Prop
  | [], _ => True
  | (key, t) :: members, members' =>
    (∃ t', get? key members' = some t' ∧ Same t t') ∧ SameMembers members members'

end

mutual

def sortKeys : Doc A → Doc A
  | leaf a => leaf a
  | arr items => arr (sortItems items)
  | obj members => obj (sortMembers members)

def sortItems : List (Doc A) → List (Doc A)
  | [] => []
  | t :: items => sortKeys t :: sortItems items

/-- The members in the order of their keys, their values sorted too. -/
def sortMembers : List (String × Doc A) → List (String × Doc A)
  | [] => []
  | (key, t) :: members =>
    (sortMembers members).orderedInsert (fun m m' => m.1 ≤ m'.1) (key, sortKeys t)

end

theorem keyedMembers_iff {members : List (String × Doc A)} :
    keyedMembers members ↔ ∀ key t, (key, t) ∈ members → t.keyed := by
  induction members with
  | nil => exact iff_of_true trivial fun _ _ h => absurd h List.not_mem_nil
  | cons m members ih =>
    rw [keyedMembers, ih]
    constructor
    · rintro ⟨hm, hall⟩ key t hmem
      rcases List.mem_cons.1 hmem with rfl | hmem
      · exact hm
      · exact hall key t hmem
    · intro h
      exact ⟨h m.1 m.2 List.mem_cons_self, fun key t hmem => h key t (List.mem_cons_of_mem _ hmem)⟩

theorem mem_of_get? {members : List (String × Doc A)} {key : String} {t : Doc A}
    (h : get? key members = some t) : (key, t) ∈ members := by
  induction members with
  | nil => cases h
  | cons m members ih =>
    rw [get?, Option.or_eq_some_iff] at h
    rcases h with h | ⟨_, h⟩
    · exact List.mem_cons_of_mem _ (ih h)
    · split at h
      · rename_i hkey
        cases h
        rw [← hkey]
        exact List.mem_cons_self
      · cases h

/-- With distinct keys, a key leads to the one value that stands under it. -/
theorem get?_of_mem {members : List (String × Doc A)} {key : String} {t : Doc A}
    (hkeys : (members.map Prod.fst).Nodup) (h : (key, t) ∈ members) :
    get? key members = some t := by
  induction members with
  | nil => cases h
  | cons m members ih =>
    obtain ⟨k, u⟩ := m
    rw [List.map_cons, List.nodup_cons] at hkeys
    rw [get?]
    rcases List.mem_cons.1 h with heq | hmem
    · cases heq
      have hnone : get? key members = none := by
        cases hget : get? key members with
        | none => rfl
        | some u => exact absurd (List.mem_map_of_mem (mem_of_get? hget)) hkeys.1
      rw [hnone, if_pos rfl]
      rfl
    · rw [ih hkeys.2 hmem]
      rfl

theorem sortMembers_perm (members : List (String × Doc A)) :
    (sortMembers members).Perm (members.map fun m => (m.1, sortKeys m.2)) := by
  induction members with
  | nil => exact .nil
  | cons m members ih =>
    rw [sortMembers, List.map_cons]
    exact (List.perm_orderedInsert _ _ _).trans (ih.cons _)

theorem keys_sortMembers (members : List (String × Doc A)) :
    ((sortMembers members).map Prod.fst).Perm (members.map Prod.fst) := by
  have h := (sortMembers_perm members).map Prod.fst
  rwa [List.map_map] at h

theorem mem_sortMembers {members : List (String × Doc A)} {key : String} {u : Doc A} :
    (key, u) ∈ sortMembers members ↔ ∃ t, (key, t) ∈ members ∧ sortKeys t = u := by
  rw [(sortMembers_perm members).mem_iff, List.mem_map]
  constructor
  · rintro ⟨⟨k, t⟩, hmem, heq⟩
    cases heq
    exact ⟨t, hmem, rfl⟩
  · rintro ⟨t, hmem, rfl⟩
    exact ⟨(key, t), hmem, rfl⟩

theorem allMembers_eq (p : A → Bool) (members : List (String × Doc A)) :
    allMembers p members = members.all fun m => m.2.all p := by
  induction members with
  | nil => rfl
  | cons m members ih => rw [allMembers, ih, List.all_cons]

theorem allMembers_perm (p : A → Bool) {members members' : List (String × Doc A)}
    (h : members.Perm members') : allMembers p members = allMembers p members' := by
  rw [allMembers_eq, allMembers_eq]
  exact h.all_eq

theorem sameMembers_of_mem {members members' : List (String × Doc A)}
    (h : ∀ m ∈ members, ∃ t', get? m.1 members' = some t' ∧ Same m.2 t') :
    SameMembers members members' := by
  induction members with
  | nil => trivial
  | cons m members ih =>
    exact ⟨h m List.mem_cons_self, ih fun m' hm' => h m' (List.mem_cons_of_mem _ hm')⟩

mutual

theorem same_sortKeys (t : Doc A) (h : t.keyed) : Same t t.sortKeys := by
  cases t with
  | leaf a => rfl
  | arr items => exact same_sortItems items h
  | obj members =>
    refine ⟨?_, sameMembers_of_mem fun m hm => ⟨sortKeys m.2, ?_, ?_⟩⟩
    · rw [(sortMembers_perm members).length_eq, List.length_map]
    · exact get?_of_mem ((keys_sortMembers members).nodup_iff.2 h.1)
        (mem_sortMembers.2 ⟨m.2, hm, rfl⟩)
    · exact same_sortMembers members h.2 m hm

theorem same_sortItems (items : List (Doc A)) (h : keyedItems items) :
    SameItems items (sortItems items) := by
  cases items with
  | nil => trivial
  | cons t items => exact ⟨same_sortKeys t h.1, same_sortItems items h.2⟩

theorem same_sortMembers (members : List (String × Doc A)) (h : keyedMembers members) :
    ∀ m ∈ members, Same m.2 m.2.sortKeys := by
  cases members with
  | nil => exact fun m hm => absurd hm List.not_mem_nil
  | cons m members =>
    intro m' hm'
    rcases List.mem_cons.1 hm' with heq | hmem
    · rw [heq]
      exact same_sortKeys m.2 h.1
    · exact same_sortMembers members h.2 m' hmem

end

mutual

theorem same_refl (t : Doc A) (h : t.keyed) : Same t t := by
  cases t with
  | leaf a => rfl
  | arr items => exact sameItems_refl items h
  | obj members =>
    exact ⟨rfl, sameMembers_of_mem fun m hm =>
      ⟨m.2, get?_of_mem h.1 hm, same_refl_of_mem members h.2 m hm⟩⟩

theorem sameItems_refl (items : List (Doc A)) (h : keyedItems items) : SameItems items items := by
  cases items with
  | nil => trivial
  | cons t items => exact ⟨same_refl t h.1, sameItems_refl items h.2⟩

theorem same_refl_of_mem (members : List (String × Doc A)) (h : keyedMembers members) :
    ∀ m ∈ members, Same m.2 m.2 := by
  cases members with
  | nil => exact fun m hm => absurd hm List.not_mem_nil
  | cons m members =>
    intro m' hm'
    rcases List.mem_cons.1 hm' with heq | hmem
    · rw [heq]
      exact same_refl m.2 h.1
    · exact same_refl_of_mem members h.2 m' hmem

end

mutual

theorem all_sortKeys (p : A → Bool) (t : Doc A) : t.sortKeys.all p = t.all p := by
  cases t with
  | leaf a => rfl
  | arr items => exact allItems_sortItems p items
  | obj members => exact allMembers_sortMembers p members

theorem allItems_sortItems (p : A → Bool) (items : List (Doc A)) :
    allItems p (sortItems items) = allItems p items := by
  cases items with
  | nil => rfl
  | cons t items => simp only [sortItems, allItems, all_sortKeys p t, allItems_sortItems p items]

theorem allMembers_sortMembers (p : A → Bool) (members : List (String × Doc A)) :
    allMembers p (sortMembers members) = allMembers p members := by
  cases members with
  | nil => rfl
  | cons m members =>
    have hperm := allMembers_perm p (List.perm_orderedInsert
      (fun m m' : String × Doc A => m.1 ≤ m'.1) (m.1, sortKeys m.2) (sortMembers members))
    rw [sortMembers, hperm, allMembers, allMembers, all_sortKeys p m.2,
      allMembers_sortMembers p members]

end

/-! ## One order -/

instance : IsTrans (String × Doc A) fun m m' => m.1 ≤ m'.1 where
  trans _ _ _ h h' := String.le_trans h h'

instance : Std.Total fun m m' : String × Doc A => m.1 ≤ m'.1 where
  total m m' := String.le_total m.1 m'.1

theorem pairwise_sortMembers (members : List (String × Doc A)) :
    (sortMembers members).Pairwise fun m m' => m.1 ≤ m'.1 := by
  induction members with
  | nil => exact .nil
  | cons m members ih => exact ih.orderedInsert _ _

theorem sortMembers_eq_of_perm {members members' : List (String × Doc A)}
    (hkeys : (members.map Prod.fst).Nodup)
    (hperm : (members.map fun m => (m.1, sortKeys m.2)).Perm
      (members'.map fun m => (m.1, sortKeys m.2))) :
    sortMembers members = sortMembers members' := by
  have hsorted : (sortMembers members).Perm (sortMembers members') :=
    (sortMembers_perm members).trans (hperm.trans (sortMembers_perm members').symm)
  refine hsorted.eq_of_pairwise ?_ (pairwise_sortMembers members) (pairwise_sortMembers members')
  intro m m' hm hm' hle hge
  have hnodup : ((sortMembers members).map Prod.fst).Nodup :=
    (keys_sortMembers members).nodup_iff.2 hkeys
  exact List.inj_on_of_nodup_map hnodup hm (hsorted.mem_iff.2 hm') (String.le_antisymm hle hge)

mutual

/-- Values that are the same are the same in the order of their keys. -/
theorem sortKeys_eq_of_same (t t' : Doc A) (h : Same t t') (hkeyed : t.keyed)
    (hkeyed' : t'.keyed) : t.sortKeys = t'.sortKeys := by
  cases t with
  | leaf a => cases t' with
    | leaf b => exact congrArg leaf h
    | arr items => cases h
    | obj members => cases h
  | arr items => cases t' with
    | leaf b => cases h
    | arr items' => exact congrArg arr (sortItems_eq_of_same items items' h hkeyed hkeyed')
    | obj members => cases h
  | obj members => cases t' with
    | leaf b => cases h
    | arr items => cases h
    | obj members' =>
      have hsame := sortKeys_eq_of_sameMembers members members' h.2 hkeyed.2 hkeyed'.2
      have hsubset : (members.map fun m => (m.1, sortKeys m.2)) ⊆
          members'.map fun m => (m.1, sortKeys m.2) := by
        intro m hm
        obtain ⟨n, hn, rfl⟩ := List.mem_map.1 hm
        obtain ⟨t', ht', heq⟩ := hsame n hn
        rw [heq]
        exact List.mem_map.2 ⟨(n.1, t'), mem_of_get? ht', rfl⟩
      have hnodup : (members.map fun m => (m.1, sortKeys m.2)).Nodup :=
        List.Nodup.of_map Prod.fst (by rw [List.map_map]; exact hkeyed.1)
      have hlength : (members'.map fun m => (m.1, sortKeys m.2)).length ≤
          (members.map fun m => (m.1, sortKeys m.2)).length := by
        rw [List.length_map, List.length_map, h.1]
      exact congrArg obj (sortMembers_eq_of_perm hkeyed.1
        ((List.subperm_of_subset hnodup hsubset).perm_of_length_le hlength))

theorem sortItems_eq_of_same (items items' : List (Doc A)) (h : SameItems items items')
    (hkeyed : keyedItems items) (hkeyed' : keyedItems items') :
    sortItems items = sortItems items' := by
  cases items with
  | nil => cases items' with
    | nil => rfl
    | cons t' items' => cases h
  | cons t items => cases items' with
    | nil => cases h
    | cons t' items' =>
      rw [sortItems, sortItems, sortKeys_eq_of_same t t' h.1 hkeyed.1 hkeyed'.1,
        sortItems_eq_of_same items items' h.2 hkeyed.2 hkeyed'.2]

theorem sortKeys_eq_of_sameMembers (members members' : List (String × Doc A))
    (h : SameMembers members members') (hkeyed : keyedMembers members)
    (hkeyed' : keyedMembers members') :
    ∀ m ∈ members, ∃ t', get? m.1 members' = some t' ∧ sortKeys m.2 = sortKeys t' := by
  cases members with
  | nil => exact fun m hm => absurd hm List.not_mem_nil
  | cons m members =>
    obtain ⟨⟨t', ht', hsame⟩, hrest⟩ := h
    intro m' hm'
    rcases List.mem_cons.1 hm' with heq | hmem
    · rw [heq]
      exact ⟨t', ht', sortKeys_eq_of_same m.2 t' hsame hkeyed.1
        (keyedMembers_iff.1 hkeyed' m.1 t' (mem_of_get? ht'))⟩
    · exact sortKeys_eq_of_sameMembers members members' hrest hkeyed.2 hkeyed' m' hmem

end

end Doc
end Json
end NetOps
