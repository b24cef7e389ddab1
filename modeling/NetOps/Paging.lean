import Mathlib.Data.Set.Finite.Range
import Mathlib.Data.Set.Finite.List
import Mathlib.Tactic.Common
import Mathlib.Data.List.Basic
import Mathlib.Order.Defs.LinearOrder
import Mathlib.Data.List.Nodup
import Mathlib.Data.List.Sort

/-!
# Paging

Listings that are read page by page.

Walks along a partial function, from a page to the next one, until there is none.

* `walk_add`: a walk goes on from where it is.
* `ends_iff_simple`: when only finitely many places have a next one, a walk ends if and only if it
  visits no place twice.

The pages of a sorted listing, where every page is cut from an answer of its own: rows that are
equal in the order come in any order, and in another one the next time.

* `exists_answer_at`: a row may stand anywhere among the rows that are equal to it, and only there
  (`rank_of_answer`).
* `exact_iff`: the pages hold every row once, whatever the answers, exactly when every row is
  settled: it stands on one page in all answers for it, and on no other page in any.
* `settled_iff_of_const`: in one order for all pages, when no rows that are equal are on two pages.
-/

namespace Walks

variable {α : Type} (step : α → Option α)

/-- Where a walk is after some steps, if it has not ended. -/
def walk : Nat → α → Option α
  | 0, a => some a
  | n + 1, a => (step a).bind (walk n)

/-- The walk ends. -/
def Ends (a : α) : Prop := ∃ n, walk step n a = none

/-- The walk visits no place twice. -/
def Simple (a : α) : Prop := ∀ i j b, walk step i a = some b → walk step j a = some b → i = j

variable {step} {a b : α} {m n : Nat}

@[simp] theorem walk_zero : walk step 0 a = some a := rfl

theorem walk_succ : walk step (n + 1) a = (step a).bind (walk step n) := rfl

theorem walk_add : walk step (m + n) a = (walk step m a).bind (walk step n) := by
  induction m generalizing a with
  | zero => simp
  | succ m ih =>
    rw [Nat.succ_add, walk_succ, walk_succ]
    cases step a with
    | none => rfl
    | some b => exact ih

theorem walk_mono (h : walk step n a = none) (hle : n ≤ m) : walk step m a = none := by
  obtain ⟨k, rfl⟩ := Nat.exists_eq_add_of_le hle
  rw [walk_add, h]
  rfl

/-- A walk that comes back does so again and again. -/
theorem walk_mul (h : walk step n a = some a) (k : Nat) : walk step (k * n) a = some a := by
  induction k with
  | zero => simp
  | succ k ih =>
    rw [Nat.succ_mul, walk_add, ih]
    exact h

theorem Ends.simple (h : Ends step a) : Simple step a := by
  have hlt : ∀ i j b, walk step i a = some b → walk step j a = some b → ¬ i < j := by
    intro i j b hi hj hij
    obtain ⟨n, hn⟩ := h
    have hback : walk step (j - i) b = some b := by
      have hsplit : walk step (i + (j - i)) a = some b := by
        rw [Nat.add_sub_cancel' hij.le]
        exact hj
      rw [walk_add, hi] at hsplit
      exact hsplit
    have hlate : walk step (i + n * (j - i)) a = some b := by
      rw [walk_add, hi]
      exact walk_mul hback n
    have hle : n ≤ i + n * (j - i) := by
      have hpos : 1 ≤ j - i := by omega
      have := Nat.mul_le_mul_left n hpos
      omega
    rw [walk_mono hn hle] at hlate
    cases hlate
  intro i j b hi hj
  have hij := hlt i j b hi hj
  have hji := hlt j i b hj hi
  omega

theorem Simple.ends {places : List α} (hplaces : ∀ b, step b ≠ none → b ∈ places)
    (h : Simple step a) : Ends step a := by
  by_contra hends
  have hat : ∀ n, ∃ b, walk step n a = some b := by
    intro n
    exact Option.ne_none_iff_exists'.1 fun hn => hends ⟨n, hn⟩
  choose place hplace using hat
  have hinjective : Function.Injective place := by
    intro i j hij
    exact h i j (place i) (hplace i) (by rw [hij]; exact hplace j)
  have hmem : Set.range place ⊆ {b | b ∈ places} := by
    rintro _ ⟨n, rfl⟩
    apply hplaces
    intro hnone
    have hnext := hplace (n + 1)
    rw [walk_add, hplace n, Option.bind_some, walk_succ, hnone] at hnext
    cases hnext
  exact Set.infinite_range_of_injective hinjective ((List.finite_toSet places).subset hmem)

/-- When only finitely many places have a next one, the walks that end are those that visit no
place twice. -/
theorem ends_iff_simple {places : List α} (hplaces : ∀ b, step b ≠ none → b ∈ places) :
    Ends step a ↔ Simple step a := ⟨Ends.simple, Simple.ends hplaces⟩

end Walks

namespace Paging

variable {α : Type}

/-- A total preorder. -/
structure SortOrder (α : Type) where
  le : α → α → Bool
  trans : ∀ a b c, le a b = true → le b c = true → le a c = true
  total : ∀ a b, (le a b || le b a) = true

namespace SortOrder

variable (o : SortOrder α)

theorem refl (a : α) : o.le a a = true := by simpa using o.total a a

theorem le_of_not_le {a b : α} (h : o.le a b = false) : o.le b a = true := by
  simpa [h] using o.total a b

/-- The order of a type. -/
def ofLinearOrder (α : Type) [LinearOrder α] : SortOrder α where
  le a b := decide (a ≤ b)
  trans := by
    intro a b c hab hbc
    simp only [decide_eq_true_eq] at hab hbc ⊢
    exact hab.trans hbc
  total := by
    intro a b
    simpa using le_total a b

/-- `ASC` or `DESC`. -/
def directed (ascending : Bool) : SortOrder α where
  le a b := if ascending then o.le a b else o.le b a
  trans := by
    intro a b c hab hbc
    cases ascending with
    | true => exact o.trans a b c hab hbc
    | false => exact o.trans c b a hbc hab
  total := by
    intro a b
    cases ascending with
    | true => exact o.total a b
    | false => exact o.total b a

/-- `NULLS LAST` or `NULLS FIRST`. -/
def withNulls (last : Bool) : SortOrder (Option α) where
  le
    | some a, some b => o.le a b
    | some _, none => last
    | none, some _ => !last
    | none, none => true
  trans := by
    intro a b c hab hbc
    cases a <;> cases b <;> cases c <;> simp_all
    exact o.trans _ _ _ hab hbc
  total := by
    intro a b
    cases a with
    | none => cases b <;> cases last <;> rfl
    | some a =>
      cases b with
      | none => cases last <;> rfl
      | some b => exact o.total a b

/-- By a column, or by an expression. -/
def comap {β : Type} (f : β → α) : SortOrder β where
  le a b := o.le (f a) (f b)
  trans a b c := o.trans (f a) (f b) (f c)
  total a b := o.total (f a) (f b)

/-- The rows in some order that the sort allows. -/
structure Answer (rows answer : List α) : Prop where
  perm : answer.Perm rows
  sorted : answer.Pairwise fun a b => o.le a b = true

/-- How many rows come before. -/
def before (rows : List α) (a : α) : Nat := rows.countP fun b => !o.le a b

/-- How many rows come before or are equal. -/
def upto (rows : List α) (a : α) : Nat := rows.countP fun b => o.le b a

variable {o} {rows answer : List α} {a : α} {i : Nat}

theorem answer_mergeSort (rows : List α) : o.Answer rows (rows.mergeSort o.le) where
  perm := List.mergeSort_perm rows o.le
  sorted := List.pairwise_mergeSort o.trans o.total rows

theorem upto_le_length : o.upto rows a ≤ rows.length := List.countP_le_length

theorem before_eq_of_perm (h : answer.Perm rows) : o.before rows a = o.before answer a :=
  (h.countP_eq _).symm

theorem upto_eq_of_perm (h : answer.Perm rows) : o.upto rows a = o.upto answer a :=
  (h.countP_eq _).symm

/-- A row comes after those before it, and before those after it. -/
theorem rank_of_answer (h : o.Answer rows answer) (hi : answer[i]? = some a) :
    o.before rows a ≤ i ∧ i < o.upto rows a := by
  obtain ⟨hlt, hget⟩ := List.getElem?_eq_some_iff.1 hi
  have hsplit : answer = answer.take i ++ a :: answer.drop (i + 1) := by
    rw [← hget, ← List.drop_eq_getElem_cons hlt, List.take_append_drop]
  have hsorted := h.sorted
  rw [hsplit, List.pairwise_append, List.pairwise_cons] at hsorted
  obtain ⟨-, ⟨hright, -⟩, hacross⟩ := hsorted
  have hlength : (answer.take i).length = i := List.length_take_of_le (Nat.le_of_lt hlt)
  rw [before_eq_of_perm h.perm, upto_eq_of_perm h.perm, before, upto, hsplit]
  constructor
  · have hleft := List.countP_le_length (p := fun b => !o.le a b) (l := answer.take i)
    have hnone : (answer.drop (i + 1)).countP (fun b => !o.le a b) = 0 := by
      rw [List.countP_eq_zero]
      intro b hb
      simp [hright b hb]
    simp only [List.countP_append, List.countP_cons, hnone, o.refl a]
    simp
    omega
  · have hall : (answer.take i).countP (fun b => o.le b a) = i := by
      rw [List.countP_eq_length.2, hlength]
      intro b hb
      exact hacross b hb a List.mem_cons_self
    simp only [List.countP_append, List.countP_cons, hall, o.refl a, if_true]
    omega

theorem before_lt_upto (ha : a ∈ rows) : o.before rows a < o.upto rows a := by
  have hmem : a ∈ rows.mergeSort o.le := List.mem_mergeSort.2 ha
  obtain ⟨i, hi⟩ := List.getElem?_of_mem hmem
  have hrank := rank_of_answer (answer_mergeSort rows) hi
  omega

/-- A row can be put at any place of a list it is in. -/
theorem exists_perm_at {ties : List α} {j : Nat} (ha : a ∈ ties) (hj : j < ties.length) :
    ∃ ts : List α, ts.Perm ties ∧ ts[j]? = some a := by
  obtain ⟨left, right, rfl⟩ := List.append_of_mem ha
  have hle : j ≤ (left ++ right).length := by
    simp only [List.length_append, List.length_cons] at hj ⊢
    omega
  refine ⟨(left ++ right).insertIdx j a, ?_, ?_⟩
  · exact (List.perm_insertIdx a _ hle).trans List.perm_middle.symm
  · rw [List.getElem?_insertIdx_self, if_pos hle]

/-- The rows before `a`, those equal to it, and those after it. -/
theorem exists_answer_at (ha : a ∈ rows) (hbefore : o.before rows a ≤ i)
    (hupto : i < o.upto rows a) : ∃ answer, o.Answer rows answer ∧ answer[i]? = some a := by
  have hsorted := answer_mergeSort (o := o) rows
  generalize rows.mergeSort o.le = answer at hsorted
  rw [before_eq_of_perm hsorted.perm] at hbefore
  rw [upto_eq_of_perm hsorted.perm] at hupto
  have hmem : a ∈ answer := hsorted.perm.mem_iff.2 ha
  have hlower : (answer.filter fun b => !o.le a b).length = o.before answer a :=
    List.countP_eq_length_filter.symm
  have hle_lower : ∀ b ∈ answer.filter fun b => !o.le a b, o.le b a = true := by
    intro b hb
    exact o.le_of_not_le (by simpa using (List.mem_filter.1 hb).2)
  have hties : o.before answer a +
      ((answer.filter (o.le a)).filter fun b => o.le b a).length = o.upto answer a := by
    have hall := List.countP_eq_length.2 hle_lower
    rw [upto, List.countP_eq_countP_filter_add answer _ (o.le a), ← List.countP_eq_length_filter,
      ← hlower, hall]
    omega
  have htie : a ∈ (answer.filter (o.le a)).filter fun b => o.le b a := by simp [hmem, o.refl]
  obtain ⟨ts, hperm, hat⟩ := exists_perm_at (j := i - o.before answer a) htie (by omega)
  have hties_le : ∀ b ∈ ts, o.le a b = true ∧ o.le b a = true := by
    intro b hb
    have hfilter := List.mem_filter.1 (hperm.mem_iff.1 hb)
    exact ⟨(List.mem_filter.1 hfilter.1).2, hfilter.2⟩
  have hle_upper : ∀ b ∈ (answer.filter (o.le a)).filter fun b => !o.le b a,
      o.le a b = true := by
    intro b hb
    exact (List.mem_filter.1 (List.mem_filter.1 hb).1).2
  refine ⟨(answer.filter fun b => !o.le a b) ++
    (ts ++ (answer.filter (o.le a)).filter fun b => !o.le b a), ⟨?_, ?_⟩, ?_⟩
  · have hequal : (ts ++ (answer.filter (o.le a)).filter fun b => !o.le b a).Perm
        (answer.filter (o.le a)) := (hperm.append_right _).trans (List.filter_append_perm _ _)
    have hall : ((answer.filter fun b => !o.le a b) ++ answer.filter (o.le a)).Perm answer :=
      List.perm_append_comm.trans (List.filter_append_perm _ _)
    exact ((hequal.append_left _).trans hall).trans hsorted.perm
  · rw [List.pairwise_append, List.pairwise_append]
    refine ⟨hsorted.sorted.filter _, ⟨?_, (hsorted.sorted.filter _).filter _, ?_⟩, ?_⟩
    · exact List.pairwise_of_forall_mem_list fun b hb c hc =>
        o.trans b a c (hties_le b hb).2 (hties_le c hc).1
    · exact fun b hb c hc => o.trans b a c (hties_le b hb).2 (hle_upper c hc)
    · intro b hb c hc
      rcases List.mem_append.1 hc with hc | hc
      · exact o.trans b a c (hle_lower b hb) (hties_le c hc).1
      · exact o.trans b a c (hle_lower b hb) (hle_upper c hc)
  · rw [List.getElem?_append_right (by omega), hlower,
      List.getElem?_append_left (by rw [hperm.length_eq]; omega)]
    exact hat

end SortOrder

/-! ## Pages -/

variable {size count k j : Nat}

/-- Page `k`, from 0. -/
def page (size k : Nat) (l : List α) : List α := (l.drop (k * size)).take size

/-- All pages, each cut from its own answer. -/
def listing (size count : Nat) (answers : Nat → List α) : List α :=
  (List.range count).flatMap fun k => page size k (answers k)

theorem mem_page {l : List α} {a : α} :
    a ∈ page size k l ↔ ∃ i, k * size ≤ i ∧ i < (k + 1) * size ∧ l[i]? = some a := by
  rw [page, List.mem_iff_getElem?, Nat.succ_mul]
  constructor
  · rintro ⟨i, hi⟩
    rw [List.getElem?_take, List.getElem?_drop] at hi
    split at hi
    · exact ⟨k * size + i, by omega, by omega, hi⟩
    · cases hi
  · rintro ⟨i, hle, hlt, hi⟩
    refine ⟨i - k * size, ?_⟩
    rw [List.getElem?_take, List.getElem?_drop, if_pos (by omega), Nat.add_sub_cancel' hle]
    exact hi

theorem mem_of_mem_page {l : List α} {a : α} (h : a ∈ page size k l) : a ∈ l :=
  List.mem_of_mem_drop (List.mem_of_mem_take h)

theorem page_nodup {l : List α} (h : l.Nodup) : (page size k l).Nodup :=
  (h.sublist (List.drop_sublist _ _)).sublist (List.take_sublist _ _)

section

variable (orders : Nat → SortOrder α) (rows : List α) (size count : Nat)

/-- The pages hold every row once, whatever the answers. -/
def Exact : Prop :=
  ∀ answers : Nat → List α, (∀ k < count, (orders k).Answer rows (answers k)) →
    (listing size count answers).Perm rows

/-- The row, and what is equal to it, stands on page `k`. -/
def On (k : Nat) (a : α) : Prop :=
  k * size ≤ (orders k).before rows a ∧ (orders k).upto rows a ≤ (k + 1) * size

/-- The row, and what is equal to it, stands on pages before `k`, or on pages after. -/
def Off (k : Nat) (a : α) : Prop :=
  (orders k).upto rows a ≤ k * size ∨ (k + 1) * size ≤ (orders k).before rows a

def Settled (a : α) : Prop :=
  ∃ k < count, On orders rows size k a ∧ ∀ j < count, j ≠ k → Off orders rows size j a

end

variable {orders : Nat → SortOrder α} {rows answer : List α} {a : α}

theorem mem_of_on (h : On orders rows size k a) (ha : a ∈ rows)
    (hanswer : (orders k).Answer rows answer) : a ∈ page size k answer := by
  obtain ⟨i, hi⟩ := List.getElem?_of_mem (hanswer.perm.mem_iff.2 ha)
  have hrank := SortOrder.rank_of_answer hanswer hi
  exact mem_page.2 ⟨i, h.1.trans hrank.1, hrank.2.trans_le h.2, hi⟩

theorem not_mem_of_off (h : Off orders rows size k a)
    (hanswer : (orders k).Answer rows answer) : a ∉ page size k answer := by
  intro hmem
  obtain ⟨i, hle, hlt, hi⟩ := mem_page.1 hmem
  have hrank := SortOrder.rank_of_answer hanswer hi
  rcases h with h | h <;> omega

/-- A row that need not stand on the page does not do so in some answer. -/
theorem exists_not_mem (h : ¬ On orders rows size k a) (ha : a ∈ rows) (hnodup : rows.Nodup) :
    ∃ answer, (orders k).Answer rows answer ∧ a ∉ page size k answer := by
  have hrank : (orders k).before rows a < (orders k).upto rows a := SortOrder.before_lt_upto ha
  have hplace : ∃ i, (orders k).before rows a ≤ i ∧ i < (orders k).upto rows a ∧
      ¬ (k * size ≤ i ∧ i < (k + 1) * size) := by
    by_cases hbefore : k * size ≤ (orders k).before rows a
    · refine ⟨(orders k).upto rows a - 1, by omega, by omega, ?_⟩
      intro hon
      exact h ⟨hbefore, by omega⟩
    · exact ⟨(orders k).before rows a, by omega, hrank, fun hon => hbefore hon.1⟩
  obtain ⟨i, hle, hlt, hoff⟩ := hplace
  obtain ⟨answer, hanswer, hi⟩ := SortOrder.exists_answer_at ha hle hlt
  refine ⟨answer, hanswer, ?_⟩
  intro hmem
  obtain ⟨j, hjle, hjlt, hj⟩ := mem_page.1 hmem
  obtain ⟨hi', hgeti⟩ := List.getElem?_eq_some_iff.1 hi
  obtain ⟨hj', hgetj⟩ := List.getElem?_eq_some_iff.1 hj
  have hsame : j = i :=
    (hanswer.perm.nodup_iff.2 hnodup).getElem_inj_iff.1 (hgetj.trans hgeti.symm)
  exact hoff ⟨hsame ▸ hjle, hsame ▸ hjlt⟩

/-- A row that may stand on the page does so in some answer. -/
theorem exists_mem (h : ¬ Off orders rows size k a) (ha : a ∈ rows) :
    ∃ answer, (orders k).Answer rows answer ∧ a ∈ page size k answer := by
  have hrank : (orders k).before rows a < (orders k).upto rows a := SortOrder.before_lt_upto ha
  rw [Off, not_or, Nat.not_le, Nat.not_le] at h
  have hsucc : (k + 1) * size = k * size + size := Nat.succ_mul k size
  have hsize : 0 < size := by
    rcases Nat.eq_zero_or_pos size with rfl | hsize
    · simp at h
    · exact hsize
  have hplace : ∃ i, (orders k).before rows a ≤ i ∧ i < (orders k).upto rows a ∧
      k * size ≤ i ∧ i < (k + 1) * size :=
    ⟨max ((orders k).before rows a) (k * size), by omega, by omega, by omega, by omega⟩
  obtain ⟨i, hle, hlt, hon⟩ := hplace
  obtain ⟨answer, hanswer, hi⟩ := SortOrder.exists_answer_at ha hle hlt
  exact ⟨answer, hanswer, mem_page.2 ⟨i, hon.1, hon.2, hi⟩⟩

/-- Answers for all pages, with a given one for page `k`. -/
def answersWith (orders : Nat → SortOrder α) (rows : List α) (k : Nat) (answer : List α) (j : Nat) :
    List α :=
  if j = k then answer else rows.mergeSort (orders j).le

theorem answer_answersWith (h : (orders k).Answer rows answer) (j : Nat) :
    (orders j).Answer rows (answersWith orders rows k answer j) := by
  unfold answersWith
  split
  · rename_i hj
    exact hj ▸ h
  · exact SortOrder.answer_mergeSort rows

theorem mem_listing {answers : Nat → List α} :
    a ∈ listing size count answers ↔ ∃ k < count, a ∈ page size k (answers k) := by
  simp [listing]

theorem page_unique {answers : Nat → List α} (h : (listing size count answers).Nodup)
    (hj : j < count) (hk : k < count) (haj : a ∈ page size j (answers j))
    (hak : a ∈ page size k (answers k)) : j = k := by
  have hdisjoint := List.pairwise_iff_getElem.1 (List.nodup_flatMap.1 h).2
  simp only [List.length_range, List.getElem_range] at hdisjoint
  rcases Nat.lt_trichotomy j k with hlt | heq | hlt
  · exact absurd hak (hdisjoint j k hj hk hlt haj)
  · exact heq
  · exact absurd haj (hdisjoint k j hk hj hlt hak)

/-- The pages are a partition, whatever the answers, exactly when every row is settled. -/
theorem exact_iff (hnodup : rows.Nodup) :
    Exact orders rows size count ↔ ∀ a ∈ rows, Settled orders rows size count a := by
  constructor
  · intro hexact a ha
    have hsorted := fun j (_ : j < count) => SortOrder.answer_mergeSort (o := orders j) rows
    have hbase := hexact _ hsorted
    obtain ⟨k, hk, hpage⟩ := mem_listing.1 (hbase.mem_iff.2 ha)
    have hon : On orders rows size k a := by
      by_contra hnot
      obtain ⟨answer, hanswer, hmissing⟩ := exists_not_mem hnot ha hnodup
      have hother := hexact _ fun j _ => answer_answersWith hanswer j
      obtain ⟨j, hj, hpage'⟩ := mem_listing.1 (hother.mem_iff.2 ha)
      unfold answersWith at hpage'
      split at hpage'
      · rename_i hjk
        exact hmissing (hjk ▸ hpage')
      · rename_i hjk
        exact hjk (page_unique (hbase.nodup_iff.2 hnodup) hj hk hpage' hpage)
    refine ⟨k, hk, hon, fun j hj hjk => ?_⟩
    by_contra hnot
    obtain ⟨answer, hanswer, hmem⟩ := exists_mem hnot ha
    have hother := hexact _ fun i _ => answer_answersWith hanswer i
    have haj : a ∈ page size j (answersWith orders rows j answer j) := by
      rw [answersWith, if_pos rfl]
      exact hmem
    have hak : a ∈ page size k (answersWith orders rows j answer k) := by
      rw [answersWith, if_neg (Ne.symm hjk)]
      exact hpage
    exact hjk (page_unique (hother.nodup_iff.2 hnodup) hj hk haj hak)
  · intro hsettled answers hanswers
    have hdisjoint : ∀ j < count, ∀ k < count, j ≠ k →
        List.Disjoint (page size j (answers j)) (page size k (answers k)) := by
      intro j hj k hk hjk a haj hak
      have ha : a ∈ rows := (hanswers j hj).perm.mem_iff.1 (mem_of_mem_page haj)
      obtain ⟨n, -, -, hoff⟩ := hsettled a ha
      by_cases hjn : j = n
      · exact not_mem_of_off (hoff k hk (hjn ▸ Ne.symm hjk)) (hanswers k hk) hak
      · exact not_mem_of_off (hoff j hj hjn) (hanswers j hj) haj
    have hlisting : (listing size count answers).Nodup := by
      refine List.nodup_flatMap.2 ⟨?_, List.pairwise_lt_range.imp_of_mem ?_⟩
      · intro k hk
        have hanswer := hanswers k (List.mem_range.1 hk)
        exact page_nodup (hanswer.perm.nodup_iff.2 hnodup)
      · intro j k hj hk hlt
        exact hdisjoint j (List.mem_range.1 hj) k (List.mem_range.1 hk) (Nat.ne_of_lt hlt)
    refine (List.perm_ext_iff_of_nodup hlisting hnodup).2 fun a => ?_
    constructor
    · intro ha
      obtain ⟨k, hk, hpage⟩ := mem_listing.1 ha
      exact (hanswers k hk).perm.mem_iff.1 (mem_of_mem_page hpage)
    · intro ha
      obtain ⟨k, hk, hon, -⟩ := hsettled a ha
      exact mem_listing.2 ⟨k, hk, mem_of_on hon ha (hanswers k hk)⟩

/-! ## One order -/

/-- Rows that are equal stand on one page. -/
theorem settled_iff_of_const {o : SortOrder α} (hcount : rows.length ≤ count * size)
    (ha : a ∈ rows) :
    Settled (fun _ => o) rows size count a ↔
      o.before rows a / size = (o.upto rows a - 1) / size := by
  have hrank : o.before rows a < o.upto rows a := SortOrder.before_lt_upto ha
  have hupto : o.upto rows a ≤ count * size := SortOrder.upto_le_length.trans hcount
  have hsize : 0 < size := by
    rcases Nat.eq_zero_or_pos size with rfl | hsize
    · simp at hupto
      omega
    · exact hsize
  constructor
  · rintro ⟨k, -, hon, -⟩
    have hle : k * size ≤ o.before rows a := hon.1
    have hlt : o.upto rows a ≤ (k + 1) * size := hon.2
    have hle' : k * size ≤ o.upto rows a - 1 := by omega
    rw [Nat.div_eq_of_lt_le hle (by omega), Nat.div_eq_of_lt_le hle' (by omega)]
  · intro hdiv
    have hle : o.before rows a / size * size ≤ o.before rows a := Nat.div_mul_le_self _ _
    have hlt : o.upto rows a - 1 < (o.before rows a / size + 1) * size :=
      (Nat.div_lt_iff_lt_mul hsize).1 (hdiv ▸ Nat.lt_succ_self _)
    have hend : o.upto rows a ≤ (o.before rows a / size + 1) * size := by omega
    have hpage : o.before rows a / size < count :=
      (Nat.div_lt_iff_lt_mul hsize).2 (hrank.trans_le hupto)
    refine ⟨o.before rows a / size, hpage, ⟨hle, hend⟩, fun j _ hjk => ?_⟩
    rcases Nat.lt_or_gt_of_ne hjk with hless | hmore
    · exact .inr ((Nat.mul_le_mul_right size hless).trans hle)
    · exact .inl (hend.trans (Nat.mul_le_mul_right size hmore))

end Paging
