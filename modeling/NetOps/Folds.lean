import Mathlib.Tactic.Common

/-!
# Folds

Folds of a non-empty list, from its first element, by an operation that may have effects. Where
the operation is associative, parts of the list can be folded first (`fold_flatMap`).
-/

namespace Folds

variable {m : Type → Type} [Monad m] {M : Type} {op : M → M → m M}

def Associative (op : M → M → m M) : Prop :=
  ∀ a b c, (op a b >>= fun x => op x c) = op b c >>= fun x => op a x

/-- The fold of a list and the element before it. -/
def fold (op : M → M → m M) (part : M × List M) : m M := part.2.foldlM op part.1

variable [LawfulMonad m]

/-- What stands first can be added last. -/
theorem foldlM_op (hop : Associative op) (a b : M) (cs : List M) :
    (op a b >>= fun x => cs.foldlM op x) = cs.foldlM op b >>= fun x => op a x := by
  induction cs generalizing b with
  | nil => simp
  | cons c cs ih =>
    have hfirst : (op a b >>= fun x => op x c >>= fun y => cs.foldlM op y) =
        (op b c >>= fun x => op a x) >>= fun y => cs.foldlM op y := by
      rw [← hop a b c, bind_assoc]
    simp only [List.foldlM_cons, hfirst, bind_assoc]
    exact bind_congr fun x => ih x

theorem fold_flatMap (hop : Associative op) (part : M × List M) (parts : List (M × List M)) :
    fold op (part.1, part.2 ++ parts.flatMap fun p => p.1 :: p.2) =
      fold op part >>= fun a => parts.mapM (fold op) >>= fun as => fold op (a, as) := by
  induction parts generalizing part with
  | nil => simp [fold]
  | cons next parts ih =>
    have hrest := ih next
    unfold fold at hrest ⊢
    rw [List.flatMap_cons, List.cons_append, List.foldlM_append]
    simp only [List.foldlM_cons, List.mapM_cons, bind_assoc, pure_bind]
    refine bind_congr fun a => ?_
    rw [foldlM_op hop, hrest]
    simp only [bind_assoc]
    refine bind_congr fun b => bind_congr fun bs => ?_
    exact (foldlM_op hop a b bs).symm

/-- Results that are taken apart again need not be put together. -/
theorem mapM_map_bind {A B C D : Type} (run : A → m B) (wrap : A → B → C) {unwrap : C → B}
    (hwrap : ∀ a b, unwrap (wrap a b) = b) (as : List A) (k : List B → m D) :
    ((as.mapM fun a => wrap a <$> run a) >>= fun cs => k (cs.map unwrap)) = as.mapM run >>= k := by
  induction as generalizing k with
  | nil => simp
  | cons a as ih =>
    simp only [List.mapM_cons, bind_assoc, bind_map_left, pure_bind, List.map_cons, hwrap]
    exact bind_congr fun b => ih fun bs => k (b :: bs)

end Folds
