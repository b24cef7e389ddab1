import NetOps.Transports.Pool

/-!
# Transports.PoolKept

What runs of the connection pool keep. A step moves one call, and `Moved` says how; `Inv` ties what
the calls hold to what the pool has, and each kind of move keeps it.

`pool_kept`: in a run of guarded steps the pool keeps its size, no key has two open sessions, no
open session is lost, and `close_all` leaves none. Without the guard `pool_overfills`.
-/

namespace NetOps
namespace Transports
namespace Pool

variable {σ σ' : State} {c c' : Nat} {key key' : String} {s s' : SessionId}

/-- The key whose lock the call holds. -/
def Call.holds : Call → Option String
  | .opening key _ => some key
  | .closing key _ _ _ => some key
  | _ => none

/-- Every key of the pool is one of these. -/
def State.Within (σ : State) (keys : List String) : Prop :=
  ∀ key s, σ.sessions.lookup key = some s → key ∈ keys

/-! ## The invariant -/

structure Inv (σ : State) : Prop where
  size : σ.sessions.keys.length ≤ σ.maxSize
  pooled : ∀ key s, σ.sessions.lookup key = some s → (key, s) ∈ σ.opened ∧ s ∉ σ.closed
  accounted : ∀ key s, (key, s) ∈ σ.opened →
    σ.sessions.lookup key = some s ∨ s ∈ σ.closed ∨ σ.Closing key s
  held : ∀ c call key, σ.call c = some call → call.holds = some key →
    key ∈ σ.locked ∧ σ.sessions.lookup key = none
  exclusive : ∀ c c' call call' key, σ.call c = some call → σ.call c' = some call' →
    call.holds = some key → call'.holds = some key → c = c'
  opening : ∀ c key s, σ.call c = some (.opening key s) →
    s < σ.made ∧ ∀ key', (key', s) ∉ σ.opened
  openedBy : ∀ c c' key key' s, σ.call c = some (.opening key s) →
    σ.call c' = some (.opening key' s) → c = c'
  closing : ∀ c key s rest all, σ.call c = some (.closing key s rest all) →
    (key, s) ∈ σ.opened ∧ s ∉ σ.closed
  made : ∀ key s, (key, s) ∈ σ.opened → s < σ.made
  oneKey : ∀ key key' s, (key, s) ∈ σ.opened → (key', s) ∈ σ.opened → key = key'
  wasOpened : ∀ s ∈ σ.closed, ∃ key, (key, s) ∈ σ.opened
  pending : ∀ c call keys, σ.call c = some call → call.pending = some keys → σ.Within keys

theorem inv_initial (maxSize : Nat) : Inv { maxSize := maxSize } where
  size := by simp
  pooled := by simp
  accounted := by simp
  held := by simp
  exclusive := by simp
  opening := by simp
  openedBy := by simp
  closing := by simp
  made := by simp
  oneKey := by simp
  wasOpened := by simp
  pending := by simp

/-- Two open sessions of one key are in the pool, or with one call. -/
theorem Inv.kept (h : Inv σ) : Kept σ where
  size := h.size
  accounted := h.accounted
  single := by
    intro key s s' hs hs' hopen hopen'
    have hcases := h.accounted key s hs
    have hcases' := h.accounted key s' hs'
    rcases hcases with hl | hcl | ⟨c, rest, all, hc⟩
    · rcases hcases' with hl' | hcl' | ⟨c', rest', all', hc'⟩
      · exact Option.some.inj (hl.symm.trans hl')
      · exact absurd hcl' hopen'
      · have hnone := (h.held c' _ key hc' rfl).2
        simp [hl] at hnone
    · exact absurd hcl hopen
    · rcases hcases' with hl' | hcl' | ⟨c', rest', all', hc'⟩
      · have hnone := (h.held c _ key hc rfl).2
        simp [hl'] at hnone
      · exact absurd hcl' hopen'
      · have hcc := h.exclusive c c' _ _ key hc hc' rfl rfl
        subst hcc
        rw [hc] at hc'
        injection hc' with hc'
        injection hc'

/-! ## What a step does -/

/-- How one step moves the call `c`. -/
inductive Moved (σ : State) (c : Nat) : State → Prop
  | goesOn (call : Option Call) (hfree : ∀ x, σ.call c = some x → x.holds = none)
      (hcall : ∀ x, call = some x → x.holds = none)
      (hpending : ∀ x keys, call = some x → x.pending = some keys → σ.Within keys) :
      Moved σ c (σ.setCall c call)
  | begins (key : String) (hfree : key ∉ σ.locked) (habsent : σ.sessions.lookup key = none)
      (hcall : σ.call c = some (.get key)) :
      Moved σ c { σ.setCall c (some (.opening key σ.made)) with
        made := σ.made + 1
        locked := key :: σ.locked }
  | opens (key : String) (s : SessionId) (hcall : σ.call c = some (.opening key s))
      (hroom : σ.sessions.keys.length < σ.maxSize)
      (hahead : ∀ c' call keys, σ.call c' = some call → call.pending = some keys → key ∈ keys) :
      Moved σ c { σ.setCall c none with
        sessions := σ.sessions.insert key s
        opened := (key, s) :: σ.opened
        locked := σ.locked.erase key }
  | fails (key : String) (s : SessionId) (hcall : σ.call c = some (.opening key s)) :
      Moved σ c { σ.setCall c none with locked := σ.locked.erase key }
  | takes (key : String) (s : SessionId) (rest : List String) (all : Bool)
      (hfree : key ∉ σ.locked) (hpresent : σ.sessions.lookup key = some s)
      (hcall : σ.call c = some (.release key rest all)) :
      Moved σ c { σ.setCall c (some (.closing key s rest all)) with
        sessions := σ.sessions.erase key
        locked := key :: σ.locked }
  | closes (key : String) (s : SessionId) (rest : List String) (all : Bool)
      (hcall : σ.call c = some (.closing key s rest all)) :
      Moved σ c { σ.setCall c (nextRelease all rest) with
        closed := s :: σ.closed
        locked := σ.locked.erase key }

theorem holds_nextRelease {all : Bool} {rest : List String} {x : Call}
    (h : nextRelease all rest = some x) : x.holds = none := by
  cases rest with
  | nil => simp [nextRelease] at h
  | cons key rest => simp only [nextRelease, Option.some.injEq] at h; subst h; rfl

theorem pending_nextRelease {all : Bool} {rest keys : List String} {x : Call}
    (h : nextRelease all rest = some x) (hx : x.pending = some keys) :
    all = true ∧ keys = rest := by
  cases rest with
  | nil => simp [nextRelease] at h
  | cons key rest =>
    simp only [nextRelease, Option.some.injEq] at h
    subst h
    cases all <;> simp_all [Call.pending]

theorem within_keys (σ : State) : σ.Within σ.sessions.keys.reverse := by
  intro key s hs
  have hmem : key ∈ σ.sessions := AList.lookup_isSome.1 (by simp [hs])
  simpa using AList.mem_keys.1 hmem

theorem State.Within.tail {rest : List String} (h : σ.Within (key :: rest))
    (hnone : σ.sessions.lookup key = none) : σ.Within rest := by
  intro key' s hs
  rcases List.mem_cons.1 (h key' s hs) with rfl | hmem
  · simp [hnone] at hs
  · exact hmem

/-- A guarded step moves one call. -/
theorem moved_of_step (hinv : Inv σ) {a : Action} (hguard : Guarded σ a)
    (h : step σ a = some σ') : ∃ c, Moved σ c σ' := by
  cases a with
  | getOrCreate c key =>
    simp only [step] at h
    split at h
    · cases h
    · rename_i hidle
      cases h
      refine ⟨c, .goesOn _ (by simp_all) ?_ ?_⟩
      · intro x hx
        cases hx
        rfl
      · intro x keys hx hkeys
        cases hx
        cases hkeys
  | release c key =>
    simp only [step] at h
    split at h
    · cases h
    · rename_i hidle
      cases h
      refine ⟨c, .goesOn _ (by simp_all) ?_ ?_⟩
      · intro x hx
        cases hx
        rfl
      · intro x keys hx hkeys
        cases hx
        cases hkeys
  | closeAll c =>
    simp only [step] at h
    split at h
    · cases h
    · rename_i hidle
      cases h
      refine ⟨c, .goesOn _ (by simp_all) (fun x hx => holds_nextRelease hx) ?_⟩
      intro x keys hx hkeys
      obtain ⟨-, rfl⟩ := pending_nextRelease hx hkeys
      exact within_keys σ
  | acquire c =>
    simp only [step] at h
    split at h
    · rename_i key hcall
      split at h
      · cases h
      · rename_i hfree
        cases h
        refine ⟨c, ?_⟩
        have hidle : Moved σ c (σ.setCall c none) :=
          .goesOn none (by simp [hcall, Call.holds]) (by simp) (by simp)
        unfold State.enterGet
        split
        · exact hidle
        · rename_i habsent
          split
          · exact hidle
          · exact .begins key hfree habsent hcall
    · rename_i key rest all hcall
      split at h
      · cases h
      · rename_i hfree
        cases h
        refine ⟨c, ?_⟩
        unfold State.enterRelease
        split
        · rename_i habsent
          refine .goesOn _ (by simp [hcall, Call.holds]) (fun x hx => holds_nextRelease hx) ?_
          intro x keys hx hkeys
          obtain ⟨rfl, rfl⟩ := pending_nextRelease hx hkeys
          exact (hinv.pending c _ _ hcall rfl).tail habsent
        · rename_i s hpresent
          exact .takes key s rest all hfree hpresent hcall
    · cases h
  | openReturns c =>
    simp only [step] at h
    split at h
    · rename_i key s hcall
      cases h
      obtain ⟨hroom, hahead⟩ := hguard key s hcall
      exact ⟨c, .opens key s hcall hroom hahead⟩
    · cases h
  | openFails c =>
    simp only [step] at h
    split at h
    · rename_i key s hcall
      cases h
      exact ⟨c, .fails key s hcall⟩
    · cases h
  | closeReturns c =>
    simp only [step] at h
    split at h
    · rename_i key s rest all hcall
      cases h
      exact ⟨c, .closes key s rest all hcall⟩
    · cases h

/-! ## A step keeps the invariant -/

/-- After `c` moved, the calls are `c` with what it goes on with and the others as they were. -/
theorem call_update {calls : Nat → Option Call} {call : Option Call} {x : Call}
    (h : Function.update calls c call c' = some x) :
    (c' = c ∧ call = some x) ∨ (c' ≠ c ∧ calls c' = some x) := by
  by_cases hc : c' = c
  · subst hc
    exact .inl ⟨rfl, by simpa using h⟩
  · exact .inr ⟨hc, by simpa [hc] using h⟩

theorem closing_setCall {call : Option Call} (h : σ.Closing key s)
    (hother : ∀ rest all, σ.call c ≠ some (.closing key s rest all)) :
    (σ.setCall c call).Closing key s := by
  obtain ⟨c', rest, all, hc'⟩ := h
  have hne : c' ≠ c := by
    rintro rfl
    exact hother rest all hc'
  exact ⟨c', rest, all, by simpa [State.setCall, hne] using hc'⟩

/-- What `c` had to do was not to close, so what becomes of the opened sessions is as before. -/
theorem Inv.accounted_setCall (hinv : Inv σ) {call : Option Call}
    (hother : ∀ key s rest all, σ.call c ≠ some (.closing key s rest all)) (key : String)
    (s : SessionId) (hs : (key, s) ∈ σ.opened) :
    σ.sessions.lookup key = some s ∨ s ∈ σ.closed ∨ (σ.setCall c call).Closing key s := by
  rcases hinv.accounted key s hs with hl | hcl | hclosing
  · exact .inl hl
  · exact .inr (.inl hcl)
  · exact .inr (.inr (closing_setCall hclosing (hother key s)))

theorem Inv.goesOn (hinv : Inv σ) {call : Option Call}
    (hfree : ∀ x, σ.call c = some x → x.holds = none)
    (hcall : ∀ x, call = some x → x.holds = none)
    (hpending : ∀ x keys, call = some x → x.pending = some keys → σ.Within keys) :
    Inv (σ.setCall c call) where
  size := hinv.size
  pooled := hinv.pooled
  accounted := by
    refine hinv.accounted_setCall ?_
    intro key s rest all hc
    cases hfree _ hc
  held := by
    intro c' x key hx hk
    rcases call_update hx with ⟨-, hx⟩ | ⟨-, hx⟩
    · simp [hcall x hx] at hk
    · exact hinv.held c' x key hx hk
  exclusive := by
    intro c₁ c₂ x₁ x₂ key h₁ h₂ hk₁ hk₂
    rcases call_update h₁ with ⟨-, h₁⟩ | ⟨-, h₁⟩
    · simp [hcall x₁ h₁] at hk₁
    · rcases call_update h₂ with ⟨-, h₂⟩ | ⟨-, h₂⟩
      · simp [hcall x₂ h₂] at hk₂
      · exact hinv.exclusive c₁ c₂ x₁ x₂ key h₁ h₂ hk₁ hk₂
  opening := by
    intro c' key s hx
    rcases call_update hx with ⟨-, hx⟩ | ⟨-, hx⟩
    · cases hcall _ hx
    · exact hinv.opening c' key s hx
  openedBy := by
    intro c₁ c₂ key key' s h₁ h₂
    rcases call_update h₁ with ⟨-, h₁⟩ | ⟨-, h₁⟩
    · cases hcall _ h₁
    · rcases call_update h₂ with ⟨-, h₂⟩ | ⟨-, h₂⟩
      · cases hcall _ h₂
      · exact hinv.openedBy c₁ c₂ key key' s h₁ h₂
  closing := by
    intro c' key s rest all hx
    rcases call_update hx with ⟨-, hx⟩ | ⟨-, hx⟩
    · cases hcall _ hx
    · exact hinv.closing c' key s rest all hx
  made := hinv.made
  oneKey := hinv.oneKey
  wasOpened := hinv.wasOpened
  pending := by
    intro c' x keys hx hk
    rcases call_update hx with ⟨-, hx⟩ | ⟨-, hx⟩
    · exact hpending x keys hx hk
    · exact hinv.pending c' x keys hx hk

theorem Inv.begins (hinv : Inv σ) (hfree : key ∉ σ.locked)
    (habsent : σ.sessions.lookup key = none) (hcall : σ.call c = some (.get key)) :
    Inv { σ.setCall c (some (.opening key σ.made)) with
      made := σ.made + 1
      locked := key :: σ.locked } where
  size := hinv.size
  pooled := hinv.pooled
  accounted := hinv.accounted_setCall (by simp [hcall])
  held := by
    intro c' x key' hx hk
    rcases call_update hx with ⟨-, hx⟩ | ⟨-, hx⟩
    · cases hx
      cases hk
      exact ⟨by simp, habsent⟩
    · obtain ⟨hlocked, hnone⟩ := hinv.held c' x key' hx hk
      exact ⟨List.mem_cons_of_mem _ hlocked, hnone⟩
  exclusive := by
    -- the key was free, so nobody else holds it
    intro c₁ c₂ x₁ x₂ key' h₁ h₂ hk₁ hk₂
    rcases call_update h₁ with ⟨hc₁, h₁⟩ | ⟨-, h₁⟩
    · rcases call_update h₂ with ⟨hc₂, h₂⟩ | ⟨-, h₂⟩
      · exact hc₁.trans hc₂.symm
      · cases h₁
        cases hk₁
        exact absurd (hinv.held c₂ x₂ _ h₂ hk₂).1 hfree
    · rcases call_update h₂ with ⟨-, h₂⟩ | ⟨-, h₂⟩
      · cases h₂
        cases hk₂
        exact absurd (hinv.held c₁ x₁ _ h₁ hk₁).1 hfree
      · exact hinv.exclusive c₁ c₂ x₁ x₂ key' h₁ h₂ hk₁ hk₂
  opening := by
    intro c' key' s hx
    rcases call_update hx with ⟨-, hx⟩ | ⟨-, hx⟩
    · cases hx
      refine ⟨Nat.lt_succ_self _, fun key' hmem => ?_⟩
      exact absurd (hinv.made key' _ hmem) (Nat.lt_irrefl _)
    · obtain ⟨hlt, hnot⟩ := hinv.opening c' key' s hx
      exact ⟨Nat.lt_succ_of_lt hlt, hnot⟩
  openedBy := by
    intro c₁ c₂ key₁ key₂ s h₁ h₂
    rcases call_update h₁ with ⟨hc₁, h₁⟩ | ⟨-, h₁⟩
    · rcases call_update h₂ with ⟨hc₂, h₂⟩ | ⟨-, h₂⟩
      · exact hc₁.trans hc₂.symm
      · cases h₁
        exact absurd (hinv.opening c₂ key₂ _ h₂).1 (Nat.lt_irrefl _)
    · rcases call_update h₂ with ⟨-, h₂⟩ | ⟨-, h₂⟩
      · cases h₂
        exact absurd (hinv.opening c₁ key₁ _ h₁).1 (Nat.lt_irrefl _)
      · exact hinv.openedBy c₁ c₂ key₁ key₂ s h₁ h₂
  closing := by
    intro c' key' s rest all hx
    rcases call_update hx with ⟨-, hx⟩ | ⟨-, hx⟩
    · cases hx
    · exact hinv.closing c' key' s rest all hx
  made := fun key' s hs => Nat.lt_succ_of_lt (hinv.made key' s hs)
  oneKey := hinv.oneKey
  wasOpened := hinv.wasOpened
  pending := by
    intro c' x keys hx hk
    rcases call_update hx with ⟨-, hx⟩ | ⟨-, hx⟩
    · cases hx
      cases hk
    · exact hinv.pending c' x keys hx hk

/-- Who holds another key than `c` still holds it when `c` lets go of its own. -/
theorem Inv.held_erase (hinv : Inv σ) {x y : Call} (hc : σ.call c = some x)
    (hkey : x.holds = some key) (hne : c' ≠ c) (hc' : σ.call c' = some y)
    (hkey' : y.holds = some key') : key' ≠ key ∧ key' ∈ σ.locked.erase key := by
  have hkeys : key' ≠ key := by
    rintro rfl
    exact hne (hinv.exclusive c' c y x key' hc' hc hkey' hkey)
  exact ⟨hkeys, (List.mem_erase_of_ne hkeys).2 (hinv.held c' y key' hc' hkey').1⟩

theorem Inv.fails (hinv : Inv σ) (hcall : σ.call c = some (.opening key s)) :
    Inv { σ.setCall c none with locked := σ.locked.erase key } where
  size := hinv.size
  pooled := hinv.pooled
  accounted := hinv.accounted_setCall (by simp [hcall])
  held := by
    intro c' x key' hx hk
    rcases call_update hx with ⟨-, hx⟩ | ⟨hne, hx⟩
    · cases hx
    · exact ⟨(hinv.held_erase hcall rfl hne hx hk).2, (hinv.held c' x key' hx hk).2⟩
  exclusive := by
    intro c₁ c₂ x₁ x₂ key' h₁ h₂
    rcases call_update h₁ with ⟨-, h₁⟩ | ⟨-, h₁⟩
    · cases h₁
    · rcases call_update h₂ with ⟨-, h₂⟩ | ⟨-, h₂⟩
      · cases h₂
      · exact hinv.exclusive c₁ c₂ x₁ x₂ key' h₁ h₂
  opening := by
    intro c' key' s' hx
    rcases call_update hx with ⟨-, hx⟩ | ⟨-, hx⟩
    · cases hx
    · exact hinv.opening c' key' s' hx
  openedBy := by
    intro c₁ c₂ key₁ key₂ s' h₁ h₂
    rcases call_update h₁ with ⟨-, h₁⟩ | ⟨-, h₁⟩
    · cases h₁
    · rcases call_update h₂ with ⟨-, h₂⟩ | ⟨-, h₂⟩
      · cases h₂
      · exact hinv.openedBy c₁ c₂ key₁ key₂ s' h₁ h₂
  closing := by
    intro c' key' s' rest all hx
    rcases call_update hx with ⟨-, hx⟩ | ⟨-, hx⟩
    · cases hx
    · exact hinv.closing c' key' s' rest all hx
  made := hinv.made
  oneKey := hinv.oneKey
  wasOpened := hinv.wasOpened
  pending := by
    intro c' x keys hx hk
    rcases call_update hx with ⟨-, hx⟩ | ⟨-, hx⟩
    · cases hx
    · exact hinv.pending c' x keys hx hk

theorem Inv.opens (hinv : Inv σ) (hcall : σ.call c = some (.opening key s))
    (hroom : σ.sessions.keys.length < σ.maxSize)
    (hahead : ∀ c' call keys, σ.call c' = some call → call.pending = some keys → key ∈ keys) :
    Inv { σ.setCall c none with
      sessions := σ.sessions.insert key s
      opened := (key, s) :: σ.opened
      locked := σ.locked.erase key } := by
  obtain ⟨hmade, hnew⟩ := hinv.opening c key s hcall
  have habsent := (hinv.held c _ key hcall rfl).2
  have hopen : s ∉ σ.closed := by
    intro hcl
    obtain ⟨key', hmem⟩ := hinv.wasOpened s hcl
    exact hnew key' hmem
  constructor
  case size =>
    have hnotin : key ∉ σ.sessions.keys := by
      rw [← AList.mem_keys]
      exact AList.lookup_eq_none.1 habsent
    rw [AList.keys_insert, List.erase_of_not_mem hnotin]
    exact hroom
  case pooled =>
    intro key' s' hl
    by_cases hkey : key' = key
    · subst hkey
      rw [AList.lookup_insert] at hl
      cases hl
      exact ⟨by simp, hopen⟩
    · rw [AList.lookup_insert_ne hkey] at hl
      obtain ⟨hmem, hopen'⟩ := hinv.pooled key' s' hl
      exact ⟨List.mem_cons_of_mem _ hmem, hopen'⟩
  case accounted =>
    intro key' s' hs
    rcases List.mem_cons.1 hs with heq | hs
    · cases heq
      exact .inl (AList.lookup_insert _)
    · have hother : ∀ key s rest all, σ.call c ≠ some (.closing key s rest all) := by
        simp [hcall]
      rcases hinv.accounted_setCall hother key' s' hs with hl | hgone
      · have hkey : key' ≠ key := by
          rintro rfl
          simp [habsent] at hl
        exact .inl ((AList.lookup_insert_ne hkey).trans hl)
      · exact .inr hgone
  case held =>
    intro c' x key' hx hk
    rcases call_update hx with ⟨-, hx⟩ | ⟨hne, hx⟩
    · cases hx
    · obtain ⟨hkey, hlocked⟩ := hinv.held_erase hcall rfl hne hx hk
      exact ⟨hlocked, (AList.lookup_insert_ne hkey).trans (hinv.held c' x key' hx hk).2⟩
  case exclusive =>
    intro c₁ c₂ x₁ x₂ key' h₁ h₂
    rcases call_update h₁ with ⟨-, h₁⟩ | ⟨-, h₁⟩
    · cases h₁
    · rcases call_update h₂ with ⟨-, h₂⟩ | ⟨-, h₂⟩
      · cases h₂
      · exact hinv.exclusive c₁ c₂ x₁ x₂ key' h₁ h₂
  case opening =>
    intro c' key' s' hx
    rcases call_update hx with ⟨-, hx⟩ | ⟨hne, hx⟩
    · cases hx
    · obtain ⟨hlt, hnot⟩ := hinv.opening c' key' s' hx
      refine ⟨hlt, fun key'' hmem => ?_⟩
      rcases List.mem_cons.1 hmem with heq | hmem
      · cases heq
        exact hne (hinv.openedBy c' c key' key s hx hcall)
      · exact hnot key'' hmem
  case openedBy =>
    intro c₁ c₂ key₁ key₂ s' h₁ h₂
    rcases call_update h₁ with ⟨-, h₁⟩ | ⟨-, h₁⟩
    · cases h₁
    · rcases call_update h₂ with ⟨-, h₂⟩ | ⟨-, h₂⟩
      · cases h₂
      · exact hinv.openedBy c₁ c₂ key₁ key₂ s' h₁ h₂
  case closing =>
    intro c' key' s' rest all hx
    rcases call_update hx with ⟨-, hx⟩ | ⟨-, hx⟩
    · cases hx
    · obtain ⟨hmem, hopen'⟩ := hinv.closing c' key' s' rest all hx
      exact ⟨List.mem_cons_of_mem _ hmem, hopen'⟩
  case made =>
    intro key' s' hs
    rcases List.mem_cons.1 hs with heq | hs
    · cases heq
      exact hmade
    · exact hinv.made key' s' hs
  case oneKey =>
    intro key₁ key₂ s' h₁ h₂
    rcases List.mem_cons.1 h₁ with heq₁ | h₁
    · rcases List.mem_cons.1 h₂ with heq₂ | h₂
      · cases heq₁
        cases heq₂
        rfl
      · cases heq₁
        exact absurd h₂ (hnew key₂)
    · rcases List.mem_cons.1 h₂ with heq₂ | h₂
      · cases heq₂
        exact absurd h₁ (hnew key₁)
      · exact hinv.oneKey key₁ key₂ s' h₁ h₂
  case wasOpened =>
    intro s' hcl
    obtain ⟨key', hmem⟩ := hinv.wasOpened s' hcl
    exact ⟨key', List.mem_cons_of_mem _ hmem⟩
  case pending =>
    intro c' x keys hx hk
    rcases call_update hx with ⟨-, hx⟩ | ⟨-, hx⟩
    · cases hx
    · have hkeyIn := hahead c' x keys hx hk
      intro key' s' hl
      by_cases hkey : key' = key
      · subst hkey
        exact hkeyIn
      · rw [AList.lookup_insert_ne hkey] at hl
        exact hinv.pending c' x keys hx hk key' s' hl

theorem lookup_of_erase (h : (σ.sessions.erase key).lookup key' = some s) :
    key' ≠ key ∧ σ.sessions.lookup key' = some s := by
  by_cases hkey : key' = key
  · subst hkey
    simp [AList.lookup_erase] at h
  · exact ⟨hkey, (AList.lookup_erase_ne hkey).symm.trans h⟩

theorem lookup_erase_none (h : σ.sessions.lookup key' = none) :
    (σ.sessions.erase key).lookup key' = none := by
  by_cases hkey : key' = key
  · subst hkey
    exact AList.lookup_erase _ _
  · exact (AList.lookup_erase_ne hkey).trans h

theorem Inv.takes (hinv : Inv σ) {rest : List String} {all : Bool} (hfree : key ∉ σ.locked)
    (hpresent : σ.sessions.lookup key = some s)
    (hcall : σ.call c = some (.release key rest all)) :
    Inv { σ.setCall c (some (.closing key s rest all)) with
      sessions := σ.sessions.erase key
      locked := key :: σ.locked } := by
  obtain ⟨hmem, hopen⟩ := hinv.pooled key s hpresent
  constructor
  case size =>
    refine Nat.le_trans ?_ hinv.size
    rw [AList.keys_erase]
    exact List.length_erase_le
  case pooled =>
    intro key' s' hl
    exact hinv.pooled key' s' (lookup_of_erase hl).2
  case accounted =>
    intro key' s' hs
    have hother : ∀ key s rest all, σ.call c ≠ some (.closing key s rest all) := by
      simp [hcall]
    rcases hinv.accounted_setCall hother key' s' hs with hl | hgone
    · by_cases hkey : key' = key
      · subst hkey
        rw [hpresent] at hl
        cases hl
        exact .inr (.inr ⟨c, rest, all, by simp [State.setCall]⟩)
      · exact .inl ((AList.lookup_erase_ne hkey).trans hl)
    · exact .inr hgone
  case held =>
    intro c' x key' hx hk
    rcases call_update hx with ⟨-, hx⟩ | ⟨-, hx⟩
    · cases hx
      cases hk
      exact ⟨by simp, AList.lookup_erase _ _⟩
    · obtain ⟨hlocked, hnone⟩ := hinv.held c' x key' hx hk
      exact ⟨List.mem_cons_of_mem _ hlocked, lookup_erase_none hnone⟩
  case exclusive =>
    intro c₁ c₂ x₁ x₂ key' h₁ h₂ hk₁ hk₂
    rcases call_update h₁ with ⟨hc₁, h₁⟩ | ⟨-, h₁⟩
    · rcases call_update h₂ with ⟨hc₂, h₂⟩ | ⟨-, h₂⟩
      · exact hc₁.trans hc₂.symm
      · cases h₁
        cases hk₁
        exact absurd (hinv.held c₂ x₂ _ h₂ hk₂).1 hfree
    · rcases call_update h₂ with ⟨-, h₂⟩ | ⟨-, h₂⟩
      · cases h₂
        cases hk₂
        exact absurd (hinv.held c₁ x₁ _ h₁ hk₁).1 hfree
      · exact hinv.exclusive c₁ c₂ x₁ x₂ key' h₁ h₂ hk₁ hk₂
  case opening =>
    intro c' key' s' hx
    rcases call_update hx with ⟨-, hx⟩ | ⟨-, hx⟩
    · cases hx
    · exact hinv.opening c' key' s' hx
  case openedBy =>
    intro c₁ c₂ key₁ key₂ s' h₁ h₂
    rcases call_update h₁ with ⟨-, h₁⟩ | ⟨-, h₁⟩
    · cases h₁
    · rcases call_update h₂ with ⟨-, h₂⟩ | ⟨-, h₂⟩
      · cases h₂
      · exact hinv.openedBy c₁ c₂ key₁ key₂ s' h₁ h₂
  case closing =>
    intro c' key' s' rest' all' hx
    rcases call_update hx with ⟨-, hx⟩ | ⟨-, hx⟩
    · cases hx
      exact ⟨hmem, hopen⟩
    · exact hinv.closing c' key' s' rest' all' hx
  case made => exact hinv.made
  case oneKey => exact hinv.oneKey
  case wasOpened => exact hinv.wasOpened
  case pending =>
    intro c' x keys hx hk
    rcases call_update hx with ⟨-, hx⟩ | ⟨-, hx⟩
    · -- the key that was taken is the only one the call no longer has to release
      cases hx
      have hall : all = true ∧ keys = rest := by
        cases all <;> simp_all [Call.pending]
      obtain ⟨rfl, rfl⟩ := hall
      intro key' s' hl
      obtain ⟨hkey, hl⟩ := lookup_of_erase hl
      rcases List.mem_cons.1 (hinv.pending c _ _ hcall rfl key' s' hl) with heq | hin
      · exact absurd heq hkey
      · exact hin
    · intro key' s' hl
      exact hinv.pending c' x keys hx hk key' s' (lookup_of_erase hl).2

theorem Inv.closes (hinv : Inv σ) {rest : List String} {all : Bool}
    (hcall : σ.call c = some (.closing key s rest all)) :
    Inv { σ.setCall c (nextRelease all rest) with
      closed := s :: σ.closed
      locked := σ.locked.erase key } := by
  obtain ⟨hmem, hopen⟩ := hinv.closing c key s rest all hcall
  have habsent := (hinv.held c _ key hcall rfl).2
  constructor
  case size => exact hinv.size
  case pooled =>
    intro key' s' hl
    obtain ⟨hmem', hopen'⟩ := hinv.pooled key' s' hl
    refine ⟨hmem', ?_⟩
    intro hcl
    rcases List.mem_cons.1 hcl with rfl | hcl
    · rw [hinv.oneKey key' key _ hmem' hmem] at hl
      exact absurd (hl.symm.trans habsent) (by simp)
    · exact hopen' hcl
  case accounted =>
    intro key' s' hs
    rcases hinv.accounted key' s' hs with hl | hcl | ⟨c', rest', all', hc'⟩
    · exact .inl hl
    · exact .inr (.inl (List.mem_cons_of_mem _ hcl))
    · by_cases hne : c' = c
      · subst hne
        rw [hcall] at hc'
        cases hc'
        exact .inr (.inl (List.mem_cons_self))
      · refine .inr (.inr ⟨c', rest', all', ?_⟩)
        simpa [State.setCall, hne] using hc'
  case held =>
    intro c' x key' hx hk
    rcases call_update hx with ⟨-, hx⟩ | ⟨hne, hx⟩
    · simp [holds_nextRelease hx] at hk
    · exact ⟨(hinv.held_erase hcall rfl hne hx hk).2, (hinv.held c' x key' hx hk).2⟩
  case exclusive =>
    intro c₁ c₂ x₁ x₂ key' h₁ h₂ hk₁ hk₂
    rcases call_update h₁ with ⟨-, h₁⟩ | ⟨-, h₁⟩
    · simp [holds_nextRelease h₁] at hk₁
    · rcases call_update h₂ with ⟨-, h₂⟩ | ⟨-, h₂⟩
      · simp [holds_nextRelease h₂] at hk₂
      · exact hinv.exclusive c₁ c₂ x₁ x₂ key' h₁ h₂ hk₁ hk₂
  case opening =>
    intro c' key' s' hx
    rcases call_update hx with ⟨-, hx⟩ | ⟨-, hx⟩
    · cases holds_nextRelease hx
    · exact hinv.opening c' key' s' hx
  case openedBy =>
    intro c₁ c₂ key₁ key₂ s' h₁ h₂
    rcases call_update h₁ with ⟨-, h₁⟩ | ⟨-, h₁⟩
    · cases holds_nextRelease h₁
    · rcases call_update h₂ with ⟨-, h₂⟩ | ⟨-, h₂⟩
      · cases holds_nextRelease h₂
      · exact hinv.openedBy c₁ c₂ key₁ key₂ s' h₁ h₂
  case closing =>
    intro c' key' s' rest' all' hx
    rcases call_update hx with ⟨-, hx⟩ | ⟨hne, hx⟩
    · cases holds_nextRelease hx
    · obtain ⟨hmem', hopen'⟩ := hinv.closing c' key' s' rest' all' hx
      refine ⟨hmem', ?_⟩
      intro hcl
      rcases List.mem_cons.1 hcl with heq | hcl
      · rw [heq] at hmem'
        rw [hinv.oneKey key' key s hmem' hmem] at hx
        exact hne (hinv.exclusive c' c _ _ key hx hcall rfl rfl)
      · exact hopen' hcl
  case made => exact hinv.made
  case oneKey => exact hinv.oneKey
  case wasOpened =>
    intro s' hcl
    rcases List.mem_cons.1 hcl with rfl | hcl
    · exact ⟨key, hmem⟩
    · exact hinv.wasOpened s' hcl
  case pending =>
    intro c' x keys hx hk
    rcases call_update hx with ⟨-, hx⟩ | ⟨-, hx⟩
    · obtain ⟨rfl, rfl⟩ := pending_nextRelease hx hk
      exact hinv.pending c _ _ hcall rfl
    · exact hinv.pending c' x keys hx hk

theorem Moved.inv (hinv : Inv σ) (h : Moved σ c σ') : Inv σ' := by
  cases h with
  | goesOn call hfree hcall hpending => exact hinv.goesOn hfree hcall hpending
  | begins key hfree habsent hcall => exact hinv.begins hfree habsent hcall
  | opens key s hcall hroom hahead => exact hinv.opens hcall hroom hahead
  | fails key s hcall => exact hinv.fails hcall
  | takes key s rest all hfree hpresent hcall => exact hinv.takes hfree hpresent hcall
  | closes key s rest all hcall => exact hinv.closes hcall

/-- The invariant holds in every state that guarded steps reach. -/
theorem inv_of_reachable {maxSize : Nat} (h : Reachable Guarded maxSize σ) : Inv σ := by
  induction h with
  | initial => exact inv_initial maxSize
  | step _ hguard hstep ih =>
    obtain ⟨c, hmoved⟩ := moved_of_step ih hguard hstep
    exact hmoved.inv ih

/-! ## Runs -/

/-- When `close_all` ends, the pool is empty: what it listed is released, and the rest came while
it still had their keys ahead. -/
theorem within_nil_of_ends (hinv : Inv σ) {a : Action} (h : step σ a = some σ')
    (hends : Ends σ σ' a) : σ'.Within [] := by
  cases a with
  | closeAll c =>
    simp only [step] at h
    split at h
    · cases h
    · cases h
      have hnone : nextRelease true σ.sessions.keys.reverse = none := by
        simpa [Ends, State.setCall] using hends
      have hall := within_keys σ
      cases hkeys : σ.sessions.keys.reverse with
      | nil =>
        rw [hkeys] at hall
        exact hall
      | cons key rest => simp [hkeys, nextRelease] at hnone
  | acquire c =>
    obtain ⟨⟨call, keys, hcall, hkeys⟩, hend⟩ := hends
    simp only [step, hcall] at h
    cases call with
    | get key => cases hkeys
    | opening key s => cases hkeys
    | closing key s rest all => cases h
    | release key rest all =>
      have hwithin := hinv.pending c _ keys hcall hkeys
      cases all with
      | false => cases hkeys
      | true =>
        cases hkeys
        simp only at h
        split at h
        · cases h
        · cases h
          cases hl : σ.sessions.lookup key with
          | none =>
            simp only [State.enterRelease, hl] at hend ⊢
            cases rest with
            | nil => exact hwithin.tail hl
            | cons key' rest => simp [State.setCall, nextRelease] at hend
          | some s => simp [State.enterRelease, State.setCall, hl] at hend
  | closeReturns c =>
    obtain ⟨⟨call, keys, hcall, hkeys⟩, hend⟩ := hends
    simp only [step, hcall] at h
    cases call with
    | get key => cases h
    | opening key s => cases h
    | release key rest all => cases h
    | closing key s rest all =>
      have hwithin := hinv.pending c _ keys hcall hkeys
      cases h
      cases all with
      | false => cases hkeys
      | true =>
        cases hkeys
        cases keys with
        | nil => exact hwithin
        | cons key' rest => simp [State.setCall, nextRelease] at hend
  | getOrCreate c key => cases hends
  | release c key => cases hends
  | openReturns c => cases hends
  | openFails c => cases hends

/-- With an empty pool and no call in progress, every session that was opened is closed. -/
theorem Inv.allClosed (hinv : Inv σ) (hempty : σ.Within []) (hidle : ∀ c, σ.call c = none) :
    AllClosed σ := by
  intro key s hs
  rcases hinv.accounted key s hs with hl | hcl | ⟨c, rest, all, hc⟩
  · exact absurd (hempty key s hl) (by simp)
  · exact hcl
  · simp [hidle c] at hc

/-- In every run whose creations end while the pool has room and no `close_all` has passed their
key, the pool keeps to its size and loses no session, and a `close_all` that ends with no other call
in progress leaves none open. -/
theorem pool_kept {maxSize : Nat} {σ : State} (h : Reachable Guarded maxSize σ) :
    Kept σ ∧ ∀ a σ', step σ a = some σ' → Ends σ σ' a → (∀ c, σ'.call c = none) →
      AllClosed σ' := by
  have hinv := inv_of_reachable h
  refine ⟨hinv.kept, fun a σ' hstep hends hidle => ?_⟩
  have hguard : Guarded σ a := by
    cases a with
    | openReturns c => cases hends
    | _ => trivial
  obtain ⟨c, hmoved⟩ := moved_of_step hinv hguard hstep
  exact (hmoved.inv hinv).allClosed (within_nil_of_ends hinv hstep hends) hidle

/-! ## Example runs -/

/-- The state after some actions. -/
def exec (σ : State) : List Action → Option State
  | [] => some σ
  | a :: rest => (step σ a).bind fun σ' => exec σ' rest

theorem reachable_of_exec {cond : State → Action → Prop} {maxSize : Nat} (actions : List Action)
    (h : Reachable cond maxSize σ) (hcond : ∀ σ a, a ∈ actions → cond σ a)
    (hexec : exec σ actions = some σ') : Reachable cond maxSize σ' := by
  induction actions generalizing σ with
  | nil =>
    cases hexec
    exact h
  | cons a rest ih =>
    obtain ⟨σ₁, hstep, hrest⟩ := Option.bind_eq_some_iff.1 hexec
    have h₁ := h.step (hcond σ a List.mem_cons_self) hstep
    exact ih h₁ (fun σ b hb => hcond σ b (List.mem_cons_of_mem _ hb)) hrest

/-- `get_or_create` for one key has its lock and waits for `open`. -/
def begun (c : Nat) (key : String) : List Action := [.getOrCreate c key, .acquire c]

/-- A pool for one session whose first call waits for `open`. -/
def waiting : State :=
  { maxSize := 1
    locked := ["ssh:r1"]
    made := 1
    call := Function.update (fun _ => none) 0 (some (.opening "ssh:r1" 0)) }

theorem waiting_guarded : Guarded waiting (.openReturns 0) := by
  intro key session hcall
  refine ⟨by decide, fun c' call keys hc' hkeys => ?_⟩
  simp only [waiting] at hc'
  rcases call_update hc' with ⟨-, hc'⟩ | ⟨-, hc'⟩
  · cases hc'
    cases hkeys
  · cases hc'

theorem waiting_reachable : Reachable Guarded 1 waiting := by
  have hrun : exec { maxSize := 1 } (begun 0 "ssh:r1") = some waiting := by
    simp [begun, exec, step, State.setCall, State.enterGet, waiting, Function.update_idem]
  exact reachable_of_exec (begun 0 "ssh:r1") .initial (by simp [begun, Guarded]) hrun

/-- The session opens, and `close_all` runs to its end. -/
theorem pool_kept_single : ∃ σ σ',
    exec waiting [.openReturns 0, .closeAll 1, .acquire 1] = some σ ∧
    step σ (.closeReturns 1) = some σ' ∧ σ'.opened = [("ssh:r1", 0)] ∧ Kept σ ∧
      AllClosed σ' := by
  have hopen := waiting_reachable.step waiting_guarded rfl
  have hlast := reachable_of_exec [.closeAll 1, .acquire 1] hopen (by simp [Guarded]) rfl
  obtain ⟨hkept, hends⟩ := pool_kept hlast
  refine ⟨_, _, rfl, rfl, rfl, hkept, hends (.closeReturns 1) _ rfl ?_ ?_⟩
  · exact ⟨⟨_, [], rfl, rfl⟩, rfl⟩
  · intro c
    match c with
    | 0 => rfl
    | 1 => rfl
    | c + 2 => rfl

/-- Two creations pass the size check of a pool for one session before either of them ends. And a
session that was opening when `close_all` listed the keys is open after it. -/
theorem pool_overfills :
    (∃ σ, Reachable (fun _ _ => True) 1 σ ∧ ¬ Kept σ) ∧
    ∃ σ σ', Reachable (fun _ _ => True) 2 σ ∧ step σ (.closeReturns 2) = some σ' ∧
      Ends σ σ' (.closeReturns 2) ∧ (∀ c, σ'.call c = none) ∧ ¬ AllClosed σ' := by
  constructor
  · refine ⟨_, reachable_of_exec (begun 0 "ssh:r1" ++ begun 1 "ssh:r2" ++
      [.openReturns 0, .openReturns 1]) .initial (fun _ _ _ => trivial) rfl, fun hkept => ?_⟩
    exact absurd hkept.size (by decide)
  · refine ⟨_, _, reachable_of_exec (begun 0 "ssh:r1" ++ [.openReturns 0] ++
      begun 1 "ssh:r2" ++ [.closeAll 2, .openReturns 1, .acquire 2]) .initial
      (fun _ _ _ => trivial) rfl, rfl, ?_, ?_, ?_⟩
    · exact ⟨⟨_, [], rfl, rfl⟩, rfl⟩
    · intro c
      match c with
      | 0 => rfl
      | 1 => rfl
      | 2 => rfl
      | c + 3 => rfl
    · intro hall
      exact absurd (hall "ssh:r2" 1 (by decide)) (by decide)

end Pool
end Transports
end NetOps
