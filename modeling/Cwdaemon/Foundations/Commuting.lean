import Mathlib.Data.List.Basic

/-! # Items that act on different parts of a state

Items are applied to a state one after another, and one that is refused ends it all.  Each
item is of a kind, and items of different kinds can be applied in either order.  Then what
a list of items does is decided by the items of each kind in their order.  An item whose
trace is gone after a later one can be left out.
-/

namespace Commuting

variable {Item Kind State : Type}

section

variable (apply : State → Item → Option State) (kind : Item → Kind)

/-- Two items can be applied in either order. -/
def Commute (first second : Item) : Prop :=
  ∀ state, (apply state first).bind (apply · second) = (apply state second).bind (apply · first)

/-- Items of different kinds can be applied in either order. -/
def ByKind : Prop := ∀ first second, kind first ≠ kind second → Commute apply first second

/-- The item preserves the relation, and what is accepted on its left is accepted on its
right. -/
def Preserves (relation : State → State → Prop) (item : Item) : Prop :=
  ∀ {state state' after}, relation state state' → apply state item = some after →
    ∃ after', apply state' item = some after' ∧ relation after after'

/-- The item makes related states equal. -/
def Equates (relation : State → State → Prop) (item : Item) : Prop :=
  ∀ {state state' after}, relation state state' → apply state item = some after → apply state' item = some after

/-- The items of one kind, in their order. -/
def ofKind [DecidableEq Kind] (sort : Kind) (items : List Item) : List Item := items.filter (kind · = sort)

end

theorem Commute.symm {apply : State → Item → Option State} {first second : Item}
    (commute : Commute apply first second) : Commute apply second first := fun state => (commute state).symm

/-! ## The items of one kind -/

section

variable {kind : Item → Kind} [DecidableEq Kind]

theorem ofKind_cons_self (item : Item) (items : List Item) :
    ofKind kind (kind item) (item :: items) = item :: ofKind kind (kind item) items :=
  List.filter_cons_of_pos (decide_eq_true rfl)

theorem ofKind_cons_ne {item : Item} {sort : Kind} (other : kind item ≠ sort) (items : List Item) :
    ofKind kind sort (item :: items) = ofKind kind sort items :=
  List.filter_cons_of_neg (by simpa using other)

theorem ofKind_append (sort : Kind) (items items' : List Item) :
    ofKind kind sort (items ++ items') = ofKind kind sort items ++ ofKind kind sort items' :=
  List.filter_append ..

theorem ofKind_eq_nil_iff {sort : Kind} {items : List Item} :
    ofKind kind sort items = [] ↔ ∀ item ∈ items, kind item ≠ sort := by
  simp [ofKind]

theorem eq_nil_of_ofKind {items : List Item} (empty : ∀ sort, ofKind kind sort items = []) : items = [] :=
  List.eq_nil_iff_forall_not_mem.mpr fun item member => ofKind_eq_nil_iff.mp (empty (kind item)) item member rfl

/-- The first item of a kind stands behind items of other kinds. -/
theorem split_of_ofKind {item : Item} {items rest : List Item}
    (found : ofKind kind (kind item) items = item :: rest) :
    ∃ before after, items = before ++ item :: after ∧ ∀ other ∈ before, kind other ≠ kind item := by
  obtain ⟨before, after, rfl, others, -, -⟩ := List.filter_eq_cons_iff.mp found
  exact ⟨before, after, rfl, fun other member => by simpa using others other member⟩

/-- What is left when such an item is taken away from both lists. -/
theorem ofKind_remaining {item : Item} {left before after : List Item}
    (others : ∀ other ∈ before, kind other ≠ kind item)
    (same : ∀ sort, ofKind kind sort (item :: left) = ofKind kind sort (before ++ item :: after)) (sort : Kind) :
    ofKind kind sort left = ofKind kind sort (before ++ after) := by
  have here := same sort
  rw [ofKind_append] at here ⊢
  -- Of the kind of the item both lists lose it, and of any other kind neither does.
  by_cases its : kind item = sort
  · subst its
    rw [ofKind_eq_nil_iff.mpr others, List.nil_append, ofKind_cons_self, ofKind_cons_self] at here
    rw [ofKind_eq_nil_iff.mpr others, List.nil_append, (List.cons.inj here).2]
  · rwa [ofKind_cons_ne its, ofKind_cons_ne its] at here

end

/-! ## Applying a list of items -/

variable {apply : State → Item → Option State} {kind : Item → Kind}

theorem foldlM_cons {item : Item} {items : List Item} {state : State} :
    (item :: items).foldlM apply state = (apply state item).bind (items.foldlM apply ·) := rfl

/-- Why an item is refused does not matter here. -/
theorem toOption_foldlM {Error : Type} (apply : State → Item → Except Error State) (items : List Item) (state : State) :
    (items.foldlM apply state).toOption = items.foldlM (fun state item => (apply state item).toOption) state := by
  induction items generalizing state with
  | nil => rfl
  | cons item items inductionHypothesis =>
    rw [foldlM_cons, List.foldlM_cons]
    cases apply state item with
    | error => rfl
    | ok after => exact inductionHypothesis after

theorem exists_of_foldlM_error {Error : Type} {apply : State → Item → Except Error State} {items : List Item}
    {state : State} {error : Error} (refused : items.foldlM apply state = .error error) :
    ∃ item ∈ items, ∃ state, apply state item = .error error := by
  induction items generalizing state with
  | nil => cases refused
  | cons item items inductionHypothesis =>
    rw [List.foldlM_cons] at refused
    cases applied : apply state item with
    | error first =>
      rw [applied] at refused
      cases refused
      exact ⟨item, List.mem_cons_self, state, applied⟩
    | ok after =>
      rw [applied] at refused
      obtain ⟨other, member, found⟩ := inductionHypothesis refused
      exact ⟨other, List.mem_cons_of_mem _ member, found⟩

/-- Where a list of items is accepted, each of them is. -/
theorem accepted_of_mem {item : Item} {items : List Item} (member : item ∈ items) {state final : State}
    (accepted : items.foldlM apply state = some final) : ∃ state after, apply state item = some after := by
  induction items generalizing state with
  | nil => cases member
  | cons first items inductionHypothesis =>
    rw [foldlM_cons, Option.bind_eq_some_iff] at accepted
    obtain ⟨next, here, rest⟩ := accepted
    rcases List.mem_cons.mp member with rfl | member
    · exact ⟨state, next, here⟩
    · exact inductionHypothesis member rest

/-- An item can be applied before all those of other kinds in front of it. -/
theorem ByKind.foldlM_middle (byKind : ByKind apply kind) {item : Item} {before : List Item}
    (others : ∀ other ∈ before, kind other ≠ kind item) (after : List Item) (state : State) :
    (before ++ item :: after).foldlM apply state = (item :: (before ++ after)).foldlM apply state := by
  induction before generalizing state with
  | nil => rfl
  | cons other before inductionHypothesis =>
    obtain ⟨here, rest⟩ := List.forall_mem_cons.mp others
    calc ((other :: before) ++ item :: after).foldlM apply state
        = (apply state other).bind fun state => (item :: (before ++ after)).foldlM apply state := by
          rw [List.cons_append, foldlM_cons]
          exact congrArg _ (funext (inductionHypothesis rest))
      _ = ((apply state other).bind (apply · item)).bind ((before ++ after).foldlM apply ·) := by
          rw [Option.bind_assoc]
          rfl
      _ = (item :: ((other :: before) ++ after)).foldlM apply state := by
          rw [byKind other item here, Option.bind_assoc, foldlM_cons]
          rfl

/-- Lists of items do the same if they have the same items of each kind in the same order. -/
theorem ByKind.foldlM_eq [DecidableEq Kind] (byKind : ByKind apply kind) {left right : List Item}
    (same : ∀ sort, ofKind kind sort left = ofKind kind sort right) (state : State) :
    left.foldlM apply state = right.foldlM apply state := by
  induction left generalizing right state with
  | nil => rw [eq_nil_of_ofKind fun sort => (same sort).symm]
  | cons item left inductionHypothesis =>
    have found : ofKind kind (kind item) right = item :: ofKind kind (kind item) left := by
      rw [← same, ofKind_cons_self]
    obtain ⟨before, after, rfl, others⟩ := split_of_ofKind found
    rw [byKind.foldlM_middle others, foldlM_cons, foldlM_cons]
    exact congrArg _ (funext (inductionHypothesis (ofKind_remaining others same)))

/-! ## Leaving an item out -/

theorem foldlM_preserves {relation : State → State → Prop} {items : List Item}
    (preserves : ∀ item ∈ items, Preserves apply relation item) {state state' after : State}
    (related : relation state state') (applied : items.foldlM apply state = some after) :
    ∃ after', items.foldlM apply state' = some after' ∧ relation after after' := by
  induction items generalizing state state' with
  | nil =>
    cases applied
    exact ⟨state', rfl, related⟩
  | cons item items inductionHypothesis =>
    obtain ⟨here, rest⟩ := List.forall_mem_cons.mp preserves
    rw [foldlM_cons, Option.bind_eq_some_iff] at applied
    obtain ⟨next, first, applied⟩ := applied
    obtain ⟨next', first', related'⟩ := here related first
    rw [foldlM_cons, first']
    exact inductionHypothesis rest related' applied

/-- An accepted item can be left out when a later one makes up for it. -/
theorem foldlM_superseded {relation : State → State → Prop} {before between after : List Item} {item later : Item}
    (leaves : ∀ {state after}, apply state item = some after → relation after state)
    (preserves : ∀ other ∈ between, Preserves apply relation other) (equates : Equates apply relation later)
    {state final : State}
    (accepted : (before ++ item :: (between ++ later :: after)).foldlM apply state = some final) :
    (before ++ (between ++ later :: after)).foldlM apply state = some final := by
  simp only [List.foldlM_append, List.foldlM_cons, Option.bind_eq_bind, Option.bind_eq_some_iff] at accepted ⊢
  obtain ⟨start, prepared, next, left, middle, reached, last, stored, rest⟩ := accepted
  obtain ⟨middle', reached', related⟩ := foldlM_preserves preserves (leaves left) reached
  exact ⟨start, prepared, middle', reached', last, equates related stored, rest⟩

end Commuting
