import Mathlib

/-! Fallible computations: checks, required values and renamed failures as small
functions into `Except`, with the lemmas that take a finished computation apart. -/
namespace ContextRelay.Library

variable {ε ε' α β σ ν : Type}

/-- Fail unless the condition holds. -/
def require (condition : Prop) [Decidable condition] (failure : ε) : Except ε Unit :=
  if condition then .ok () else .error failure

/-- Fail when the value is absent. -/
def present (value : Option α) (failure : ε) : Except ε α :=
  match value with
  | some found => .ok found
  | none => .error failure

/-- Replace whatever failure occurred. -/
def orFail (result : Except ε α) (failure : ε') : Except ε' α :=
  match result with
  | .ok value => .ok value
  | .error _ => .error failure

/-- Translate the failure that occurred. -/
def renameFailure (result : Except ε α) (rename : ε → ε') : Except ε' α :=
  match result with
  | .ok value => .ok value
  | .error failure => .error (rename failure)

/-- Did the computation succeed? -/
def succeeded (result : Except ε α) : Bool :=
  match result with
  | .ok _ => true
  | .error _ => false

/-- Run a computation on every item in order, stopping at the first failure. -/
def collect (step : α → Except ε β) : List α → Except ε (List β)
  | [] => .ok []
  | item :: rest => do
    let value ← step item
    let values ← collect step rest
    pure (value :: values)

/-- Thread a state through the items in order, stopping at the first failure. -/
def thread (step : σ → α → Except ε σ) : σ → List α → Except ε σ
  | state, [] => .ok state
  | state, item :: rest => do
    let next ← step state item
    thread step next rest

section

variable {result : Except ε α} {final state : σ} {failure : ε} {items : List α}
  {visit : ν → σ → α → Except ε ν}

attribute [local simp] present orFail renameFailure collect thread

theorem bind_eq_ok {next : α → Except ε β} {final : β} :
    (result >>= next) = .ok final ↔ ∃ value, result = .ok value ∧ next value = .ok final := by
  cases result with
  | error failure => simp [bind, Except.bind]
  | ok value => simp [bind, Except.bind]

theorem bind_eq_error :
    (result >>= next) = .error failure ↔
      result = .error failure ∨ ∃ value, result = .ok value ∧ next value = .error failure := by
  cases result with
  | error other => simp [bind, Except.bind]
  | ok value => simp [bind, Except.bind]

theorem exists_unit {holds : Unit → Prop} : (∃ done, holds done) ↔ holds () :=
  ⟨fun ⟨_, proof⟩ => proof, fun proof => ⟨(), proof⟩⟩

@[simp] theorem ok_bind (value : α) (next : α → Except ε β) :
    ((Except.ok value : Except ε α) >>= next) = next value := rfl

@[simp] theorem pure_eq_ok (value : α) : (pure value : Except ε α) = .ok value := rfl

@[simp] theorem require_eq_ok {condition : Prop} [Decidable condition] {done : Unit} :
    require condition failure = .ok done ↔ condition := by
  unfold require
  split <;> simp [*]

theorem require_eq_error {condition : Prop} [Decidable condition] :
    require condition failure = .error other ↔ ¬ condition ∧ failure = other := by
  unfold require
  split <;> simp [*]

theorem require_pos {condition : Prop} [Decidable condition] (holds : condition) (failure : ε) :
    require condition failure = .ok () := if_pos holds

theorem exists_of_isOk (succeeded : result.isOk = true) :
    ∃ value, result = .ok value := by
  cases result with
  | ok value => exact ⟨value, rfl⟩
  | error failure => exact absurd succeeded Bool.false_ne_true

theorem require_true (failure : ε) : require True failure = .ok () := rfl

theorem present_some (value : α) (failure : ε) : present (some value) failure = .ok value := rfl

@[simp] theorem present_eq_ok {value : Option α} :
    present value failure = .ok found ↔ value = some found := by
  cases value <;> simp

theorem present_eq_error :
    present value failure = .error other ↔ value = none ∧ failure = other := by
  cases value <;> simp

theorem present_bind (value : Option α) (next : α → Option β) :
    present (value >>= next) failure =
      (present value failure >>= fun found => present (next found) failure) := by
  cases value <;> rfl

theorem present_map (value : Option α) (change : α → β) :
    present (value.map change) failure =
      (present value failure >>= fun found => pure (change found)) := by
  cases value <;> rfl

theorem present_guard {condition : Prop} [Decidable condition] :
    present (guard condition : Option Unit) failure = require condition failure := by
  by_cases holds : condition <;> simp [guard, require, present, holds]

@[simp] theorem orFail_eq_ok {failure : ε'} :
    orFail result failure = .ok value ↔ result = .ok value := by
  cases result <;> simp

@[simp] theorem renameFailure_eq_ok {rename : ε → ε'} :
    renameFailure result rename = .ok value ↔ result = .ok value := by
  cases result <;> simp

/-- What it takes for a composed computation to succeed. Given to `simp only`, the rules take a
finished computation apart into its steps. -/
theorem ok_iff :
    (∀ {ε α β : Type} {result : Except ε α} {next : α → Except ε β} {final : β},
      (result >>= next) = .ok final ↔ ∃ value, result = .ok value ∧ next value = .ok final) ∧
    (∀ {holds : Unit → Prop}, (∃ done, holds done) ↔ holds ()) ∧
    (∀ {ε α : Type} (value : α), (pure value : Except ε α) = .ok value) ∧
    (∀ {ε α : Type} {value other : α}, (.ok value : Except ε α) = .ok other ↔ value = other) ∧
    (∀ {ε : Type} {failure : ε} {condition : Prop} [Decidable condition] {done : Unit},
      require condition failure = .ok done ↔ condition) ∧
    (∀ {ε α : Type} {failure : ε} {value : Option α} {found : α},
      present value failure = .ok found ↔ value = some found) ∧
    (∀ {ε ε' α : Type} {result : Except ε α} {failure : ε'} {value : α},
      orFail result failure = .ok value ↔ result = .ok value) ∧
    ∀ {ε ε' α : Type} {result : Except ε α} {rename : ε → ε'} {value : α},
      renameFailure result rename = .ok value ↔ result = .ok value :=
  ⟨bind_eq_ok, exists_unit, pure_eq_ok, by simp, require_eq_ok, present_eq_ok, orFail_eq_ok,
    renameFailure_eq_ok⟩

theorem renameFailure_eq_error {failure : ε'} :
    renameFailure result rename = .error failure ↔
      ∃ inner, result = .error inner ∧ rename inner = failure := by
  cases result <;> simp

theorem forM_eq_ok {check : α → Except ε Unit} :
    items.forM check = .ok () ↔ ∀ item ∈ items, check item = .ok () := by
  induction items with
  | nil => simp [List.forM]
  | cons item items ih =>
    change (check item >>= fun _ => items.forM check) = .ok () ↔ _
    rw [bind_eq_ok, exists_unit, List.forall_mem_cons, ih]

theorem collect_eq_ok :
    collect step items = .ok values ↔
      List.Forall₂ (fun item value => step item = .ok value) items values := by
  induction items generalizing values with
  | nil =>
    cases values <;> simp
  | cons item rest ih =>
    simp only [collect, bind_eq_ok, pure_eq_ok, Except.ok.injEq]
    constructor
    · rintro ⟨value, stepped, tail, collected, rfl⟩
      exact .cons stepped (ih.mp collected)
    · intro related
      cases related with
      | cons stepped tail => exact ⟨_, stepped, _, ih.mpr tail, rfl⟩

theorem forall₂_mem_right {related : α → β → Prop} (pairs : List.Forall₂ related left right)
    (member : b ∈ right) : ∃ a ∈ left, related a b := by
  induction pairs with
  | nil => cases member
  | cons first _ ih =>
    rcases List.mem_cons.mp member with rfl | later
    · exact ⟨_, by simp, first⟩
    · obtain ⟨a, aMember, holds⟩ := ih later
      exact ⟨a, by simp [aMember], holds⟩

/-- Every collected value was made from an item. -/
theorem collect_mem (collected : collect step items = .ok values) (member : value ∈ values) :
    ∃ item ∈ items, step item = .ok value := by
  have made := forall₂_mem_right (collect_eq_ok.mp collected) member
  exact made

/-- Every item of a collection went through. -/
theorem collect_item (collected : collect step items = .ok values) (member : item ∈ items) :
    ∃ value ∈ values, step item = .ok value := by
  have made := forall₂_mem_right (collect_eq_ok.mp collected).flip member
  exact made

theorem collect_of_forall {step : α → Except ε β}
    (all : ∀ item ∈ items, ∃ value, step item = .ok value) :
    ∃ values, collect step items = .ok values := by
  induction items with
  | nil => exact ⟨[], rfl⟩
  | cons item items ih =>
    obtain ⟨value, stepped⟩ := all item (by simp)
    obtain ⟨values, collected⟩ := ih fun later member => all later (by simp [member])
    exact ⟨value :: values, collect_eq_ok.mpr (.cons stepped (collect_eq_ok.mp collected))⟩

/-- A collection that succeeds item by item, with the results a function names. -/
theorem collect_ok_map {step : α → Except ε β} {result : α → β}
    (stepped : ∀ item ∈ items, step item = .ok (result item)) :
    collect step items = .ok (items.map result) := by
  rw [collect_eq_ok, List.forall₂_map_right_iff, List.forall₂_same]
  exact stepped

theorem collect_congr (agree : ∀ item ∈ items, step item = other item) : collect step items = collect other items := by
  induction items with
  | nil => rfl
  | cons item rest ih =>
    simp only [collect, agree item (by simp), ih (fun later member => agree later (by simp [member]))]

/-- A collection over chosen items depends only on what the choice leads to. -/
theorem collect_filterMap_congr {step : α → Except ε β} {items : List γ}
    (agree : ∀ item ∈ items, (choose item).map step = (chooseOther item).map step) :
    collect step (items.filterMap choose) = collect step (items.filterMap chooseOther) := by
  induction items with
  | nil => rfl
  | cons item rest ih =>
    have tail := ih (fun later member => agree later (by simp [member]))
    have first := agree item (by simp)
    rw [List.filterMap_cons, List.filterMap_cons]
    cases left : choose item with
    | none =>
      cases right : chooseOther item with
      | none => exact tail
      | some other => simp [left, right] at first
    | some chosen =>
      cases right : chooseOther item with
      | none => simp [left, right] at first
      | some other =>
        have stepped : step chosen = step other := by simpa [left, right] using first
        simp only [collect, stepped, tail]

/-- What every step on an item keeps, the whole run keeps. -/
theorem thread_invariant {step : σ → α → Except ε σ} (holds : σ → Prop)
    (kept : ∀ state item next, item ∈ items → holds state → step state item = .ok next → holds next)
    (start : holds state) (ran : thread step state items = .ok final) :
    holds final := by
  induction items generalizing state with
  | nil =>
    have same : state = final := by simpa [thread] using ran
    exact same ▸ start
  | cons item rest ih =>
    simp only [thread, bind_eq_ok] at ran
    obtain ⟨next, stepped, finished⟩ := ran
    refine ih ?_ (kept state item next (by simp) start stepped) finished
    intro state item next member
    exact kept state item next (by simp [member])

theorem thread_append (step : σ → α → Except ε σ) (state : σ) (front back : List α) :
    thread step state (front ++ back) =
      (thread step state front >>= fun middle => thread step middle back) := by
  induction front generalizing state with
  | nil => rfl
  | cons item rest ih =>
    simp only [List.cons_append, thread]
    cases step state item with
    | error failure => rfl
    | ok next => exact ih next

theorem thread_concat_eq_ok :
    thread step state (front ++ [item]) = .ok final ↔
      ∃ middle, thread step state front = .ok middle ∧ step middle item = .ok final := by
  rw [thread_append, bind_eq_ok]
  simp only [thread, bind_eq_ok, Except.ok.injEq, exists_eq_right]

/-- Every item of a finished run was taken by a step. -/
theorem thread_steps (ran : thread step state items = .ok final) (member : item ∈ items) :
    ∃ before after, step before item = .ok after := by
  induction items generalizing state with
  | nil => cases member
  | cons first rest ih =>
    simp only [thread, bind_eq_ok] at ran
    obtain ⟨next, stepped, finished⟩ := ran
    rcases List.mem_cons.mp member with rfl | later
    · exact ⟨state, next, stepped⟩
    · exact ih finished later

/-- A run that fails does so at an item. -/
theorem thread_fails {step : σ → α → Except ε σ} (failed : thread step state items = .error failure) :
    ∃ before, ∃ item ∈ items, step before item = .error failure := by
  induction items generalizing state with
  | nil => cases failed
  | cons first rest ih =>
    rcases bind_eq_error.mp failed with refused | ⟨next, _, failed⟩
    · exact ⟨state, first, by simp, refused⟩
    · obtain ⟨before, item, member, refused⟩ := ih failed
      exact ⟨before, item, by simp [member], refused⟩

/-- Where a digest of the state determines the last item and the digest before it, and no item
leads back to the first digest, it determines the whole run. -/
theorem thread_determined {step : σ → α → Except ε σ} (digest : σ → δ) {covered : α → Prop}
    (binds : ∀ state item next other otherItem otherNext, covered item → covered otherItem → step state item = .ok next → step other otherItem = .ok otherNext → digest next = digest otherNext → item = otherItem ∧ digest state = digest other)
    (never : ∀ state item next, covered item → step state item = .ok next → digest next ≠ digest start)
    {others : List α} {otherFinal : σ} (ran : thread step start items = .ok final)
    (otherRan : thread step start others = .ok otherFinal) (all : ∀ item ∈ items, covered item)
    (othersAll : ∀ item ∈ others, covered item) (same : digest final = digest otherFinal) :
    items = others := by
  induction items using List.reverseRecOn generalizing others final otherFinal with
  | nil =>
    rcases List.eq_nil_or_concat' others with rfl | ⟨front, item, rfl⟩
    · rfl
    · obtain ⟨middle, _, stepped⟩ := thread_concat_eq_ok.mp otherRan
      obtain rfl := Except.ok.inj ran
      exact absurd same.symm (never middle item _ (othersAll item (by simp)) stepped)
  | append_singleton front item ih =>
    obtain ⟨middle, before, stepped⟩ := thread_concat_eq_ok.mp ran
    rcases List.eq_nil_or_concat' others with rfl | ⟨otherFront, otherItem, rfl⟩
    · obtain rfl := Except.ok.inj otherRan
      exact absurd same (never middle item _ (all item (by simp)) stepped)
    · obtain ⟨otherMiddle, otherBefore, otherStepped⟩ := thread_concat_eq_ok.mp otherRan
      obtain ⟨rfl, earlier⟩ := binds middle item final otherMiddle otherItem otherFinal
        (all item (by simp)) (othersAll otherItem (by simp)) stepped otherStepped same
      rw [ih before otherBefore (fun item member => all item (by simp [member]))
        (fun item member => othersAll item (by simp [member])) earlier]

/-- An invariant that speaks of the items already taken holds of them all in the end. -/
theorem thread_invariant_done {step : σ → α → Except ε σ} (holds : List α → σ → Prop)
    (kept : ∀ done state item next, holds done state → step state item = .ok next →
      holds (done ++ [item]) next) (start : holds [] state)
    (ran : thread step state items = .ok final) : holds items final := by
  have from_done : ∀ (items done : List α) (state : σ), holds done state →
      thread step state items = .ok final → holds (done ++ items) final := by
    intro items
    induction items with
    | nil =>
      intro done state now finished
      have same : state = final := by simpa [thread] using finished
      simpa [same] using now
    | cons item rest ih =>
      intro done state now finished
      simp only [thread, bind_eq_ok] at finished
      obtain ⟨next, stepped, finished⟩ := finished
      have later := ih (done ++ [item]) next (kept done state item next now stepped) finished
      rwa [List.append_assoc, List.singleton_append] at later
  exact from_done items [] state start ran

/-- A step that also keeps notes about the states it reaches. -/
def noting (step : σ → α → Except ε σ) (visit : ν → σ → α → Except ε ν) (reached : σ × ν)
    (item : α) : Except ε (σ × ν) := do
  let next ← step reached.1 item
  let notes ← visit reached.2 next item
  pure (next, notes)

theorem noting_eq_ok :
    noting step visit reached item = .ok next ↔
      step reached.1 item = .ok next.1 ∧ visit reached.2 next.1 item = .ok next.2 := by
  simp only [noting, bind_eq_ok, pure_eq_ok, Except.ok.injEq]
  constructor
  · rintro ⟨state, stepped, notes, visited, rfl⟩
    exact ⟨stepped, visited⟩
  · rintro ⟨stepped, visited⟩
    exact ⟨next.1, stepped, next.2, visited, rfl⟩

/-- Taking notes does not change which states are reached. -/
theorem thread_noting {step : σ → α → Except ε σ} {reached final : σ × ν}
    (ran : thread (noting step visit) reached items = .ok final) :
    thread step reached.1 items = .ok final.1 := by
  induction items generalizing reached with
  | nil =>
    have same : reached = final := by simpa [thread] using ran
    rw [same, thread]
  | cons item rest ih =>
    simp only [thread, bind_eq_ok] at ran ⊢
    obtain ⟨next, noted, finished⟩ := ran
    exact ⟨next.1, (noting_eq_ok.mp noted).1, ih finished⟩

/-- A visitor that never fails can be taken along on any run. -/
theorem thread_noting_of_total
    (total : ∀ notes state item, ∃ noted, visit notes state item = .ok noted)
    (ran : thread step state items = .ok final) (notes : ν) :
    ∃ noted, thread (noting step visit) (state, notes) items = .ok (final, noted) := by
  induction items generalizing state notes with
  | nil =>
    have same : state = final := by simpa [thread] using ran
    exact ⟨notes, by rw [same, thread]⟩
  | cons item rest ih =>
    simp only [thread, bind_eq_ok] at ran ⊢
    obtain ⟨next, stepped, finished⟩ := ran
    obtain ⟨noted, visited⟩ := total notes next item
    obtain ⟨last, rested⟩ := ih finished noted
    exact ⟨last, _, noting_eq_ok.mpr ⟨stepped, visited⟩, rested⟩

end

end ContextRelay.Library
