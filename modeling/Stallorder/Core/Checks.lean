import Mathlib

/-!
# Sequences of checks

Validation code is a sequence of guards, each of which refuses the request
with its own error.  These lemmas invert such a sequence: when it succeeds,
every guard let the request through.
-/

namespace Stallorder.Checks

variable {Error Value Result : Type}

/-- Refuse with `error` when `condition` holds. -/
def failWhen (condition : Bool) (error : Error) : Except Error Unit :=
  if condition then .error error else .ok ()

/-- The value of an optional result, or `error` when there is none. -/
def orFail (value : Option Value) (error : Error) : Except Error Value :=
  match value with
  | some result => .ok result
  | none => .error error

@[simp]
theorem failWhen_eq_ok {condition : Bool} {error : Error} {done : Unit} :
    failWhen condition error = .ok done ↔ condition = false := by
  cases condition <;> simp [failWhen]

@[simp]
theorem failWhen_false {error : Error} : failWhen false error = .ok () := rfl

@[simp]
theorem failWhen_true {error : Error} : failWhen true error = .error error := rfl

@[simp]
theorem orFail_eq_ok {value : Option Value} {error : Error} {result : Value} :
    orFail value error = .ok result ↔ value = some result := by
  cases value <;> simp [orFail]

@[simp]
theorem orFail_eq_error {value : Option Value} {error raised : Error} :
    orFail value error = .error raised ↔ value = none ∧ error = raised := by
  cases value <;> simp [orFail]

@[simp]
theorem orFail_some {value : Value} {error : Error} :
    orFail (some value) error = .ok value := rfl

@[simp]
theorem bind_ok (value : Value) (next : Value → Except Error Result) :
    (Except.ok value >>= next) = next value := rfl

@[simp]
theorem bind_error (error : Error) (next : Value → Except Error Result) :
    ((Except.error error : Except Error Value) >>= next) = .error error := rfl

/-- A sequence succeeds exactly when its first part does and the rest succeeds
on the result. -/
theorem bind_eq_ok {first : Except Error Value} {next : Value → Except Error Result}
    {result : Result} :
    (first >>= next) = .ok result ↔ ∃ value, first = .ok value ∧ next value = .ok result := by
  cases first with
  | ok value => simp
  | error error => simp

/-- A sequence fails when its first part does or the rest fails on the result. -/
theorem bind_eq_error {first : Except Error Value} {next : Value → Except Error Result}
    {error : Error} :
    (first >>= next) = .error error ↔
      first = .error error ∨ ∃ value, first = .ok value ∧ next value = .error error := by
  cases first with
  | ok value => simp
  | error error => simp

theorem exists_of_map_eq_ok {change : Value → Result} {outcome : Except Error Value}
    {result : Result} (hmap : outcome.map change = .ok result) :
    ∃ value, outcome = .ok value ∧ change value = result := by
  cases outcome with
  | ok value => exact ⟨value, rfl, Except.ok.inj hmap⟩
  | error error => cases hmap

theorem eq_ok_of_isOk {outcome : Except Error Value} (hok : outcome.isOk = true)
    (default : Value) : outcome = .ok (outcome.toOption.getD default) := by
  cases outcome with
  | ok value => rfl
  | error error => cases hok

@[simp]
theorem mapError_eq_ok {Raised : Type} {outcome : Except Error Value} {raise : Error → Raised}
    {value : Value} : outcome.mapError raise = .ok value ↔ outcome = .ok value := by
  cases outcome <;> simp [Except.mapError]

/-- A list passes an optional check when each of its items does. -/
theorem isSome_mapM_iff {Item : Type} {check : Item → Option Value} {items : List Item} :
    (items.mapM check).isSome = true ↔ ∀ item ∈ items, (check item).isSome = true := by
  induction items with
  | nil => simp
  | cons item items ih =>
      rw [List.mapM_cons, List.forall_mem_cons, ← ih]
      cases check item with
      | none => simp
      | some value =>
          cases items.mapM check with
          | none => simp
          | some values => simp

theorem pure_eq_ok {value result : Value} :
    (pure value : Except Error Value) = .ok result ↔ value = result := by
  simp [pure, Except.pure]

theorem forM_eq_ok_iff {Item : Type} {check : Item → Except Error Unit} {items : List Item} :
    items.forM check = .ok () ↔ ∀ item ∈ items, check item = .ok () := by
  induction items with
  | nil => simp [pure, Except.pure]
  | cons item items ih =>
      rw [List.forall_mem_cons, ← ih]
      change (check item >>= fun _ => items.forM check) = .ok () ↔ _
      rw [bind_eq_ok]
      constructor
      · rintro ⟨⟨⟩, hitem, hitems⟩
        exact ⟨hitem, hitems⟩
      · rintro ⟨hitem, hitems⟩
        exact ⟨(), hitem, hitems⟩

/-- A list is mapped when each of its items is. -/
theorem mapM_eq_ok_iff {Item : Type} {check : Item → Except Error Value} {value : Item → Value}
    {items : List Item}
    (hvalue : ∀ item ∈ items, ∀ result, check item = .ok result → result = value item)
    {results : List Value} :
    items.mapM check = .ok results ↔
      (∀ item ∈ items, check item = .ok (value item)) ∧ results = items.map value := by
  induction items generalizing results with
  | nil => simp [pure, Except.pure, eq_comm]
  | cons item items ih =>
      rw [List.forall_mem_cons] at hvalue
      have hrestIff : ∀ results, items.mapM check = .ok results ↔
          (∀ item ∈ items, check item = .ok (value item)) ∧ results = items.map value :=
        fun _ => ih hvalue.2
      rw [List.mapM_cons, bind_eq_ok, List.forall_mem_cons]
      constructor
      · rintro ⟨result, hitem, hrest⟩
        obtain ⟨others, hitems, hpure⟩ := bind_eq_ok.mp hrest
        obtain ⟨hall, rfl⟩ := (hrestIff others).mp hitems
        cases hpure
        have hresult := hvalue.1 result hitem
        subst hresult
        exact ⟨⟨hitem, hall⟩, rfl⟩
      · rintro ⟨⟨hitem, hall⟩, rfl⟩
        exact ⟨value item, hitem, bind_eq_ok.mpr
          ⟨items.map value, (hrestIff _).mpr ⟨hall, rfl⟩, rfl⟩⟩

/-- Every item of a list that is mapped gives its result. -/
theorem forall₂_of_mapM_eq_ok {Item : Type} {check : Item → Except Error Value}
    {items : List Item} {results : List Value} (hresults : items.mapM check = .ok results) :
    List.Forall₂ (fun item result => check item = .ok result) items results := by
  induction items generalizing results with
  | nil =>
      cases hresults
      exact List.Forall₂.nil
  | cons item items ih =>
      rw [List.mapM_cons] at hresults
      obtain ⟨result, hitem, hrest⟩ := bind_eq_ok.mp hresults
      obtain ⟨others, hothers, hpure⟩ := bind_eq_ok.mp hrest
      cases hpure
      exact List.Forall₂.cons hitem (ih hothers)

/-- Every item of a list that is mapped has a result. -/
theorem forall₂_of_mapM_eq_some {Item : Type} {check : Item → Option Value}
    {items : List Item} {results : List Value} (hresults : items.mapM check = some results) :
    List.Forall₂ (fun item result => check item = some result) items results := by
  induction items generalizing results with
  | nil =>
      cases hresults
      exact List.Forall₂.nil
  | cons item items ih =>
      rw [List.mapM_cons] at hresults
      obtain ⟨result, hitem, hrest⟩ := Option.bind_eq_some_iff.mp hresults
      obtain ⟨others, hothers, hpure⟩ := Option.bind_eq_some_iff.mp hrest
      cases hpure
      exact List.Forall₂.cons hitem (ih hothers)

/-! ## Loops of checks -/

section Loop

variable {State Item : Type} {body : State → Item → Except Error State}

theorem foldlM_cons_eq_ok {item : Item} {items : List Item} {start final : State} :
    (item :: items).foldlM body start = .ok final ↔
      ∃ next, body start item = .ok next ∧ items.foldlM body next = .ok final := by
  rw [List.foldlM_cons]
  exact bind_eq_ok

/-- What the body preserves on every item, a loop that succeeds preserves. -/
theorem foldlM_invariant (Invariant : State → Prop) {items : List Item}
    (hbody : ∀ item ∈ items, ∀ state next, Invariant state → body state item = .ok next →
      Invariant next)
    {start final : State} (hstart : Invariant start)
    (hloop : items.foldlM body start = .ok final) : Invariant final := by
  induction items generalizing start with
  | nil =>
      cases hloop
      exact hstart
  | cons item items ih =>
      obtain ⟨next, hnext, hrest⟩ := foldlM_cons_eq_ok.mp hloop
      exact ih (fun other hother => hbody other (List.mem_cons_of_mem _ hother))
        (hbody item List.mem_cons_self start next hstart hnext) hrest

/-- What the body does for its own item and keeps for the others, a loop that succeeds has done
for each of its items. -/
theorem foldlM_forall (Done : Item → State → Prop) {items : List Item}
    (hdone : ∀ item state next, body state item = .ok next → Done item next)
    (hkeeps : ∀ item other state next, Done item state → body state other = .ok next →
      Done item next)
    {start final : State} (hloop : items.foldlM body start = .ok final) :
    ∀ item ∈ items, Done item final := by
  induction items generalizing start with
  | nil => exact List.forall_mem_nil _
  | cons first items ih =>
      obtain ⟨next, hnext, hrest⟩ := foldlM_cons_eq_ok.mp hloop
      have hkept : Done first final := foldlM_invariant (Done first)
        (fun other _ => hkeeps first other) (hdone first start next hnext) hrest
      exact List.forall_mem_cons.mpr ⟨hkept, ih hrest⟩

/-- A loop fails exactly when it reaches an item whose body fails. -/
theorem foldlM_eq_error {items : List Item} {start : State} {error : Error} :
    items.foldlM body start = .error error ↔
      ∃ before item after state, items = before ++ item :: after
        ∧ before.foldlM body start = .ok state ∧ body state item = .error error := by
  induction items generalizing start with
  | nil =>
      constructor
      · intro hloop
        cases hloop
      · rintro ⟨before, item, after, state, hitems, -⟩
        cases before <;> cases hitems
  | cons item items ih =>
      rw [List.foldlM_cons]
      cases hbody : body start item with
      | error found =>
          constructor
          · intro hloop
            exact ⟨[], item, items, start, rfl, rfl, hbody.trans hloop⟩
          · rintro ⟨before, other, after, state, hitems, hbefore, hother⟩
            cases before with
            | nil =>
                cases hitems
                cases hbefore
                exact hbody.symm.trans hother
            | cons first before =>
                cases hitems
                obtain ⟨next, hnext, -⟩ := foldlM_cons_eq_ok.mp hbefore
                rw [hbody] at hnext
                cases hnext
      | ok next =>
          rw [bind_ok, ih]
          constructor
          · rintro ⟨before, other, after, state, rfl, hbefore, hother⟩
            exact ⟨item :: before, other, after, state, rfl,
              foldlM_cons_eq_ok.mpr ⟨next, hbody, hbefore⟩, hother⟩
          · rintro ⟨before, other, after, state, hitems, hbefore, hother⟩
            cases before with
            | nil =>
                cases hitems
                cases hbefore
                rw [hbody] at hother
                cases hother
            | cons first before =>
                cases hitems
                obtain ⟨found, hfound, hrest⟩ := foldlM_cons_eq_ok.mp hbefore
                rw [hbody] at hfound
                cases hfound
                exact ⟨before, other, after, state, rfl, hrest, hother⟩

end Loop

end Stallorder.Checks
