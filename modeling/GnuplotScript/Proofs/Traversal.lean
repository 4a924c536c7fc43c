import GnuplotScript.Value.Tagged
import Mathlib.Data.List.Forall2

/-!
# Readings of several data

Several data are read one after the other, and the first fault ends the reading. So a reading
succeeds exactly if it does at every datum, and a fault is that of one datum before which
every reading succeeded.

## Main results

* `map_eq_of_forall₂` — two lists beside a third one agree if they do at each of its members
* `mapM_eq_ok_iff` — success is success at every datum
* `mapM_map_of_ok` — reading undoes writing if it does at every datum
* `mapM_append_of_ok` — data are read in parts
* `mapM_eq_error_iff` — a fault is that of the first datum that has one
* `mapM_eq_ok_or_error` — there is no third way
* `bind_eq_ok_iff`, `bind_eq_error_iff` — one reading after another
* `mapM_eq_some_iff` — looking at several data, any of which may not be of the right kind
* `decodeAll_eq_mapM`, `decodeRows_eq_mapM` — decoding data and rows are such readings
-/

namespace GnuplotScript

section SideBySide

variable {α β : Type} {r : α → β → Prop} {xs : List α} {ys : List β}

theorem exists_mem_of_forall₂ (h : List.Forall₂ r xs ys) {y : β} (hy : y ∈ ys) :
    ∃ x ∈ xs, r x y := by
  induction h with
  | nil => cases hy
  | cons hx _ ih =>
    rcases List.mem_cons.1 hy with rfl | hrest
    · exact ⟨_, List.mem_cons_self, hx⟩
    · obtain ⟨x, hmem, hr⟩ := ih hrest
      exact ⟨x, List.mem_cons_of_mem _ hmem, hr⟩

theorem ne_nil_of_forall₂ (h : List.Forall₂ r xs ys) (hne : xs ≠ []) : ys ≠ [] := by
  intro hys
  rw [hys] at h
  exact hne (List.forall₂_nil_right_iff.1 h)

/-- What there is for each of several things there is for all of them together. -/
theorem exists_forall₂ (h : ∀ x ∈ xs, ∃ y, r x y) : ∃ ys, List.Forall₂ r xs ys := by
  induction xs with
  | nil => exact ⟨[], .nil⟩
  | cons x rest ih =>
    obtain ⟨⟨y, hy⟩, hrest⟩ := List.forall_mem_cons.1 h
    obtain ⟨ys, hys⟩ := ih hrest
    exact ⟨y :: ys, .cons hy hys⟩

/-- Two lists beside a third one agree if they do at each of its members. -/
theorem map_eq_of_forall₂ {γ : Type} {q : α → γ → Prop} {g : β → γ} {zs : List γ}
    (h : ∀ x ∈ xs, ∀ y z, r x y → q x z → g y = z) (hr : List.Forall₂ r xs ys)
    (hq : List.Forall₂ q xs zs) : ys.map g = zs := by
  induction hr generalizing zs with
  | nil =>
    cases hq
    rfl
  | cons hry _ ih =>
    cases hq with
    | cons hqz hrest =>
      obtain ⟨first, rest⟩ := List.forall_mem_cons.1 h
      rw [List.map_cons, first _ _ hry hqz, ih rest hrest]

end SideBySide

section Readings

variable {α β ε : Type} {read : α → Except ε β}

theorem mapM_cons_of_ok {x : α} {y : β} (h : read x = .ok y) (rest : List α) :
    (x :: rest).mapM read = (rest.mapM read).map (y :: ·) := by
  rw [List.mapM_cons, h]
  rfl

theorem mapM_cons_of_error {x : α} {e : ε} (h : read x = .error e) (rest : List α) :
    (x :: rest).mapM read = .error e := by
  rw [List.mapM_cons, h]
  rfl

theorem map_eq_ok_iff {γ : Type} {g : β → γ} {result : Except ε β} {z : γ} :
    result.map g = .ok z ↔ ∃ y, result = .ok y ∧ g y = z := by
  cases result <;> simp [Except.map]

theorem exists_map_eq_ok_iff {γ : Type} {g : β → γ} {result : Except ε β} :
    (∃ z, result.map g = .ok z) ↔ ∃ y, result = .ok y := by
  cases result <;> simp [Except.map]

theorem map_eq_error_iff {γ : Type} {g : β → γ} {result : Except ε β} {e : ε} :
    result.map g = .error e ↔ result = .error e := by
  cases result <;> simp [Except.map]

/-- One reading after another succeeds if both do. -/
theorem bind_eq_ok_iff {γ : Type} {next : β → Except ε γ} {result : Except ε β} {z : γ} :
    result >>= next = .ok z ↔ ∃ y, result = .ok y ∧ next y = .ok z := by
  cases result <;> simp [bind, Except.bind]

/-- One reading after another fails if the first does, or if it succeeds and the other fails. -/
theorem bind_eq_error_iff {γ : Type} {next : β → Except ε γ} {result : Except ε β} {e : ε} :
    result >>= next = .error e ↔
      result = .error e ∨ ∃ y, result = .ok y ∧ next y = .error e := by
  cases result <;> simp [bind, Except.bind]

/-- Several readings succeed exactly if each of them does. -/
theorem mapM_eq_ok_iff {xs : List α} {ys : List β} :
    xs.mapM read = .ok ys ↔ List.Forall₂ (fun x y => read x = .ok y) xs ys := by
  -- The results differ from step to step, so the induction is over all of them.
  induction xs generalizing ys with
  | nil =>
    simp only [List.mapM_nil, List.forall₂_nil_left_iff]
    exact ⟨fun h => (Except.ok.inj h).symm, fun h => h ▸ rfl⟩
  | cons x rest ih =>
    rw [List.forall₂_cons_left_iff]
    cases hx : read x with
    | error e =>
      rw [mapM_cons_of_error hx]
      constructor
      · intro h
        cases h
      · intro parts
        obtain ⟨y, _, hy, -⟩ := parts
        cases hy
    | ok y =>
      rw [mapM_cons_of_ok hx, map_eq_ok_iff]
      constructor
      · intro parts
        obtain ⟨tail, htail, rfl⟩ := parts
        exact ⟨y, tail, rfl, ih.1 htail, rfl⟩
      · intro parts
        obtain ⟨_, tail, hy, htail, rfl⟩ := parts
        cases hy
        exact ⟨tail, ih.2 htail, rfl⟩

/-- Where each of several things is read back from what it is written as, they all are. -/
theorem mapM_map_of_ok {write : β → α} {ys : List β} (h : ∀ y ∈ ys, read (write y) = .ok y) :
    (ys.map write).mapM read = .ok ys := by
  rw [mapM_eq_ok_iff, List.forall₂_map_left_iff, List.forall₂_same]
  exact h

/-- Readings of two lists are one of both lists together. -/
theorem mapM_append_of_ok {front back : List α} {ys zs : List β} (hfront : front.mapM read = .ok ys)
    (hback : back.mapM read = .ok zs) : (front ++ back).mapM read = .ok (ys ++ zs) := by
  rw [mapM_eq_ok_iff] at hfront hback ⊢
  exact List.rel_append hfront hback

/-- A fault of several readings is that of the first one that fails. -/
theorem mapM_eq_error_iff {xs : List α} {e : ε} :
    xs.mapM read = .error e ↔
      ∃ front x back ys, xs = front ++ x :: back ∧ front.mapM read = .ok ys ∧
        read x = .error e := by
  induction xs with
  | nil =>
    constructor
    · intro h
      cases h
    · intro parts
      obtain ⟨front, x, back, _, h, -, -⟩ := parts
      simp at h
  | cons x rest ih =>
    cases hx : read x with
    | error e' =>
      rw [mapM_cons_of_error hx]
      constructor
      · intro h
        cases h
        exact ⟨[], x, rest, [], rfl, rfl, hx⟩
      · intro parts
        obtain ⟨front, bad, back, ys, hsplit, hfront, hbad⟩ := parts
        cases front with
        | nil =>
          obtain ⟨rfl, -⟩ := List.cons.inj hsplit
          exact congrArg _ (Except.error.inj (hx.symm.trans hbad))
        | cons first front =>
          obtain ⟨rfl, -⟩ := List.cons.inj hsplit
          rw [mapM_cons_of_error hx] at hfront
          cases hfront
    | ok y =>
      rw [mapM_cons_of_ok hx, map_eq_error_iff, ih]
      constructor
      · intro parts
        obtain ⟨front, bad, back, ys, rfl, hfront, hbad⟩ := parts
        refine ⟨x :: front, bad, back, y :: ys, rfl, ?_, hbad⟩
        rw [mapM_cons_of_ok hx, hfront]
        rfl
      · intro parts
        obtain ⟨front, bad, back, ys, hsplit, hfront, hbad⟩ := parts
        cases front with
        | nil =>
          obtain ⟨rfl, -⟩ := List.cons.inj hsplit
          cases hx.symm.trans hbad
        | cons first front =>
          obtain ⟨rfl, rfl⟩ := List.cons.inj hsplit
          rw [mapM_cons_of_ok hx, map_eq_ok_iff] at hfront
          obtain ⟨zs, hzs, -⟩ := hfront
          exact ⟨front, bad, back, zs, rfl, hzs, hbad⟩

/-- Several readings either all succeed or end at one that fails. -/
theorem mapM_eq_ok_or_error (read : α → Except ε β) (xs : List α) :
    (∃ ys, xs.mapM read = .ok ys) ∨ ∃ x ∈ xs, ∃ e, read x = .error e ∧ xs.mapM read = .error e := by
  cases h : xs.mapM read with
  | ok ys => exact .inl ⟨ys, rfl⟩
  | error e =>
    obtain ⟨front, x, back, _, rfl, -, hx⟩ := mapM_eq_error_iff.1 h
    exact .inr ⟨x, List.mem_append_right front List.mem_cons_self, e, hx, rfl⟩

/-- Whether several readings all succeed is decided at each of them. -/
theorem exists_mapM_eq_ok_iff {xs : List α} :
    (∃ ys, xs.mapM read = .ok ys) ↔ ∀ x ∈ xs, ∃ y, read x = .ok y := by
  constructor
  · intro parts
    obtain ⟨ys, hys⟩ := parts
    rw [mapM_eq_ok_iff] at hys
    induction hys with
    | nil => simp
    | cons hx _ ih => exact List.forall_mem_cons.2 ⟨⟨_, hx⟩, ih⟩
  · intro h
    rcases mapM_eq_ok_or_error read xs with hok | ⟨x, hx, e, he, -⟩
    · exact hok
    · obtain ⟨y, hy⟩ := h x hx
      cases he.symm.trans hy

end Readings

section Looks

variable {α β : Type} {look : α → Option β}

theorem mapM_eq_some_iff {xs : List α} {ys : List β} :
    xs.mapM look = some ys ↔ List.Forall₂ (fun x y => look x = some y) xs ys := by
  induction xs generalizing ys with
  | nil =>
    simp only [List.mapM_nil, List.forall₂_nil_left_iff]
    exact ⟨fun h => (Option.some.inj h).symm, fun h => h ▸ rfl⟩
  | cons x rest ih =>
    rw [List.mapM_cons, List.forall₂_cons_left_iff]
    simp only [Option.bind_eq_bind, Option.bind_eq_some_iff, Option.pure_def, Option.some.injEq,
      ih]
    constructor
    · intro parts
      obtain ⟨y, hy, tail, htail, rfl⟩ := parts
      exact ⟨y, tail, hy, htail, rfl⟩
    · intro parts
      obtain ⟨y, tail, hy, htail, rfl⟩ := parts
      exact ⟨y, hy, tail, htail, rfl⟩

/-- Something is seen of a kind everywhere exactly if it is at each of several data. -/
theorem exists_mapM_eq_some_and_iff {p : β → Prop} {xs : List α} :
    (∃ ys, xs.mapM look = some ys ∧ ∀ y ∈ ys, p y) ↔ ∀ x ∈ xs, ∃ y, look x = some y ∧ p y := by
  constructor
  · intro ⟨ys, hys, hp⟩
    rw [mapM_eq_some_iff] at hys
    induction hys with
    | nil => exact nofun
    | cons hx _ ih =>
      rw [List.forall_mem_cons] at hp
      exact List.forall_mem_cons.2 ⟨⟨_, hx, hp.1⟩, ih hp.2⟩
  · intro h
    induction xs with
    | nil => exact ⟨[], rfl, nofun⟩
    | cons x rest ih =>
      obtain ⟨⟨y, hy, hpy⟩, hrest⟩ := List.forall_mem_cons.1 h
      obtain ⟨ys, hys, hp⟩ := ih hrest
      refine ⟨y :: ys, ?_, List.forall_mem_cons.2 ⟨hpy, hp⟩⟩
      exact mapM_eq_some_iff.2 (.cons hy (mapM_eq_some_iff.1 hys))

theorem exists_mapM_eq_some_iff {xs : List α} :
    (∃ ys, xs.mapM look = some ys) ↔ ∀ x ∈ xs, ∃ y, look x = some y := by
  have h : (∃ ys, xs.mapM look = some ys ∧ ∀ y ∈ ys, True) ↔ _ := exists_mapM_eq_some_and_iff
  simpa only [implies_true, and_true] using h

end Looks

theorem decodeAll_eq_mapM (items : List Datum) : decodeAll items = items.mapM Value.decode := by
  induction items with
  | nil => rfl
  | cons d rest ih =>
    rw [decodeAll]
    cases hd : Value.decode d with
    | error fault => rw [mapM_cons_of_error hd]
    | ok v => rw [mapM_cons_of_ok hd, ih]

theorem decodeRows_eq_mapM (rows : List (List Datum)) :
    decodeRows rows = rows.mapM decodeAll := by
  induction rows with
  | nil => rfl
  | cons row rest ih =>
    rw [decodeRows]
    cases hrow : decodeAll row with
    | error fault => rw [mapM_cons_of_error hrow]
    | ok values => rw [mapM_cons_of_ok hrow, ih]

end GnuplotScript
