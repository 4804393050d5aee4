import Mathlib.Data.List.Nodup
import Mathlib.Data.List.Pairwise
import Mathlib.Data.List.Basic

/-!
# XClone.Lib.Table — relational tables with unique columns

A `Table` is a list of rows together with the proof that its unique columns have
no repeated value, so a violating table cannot be built: `insert` answers `none`
where a database would report the violation. Rows are changed in place by
`updateWhere`, for changes that leave the unique columns alone.
-/

namespace Relational

variable {ρ κ : Type}

/-- What is selected of a list without repetitions was selected once. -/
theorem eq_of_filterMap_nodup {α β : Type} {f : α → Option β} {l : List α}
    (h : (l.filterMap f).Nodup) {a b : α} (ha : a ∈ l) (hb : b ∈ l) {x : β} (hfa : f a = some x)
    (hfb : f b = some x) : a = b := by
  rw [List.Nodup, List.pairwise_filterMap] at h
  have hapart : l.Pairwise fun a b => ¬ (f a = some x ∧ f b = some x) := by
    apply h.imp
    rintro a b hab ⟨ha, hb⟩
    exact hab x ha x hb rfl
  refine List.Pairwise.forall_of_forall_of_flip (R := fun a b => f a = some x ∧ f b = some x → a = b)
    (fun _ _ _ => rfl) ?_ ?_ ha hb ⟨hfa, hfb⟩
  · apply hapart.imp
    intro a b hab hboth
    exact absurd hboth hab
  · apply hapart.imp
    intro a b hab hboth
    exact absurd hboth.symm hab

/-- Rows whose `uniques` columns have no repeated value. -/
structure Table (ρ : Type) {κ : Type} (uniques : List (ρ → κ)) where
  rows : List ρ
  unique : ∀ column ∈ uniques, (rows.map column).Nodup

namespace Table

variable {uniques : List (ρ → κ)}

@[ext] theorem ext {t u : Table ρ uniques} (h : t.rows = u.rows) : t = u := by
  cases t
  cases u
  cases h
  rfl

/-- The table without rows. -/
def empty : Table ρ uniques := ⟨[], fun _ _ => List.nodup_nil⟩

@[simp] theorem empty_rows : (empty : Table ρ uniques).rows = [] := rfl

/-- Rows that agree on a unique column are the same row. -/
theorem eq_of_column (t : Table ρ uniques) {column : ρ → κ} (hcolumn : column ∈ uniques) {r r' : ρ}
    (hr : r ∈ t.rows) (hr' : r' ∈ t.rows) (h : column r = column r') : r = r' :=
  List.inj_on_of_nodup_map (t.unique column hcolumn) hr hr' h

/-- A row would repeat a value of a unique column. -/
def Conflicts (t : Table ρ uniques) (row : ρ) : Prop :=
  ∃ column ∈ uniques, column row ∈ t.rows.map column

instance [DecidableEq κ] (t : Table ρ uniques) (row : ρ) : Decidable (t.Conflicts row) :=
  List.decidableBEx (fun column => column row ∈ t.rows.map column) uniques

/-- Insert a row; `none` is a unique violation. -/
def insert [DecidableEq κ] (t : Table ρ uniques) (row : ρ) : Option (Table ρ uniques) :=
  if h : t.Conflicts row then none
  else some
    { rows := row :: t.rows
      unique := by
        intro column hcolumn
        rw [List.map_cons, List.nodup_cons]
        exact ⟨fun hmem => h ⟨column, hcolumn, hmem⟩, t.unique column hcolumn⟩ }

theorem insert_eq_some [DecidableEq κ] {t t' : Table ρ uniques} {row : ρ} :
    t.insert row = some t' ↔ ¬ t.Conflicts row ∧ t'.rows = row :: t.rows := by
  unfold insert
  split
  · rename_i h
    constructor
    · intro hnone
      cases hnone
    · intro hno
      exact absurd h hno.1
  · rename_i h
    constructor
    · intro hsome
      cases hsome
      exact ⟨h, rfl⟩
    · intro hrows
      exact congrArg some (ext hrows.2.symm)

/-- A row without conflicts goes in. -/
theorem insert_ne_none [DecidableEq κ] {t : Table ρ uniques} {row : ρ} (h : ¬ t.Conflicts row) :
    t.insert row ≠ none := by
  unfold insert
  rw [dif_neg h]
  exact Option.some_ne_none _

theorem insert_isSome [DecidableEq κ] {t : Table ρ uniques} {row : ρ} :
    (t.insert row).isSome = true ↔ ¬ t.Conflicts row := by
  unfold insert
  split
  · rename_i h
    exact ⟨fun hno => (nomatch hno), fun hfresh => absurd h hfresh⟩
  · rename_i h
    exact ⟨fun _ => h, fun _ => rfl⟩

/-- One more row takes its own values. -/
theorem conflicts_cons {t t' : Table ρ uniques} {row added : ρ}
    (hrows : t'.rows = added :: t.rows) :
    t'.Conflicts row ↔ t.Conflicts row ∨ ∃ column ∈ uniques, column row = column added := by
  unfold Conflicts
  simp only [hrows, List.map_cons, List.mem_cons]
  constructor
  · rintro ⟨column, hcolumn, heq | hmem⟩
    · exact Or.inr ⟨column, hcolumn, heq⟩
    · exact Or.inl ⟨column, hcolumn, hmem⟩
  · rintro (⟨column, hcolumn, hmem⟩ | ⟨column, hcolumn, heq⟩)
    · exact ⟨column, hcolumn, Or.inr hmem⟩
    · exact ⟨column, hcolumn, Or.inl heq⟩

/-- A row stays free where the row that is added shares no entry with it. -/
theorem not_conflicts_cons {t t' : Table ρ uniques} {row added : ρ}
    (hrows : t'.rows = added :: t.rows) (h : ¬ t.Conflicts row)
    (hother : ∀ column ∈ uniques, column row ≠ column added) : ¬ t'.Conflicts row := by
  rw [conflicts_cons hrows]
  rintro (hno | ⟨column, hcolumn, heq⟩)
  · exact h hno
  · exact hother column hcolumn heq

/-- Rows whose unique columns are the same take the same values. -/
theorem conflicts_congr {t t' : Table ρ uniques} {row : ρ}
    (hsame : ∀ column ∈ uniques, t'.rows.map column = t.rows.map column) :
    t'.Conflicts row ↔ t.Conflicts row := by
  constructor
  · rintro ⟨column, hcolumn, hmem⟩
    exact ⟨column, hcolumn, hsame column hcolumn ▸ hmem⟩
  · rintro ⟨column, hcolumn, hmem⟩
    exact ⟨column, hcolumn, (hsame column hcolumn).symm ▸ hmem⟩

/-- The one row with a value of a unique column. -/
theorem filter_column [DecidableEq κ] (t : Table ρ uniques) {column : ρ → κ}
    (hcolumn : column ∈ uniques) {row : ρ} (hrow : row ∈ t.rows) :
    t.rows.filter (fun r => column r = column row) = [row] := by
  have hunique := t.unique column hcolumn
  rcases List.append_of_mem hrow with ⟨before, after, hsplit⟩
  rw [hsplit, List.map_append, List.map_cons, List.nodup_append, List.nodup_cons] at hunique
  rcases hunique with ⟨-, ⟨hafter, -⟩, hbefore⟩
  have hnone₁ : before.filter (fun r => column r = column row) = [] := by
    refine List.filter_eq_nil_iff.mpr fun r hr => ?_
    rw [decide_eq_true_eq]
    exact hbefore _ (List.mem_map_of_mem hr) _ List.mem_cons_self
  have hnone₂ : after.filter (fun r => column r = column row) = [] := by
    refine List.filter_eq_nil_iff.mpr fun r hr => ?_
    rw [decide_eq_true_eq]
    intro heq
    exact hafter (heq ▸ List.mem_map_of_mem hr)
  rw [hsplit, List.filter_append, hnone₁, List.nil_append, List.filter_cons, hnone₂]
  exact if_pos (decide_eq_true rfl)

/-- Insert rows one after another; `none` where one of them is a unique violation. -/
def insertAll [DecidableEq κ] (t : Table ρ uniques) (rows : List ρ) : Option (Table ρ uniques) :=
  rows.foldlM insert t

/-- They go in where no unique column would repeat a value. -/
theorem insertAll_eq_some [DecidableEq κ] {t t' : Table ρ uniques} {rows : List ρ} :
    t.insertAll rows = some t' ↔
      (∀ column ∈ uniques, ((rows.reverse ++ t.rows).map column).Nodup) ∧
        t'.rows = rows.reverse ++ t.rows := by
  induction rows generalizing t with
  | nil =>
    constructor
    · intro h
      obtain rfl : t = t' := Option.some.inj h
      exact ⟨t.unique, rfl⟩
    · intro h
      exact congrArg some (ext h.2.symm)
  | cons row rows ih =>
    have hcons : (row :: rows).reverse ++ t.rows = rows.reverse ++ (row :: t.rows) := by simp
    rw [hcons]
    constructor
    · intro h
      rcases Option.bind_eq_some_iff.mp h with ⟨t₁, hinsert, hrest⟩
      rw [← (insert_eq_some.mp hinsert).2]
      exact ih.mp hrest
    · rintro ⟨hnodup, hrows⟩
      have hfresh : ¬ t.Conflicts row := by
        rintro ⟨column, hcolumn, hmem⟩
        have hunique := hnodup column hcolumn
        rw [List.map_append, List.map_cons, List.nodup_append, List.nodup_cons] at hunique
        exact hunique.2.1.1 hmem
      rcases Option.ne_none_iff_exists'.mp (insert_ne_none hfresh) with ⟨t₁, hinsert⟩
      refine Option.bind_eq_some_iff.mpr ⟨t₁, hinsert, ih.mpr ?_⟩
      rw [(insert_eq_some.mp hinsert).2]
      exact ⟨hnodup, hrows⟩

/-- `UPDATE … SET … WHERE …` on rows, for a change that keeps the unique columns. -/
def updateWhere (t : Table ρ uniques) (matching : ρ → Bool) (change : ρ → ρ)
    (keeps : ∀ column ∈ uniques, ∀ r, column (change r) = column r) : Table ρ uniques where
  rows := t.rows.map fun r => if matching r then change r else r
  unique := by
    intro column hcolumn
    have hsame : (t.rows.map fun r => if matching r then change r else r).map column =
        t.rows.map column := by
      rw [List.map_map]
      refine List.map_congr_left fun r _ => ?_
      simp only [Function.comp_apply]
      split
      · exact keeps column hcolumn r
      · rfl
    rw [hsame]
    exact t.unique column hcolumn

variable {matching : ρ → Bool} {change : ρ → ρ}
  (keeps : ∀ column ∈ uniques, ∀ r, column (change r) = column r)

theorem mem_updateWhere {t : Table ρ uniques} {row : ρ} :
    row ∈ (t.updateWhere matching change keeps).rows ↔
      ∃ r ∈ t.rows, row = if matching r then change r else r := by
  constructor
  · intro hrow
    rcases List.mem_map.mp hrow with ⟨r, hr, heq⟩
    exact ⟨r, hr, heq.symm⟩
  · rintro ⟨r, hr, heq⟩
    exact List.mem_map.mpr ⟨r, hr, heq.symm⟩

/-- The unique columns are as before. -/
theorem map_updateWhere {t : Table ρ uniques} {column : ρ → κ} (hcolumn : column ∈ uniques) :
    (t.updateWhere matching change keeps).rows.map column = t.rows.map column := by
  calc (t.updateWhere matching change keeps).rows.map column
      = t.rows.map (column ∘ fun r => if matching r then change r else r) := List.map_map
    _ = t.rows.map column := by
      refine List.map_congr_left fun r _ => ?_
      simp only [Function.comp_apply]
      split
      · exact keeps column hcolumn r
      · rfl

/-- Nothing matches, nothing changes. -/
theorem updateWhere_eq_self {t : Table ρ uniques} (h : ∀ r ∈ t.rows, matching r = false) :
    t.updateWhere matching change keeps = t := by
  refine ext ?_
  calc (t.rows.map fun r => if matching r then change r else r) = t.rows.map id := by
        refine List.map_congr_left fun r hr => ?_
        simp [h r hr]
    _ = t.rows := List.map_id _

/-- Selecting after an update that only moves rows out of the selection. -/
theorem filter_updateWhere {t : Table ρ uniques} {selected kept : ρ → Bool}
    (hmatch : ∀ r ∈ t.rows, matching r = true → selected (change r) = false ∧ kept r = false)
    (hother : ∀ r ∈ t.rows, matching r = false → kept r = selected r) :
    (t.updateWhere matching change keeps).rows.filter selected = t.rows.filter kept := by
  have key : ∀ rows : List ρ, (∀ r ∈ rows, r ∈ t.rows) →
      (rows.map fun r => if matching r then change r else r).filter selected =
        rows.filter kept := by
    intro rows
    induction rows with
    | nil =>
      intro _
      rfl
    | cons r rows ih =>
      intro hrows
      have hr := hrows r List.mem_cons_self
      have htail := ih fun r' hr' => hrows r' (List.mem_cons_of_mem r hr')
      cases hm : matching r with
      | true =>
        rcases hmatch r hr hm with ⟨hout, hkept⟩
        simp only [List.map_cons, hm, if_true, List.filter_cons, hout, hkept, Bool.false_eq_true,
          if_false, htail]
      | false =>
        simp only [List.map_cons, hm, Bool.false_eq_true, if_false, List.filter_cons,
          hother r hr hm, htail]
  exact key t.rows fun _ hr => hr

end Table

end Relational
