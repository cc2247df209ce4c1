import LayerGraph.Proofs.Failure.Run
import LayerGraph.Validation.Issue
import LayerGraph.Validation.Lax

/-! Checks that find no issue, and values that fit a type exactly.

Checks go on after an issue, but they come to a value exactly when each of them does. A reading is exact just for a value of
the type itself: whatever is converted fits less closely. So an exact reading tells what was read, and of two types at most
one reads a scalar exactly.
-/

set_option autoImplicit false

namespace LayerGraph.Checked

variable {α β : Type}

theorem both_eq_ok {first : Checked α} {second : Checked β} {values : α × β} :
    both first second = .ok values ↔ first = .ok values.1 ∧ second = .ok values.2 := by
  obtain ⟨one, other⟩ := values
  cases first <;> cases second <;> simp [both]

theorem under_eq_ok {step : Step} {check : Checked α} {value : α} :
    check.under step = .ok value ↔ check = .ok value := by
  cases check with
  | ok found => exact Iff.rfl
  | error issues => exact iff_of_false nofun nofun

theorem all_eq_ok {checks : List (Checked α)} {values : List α} :
    all checks = .ok values ↔ checks = values.map .ok := by
  induction checks generalizing values with
  | nil => cases values <;> simp [all]
  | cons check checks ih =>
    simp only [all, Attempt.map_eq_ok, both_eq_ok, ih]
    cases values with
    | nil =>
      refine iff_of_false ?_ (List.cons_ne_nil _ _)
      rintro ⟨_, _, same⟩
      exact List.cons_ne_nil _ _ same
    | cons value values =>
      constructor
      · rintro ⟨_, ⟨first, others⟩, same⟩
        cases same
        rw [first, others, List.map_cons]
      · intro same
        obtain ⟨first, others⟩ := List.cons.inj same
        exact ⟨(value, values), ⟨first, others⟩, rfl⟩

/-- Items are checked one by one; where each stands matters to the issues only. -/
theorem items_eq_ok {check : α → Checked β} {values : List α} {results : List β} :
    items check values = .ok results ↔ values.map check = results.map .ok := by
  unfold items
  rw [all_eq_ok]
  suffices placed : ∀ start, (values.zipIdx start).map (fun place => (check place.1).under (.index place.2)) =
      results.map .ok ↔ values.map check = results.map .ok from placed 0
  induction values generalizing results with
  | nil => exact fun _ => Iff.rfl
  | cons value values ih =>
    intro start
    cases results with
    | nil => exact iff_of_false (List.cons_ne_nil _ _) (List.cons_ne_nil _ _)
    | cons result results =>
      rw [List.zipIdx_cons, List.map_cons, List.map_cons, List.map_cons, List.cons_eq_cons, List.cons_eq_cons, ih,
        under_eq_ok]

end LayerGraph.Checked

namespace LayerGraph

open Number

namespace Json

variable {document : Json}

theorem map_lax_ne_exact {α : Type} {check : Checked α} {value : α} : check.map (·, Fit.lax) ≠ .ok (value, .exact) := by
  cases check <;> simp [Except.map]

theorem readBool_exact {b : Bool} : readBool document = .ok (b, .exact) ↔ document = .bool b := by
  cases document with
  | bool other => simp [readBool]
  | int n =>
    refine iff_of_false ?_ nofun
    unfold readBool
    dsimp only
    split
    · exact map_lax_ne_exact
    · exact nofun
  | float x =>
    refine iff_of_false ?_ nofun
    unfold readBool
    dsimp only
    split
    · exact map_lax_ne_exact
    · exact nofun
  | str s =>
    refine iff_of_false ?_ nofun
    unfold readBool
    dsimp only
    split <;> simp [Checked.refuse]
  | null | arr | obj => simp [readBool, Checked.refuse]

theorem readInt_exact {n : Int} : readInt document = .ok (n, .exact) ↔ document = .int n := by
  cases document with
  | int other => simp [readInt]
  | float | str =>
    rw [readInt]
    exact iff_of_false map_lax_ne_exact nofun
  | null | bool | arr | obj => simp [readInt, Checked.refuse]

theorem readReal_exact {x : Binary64} : readReal document = .ok (x, .exact) ↔ document = .float x := by
  cases document with
  | float other => simp [readReal]
  | str =>
    rw [readReal]
    exact iff_of_false map_lax_ne_exact nofun
  | null | bool | int | arr | obj => simp [readReal, Checked.refuse]

theorem readText_exact {s : String} : readText document = .ok (s, .exact) ↔ document = .str s := by
  cases document <;> simp [readText, Checked.refuse]

end Json

namespace Fit

theorem meet_eq_exact {a b : Fit} : a.meet b = .exact ↔ a = .exact ∧ b = .exact := by
  cases a <;> cases b <;> decide

/-- The loosest of some fits is exact just if all of them are. -/
theorem foldl_meet_eq_exact {α : Type} {pairs : List (α × Fit)} {start : Fit} :
    pairs.foldl (fun fit pair => fit.meet pair.2) start = .exact ↔
      start = .exact ∧ ∀ pair ∈ pairs, pair.2 = .exact := by
  induction pairs generalizing start with
  | nil => simp
  | cons pair pairs ih => rw [List.foldl_cons, ih, meet_eq_exact, List.forall_mem_cons, and_assoc]

end Fit

/-- A list is read exactly just if each of its items is. -/
theorem Json.readList_exact {α : Type} {read : Json → Checked (α × Fit)} {document : Json} {values : List α} :
    readList read document = .ok (values, .exact) ↔
      ∃ items, document = .arr items ∧ items.map read = values.map fun value => .ok (value, .exact) := by
  cases document with
  | arr items =>
    simp only [readList, Attempt.map_eq_ok, Checked.items_eq_ok, Prod.mk.injEq, Fit.foldl_meet_eq_exact]
    constructor
    · rintro ⟨pairs, checked, rfl, -, exact⟩
      refine ⟨items, rfl, ?_⟩
      rw [checked, List.map_map]
      exact List.map_congr_left fun pair member => congrArg (fun fit => Except.ok (pair.1, fit)) (exact pair member)
    · rintro ⟨_, same, checked⟩
      cases same
      refine ⟨values.map (·, .exact), ?_, ?_, trivial, ?_⟩
      · rw [checked, List.map_map]
        rfl
      · rw [List.map_map]
        exact List.map_id _
      · intro pair member
        obtain ⟨value, -, rfl⟩ := List.mem_map.mp member
        rfl
  | null | bool | int | float | str | obj => simp [readList, Checked.refuse]

/-- A list is not read exactly if its first item is not. -/
theorem Json.readList_inexact {α : Type} (read : Json → Checked (α × Fit)) (item : Json)
    (loose : ∀ value, read item ≠ .ok (value, .exact)) (items : List Json) (values : List α) :
    readList read (.arr (item :: items)) ≠ .ok (values, .exact) := by
  intro exact
  obtain ⟨_, same, checked⟩ := readList_exact.mp exact
  cases same
  cases values with
  | nil => cases checked
  | cons value values => exact loose value (List.cons.inj checked).1

end LayerGraph
