import LayerGraph.Proofs.Failure.Faults
import LayerGraph.Validation.Coercion

/-! The faults of reading integers and numbers from loose values.

A truth value and an integer are always read. A number is not when it is infinite or none, a text not
when it is no numeral, and a list never is.
-/

set_option autoImplicit false

namespace LayerGraph

open Attempt Number Text

/-- The faults of a text that is read as an integer: no numeral, or one of too many digits. -/
def IntegerTextHazard (text : String) (fault : Fault) : Prop :=
  let body := (splitSign ((trimList isWhiteSpace text.toList).map plainDigit)).2
  match groupedDigits? (body.takeWhile fun c => isDigit c || c = '_') with
  | none => fault = .integerText text
  | some digits =>
    if numeralLimit < digits.length then fault = .integerDigits digits.length
    else (body.all fun c => isDigit c || c = '_') = false ∧ fault = .integerText text

theorem faults_integerOfText (text : String) :
    (integerOfText text).Faults (IntegerTextHazard text) := by
  unfold integerOfText IntegerTextHazard
  dsimp only
  generalize groupedDigits? _ = grouped
  cases grouped with
  | none => exact faults_fault _
  | some digits =>
    refine (Faults.ite (fun _ => faults_fault _) fun _ =>
      Faults.ite (fun _ => faults_fault _) fun _ => faultless_ok _).congr fun fault => ?_
    simp

namespace Json

/-- The faults of a loose value that is read as an integer. -/
def IntegerHazard (value : Json) (fault : Fault) : Prop :=
  match value with
  | .int _ | .bool _ => False
  | .float x =>
    if x.isNaN then fault = .notANumberInteger
    else x.isInfinite = true ∧ fault = .infiniteInteger
  | .str s => IntegerTextHazard s fault
  | value => fault = .integerFrom value.type

/-- The faults of a loose value that is read as a floating-point number. -/
def RealHazard (value : Json) (fault : Fault) : Prop :=
  match value with
  | .float _ | .bool _ => False
  | .int n => (Binary64.ofInt n).isInfinite = true ∧ fault = .floatSize
  | .str s => realOfText? s = none ∧ fault = .floatText s
  | value => fault = .floatFrom value.type

/-- The faults of a loose value whose items are listed. -/
def ItemsHazard (value : Json) (fault : Fault) : Prop :=
  match value with
  | .arr _ | .str _ | .obj _ => False
  | value => fault = .notIterable value.type

theorem faults_toInteger (value : Json) : value.toInteger.Faults value.IntegerHazard := by
  cases value with
  | int n => exact faultless_ok _
  | bool b => exact faultless_ok _
  | float x =>
    refine (Faults.ite (fun _ => faults_fault _) fun _ =>
      Faults.ite (fun _ => faults_fault _) fun _ => faultless_ok _).congr fun fault => ?_
    simp [IntegerHazard]
  | str s => exact faults_integerOfText s
  | null | arr items | obj fields => exact faults_fault _

theorem faults_toReal (value : Json) : value.toReal.Faults value.RealHazard := by
  cases value <;> unfold toReal RealHazard <;> dsimp only
  case float x => exact faultless_ok _
  case bool b => exact faultless_ok _
  case int n =>
    generalize Binary64.ofInt n = x
    exact (Faults.ite (fun _ => faults_fault _) fun _ => faultless_ok _).congr fun fault => by simp
  case str s =>
    cases realOfText? s with
    | some x => exact (faultless_ok _).congr fun fault => by simp
    | none => exact (faults_fault _).congr fun fault => by simp
  all_goals exact faults_fault _

theorem faults_toItems (value : Json) : value.toItems.Faults value.ItemsHazard := by
  cases value with
  | arr items | str s | obj fields => exact faultless_ok _
  | null | bool b | int n | float x => exact faults_fault _

/-- The faults of a list that is read as integers: those of an item behind items that are read. -/
def ListHazard (items : List Json) (fault : Fault) : Prop :=
  ∃ done item rest, items = done ++ item :: rest ∧ (∀ other ∈ done, ∃ n, other.toInteger = .ok n) ∧
    item.IntegerHazard fault

theorem listHazard_cons {item : Json} {items : List Json} {fault : Fault} :
    ListHazard (item :: items) fault ↔
      item.IntegerHazard fault ∨ ∃ n, item.toInteger = .ok n ∧ ListHazard items fault := by
  constructor
  · rintro ⟨done, other, rest, split, read, named⟩
    cases done with
    | nil =>
      cases split
      exact .inl named
    | cons first done =>
      cases split
      obtain ⟨n, first⟩ := read item (List.mem_cons_self ..)
      exact .inr ⟨n, first, done, other, rest, rfl, fun x member => read x (List.mem_cons_of_mem _ member),
        named⟩
  · rintro (named | ⟨n, read, done, other, rest, rfl, others, named⟩)
    · exact ⟨[], item, items, rfl, nofun, named⟩
    · refine ⟨item :: done, other, rest, rfl, ?_, named⟩
      simpa using ⟨⟨n, read⟩, others⟩

theorem faults_mapToInteger (items : List Json) :
    (items.mapM toInteger).Faults (ListHazard items) := by
  induction items with
  | nil => exact (faultless_ok _).congr fun fault => by simp [ListHazard]
  | cons item items ih =>
    rw [List.mapM_cons]
    refine ((faults_toInteger item).bind fun n _ => ih.before fun ns _ => faultless_ok _).congr fun fault => ?_
    rw [listHazard_cons]

/-- The faults of a loose value that is read as a list of integers. -/
def IntegersHazard (value : Json) (fault : Fault) : Prop :=
  value.ItemsHazard fault ∨ ∃ items, value.toItems = .ok items ∧ ListHazard items fault

theorem faults_toIntegers (value : Json) : value.toIntegers.Faults value.IntegersHazard :=
  (faults_toItems value).bind fun items _ => faults_mapToInteger items

/-- A loose value with integers that are too long to be shown. -/
def TextHazard (value : Json) (fault : Fault) : Prop :=
  match value with
  | .str _ => False
  | value => showsNumerals value.shown = false ∧ fault = .shownInteger

theorem faults_text (value : Json) : value.text.Faults value.TextHazard := by
  cases value with
  | str s => exact faultless_ok _
  | null | bool b | int n | float x | arr items | obj fields =>
    unfold text TextHazard
    dsimp only
    exact (Faults.ite (fun _ => faultless_ok _) fun _ => faults_fault _).congr fun fault => by simp

/-- The faults of a loose value that names a place: a fractional number among the places, or no number. -/
def PlaceHazard (count : Nat) (value : Json) (fault : Fault) : Prop :=
  match value with
  | .int _ | .bool _ => False
  | .float x =>
    (x.isNaN || x.isInfinite || (x.negative && !x.isZero)) = false ∧ x.truncate < count ∧
      fault = .listIndex .float
  | value => fault = .notBounded value.type

theorem faults_placeAmong (count : Nat) (value : Json) :
    (value.placeAmong count).Faults (PlaceHazard count value) := by
  cases value with
  | int n => exact faultless_ok _
  | bool b => exact faultless_ok _
  | float x =>
    refine (Faults.ite (fun _ => faultless_ok _) fun _ =>
      Faults.ite (fun _ => faults_fault _) fun _ => faultless_ok _).congr fun fault => ?_
    simp [PlaceHazard]
  | null | str s | arr items | obj fields => exact faults_fault _

end Json

end LayerGraph
