import LayerGraph.Program.Document
import LayerGraph.Proofs.Validation.Exact

/-! Attribute values are read back by the types that they were written from.

That type reads the value exactly, and no type before it in order does. An empty list is the exception: every list type
reads it exactly, so it comes back as a list of integers.
-/

set_option autoImplicit false

namespace LayerGraph

namespace AttrValue

open Json

/-- A value with a kind of its own: an empty list counts as one of integers. -/
def settled : AttrValue → AttrValue
  | .floats [] => .ints []
  | .strs [] => .ints []
  | value => value

section
variable {document : Json} {found : AttrValue}

theorem closer_inexact (found : AttrValue) {best : Option (AttrValue × Fit)}
    (loose : ∀ reading ∈ best, reading.2 ≠ .exact) : closer best (found, .exact) = some (found, .exact) := by
  cases best with
  | none => rfl
  | some reading =>
    have inexact := loose reading rfl
    obtain ⟨value, fit⟩ := reading
    cases fit with
    | lax | strict => rfl
    | exact => exact absurd rfl inexact

theorem foldl_closer_exact (later : List (AttrValue × Fit)) :
    later.foldl closer (some (found, .exact)) = some (found, .exact) := by
  induction later with
  | nil => rfl
  | cons next later ih =>
    have kept : closer (some (found, .exact)) next = some (found, .exact) := by
      obtain ⟨value, fit⟩ := next
      cases fit <;> rfl
    rw [List.foldl_cons, kept, ih]

theorem foldl_closer_inexact {earlier : List (AttrValue × Fit)} (loose : ∀ reading ∈ earlier, reading.2 ≠ .exact)
    (best : Option (AttrValue × Fit)) (start : ∀ reading ∈ best, reading.2 ≠ .exact) :
    ∀ reading ∈ earlier.foldl closer best, reading.2 ≠ .exact := by
  induction earlier generalizing best with
  | nil => exact start
  | cons next earlier ih =>
    obtain ⟨first, others⟩ := List.forall_mem_cons.mp loose
    refine ih others _ fun reading member => ?_
    cases best with
    | none =>
      cases member
      exact first
    | some kept =>
      unfold closer at member
      dsimp only at member
      split at member
      · cases member
        exact first
      · cases member
        exact start _ rfl

/-- A value is read by the first member that reads it exactly. -/
theorem ofJson_eq (earlier : List Member) {later : List Member} {member : Member}
    (order : members = earlier ++ member :: later)
    (loose : ∀ other ∈ earlier, ∀ value, other.2 document ≠ .ok (value, .exact))
    (exact : member.2 document = .ok (found, .exact)) : ofJson document = .ok found := by
  have inexact : ∀ reading ∈ (earlier.map fun other =>
      (other.2 document).under (.key other.1)).filterMap Except.toOption, reading.2 ≠ .exact := by
    rintro ⟨value, fit⟩ fits rfl
    obtain ⟨_, among, read⟩ := List.mem_filterMap.mp fits
    obtain ⟨other, before, rfl⟩ := List.mem_map.mp among
    refine loose other before value ?_
    cases reads : other.2 document with
    | ok reading =>
      rw [reads] at read
      exact congrArg Except.ok (Option.some.inj read)
    | error issues =>
      rw [reads] at read
      cases read
  have fits : ((member.2 document).under (.key member.1)).toOption = some (found, .exact) := by
    rw [exact]
    rfl
  have best := closer_inexact found (foldl_closer_inexact inexact none (by simp))
  unfold ofJson
  dsimp only
  rw [order, List.map_append, List.map_cons, List.filterMap_append, List.filterMap_cons_some fits, List.foldl_append,
    List.foldl_cons, best, foldl_closer_exact]

theorem lift_eq_ok {α : Type} {wrap : α → AttrValue} {read : Json → Checked (α × Fit)} {fit : Fit} :
    lift wrap read document = .ok (found, fit) ↔ ∃ value, read document = .ok (value, fit) ∧ wrap value = found := by
  unfold lift
  rw [Attempt.map_eq_ok]
  constructor
  · rintro ⟨⟨value, _⟩, reads, same⟩
    cases same
    exact ⟨value, reads, rfl⟩
  · rintro ⟨value, reads, rfl⟩
    exact ⟨(value, fit), reads, rfl⟩

/-- A value is read back from its document. -/
theorem ofJson_toJson (value : AttrValue) : ofJson value.toJson = .ok value.settled := by
  -- The members before that of the value's own kind read it loosely, if at all.
  cases value with
  | bool b => exact ofJson_eq [] rfl nofun (lift_eq_ok.mpr ⟨b, readBool_exact.mpr rfl, rfl⟩)
  | int n =>
    refine ofJson_eq (members.take 1) rfl ?_ (lift_eq_ok.mpr ⟨n, readInt_exact.mpr rfl, rfl⟩)
    simp [members, lift_eq_ok, readBool_exact, toJson]
  | float x =>
    refine ofJson_eq (members.take 2) rfl ?_ (lift_eq_ok.mpr ⟨x, readReal_exact.mpr rfl, rfl⟩)
    simp [members, lift_eq_ok, readBool_exact, readInt_exact, toJson]
  | str s =>
    refine ofJson_eq (members.take 3) rfl ?_ (lift_eq_ok.mpr ⟨s, readText_exact.mpr rfl, rfl⟩)
    simp [members, lift_eq_ok, readBool_exact, readInt_exact, readReal_exact, toJson]
  | ints ns =>
    refine ofJson_eq (members.take 4) rfl ?_ (lift_eq_ok.mpr ⟨ns, readList_exact.mpr ⟨_, rfl, ?_⟩, rfl⟩)
    · simp [members, lift_eq_ok, readBool_exact, readInt_exact, readReal_exact, readText_exact, toJson]
    · rw [List.map_map]
      rfl
  | floats xs =>
    cases xs with
    | nil => rfl
    | cons x xs =>
      refine ofJson_eq (members.take 5) rfl ?_
        (lift_eq_ok.mpr ⟨x :: xs, readList_exact.mpr ⟨_, rfl, ?_⟩, rfl⟩)
      · have integers := readList_inexact readInt (.float x) (by simp [readInt_exact])
        simp [members, lift_eq_ok, readBool_exact, readInt_exact, readReal_exact, readText_exact, toJson, integers]
      · rw [List.map_map]
        rfl
  | strs ss =>
    cases ss with
    | nil => rfl
    | cons s ss =>
      refine ofJson_eq (members.take 6) rfl ?_
        (lift_eq_ok.mpr ⟨s :: ss, readList_exact.mpr ⟨_, rfl, ?_⟩, rfl⟩)
      · have integers := readList_inexact readInt (.str s) (by simp [readInt_exact])
        have reals := readList_inexact readReal (.str s) (by simp [readReal_exact])
        simp [members, lift_eq_ok, readBool_exact, readInt_exact, readReal_exact, readText_exact, toJson, integers,
          reals]
      · rw [List.map_map]
        rfl

end

end AttrValue

end LayerGraph
