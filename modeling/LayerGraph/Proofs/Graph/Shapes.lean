import LayerGraph.Proofs.Graph.Ports

/-! The shapes at the ports of layers.

A port keeps its shape whatever it is wired to, and whatever layers follow. Only a layer that hands data out
has its shape held against the shape that reaches it.
-/

set_option autoImplicit false

namespace LayerGraph

namespace Layer

/-- The shape at an output port among some layers. -/
def sourceShape? (layers : List Layer) (ref : PortRef) : Option Shape :=
  (portAmong? outputs layers ref).map OutputPort.shape

/-- The shape at an input port among some layers. -/
def targetShape? (layers : List Layer) (ref : PortRef) : Option Shape :=
  (portAmong? inputs layers ref).map InputPort.shape

/-- The port belongs to a layer that does not hand data out. -/
def PassesOn (layers : List Layer) (ref : PortRef) : Prop :=
  ∃ layer, layers[ref.node.toNat]? = some layer ∧ layer.kind ≠ .output

/-- The shapes at the ends of a connection agree. -/
def Agree (layers : List Layer) (source target : PortRef) : Prop :=
  ∃ given taken, sourceShape? layers source = some given ∧ targetShape? layers target = some taken ∧
    Shape.compatible given taken = true

/-- The shapes at the ends of a connection agree if it ends at a layer that hands data out. -/
def Checked (layers : List Layer) (source target : PortRef) : Prop :=
  PassesOn layers target ∨ Agree layers source target

section
variable {layers front : List Layer} {ref source target : PortRef} {shape : Shape}

theorem sourceShape?_bare (layers : List Layer) : sourceShape? (layers.map bare) = sourceShape? layers := by
  funext ref
  rw [sourceShape?, portAmong?_bare_outputs, Option.map_map]
  rfl

theorem targetShape?_bare (layers : List Layer) : targetShape? (layers.map bare) = targetShape? layers := by
  funext ref
  rw [targetShape?, portAmong?_bare_inputs, Option.map_map]
  rfl

theorem passesOn_bare : PassesOn (layers.map bare) ref ↔ PassesOn layers ref := by
  unfold PassesOn
  rw [List.getElem?_map]
  constructor
  · rintro ⟨layer, here, passes⟩
    obtain ⟨wired, there, rfl⟩ := Option.map_eq_some_iff.mp here
    exact ⟨wired, there, passes⟩
  · rintro ⟨layer, here, passes⟩
    exact ⟨layer.bare, by rw [here]; rfl, passes⟩

theorem agree_bare : Agree (layers.map bare) source target ↔ Agree layers source target := by
  unfold Agree
  rw [sourceShape?_bare, targetShape?_bare]

theorem checked_bare : Checked (layers.map bare) source target ↔ Checked layers source target :=
  or_congr passesOn_bare agree_bare

/-- More layers leave the ports of those in front. -/
theorem portAmong?_front {α : Type} {ports : Layer → List α} {port : α}
    (found : portAmong? ports front ref = some port) (back : List Layer) :
    portAmong? ports (front ++ back) ref = some port := by
  rw [portAmong?_append, if_pos (node_lt_of_portAmong? _ found), found]

/-- More layers in front move the ports of those behind them. -/
theorem portAmong?_behind {α : Type} {ports : Layer → List α} {port : α} {back : List Layer}
    (found : portAmong? ports back ref = some port) (front : List Layer) :
    portAmong? ports (front ++ back) (ref.rebase front.length) = some port := by
  have late : ¬ (ref.rebase front.length).node < front.length := by
    have := (plain_of_portAmong? _ found).1
    simp only [PortRef.rebase]
    omega
  rw [portAmong?_append, if_neg late, PortRef.rebase_rebase, Int.add_right_neg, PortRef.rebase_zero, found]

theorem sourceShape?_front (found : sourceShape? front ref = some shape) (back : List Layer) :
    sourceShape? (front ++ back) ref = some shape := by
  obtain ⟨port, present, rfl⟩ := Option.map_eq_some_iff.mp found
  exact Option.map_eq_some_iff.mpr ⟨port, portAmong?_front present back, rfl⟩

theorem targetShape?_front (found : targetShape? front ref = some shape) (back : List Layer) :
    targetShape? (front ++ back) ref = some shape := by
  obtain ⟨port, present, rfl⟩ := Option.map_eq_some_iff.mp found
  exact Option.map_eq_some_iff.mpr ⟨port, portAmong?_front present back, rfl⟩

theorem Agree.append (agree : Agree front source target) (back : List Layer) :
    Agree (front ++ back) source target := by
  obtain ⟨given, taken, exits, enters, agrees⟩ := agree
  exact ⟨given, taken, sourceShape?_front exits back, targetShape?_front enters back, agrees⟩

theorem Checked.append (checked : Checked front source target) (back : List Layer) :
    Checked (front ++ back) source target := by
  rcases checked with ⟨layer, here, passes⟩ | agree
  · have inside := (List.getElem?_eq_some_iff.mp here).1
    exact .inl ⟨layer, (List.getElem?_append_left inside).trans here, passes⟩
  · exact .inr (agree.append back)

theorem sourceShape?_append_left (inside : ref.node < front.length) (back : List Layer) :
    sourceShape? (front ++ back) ref = sourceShape? front ref := by
  rw [sourceShape?, portAmong?_append, if_pos inside, sourceShape?]

/-- The shape at an output port of a layer that stands at a place. -/
theorem sourceShape?_of_getElem? {place : Nat} {layer : Layer} (here : layers[place]? = some layer) (slot : Nat) :
    sourceShape? layers ⟨place, slot⟩ = (layer.outputs.map OutputPort.shape)[slot]? := by
  rw [sourceShape?, portAmong?_natCast, here, List.getElem?_map]
  rfl

/-- A layer that stands at one place among others has the same output shapes there. -/
theorem sourceShape?_congr {place : Nat} {layer : Layer} (here : layers[place]? = some layer)
    (there : front[place]? = some layer) (slot : Nat) :
    sourceShape? layers ⟨place, slot⟩ = sourceShape? front ⟨place, slot⟩ :=
  (sourceShape?_of_getElem? here slot).trans (sourceShape?_of_getElem? there slot).symm

theorem targetShape?_of_getElem? {place : Nat} {layer : Layer} (here : layers[place]? = some layer) (slot : Nat) :
    targetShape? layers ⟨place, slot⟩ = (layer.inputs.map InputPort.shape)[slot]? := by
  rw [targetShape?, portAmong?_natCast, here, List.getElem?_map]
  rfl

end

end Layer

end LayerGraph
