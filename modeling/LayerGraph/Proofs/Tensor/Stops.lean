import LayerGraph.Proofs.Tensor.Header
import Mathlib.Algebra.GroupWithZero.Nat

/-! How far the walk over a header goes, whatever numbers the header gives.

A plan asks for one part of the bytes after the other, and what it asks for next may depend on what it has taken. Every
part that is asked for is a stop. Between two stops the cursor moves by what is taken there, so it never leaves the bytes.
An entry is begun by asking for the eight bytes of its length, which are there for every entry but the last one that is
begun. So the bytes bound the entries that are begun, and the number of entries in the header does not.
-/

set_option autoImplicit false

namespace LayerGraph

/-- A plan to take bytes, part by part. -/
inductive Plan (α : Type) where
  /-- Take all that is left. -/
  | rest (value : Bytes → α)
  | refuse (defect : PayloadDefect)
  | take (part : PayloadPart) (count : Nat) (next : Bytes → Plan α)

/-- A part of known length, or else all that is left, which is asked for at a cursor. -/
structure Stop where
  part : Option PayloadPart
  count : Nat
  cursor : Cursor
  deriving DecidableEq, Repr

/-- A stop for the length of an entry: there a turn of the loop over the entries begins. -/
def Stop.beginsEntry (stop : Stop) : Bool :=
  match stop.part with
  | some (.entryLength _) => true
  | _ => false

/-- Stops one behind the other: each takes as many bytes as it asks for, and only at the last one there may be too
few. -/
inductive Stop.Consecutive : Cursor → List Stop → Prop
  | none {cursor : Cursor} : Consecutive cursor []
  | last {cursor : Cursor} {part : Option PayloadPart} {count : Nat} : Consecutive cursor [⟨part, count, cursor⟩]
  | step {cursor : Cursor} {part : Option PayloadPart} {count : Nat} {later : List Stop}
      (fits : count ≤ cursor.rest.length)
      (behind : Consecutive ⟨cursor.rest.drop count, cursor.offset + count⟩ later) :
      Consecutive cursor (⟨part, count, cursor⟩ :: later)

namespace Stop

variable {cursor : Cursor} {stops : List Stop}

/-- A stop stands behind all that the stops before it have taken, and not beyond the end. -/
theorem Consecutive.stands {front back : List Stop} {stop : Stop} (consecutive : Consecutive cursor stops)
    (split : stops = front ++ stop :: back) :
    stop.cursor.offset = cursor.offset + (front.map Stop.count).sum ∧
      stop.cursor.rest = cursor.rest.drop (front.map Stop.count).sum ∧
      stop.cursor.offset ≤ cursor.offset + cursor.rest.length := by
  induction consecutive generalizing front with
  | none => simp at split
  | last =>
    cases front with
    | nil =>
      obtain ⟨rfl, _⟩ := List.cons.inj split
      exact ⟨rfl, rfl, Nat.le_add_right _ _⟩
    | cons first front => simp at split
  | step fits behind ih =>
    cases front with
    | nil =>
      obtain ⟨rfl, rfl⟩ := List.cons.inj split
      exact ⟨rfl, rfl, Nat.le_add_right _ _⟩
    | cons first front =>
      obtain ⟨rfl, behind⟩ := List.cons.inj split
      obtain ⟨offset, rest, inside⟩ := ih behind
      dsimp only at offset rest inside
      rw [List.length_drop] at inside
      simp only [List.map_cons, List.sum_cons]
      exact ⟨by rw [offset, Nat.add_assoc], by rw [rest, List.drop_drop], by omega⟩

/-- The cursor never moves back. -/
theorem Consecutive.rises (consecutive : Consecutive cursor stops) :
    stops.Pairwise fun earlier later => earlier.cursor.offset ≤ later.cursor.offset := by
  induction consecutive with
  | none => exact .nil
  | last => exact List.pairwise_singleton _ _
  | step fits behind ih =>
    refine List.pairwise_cons.mpr ⟨fun stop member => ?_, ih⟩
    obtain ⟨front, back, split⟩ := List.append_of_mem member
    rw [(behind.stands split).1, Nat.add_assoc]
    exact Nat.le_add_right _ _

end Stop

namespace Plan

variable {α : Type}

/-- Follow a plan from a cursor: the stops that are made, and what comes of it. -/
def walk : Plan α → Cursor → List Stop × Except PayloadDefect α
  | rest value, cursor => ([⟨none, cursor.rest.length, cursor⟩], .ok (value cursor.rest))
  | refuse defect, _ => ([], .error defect)
  | take part count next, cursor =>
    match cursor.take count part with
    | .ok (taken, after) =>
      let (stops, result) := (next taken).walk after
      (⟨some part, count, cursor⟩ :: stops, result)
    | .error defect => ([⟨some part, count, cursor⟩], .error defect)

/-- Take an unsigned number of a width. -/
def number (width : Nat) (part : PayloadPart) (next : Nat → Plan α) : Plan α :=
  take part width fun taken => next (ofLittleEndian taken)

/-- Take `count` entries, the first of which has the given index. -/
def entries : Nat → Nat → (List Bytes → Plan α) → Plan α
  | 0, _, next => next []
  | count + 1, index, next =>
    number 8 (.entryLength index) fun length =>
      take (.entryData index) length fun entry =>
        entries count (index + 1) fun others => next (entry :: others)

/-- Take the descriptor after its signed size, and then the body. -/
def ending (version : Nat) (entries : List Bytes) (tensorVersion : Nat) : Plan Payload :=
  number 4 .descriptorSize fun raw =>
    if signedValue 4 raw < 0 then refuse (.negativeLength .descriptor (signedValue 4 raw))
    else take .descriptor (signedValue 4 raw).toNat fun descriptor =>
      rest fun body => ⟨version, entries, tensorVersion, descriptor, body⟩

/-- A payload whose inner version is the expected one, part by part. -/
def payload (expected : Int) : Plan Payload :=
  number 4 .version fun version =>
    number 8 .entryCount fun count =>
      entries count 0 fun entries =>
        number 4 .tensorVersion fun tensorVersion =>
          if (tensorVersion : Int) ≠ expected then refuse (.version tensorVersion expected)
          else ending version entries tensorVersion

section
variable {part : PayloadPart} {count width index : Nat} {cursor after : Cursor} {taken : Bytes} {defect : PayloadDefect}

theorem walk_take_ok {next : Bytes → Plan α} (found : cursor.take count part = .ok (taken, after)) :
    (take part count next).walk cursor =
      (⟨some part, count, cursor⟩ :: ((next taken).walk after).1, ((next taken).walk after).2) := by
  rw [walk, found]

theorem walk_take_error {next : Bytes → Plan α} (missing : cursor.take count part = .error defect) :
    (take part count next).walk cursor = ([⟨some part, count, cursor⟩], .error defect) := by
  rw [walk, missing]

/-! ### What a plan comes to -/

theorem result_take (next : Bytes → Plan α) :
    ((take part count next).walk cursor).2 =
      cursor.take count part >>= fun (taken, after) => ((next taken).walk after).2 := by
  cases found : cursor.take count part with
  | ok pair => rw [walk_take_ok found]; rfl
  | error defect => rw [walk_take_error found]; rfl

theorem result_number (next : Nat → Plan α) :
    ((number width part next).walk cursor).2 =
      cursor.number width part >>= fun (n, after) => ((next n).walk after).2 := by
  rw [number, result_take, Cursor.number]
  cases cursor.take width part <;> rfl

theorem result_entries (next : List Bytes → Plan α) :
    ((entries count index next).walk cursor).2 =
      Payload.readEntries count index cursor >>= fun (taken, after) => ((next taken).walk after).2 := by
  induction count generalizing index cursor next with
  | zero => rfl
  | succ count ih =>
    rw [entries, result_number, Payload.readEntries, bind_assoc]
    apply bind_congr
    rintro ⟨length, atEntry⟩
    dsimp only
    rw [result_take, bind_assoc]
    apply bind_congr
    rintro ⟨entry, behind⟩
    dsimp only
    rw [ih, bind_assoc]
    rfl

theorem result_ending (version : Nat) (entries : List Bytes) (tensorVersion : Nat) :
    ((ending version entries tensorVersion).walk cursor).2 =
      Payload.readDescriptor cursor >>= fun (descriptor, after) =>
        .ok ⟨version, entries, tensorVersion, descriptor, after.rest⟩ := by
  rw [ending, result_number, Payload.readDescriptor, bind_assoc]
  apply bind_congr
  rintro ⟨raw, atDescriptor⟩
  dsimp only
  split
  · rfl
  · rw [result_take]
    rfl

/-- Reading a payload is following its plan. -/
theorem result_payload (expected : Int) (bytes : Bytes) :
    ((payload expected).walk (.start bytes)).2 = Payload.read expected bytes := by
  rw [payload, result_number, Payload.read]
  apply bind_congr
  rintro ⟨version, atCount⟩
  dsimp only
  rw [result_number]
  apply bind_congr
  rintro ⟨count, atEntries⟩
  dsimp only
  rw [result_entries]
  apply bind_congr
  rintro ⟨entries, behind⟩
  dsimp only
  rw [result_number]
  apply bind_congr
  rintro ⟨tensorVersion, atDescriptor⟩
  dsimp only
  split
  · rfl
  · rw [result_ending]
    rfl

/-! ### Where a plan stops -/

theorem length_of_take (found : cursor.take count part = .ok (taken, after)) :
    cursor.rest.length = count + after.rest.length := by
  obtain ⟨rfl, split, _⟩ := Cursor.take_eq_ok.mp found
  rw [split, List.length_append]

theorem consecutive_walk (plan : Plan α) : Stop.Consecutive cursor (plan.walk cursor).1 := by
  induction plan generalizing cursor with
  | rest value => exact .last
  | refuse defect => exact .none
  | take part count next ih =>
    cases found : cursor.take count part with
    | error defect =>
      rw [walk_take_error found]
      exact .last
    | ok pair =>
      obtain ⟨taken, after⟩ := pair
      rw [walk_take_ok found]
      obtain ⟨rfl, split, offset⟩ := Cursor.take_eq_ok.mp found
      have behind : after = ⟨cursor.rest.drop taken.length, cursor.offset + taken.length⟩ := by
        rw [split, List.drop_left, ← offset]
      refine .step ?_ (behind ▸ ih taken)
      rw [split, List.length_append]
      exact Nat.le_add_right _ _

/-- A plan that comes to a value has taken everything. -/
theorem sum_of_walk_eq_ok {plan : Plan α} {value : α} (ended : (plan.walk cursor).2 = .ok value) :
    ((plan.walk cursor).1.map Stop.count).sum = cursor.rest.length := by
  induction plan generalizing cursor with
  | rest value => rfl
  | refuse defect => cases ended
  | take part count next ih =>
    cases found : cursor.take count part with
    | error defect =>
      rw [walk_take_error found] at ended
      cases ended
    | ok pair =>
      obtain ⟨taken, after⟩ := pair
      rw [walk_take_ok found] at ended ⊢
      rw [List.map_cons, List.sum_cons, ih taken ended, length_of_take found]

/-! ### The entries that are begun -/

/-- The number of entries that a plan begins. -/
def begun (plan : Plan α) (cursor : Cursor) : Nat := (plan.walk cursor).1.countP Stop.beginsEntry

theorem begun_take_ok {next : Bytes → Plan α} (found : cursor.take count part = .ok (taken, after)) :
    (take part count next).begun cursor =
      (next taken).begun after + if Stop.beginsEntry ⟨some part, count, cursor⟩ then 1 else 0 := by
  rw [begun, walk_take_ok found, List.countP_cons]
  rfl

theorem begun_take_error {next : Bytes → Plan α} (missing : cursor.take count part = .error defect) :
    (take part count next).begun cursor = if Stop.beginsEntry ⟨some part, count, cursor⟩ then 1 else 0 := by
  rw [begun, walk_take_error missing, List.countP_singleton]

/-- A part that is no length of an entry begins none. -/
theorem begun_take_le {next : Bytes → Plan α} {bound : Nat} (other : ∀ index, part ≠ .entryLength index)
    (later : ∀ taken after, cursor.rest.length = count + after.rest.length → (next taken).begun after ≤ bound) :
    (take part count next).begun cursor ≤ bound := by
  have none : Stop.beginsEntry ⟨some part, count, cursor⟩ = false := by
    unfold Stop.beginsEntry
    split
    · next index same => exact absurd (Option.some.inj same) (other index)
    · rfl
  cases found : cursor.take count part with
  | error defect => simp [begun_take_error found, none]
  | ok pair => simpa [begun_take_ok found, none] using later pair.1 pair.2 (length_of_take found)

theorem begun_number_le {next : Nat → Plan α} {bound : Nat} (other : ∀ index, part ≠ .entryLength index)
    (later : ∀ n after, cursor.rest.length = width + after.rest.length → (next n).begun after ≤ bound) :
    (number width part next).begun cursor ≤ bound :=
  begun_take_le other fun taken => later (ofLittleEndian taken)

/-- Every entry that is begun but the last one has taken the eight bytes of its length. -/
theorem begun_entries_le {next : List Bytes → Plan α} (bare : ∀ entries cursor, (next entries).begun cursor = 0) :
    (entries count index next).begun cursor ≤ cursor.rest.length / 8 + 1 := by
  induction count generalizing index cursor next with
  | zero =>
    rw [entries, bare]
    exact Nat.zero_le _
  | succ count ih =>
    rw [entries, number]
    cases found : cursor.take 8 (.entryLength index) with
    | error defect =>
      rw [begun_take_error found]
      exact Nat.le_add_left 1 _
    | ok pair =>
      obtain ⟨raw, behind⟩ := pair
      have later : (take (.entryData index) (ofLittleEndian raw) fun entry =>
          entries count (index + 1) fun others => next (entry :: others)).begun behind ≤
            behind.rest.length / 8 + 1 := by
        refine begun_take_le nofun fun entry after length => ?_
        calc
          _ ≤ after.rest.length / 8 + 1 := ih fun others => bare (entry :: others)
          _ ≤ behind.rest.length / 8 + 1 := by omega
      rw [begun_take_ok found, length_of_take found, Nat.add_div_left _ (by decide)]
      exact Nat.succ_le_succ later

theorem begun_ending (version : Nat) (entries : List Bytes) (tensorVersion : Nat) :
    (ending version entries tensorVersion).begun cursor = 0 := by
  refine Nat.le_zero.mp (begun_number_le nofun fun raw atDescriptor _ => ?_)
  split
  · exact Nat.le_refl 0
  · exact begun_take_le nofun fun descriptor after _ => Nat.le_refl 0

/-- The twelve bytes in front of the entries are no part of any. -/
theorem begun_payload_le (expected : Int) (bytes : Bytes) :
    (payload expected).begun (.start bytes) ≤ (bytes.length - 12) / 8 + 1 := by
  refine begun_number_le nofun fun version atCount four => begun_number_le nofun fun count atEntries eight => ?_
  have length : bytes.length - 12 = atEntries.rest.length := by
    dsimp only [Cursor.start] at four
    omega
  rw [length]
  refine begun_entries_le fun entries cursor => ?_
  refine Nat.le_zero.mp (begun_number_le nofun fun tensorVersion atDescriptor _ => ?_)
  split
  · exact Nat.le_refl 0
  · exact Nat.le_of_eq (begun_ending ..)

end

end Plan

namespace Payload

/-- The stops on the way through a payload, up to where it is refused or to its end. -/
def stops (expected : Int) (bytes : Bytes) : List Stop := ((Plan.payload expected).walk (.start bytes)).1

/-- Decoding goes through a payload by its plan. Whatever counts and lengths the header gives, no more entries are begun
than the bytes behind the first twelve have room for lengths, and one more. The cursor never moves back or beyond the
end: at every stop it has moved by what was taken before, and stands in front of all the other bytes. A payload that is
read has been taken as a whole. -/
theorem stops_bounded (expected : Int) (bytes : Bytes) :
    (∀ type declared name, Tensor.decodeTyped bytes type declared expected name =
      (((Plan.payload expected).walk (.start bytes)).2.mapError (Tensor.payloadFailure name) >>= fun payload =>
        type >>= fun element => Tensor.decodeBody element declared name payload.body)) ∧
    (stops expected bytes).countP Stop.beginsEntry ≤ (bytes.length - 12) / 8 + 1 ∧
    ((stops expected bytes).Pairwise fun earlier later => earlier.cursor.offset ≤ later.cursor.offset) ∧
    (∀ front stop back, stops expected bytes = front ++ stop :: back →
      stop.cursor.offset = (front.map Stop.count).sum ∧ stop.cursor.offset ≤ bytes.length ∧
        stop.cursor.rest = bytes.drop stop.cursor.offset) ∧
    ∀ payload, read expected bytes = .ok payload → ((stops expected bytes).map Stop.count).sum = bytes.length := by
  have consecutive : Stop.Consecutive (.start bytes) (stops expected bytes) := Plan.consecutive_walk _
  refine ⟨fun type declared name => ?_, Plan.begun_payload_le expected bytes, consecutive.rises,
    fun front stop back split => ?_, fun payload found => ?_⟩
  · rw [Plan.result_payload]
    rfl
  · obtain ⟨offset, rest, inside⟩ := consecutive.stands split
    simp only [Cursor.start, Nat.zero_add] at offset rest inside
    exact ⟨offset, inside, by rw [rest, offset]⟩
  · exact Plan.sum_of_walk_eq_ok ((Plan.result_payload expected bytes).trans found)

/-- The header gives the largest number of entries, the first of which is empty. The length of the second one is cut off. -/
example :
    let bytes := littleEndian 4 0 ++ littleEndian 8 0xffffffffffffffff ++ littleEndian 8 0 ++ [1, 2, 3]
    read 0 bytes = .error (.truncated (.entryLength 1) 8 20 3) ∧
      (stops 0 bytes).countP Stop.beginsEntry = 2 ∧ (bytes.length - 12) / 8 + 1 = 2 := by
  exact ⟨rfl, rfl, rfl⟩

end Payload

end LayerGraph
