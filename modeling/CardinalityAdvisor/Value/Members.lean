import CardinalityAdvisor.Decimal.Binary
import CardinalityAdvisor.Value.Basic

/-!
# The members of a set

Equal members of a set count once. A set keeps its members in a table, in which the place of a
number follows from its hash, so a set of numbers lists them in the order of the table and not in
the order in which they were given. The hash of a number is its remainder modulo a prime, which is
the same for equal integers and doubles. Members without such a hash are kept as they are given.

## Main definitions

* `Value.sameMember`: whether two members count as the same
* `Value.membersInOrder`: integers in ascending order
* `Value.hash?`: the hash of a number
* `MemberTable`: the table of a set
* `Value.setOf`: a set, in which equal members count once

## Main results

* `MemberTable.insert_perm`: a member that is put into a table is one more
* `Value.tableOrder_perm`: the order of the table loses no member and adds none
-/

namespace CardinalityAdvisor

namespace Value

/-- Whether a double is exactly an integer. -/
def isExactly (x : Float) (i : Int) : Bool :=
  x == Float.ofInt i && Decimal.truncate? x == some i

/-- Whether two members of a set count as the same. -/
def sameMember (a b : Value) : Bool :=
  match a, b with
  | .null, .null => true
  | .text a, .text b => a == b
  | .mode a, .mode b => a == b
  | .joinType a, .joinType b => a == b
  | .queryClass a, .queryClass b => a == b
  | .sample a, .sample b => a.target == b.target && a.count == b.count
  | .float a, .float b => a == b
  | .float a, b => b.asInt?.any (isExactly a)
  | a, .float b => a.asInt?.any (isExactly b)
  | a, b => a.asInt?.isSome && a.asInt? == b.asInt?

/-- Members in order if all of them are integers, else as they are. -/
def membersInOrder (members : List Value) : List Value :=
  if members.all (·.asInt?.isSome) then
    sortBy (fun a b => decide (a.asInt?.getD 0 ≤ b.asInt?.getD 0)) members
  else members

/-- The modulus of the hashes of numbers, a prime. -/
def hashModulus : Nat := Nat.pow 2 61 - 1

/-- The hash with a sign and a magnitude. Minus one is not used as a hash; minus two stands for
it. -/
def signedHash (negative : Bool) (magnitude : Nat) : UInt64 :=
  if !negative then .ofNat magnitude
  else if magnitude = 1 then 0 - 2
  else 0 - .ofNat magnitude

/-- The magnitude of the hashes of the infinities. -/
def infinityHash : Nat := 314159

/-- The hash of a number: its remainder modulo a prime, with the sign of the number. A double may
have a fraction; as two to the power of 61 leaves the remainder one, the exponent of its unit is
reduced modulo 61. Nothing for NaN and for members that are no numbers. -/
def hash? : Value → Option UInt64
  | .float x =>
    match Decimal.Binary.ofFloat? x with
    | some b =>
      some (signedHash b.negative
        (b.mantissa * Nat.pow 2 (b.exponent % 61).toNat % hashModulus))
    | none => if x.isNaN then none else some (signedHash (x < 0) infinityHash)
  | other => other.asInt?.map fun i => signedHash (decide (i < 0)) (i.natAbs % hashModulus)

end Value

/-- A member in the table of a set. -/
structure MemberEntry where
  slot : Nat
  hash : UInt64
  member : Value
  deriving Inhabited, Repr

/-- The table of a set: the number of its slots, a power of two, and what stands in them. -/
structure MemberTable where
  size : Nat := 8
  entries : List MemberEntry := []
  deriving Inhabited, Repr

namespace MemberTable

/-- Whether something stands in a slot. -/
def isTaken (t : MemberTable) (slot : Nat) : Bool := t.entries.any fun e => e.slot == slot

/-- The first free one of `count` slots in a row. -/
def freeFrom? (t : MemberTable) : (count slot : Nat) → Option Nat
  | 0, _ => none
  | count + 1, slot => if t.isTaken slot then t.freeFrom? count (slot + 1) else some slot

/-- The number of slots that are looked at in a row, unless the table ends before. -/
def rowLength : Nat := 10

/-- The free slot that is found from a slot on: a row of slots is looked at, and if all of them
are taken the search goes on at a slot that the remaining bits of the hash decide. At most `fuel`
rows are looked at. -/
def search (t : MemberTable) : (fuel slot : Nat) → (bits : UInt64) → Nat
  | 0, slot, _ => slot
  | fuel + 1, slot, bits =>
    match t.freeFrom? (if slot + rowLength ≤ t.size then rowLength else 1) slot with
    | some free => free
    | none =>
      let bits := bits >>> 5
      t.search fuel ((slot * 5 + 1 + bits.toNat) % t.size) bits

/-- The rows after which no bits of a hash remain. -/
def hashRows : Nat := 13

/-- The table with a member put into the slot that its hash leads to. Once no bits of the hash
remain, the search comes to every slot, so it ends before the rows do. -/
def add (t : MemberTable) (hash : UInt64) (member : Value) : MemberTable :=
  let slot := t.search (hashRows + t.size) (hash.toNat % t.size) hash
  { t with entries := ⟨slot, hash, member⟩ :: t.entries }

/-- What stands in the table, in the order of the slots. -/
def inOrder (t : MemberTable) : List MemberEntry :=
  sortBy (fun a b => decide (a.slot ≤ b.slot)) t.entries

/-- The same members in a table that is larger than four times their number. -/
def grown (t : MemberTable) : MemberTable :=
  t.inOrder.foldl (fun larger e => larger.add e.hash e.member)
    { size := Nat.pow 2 (Nat.log2 (4 * t.entries.length) + 1) }

/-- The table with one more member; it grows when three fifths of its slots are taken. -/
def insert (t : MemberTable) (hash : UInt64) (member : Value) : MemberTable :=
  let t := t.add hash member
  if t.entries.length * 5 < (t.size - 1) * 3 then t else t.grown

/-- The members in the table, in the order of the slots. -/
def members (t : MemberTable) : List Value := t.inOrder.map (·.member)

/-- The order of the slots loses no member. -/
theorem members_perm (t : MemberTable) : t.members.Perm (t.entries.map (·.member)) :=
  (sortBy_perm _ _).map _

/-- The members of a larger table are those that were put into it. -/
theorem foldl_add_perm (es : List MemberEntry) (t : MemberTable) :
    ((es.foldl (fun larger e => larger.add e.hash e.member) t).entries.map (·.member)).Perm
      (es.map (·.member) ++ t.entries.map (·.member)) := by
  induction es generalizing t with
  | nil => exact .refl _
  | cons e es ih =>
    rw [List.foldl_cons, List.map_cons, List.cons_append]
    exact (ih _).trans List.perm_middle

/-- A table grows with all its members. -/
theorem grown_perm (t : MemberTable) :
    (t.grown.entries.map (·.member)).Perm (t.entries.map (·.member)) := by
  have moved := foldl_add_perm t.inOrder { size := Nat.pow 2 (Nat.log2 (4 * t.entries.length) + 1) }
  rw [List.map_nil, List.append_nil] at moved
  exact moved.trans t.members_perm

/-- A member that is put into a table is one more. -/
theorem insert_perm (t : MemberTable) (hash : UInt64) (member : Value) :
    ((t.insert hash member).entries.map (·.member)).Perm
      (member :: t.entries.map (·.member)) := by
  by_cases room : (t.add hash member).entries.length * 5 < ((t.add hash member).size - 1) * 3
  · rw [insert, if_pos room]
    exact .refl _
  · rw [insert, if_neg room]
    exact grown_perm _

end MemberTable

namespace Value

/-- Numbers in the order of the table of the set that has them as its members. -/
def tableOrder (members : List Value) : List Value :=
  match members.mapM fun m => m.hash?.map fun hash => (hash, m) with
  | some hashed =>
    (hashed.foldl (fun t (hash, m) => t.insert hash m) ({} : MemberTable)).members
  | none => members

/-- The members of a table are those that were put into it. -/
theorem foldl_insert_perm (hashed : List (UInt64 × Value)) (t : MemberTable) :
    ((hashed.foldl (fun t (hash, m) => t.insert hash m) t).entries.map (·.member)).Perm
      (hashed.map (·.2) ++ t.entries.map (·.member)) := by
  induction hashed generalizing t with
  | nil => exact .refl _
  | cons first rest ih =>
    rw [List.foldl_cons, List.map_cons, List.cons_append]
    exact (ih _).trans ((List.Perm.append_left _ (t.insert_perm _ _)).trans List.perm_middle)

/-- Members that are paired with their hashes stay as they are. -/
theorem map_snd_of_mapM_hash {members : List Value} {hashed : List (UInt64 × Value)}
    (h : (members.mapM fun m => m.hash?.map fun hash => (hash, m)) = some hashed) :
    hashed.map (·.2) = members := by
  induction members generalizing hashed with
  | nil =>
    rw [List.mapM_nil] at h
    cases h
    rfl
  | cons m rest ih =>
    rw [List.mapM_cons] at h
    cases found : m.hash? with
    | none => simp [found] at h
    | some hash =>
      simp only [found, Option.map_some, Option.bind_eq_bind, Option.bind_some] at h
      obtain ⟨others, foundOthers, same⟩ := Option.bind_eq_some_iff.mp h
      cases same
      rw [List.map_cons, ih foundOthers]

/-- The order of the table loses no member and adds none. -/
theorem tableOrder_perm (members : List Value) : (tableOrder members).Perm members := by
  unfold tableOrder
  split
  · rename_i hashed h
    have kept := foldl_insert_perm hashed {}
    rw [List.map_nil, List.append_nil, map_snd_of_mapM_hash h] at kept
    exact (MemberTable.members_perm _).trans kept
  · exact .refl _

/-- Members without those that are equal to one before them. -/
def distinctMembers (members : List Value) : List Value :=
  members.foldl (fun kept m => if kept.any (sameMember m) then kept else kept ++ [m]) []

/-- A set with the given members, equal ones only once. -/
def setOf (members : List Value) : Value := .set (tableOrder (distinctMembers members))

end Value

end CardinalityAdvisor
