import StatusListPlugin.Python

/-!
# Bit arrays

`publish_status_list` appends one bit per entry to a `bitarray`, turns it into bytes with
`tobytes` and gzips them. A `bitarray` keeps its default big-endian order: the first bit of
each byte is its most significant one, and `tobytes` fills the last byte with zero bits. This
module models `append` and `tobytes`, and the reading a verifier makes of the bytes, and proves
that the reading gives back the appended bits followed by the zero padding.
-/

namespace StatusListPlugin

/-- The bit `bitarray.append(value)` appends: an `int` `0` or `1`, or a `bool`; another integer
raises `ValueError`, any other value `TypeError`. -/
def statusBit : JsonValue → Except PyError Bool
  | .int n =>
      if n = 0 then pure false
      else if n = 1 then pure true
      else throw (.valueError "bit must be 0 or 1")
  | .bool bit => pure bit
  | _ => throw .typeError

/-- `bits.append(value)`. -/
def appendBit (bits : List Bool) (value : JsonValue) : Except PyError (List Bool) := do
  pure (bits ++ [← statusBit value])

/-- The byte holding eight bits, most significant first; a missing bit is `0`. -/
def byteOf (bits : List Bool) : UInt8 :=
  UInt8.ofNat ((List.range 8).foldl (fun value j => 2 * value + (bits.getD j false).toNat) 0)

/-- `count` bytes from the bits, eight at a time. -/
def packBytes : Nat → List Bool → List UInt8
  | 0, _ => []
  | count + 1, bits => byteOf bits :: packBytes count (bits.drop 8)

/-- `bitarray.tobytes()`: as many bytes as the bits need, the last one padded with zero bits. -/
def tobytes (bits : List Bool) : List UInt8 :=
  packBytes ((bits.length + 7) / 8) bits

/-- The bits of a byte, most significant first. -/
def bitsOfByte (byte : UInt8) : List Bool :=
  (List.range 8).map fun j => byte.toNat.testBit (7 - j)

/-- Bytes read as bits, most significant first within each byte. -/
def readBits (bytes : List UInt8) : List Bool :=
  bytes.flatMap bitsOfByte

/-! ## Appending -/

@[simp] theorem statusBit_zero : statusBit (.int 0) = .ok false := rfl

@[simp] theorem statusBit_one : statusBit (.int 1) = .ok true := rfl

/-- Appending the statuses one by one appends the bits of all of them, or raises at the first
status that is not a bit. -/
theorem foldlM_appendBit (values : List JsonValue) (bits : List Bool) :
    values.foldlM appendBit bits = (bits ++ ·) <$> values.mapM statusBit := by
  induction values generalizing bits with
  | nil => rw [List.mapM_nil, except_pure_eq, except_map_ok, List.append_nil]; rfl
  | cons value rest inductionHypothesis =>
      rw [List.foldlM_cons, List.mapM_cons, appendBit]
      cases statusBit value with
      | error cause => rfl
      | ok bit =>
          simp only [except_ok_bind, except_pure_eq, inductionHypothesis]
          cases rest.mapM statusBit <;> simp

/-! ## Bytes -/

/-- Reading a byte back gives its eight bits. -/
theorem bitsOfByte_byteOf (bits : List Bool) :
    bitsOfByte (byteOf bits) = (List.range 8).map (bits.getD · false) := by
  have eight : ∀ b₀ b₁ b₂ b₃ b₄ b₅ b₆ b₇ : Bool,
      bitsOfByte (UInt8.ofNat (2 * (2 * (2 * (2 * (2 * (2 * (2 * (2 * 0 + b₀.toNat) + b₁.toNat) +
        b₂.toNat) + b₃.toNat) + b₄.toNat) + b₅.toNat) + b₆.toNat) + b₇.toNat)) =
        [b₀, b₁, b₂, b₃, b₄, b₅, b₆, b₇] := by decide
  exact eight _ _ _ _ _ _ _ _

theorem length_packBytes (count : Nat) (bits : List Bool) :
    (packBytes count bits).length = count := by
  induction count generalizing bits with
  | zero => rfl
  | succ count inductionHypothesis => simp [packBytes, inductionHypothesis]

theorem readBits_packBytes (count : Nat) (bits : List Bool) :
    readBits (packBytes count bits) = (List.range (8 * count)).map (bits.getD · false) := by
  induction count generalizing bits with
  | zero => rfl
  | succ count inductionHypothesis =>
      rw [packBytes, readBits, List.flatMap_cons, ← readBits, inductionHypothesis,
        bitsOfByte_byteOf, Nat.mul_succ, Nat.add_comm, List.range_add, List.map_append,
        List.map_map]
      congr 1
      refine List.map_congr_left fun j _ => ?_
      simp [List.getD_eq_getElem?_getD, List.getElem?_drop]

/-- The first `total` bits, a missing bit `0`. -/
theorem map_getD_range {bits : List Bool} {total : Nat} (fits : bits.length ≤ total) :
    (List.range total).map (bits.getD · false) =
      bits ++ List.replicate (total - bits.length) false := by
  refine List.ext_getElem (by simp; omega) fun j inRange _ => ?_
  simp only [List.getElem_map, List.getElem_range]
  by_cases appended : j < bits.length
  · rw [List.getElem_append_left appended, List.getD_eq_getElem?_getD,
      List.getElem?_eq_getElem appended, Option.getD_some]
  · rw [List.getElem_append_right (by omega), List.getElem_replicate,
      List.getD_eq_getElem?_getD, List.getElem?_eq_none (by omega), Option.getD_none]

@[simp] theorem length_tobytes (bits : List Bool) :
    (tobytes bits).length = (bits.length + 7) / 8 :=
  length_packBytes _ _

/-- Reading the bytes of `tobytes` back gives the bits, then zero bits up to a whole byte. -/
theorem readBits_tobytes (bits : List Bool) :
    readBits (tobytes bits) = bits ++ List.replicate ((8 - bits.length % 8) % 8) false := by
  rw [tobytes, readBits_packBytes, map_getD_range (by omega)]
  congr 2
  omega

end StatusListPlugin
