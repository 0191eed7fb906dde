import Mathlib.Data.List.Basic
import Mathlib.Data.List.Forall2

/-!
# Python values of the request handlers

The handlers parse their request bodies with `request.json()` and work on the resulting
Python values. This module gives those values, the exceptions the handlers raise or let
through, and the builtins they apply to them: `dict.get`, the comparison `status_size > 1`,
the integer reading `range` makes of its arguments, `list(range(...))` itself, and the
conversions `int(value)` and `dict(value)` that marshmallow's `fields.Int` and `fields.Dict`
apply when a record is serialized.
-/

namespace StatusListPlugin

/-- A parsed JSON value, as `json.loads` returns it. -/
inductive JsonValue
  | null
  | bool (value : Bool)
  | int (value : Int)
  | float (value : Float)
  | str (value : String)
  | array (items : List JsonValue)
  | object (fields : List (String × JsonValue))

/-- The exceptions raised by the modelled code: Python builtins and the storage errors of
the record store. The storage errors are the modelled subclasses of ACA-Py's `BaseError`. -/
inductive PyError
  | valueError (message : String)
  | typeError
  | attributeError
  | storageError (message : String)
  | storageNotFound
  | storageDuplicate
  | unboundLocalError
  | overflowError
  deriving DecidableEq, Repr

@[simp] theorem except_pure_eq {ε α : Type} (a : α) : (pure a : Except ε α) = .ok a := rfl

@[simp] theorem except_throw_eq {ε α : Type} (e : ε) : (throw e : Except ε α) = .error e := rfl

@[simp] theorem except_ok_bind {ε α β : Type} (a : α) (f : α → Except ε β) :
    (Except.ok a >>= f) = f a := rfl

@[simp] theorem except_error_bind {ε α β : Type} (e : ε) (f : α → Except ε β) :
    (Except.error e >>= f) = Except.error e := rfl

@[simp] theorem except_map_ok {ε α β : Type} (f : α → β) (a : α) :
    f <$> (Except.ok a : Except ε α) = .ok (f a) := rfl

@[simp] theorem except_map_error {ε α β : Type} (f : α → β) (e : ε) :
    f <$> (Except.error e : Except ε α) = .error e := rfl

theorem except_bind_eq_ok {ε α β : Type} {x : Except ε α} {f : α → Except ε β} {b : β} :
    x >>= f = .ok b ↔ ∃ a, x = .ok a ∧ f a = .ok b := by
  cases x <;> simp [bind, Except.bind]

theorem except_bind_eq_error {ε α β : Type} {x : Except ε α} {f : α → Except ε β} {e : ε} :
    x >>= f = .error e ↔ x = .error e ∨ ∃ a, x = .ok a ∧ f a = .error e := by
  cases x <;> simp [bind, Except.bind]

theorem except_map_eq_ok {ε α β : Type} {x : Except ε α} {f : α → β} {b : β} :
    f <$> x = .ok b ↔ ∃ a, x = .ok a ∧ f a = b := by
  cases x <;> simp [Functor.map, Except.map]

theorem except_mapM_eq_ok {ε α β : Type} {f : α → Except ε β} {values : List α}
    {results : List β} :
    values.mapM f = .ok results ↔ List.Forall₂ (fun value result => f value = .ok result) values results := by
  induction values generalizing results with
  | nil =>
      rw [List.mapM_nil, except_pure_eq, List.forall₂_nil_left_iff]
      exact ⟨fun same => (Except.ok.inj same).symm, fun empty => empty ▸ rfl⟩
  | cons value rest inductionHypothesis =>
      rw [List.mapM_cons, except_bind_eq_ok]
      constructor
      · rintro ⟨result, resultOk, restOk⟩
        obtain ⟨restResults, restMapped, done⟩ := except_bind_eq_ok.mp restOk
        cases done
        exact .cons resultOk (inductionHypothesis.mp restMapped)
      · intro related
        cases related with
        | cons resultOk related =>
            exact ⟨_, resultOk, except_bind_eq_ok.mpr ⟨_, inductionHypothesis.mpr related, rfl⟩⟩

theorem except_mapM_of_ok {ε α β : Type} {f : α → Except ε β} {values : List α}
    (each : ∀ value ∈ values, ∃ result, f value = .ok result) :
    ∃ results, values.mapM f = .ok results := by
  induction values with
  | nil => exact ⟨[], rfl⟩
  | cons value rest inductionHypothesis =>
      obtain ⟨result, resultOk⟩ := each value (List.mem_cons_self _ _)
      obtain ⟨results, resultsOk⟩ :=
        inductionHypothesis fun other member => each other (List.mem_cons_of_mem _ member)
      exact ⟨result :: results, except_mapM_eq_ok.mpr
        (.cons resultOk (except_mapM_eq_ok.mp resultsOk))⟩

/-- A `mapM` that raised raised at one of the values. -/
theorem except_mapM_eq_error {ε α β : Type} {f : α → Except ε β} {values : List α} {e : ε}
    (failed : values.mapM f = .error e) : ∃ value ∈ values, f value = .error e := by
  induction values with
  | nil => cases failed
  | cons value rest inductionHypothesis =>
      rw [List.mapM_cons] at failed
      rcases except_bind_eq_error.mp failed with first | ⟨result, -, restFailed⟩
      · exact ⟨value, List.mem_cons_self _ _, first⟩
      · rcases except_bind_eq_error.mp restFailed with restFailed | ⟨_, -, done⟩
        · obtain ⟨other, member, otherFailed⟩ := inductionHypothesis restFailed
          exact ⟨other, List.mem_cons_of_mem _ member, otherFailed⟩
        · cases done

theorem except_mapM_ok_iff {ε α β : Type} {f : α → Except ε β} {values : List α} :
    (∃ results, values.mapM f = .ok results) ↔ ∀ value ∈ values, ∃ result, f value = .ok result := by
  refine ⟨?_, except_mapM_of_ok⟩
  rintro ⟨results, mapped⟩
  have related := except_mapM_eq_ok.mp mapped
  clear mapped
  induction related with
  | nil => simp
  | cons head _ inductionHypothesis =>
      rintro value (_ | ⟨_, member⟩)
      · exact ⟨_, head⟩
      · exact inductionHypothesis value member

namespace PyError

/-- `StorageError` and its subclasses `StorageNotFoundError` and `StorageDuplicateError`. -/
def isStorageError : PyError → Bool
  | .storageError _ | .storageNotFound | .storageDuplicate => true
  | _ => false

end PyError

namespace JsonValue

/-- `body.get(key, None)`: the last binding of `key`, the one `json.loads` keeps, and `None`
when there is none. A body that is not an object has no `get`. -/
def get : JsonValue → String → Except PyError JsonValue
  | .object fields, key => pure ((fields.reverse.lookup key).getD .null)
  | _, _ => throw .attributeError

/-- `value > 1`: numbers compare, `bool` as `0` or `1`; anything else raises `TypeError`. -/
def gtOne : JsonValue → Except PyError Bool
  | .int n => pure (decide (1 < n))
  | .bool _ => pure false
  | .float x => pure (decide (1 < x))
  | _ => throw .typeError

/-- `operator.index(value)`, how `range` reads an argument: an `int`, or a `bool` as `0`
or `1`; anything else raises `TypeError`. -/
def asIndex : JsonValue → Except PyError Int
  | .int n => pure n
  | .bool b => pure (if b then 1 else 0)
  | _ => throw .typeError

/-- Python's `value is None`. -/
def isNone : JsonValue → Bool
  | .null => true
  | _ => false

/-- Python's `value == text` for a JSON value and a string. -/
def isText (text : String) : JsonValue → Bool
  | .str s => s == text
  | _ => false

/-- Python's `value == "message"`. -/
def isMessage (value : JsonValue) : Bool :=
  value.isText "message"

@[simp] theorem asIndex_int (n : Int) : (JsonValue.int n).asIndex = .ok n := rfl

@[simp] theorem gtOne_int (n : Int) : (JsonValue.int n).gtOne = .ok (decide (1 < n)) := rfl

end JsonValue

/-! ## `range` -/

/-- `len(range(start, stop, step))` for a nonzero `step`. -/
def rangeLength (start stop step : Int) : Nat :=
  if 0 < step then
    if start < stop then ((stop - start - 1) / step).toNat + 1 else 0
  else
    if stop < start then ((start - stop - 1) / -step).toNat + 1 else 0

/-- The values of `range(start, stop, step)` for a nonzero `step`, in order. -/
def rangeValues (start stop step : Int) : List Int :=
  (List.range (rangeLength start stop step)).map fun k : Nat => start + (k : Int) * step

/-- `sys.maxsize` of a 64-bit build, `2 ** 63 - 1`: the longest sequence `len` can report. -/
def maxSize : Nat := 9223372036854775807

/-- `list(range(start, stop, step))`: a zero step raises `ValueError`, and a range longer than
`sys.maxsize` raises `OverflowError` when `list` asks for its length. -/
def range (start stop step : Int) : Except PyError (List Int) :=
  if step = 0 then throw (.valueError "range() arg 3 must not be zero")
  else if maxSize < rangeLength start stop step then throw .overflowError
  else pure (rangeValues start stop step)

@[simp] theorem length_rangeValues (start stop step : Int) :
    (rangeValues start stop step).length = rangeLength start stop step := by
  simp [rangeValues]

theorem mem_rangeValues {start stop step i : Int} :
    i ∈ rangeValues start stop step ↔
      ∃ k : Nat, k < rangeLength start stop step ∧ i = start + (k : Int) * step := by
  simp only [rangeValues, List.mem_map, List.mem_range]
  constructor
  · rintro ⟨k, kBound, rfl⟩
    exact ⟨k, kBound, rfl⟩
  · rintro ⟨k, kBound, rfl⟩
    exact ⟨k, kBound, rfl⟩

/-- For a positive step, `range(0, stop, step)` has a `k`-th value exactly when `k * step`
is below `stop`. -/
theorem lt_rangeLength_iff {stop step : Int} (positive : 0 < step) {k : Nat} :
    k < rangeLength 0 stop step ↔ (k : Int) * step < stop := by
  have nonneg : 0 ≤ (k : Int) * step := Int.mul_nonneg (by omega) (Int.le_of_lt positive)
  unfold rangeLength
  rw [if_pos positive]
  split
  · rw [Nat.lt_succ_iff, Int.le_toNat (Int.ediv_nonneg (by omega) (Int.le_of_lt positive)),
      Int.le_ediv_iff_mul_le positive]
    omega
  · omega

/-- The values of `range(0, stop, step)` all have the sign of `step`, so their absolute values
tell them apart. -/
theorem natAbs_injOn_rangeValues {stop step i j : Int} (nonzero : step ≠ 0)
    (first : i ∈ rangeValues 0 stop step) (second : j ∈ rangeValues 0 stop step)
    (same : i.natAbs = j.natAbs) : i = j := by
  obtain ⟨a, -, rfl⟩ := mem_rangeValues.mp first
  obtain ⟨b, -, rfl⟩ := mem_rangeValues.mp second
  simp only [Int.zero_add, Int.natAbs_mul, Int.natAbs_ofNat] at same
  rw [Nat.eq_of_mul_eq_mul_right (Int.natAbs_pos.mpr nonzero) same]

theorem nonneg_of_mem_rangeValues {stop step i : Int} (positive : 0 < step)
    (member : i ∈ rangeValues 0 stop step) : 0 ≤ i := by
  obtain ⟨k, -, rfl⟩ := mem_rangeValues.mp member
  rw [Int.zero_add]
  exact Int.mul_nonneg (by omega) (Int.le_of_lt positive)

theorem range_eq_ok {start stop step : Int} {values : List Int} :
    range start stop step = .ok values ↔
      step ≠ 0 ∧ rangeLength start stop step ≤ maxSize ∧ values = rangeValues start stop step := by
  unfold range
  split_ifs with zero long
  · simp [zero]
  · simp [zero, long]
  · simp [zero, Nat.not_lt.mp long, eq_comm]

/-! ## `int()` and `dict()`, as the serializer applies them -/

/-- The first code points of the 68 runs of ten decimal digits (general category `Nd`) in the
Unicode 15.0 database of Python 3.12; each run counts from zero. -/
def decimalZeros : List Nat :=
  [0x30, 0x660, 0x6F0, 0x7C0, 0x966, 0x9E6, 0xA66, 0xAE6, 0xB66, 0xBE6, 0xC66, 0xCE6, 0xD66,
    0xDE6, 0xE50, 0xED0, 0xF20, 0x1040, 0x1090, 0x17E0, 0x1810, 0x1946, 0x19D0, 0x1A80, 0x1A90,
    0x1B50, 0x1BB0, 0x1C40, 0x1C50, 0xA620, 0xA8D0, 0xA900, 0xA9D0, 0xA9F0, 0xAA50, 0xABF0,
    0xFF10, 0x104A0, 0x10D30, 0x11066, 0x110F0, 0x11136, 0x111D0, 0x112F0, 0x11450, 0x114D0,
    0x11650, 0x116C0, 0x11730, 0x118E0, 0x11950, 0x11C50, 0x11D50, 0x11DA0, 0x11F50, 0x16A60,
    0x16AC0, 0x16B50, 0x1D7CE, 0x1D7D8, 0x1D7E2, 0x1D7EC, 0x1D7F6, 0x1E140, 0x1E2F0, 0x1E4F0,
    0x1E950, 0x1FBF0]

/-- `Py_UNICODE_TODECIMAL`: the value of a decimal digit. -/
def decimalValue (c : Char) : Option Nat :=
  (decimalZeros.find? fun first => first ≤ c.toNat && c.toNat < first + 10).map (c.toNat - ·)

/-- `Py_UNICODE_ISSPACE` on the characters above ASCII. -/
def isUnicodeSpace (c : Char) : Bool :=
  c.toNat ∈ [0x85, 0xA0, 0x1680, 0x2028, 0x2029, 0x202F, 0x205F, 0x3000] ||
    (0x2000 ≤ c.toNat && c.toNat ≤ 0x200A)

/-- `_PyUnicode_TransformDecimalAndSpaceToASCII`, one character at a time: ASCII stays, a space
becomes `' '`, a decimal digit its ASCII digit, and anything else `'?'`, which no literal
holds. The source cuts the text at its first `'?'` and keeps `DEL` only in an all-ASCII text;
neither changes which texts are literals. -/
def asciiChar (c : Char) : Char :=
  if c.toNat < 128 then c
  else if isUnicodeSpace c then ' '
  else match decimalValue c with
    | some digit => Char.ofNat (48 + digit)
    | none => '?'

/-- `Py_ISSPACE`: the ASCII white space `PyLong_FromString` skips around a literal. -/
def isAsciiSpace (c : Char) : Bool :=
  c = ' ' || c = '\t' || c = '\n' || c = '\x0b' || c = '\x0c' || c = '\r'

/-- The default of `sys.get_int_max_str_digits()`. -/
def maxStrDigits : Nat := 4300

/-- Whether `int(text)` reads `text` in base 10: in its ASCII form, white space around an
optional sign and at least one digit, single underscores only between digits, and at most
`maxStrDigits` digits. -/
def isIntLiteral (text : String) : Bool :=
  let trimmed :=
    (((text.toList.map asciiChar).dropWhile isAsciiSpace).reverse.dropWhile isAsciiSpace).reverse
  let unsigned := match trimmed with
    | '+' :: rest | '-' :: rest => rest
    | rest => rest
  (unsigned.splitOn '_').all (fun group => !group.isEmpty && group.all Char.isDigit) &&
    decide ((unsigned.filter Char.isDigit).length ≤ maxStrDigits)

/-- `dict(value)` needs each element to have two items. -/
def requirePairLength (position length : Nat) : Except PyError Unit :=
  if length = 2 then pure ()
  else throw (.valueError ("dictionary update sequence element #" ++ toString position ++
    " has length " ++ toString length ++ "; 2 is required"))

namespace JsonValue

/-- `int(value)`, which marshmallow's `fields.Int` applies to a value other than `None` when it
serializes it: `bool` and `int` convert, a float unless it is NaN (`ValueError`) or infinite
(`OverflowError`), a text when it is a base-10 literal (`ValueError` otherwise, with Python's
message up to the `repr` of the text), and a list or an object raises `TypeError`. -/
def dumpInt : JsonValue → Except PyError Unit
  | .null | .bool _ | .int _ => pure ()
  | .float value =>
      if value.isNaN then throw (.valueError "cannot convert float NaN to integer")
      else if value.isInf then throw .overflowError
      else pure ()
  | .str text =>
      if isIntLiteral text then pure ()
      else throw (.valueError "invalid literal for int() with base 10")
  | .array _ | .object _ => throw .typeError

/-- The element at `position` of the sequence `dict(value)` reads: an iterable of two items
(a text of two characters, a list of two items, an object with two keys) whose first item is
hashable, which a list or an object is not. -/
def dictPair (position : Nat) : JsonValue → Except PyError Unit
  | .str text => requirePairLength position text.length
  | .array items => do
      requirePairLength position items.length
      match items with
      | .array _ :: _ | .object _ :: _ => throw .typeError
      | _ => pure ()
  | .object fields => requirePairLength position (fields.map Prod.fst).eraseDups.length
  | .null | .bool _ | .int _ | .float _ => throw .typeError

/-- The elements from `position` on, the first that is no pair raising. -/
def dictPairs (position : Nat) : List JsonValue → Except PyError Unit
  | [] => pure ()
  | item :: rest => do
      dictPair position item
      dictPairs (position + 1) rest

/-- `dict(value)`, which marshmallow's `fields.Dict` applies to a value other than `None` when
it serializes it: an object is copied, a list or a text is read as a sequence of pairs, and a
number raises `TypeError`. -/
def dumpDict : JsonValue → Except PyError Unit
  | .null | .object _ => pure ()
  | .array items => dictPairs 0 items
  | .str text => dictPairs 0 (text.toList.map fun c => .str c.toString)
  | .bool _ | .int _ | .float _ => throw .typeError

@[simp] theorem dumpInt_int (n : Int) : (JsonValue.int n).dumpInt = .ok () := rfl

@[simp] theorem dumpInt_bool (b : Bool) : (JsonValue.bool b).dumpInt = .ok () := rfl

@[simp] theorem dumpDict_object (fields : List (String × JsonValue)) :
    (JsonValue.object fields).dumpDict = .ok () := rfl

/-! What the dumps raise are Python's own errors, never a storage error. -/

theorem not_storage_of_dumpInt {value : JsonValue} {cause : PyError}
    (failed : value.dumpInt = .error cause) : cause.isStorageError = false := by
  cases value <;> simp only [dumpInt] at failed <;> (try split_ifs at failed) <;> cases failed <;>
    rfl

theorem not_storage_of_requirePairLength {position length : Nat} {cause : PyError}
    (failed : requirePairLength position length = .error cause) : cause.isStorageError = false := by
  unfold requirePairLength at failed
  split_ifs at failed <;> cases failed
  rfl

theorem not_storage_of_dictPair {position : Nat} {item : JsonValue} {cause : PyError}
    (failed : dictPair position item = .error cause) : cause.isStorageError = false := by
  cases item with
  | str _ | object _ => exact not_storage_of_requirePairLength failed
  | array items =>
      rcases except_bind_eq_error.mp failed with paired | ⟨⟨⟩, -, failed⟩
      · exact not_storage_of_requirePairLength paired
      · split at failed <;> cases failed <;> rfl
  | null | bool _ | int _ | float _ =>
      cases failed
      rfl

theorem not_storage_of_dictPairs {position : Nat} {items : List JsonValue} {cause : PyError}
    (failed : dictPairs position items = .error cause) : cause.isStorageError = false := by
  induction items generalizing position with
  | nil => cases failed
  | cons item rest inductionHypothesis =>
      rcases except_bind_eq_error.mp failed with paired | ⟨⟨⟩, -, failed⟩
      · exact not_storage_of_dictPair paired
      · exact inductionHypothesis failed

theorem not_storage_of_dumpDict {value : JsonValue} {cause : PyError}
    (failed : value.dumpDict = .error cause) : cause.isStorageError = false := by
  cases value <;> simp only [dumpDict] at failed
  case array items => exact not_storage_of_dictPairs failed
  case str text => exact not_storage_of_dictPairs failed
  all_goals cases failed <;> rfl

end JsonValue

end StatusListPlugin
