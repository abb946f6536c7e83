import Metatype.Numeral.Shortest

/-!
# JSON values

JSON as data: objects keep their members in order, a key may occur more than once, and numbers
keep the digits they were written with.

* `Number.toDouble?`: the 64-bit number that a JSON number is read as.
* `Value.depth`: how deep arrays and objects are nested.
-/

namespace Metatype.Json

open Metatype.Numeral

/-! ## Values -/

/-- A JSON number. Those with a fraction or an exponent, and `-0`, are decimals. -/
inductive Number
  | integer (value : Int)
  | decimal (negative : Bool) (whole fraction : List (Fin 10)) (exponent : Int)
  deriving DecidableEq, Repr

/-- A JSON value. -/
inductive Value
  | null
  | bool (b : Bool)
  | number (n : Number)
  | string (s : String)
  | array (items : List Value)
  | object (members : List (String × Value))
  deriving Repr, Inhabited

/-! ## Nesting -/

mutual

/-- The number of arrays and objects around the innermost value, the outermost included. -/
def Value.depth : Value → Nat
  | .array items => depthItems items + 1
  | .object members => depthMembers members + 1
  | _ => 0

/-- The depth of the deepest item. -/
def depthItems : List Value → Nat
  | [] => 0
  | v :: rest => max v.depth (depthItems rest)

/-- The depth of the deepest member. -/
def depthMembers : List (String × Value) → Nat
  | [] => 0
  | (_, v) :: rest => max v.depth (depthMembers rest)

end

/-! ## Numbers as floating point

A number is read in two steps: the digits are gathered into a 64-bit significand, those that no
longer fit being dropped, and the significand is scaled by a power of ten. Each step rounds once. -/

/-- The digit that a character stands for. -/
def digitOf (c : Char) : Fin 10 := ⟨(c.toNat - '0'.toNat) % 10, Nat.mod_lt _ (by decide)⟩

/-- The digits of a natural number, most significant first. -/
def digitsOf (n : Nat) : List (Fin 10) :=
  (Nat.toDigits 10 n).map digitOf

/-- Gathers digits into a significand as long as it fits 64 bits. Returns it with the digits that
were not taken. -/
def gather (significand : Nat) : List (Fin 10) → Nat × List (Fin 10)
  | [] => (significand, [])
  | d :: rest =>
    let next := significand * 10 + d
    if next < twoTo 64 then gather next rest else (significand, d :: rest)

/-- The largest power of ten used in one scaling step. -/
def largestPower : Nat := 308

/-- The 64-bit number nearest to `10 ^ k`. -/
def powerOfTen (k : Nat) : Binary := .ofRatio .double false ⟨Nat.pow 10 k, 1⟩

/-- Divides by the 64-bit number nearest to `10 ^ k`. -/
def scaleDownStep (k : Nat) (x : Binary) : Binary :=
  match (powerOfTen k).magnitude? with
  | some p => x.scaleDown .double p
  | none => x

/-- Divides by `10 ^ k`, in steps of the largest power. Two whole steps leave nothing of any 64-bit
significand, so further ones are not taken. -/
def scaleDownBy (x : Binary) (k : Nat) : Binary :=
  let steps := (k - 1) / largestPower
  scaleDownStep (k - steps * largestPower) (Nat.repeat (scaleDownStep largestPower) (min steps 2) x)

/-- `significand · 10 ^ exponent` as a 64-bit number, or none if it is too large. -/
def scaleBy (significand : Nat) (exponent : Int) : Option Binary :=
  let x := Binary.ofRatio .double false ⟨significand, 1⟩
  match exponent with
  | .ofNat k =>
    if k ≤ largestPower then
      match (powerOfTen k).magnitude? with
      | some p =>
        match x.scaleUp .double p with
        | .infinite _ => none
        | y => some y
      | none => none
    else if significand = 0 then some x
    else none
  | .negSucc k => some (scaleDownBy x (k + 1))

/-- A number of 32-bit exponent range needs no digits to be judged: zero stays zero and a large
negative exponent gives zero. -/
def exponentLimit : Int := twoTo 31

/-- The 64-bit number that the written digits are read as, or none if it is too large. -/
def readDigits (whole fraction : List (Fin 10)) (exponent : Int) : Option Binary :=
  let (significand, untaken) := gather 0 whole
  let (significand, dropped) := gather significand fraction
  if exponentLimit ≤ exponent.natAbs then
    if significand = 0 ∨ exponent < 0 then some (.finite false 0 0) else none
  else
    let taken := fraction.length - dropped.length
    scaleBy significand (exponent + untaken.length - taken)

/-- The 64-bit number that a JSON number is read as, or none if it is too large. -/
def Number.toDouble? : Number → Option Binary
  | .integer i =>
    if -(twoTo 63 : Int) ≤ i ∧ i < twoTo 64 then some (.ofInt .double i)
    else
      let read := readDigits (digitsOf i.natAbs) [] 0
      if i < 0 then read.map .neg else read
  | .decimal negative whole fraction exponent =>
    let read := readDigits whole fraction exponent
    if negative then read.map .neg else read

/-- The number of a format that a JSON number is read as: an integer of 64 bits is rounded once,
anything else by way of 64-bit floating point. -/
def Number.toBinary? (format : BinaryFormat) : Number → Option Binary
  | .integer i =>
    if -(twoTo 63 : Int) ≤ i ∧ i < twoTo 64 then some (.ofInt format i)
    else (Number.integer i).toDouble?.map (·.convert format)
  | n => n.toDouble?.map (·.convert format)

/-! ## Floating point as numbers -/

/-- The JSON form of a floating-point number: its shortest digits. What is not finite has none. -/
def Value.ofBinary (format : BinaryFormat) : Binary → Value
  | .finite negative m e =>
    if m = 0 then .number (.decimal negative [0] [0] 0)
    else
      let d := shortest format m e
      .number (.decimal negative (digitsOf d.digits) [0] d.exponent)
  | _ => .null

end Metatype.Json
