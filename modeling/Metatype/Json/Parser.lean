import Metatype.Json.Basic

/-!
# Reading JSON

A reader for JSON text. Each function takes the characters that are left and returns what it read
with the characters after it, or nothing where the text is not JSON.

Arrays and objects may be nested `maxDepth` deep. A number must not exceed the range of 64-bit
floating point.

* `Value.parsePrefix`: the value at the start of a text, with the rest of the text.
* `Value.parse`: the value that spans a text.
-/

namespace Metatype.Json

/-! ## Blanks and digits -/

/-- The blanks between tokens. -/
def isBlank (c : Char) : Bool := c = ' ' || c = '\n' || c = '\t' || c = '\r'

/-- Leaves out blanks. -/
def skip (s : List Char) : List Char := s.dropWhile isBlank

/-- The value of a decimal digit. -/
def digit? (c : Char) : Option (Fin 10) :=
  if c.isDigit then some (digitOf c) else none

/-- All digits at the start. -/
def digits : List Char → List (Fin 10) × List Char
  | [] => ([], [])
  | c :: rest =>
    match digit? c with
    | some d => let (ds, rest) := digits rest; (d :: ds, rest)
    | none => ([], c :: rest)

/-- At least one digit. -/
def someDigits (s : List Char) : Option (List (Fin 10) × List Char) :=
  match digits s with
  | ([], _) => none
  | found => some found

/-- The number that digits stand for. -/
def natOfDigits (ds : List (Fin 10)) : Nat := ds.foldl (fun n (d : Fin 10) => n * 10 + d.val) 0

/-! ## Numbers -/

/-- Whole digits: a single zero, or digits that do not start with one. -/
def wholeDigits (s : List Char) : Option (List (Fin 10) × List Char) :=
  match digits s with
  | ([], _) => none
  | ([d], rest) => some ([d], rest)
  | (d :: ds, rest) => if d.val = 0 then none else some (d :: ds, rest)

/-- A fraction, if there is a point. -/
def fraction (s : List Char) : Option (List (Fin 10) × List Char) :=
  match s with
  | '.' :: rest => someDigits rest
  | _ => some ([], s)

/-- The digits of an exponent after its sign. -/
def signedExponent (negative : Bool) (s : List Char) : Option (Int × List Char) := do
  let (ds, rest) ← someDigits s
  let n := (natOfDigits ds : Int)
  return (if negative then -n else n, rest)

/-- An exponent, if it is announced. -/
def exponent? (s : List Char) : Option (Option Int × List Char) :=
  match s with
  | c :: rest =>
    if c = 'e' ∨ c = 'E' then do
      let (e, rest) ←
        match rest with
        | '+' :: rest => signedExponent false rest
        | '-' :: rest => signedExponent true rest
        | rest => signedExponent false rest
      return (some e, rest)
    else some (none, s)
  | [] => some (none, [])

/-- The number made of its parts. -/
def numberOf (negative : Bool) (whole fraction : List (Fin 10)) (exponent : Option Int) : Number :=
  match fraction, exponent with
  | [], none =>
    let n := (natOfDigits whole : Int)
    if negative then (if n = 0 then .decimal true whole [] 0 else .integer (-n)) else .integer n
  | fraction, exponent => .decimal negative whole fraction (exponent.getD 0)

/-- A number after its sign. -/
def unsignedNumber (negative : Bool) (s : List Char) : Option (Number × List Char) := do
  let (whole, s) ← wholeDigits s
  let (fraction, s) ← fraction s
  let (exponent, s) ← exponent? s
  let n := numberOf negative whole fraction exponent
  if n.toDouble?.isSome then some (n, s) else none

/-- A number. -/
def number (s : List Char) : Option (Number × List Char) :=
  match s with
  | '-' :: rest => unsignedNumber true rest
  | _ => unsignedNumber false s

/-! ## Strings -/

/-- The value of a hexadecimal digit. -/
def hexValue? (c : Char) : Option Nat :=
  if c.isDigit then some (c.toNat - '0'.toNat)
  else if 'a' ≤ c ∧ c ≤ 'f' then some (c.toNat - 'a'.toNat + 10)
  else if 'A' ≤ c ∧ c ≤ 'F' then some (c.toNat - 'A'.toNat + 10)
  else none

/-- Four hexadecimal digits. -/
def hexQuad : List Char → Option (Nat × List Char)
  | a :: b :: c :: d :: rest => do
    let a ← hexValue? a
    let b ← hexValue? b
    let c ← hexValue? c
    let d ← hexValue? d
    return (((a * 16 + b) * 16 + c) * 16 + d, rest)
  | _ => none

/-- The low half of a surrogate pair, written as an escape of its own. -/
def lowSurrogate : List Char → Option (Nat × List Char)
  | '\\' :: 'u' :: rest => do
    let (n, rest) ← hexQuad rest
    if 0xdc00 ≤ n ∧ n < 0xe000 then some (n, rest) else none
  | _ => none

/-- The character that four hexadecimal digits stand for, two times four outside the basic plane.
A half of a surrogate pair alone stands for nothing. -/
def unicodeEscape (s : List Char) : Option (Char × List Char) := do
  let (n, rest) ← hexQuad s
  if 0xd800 ≤ n ∧ n < 0xdc00 then
    let (m, rest) ← lowSurrogate rest
    return (Char.ofNat (0x10000 + (n - 0xd800) * 0x400 + (m - 0xdc00)), rest)
  else if 0xdc00 ≤ n ∧ n < 0xe000 then none
  else return (Char.ofNat n, rest)

/-- The character that a single letter after a backslash stands for. -/
def letterEscape? : Char → Option Char
  | '"' => some '"'
  | '\\' => some '\\'
  | '/' => some '/'
  | 'b' => some '\x08'
  | 'f' => some '\x0c'
  | 'n' => some '\n'
  | 'r' => some '\r'
  | 't' => some '\t'
  | _ => none

/-- The character that an escape stands for, read after the backslash. -/
def escaped : List Char → Option (Char × List Char)
  | [] => none
  | c :: rest =>
    match letterEscape? c with
    | some d => some (d, rest)
    | none => if c = 'u' then unicodeEscape rest else none

theorem hexQuad_length {s rest : List Char} {n : Nat} (h : hexQuad s = some (n, rest)) :
    rest.length < s.length := by
  unfold hexQuad at h
  split at h
  · simp only [Option.bind_eq_bind, Option.bind_eq_some_iff, Option.pure_def, Option.some.injEq,
      Prod.mk.injEq] at h
    obtain ⟨_, _, _, _, _, _, _, _, _, rfl⟩ := h
    simp only [List.length_cons]
    omega
  · simp at h

theorem lowSurrogate_length {s rest : List Char} {n : Nat}
    (h : lowSurrogate s = some (n, rest)) : rest.length < s.length := by
  unfold lowSurrogate at h
  split at h
  · simp only [Option.bind_eq_bind, Option.bind_eq_some_iff] at h
    obtain ⟨⟨m, r⟩, hq, hif⟩ := h
    have hlen := hexQuad_length hq
    simp only at hif
    split at hif
    · simp only [Option.some.injEq, Prod.mk.injEq] at hif
      obtain ⟨-, rfl⟩ := hif
      simp only [List.length_cons]
      omega
    · simp at hif
  · simp at h

theorem unicodeEscape_length {s rest : List Char} {c : Char}
    (h : unicodeEscape s = some (c, rest)) : rest.length < s.length := by
  simp only [unicodeEscape, Option.bind_eq_bind, Option.bind_eq_some_iff] at h
  obtain ⟨⟨n, r⟩, hq, h⟩ := h
  have hlen := hexQuad_length hq
  simp only at h
  split at h
  · simp only [Option.bind_eq_some_iff, Option.pure_def, Option.some.injEq,
      Prod.mk.injEq] at h
    obtain ⟨⟨m, r'⟩, hl, -, rfl⟩ := h
    have := lowSurrogate_length hl
    simp only at this ⊢
    omega
  · split at h
    · simp at h
    · simp only [Option.pure_def, Option.some.injEq, Prod.mk.injEq] at h
      obtain ⟨-, rfl⟩ := h
      exact hlen

theorem escaped_length {s rest : List Char} {c : Char} (h : escaped s = some (c, rest)) :
    rest.length < s.length := by
  unfold escaped at h
  split at h
  · simp at h
  · split at h
    · simp only [Option.some.injEq, Prod.mk.injEq] at h
      obtain ⟨-, rfl⟩ := h
      simp
    · split at h
      · exact Nat.lt_succ_of_lt (unicodeEscape_length h)
      · simp at h

/-- The rest of a string after its opening quote, up to and without the closing one. -/
def stringBody (s : List Char) : Option (List Char × List Char) :=
  match s with
  | [] => none
  | '"' :: rest => some ([], rest)
  | '\\' :: rest =>
    match _read : escaped rest with
    | none => none
    | some (c, rest') => (stringBody rest').map fun found => (c :: found.1, found.2)
  | c :: rest =>
    if c.toNat < 0x20 then none
    else (stringBody rest).map fun found => (c :: found.1, found.2)
termination_by s.length
decreasing_by
  · have := escaped_length _read
    simp only [List.length_cons]
    omega
  · simp

/-- A string. -/
def string (s : List Char) : Option (String × List Char) :=
  match s with
  | '"' :: rest => (stringBody rest).map fun found => (String.ofList found.1, found.2)
  | _ => none

/-! ## Arrays and objects -/

/-- The items of an array that is not empty, up to and with the closing bracket. `one` reads an
item; `fuel` bounds their number. -/
def items (one : List Char → Option (Value × List Char)) :
    Nat → List Char → Option (List Value × List Char)
  | 0, _ => none
  | fuel + 1, s => do
    let (v, s) ← one (skip s)
    match skip s with
    | ',' :: rest =>
      let (vs, rest) ← items one fuel rest
      return (v :: vs, rest)
    | ']' :: rest => return ([v], rest)
    | _ => none

/-- A key and its value. -/
def member (one : List Char → Option (Value × List Char)) (s : List Char) :
    Option ((String × Value) × List Char) := do
  let (k, s) ← string (skip s)
  match skip s with
  | ':' :: rest =>
    let (v, s) ← one (skip rest)
    return ((k, v), s)
  | _ => none

/-- The members of an object that is not empty, up to and with the closing brace. -/
def members (one : List Char → Option (Value × List Char)) :
    Nat → List Char → Option (List (String × Value) × List Char)
  | 0, _ => none
  | fuel + 1, s => do
    let (m, s) ← member one s
    match skip s with
    | ',' :: rest =>
      let (ms, rest) ← members one fuel rest
      return (m :: ms, rest)
    | '\x7d' :: rest => return ([m], rest)
    | _ => none

/-- An array after its opening bracket. An item takes at least one character, so there are no more
items than characters. -/
def arrayBody (one : List Char → Option (Value × List Char)) (s : List Char) :
    Option (Value × List Char) :=
  match skip s with
  | ']' :: rest => some (.array [], rest)
  | s => (items one s.length s).map fun found => (.array found.1, found.2)

/-- An object after its opening brace. -/
def objectBody (one : List Char → Option (Value × List Char)) (s : List Char) :
    Option (Value × List Char) :=
  match skip s with
  | '\x7d' :: rest => some (.object [], rest)
  | s => (members one s.length s).map fun found => (.object found.1, found.2)

/-! ## Values -/

/-- A value that is neither array nor object. -/
def scalar (s : List Char) : Option (Value × List Char) :=
  match s with
  | 'n' :: 'u' :: 'l' :: 'l' :: rest => some (.null, rest)
  | 't' :: 'r' :: 'u' :: 'e' :: rest => some (.bool true, rest)
  | 'f' :: 'a' :: 'l' :: 's' :: 'e' :: rest => some (.bool false, rest)
  | '"' :: rest => (stringBody rest).map fun found => (.string (String.ofList found.1), found.2)
  | s => (number s).map fun found => (.number found.1, found.2)

/-- A value with arrays and objects nested at most `depth` deep. -/
def value : (depth : Nat) → List Char → Option (Value × List Char)
  | 0, s => scalar s
  | depth + 1, s =>
    match s with
    | '[' :: rest => arrayBody (value depth) rest
    | '\x7b' :: rest => objectBody (value depth) rest
    | s => scalar s

theorem value_zero_array (rest : List Char) : value 0 ('[' :: rest) = none := by
  simp [value, scalar, number, unsignedNumber, wholeDigits, digits, digit?, Char.isDigit]

/-- The deepest nesting that is read. -/
def maxDepth : Nat := 127

/-- The value at the start of a text, with the characters after it. -/
def Value.parsePrefix (text : String) : Option (Value × List Char) :=
  value maxDepth (skip text.toList)

/-- The value that a text consists of, blanks aside. -/
def Value.parse (text : String) : Option Value :=
  match Value.parsePrefix text with
  | some (v, rest) => if (skip rest).isEmpty then some v else none
  | none => none

end Metatype.Json
