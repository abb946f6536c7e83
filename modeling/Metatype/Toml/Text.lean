/-!
# Strings and keys in TOML

Reading the four kinds of strings and the keys. Each function takes the characters that are left
and returns what it read with the characters after it. Line ends are single line feeds.

* `anyString`: a string of any kind.
* `dottedKey`: the parts of a key.
-/

namespace Metatype.Toml

/-! ## Characters -/

/-- The blanks inside a line. -/
def isSpace (c : Char) : Bool := c = ' ' || c = '\t'

/-- Leaves out the blanks inside a line. -/
def skipSpace (s : List Char) : List Char := s.dropWhile isSpace

/-- Control characters other than the tab stand nowhere in a line. -/
def isControl (c : Char) : Bool := (c.toNat < 0x20 && c ≠ '\t') || c.toNat = 0x7f

/-- The characters of a bare key. -/
def isBareKeyChar (c : Char) : Bool := c.isAlphanum || c = '_' || c = '-'

/-! ## Escapes -/

/-- The value of a hexadecimal digit. -/
def hexDigit? (c : Char) : Option Nat :=
  if c.isDigit then some (c.toNat - '0'.toNat)
  else if 'a' ≤ c ∧ c ≤ 'f' then some (c.toNat - 'a'.toNat + 10)
  else if 'A' ≤ c ∧ c ≤ 'F' then some (c.toNat - 'A'.toNat + 10)
  else none

/-- A number of a fixed count of hexadecimal digits, going on from `value`. -/
def hexNumber (value : Nat) : Nat → List Char → Option (Nat × List Char)
  | 0, s => some (value, s)
  | _ + 1, [] => none
  | count + 1, c :: rest =>
    match hexDigit? c with
    | some d => hexNumber (value * 16 + d) count rest
    | none => none

/-- The character of a scalar value. -/
def scalar? (n : Nat) : Option Char := if n.isValidChar then some (Char.ofNat n) else none

/-- A character written with a fixed count of hexadecimal digits. -/
def hexEscape (count : Nat) (s : List Char) : Option (Char × List Char) := do
  let (n, rest) ← hexNumber 0 count s
  return (← scalar? n, rest)

/-- The character that a single letter after a backslash stands for. -/
def letterEscape? : Char → Option Char
  | 'b' => some '\x08'
  | 't' => some '\t'
  | 'n' => some '\n'
  | 'f' => some '\x0c'
  | 'r' => some '\r'
  | '"' => some '"'
  | '\\' => some '\\'
  | _ => none

/-- The character that an escape stands for, read after the backslash. -/
def escape : List Char → Option (Char × List Char)
  | [] => none
  | c :: rest =>
    match letterEscape? c with
    | some d => some (d, rest)
    | none =>
      if c = 'u' then hexEscape 4 rest
      else if c = 'U' then hexEscape 8 rest
      else none

theorem hexNumber_length {value count n : Nat} {s rest : List Char}
    (h : hexNumber value count s = some (n, rest)) : rest.length ≤ s.length := by
  induction count generalizing value s with
  | zero =>
    simp only [hexNumber, Option.some.injEq, Prod.mk.injEq] at h
    exact Nat.le_of_eq (h.2 ▸ rfl)
  | succ count ih =>
    cases s with
    | nil => simp [hexNumber] at h
    | cons c s =>
      simp only [hexNumber] at h
      split at h
      · exact Nat.le_succ_of_le (ih h)
      · simp at h

theorem hexEscape_length {count : Nat} {s rest : List Char} {c : Char}
    (h : hexEscape count s = some (c, rest)) : rest.length ≤ s.length := by
  simp only [hexEscape, Option.bind_eq_bind, Option.bind_eq_some_iff, Option.pure_def,
    Option.some.injEq, Prod.mk.injEq] at h
  obtain ⟨⟨n, r⟩, hn, _, _, _, rfl⟩ := h
  exact hexNumber_length hn

theorem escape_length {s rest : List Char} {c : Char} (h : escape s = some (c, rest)) :
    rest.length < s.length := by
  unfold escape at h
  split at h
  · simp at h
  · split at h
    · simp only [Option.some.injEq, Prod.mk.injEq] at h
      obtain ⟨-, rfl⟩ := h
      simp
    · split at h
      · exact Nat.lt_succ_of_le (hexEscape_length h)
      · split at h
        · exact Nat.lt_succ_of_le (hexEscape_length h)
        · simp at h

/-! ## Strings in one line -/

/-- The rest of a string with escapes, up to and without its closing quote. -/
def basicBody (s : List Char) : Option (List Char × List Char) :=
  match s with
  | [] => none
  | '"' :: rest => some ([], rest)
  | '\\' :: rest =>
    match _read : escape rest with
    | none => none
    | some (c, rest') => (basicBody rest').map fun found => (c :: found.1, found.2)
  | c :: rest =>
    if isControl c then none
    else (basicBody rest).map fun found => (c :: found.1, found.2)
termination_by s.length
decreasing_by
  · have := escape_length _read
    simp only [List.length_cons]
    omega
  · simp

/-- The rest of a string without escapes, up to and without its closing quote. -/
def literalBody : List Char → Option (List Char × List Char)
  | [] => none
  | '\'' :: rest => some ([], rest)
  | c :: rest =>
    if isControl c then none
    else (literalBody rest).map fun found => (c :: found.1, found.2)

/-! ## Strings over several lines -/

/-- What follows a backslash at the end of a line, once all blanks and line ends are left out.
Nothing if other characters stand between the backslash and the line end. -/
def lineContinuation? (s : List Char) : Option (List Char) :=
  match skipSpace s with
  | '\n' :: rest => some (rest.dropWhile fun c => isSpace c || c = '\n')
  | _ => none

theorem length_dropWhile_le {α : Type} (p : α → Bool) (s : List α) :
    (s.dropWhile p).length ≤ s.length :=
  (List.dropWhile_suffix p).length_le

theorem lineContinuation_length {s rest : List Char} (h : lineContinuation? s = some rest) :
    rest.length < s.length := by
  unfold lineContinuation? at h
  split at h
  · rename_i r hr
    simp only [Option.some.injEq] at h
    subst h
    have h1 := length_dropWhile_le (fun c => isSpace c || decide (c = '\n')) r
    have h2 := length_dropWhile_le isSpace s
    rw [show s.dropWhile isSpace = '\n' :: r from hr] at h2
    simp only [List.length_cons] at h2
    omega
  · simp at h

/-- The rest of a string with escapes over several lines. Up to two quotes may stand before the
closing three. -/
def basicLinesBody (s : List Char) : Option (List Char × List Char) :=
  match s with
  | [] => none
  | '"' :: '"' :: '"' :: '"' :: '"' :: rest => some (['"', '"'], rest)
  | '"' :: '"' :: '"' :: '"' :: rest => some (['"'], rest)
  | '"' :: '"' :: '"' :: rest => some ([], rest)
  | '\\' :: rest =>
    match _cont : lineContinuation? rest with
    | some rest' => basicLinesBody rest'
    | none =>
      match _read : escape rest with
      | none => none
      | some (c, rest') => (basicLinesBody rest').map fun found => (c :: found.1, found.2)
  | c :: rest =>
    if isControl c && c ≠ '\n' then none
    else (basicLinesBody rest).map fun found => (c :: found.1, found.2)
termination_by s.length
decreasing_by
  · have := lineContinuation_length _cont
    simp only [List.length_cons]
    omega
  · have := escape_length _read
    simp only [List.length_cons]
    omega
  · simp

/-- The rest of a string without escapes over several lines. -/
def literalLinesBody : List Char → Option (List Char × List Char)
  | [] => none
  | '\'' :: '\'' :: '\'' :: '\'' :: '\'' :: rest => some (['\'', '\''], rest)
  | '\'' :: '\'' :: '\'' :: '\'' :: rest => some (['\''], rest)
  | '\'' :: '\'' :: '\'' :: rest => some ([], rest)
  | c :: rest =>
    if isControl c && c ≠ '\n' then none
    else (literalLinesBody rest).map fun found => (c :: found.1, found.2)

/-- Leaves out a line end right at the start. -/
def skipLineEnd : List Char → List Char
  | '\n' :: rest => rest
  | s => s

/-! ## Any string -/

/-- The text of what was read. -/
def asText (found : Option (List Char × List Char)) : Option (String × List Char) :=
  found.map fun f => (String.ofList f.1, f.2)

/-- A string within a line. -/
def lineString : List Char → Option (String × List Char)
  | '"' :: rest => asText (basicBody rest)
  | '\'' :: rest => asText (literalBody rest)
  | _ => none

/-- A string of any kind. -/
def anyString : List Char → Option (String × List Char)
  | '"' :: '"' :: '"' :: rest => asText (basicLinesBody (skipLineEnd rest))
  | '\'' :: '\'' :: '\'' :: rest => asText (literalLinesBody (skipLineEnd rest))
  | s => lineString s

/-! ## Keys -/

/-- A part of a key: bare, or a string within a line. -/
def simpleKey (s : List Char) : Option (String × List Char) :=
  match s.takeWhile isBareKeyChar with
  | [] => lineString s
  | key => some (String.ofList key, s.dropWhile isBareKeyChar)

/-- The parts of a key, separated by dots that may have blanks around them. `fuel` bounds their
number. -/
def keyParts : Nat → List Char → Option (List String × List Char)
  | 0, _ => none
  | fuel + 1, s => do
    let (key, rest) ← simpleKey s
    match skipSpace rest with
    | '.' :: rest' =>
      let (keys, rest'') ← keyParts fuel (skipSpace rest')
      return (key :: keys, rest'')
    | _ => return ([key], rest)

/-- The deepest nesting that is read. -/
def maxDepth : Nat := 79

/-- A key. Its parts are fewer than the characters that are left; each of them nests one deeper. -/
def dottedKey (s : List Char) : Option (List String × List Char) :=
  (keyParts s.length s).filter (·.1.length ≤ maxDepth)

end Metatype.Toml
