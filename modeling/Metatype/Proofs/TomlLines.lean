import Metatype.Proofs.TomlString
import Metatype.Toml.Parser

/-!
# Lines of TOML text

What is written line by line is read back statement by statement, whatever lines follow: entries
with strings, truth values and arrays of strings, headers, and lines with nothing in them.

* `Toml.Denotes`: a text for a value, with `denotes_quote`, `denotes_bool`, `denotes_writeStrings`.
* `Toml.IsLine`: a line with a statement.
* `Toml.Spells`: lines with their statements, with a lemma for each kind of line.
-/

namespace Metatype.Toml

/-! ## Blanks -/

theorem skipSpace_cons {c : Char} (h : isSpace c = false) (rest : List Char) :
    skipSpace (c :: rest) = c :: rest :=
  List.dropWhile_cons_of_neg (by simp [h])

/-- Blanks and line ends are left out up to a character of another kind. -/
theorem skipLines_of_skipSpace {s rest : List Char} {c : Char} (h : skipSpace s = c :: rest)
    (hline : c ≠ '\n') (hcomment : c ≠ '#') (fuel : Nat) :
    skipLines (fuel + 1) s = some (c :: rest) := by
  rw [skipLines, h]
  split
  · rename_i heq
    exact absurd (List.cons.inj heq).1 hline
  · rename_i heq
    exact absurd (List.cons.inj heq).1 hcomment
  · rfl

theorem skipLines_newline (fuel : Nat) (s : List Char) :
    skipLines (fuel + 1) ('\n' :: s) = skipLines fuel s := rfl

/-! ## Keys -/

/-- A key that is written without quotes. -/
def IsBareKey (key : String) : Prop :=
  key.toList.isEmpty = false ∧ key.toList.all isBareKeyChar = true

instance (key : String) : Decidable (IsBareKey key) := inferInstanceAs (Decidable (_ ∧ _))

theorem IsBareKey.exists_cons {key : String} (h : IsBareKey key) :
    ∃ c rest, key.toList = c :: rest ∧ isBareKeyChar c = true := by
  obtain ⟨hempty, hbare⟩ := h
  cases hkey : key.toList with
  | nil =>
    rw [hkey] at hempty
    cases hempty
  | cons c rest =>
    rw [hkey, List.all_cons, Bool.and_eq_true] at hbare
    exact ⟨c, rest, rfl, hbare.1⟩

theorem ne_of_isBareKeyChar {c d : Char} (hc : isBareKeyChar c = true)
    (hd : isBareKeyChar d = false) : c ≠ d := by
  rintro rfl
  rw [hc] at hd
  cases hd

/-- No blanks stand before a bare key. -/
theorem IsBareKey.skipSpace {key : String} (h : IsBareKey key) (rest : List Char) :
    skipSpace (key.toList ++ rest) = key.toList ++ rest := by
  obtain ⟨c, others, hkey, hbare⟩ := h.exists_cons
  have hblank : c ≠ ' ' := ne_of_isBareKeyChar hbare (by decide)
  have htab : c ≠ '\t' := ne_of_isBareKeyChar hbare (by decide)
  rw [hkey, List.cons_append, skipSpace_cons (by simp [isSpace, hblank, htab])]

theorem simpleKey_bare {key : String} (h : IsBareKey key) {c : Char}
    (hc : isBareKeyChar c = false) (rest : List Char) :
    simpleKey (key.toList ++ c :: rest) = some (key, c :: rest) := by
  have hall := List.all_eq_true.1 h.2
  have hc : ¬isBareKeyChar c = true := by simp [hc]
  have htake : (key.toList ++ c :: rest).takeWhile isBareKeyChar = key.toList := by
    rw [List.takeWhile_append_of_pos hall, List.takeWhile_cons_of_neg hc, List.append_nil]
  have hdrop : (key.toList ++ c :: rest).dropWhile isBareKeyChar = c :: rest := by
    rw [List.dropWhile_append_of_pos hall, List.dropWhile_cons_of_neg hc]
  obtain ⟨first, others, hkey, -⟩ := h.exists_cons
  rw [simpleKey, htake, hdrop]
  split
  · rename_i hnil
    rw [hkey] at hnil
    cases hnil
  · rw [String.ofList_toList]

/-- A bare key that no dot follows is read on its own. -/
theorem dottedKey_bare {key : String} (h : IsBareKey key) {c d : Char} {rest after : List Char}
    (hc : isBareKeyChar c = false) (hnext : skipSpace (c :: rest) = d :: after) (hdot : d ≠ '.') :
    dottedKey (key.toList ++ c :: rest) = some ([key], c :: rest) := by
  have hparts (fuel : Nat) :
      keyParts (fuel + 1) (key.toList ++ c :: rest) = some ([key], c :: rest) := by
    rw [keyParts, simpleKey_bare h hc, Option.bind_eq_bind, Option.bind_some]
    dsimp only
    rw [hnext]
    split
    · rename_i heq
      exact absurd (List.cons.inj heq).1 hdot
    · rfl
  rw [dottedKey, List.length_append, List.length_cons, ← Nat.add_assoc, hparts]
  rfl

/-! ## Values -/

theorem exists_cons_quote (s : String) :
    ∃ c rest, quote s = c :: rest ∧ (c = '"' ∨ c = '\'') := by
  unfold quote Quoting.write
  cases Quoting.best s.toList with
  | basic => exact ⟨'"', _, rfl, .inl rfl⟩
  | literal => exact ⟨'\'', _, rfl, .inr rfl⟩
  | basicLines => exact ⟨'"', _, rfl, .inl rfl⟩
  | literalLines => exact ⟨'\'', _, rfl, .inr rfl⟩

theorem value_string (depth : Nat) {c : Char} (hc : c = '"' ∨ c = '\'') (rest : List Char) :
    value depth (c :: rest) =
      (anyString (c :: rest)).map fun found => (.string found.1, found.2) := by
  rcases hc with rfl | rfl
  · cases depth <;> rfl
  · cases depth <;> rfl

theorem value_quote (depth : Nat) (s : String) {rest : List Char} (h : EndsString rest) :
    value depth (quote s ++ rest) = some (.string s, rest) := by
  have hread := anyString_quote s h
  obtain ⟨c, after, hquote, hc⟩ := exists_cons_quote s
  rw [hquote, List.cons_append] at hread ⊢
  rw [value_string depth hc, hread]
  rfl

/-- No blanks stand before a string. -/
theorem skipSpace_quote (s : String) (rest : List Char) :
    skipSpace (quote s ++ rest) = quote s ++ rest := by
  obtain ⟨c, after, hquote, hc⟩ := exists_cons_quote s
  rw [hquote, List.cons_append]
  rcases hc with rfl | rfl
  · exact skipSpace_cons (by decide) _
  · exact skipSpace_cons (by decide) _

/-- A text that is read as a value up to the end of its line. -/
structure Denotes (text : List Char) (v : Value) : Prop where
  read : ∀ rest, value maxDepth (skipSpace (text ++ '\n' :: rest)) = some (v, '\n' :: rest)
  noReturn : '\r' ∉ text

theorem denotes_quote (s : String) : Denotes (quote s) (.string s) where
  read rest := by
    rw [skipSpace_quote]
    exact value_quote maxDepth s (endsString_cons (by decide) (by decide) rest)
  noReturn := return_not_mem_quote s

theorem denotes_bool (b : Bool) :
    Denotes (if b then "true".toList else "false".toList) (.boolean b) := by
  cases b with
  | false => exact ⟨fun _ => rfl, by decide⟩
  | true => exact ⟨fun _ => rfl, by decide⟩

/-! ## Arrays of strings -/

section

variable {one : List Char → Option (Value × List Char)} {s text rest : List Char} {c : Char}
  {v : Value} (fuel : Nat)

theorem items_end (hskip : skipLines s.length s = some (']' :: rest)) :
    items one (fuel + 1) s = some ([], rest) := by
  rw [items, hskip]
  rfl

variable (hskip : skipLines s.length s = some (c :: text)) (hc : c ≠ ']')

include hskip hc

theorem items_last (hone : one (c :: text) = some (v, ']' :: rest)) :
    items one (fuel + 1) s = some ([v], rest) := by
  have hclose : skipLines (']' :: rest).length (']' :: rest) = some (']' :: rest) :=
    skipLines_of_skipSpace (skipSpace_cons (by decide) rest) (by decide) (by decide) _
  rw [items, hskip, Option.bind_eq_bind, Option.bind_some]
  split
  · rename_i heq
    exact absurd (List.cons.inj heq).1 hc
  · rw [hone, Option.bind_eq_bind, Option.bind_some]
    dsimp only
    rw [hclose]
    rfl

theorem items_more (hone : one (c :: text) = some (v, ',' :: rest)) :
    items one (fuel + 1) s = (items one fuel rest).map fun found => (v :: found.1, found.2) := by
  have hcomma : skipLines (',' :: rest).length (',' :: rest) = some (',' :: rest) :=
    skipLines_of_skipSpace (skipSpace_cons (by decide) rest) (by decide) (by decide) _
  rw [items, hskip, Option.bind_eq_bind, Option.bind_some]
  split
  · rename_i heq
    exact absurd (List.cons.inj heq).1 hc
  · rw [hone, Option.bind_eq_bind, Option.bind_some]
    dsimp only
    rw [hcomma, Option.bind_some, Option.map_eq_bind]
    rfl

end

/-- The lines of an array, from the end of the line before them. -/
def itemLines (strings : List String) (rest : List Char) : List Char :=
  '\n' :: (strings.flatMap fun s => "    ".toList ++ quote s ++ [',', '\n']) ++ ']' :: rest

theorem itemLines_cons (s : String) (strings : List String) (rest : List Char) :
    itemLines (s :: strings) rest =
      '\n' :: ("    ".toList ++ (quote s ++ ',' :: itemLines strings rest)) := by
  simp [itemLines]

theorem skipLines_quote (blanks : List Char) (h : blanks.all isSpace = true) (s : String)
    (rest : List Char) (fuel : Nat) :
    skipLines (fuel + 1) (blanks ++ (quote s ++ rest)) = some (quote s ++ rest) := by
  have hskip : skipSpace (blanks ++ (quote s ++ rest)) = quote s ++ rest := by
    rw [skipSpace, List.dropWhile_append_of_pos (List.all_eq_true.1 h)]
    exact skipSpace_quote s rest
  obtain ⟨c, after, hquote, hc⟩ := exists_cons_quote s
  rw [hquote, List.cons_append] at hskip ⊢
  refine skipLines_of_skipSpace hskip ?_ ?_ fuel
  · rcases hc with rfl | rfl <;> decide
  · rcases hc with rfl | rfl <;> decide

theorem skipLines_itemLines (s : String) (strings : List String) (rest : List Char) :
    skipLines (itemLines (s :: strings) rest).length (itemLines (s :: strings) rest) =
      some (quote s ++ ',' :: itemLines strings rest) := by
  rw [itemLines_cons, List.length_cons, skipLines_newline]
  exact skipLines_quote _ (by decide) s _ _

theorem items_itemLines (depth : Nat) (strings : List String) (rest : List Char) (fuel : Nat) :
    items (value depth) (fuel + strings.length + 1) (itemLines strings rest) =
      some (strings.map .string, rest) := by
  induction strings with
  | nil => exact items_end fuel rfl
  | cons s strings ih =>
    have hskip := skipLines_itemLines s strings rest
    have hone := value_quote depth s
      (endsString_cons (c := ',') (by decide) (by decide) (itemLines strings rest))
    obtain ⟨c, after, hquote, hc⟩ := exists_cons_quote s
    rw [hquote, List.cons_append] at hskip hone
    rw [items_more _ hskip (by rcases hc with rfl | rfl <;> decide) hone, List.length_cons,
      ← Nat.add_assoc, ih]
    rfl

theorem length_le_itemLines (strings : List String) (rest : List Char) :
    strings.length ≤ (itemLines strings rest).length := by
  induction strings with
  | nil => exact Nat.zero_le _
  | cons s strings ih =>
    rw [itemLines_cons]
    simp only [List.length_cons, List.length_append]
    omega

/-- Arrays of strings are read back. -/
theorem value_writeStrings (strings : List String) (rest : List Char) :
    value maxDepth (writeStrings strings ++ rest) =
      some (.array (strings.map .string), rest) := by
  have harray : ∀ {s : List Char} {found : List Value},
      items (value 78) (s.length + 1) s = some (found, rest) →
        value maxDepth ('[' :: s) = some (.array found, rest) := by
    intro s found h
    show (items (value 78) (s.length + 1) s).map _ = _
    rw [h]
    rfl
  match strings with
  | [] => exact harray (items_end _ rfl)
  | [s] =>
    have htext : writeStrings [s] ++ rest = '[' :: (quote s ++ ']' :: rest) := by
      simp [writeStrings]
    have hone := value_quote 78 s (endsString_cons (c := ']') (by decide) (by decide) rest)
    have hskip : skipLines (quote s ++ ']' :: rest).length (quote s ++ ']' :: rest) =
        some (quote s ++ ']' :: rest) := by
      rw [List.length_append, List.length_cons, ← Nat.add_assoc]
      exact skipLines_quote [] rfl s _ _
    obtain ⟨c, after, hquote, hc⟩ := exists_cons_quote s
    rw [htext]
    rw [hquote, List.cons_append] at hskip hone ⊢
    exact harray (items_last _ hskip (by rcases hc with rfl | rfl <;> decide) hone)
  | s₁ :: s₂ :: strings =>
    have htext : writeStrings (s₁ :: s₂ :: strings) ++ rest =
        '[' :: itemLines (s₁ :: s₂ :: strings) rest := by
      simp [writeStrings, itemLines]
    rw [htext]
    refine harray ?_
    have hlength := length_le_itemLines (s₁ :: s₂ :: strings) rest
    rw [← Nat.sub_add_cancel hlength]
    exact items_itemLines 78 _ rest _

theorem denotes_writeStrings (strings : List String) :
    Denotes (writeStrings strings) (.array (strings.map .string)) where
  read rest := by
    have hskip : skipSpace (writeStrings strings ++ '\n' :: rest) =
        writeStrings strings ++ '\n' :: rest := by
      match strings with
      | [] => rfl
      | [_] => rfl
      | _ :: _ :: _ => rfl
    rw [hskip, value_writeStrings]
  noReturn := by
    match strings with
    | [] => decide
    | [s] => simp [writeStrings, return_not_mem_quote]
    | s₁ :: s₂ :: strings => simp [writeStrings, return_not_mem_quote]

/-! ## Lines -/

/-- A line that is read as a statement. -/
structure IsLine (line : List Char) (found : Statement) : Prop where
  read : ∀ rest, statement (line ++ '\n' :: rest) = some (found, '\n' :: rest)
  starts : ∃ c rest, line = c :: rest ∧ (c = '[' ∨ isBareKeyChar c = true)
  noReturn : '\r' ∉ line

theorem IsBareKey.noReturn {key : String} (h : IsBareKey key) : '\r' ∉ key.toList :=
  fun hmem => absurd (List.all_eq_true.1 h.2 _ hmem) (by decide)

theorem isLine_entry {key : String} (hkey : IsBareKey key) {text : List Char} {v : Value}
    (h : Denotes text v) : IsLine (key.toList ++ " = ".toList ++ text) (.pair [key] v) where
  read rest := by
    have htext : key.toList ++ " = ".toList ++ text ++ '\n' :: rest =
        key.toList ++ ' ' :: '=' :: ' ' :: (text ++ '\n' :: rest) := by simp
    have hpair : pair (value maxDepth) (key.toList ++ ' ' :: '=' :: ' ' :: (text ++ '\n' :: rest)) =
        some (([key], v), '\n' :: rest) := by
      rw [pair, hkey.skipSpace, dottedKey_bare hkey (by decide) rfl (by decide),
        Option.bind_eq_bind, Option.bind_some]
      show (value maxDepth (skipSpace (text ++ '\n' :: rest))).bind _ = _
      rw [h.read]
      rfl
    obtain ⟨c, others, hcons, hbare⟩ := hkey.exists_cons
    have hc : c ≠ '[' := ne_of_isBareKeyChar hbare (by decide)
    rw [htext]
    rw [hcons, List.cons_append] at hpair ⊢
    rw [statement]
    · rw [hpair]
      rfl
    · exact fun _ h => hc (List.cons.inj h).1
    · exact fun _ h => hc (List.cons.inj h).1
  starts := by
    obtain ⟨c, others, hcons, hbare⟩ := hkey.exists_cons
    rw [hcons]
    exact ⟨c, _, rfl, .inr hbare⟩
  noReturn := by simp [hkey.noReturn, h.noReturn]

theorem header_bare {key : String} (hkey : IsBareKey key) (more rest : List Char) :
    header (']' :: more) (key.toList ++ ']' :: (more ++ rest)) = some ([key], rest) := by
  have hskip : skipSpace (']' :: (more ++ rest)) = ']' :: (more ++ rest) :=
    skipSpace_cons (by decide) _
  have hclose : (']' :: more).isPrefixOf (']' :: (more ++ rest)) = true := by simp
  rw [header, hkey.skipSpace, dottedKey_bare hkey (by decide) hskip (by decide),
    Option.bind_eq_bind, Option.bind_some]
  dsimp only
  rw [hskip, if_pos hclose]
  simp

theorem isLine_tableHeader {key : String} (hkey : IsBareKey key) :
    IsLine ('[' :: key.toList ++ [']']) (.table [key]) where
  read rest := by
    have hheader := header_bare hkey [] ('\n' :: rest)
    obtain ⟨c, others, hcons, hbare⟩ := hkey.exists_cons
    have hc : c ≠ '[' := ne_of_isBareKeyChar hbare (by decide)
    have htext : '[' :: key.toList ++ [']'] ++ '\n' :: rest =
        '[' :: (key.toList ++ ']' :: '\n' :: rest) := by simp
    rw [htext]
    rw [hcons, List.cons_append, List.nil_append] at hheader
    rw [hcons, List.cons_append, statement]
    · rw [hheader]
      rfl
    · exact fun _ h => hc (List.cons.inj h).1
  starts := ⟨'[', _, rfl, .inl rfl⟩
  noReturn := by simp [hkey.noReturn]

theorem isLine_itemHeader {key : String} (hkey : IsBareKey key) :
    IsLine ('[' :: '[' :: key.toList ++ [']', ']']) (.item [key]) where
  read rest := by
    have htext : '[' :: '[' :: key.toList ++ [']', ']'] ++ '\n' :: rest =
        '[' :: '[' :: (key.toList ++ ']' :: ([']'] ++ '\n' :: rest)) := by simp
    rw [htext, statement, header_bare hkey [']']]
    rfl
  starts := ⟨'[', _, rfl, .inl rfl⟩
  noReturn := by simp [hkey.noReturn]

theorem statements_line {line : List Char} {found : Statement} (h : IsLine line found) (fuel : Nat)
    (rest : List Char) :
    statements (fuel + 1) (line ++ '\n' :: rest) = (statements fuel rest).map (found :: ·) := by
  have hread := h.read rest
  obtain ⟨c, others, hcons, hstart⟩ := h.starts
  -- the line is neither blank nor a comment, so that a statement is read from it
  have hother : ∀ d, isBareKeyChar d = false → d ≠ '[' → c ≠ d := by
    rintro d hd hbracket rfl
    rcases hstart with rfl | hbare
    · exact hbracket rfl
    · exact ne_of_isBareKeyChar hbare hd rfl
  have hspace : isSpace c = false := by
    simp [isSpace, hother ' ' (by decide) (by decide), hother '\t' (by decide) (by decide)]
  rw [hcons, List.cons_append] at hread ⊢
  rw [statements, skipSpace_cons hspace]
  split
  · rename_i heq
    cases heq
  · rename_i heq
    exact absurd (List.cons.inj heq).1 (hother '\n' (by decide) (by decide))
  · rename_i heq
    exact absurd (List.cons.inj heq).1 (hother '#' (by decide) (by decide))
  · rw [hread, Option.map_eq_bind]
    rfl

/-! ## Lines one after another -/

/-- Lines that are read as statements, whatever lines follow. -/
structure Spells (text : List Char) (found : List Statement) : Prop where
  read : ∃ lines, lines ≤ text.length ∧ ∀ fuel rest,
    statements (fuel + lines) (text ++ rest) = (statements fuel rest).map (found ++ ·)
  noReturn : '\r' ∉ text

theorem spells_nil : Spells [] [] where
  read := ⟨0, Nat.zero_le _, fun fuel rest => by simp⟩
  noReturn := nofun

theorem Spells.append {s t : List Char} {found more : List Statement} (hs : Spells s found)
    (ht : Spells t more) : Spells (s ++ t) (found ++ more) where
  read := by
    obtain ⟨linesOf, hlinesOf, hread⟩ := hs.read
    obtain ⟨linesAfter, hlinesAfter, hreadAfter⟩ := ht.read
    refine ⟨linesAfter + linesOf, by simp; omega, fun fuel rest => ?_⟩
    rw [← Nat.add_assoc, List.append_assoc, hread, hreadAfter, Option.map_map]
    simp only [Function.comp_def, List.append_assoc]
  noReturn := List.not_mem_append hs.noReturn ht.noReturn

theorem Spells.flatMap {α : Type} {text : α → List Char} {found : α → List Statement}
    (h : ∀ x, Spells (text x) (found x)) (xs : List α) :
    Spells (xs.flatMap text) (xs.flatMap found) := by
  induction xs with
  | nil => exact spells_nil
  | cons x xs ih => exact (h x).append ih

theorem spells_blank : Spells ['\n'] [] where
  read := ⟨1, Nat.le_refl 1, fun fuel rest => by
    show statements fuel rest = _
    simp⟩
  noReturn := by decide

theorem IsLine.spells {line : List Char} {found : Statement} (h : IsLine line found) :
    Spells (line ++ ['\n']) [found] where
  read := by
    refine ⟨1, by simp, fun fuel rest => ?_⟩
    rw [List.append_assoc, List.singleton_append, statements_line h]
    rfl
  noReturn := List.not_mem_append h.noReturn (by decide)

theorem Spells.statements_eq {text : List Char} {found : List Statement} (h : Spells text found) :
    statements (text.length + 1) text = some found := by
  obtain ⟨lines, hlines, hread⟩ := h.read
  have hlength : text.length + 1 = text.length - lines + 1 + lines := by omega
  rw [hlength, ← List.append_nil text, hread]
  simp [statements, skipSpace]

/-! ## Entries and headers -/

variable {key : String} (hkey : IsBareKey key)

include hkey

theorem spells_entry {text : List Char} {v : Value} (h : Denotes text v) :
    Spells (entry key text) [.pair [key] v] := (isLine_entry hkey h).spells

theorem spells_stringEntry (s : String) :
    Spells (stringEntry key s) [.pair [key] (.string s)] := spells_entry hkey (denotes_quote s)

theorem spells_boolEntry (b : Bool) : Spells (boolEntry key b) [.pair [key] (.boolean b)] :=
  spells_entry hkey (denotes_bool b)

theorem spells_stringsEntry (strings : List String) :
    Spells (stringsEntry key strings) [.pair [key] (.array (strings.map .string))] :=
  spells_entry hkey (denotes_writeStrings strings)

theorem spells_tableHeader : Spells (tableHeader key) [.table [key]] := by
  have htext : tableHeader key = '[' :: key.toList ++ [']'] ++ ['\n'] := by simp [tableHeader]
  exact htext ▸ (isLine_tableHeader hkey).spells

theorem spells_itemHeader : Spells (itemHeader key) [.item [key]] := by
  have htext : itemHeader key = '[' :: '[' :: key.toList ++ [']', ']'] ++ ['\n'] := by
    simp [itemHeader]
  exact htext ▸ (isLine_itemHeader hkey).spells

end Metatype.Toml
