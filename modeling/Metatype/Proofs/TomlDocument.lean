import Metatype.Proofs.TomlLines

/-!
# Documents in TOML text

The statements of a document build the table that was meant. Each statement changes the table that
is open, which is the last entry of its document or the document itself, so that the entries before
it stay as they are: values are added to it, a header of a section opens the next one, and a header
of a table in an array one more of its tables.

* `Toml.Surrounds`: the entries around the table that is open.
* `Toml.foldlM_pairs`, `Toml.foldlM_section`: values, and sections of them.
* `Toml.exists_foldlM_items`: the tables of an array.
* `Toml.Document.parse_of_spells`: a document from its lines.
-/

namespace Metatype.Toml

namespace Outline

/-! ## Entries at the end -/

variable {entries : Entries} {key : String} (h : entries.lookup key = none)

include h

theorem lookup_append_self (o : Outline) : (entries ++ [(key, o)]).lookup key = some o := by
  rw [List.lookup_append, h, Option.none_or]
  simp

/-- Entries under other keys stay as they are. -/
theorem putEntry_append_of_fresh (rest : Entries) (o : Outline) :
    putEntry (entries ++ rest) key o = entries ++ putEntry rest key o := by
  induction entries with
  | nil => rfl
  | cons e entries ih =>
    obtain ⟨k, w⟩ := e
    rw [List.lookup_cons] at h
    split at h
    · cases h
    · rename_i hne
      have hk : k ≠ key := by
        rintro rfl
        simp at hne
      rw [List.cons_append, putEntry, if_neg hk, ih h]
      rfl

theorem putEntry_of_fresh (o : Outline) : putEntry entries key o = entries ++ [(key, o)] := by
  rw [← List.append_nil entries, putEntry_append_of_fresh h, List.append_nil]
  rfl

theorem putEntry_append (o new : Outline) :
    putEntry (entries ++ [(key, o)]) key new = entries ++ [(key, new)] := by
  rw [putEntry_append_of_fresh h, putEntry, if_pos rfl]

theorem insert?_of_fresh (v : Value) :
    insert? v [key] entries = some (entries ++ [(key, .value v)]) := by
  rw [insert?, h]
  exact congrArg some (putEntry_of_fresh h _)

theorem openTable?_of_fresh :
    openTable? key entries = some (entries ++ [(key, .table .header [])]) := by
  rw [openTable?, h]
  exact congrArg some (putEntry_of_fresh h _)

theorem openItem?_of_fresh : openItem? key entries = some (entries ++ [(key, .tables [] [])]) := by
  rw [openItem?, h]
  exact congrArg some (putEntry_of_fresh h _)

theorem openItem?_append (last : Entries) (earlier : List Entries) :
    openItem? key (entries ++ [(key, .tables last earlier)]) =
      some (entries ++ [(key, .tables [] (last :: earlier))]) := by
  rw [openItem?, lookup_append_self h]
  exact congrArg some (putEntry_append h _ _)

end Outline

open Outline (Entries)

/-! ## The table that is open -/

/-- What stands around the table at a path, which is changed within it. -/
def Surrounds (around : Entries → Entries) (path : List String) : Prop :=
  ∀ change inner, Outline.within? change path (around inner) = (change inner).map around

theorem surrounds_root : Surrounds id [] := fun change inner => by
  rw [Outline.within?]
  simp

section

variable {entries : Entries} {key : String} (h : entries.lookup key = none)

include h

theorem surrounds_table (origin : Origin) :
    Surrounds (fun inner => entries ++ [(key, .table origin inner)]) [key] := by
  intro change inner
  simp only [Outline.within?, Outline.lookup_append_self h, Outline.putEntry_append h]

theorem surrounds_last (earlier : List Entries) :
    Surrounds (fun inner => entries ++ [(key, .tables inner earlier)]) [key] := by
  intro change inner
  simp only [Outline.within?, Outline.lookup_append_self h, Outline.putEntry_append h]

end

/-! ## Values -/

/-- The statements of keys with their values. -/
def pairStatements (pairs : List (String × Value)) : List Statement :=
  pairs.map fun p => .pair [p.1] p.2

/-- The entries of finished values. -/
def valueEntries (pairs : List (String × Value)) : Entries := pairs.map fun p => (p.1, .value p.2)

theorem toEntries_valueEntries (pairs : List (String × Value)) :
    Outline.toEntries (valueEntries pairs) = pairs := by
  induction pairs with
  | nil => rfl
  | cons p pairs ih => exact congrArg (p :: ·) ih

theorem toEntries_append (entries more : Entries) :
    Outline.toEntries (entries ++ more) = Outline.toEntries entries ++ Outline.toEntries more := by
  induction entries with
  | nil => rfl
  | cons e entries ih => exact congrArg ((e.1, e.2.toValue) :: ·) ih

/-- Values are added to the table that is open. -/
theorem foldlM_pairs {around : Entries → Entries} {path : List String} (h : Surrounds around path)
    (inner : Entries) {pairs : List (String × Value)}
    (hkeys : (inner.map (·.1) ++ pairs.map (·.1)).Nodup) :
    (pairStatements pairs).foldlM Document.add? ⟨around inner, path⟩ =
      some ⟨around (inner ++ valueEntries pairs), path⟩ := by
  induction pairs generalizing inner with
  | nil =>
    rw [valueEntries, List.map_nil, List.append_nil]
    rfl
  | cons p pairs ih =>
    have hfresh : inner.lookup p.1 = none := by
      rw [List.lookup_eq_none_iff]
      intro e he
      have hne := (List.nodup_append.1 hkeys).2.2 e.1 (List.mem_map_of_mem he) p.1 (by simp)
      simpa using hne.symm
    have hadd : Document.add? ⟨around inner, path⟩ (.pair [p.1] p.2) =
        some ⟨around (inner ++ [(p.1, .value p.2)]), path⟩ := by
      rw [Document.add?, h, Outline.insert?_of_fresh hfresh]
      rfl
    have hrest : ((inner ++ [(p.1, Outline.value p.2)]).map (·.1) ++ pairs.map (·.1)).Nodup := by
      simpa using hkeys
    rw [pairStatements, List.map_cons, List.foldlM_cons, hadd, Option.bind_eq_bind,
      Option.bind_some]
    refine (ih _ hrest).trans ?_
    simp [valueEntries]

/-! ## Sections -/

variable {d : Document} {key : String}

/-- A header with values below it adds a table. -/
theorem foldlM_section (hkey : d.entries.lookup key = none) {pairs : List (String × Value)}
    (hkeys : (pairs.map (·.1)).Nodup) :
    (.table [key] :: pairStatements pairs).foldlM Document.add? d =
      some ⟨d.entries ++ [(key, .table .header (valueEntries pairs))], [key]⟩ := by
  have hopen : d.add? (.table [key]) =
      some ⟨d.entries ++ [(key, .table .header [])], [key]⟩ := by
    show (Outline.openTable? key d.entries).bind _ = _
    rw [Outline.openTable?_of_fresh hkey]
    rfl
  rw [List.foldlM_cons, hopen, Option.bind_eq_bind, Option.bind_some]
  exact foldlM_pairs (surrounds_table hkey .header) [] hkeys

/-! ## Tables of an array -/

/-- The statements of the tables of an array. -/
def itemStatements (key : String) (blocks : List (List (String × Value))) : List Statement :=
  blocks.flatMap fun pairs => .item [key] :: pairStatements pairs

theorem toTables_append (earlier : List Entries) (done more : List Value) :
    Outline.toTables earlier (done ++ more) = Outline.toTables earlier done ++ more := by
  induction earlier generalizing done with
  | nil => rfl
  | cons entries earlier ih => exact ih (_ :: done)

/-- One more table comes after the others. -/
theorem toValue_tables_cons {last : Entries} {earlier : List Entries} {done : List Value}
    (h : Outline.toValue (.tables last earlier) = .array done) (inner : Entries) :
    Outline.toValue (.tables inner (last :: earlier)) =
      .array (done ++ [.table (Outline.toEntries inner)]) := by
  rw [Outline.toValue, Value.array.injEq] at h
  rw [Outline.toValue, Outline.toTables, ← h]
  exact congrArg Value.array (toTables_append earlier [_] [_])

/-- A header with values below it fills the table that it opens. -/
theorem foldlM_item {entries : Entries} (hkey : entries.lookup key = none)
    {earlier : List Entries}
    (hopen : Outline.openItem? key d.entries = some (entries ++ [(key, .tables [] earlier)]))
    {pairs : List (String × Value)} (hkeys : (pairs.map (·.1)).Nodup) :
    (.item [key] :: pairStatements pairs).foldlM Document.add? d =
      some ⟨entries ++ [(key, .tables (valueEntries pairs) earlier)], [key]⟩ := by
  have hadd : d.add? (.item [key]) = some ⟨entries ++ [(key, .tables [] earlier)], [key]⟩ := by
    show (Outline.openItem? key d.entries).bind _ = _
    rw [hopen]
    rfl
  rw [List.foldlM_cons, hadd, Option.bind_eq_bind, Option.bind_some]
  exact foldlM_pairs (surrounds_last hkey earlier) [] hkeys

/-- Further headers with values below them add tables to an array. -/
theorem exists_foldlM_more {entries : Entries} (hkey : entries.lookup key = none)
    {blocks : List (List (String × Value))} (hkeys : ∀ pairs ∈ blocks, (pairs.map (·.1)).Nodup)
    {last : Entries} {earlier : List Entries} {done : List Value}
    (hdone : Outline.toValue (.tables last earlier) = .array done) :
    ∃ o, (itemStatements key blocks).foldlM Document.add?
          ⟨entries ++ [(key, .tables last earlier)], [key]⟩ =
        some ⟨entries ++ [(key, o)], [key]⟩ ∧
      o.toValue = .array (done ++ blocks.map .table) := by
  induction blocks generalizing last earlier done with
  | nil => exact ⟨_, rfl, by simpa using hdone⟩
  | cons pairs blocks ih =>
    rw [List.forall_mem_cons] at hkeys
    have hitem := foldlM_item (d := ⟨entries ++ [(key, .tables last earlier)], [key]⟩) hkey
      (Outline.openItem?_append hkey last earlier) hkeys.1
    obtain ⟨o, hfold, ho⟩ := ih hkeys.2 (toValue_tables_cons hdone (valueEntries pairs))
    refine ⟨o, ?_, ?_⟩
    · rw [itemStatements, List.flatMap_cons, List.foldlM_append, hitem]
      exact hfold
    · rw [ho, toEntries_valueEntries, List.map_cons, List.append_assoc]
      rfl

/-- Headers with values below them add an array of tables. -/
theorem exists_foldlM_items (hkey : d.entries.lookup key = none)
    {first : List (String × Value)} {blocks : List (List (String × Value))}
    (hkeys : ∀ pairs ∈ first :: blocks, (pairs.map (·.1)).Nodup) :
    ∃ o, (itemStatements key (first :: blocks)).foldlM Document.add? d =
        some ⟨d.entries ++ [(key, o)], [key]⟩ ∧
      o.toValue = .array ((first :: blocks).map .table) := by
  rw [List.forall_mem_cons] at hkeys
  have hitem := foldlM_item hkey (Outline.openItem?_of_fresh hkey) hkeys.1
  have hfirst : Outline.toValue (.tables (valueEntries first) []) = .array [.table first] := by
    rw [Outline.toValue, Outline.toTables, toEntries_valueEntries]
  obtain ⟨o, hfold, ho⟩ := exists_foldlM_more hkey hkeys.2 hfirst
  refine ⟨o, ?_, ho⟩
  rw [itemStatements, List.flatMap_cons, List.foldlM_append, hitem]
  exact hfold

/-! ## Values that stand for no date or time -/

theorem settle?_array {items : List Value} (h : ∀ v ∈ items, v.settle? = some v) :
    (Value.array items).settle? = some (.array items) := by
  have hitems : settleItems? items = some items := by
    induction items with
    | nil => rfl
    | cons v items ih =>
      rw [List.forall_mem_cons] at h
      rw [settleItems?, h.1, ih h.2]
      rfl
  rw [Value.settle?, hitems]
  rfl

theorem settle?_table {entries : List (String × Value)} (hfirst : reserved? entries = none)
    (h : ∀ e ∈ entries, e.2.settle? = some e.2) :
    (Value.table entries).settle? = some (.table entries) := by
  have hentries : settleEntries? entries = some entries := by
    clear hfirst
    induction entries with
    | nil => rfl
    | cons e entries ih =>
      rw [List.forall_mem_cons] at h
      rw [settleEntries?, h.1, ih h.2]
      rfl
  rw [Value.settle?, hfirst, hentries]
  rfl

/-! ## Whole documents -/

namespace Document

theorem lineFeeds_eq {s : List Char} (h : '\r' ∉ s) : normalize.lineFeeds s = s := by
  induction s with
  | nil => rfl
  | cons c s ih =>
    rw [List.mem_cons, not_or] at h
    rw [normalize.lineFeeds, ih h.2]
    exact fun _ hreturn => absurd hreturn.symm h.1

/-- A text without carriage returns and byte order mark is read as it is. -/
theorem normalize_eq {s : List Char} (hreturn : '\r' ∉ s) (hmark : s.head? ≠ some '\ufeff') :
    normalize s = s := by
  unfold normalize
  split
  · exact absurd rfl hmark
  · exact lineFeeds_eq hreturn

/-- A document has the entries that its statements make. -/
theorem parse_of_spells {text : String} {found : List Statement} (h : Spells text.toList found)
    (hmark : text.toList.head? ≠ some '\ufeff') {d : Document}
    (hfold : found.foldlM add? {} = some d) {entries : List (String × Value)}
    (hentries : Outline.toEntries d.entries = entries)
    (hsettle : (Value.table entries).settle? = some (.table entries)) :
    parse text = some entries := by
  rw [parse, normalize_eq h.noReturn hmark, h.statements_eq, Option.bind_eq_bind, Option.bind_some,
    hfold, Option.bind_eq_bind, Option.bind_some, hentries, hsettle]
  rfl

end Document

end Metatype.Toml
