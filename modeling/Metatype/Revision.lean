import Metatype.SemanticVersion
import Metatype.Text.Blank

/-!
# Revisions of the metatype document format

The revisions a schema can be written for, ordered by age, and the reader for the texts that name
them (`1.4`, `v1.4.0`).

* `Revision.le_raise_left`, `Revision.le_raise_right`: raising to a revision lowers nothing.
* `Revision.parse`: the reader; a missing minor or patch number counts as zero.
-/

namespace Metatype

/-- A revision of the metatype document format. -/
inductive Revision
  | v1_2
  | v1_3
  | v1_4
  deriving DecidableEq, Repr, Inhabited

namespace Revision

/-- All revisions, oldest first. -/
def all : List Revision := [.v1_2, .v1_3, .v1_4]

/-- The second number of a revision; the first is one, the third is zero. -/
def minor : Revision → Nat
  | .v1_2 => 2
  | .v1_3 => 3
  | .v1_4 => 4

/-- The revision as a semantic version. -/
def version (r : Revision) : SemanticVersion := ⟨1, r.minor, 0, [], []⟩

/-- The revision as text with three numbers. -/
def text : Revision → String
  | .v1_2 => "1.2.0"
  | .v1_3 => "1.3.0"
  | .v1_4 => "1.4.0"

/-- The revision with exactly this text. -/
def ofText? (s : String) : Option Revision := all.find? (·.text = s)

/-- The document namespace of the revision. -/
def namespaceUri (r : Revision) : String := "http://www.osgi.org/xmlns/metatype/v" ++ r.text

/-! ## Order -/

instance : LE Revision := ⟨fun a b => a.minor ≤ b.minor⟩

instance : LT Revision := ⟨fun a b => a.minor < b.minor⟩

instance (a b : Revision) : Decidable (a ≤ b) := inferInstanceAs (Decidable (a.minor ≤ b.minor))

instance (a b : Revision) : Decidable (a < b) := inferInstanceAs (Decidable (a.minor < b.minor))

/-- The later of two revisions. -/
def raise (current wanted : Revision) : Revision := if current < wanted then wanted else current

theorem le_refl (a : Revision) : a ≤ a := Nat.le_refl _

theorem le_trans {a b c : Revision} (hab : a ≤ b) (hbc : b ≤ c) : a ≤ c :=
  Nat.le_trans (n := a.minor) hab hbc

theorem le_raise_left (a b : Revision) : a ≤ a.raise b := by
  cases a <;> cases b <;> decide

theorem le_raise_right (a b : Revision) : b ≤ a.raise b := by
  cases a <;> cases b <;> decide

theorem mem_all (r : Revision) : r ∈ all := by cases r <;> decide

@[simp]
theorem ofText?_text (r : Revision) : ofText? r.text = some r := by cases r <;> decide

/-! ## Reading -/

/-- Why a text names no revision. -/
inductive Fault
  /-- Nothing is left once blanks and the letter `v` are taken off. -/
  | empty (given : String)
  /-- A semantic version, but of no revision. -/
  | unsupported (given : String)
  /-- Not a semantic version. -/
  | malformed (fault : SemanticVersion.Fault)
  deriving DecidableEq, Repr

/-- The text of a fault and, where the text is no version at all, that of its cause. -/
def Fault.messages : Fault → List String
  | .empty given => ["Invalid metatype version: " ++ given]
  | .unsupported given => ["Unsupported metatype version: " ++ given]
  | .malformed fault => ["Semver error: " ++ fault.message, fault.message]

/-- The text without surrounding blanks and without one `v` in front. -/
def bare (s : List Char) : List Char :=
  match Text.trim s with
  | 'v' :: rest => rest
  | rest => rest

/-- Completes a text with fewer than two dots to three numbers. -/
def complete (s : List Char) : List Char :=
  match s.count '.' with
  | 0 => s ++ ['.', '0', '.', '0']
  | 1 => s ++ ['.', '0']
  | _ => s

/-- The revision that a text names. -/
def parse (given : String) : Except Fault Revision :=
  let s := bare given.toList
  if s.isEmpty then .error (.empty given)
  else
    match SemanticVersion.parse (complete s) with
    | .error fault => .error (.malformed fault)
    | .ok version =>
      match all.find? (·.version = version) with
      | some r => .ok r
      | none => .error (.unsupported given)

end Revision

end Metatype
