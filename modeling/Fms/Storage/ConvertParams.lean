import Fms.Sql.Scanner
import Fms.Storage.Orm

/-! `ConvertParams`: the placeholders of a statement, as PostgreSQL numbers them. -/

namespace Fms

namespace Orm

/-- The loop of `ConvertParams` over the characters, with its counter. -/
def convertChars : Nat → List Char → List Char
  | _, [] => []
  | idx, i :: rest =>
    if i = '?' then '$' :: (toString idx).toList ++ convertChars (idx + 1) rest
    else i :: convertChars idx rest

/-- `ConvertParams`. -/
def convertParams (type : DBType) (S : String) : String :=
  if type ≠ .pgsql then S else String.ofList (convertChars 1 S.toList)

/-- The placeholders of a statement are its question marks outside of literals, quoted identifiers and comments. -/
def placeholders (S : String) : List Sql.Item :=
  Sql.items .gap 1 S.toList

/--
The conversion preserves a statement: it writes `$k` for the `k`th placeholder and copies every other character,
and PostgreSQL reads the result as the characters and the placeholders of the statement, which the other backends
receive as it is.
-/
def PreservesStatement (S : String) : Prop :=
  convertParams .pgsql S = String.ofList (Sql.spelling (placeholders S)) ∧
    Sql.scan .gap none (convertParams .pgsql S).toList = some (placeholders S) ∧
    convertParams .sqlite S = S ∧ convertParams .mysql S = S

/-- The loop writes the placeholders of a text as parameters exactly where none of its question marks is hidden. -/
theorem convertChars_eq_iff {place : Sql.Place} (idx : Nat) {text : List Char} :
    convertChars idx text = Sql.spelling (Sql.items place idx text) ↔ Sql.NoneHidden place text := by
  -- The first hidden question mark is the first character that differs.
  induction text generalizing place idx with
  | nil => exact ⟨fun _ => Sql.atEach_nil '?', fun _ => rfl⟩
  | cons i rest ih =>
    rw [Sql.NoneHidden, Sql.atEach_cons, ← Sql.NoneHidden, convertChars]
    by_cases question : i = '?'
    · rw [if_pos question]
      by_cases code : place.isCode = true
      · -- A placeholder becomes a parameter in both.
        rw [Sql.items, if_pos ⟨question, code⟩, Sql.spelling_cons, ← ih (idx + 1)]
        simp [Sql.Item.spelling, code]
      · -- A hidden one is no placeholder, and the loop replaces it.
        rw [Sql.items, if_neg (fun both => code both.2), Sql.spelling_cons]
        simp [Sql.Item.spelling, question, code]
    · rw [if_neg question, Sql.items, if_neg (fun both => question both.1), Sql.spelling_cons, ← ih idx]
      simp [Sql.Item.spelling, question]

/--
The conversion preserves a statement exactly where every question mark is a token of its own, outside of literals,
quoted identifiers and comments and apart from words, and where it has no numbered parameters to begin with.
-/
theorem preservesStatement_iff (S : String) :
    PreservesStatement S ↔ Sql.Separated .gap S.toList := by
  have converts : convertParams .pgsql S = String.ofList (convertChars 1 S.toList) := if_neg (not_not_intro rfl)
  have unchanged : convertParams .sqlite S = S ∧ convertParams .mysql S = S :=
    ⟨if_pos (by decide), if_pos (by decide)⟩
  rw [PreservesStatement, converts, and_iff_left unchanged, String.toList_ofList]
  refine ⟨fun ⟨texts, scanned⟩ => ?_, fun separated => ?_⟩
  · -- Where the texts agree nothing is hidden, and so the parameters that are read back decide.
    have texts := String.ofList_injective texts
    rw [texts] at scanned
    exact (Sql.scan_spelling_iff Nat.one_pos ((convertChars_eq_iff 1).mp texts)).mp scanned
  · rw [(convertChars_eq_iff 1).mpr separated.noneHidden]
    exact ⟨rfl, (Sql.scan_spelling_iff Nat.one_pos separated.noneHidden).mpr separated⟩

/-- The question mark of an address becomes a number in the middle of its literal. -/
theorem not_preservesStatement_uri : ¬ PreservesStatement "uri='http://h/f?v=2'" := by
  rintro ⟨texts, -⟩
  exact absurd texts (by decide)

end Orm

end Fms
