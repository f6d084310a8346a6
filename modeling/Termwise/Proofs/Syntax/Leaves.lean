import Termwise.Print.Limit
import Termwise.Proofs.Syntax.Acceptance
import Termwise.Proofs.Syntax.Lexemes
import Termwise.Tree.Variables

/-
  The leaves of a tree that is read from a text are the names
  and numbers of the text, in reading order.

  Key definitions include:
    * `Lexeme.named?`
    * `Lexeme.value?`

  Main declarations:
    * `Derives.names_eq`
    * `Derives.numbers_eq`
    * `letters_of_parse`
    * `writable_of_parse`
-/

namespace Termwise

------------------------------------------------------------
-- Spelling
------------------------------------------------------------

namespace Lexeme

/- The variable that a lexeme names. -/
def named? : Lexeme → Option String
| name letters => some (String.ofList letters)
| _ => none

/- The number that a lexeme is written for. -/
def value? : Lexeme → Option Nat
| number digits => some (Text.numeralValue digits)
| _ => none

end Lexeme

------------------------------------------------------------
-- Derivations
------------------------------------------------------------

namespace Derives

variable {level : Level} {ls : List Lexeme}

variable {t : Tree} {n : Nat}

/- The variables of a tree are those of its lexemes. -/
theorem names_eq
    (h : Derives level ls t n) :
    t.names = ls.filterMap Lexeme.named? := by
  induction h with
  | number digits => rfl
  | name letters => rfl
  | negation _ ih | factor _ ih | term _ ih => exact ih
  | parentheses _ ih =>
      simp [List.filterMap_cons, Lexeme.named?, ih]
  | times o _ _ _ ihLeft ihRight
  | plus o _ _ _ ihLeft ihRight =>
      simp [Tree.names, List.filterMap_cons, Lexeme.named?, ihLeft,
        ihRight]

/- The numbers of a tree are those of its lexemes. -/
theorem numbers_eq
    (h : Derives level ls t n) :
    t.numbers = ls.filterMap Lexeme.value? := by
  induction h with
  | number digits => rfl
  | name letters => rfl
  | negation _ ih | factor _ ih | term _ ih => exact ih
  | parentheses _ ih =>
      simp [List.filterMap_cons, Lexeme.value?, ih]
  | times o _ _ _ ihLeft ihRight
  | plus o _ _ _ ihLeft ihRight =>
      simp [Tree.numbers, List.filterMap_cons, Lexeme.value?, ihLeft,
        ihRight]

end Derives

------------------------------------------------------------
-- Accepted Texts
------------------------------------------------------------

/- A tree is read from well spelled tokens. -/
theorem exists_derives_of_parse
    {text : String}
    {t : Tree}
    (h : parse text = .ok t) :
    ∃ ls n, Derives .sum ls t n ∧
      ∀ l ∈ ls, l.WellSpelled ∧ l.Short := by
  rcases parse_eq_ok.mp h with ⟨ts, hTokens, hParsed, _⟩
  have hSpells := parseTokens_eq_ok_iff.mp hParsed
  have hSpelling := tokensFrom_wellSpelled hTokens
  rcases hSpells.derives with ⟨n, hDerives, _⟩
  refine ⟨_, n, hDerives, ?_⟩
  intro l hMem
  rcases List.mem_map.mp hMem with ⟨token, hToken, rfl⟩
  exact ⟨hSpelling token hToken, hSpells.short token hToken⟩

/- A variable that is read is a word of letters. -/
theorem letters_of_parse
    {text : String}
    {t : Tree}
    (h : parse text = .ok t)
    {x : String}
    (hx : x ∈ t.names) :
    x.toList ≠ [] ∧ ∀ c ∈ x.toList, isLetter c = true := by
  rcases exists_derives_of_parse h with
    ⟨ls, n, hDerives, hLexemes⟩
  rw [hDerives.names_eq] at hx
  rcases List.mem_filterMap.mp hx with ⟨l, hMem, hName⟩
  cases l with
  | name letters =>
      cases hName
      rw [String.toList_ofList]
      exact (hLexemes _ hMem).1
  | number | op | opening | closing => cases hName

/- A number that is read can be written. -/
theorem writable_of_parse
    {text : String}
    {t : Tree}
    (h : parse text = .ok t) :
    t.Writable := by
  rcases exists_derives_of_parse h with
    ⟨ls, n, hDerives, hLexemes⟩
  intro m hm
  rw [hDerives.numbers_eq] at hm
  rcases List.mem_filterMap.mp hm with ⟨l, hMem, hValue⟩
  cases l with
  | number digits =>
      cases hValue
      rcases hLexemes _ hMem with ⟨hSpelled, hShort⟩
      exact Text.writable_numeralValue hSpelled.2 hShort
  | name | op | opening | closing => cases hValue

end Termwise
