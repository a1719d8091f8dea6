import Specter.Lib.Register
import Specter.Lib.Text

/-!
# Environment files

What a process finds in its environment when systemd starts it with an
`EnvironmentFile=`. A line assigns a value to a name, unless it is a
comment; blanks around the name and the value are dropped, and so are
the quotes around the value. Of several assignments to a name the last
one wins: the environment is a register over the lines.
-/

namespace EnvFile

open Posix

def trim (t : Text) : Text := (t.dropWhile isSpace).rdropWhile isSpace

/-- Without the quotes around it, if there are any. -/
def unquote : Text → Text
  | [] => []
  | c :: cs =>
    if (c = '"' ∨ c = '\'') ∧ cs.getLast? = some c then cs.dropLast else c :: cs

/-- The name and the value a line assigns. -/
def assignment (line : Text) : Option (Text × Text) :=
  let line := line.dropWhile isSpace
  if line.head? = some '#' ∨ !line.contains '=' then none
  else
    some (trim (line.takeWhile (· ≠ '=')), unquote (trim ((line.dropWhile (· ≠ '=')).drop 1)))

/-- The value a line assigns to a name. -/
def assigned (name line : Text) : Option Text :=
  (assignment line).bind fun (n, value) => if n = name then some value else none

/-- The value a name has in the environment. -/
def lookup (text name : Text) : Option Text :=
  Register.last (fun line => (assigned name line).map some) none (lines text)

/-- A name has no value, or the one that its last assignment gives it. -/
theorem lookup_cases (text name : Text) :
    ((∀ line ∈ lines text, assigned name line = none) ∧ lookup text name = none) ∨
      ∃ before line after value, lines text = before ++ line :: after ∧
        assigned name line = some value ∧ (∀ l ∈ after, assigned name l = none) ∧
        lookup text name = some value := by
  rcases Register.last_eq_init_or (fun line => (assigned name line).map some) none (lines text) with
    ⟨hnone, hlast⟩ | ⟨before, line, after, b, heq, hline, hafter, hlast⟩
  · exact Or.inl ⟨fun line hline => Option.map_eq_none_iff.mp (hnone line hline), hlast⟩
  · obtain ⟨value, hvalue, rfl⟩ := Option.map_eq_some_iff.mp hline
    exact Or.inr ⟨before, line, after, value, heq, hvalue,
      fun l hl => Option.map_eq_none_iff.mp (hafter l hl), hlast⟩

theorem lookup_of_last {text name value line : Text} {before after : List Text}
    (heq : lines text = before ++ line :: after) (hline : assigned name line = some value)
    (hafter : ∀ l ∈ after, assigned name l = none) : lookup text name = some value := by
  rw [lookup, heq]
  exact Register.last_of_write (by rw [hline]; rfl) fun l hl => by rw [hafter l hl]; rfl

example : lookup "B=1\n# B=2\n B = \"3\" \nC=4".toList "B".toList = some "3".toList := by decide

end EnvFile
