import Specter.Lib.Text

/-!
# `envsubst`

The text goes through once, character by character. `$NAME` and `${NAME}`
become the value of the variable, which is not looked at again; what
only begins like one of them stays as it is.

A template is in pieces: plain text and placeholders. Its expansion is
the pieces, with the values for the placeholders (`expand_pieces`), and
has the lines of the template if no value has a newline
(`lines_expand`).
-/

namespace Envsubst

open Posix

def isNameStart (c : Char) : Bool := c.isAlpha || c = '_'

def isNameChar (c : Char) : Bool := c.isAlphanum || c = '_'

/-- A variable's name. -/
def isName : Text → Bool
  | [] => false
  | c :: cs => isNameStart c && cs.all isNameChar

/-- What of a placeholder has been read. -/
inductive Pending where
  | nothing
  | dollar
  | brace  -- `${`
  | bare (name : Text)  -- `$` and some of a name
  | braced (name : Text)  -- `${` and some of a name
deriving DecidableEq

/-- What has been read, when the text ends there. -/
def Pending.atEnd (env : Text → Text) : Pending → Text
  | .nothing => []
  | .dollar => ['$']
  | .brace => ['$', '{']
  | .bare name => env name
  | .braced name => '$' :: '{' :: name

/-- A character outside a placeholder. -/
def readOutside (rest : Pending → Text) (c : Char) : Text :=
  if c = '$' then rest .dollar else c :: rest .nothing

def expandFrom (env : Text → Text) : Pending → Text → Text
  | p, [] => p.atEnd env
  | .nothing, c :: t => readOutside (expandFrom env · t) c
  | .dollar, c :: t =>
      if c = '{' then expandFrom env .brace t
      else if isNameStart c then expandFrom env (.bare [c]) t
      else '$' :: readOutside (expandFrom env · t) c
  | .brace, c :: t =>
      if isNameStart c then expandFrom env (.braced [c]) t
      else '$' :: '{' :: readOutside (expandFrom env · t) c
  | .bare name, c :: t =>
      if isNameChar c then expandFrom env (.bare (name ++ [c])) t
      else env name ++ readOutside (expandFrom env · t) c
  | .braced name, c :: t =>
      if isNameChar c then expandFrom env (.braced (name ++ [c])) t
      else if c = '}' then env name ++ expandFrom env .nothing t
      else '$' :: '{' :: name ++ readOutside (expandFrom env · t) c

def expand (env : Text → Text) (t : Text) : Text := expandFrom env .nothing t

example : expand (fun name => if name = "A".toList then "$B".toList else [])
    "a=$\x7bA\x7d $A; $\x7bA $ $\x7b\x7d $C".toList
      = "a=$B $B; $\x7bA $ $\x7b\x7d ".toList := by decide

variable {env env' : Text → Text}

/-! ## Pieces -/

inductive Piece where
  | plain (t : Text)
  | var (name : Text)
deriving DecidableEq

def Piece.source : Piece → Text
  | .plain t => t
  | .var name => '$' :: '{' :: name ++ ['}']

def Piece.value (env : Text → Text) : Piece → Text
  | .plain t => t
  | .var name => env name

def Piece.Proper : Piece → Prop
  | .plain t => '$' ∉ t
  | .var name => isName name

instance : DecidablePred Piece.Proper
  | .plain t => inferInstanceAs (Decidable ('$' ∉ t))
  | .var name => inferInstanceAs (Decidable (isName name = true))

theorem expand_plain {t : Text} (h : '$' ∉ t) (rest : Text) :
    expand env (t ++ rest) = t ++ expand env rest := by
  induction t with
  | nil => rfl
  | cons c t ih =>
      obtain ⟨hc, ht⟩ := not_or.mp (mt List.mem_cons.mpr h)
      have hstep : expand env (c :: t ++ rest) = c :: expand env (t ++ rest) := if_neg (Ne.symm hc)
      rw [hstep, ih ht, List.cons_append]

theorem expandFrom_braced {name : Text} (h : name.all isNameChar) (read rest : Text) :
    expandFrom env (.braced read) (name ++ '}' :: rest)
      = env (read ++ name) ++ expand env rest := by
  induction name generalizing read with
  | nil => rw [List.append_nil]; rfl
  | cons c name ih =>
      obtain ⟨hc, hname⟩ := Bool.and_eq_true_iff.mp h
      rw [List.cons_append, expandFrom, if_pos hc, ih hname, List.append_assoc,
        List.singleton_append]

theorem expand_var {name : Text} (h : isName name) (rest : Text) :
    expand env ((Piece.var name).source ++ rest) = env name ++ expand env rest := by
  cases name with
  | nil => cases h
  | cons c name =>
      obtain ⟨hc, hname⟩ := Bool.and_eq_true_iff.mp h
      have hsource : (Piece.var (c :: name)).source ++ rest
          = '$' :: '{' :: c :: (name ++ '}' :: rest) := by simp [Piece.source]
      have hstart : expand env ('$' :: '{' :: c :: (name ++ '}' :: rest))
          = expandFrom env (.braced [c]) (name ++ '}' :: rest) := if_pos hc
      rw [hsource, hstart, expandFrom_braced hname, List.singleton_append]

theorem expand_pieces {ps : List Piece} (h : ∀ p ∈ ps, p.Proper) :
    expand env (ps.flatMap Piece.source) = ps.flatMap (Piece.value env) := by
  induction ps with
  | nil => rfl
  | cons p ps ih =>
      rw [List.flatMap_cons, List.flatMap_cons, ← ih fun q hq => h q (List.mem_cons_of_mem _ hq)]
      have hp := h p List.mem_cons_self
      cases p with
      | plain t => exact expand_plain hp _
      | var name => exact expand_var hp _

/-! ## Lines -/

def sourceOf (line : List Piece) : Text := line.flatMap Piece.source

def valueOf (env : Text → Text) (line : List Piece) : Text := line.flatMap (Piece.value env)

/-- A template of terminated lines, and a last one without its newline. -/
def template (ls : List (List Piece)) (last : List Piece) : Text :=
  (ls.map fun line => sourceOf line ++ ['\n']).flatten ++ sourceOf last

theorem expand_template {ls : List (List Piece)} {last : List Piece}
    (h : ∀ line ∈ last :: ls, ∀ p ∈ line, p.Proper) :
    expand env (template ls last)
      = (ls.map fun line => valueOf env line ++ ['\n']).flatten ++ valueOf env last := by
  have hpieces : ∀ (value : Piece → Text), value (.plain ['\n']) = ['\n'] →
      (ls.flatMap fun line => line ++ [.plain ['\n']]).flatMap value
        = (ls.map fun line => line.flatMap value ++ ['\n']).flatten := by
    intro value hvalue
    rw [List.flatMap_assoc, List.flatMap_def]
    simp only [List.flatMap_append, List.flatMap_singleton, hvalue]
  have hproper : ∀ p ∈ (ls.flatMap fun line => line ++ [.plain ['\n']]) ++ last, p.Proper := by
    intro p hp
    rcases List.mem_append.mp hp with hp | hp
    · obtain ⟨line, hline, hp⟩ := List.mem_flatMap.mp hp
      rcases List.mem_append.mp hp with hp | hp
      · exact h line (List.mem_cons_of_mem _ hline) p hp
      · obtain rfl := List.mem_singleton.mp hp
        decide
    · exact h last List.mem_cons_self p hp
  have hexpand : expand env _ = _ := expand_pieces hproper
  rw [List.flatMap_append, List.flatMap_append, hpieces _ rfl, hpieces _ rfl] at hexpand
  exact hexpand

theorem lines_flatten {ls : List Text} (h : ∀ l ∈ ls, '\n' ∉ l) (t : Text) :
    lines ((ls.map (· ++ ['\n'])).flatten ++ t) = ls ++ lines t := by
  induction ls with
  | nil => rfl
  | cons l ls ih =>
      rw [List.map_cons, List.flatten_cons, List.append_assoc, List.append_assoc,
        List.singleton_append, lines_append (h l List.mem_cons_self),
        ih fun m hm => h m (List.mem_cons_of_mem _ hm), List.cons_append]

/-- Values of one line leave the lines of a template as they are. -/
theorem lines_expand {ls : List (List Piece)} {last : List Piece}
    (h : ∀ line ∈ last :: ls, ∀ p ∈ line, p.Proper ∧ '\n' ∉ p.value env) :
    lines (expand env (template ls last))
      = ls.map (valueOf env) ++ if valueOf env last = [] then [] else [valueOf env last] := by
  have hline : ∀ line ∈ last :: ls, '\n' ∉ valueOf env line := by
    intro line hl hmem
    obtain ⟨p, hp, hmem⟩ := List.mem_flatMap.mp hmem
    exact (h line hl p hp).2 hmem
  have hlines : ∀ l ∈ ls.map (valueOf env), '\n' ∉ l := by
    simpa using fun line hl => hline line (List.mem_cons_of_mem _ hl)
  rw [expand_template fun line hl p hp => (h line hl p hp).1,
    ← lines_unterminated (hline last List.mem_cons_self), ← lines_flatten hlines, List.map_map]
  rfl

end Envsubst
