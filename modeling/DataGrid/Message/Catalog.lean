import DataGrid.Dictionary
import DataGrid.Numeric.Digits

/-!
# Messages

Labels and prompts are named by keys. A resolver turns keys into texts; a catalog is a
resolver made of templates with numbered places.

## Main definitions

* `Resolver`, `Resolver.echo`: what turns keys into texts, and the one that answers the key
* `substitute`: a template with its places filled
* `Catalog`, `Catalog.resolver`: templates by key, and the resolver made of them
-/

namespace DataGrid

/-- **Resolver.** The text for a key, with arguments for the places of its template. -/
structure Resolver where
  message : String → List String → String

/-- The resolver that answers the key itself. -/
def Resolver.echo : Resolver := ⟨fun key _ => key⟩

namespace Message

/-- The argument for the place whose opening brace stands before a text, and what follows its
closing brace. A place is written with the number of an argument. -/
def place? (args : List String) (s : List Char) : Option (String × List Char) :=
  match s.dropWhile (· ≠ '\x7d') with
  | [] => none
  | _ :: rest => do
    let index ← Numeric.natOfText? (s.takeWhile (· ≠ '\x7d'))
    let arg ← args[index]?
    return (arg, rest)

theorem place?_length_lt {args : List String} {s rest : List Char} {arg : String}
    (h : place? args s = some (arg, rest)) : rest.length < s.length := by
  have hle : (s.dropWhile (· ≠ '\x7d')).length ≤ s.length := (List.dropWhile_sublist _).length_le
  unfold place? at h
  split at h
  · simp at h
  · rename_i hd
    simp only [hd, List.length_cons] at hle
    simp only [Option.bind_eq_bind, Option.pure_def, Option.bind_eq_some_iff,
      Option.some.injEq, Prod.mk.injEq] at h
    obtain ⟨_, _, _, _, _, rfl⟩ := h
    omega

/-- **Substitution.** A template with its places filled. Braces that make up no place stand
for themselves, and what is filled in is not searched. -/
def substituteChars (args : List String) : List Char → List Char
  | [] => []
  | c :: s =>
    if c = '\x7b' then
      match _h : place? args s with
      | some (arg, rest) => arg.toList ++ substituteChars args rest
      | none => c :: substituteChars args s
    else c :: substituteChars args s
termination_by s => s.length
decreasing_by
  · have := place?_length_lt _h
    simp only [List.length_cons]
    omega
  · simp
  · simp

end Message

/-- A template with its places filled. -/
def substitute (template : String) (args : List String) : String :=
  String.ofList (Message.substituteChars args template.toList)

/-- **Catalog.** The templates of one locale by key. -/
structure Catalog where
  locale : String
  templates : Dictionary String := []
  deriving Repr

namespace Catalog

/-- A catalog with one more template, in place of a template for that key. -/
def add (catalog : Catalog) (key template : String) : Catalog :=
  { catalog with templates := Dictionary.insert key template catalog.templates }

/-- A catalog with templates added one after the other. -/
def extend (catalog : Catalog) (entries : List (String × String)) : Catalog :=
  entries.foldl (fun catalog (key, template) => catalog.add key template) catalog

/-- The template for a key. -/
def get? (catalog : Catalog) (key : String) : Option String := catalog.templates.lookup key

/-- The number of templates. -/
def size (catalog : Catalog) : Nat := catalog.templates.length

/-- The text for a key: its template with the places filled, or the key itself. -/
def message (catalog : Catalog) (key : String) (args : List String) : String :=
  match catalog.get? key with
  | some template => substitute template args
  | none => key

/-- The resolver of a catalog. -/
def resolver (catalog : Catalog) : Resolver := ⟨catalog.message⟩

end Catalog

end DataGrid
