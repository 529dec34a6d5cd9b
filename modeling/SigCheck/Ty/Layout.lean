import SigCheck.Text.Blank
import SigCheck.Text.Measure
import SigCheck.Ty

/-!
# Laying out types as text

`Ty.layout` writes a type in header syntax.  Everything goes on one line unless that line would pass
the column budget; then arguments go on lines of their own, and unions and intersections are
re-flowed (`Layout.reflow`): a member joins the current line as long as the line, with the separator
after it, stays below the budget.  An object with several fields always takes several lines.

A type that was expanded from a reference is written as that reference.
-/

namespace SigCheck

variable {ι : Type}

/-- Where a text is put: the nesting level of its lines, and the columns already taken on its first
line by what stands before it. -/
structure Place where
  indent : Nat
  lineStart : Nat
deriving DecidableEq, Repr

namespace Place

/-- The left edge of an empty line. -/
def origin : Place := ⟨0, 0⟩

/-- One level deeper. -/
def deeper (p : Place) : Place := { p with indent := p.indent + 1 }

end Place

namespace Layout

open Text

/-- Lines are broken so as to stay within this many columns. -/
def columnBudget : Nat := 65

/-- The columns of one nesting level. -/
def indentWidth : Nat := 4

/-- The blanks in front of a line at nesting level `level`. -/
def spaces (level : Nat) : Text := List.replicate (level * indentWidth) ' '

/-- The parts with `separator` between them. -/
def join (separator : Text) (parts : List Text) : Text := separator.intercalate parts

/-- A comma and a blank. -/
def comma : Text := [',', ' ']

/-- The text goes past the column budget before its first line feed. -/
def overflows (t : Text) : Bool := columnBudget < (firstLine t).length

/-! ### Re-flowing lists -/

/-- Puts the members behind `line`, each followed by the separator, on as few lines as the budget
allows; `used` columns of the first line are taken. -/
def reflowFrom (indent : Nat) (separator : Text) : Nat → Text → List Text → List Text
  | _, line, [] => [line]
  | used, line, member :: members =>
    if line.length + member.length + separator.length + used < columnBudget then
      reflowFrom indent separator used (line ++ member ++ separator) members
    else
      line :: reflowFrom indent separator 0
        (spaces (indent + 1) ++ member.dropWhile isBlank ++ separator) members

/-- The lines of a re-flowed list, a separator after every member. -/
def reflow (separator : Text) (p : Place) (members : List Text) : List Text :=
  reflowFrom p.indent separator p.lineStart [] members

/-- The text without the blanks at its end. -/
def trimEnd (t : Text) : Text := (t.reverse.dropWhile isBlank).reverse

/-- The text without `ending`, if it ends in it. -/
def dropEnding (ending t : Text) : Text :=
  if ending.isSuffixOf t then t.take (t.length - ending.length) else t

/-- Takes the separator off the last line, and the blanks off the ends of the others. -/
def trimLines (separator : Text) : List Text → List Text
  | [] => []
  | [last] => [dropEnding separator last]
  | line :: rest => trimEnd line :: trimLines separator rest

/-- The members of a union or intersection, on one line if they fit. -/
def members (label separator : Text) (parts : List Text) (p : Place) : Text :=
  let flat := label ++ join separator parts
  if overflows flat then label ++ join ['\n'] (trimLines separator (reflow separator p parts))
  else flat

/-! ### Arguments and fields -/

/-- The arguments of a function type, on one line if they fit. -/
def arguments (args : List (Place → Text)) (p : Place) : Text :=
  let flat := join comma (args.map (· p))
  if overflows flat then
    let newLine := '\n' :: spaces (p.indent + 1)
    newLine ++ join (',' :: newLine) (args.map (· p.deeper)) ++ '\n' :: spaces p.indent
  else flat

/-- A field of an object type. -/
def field (f : Field (Place → Text)) (p : Place) : Text :=
  spaces p.indent ++ f.key.toList ++ (if f.optional then ['?'] else []) ++ [':', ' '] ++ f.type p

/-- An object type with every field on a line of its own. -/
def block (label : Text) (fields : List (Field (Place → Text))) (p : Place) : Text :=
  label ++ ['{', '\n'] ++ join [',', '\n'] (fields.map (field · p.deeper)) ++
    '\n' :: spaces p.indent ++ ['}']

/-- An object type; a single short field stays on the line. -/
def object (label : Text) (fields : List (Field (Place → Text))) (p : Place) : Text :=
  match fields with
  | [] => label ++ ['{', '}']
  | [only] =>
    let line := label ++ ['{', ' '] ++ field only .origin ++ [' ', '}']
    if line.length < columnBudget && !line.contains '\n' then line else block label fields p
  | _ => block label fields p

/-- The name of the parameter a type belongs to. -/
def label (t : Ty ι) : Text :=
  match t.label with
  | some name => name.toList ++ (if t.optional then ['?'] else []) ++ [':', ' ']
  | none => []

/-- The text of a shape behind `label`, from the texts of its smaller types. -/
def shape (label : Text) (s : Shape ι (Place → Text)) (p : Place) : Text :=
  match s with
  | .literal name _ => label ++ name.toList
  | .value text => label ++ text.toList
  | .generic base params => label ++ base p ++ ['<'] ++ join comma (params.map (· p)) ++ ['>']
  | .function args receiver result =>
    label ++ ['('] ++ arguments (receiver.toList ++ args) p ++ [')', ' ', '=', '>', ' '] ++ result p
  | .object _ fields => object label fields p
  | .union parts => members label [' ', '|', ' '] (parts.map (· p)) p
  | .intersection parts => members label [' ', '&', ' '] (parts.map (· p)) p
  | .tuple items => label ++ ['['] ++ join comma (items.map (· p)) ++ [']']

theorem shape_mapId {κ : Type} (g : ι → κ) (label : Text) (s : Shape ι (Place → Text)) :
    shape label (s.mapId g) = shape label s := by
  funext p
  cases s <;> rfl

end Layout

namespace Ty

/-- The text of a type in header syntax, put at a place. -/
def layout : Ty ι → Place → Text :=
  fold fun t shape raw p =>
    match raw with
    | some written => written p
    | none => Layout.shape (Layout.label t) shape p

theorem layout_eq (t : Ty ι) (p : Place) :
    t.layout p = match t.raw with
      | some written => written.layout p
      | none => Layout.shape (Layout.label t) (t.shape.map layout) p := by
  rw [layout, fold_eq]
  cases t.raw <;> rfl

/-- The text of a type put at a place. -/
def render (t : Ty ι) (p : Place) : String := String.ofList (t.layout p)

/-- The text of a type in messages. -/
def text (t : Ty ι) : String := t.render .origin

end Ty

end SigCheck
