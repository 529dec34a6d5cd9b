import SigCheck.Header
import SigCheck.Ty.Bounded

/-!
# Laying out headers as text

Statements are written one after the other with an empty line between them.  The columns taken by
the head of a declaration count against the first line of its type.

As for types, there is a layout in unlimited numbers and one in 64-bit numbers, which may stop.
-/

namespace SigCheck

open Layout

/-- The head of a declaration, through the colon. -/
def Declaration.head (d : Declaration) (p : Place) : Text :=
  ['t', 'y', 'p', 'e', ' '] ++ d.name.toList ++
    (if d.params.isEmpty then [] else ['<'] ++ join comma (d.params.map (·.layout p)) ++ ['>']) ++
    [' ', ':', ' ']

/-- The text of a statement. -/
def Statement.layout (p : Place) : Statement → Text
  | .imports i =>
    ['i', 'm', 'p', 'o', 'r', 't', ' ', '{', ' '] ++ join comma (i.types.map (·.layout p)) ++
      [' ', '}', ' ', 'f', 'r', 'o', 'm', ' ', '"'] ++ i.dependency.toList ++ ['"']
  | .declares d => d.head p ++ d.type.layout { p with lineStart := (d.head p).length }
  | .assigns a => a.name.toList ++ [' ', ':', ' '] ++ a.type.layout p

/-- The text of a header. -/
def Header.layout (p : Place) (h : Header) : Text :=
  join ['\n', '\n'] (h.statements.map (·.layout p))

/-- The text of a statement. -/
def Statement.render (p : Place) (s : Statement) : String := String.ofList (s.layout p)

/-- The text of a header. -/
def Header.render (p : Place) (h : Header) : String := String.ofList (h.layout p)

/-! ### In 64-bit numbers -/

/-- The head of a declaration, through the colon. -/
def Declaration.head? (d : Declaration) (p : Place) : Option Text := do
  let params ← d.params.mapM (·.layout? p)
  return ['t', 'y', 'p', 'e', ' '] ++ d.name.toList ++
    (if d.params.isEmpty then [] else ['<'] ++ join comma params ++ ['>']) ++ [' ', ':', ' ']

/-- The text of a statement. -/
def Statement.layout? (p : Place) : Statement → Option Text
  | .imports i => do
    let types ← i.types.mapM (·.layout? p)
    return ['i', 'm', 'p', 'o', 'r', 't', ' ', '{', ' '] ++ join comma types ++
      [' ', '}', ' ', 'f', 'r', 'o', 'm', ' ', '"'] ++ i.dependency.toList ++ ['"']
  | .declares d => do
    let head ← d.head? p
    return head ++ (← d.type.layout? { p with lineStart := head.length })
  | .assigns a => do return a.name.toList ++ [' ', ':', ' '] ++ (← a.type.layout? p)

/-- The text of a header. -/
def Header.layout? (p : Place) (h : Header) : Option Text := do
  return join ['\n', '\n'] (← h.statements.mapM (·.layout? p))

/-- The text of a statement. -/
def Statement.render? (p : Place) (s : Statement) : Option String :=
  (s.layout? p).map String.ofList

/-- The text of a header. -/
def Header.render? (p : Place) (h : Header) : Option String := (h.layout? p).map String.ofList

theorem Declaration.head?_eq_some {d : Declaration} {p : Place} {text : Text}
    (h : d.head? p = some text) : d.head p = text := by
  simp only [head?, bind, pure, Option.bind_eq_some_iff, Option.some.injEq] at h
  obtain ⟨params, hparams, rfl⟩ := h
  rw [head, map_of_mapM (fun _ _ _ => Ty.layout?_eq_some) hparams]

theorem Statement.layout?_eq_some {s : Statement} {p : Place} {text : Text}
    (h : s.layout? p = some text) : s.layout p = text := by
  cases s with
  | imports i =>
    simp only [layout?, bind, pure, Option.bind_eq_some_iff, Option.some.injEq] at h
    obtain ⟨types, htypes, rfl⟩ := h
    rw [layout, map_of_mapM (fun _ _ _ => Ty.layout?_eq_some) htypes]
  | declares d =>
    simp only [layout?, bind, pure, Option.bind_eq_some_iff, Option.some.injEq] at h
    obtain ⟨head, hhead, type, htype, rfl⟩ := h
    rw [layout, Declaration.head?_eq_some hhead, Ty.layout?_eq_some htype]
  | assigns a =>
    simp only [layout?, bind, pure, Option.bind_eq_some_iff, Option.some.injEq] at h
    obtain ⟨type, htype, rfl⟩ := h
    rw [layout, Ty.layout?_eq_some htype]

/-- Where the layout of a header does not stop, it is that in unlimited numbers. -/
theorem Header.render?_eq_some {h : Header} {p : Place} {text : String}
    (hrender : h.render? p = some text) : h.render p = text := by
  obtain ⟨chars, hchars, rfl⟩ := Option.map_eq_some_iff.1 hrender
  simp only [layout?, bind, pure, Option.bind_eq_some_iff, Option.some.injEq] at hchars
  obtain ⟨statements, hstatements, rfl⟩ := hchars
  rw [render, layout, map_of_mapM (fun _ _ _ => Statement.layout?_eq_some) hstatements]

end SigCheck
