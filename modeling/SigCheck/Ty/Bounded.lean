import SigCheck.Ty.Layout

/-!
# Laying out types in 64-bit numbers

`Ty.layout` counts columns and levels without a limit.  The program counts them in 64-bit numbers,
and stops where one of them gets too large: the width of a line with one more member on it, a level
deeper, or the length of a margin.  None of them does for a place on a line that exists, but the
place can be any.

`Ty.layout?` is the layout that may stop.  It goes through the same steps, and where it does not
stop it writes what `Ty.layout` writes (`Ty.layout?_eq_some`).
-/

namespace SigCheck

variable {ι : Type}

/-- One level deeper. -/
def Place.deeper? (p : Place) : Option Place :=
  (word? (p.indent + 1)).map fun level => { p with indent := level }

theorem Place.deeper?_eq_some {p q : Place} (h : p.deeper? = some q) : p.deeper = q := by
  simp only [deeper?, Option.map_eq_some_iff, word?_eq_some_iff] at h
  obtain ⟨_, ⟨-, rfl⟩, rfl⟩ := h
  rfl

namespace Layout

open Text

/-- A text has fewer bytes than this. -/
def textLimit : Nat := Nat.pow 2 63

/-- The blanks in front of a line at nesting level `level`. -/
def spaces? (level : Nat) : Option Text :=
  if level * indentWidth < textLimit then some (spaces level) else none

/-- Puts members on lines, like `reflowFrom`. -/
def reflowFrom? (indent : Nat) (separator : Text) : Nat → Text → List Text → Option (List Text)
  | _, line, [] => some [line]
  | used, line, member :: members => do
    let width ← word? (line.length + member.length + separator.length + used)
    if width < columnBudget then
      reflowFrom? indent separator used (line ++ member ++ separator) members
    else
      let level ← word? (indent + 1)
      let margin ← spaces? level
      let lines ← reflowFrom? indent separator 0
        (margin ++ member.dropWhile isBlank ++ separator) members
      return line :: lines

/-- The lines of a re-flowed list, a separator after every member. -/
def reflow? (separator : Text) (p : Place) (members : List Text) : Option (List Text) :=
  reflowFrom? p.indent separator p.lineStart [] members

/-- The members of a union or intersection, on one line if they fit. -/
def members? (label separator : Text) (parts : List Text) (p : Place) : Option Text :=
  let flat := label ++ join separator parts
  if overflows flat then
    (reflow? separator p parts).map fun lines => label ++ join ['\n'] (trimLines separator lines)
  else some flat

/-- The arguments of a function type, on one line if they fit. -/
def arguments? (args : List (Place → Option Text)) (p : Place) : Option Text := do
  let flat := join comma (← args.mapM (· p))
  if overflows flat then
    let inner ← p.deeper?
    let newLine := '\n' :: (← spaces? inner.indent)
    let wrapped ← args.mapM (· inner)
    return newLine ++ join (',' :: newLine) wrapped ++ '\n' :: (← spaces? p.indent)
  else return flat

/-- A field of an object type. -/
def field? (f : Field (Place → Option Text)) (p : Place) : Option Text := do
  let margin ← spaces? p.indent
  let type ← f.type p
  return margin ++ f.key.toList ++ (if f.optional then ['?'] else []) ++ [':', ' '] ++ type

/-- An object type with every field on a line of its own. -/
def block? (label : Text) (fields : List (Field (Place → Option Text))) (p : Place) :
    Option Text := do
  let inner ← p.deeper?
  let lines ← fields.mapM (field? · inner)
  let margin ← spaces? p.indent
  return label ++ ['{', '\n'] ++ join [',', '\n'] lines ++ '\n' :: margin ++ ['}']

/-- An object type; a single short field stays on the line. -/
def object? (label : Text) (fields : List (Field (Place → Option Text))) (p : Place) :
    Option Text :=
  match fields with
  | [] => some (label ++ ['{', '}'])
  | [only] => do
    let content ← field? only .origin
    let line := label ++ ['{', ' '] ++ content ++ [' ', '}']
    if line.length < columnBudget && !line.contains '\n' then return line
    else block? label fields p
  | _ => block? label fields p

/-- The text of a shape behind `label`, from the texts of its smaller types. -/
def shape? (label : Text) (s : Shape ι (Place → Option Text)) (p : Place) : Option Text :=
  match s with
  | .literal name _ => some (label ++ name.toList)
  | .value text => some (label ++ text.toList)
  | .generic base params => do
    return label ++ (← base p) ++ ['<'] ++ join comma (← params.mapM (· p)) ++ ['>']
  | .function args receiver result => do
    return label ++ ['('] ++ (← arguments? (receiver.toList ++ args) p) ++
      [')', ' ', '=', '>', ' '] ++ (← result p)
  | .object _ fields => object? label fields p
  | .union parts => do members? label [' ', '|', ' '] (← parts.mapM (· p)) p
  | .intersection parts => do members? label [' ', '&', ' '] (← parts.mapM (· p)) p
  | .tuple items => do return label ++ ['['] ++ join comma (← items.mapM (· p)) ++ [']']

/-! ### What is written -/

/-- Where the layout `f` does not stop, it writes what `g` writes. -/
def Agrees (f : Place → Option Text) (g : Place → Text) : Prop := ∀ p t, f p = some t → g p = t

theorem spaces?_eq_some {level : Nat} {t : Text} (h : spaces? level = some t) :
    spaces level = t := by
  simp only [spaces?, Option.ite_none_right_eq_some, Option.some.injEq] at h
  exact h.2

theorem reflowFrom?_eq_some {indent used : Nat} {separator line : Text} {members lines : List Text}
    (h : reflowFrom? indent separator used line members = some lines) :
    reflowFrom indent separator used line members = lines := by
  induction members generalizing used line lines with
  | nil => exact Option.some.inj h
  | cons member members ih =>
    simp only [reflowFrom?, bind, pure, Option.bind_eq_some_iff, word?_eq_some_iff] at h
    obtain ⟨width, ⟨-, rfl⟩, h⟩ := h
    rw [reflowFrom]
    split at h
    · rename_i hfits
      rw [if_pos hfits]
      exact ih h
    · rename_i hfits
      simp only [Option.bind_eq_some_iff, word?_eq_some_iff, Option.some.injEq] at h
      obtain ⟨level, ⟨-, rfl⟩, margin, hmargin, rest, hrest, rfl⟩ := h
      rw [if_neg hfits, spaces?_eq_some hmargin, ih hrest]

theorem members?_agrees (label separator : Text) (parts : List Text) :
    Agrees (members? label separator parts) (members label separator parts) := by
  intro p t h
  simp only [members?] at h
  rw [members]
  split at h
  · rename_i hover
    obtain ⟨lines, hlines, rfl⟩ := Option.map_eq_some_iff.1 h
    rw [if_pos hover, reflow, reflowFrom?_eq_some hlines]
  · rename_i hover
    rw [if_neg hover]
    exact Option.some.inj h

section Parts

variable {τ : Type} {f : τ → Place → Option Text} {g : τ → Place → Text}

theorem map_of_mapM {α : Type} {f : α → Option Text} {g : α → Text} {as : List α}
    {texts : List Text} (hfg : ∀ a ∈ as, ∀ t, f a = some t → g a = t)
    (h : as.mapM f = some texts) : as.map g = texts := by
  induction as generalizing texts with
  | nil => exact Option.some.inj h
  | cons a as ih =>
    obtain ⟨ha, has⟩ := List.forall_mem_cons.1 hfg
    simp only [List.mapM_cons, bind, pure, Option.bind_eq_some_iff, Option.some.injEq] at h
    obtain ⟨t, ht, ts, hts, rfl⟩ := h
    rw [List.map_cons, ha t ht, ih has hts]

theorem parts_of_mapM {p : Place} {parts : List τ} {texts : List Text}
    (hfg : ∀ c ∈ parts, Agrees (f c) (g c)) (h : (parts.map f).mapM (· p) = some texts) :
    (parts.map g).map (· p) = texts := by
  rw [List.mapM_map] at h
  rw [List.map_map]
  exact map_of_mapM (fun c hc => hfg c hc p) h

theorem arguments?_agrees {args : List τ} (hfg : ∀ c ∈ args, Agrees (f c) (g c)) :
    Agrees (arguments? (args.map f)) (arguments (args.map g)) := by
  intro p t h
  simp only [arguments?, bind, pure, Option.bind_eq_some_iff] at h
  obtain ⟨flat, hflat, h⟩ := h
  rw [arguments, parts_of_mapM hfg hflat]
  dsimp only
  split at h
  · rename_i hover
    simp only [Option.bind_eq_some_iff, Option.some.injEq] at h
    obtain ⟨inner, hinner, margin, hmargin, wrapped, hwrapped, last, hlast, rfl⟩ := h
    obtain rfl := Place.deeper?_eq_some hinner
    obtain rfl := spaces?_eq_some hmargin
    rw [if_pos hover, parts_of_mapM hfg hwrapped, spaces?_eq_some hlast]
    rfl
  · rename_i hover
    rw [if_neg hover]
    exact Option.some.inj h

theorem field?_agrees {x : Field τ} (hfg : Agrees (f x.type) (g x.type)) :
    Agrees (field? (x.map f)) (field (x.map g)) := by
  intro p t h
  simp only [field?, bind, pure, Option.bind_eq_some_iff, Option.some.injEq] at h
  obtain ⟨margin, hmargin, type, htype, rfl⟩ := h
  rw [field, spaces?_eq_some hmargin, Field.type_map, hfg p type htype]
  rfl

theorem block?_agrees {label : Text} {fields : List (Field τ)}
    (hfg : ∀ x ∈ fields, Agrees (f x.type) (g x.type)) :
    Agrees (block? label (fields.map (·.map f))) (block label (fields.map (·.map g))) := by
  intro p t h
  simp only [block?, bind, pure, Option.bind_eq_some_iff, Option.some.injEq] at h
  obtain ⟨inner, hinner, lines, hlines, margin, hmargin, rfl⟩ := h
  obtain rfl := Place.deeper?_eq_some hinner
  rw [List.mapM_map] at hlines
  have hfields := map_of_mapM (fun x hx => field?_agrees (hfg x hx) p.deeper) hlines
  rw [block, List.map_map, spaces?_eq_some hmargin, ← hfields]
  rfl

theorem object?_agrees {label : Text} {fields : List (Field τ)}
    (hfg : ∀ x ∈ fields, Agrees (f x.type) (g x.type)) :
    Agrees (object? label (fields.map (·.map f))) (object label (fields.map (·.map g))) := by
  intro p t h
  cases fields with
  | nil => exact Option.some.inj h
  | cons only rest =>
    cases rest with
    | nil =>
      simp only [List.map_cons, List.map_nil, object?, bind, pure, Option.bind_eq_some_iff] at h
      obtain ⟨content, hcontent, h⟩ := h
      have honly := field?_agrees (hfg only (List.mem_singleton.2 rfl)) .origin content hcontent
      simp only [List.map_cons, List.map_nil, object, honly]
      split at h
      · rename_i hshort
        rw [if_pos hshort]
        exact Option.some.inj h
      · rename_i hshort
        rw [if_neg hshort]
        exact block?_agrees hfg p t h
    | cons second rest => exact block?_agrees hfg p t h

theorem shape?_agrees {label : Text} {s : Shape ι τ}
    (hfg : ∀ c ∈ s.children, Agrees (f c) (g c)) :
    Agrees (shape? label (s.map f)) (shape label (s.map g)) := by
  intro p t h
  cases s with
  | literal name builtin => exact Option.some.inj h
  | value text => exact Option.some.inj h
  | generic base params =>
    obtain ⟨hbase, hparams⟩ := List.forall_mem_cons.1 hfg
    simp only [Shape.map, shape?, bind, pure, Option.bind_eq_some_iff, Option.some.injEq] at h
    obtain ⟨first, hfirst, rest, hrest, rfl⟩ := h
    rw [Shape.map, shape, hbase p first hfirst, parts_of_mapM hparams hrest]
  | function args receiver result =>
    obtain ⟨hargs, hresult⟩ := List.forall_mem_append.1 hfg
    simp only [Shape.map, shape?, bind, pure, Option.bind_eq_some_iff, Option.some.injEq] at h
    obtain ⟨front, hfront, back, hback, rfl⟩ := h
    rw [Option.toList_map, ← List.map_append] at hfront
    have hback := hresult result (List.mem_singleton.2 rfl) p back hback
    rw [Shape.map, shape, Option.toList_map, ← List.map_append,
      arguments?_agrees hargs p front hfront, hback]
  | object id fields =>
    exact object?_agrees (fun x hx => hfg x.type (List.mem_map_of_mem hx)) p t h
  | union parts =>
    obtain ⟨texts, htexts, h⟩ := Option.bind_eq_some_iff.1 h
    have hparts : ∀ c ∈ parts, Agrees (f c) (g c) := hfg
    rw [Shape.map, shape, parts_of_mapM hparts htexts]
    exact members?_agrees _ _ texts p t h
  | intersection parts =>
    obtain ⟨texts, htexts, h⟩ := Option.bind_eq_some_iff.1 h
    have hparts : ∀ c ∈ parts, Agrees (f c) (g c) := hfg
    rw [Shape.map, shape, parts_of_mapM hparts htexts]
    exact members?_agrees _ _ texts p t h
  | tuple items =>
    simp only [Shape.map, shape?, bind, pure, Option.bind_eq_some_iff, Option.some.injEq] at h
    obtain ⟨texts, htexts, rfl⟩ := h
    have hitems : ∀ c ∈ items, Agrees (f c) (g c) := hfg
    rw [Shape.map, shape, parts_of_mapM hitems htexts]

end Parts

end Layout

namespace Ty

/-- The text of a type in header syntax, put at a place. -/
def layout? : Ty ι → Place → Option Text :=
  fold fun t shape raw p =>
    match raw with
    | some written => written p
    | none => Layout.shape? (Layout.label t) shape p

theorem layout?_eq (t : Ty ι) (p : Place) :
    t.layout? p = match t.raw with
      | some written => written.layout? p
      | none => Layout.shape? (Layout.label t) (t.shape.map layout?) p := by
  rw [layout?, fold_eq]
  cases t.raw <;> rfl

/-- Where a layout does not stop, it is that in unlimited numbers. -/
theorem layout?_eq_some {t : Ty ι} {p : Place} {text : Text} (h : t.layout? p = some text) :
    t.layout p = text := by
  induction t using Ty.induction generalizing p text with
  | step t hparts hraw =>
    rw [layout?_eq] at h
    rw [layout_eq]
    cases ht : t.raw with
    | some written =>
      rw [ht] at h
      exact hraw written ht h
    | none =>
      rw [ht] at h
      exact Layout.shape?_agrees (fun c hc p text h => hparts c hc h) p text h

/-- The text of a type put at a place. -/
def render? (t : Ty ι) (p : Place) : Option String := (t.layout? p).map String.ofList

theorem render?_eq_some {t : Ty ι} {p : Place} {text : String} (h : t.render? p = some text) :
    t.render p = text := by
  obtain ⟨chars, hchars, rfl⟩ := Option.map_eq_some_iff.1 h
  rw [render, layout?_eq_some hchars]

end Ty

end SigCheck
