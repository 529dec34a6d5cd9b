import Mathlib.Data.List.Forall2
import SigCheck.Node.Read

/-!
# The order of entries and foreign entries do not count

What an object declares depends on what it is read as, its *format*: a node declares its `type`, its
`loc` and the fields of the kind that its `type` selects (`Format.declared`).  Values are
`Rearranged` if one comes from the other by permuting the entries of objects and adding entries that
are not declared, at any depth.  Both give the same node, or neither gives one
(`rearranged_nodes_agree`).

The argument does not follow the order in which fields are read.  What is looked up is one entry by
its key (`Json.unique?`), and lookups of declared keys are the same up to rearrangement of what they
find (`Alike`).  A reader that goes by such lookups alone does not tell the values apart
(`agrees_object`); that the reader of nodes does is read off the table `declarations`, once for all
kinds (`kind_congr`).
-/

namespace SigCheck

namespace Json

variable {α β : Type} {key other : String} {entries entries' : List (String × α)}

/-! ### Looking up an entry -/

/-- The values of the entries with the key `key`. -/
def values (key : String) (entries : List (String × α)) : List α :=
  (entries.filter (·.1 == key)).map Prod.snd

/-- The item of a list, if there is one; nothing at all if there are several. -/
def only? : List α → Option (Option α)
  | [] => some none
  | [a] => some (some a)
  | _ => none

theorem only?_perm {xs ys : List α} (h : xs.Perm ys) : only? xs = only? ys := by
  -- One item stands in one order only, and several are too many in any order.
  cases xs with
  | nil => rw [← h.nil_eq]
  | cons x xs =>
    cases xs with
    | nil => rw [← h.singleton_eq]
    | cons x' xs =>
      have hlength := h.length_eq
      rcases ys with _ | ⟨y, _ | ⟨y', ys⟩⟩
      · simp at hlength
      · simp at hlength
      · rfl

theorem only?_map (f : α → β) (xs : List α) :
    only? (xs.map f) = (only? xs).map (Option.map f) := by
  cases xs with
  | nil => rfl
  | cons x xs => cases xs <;> rfl

theorem rel_only? {R : α → α → Prop} {xs ys : List α} (h : List.Forall₂ R xs ys) :
    Option.Rel (Option.Rel R) (only? xs) (only? ys) := by
  cases h with
  | nil => exact .some .none
  | cons hhead htail =>
    cases htail with
    | nil => exact .some (.some hhead)
    | cons => exact .none

theorem unique?_eq : unique? key entries = only? (values key entries) := by
  rw [unique?, values]
  cases entries.filter (·.1 == key) with
  | nil => rfl
  | cons _ rest => cases rest <;> rfl

theorem unique?_perm (h : entries.Perm entries') : unique? key entries = unique? key entries' := by
  rw [unique?_eq, unique?_eq]
  exact only?_perm ((h.filter _).map _)

theorem unique?_cons_of_ne (h : other ≠ key) (a : α) :
    unique? key ((other, a) :: entries) = unique? key entries := by
  rw [unique?, unique?, List.filter_cons_of_neg (by simpa using h)]

theorem unique?_map (f : α → β) :
    unique? key (entries.map fun entry => (entry.1, f entry.2)) =
      (unique? key entries).map (Option.map f) := by
  rw [unique?_eq, unique?_eq, ← only?_map]
  simp [values, List.filter_map, Function.comp_def]

/-- With another value in an entry, that value is found in place of the old one. -/
theorem rel_unique?_replace {R : α → α → Prop} (hR : ∀ a, R a a) {a b : α}
    (hab : other = key → R a b) (front back : List (String × α)) :
    Option.Rel (Option.Rel R) (unique? key (front ++ (other, a) :: back))
      (unique? key (front ++ (other, b) :: back)) := by
  have hsame (xs : List α) : List.Forall₂ R xs xs := List.forall₂_same.2 fun a _ => hR a
  rw [unique?_eq, unique?_eq]
  refine rel_only? ?_
  by_cases hkey : other = key
  · simpa only [values, hkey, List.filter_append, List.filter_cons, beq_self_eq_true, if_true,
      List.map_append, List.map_cons] using List.rel_append (hsame _) (.cons (hab hkey) (hsame _))
  · simpa [values, hkey] using fun a _ => hR a

/-- A value without parts, as it is. -/
def scalar? : Json → Option Json
  | .array _ | .object _ => none
  | v => some v

theorem eq_of_scalar?_eq {f : Json → Option α} (harray : ∀ items, f (.array items) = none)
    (hobject : ∀ entries, f (.object entries) = none) {v w : Json} (h : v.scalar? = w.scalar?) :
    f v = f w := by
  cases v <;> cases w <;> simp_all [scalar?]

end Json

namespace Node

/-! ### Formats -/

/-- What a value is read as. -/
inductive Format where
  | node
  | nodes
  /-- The identifier that names a function. -/
  | name
  | location
  | position
  /-- A value whose parts are not looked at. -/
  | scalar
deriving DecidableEq

/-- The fields of each kind of node. -/
def declarations : List (String × List (String × Format)) :=
  [("Program", [("body", .nodes)]),
   ("FunctionDeclaration", [("id", .name), ("params", .nodes), ("body", .node)]),
   ("FunctionExpression", [("id", .name), ("params", .nodes), ("body", .node)]),
   ("BlockStatement", [("body", .nodes)]),
   ("ExpressionStatement", [("expression", .node)]),
   ("ReturnStatement", [("argument", .node)]),
   ("IfStatement", [("test", .node), ("consequent", .node), ("alternate", .node)]),
   ("ForStatement", [("init", .node), ("test", .node), ("update", .node), ("body", .node)]),
   ("ForInStatement", [("left", .node), ("right", .node), ("body", .node)]),
   ("ForOfStatement", [("left", .node), ("right", .node), ("body", .node)]),
   ("WhileStatement", [("test", .node), ("body", .node)]),
   ("DoWhileStatement", [("body", .node), ("test", .node)]),
   ("SwitchStatement", [("discriminant", .node), ("cases", .nodes)]),
   ("SwitchCase", [("test", .node), ("consequent", .nodes)]),
   ("TryStatement", [("block", .node), ("handler", .node), ("finalizer", .node)]),
   ("CatchClause", [("param", .node), ("body", .node)]),
   ("LabeledStatement", [("body", .node)]),
   ("VariableDeclaration", [("declarations", .nodes), ("kind", .scalar)]),
   ("VariableDeclarator", [("id", .node), ("init", .node)]),
   ("AssignmentExpression", [("operator", .scalar), ("left", .node), ("right", .node)]),
   ("MemberExpression", [("object", .node), ("property", .node), ("computed", .scalar)]),
   ("CallExpression", [("callee", .node), ("arguments", .nodes)]),
   ("NewExpression", [("callee", .node), ("arguments", .nodes)]),
   ("Identifier", [("name", .scalar)]),
   ("Literal", [("raw", .scalar)])]

/-- The fields of the kind `title`; a kind that is not listed has none. -/
def fields (title : String) : List (String × Format) := (declarations.lookup title).getD []

/-- The kind that the entries of a node select. -/
def selected? (entries : List (String × Json)) : Option String := do
  let type ← Json.unique? "type" entries
  title? (← type)

namespace Format

/-- The entries that an object declares. -/
def declared (entries : List (String × Json)) : Format → List (String × Format)
  | node => ("type", scalar) :: ("loc", location) :: ((selected? entries).map fields).getD []
  | name => [("name", scalar)]
  | location => [("start", position), ("end", position)]
  | position => [("line", scalar), ("column", scalar)]
  | nodes | scalar => []

/-- The format of the entry `key` of an object, if the object declares it. -/
def ofEntry? (entries : List (String × Json)) (key : String) (format : Format) : Option Format :=
  (format.declared entries).lookup key

/-- The format of the items of an array. -/
def ofItem : Format → Format
  | nodes => node
  | location => position
  | node | name | position | scalar => scalar

/-- What a format makes of a value. -/
abbrev Result : Format → Type
  | node => Node
  | nodes => List Node
  | name => String
  | location => Location
  | position => Position
  | scalar => Json

/-- Reads a value in a format. -/
def read : (format : Format) → Json → Option format.Result
  | node => ofJson?
  | nodes => listOfJson?
  | name => identifier?
  | location => location?
  | position => position?
  | scalar => Json.scalar?

end Format

/-- The second value comes from the first one, which is read in the given format, by permuting
entries of objects and adding entries that are not declared, at any depth. -/
inductive Rearranged : Format → Json → Json → Prop where
  | refl (format : Format) (v : Json) : Rearranged format v v
  | trans {format : Format} {u v w : Json} :
    Rearranged format u v → Rearranged format v w → Rearranged format u w
  | permute (format : Format) {entries entries' : List (String × Json)} :
    entries.Perm entries' → Rearranged format (.object entries) (.object entries')
  | foreign {format : Format} {entries : List (String × Json)} {key : String} (v : Json) :
    format.ofEntry? entries key = none →
    Rearranged format (.object entries) (.object ((key, v) :: entries))
  | entry {format : Format} {key : String} {v w : Json} (front back : List (String × Json)) :
    Rearranged ((format.ofEntry? (front ++ (key, v) :: back) key).getD .scalar) v w →
    Rearranged format (.object (front ++ (key, v) :: back)) (.object (front ++ (key, w) :: back))
  | item {format : Format} {v w : Json} (front back : List Json) :
    Rearranged format.ofItem v w →
    Rearranged format (.array (front ++ v :: back)) (.array (front ++ w :: back))

/-! ### What a format tells of a value -/

/-- In the given format, the values are not told apart. -/
structure Agrees (format : Format) (v w : Json) : Prop where
  scalar : v.scalar? = w.scalar?
  read : format.read v = format.read w

namespace Agrees

variable {format : Format} {u v w : Json}

theorem refl (format : Format) (v : Json) : Agrees format v v := ⟨rfl, rfl⟩

theorem trans (h : Agrees format u v) (h' : Agrees format v w) : Agrees format u w :=
  ⟨h.scalar.trans h'.scalar, h.read.trans h'.read⟩

theorem null_iff (h : Agrees format v w) : v = .null ↔ w = .null := by
  have hscalar := h.scalar
  constructor <;> rintro rfl
  · cases w <;> simp_all [Json.scalar?]
  · cases v <;> simp_all [Json.scalar?]

theorem natural?_eq (h : Agrees format v w) : v.natural? = w.natural? :=
  Json.eq_of_scalar?_eq (f := Json.natural?) (fun _ => rfl) (fun _ => rfl) h.scalar

theorem string?_eq (h : Agrees format v w) : v.string? = w.string? :=
  Json.eq_of_scalar?_eq (f := Json.string?) (fun _ => rfl) (fun _ => rfl) h.scalar

theorem bool?_eq (h : Agrees format v w) : v.bool? = w.bool? :=
  Json.eq_of_scalar?_eq (f := Json.bool?) (fun _ => rfl) (fun _ => rfl) h.scalar

theorem title?_eq (h : Agrees format v w) : title? v = title? w :=
  Json.eq_of_scalar?_eq (f := title?) (fun _ => rfl) (fun _ => rfl) h.scalar

end Agrees

/-- The lookups of an entry find values that are not told apart. -/
def AlikeAt (format : Format) (key : String) (entries entries' : List (String × Json)) : Prop :=
  Option.Rel (Option.Rel (Agrees format)) (Json.unique? key entries) (Json.unique? key entries')

theorem AlikeAt.of_eq {format : Format} {key : String} {entries entries' : List (String × Json)}
    (h : Json.unique? key entries = Json.unique? key entries') :
    AlikeAt format key entries entries' := by
  rw [AlikeAt, h]
  rcases Json.unique? key entries' with _ | _ | v
  · exact .none
  · exact .some .none
  · exact .some (.some (.refl format v))

/-- The lookups of declared entries find values that are not told apart. -/
def Alike (declared : List (String × Format)) (entries entries' : List (String × Json)) : Prop :=
  ∀ key format, declared.lookup key = some format → AlikeAt format key entries entries'

/-- A value with what it gives. -/
def Reading.of (v : Json) : Reading := ⟨v, ofJson? v, listOfJson? v⟩

theorem readEntries_eq_map (entries : List (String × Json)) :
    readEntries entries = entries.map fun entry => (entry.1, Reading.of entry.2) := by
  induction entries with
  | nil => rfl
  | cons entry entries ih => rw [readEntries, ih]; rfl

theorem unique?_readEntries (key : String) (entries : List (String × Json)) :
    Json.unique? key (readEntries entries) =
      (Json.unique? key entries).map (Option.map Reading.of) := by
  rw [readEntries_eq_map, Json.unique?_map]

section Fields

variable {α : Type} {format : Format} {key title : String} {entries entries' : List (String × Json)}

theorem required_congr {read : Reading → Option α} (h : AlikeAt format key entries entries')
    (hread : ∀ v w, Agrees format v w → read (.of v) = read (.of w)) :
    (readEntries entries).required key read = (readEntries entries').required key read := by
  rw [Entries.required, Entries.required, unique?_readEntries, unique?_readEntries]
  rw [AlikeAt] at h
  generalize Json.unique? key entries = found, Json.unique? key entries' = found' at h
  rcases h with ⟨⟨hvw⟩ | _⟩ | _
  · exact hread _ _ hvw
  · rfl
  · rfl

theorem optional_congr {read : Reading → Option α} (h : AlikeAt format key entries entries')
    (hread : ∀ v w, Agrees format v w → read (.of v) = read (.of w)) :
    (readEntries entries).optional key read = (readEntries entries').optional key read := by
  rw [Entries.optional, Entries.optional, unique?_readEntries, unique?_readEntries]
  rw [AlikeAt] at h
  generalize Json.unique? key entries = found, Json.unique? key entries' = found' at h
  rcases h with ⟨⟨hvw⟩ | _⟩ | _
  · have hnull := hvw.null_iff
    simp only [Option.map_some, Option.bind_eq_bind, Option.bind_some]
    split <;> split
    · rfl
    · simp_all [Reading.of]
    · simp_all [Reading.of]
    · rw [hread _ _ hvw]
  · rfl
  · rfl

theorem flag_congr (h : AlikeAt format key entries entries') :
    (readEntries entries).flag key = (readEntries entries').flag key := by
  rw [Entries.flag, Entries.flag, unique?_readEntries, unique?_readEntries]
  rw [AlikeAt] at h
  generalize Json.unique? key entries = found, Json.unique? key entries' = found' at h
  rcases h with ⟨⟨hvw⟩ | _⟩ | _
  · exact hvw.bool?_eq
  · rfl
  · rfl

namespace Alike

variable {declared : List (String × Format)} (h : Alike declared entries entries')
include h

theorem node_eq (hkey : declared.lookup key = some .node) :
    (readEntries entries).node key = (readEntries entries').node key :=
  required_congr (h key .node hkey) fun _ _ hvw => hvw.read

theorem node?_eq (hkey : declared.lookup key = some .node) :
    (readEntries entries).node? key = (readEntries entries').node? key :=
  optional_congr (h key .node hkey) fun _ _ hvw => hvw.read

theorem nodes_eq (hkey : declared.lookup key = some .nodes) :
    (readEntries entries).nodes key = (readEntries entries').nodes key :=
  required_congr (h key .nodes hkey) fun _ _ hvw => hvw.read

theorem name_eq (hkey : declared.lookup key = some .name) :
    (readEntries entries).required key (identifier? ·.value) =
      (readEntries entries').required key (identifier? ·.value) :=
  required_congr (h key .name hkey) fun _ _ hvw => hvw.read

theorem name?_eq (hkey : declared.lookup key = some .name) :
    (readEntries entries).optional key (identifier? ·.value) =
      (readEntries entries').optional key (identifier? ·.value) :=
  optional_congr (h key .name hkey) fun _ _ hvw => hvw.read

theorem string_eq (hkey : declared.lookup key = some .scalar) :
    (readEntries entries).string key = (readEntries entries').string key :=
  required_congr (h key .scalar hkey) fun _ _ hvw => hvw.string?_eq

theorem string?_eq (hkey : declared.lookup key = some .scalar) :
    (readEntries entries).optional key (·.value.string?) =
      (readEntries entries').optional key (·.value.string?) :=
  optional_congr (h key .scalar hkey) fun _ _ hvw => hvw.string?_eq

theorem flag_eq (hkey : declared.lookup key = some .scalar) :
    (readEntries entries).flag key = (readEntries entries').flag key :=
  flag_congr (h key .scalar hkey)

end Alike

/-- A kind of node looks at no other entries than the table says. -/
theorem kind_congr (h : Alike (fields title) entries entries') :
    (readEntries entries).kind title = (readEntries entries').kind title := by
  unfold Entries.kind
  split
  -- The row of a kind is taken from the table once, and its fields are looked up in the row.
  all_goals
    conv at h => arg 1; whnf
    simp (disch := decide) only [h.node_eq, h.node?_eq, h.nodes_eq, h.name_eq, h.name?_eq,
      h.string_eq, h.string?_eq, h.flag_eq]

/-- No kind has a field of the name that every node gives its kind or its location. -/
theorem lookup_fields_ne (h : (fields title).lookup key = some format) :
    key ≠ "type" ∧ key ≠ "loc" := by
  have htable : ∀ row ∈ declarations, row.2.lookup "type" = none ∧ row.2.lookup "loc" = none := by
    decide +kernel
  rw [fields] at h
  cases hrow : declarations.lookup title with
  | none => simp [hrow] at h
  | some row =>
    obtain ⟨l₁, l₂, hmem, -⟩ := List.lookup_eq_some_iff.1 hrow
    obtain ⟨htype, hloc⟩ := htable (title, row) (by rw [hmem]; simp)
    rw [hrow, Option.getD_some] at h
    constructor <;> rintro rfl
    · simp only [htype, reduceCtorEq] at h
    · simp only [hloc, reduceCtorEq] at h

theorem required_type (entries : List (String × Json)) :
    (readEntries entries).required "type" (title? ·.value) = selected? entries := by
  rw [Entries.required, unique?_readEntries, selected?]
  rcases Json.unique? "type" entries with _ | _ | _ <;> rfl

theorem ofJson?_congr (h : Alike (Format.node.declared entries) entries entries') :
    ofJson? (.object entries) = ofJson? (.object entries') := by
  have htype : (readEntries entries).required "type" (title? ·.value) =
      (readEntries entries').required "type" (title? ·.value) :=
    required_congr (h "type" .scalar rfl) fun _ _ hvw => hvw.title?_eq
  have hloc : (readEntries entries).optional "loc" (location? ·.value) =
      (readEntries entries').optional "loc" (location? ·.value) :=
    optional_congr (h "loc" .location rfl) fun _ _ hvw => hvw.read
  rw [ofJson?, ofJson?, Entries.assemble, Entries.assemble, ← htype, ← hloc, required_type]
  cases hselected : selected? entries with
  | none => rfl
  | some title =>
    have hkind : (readEntries entries).kind title = (readEntries entries').kind title := by
      refine kind_congr fun key format hkey => h key format ?_
      obtain ⟨htype, hloc⟩ := lookup_fields_ne hkey
      simpa [Format.declared, hselected, List.lookup_cons, beq_eq_false_iff_ne.2 htype,
        beq_eq_false_iff_ne.2 hloc] using hkey
    simp only [Option.bind_eq_bind, Option.bind_some, hkind]

/-! ### Records -/

/-- The pairs agree in both places. -/
def AgreesBoth (format : Format) (p q : Json × Json) : Prop :=
  Agrees format p.1 q.1 ∧ Agrees format p.2 q.2

theorem identifier?_congr {v w : Json}
    (h : Option.Rel (Agrees .scalar) (v.record1? "name") (w.record1? "name")) :
    identifier? v = identifier? w := by
  rw [identifier?, identifier?]
  generalize v.record1? "name" = name, w.record1? "name" = name' at h
  rcases h with hname | _
  · exact hname.string?_eq
  · rfl

theorem bind_congr_of_agreesBoth {β : Type} {read : Json → Option α} (build : α → α → β)
    (hread : ∀ v w, Agrees format v w → read v = read w) {found found' : Option (Json × Json)}
    (h : Option.Rel (AgreesBoth format) found found') :
    (found.bind fun p => do return build (← read p.1) (← read p.2)) =
      found'.bind fun p => do return build (← read p.1) (← read p.2) := by
  rcases h with ⟨hfirst, hsecond⟩ | _
  · rw [Option.bind_some, Option.bind_some, hread _ _ hfirst, hread _ _ hsecond]
  · rfl

theorem position?_congr {v w : Json}
    (h : Option.Rel (AgreesBoth .scalar) (v.record2? "line" "column")
      (w.record2? "line" "column")) : position? v = position? w :=
  bind_congr_of_agreesBoth Position.mk (fun _ _ hvw => hvw.natural?_eq) h

theorem location?_congr {v w : Json}
    (h : Option.Rel (AgreesBoth .position) (v.record2? "start" "end") (w.record2? "start" "end")) :
    location? v = location? w :=
  bind_congr_of_agreesBoth Location.mk (fun _ _ (hvw : Agrees .position _ _) => hvw.read) h

theorem rel_record1?_object (h : AlikeAt format key entries entries') :
    Option.Rel (Agrees format) ((Json.object entries).record1? key)
      ((Json.object entries').record1? key) := by
  rw [Json.record1?, Json.record1?]
  rw [AlikeAt] at h
  generalize Json.unique? key entries = found, Json.unique? key entries' = found' at h
  rcases h with hvw | _
  · exact hvw
  · exact .none

theorem rel_record2?_object {key' : String} (h : AlikeAt format key entries entries')
    (h' : AlikeAt format key' entries entries') :
    Option.Rel (AgreesBoth format) ((Json.object entries).record2? key key')
      ((Json.object entries').record2? key key') := by
  rw [Json.record2?, Json.record2?]
  rw [AlikeAt] at h
  generalize Json.unique? key entries = first, Json.unique? key entries' = first' at h
  rw [AlikeAt] at h'
  generalize Json.unique? key' entries = second, Json.unique? key' entries' = second' at h'
  rcases h with ⟨⟨hfirst⟩ | _⟩ | _
  · rcases h' with ⟨⟨hsecond⟩ | _⟩ | _
    · exact .some ⟨hfirst, hsecond⟩
    · exact .none
    · exact .none
  · rcases h' with ⟨⟨_⟩ | _⟩ | _ <;> exact .none
  · exact .none

theorem rel_record1?_array {items items' : List Json}
    (h : List.Forall₂ (Agrees format) items items') :
    Option.Rel (Agrees format) ((Json.array items).record1? key)
      ((Json.array items').record1? key) := by
  rcases h with _ | ⟨hfirst, _ | _⟩
  · exact .none
  · exact .some hfirst
  · exact .none

theorem rel_record2?_array {key' : String} {items items' : List Json}
    (h : List.Forall₂ (Agrees format) items items') :
    Option.Rel (AgreesBoth format) ((Json.array items).record2? key key')
      ((Json.array items').record2? key key') := by
  rcases h with _ | ⟨hfirst, _ | ⟨hsecond, _ | _⟩⟩
  · exact .none
  · exact .none
  · exact .some ⟨hfirst, hsecond⟩
  · exact .none

theorem allOfJson?_congr {items items' : List Json}
    (h : List.Forall₂ (Agrees .node) items items') : allOfJson? items = allOfJson? items' := by
  induction h with
  | nil => rfl
  | cons hhead _ ih =>
    have hnode : ofJson? _ = ofJson? _ := hhead.read
    rw [allOfJson?, allOfJson?, hnode, ih]

/-- Objects are told apart by their declared entries alone. -/
theorem agrees_object (h : Alike (format.declared entries) entries entries') :
    Agrees format (.object entries) (.object entries') := by
  refine ⟨rfl, ?_⟩
  cases format with
  | node => exact ofJson?_congr h
  | nodes => rfl
  | name => exact identifier?_congr (rel_record1?_object (h "name" .scalar rfl))
  | location =>
    exact location?_congr
      (rel_record2?_object (h "start" .position rfl) (h "end" .position rfl))
  | position =>
    exact position?_congr
      (rel_record2?_object (h "line" .scalar rfl) (h "column" .scalar rfl))
  | scalar => rfl

/-- Arrays are told apart by their items. -/
theorem agrees_array {items items' : List Json}
    (h : List.Forall₂ (Agrees format.ofItem) items items') :
    Agrees format (.array items) (.array items') := by
  refine ⟨rfl, ?_⟩
  cases format with
  | node => rfl
  | nodes => exact allOfJson?_congr h
  | name => exact identifier?_congr (rel_record1?_array h)
  | location => exact location?_congr (rel_record2?_array h)
  | position => exact position?_congr (rel_record2?_array h)
  | scalar => rfl

end Fields

/-! ### Rearranged values -/

theorem Rearranged.agrees {format : Format} {v w : Json} (h : Rearranged format v w) :
    Agrees format v w := by
  induction h with
  | refl format v => exact .refl format v
  | trans _ _ ih ih' => exact ih.trans ih'
  | permute format hperm => exact agrees_object fun key format _ => .of_eq (Json.unique?_perm hperm)
  | foreign v hforeign =>
    refine agrees_object fun key format hkey => .of_eq (Json.unique?_cons_of_ne ?_ v).symm
    rintro rfl
    simp [Format.ofEntry?, hkey] at hforeign
  | entry front back _ ih =>
    refine agrees_object fun key format hkey =>
      Json.rel_unique?_replace (.refl format) ?_ front back
    rintro rfl
    rwa [Format.ofEntry?, hkey] at ih
  | @item format v w front back _ ih =>
    have hsame (items : List Json) : List.Forall₂ (Agrees format.ofItem) items items :=
      List.forall₂_same.2 fun v _ => .refl format.ofItem v
    exact agrees_array (List.rel_append (hsame front) (.cons ih (hsame back)))

theorem entriesAreSound_eq_all (depth : Nat) (entries : List (String × Json)) :
    Json.entriesAreSound depth entries = entries.all fun entry => entry.2.isSound depth := by
  induction entries with
  | nil => rfl
  | cons entry entries ih => rw [Json.entriesAreSound, ih, List.all_cons]

theorem ofText?_eq {text : String} {v : Json} (hparse : Json.parse? text = some v)
    (hsound : v.isSound maxDepth = true) : ofText? text = ofJson? v := by
  rw [ofText?, hparse]
  cases v with
  | object entries =>
    have hall : (entries.all fun entry => entry.1 == "loc" || entry.2.isSound (maxDepth - 1)) =
        true := by
      change Json.entriesAreSound (maxDepth - 1) entries = true at hsound
      rw [entriesAreSound_eq_all, List.all_eq_true] at hsound
      exact List.all_eq_true.2 fun entry hentry => by simp [hsound entry hentry]
    exact if_pos hall
  | _ => rfl

/-- **Neither the order of entries nor foreign entries count.**  Rearranged values give the same
node, or none of them gives one; and so do texts, if nothing in them is beyond reading. -/
theorem rearranged_nodes_agree {v w : Json} (h : Rearranged .node v w) :
    ofJson? v = ofJson? w ∧
      ∀ s t, Json.parse? s = some v → Json.parse? t = some w →
        v.isSound maxDepth = true → w.isSound maxDepth = true → ofText? s = ofText? t := by
  have hread : ofJson? v = ofJson? w := h.agrees.read
  refine ⟨hread, fun s t hs ht hv hw => ?_⟩
  rw [ofText?_eq hs hv, ofText?_eq ht hw, hread]

/-- A `name` is foreign in a statement, as often as it stands there, and declared in an
identifier. -/
theorem rearranged_nodes_agree_return :
    let v := Json.object [("type", .string "ReturnStatement"),
      ("argument", .object [("type", .string "Identifier"), ("name", .string "x")])]
    let w := Json.object [("name", .null), ("name", .bool true),
      ("argument", .object [("name", .string "x"), ("type", .string "Identifier")]),
      ("type", .string "ReturnStatement")]
    Rearranged .node v w ∧
      ofJson? w = some ⟨.unknown, .returnStatement (some ⟨.unknown, .identifier "x"⟩)⟩ := by
  intro v w
  have hinner : Rearranged .node
      (.object [("type", .string "Identifier"), ("name", .string "x")])
      (.object [("name", .string "x"), ("type", .string "Identifier")]) :=
    .permute _ (.swap _ _ _)
  have h : Rearranged .node v w :=
    .trans (.entry [("type", .string "ReturnStatement")] [] hinner) <|
      .trans (.permute _ (.swap _ _ _)) <|
      .trans (.foreign (.bool true) (by decide +kernel)) (.foreign .null (by decide +kernel))
  refine ⟨h, ?_⟩
  rw [← (rearranged_nodes_agree h).1]
  rfl

end Node

end SigCheck
